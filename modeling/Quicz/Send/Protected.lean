import Quicz.Send.Poll

/-! Emission of protected short-header packets. A packet is built from the head of one
queue, checked against the pacer, the congestion window and the anti-amplification
budget, and committed. Sealing is not modelled: a built packet is known by its frames and
the length of its datagram. -/
namespace Quicz

open Chunks Proc

structure BuiltProtectedShortPacket where
  packetNumber : Nat
  datagramLen : Nat
  frames : Payload
  ackEliciting : Bool
  sentStreamFrame : Option PendingStreamFrame := none
  queuedStreamRemainder : Option PendingStreamFrame := none
  sentResetStreamFrame : Option ResetStreamFrame := none
  sentStopSendingFrame : Option StopSendingFrame := none
  clearAck : Bool := false
  consumePing : Bool := false
  consumeCrypto : Bool := false
  consumePathResponse : Bool := false
  consumePathChallenge : Bool := false
  emittedPath : Option UdpTuple := none
  consumeRetireConnectionId : Bool := false
  newConnectionIdIndex : Option Nat := none
  consumeNewToken : Bool := false
  consumeHandshakeDone : Bool := false
  consumeMaxFrame : Bool := false
  consumeBlockedFrame : Bool := false
  consumeResetStream : Bool := false
  consumeStopSending : Bool := false
  consumeStream : Bool := false
  closePacket : Bool := false

structure NextPacketNumber where
  value : Nat
  len : Nat

def PacketNumberSpaceState.nextNumber (s : PacketNumberSpaceState) : Except Error NextPacketNumber :=
  if s.nextPacketNumber > maxQuicVarint then .error .internal
  else
    match packetNumberEncodingLen s.nextPacketNumber s.largestAcknowledged with
    | none => .error .internal
    | some len => .ok ⟨s.nextPacketNumber, len⟩

/-- Short payloads are padded so that the header protection sample exists. -/
def minPayloadLen (packetNumberLen : Nat) : Nat := 4 - packetNumberLen

variable (c : Connection) (dcidLen : Nat) (ackToSend : Option AckFrame)

def Connection.protectedPathValidationPlaintextLen (dcidLen packetNumberLen plaintextLen : Nat) : Except Error Nat :=
  if c.maxTxDatagramSize < minInitialUdpDatagramLen then .ok plaintextLen
  else if !c.canSendToPeerAddress minInitialUdpDatagramLen then .ok plaintextLen
  else protectedShortPlaintextLenForMinDatagram dcidLen packetNumberLen plaintextLen
    minInitialUdpDatagramLen

def ackPayload : Payload :=
  (ackToSend.map fun ack => [Frame.ack ack none]).getD []

def ackPayloadLen : Except Error Nat :=
  match ackToSend with
  | some ack => ackFrameWireLen ack
  | none => .ok 0

def Connection.sealShort (number : NextPacketNumber) (plaintextLen : Nat) (frames : Payload)
    (ackEliciting clearAck : Bool) : Except Error BuiltProtectedShortPacket := do
  if plaintextLen > c.maxTxDatagramSize then throw .bufferTooSmall
  let datagramLen ← protectedShortDatagramWireLen dcidLen number.len plaintextLen
  if datagramLen > c.maxTxDatagramSize then throw .bufferTooSmall
  return { packetNumber := number.value, datagramLen, frames, ackEliciting, clearAck }

/-- The shared body of the builders of a queue's head frame behind an optional ACK. -/
def Connection.buildProtectedShort (frame : Frame) (frameLen : Except Error Nat) (pathValidation : Bool) :
    Except Error BuiltProtectedShortPacket := do
  if c.applicationPacketSpace.nextPacketNumber > maxQuicVarint then throw .internal
  let frameLen ← frameLen
  let ackLen ← ackPayloadLen ackToSend
  let encodedFrameLen ← addWireLen ackLen frameLen
  let number ← c.applicationPacketSpace.nextNumber
  let plaintextLen := max encodedFrameLen (minPayloadLen number.len)
  let plaintextLen ←
    if pathValidation then
      c.protectedPathValidationPlaintextLen dcidLen number.len plaintextLen
    else pure plaintextLen
  c.sealShort dcidLen number plaintextLen (ackPayload ackToSend ++ [frame]) true ackToSend.isSome

def Connection.buildProtectedShortPathResponsePacket (response : PendingPathResponse) :
    Except Error BuiltProtectedShortPacket := do
  let built ← c.buildProtectedShort dcidLen ackToSend (.pathResponse response.data)
    (.ok pathResponseFrameWireLen) true
  return { built with consumePathResponse := true, emittedPath := response.path }

def Connection.buildProtectedShortResetStreamPacket (reset : ResetStreamFrame) :
    Except Error BuiltProtectedShortPacket := do
  let built ← c.buildProtectedShort dcidLen ackToSend (.resetStream reset)
    (resetStreamFrameWireLen reset) false
  return { built with sentResetStreamFrame := some reset, consumeResetStream := true }

def Connection.buildProtectedShortStopSendingPacket (stop : StopSendingFrame) :
    Except Error BuiltProtectedShortPacket := do
  let built ← c.buildProtectedShort dcidLen ackToSend (.stopSending stop)
    (stopSendingFrameWireLen stop) false
  return { built with sentStopSendingFrame := some stop, consumeStopSending := true }

def Connection.buildProtectedShortRetireConnectionIdPacket (sequenceNumber : Nat) :
    Except Error BuiltProtectedShortPacket := do
  let built ← c.buildProtectedShort dcidLen ackToSend (.retireConnectionId sequenceNumber)
    (retireConnectionIdFrameWireLen sequenceNumber) false
  return { built with consumeRetireConnectionId := true }

def Connection.buildProtectedShortHandshakeDonePacket : Except Error BuiltProtectedShortPacket := do
  let built ← c.buildProtectedShort dcidLen ackToSend .handshakeDone
    (.ok handshakeDoneFrameWireLen) false
  return { built with consumeHandshakeDone := true }

def Connection.buildProtectedShortNewConnectionIdPacket (index : Nat) (id : LocalConnectionId) :
    Except Error BuiltProtectedShortPacket := do
  let built ← c.buildProtectedShort dcidLen ackToSend (.newConnectionId id.toFrame)
    (newConnectionIdFrameWireLen id.toFrame) false
  return { built with newConnectionIdIndex := some index }

def Connection.buildProtectedShortNewTokenPacket (token : Bytes) : Except Error BuiltProtectedShortPacket := do
  let built ← c.buildProtectedShort dcidLen ackToSend (.newToken token) (newTokenFrameWireLen token)
    false
  return { built with consumeNewToken := true }

def Connection.buildProtectedShortPathChallengePacket (challenge : PendingPathChallenge) :
    Except Error BuiltProtectedShortPacket := do
  let built ← c.buildProtectedShort dcidLen ackToSend (.pathChallenge challenge.data)
    (.ok pathChallengeFrameWireLen) true
  return { built with consumePathChallenge := true, emittedPath := challenge.path }

def Connection.buildProtectedShortMaxFramePacket (frame : PendingMaxFrame) :
    Except Error BuiltProtectedShortPacket := do
  let built ← c.buildProtectedShort dcidLen ackToSend frame.toFrame (maxFrameWireLen frame) false
  return { built with consumeMaxFrame := true }

def Connection.buildProtectedShortBlockedFramePacket (frame : PendingBlockedFrame) :
    Except Error BuiltProtectedShortPacket := do
  let built ← c.buildProtectedShort dcidLen ackToSend frame.toFrame (blockedFrameWireLen frame) false
  return { built with consumeBlockedFrame := true }

def Connection.buildProtectedShortCryptoPacket (pending : PendingCryptoFrame) :
    Except Error BuiltProtectedShortPacket := do
  let built ← c.buildProtectedShort dcidLen ackToSend (.crypto pending)
    (cryptoFrameWireLen pending.offset pending.data.length) false
  return { built with consumeCrypto := true }

/-- A packet with the ACK alone, or with a PING. -/
def Connection.buildProtectedShortControlPacket (encodedFrameLen : Nat) (ackToSend : Option AckFrame)
    (includePing : Bool) : Except Error BuiltProtectedShortPacket := do
  let number ← c.applicationPacketSpace.nextNumber
  let plaintextLen := max encodedFrameLen (minPayloadLen number.len)
  let frames := ackPayload ackToSend ++ (if includePing then [.ping] else [])
  let built ← c.sealShort dcidLen number plaintextLen frames includePing ackToSend.isSome
  return { built with consumePing := includePing }

def Connection.buildProtectedShortDatagramFramePacket (data : Bytes) : Except Error BuiltProtectedShortPacket := do
  let number ← c.applicationPacketSpace.nextNumber
  let ackLen ← ackPayloadLen ackToSend
  let frameLen ← datagramFrameWireLen data.length
  let encodedFrameLen ← addWireLen ackLen frameLen
  let plaintextLen := max encodedFrameLen (minPayloadLen number.len)
  let emptyDatagramLen ← protectedShortDatagramWireLen dcidLen number.len 0
  if emptyDatagramLen + plaintextLen > c.maxTxDatagramSize then throw .bufferTooSmall
  c.sealShort dcidLen number plaintextLen (ackPayload ackToSend ++ [.datagram data]) true
    ackToSend.isSome

/-- Without room for a STREAM frame the ACK goes out alone, if there is one. -/
def Connection.buildAckInstead (dcidLen ackLen : Nat) (ackToSend : Option AckFrame) :
    Except Error BuiltProtectedShortPacket :=
  match ackToSend with
  | some ack => c.buildProtectedShortControlPacket dcidLen ackLen (some ack) false
  | none => .error .bufferTooSmall

def Connection.buildProtectedShortStreamPacket (pending : PendingStreamFrame) :
    Except Error BuiltProtectedShortPacket := do
  let number ← c.applicationPacketSpace.nextNumber
  let emptyDatagramLen ← protectedShortDatagramWireLen dcidLen number.len 0
  if emptyDatagramLen > c.maxTxDatagramSize then throw .bufferTooSmall
  let maxPlaintextLen := c.maxTxDatagramSize - emptyDatagramLen
  let ackLen ← ackPayloadLen ackToSend
  if ackLen > maxPlaintextLen then c.buildAckInstead dcidLen ackLen ackToSend
  else
    let budget := maxPlaintextLen - ackLen
    if (← streamFrameWireLen pending.streamId pending.offset 0) > budget then
      c.buildAckInstead dcidLen ackLen ackToSend
    else
      let n ← maxStreamFrameDataLen pending.streamId pending.offset pending.data.length budget
      let streamLen ← streamFrameWireLen pending.streamId pending.offset n
      let encodedFrameLen ← addWireLen ackLen streamLen
      let plaintextLen := max encodedFrameLen (minPayloadLen number.len)
      let datagramLen ← protectedShortDatagramWireLen dcidLen number.len plaintextLen
      if datagramLen > c.maxTxDatagramSize then throw .bufferTooSmall
      return {
        packetNumber := number.value
        datagramLen
        frames := ackPayload ackToSend ++ [.stream (sentPart pending n)]
        ackEliciting := true
        sentStreamFrame := some (sentPart pending n)
        queuedStreamRemainder := queuedRemainder pending n
        clearAck := ackToSend.isSome
        consumeStream := true }

def Connection.buildProtectedShortClosePacket (close : PendingCloseFrame) :
    Except Error BuiltProtectedShortPacket := do
  if c.applicationPacketSpace.nextPacketNumber > maxQuicVarint then throw .internal
  let encodedFrameLen ← closeFrameWireLen close
  let number ← c.applicationPacketSpace.nextNumber
  let plaintextLen := max encodedFrameLen (minPayloadLen number.len)
  let built ← c.sealShort dcidLen number plaintextLen [close.toFrame] false false
  return { built with closePacket := true }

def buildHead {α : Type} (queue : List α) (build : α → Except Error BuiltProtectedShortPacket) :
    ConnM (Option BuiltProtectedShortPacket) :=
  match queue with
  | [] => throw .internal
  | head :: _ => do
    let built ← liftExcept (build head)
    pure (some built)

/- The DATAGRAM payload leaves its queue here, before the packet is admitted. -/
def buildNextDataPacket : ConnM (Option BuiltProtectedShortPacket) := do
  let c ← get
  if c.applicationPacketSpace.cryptoSendQueue ≠ [] then
    buildHead c.applicationPacketSpace.cryptoSendQueue
      (c.buildProtectedShortCryptoPacket dcidLen ackToSend)
  else if c.applicationPacketSpace.pendingPingCount ≠ 0 then
    let encodedLen ← liftExcept (do addWireLen (← ackPayloadLen ackToSend) pingFrameWireLen)
    let built ← liftExcept (c.buildProtectedShortControlPacket dcidLen encodedLen ackToSend true)
    pure (some built)
  else if c.pendingDatagrams ≠ [] then
    let built ← buildHead c.pendingDatagrams
      (c.buildProtectedShortDatagramFramePacket dcidLen ackToSend)
    modify fun c => { c with pendingDatagrams := c.pendingDatagrams.tail }
    pure built
  else
    modify Connection.dropResetClosedStreamFrames
    let c ← get
    if c.sendQueue ≠ [] then
      buildHead c.sendQueue (c.buildProtectedShortStreamPacket dcidLen ackToSend)
    else
      match ackToSend with
      | some ack =>
        let encodedLen ← liftExcept (ackFrameWireLen ack)
        let built ← liftExcept (c.buildProtectedShortControlPacket dcidLen encodedLen (some ack) false)
        pure (some built)
      | none => pure none

/- The queues in the order of `pollTx`. -/
def buildNextProtectedShortPacket : ConnM (Option BuiltProtectedShortPacket) := do
  failIf (← get).applicationPacketSpace.discarded .invalidPacket
  let ack := (← get).applicationPacketSpace.pendingAckFrame
  let c ← get
  if c.pendingPathResponses ≠ [] then
    buildHead c.pendingPathResponses (c.buildProtectedShortPathResponsePacket dcidLen ack)
  else if c.pendingResetStreams ≠ [] then
    buildHead c.pendingResetStreams (c.buildProtectedShortResetStreamPacket dcidLen ack)
  else
    modify Connection.dropObsoleteStopSendingFrames
    let c ← get
    if c.pendingStopSending ≠ [] then
      buildHead c.pendingStopSending (c.buildProtectedShortStopSendingPacket dcidLen ack)
    else if c.pendingRetireConnectionIds ≠ [] then
      buildHead c.pendingRetireConnectionIds (c.buildProtectedShortRetireConnectionIdPacket dcidLen ack)
    else if c.pendingHandshakeDone then
      let built ← liftExcept (c.buildProtectedShortHandshakeDonePacket dcidLen ack)
      pure (some built)
    else
      match c.nextUnsentLocalConnectionIdIndex with
      | some index =>
        buildHead (c.localConnectionIds.drop index)
          (c.buildProtectedShortNewConnectionIdPacket dcidLen ack index)
      | none =>
        if c.pendingNewTokens ≠ [] then
          buildHead c.pendingNewTokens (c.buildProtectedShortNewTokenPacket dcidLen ack)
        else if c.pendingPathChallenges ≠ [] then
          buildHead c.pendingPathChallenges (c.buildProtectedShortPathChallengePacket dcidLen ack)
        else
          modify Connection.dropObsoleteMaxFrames
          let c ← get
          if c.pendingMaxFrames ≠ [] then
            buildHead c.pendingMaxFrames (c.buildProtectedShortMaxFramePacket dcidLen ack)
          else
            modify Connection.dropObsoleteBlockedFrames
            let c ← get
            if c.pendingBlockedFrames ≠ [] then
              buildHead c.pendingBlockedFrames (c.buildProtectedShortBlockedFramePacket dcidLen ack)
            else buildNextDataPacket dcidLen ack

variable (built : BuiltProtectedShortPacket) (nowNanos : Int)

def BuiltProtectedShortPacket.emitted : EmittedPacket :=
  ⟨.application, some built.packetNumber, built.frames, built.datagramLen⟩

def BuiltProtectedShortPacket.sentPacket (cryptoFrame : Option PendingCryptoFrame) : SentPacket where
  packetNumber := built.packetNumber
  sentTimeNanos := nowNanos
  bytes := built.datagramLen
  streamFrame := built.sentStreamFrame
  cryptoFrame := cryptoFrame
  resetStreamFrame := built.sentResetStreamFrame
  stopSendingFrame := built.sentStopSendingFrame

def Connection.consumeControlQueues : Connection :=
  let tailIf {α : Type} (consumed : Bool) (queue : List α) : List α :=
    if consumed then queue.tail else queue
  let c := { c with
    pendingPathResponses := tailIf built.consumePathResponse c.pendingPathResponses
    pendingRetireConnectionIds := tailIf built.consumeRetireConnectionId c.pendingRetireConnectionIds
    pendingNewTokens := tailIf built.consumeNewToken c.pendingNewTokens
    pendingMaxFrames := tailIf built.consumeMaxFrame c.pendingMaxFrames
    pendingBlockedFrames := tailIf built.consumeBlockedFrame c.pendingBlockedFrames
    pendingResetStreams := tailIf built.consumeResetStream c.pendingResetStreams
    pendingStopSending := tailIf built.consumeStopSending c.pendingStopSending }
  let c := match built.newConnectionIdIndex with
    | some index => c.markConnectionIdSent index
    | none => c
  let c := if built.consumeHandshakeDone then c.markHandshakeDoneSent else c
  if built.consumePathChallenge then c.sendHeadPathChallenge nowNanos else c

def Connection.consumeQueues : Connection :=
  let c := c.consumeControlQueues built nowNanos
  if built.consumeStream then c.consumeStream built.queuedStreamRemainder else c

def PacketNumberSpaceState.commitShort (s : PacketNumberSpaceState)
    (built : BuiltProtectedShortPacket) (nowNanos : Int) : PacketNumberSpaceState :=
  let cryptoFrame := if built.consumeCrypto then s.cryptoSendQueue.head? else none
  { s with
    cryptoSendQueue := if built.consumeCrypto then s.cryptoSendQueue.tail else s.cryptoSendQueue
    sentPackets := if built.ackEliciting then s.sentPackets ++ [built.sentPacket nowNanos cryptoFrame]
      else s.sentPackets
    pendingPingCount := if built.consumePing then s.pendingPingCount - 1 else s.pendingPingCount
    pendingAckLargest := if built.clearAck then none else s.pendingAckLargest
    nextPacketNumber := built.packetNumber + 1 }

def Connection.commitBuiltProtectedShortPacket : Connection :=
  let c := (c.modifySpace .application fun s => s.commitShort built nowNanos).consumeQueues built nowNanos
  let c := if built.ackEliciting then
    c.recordAckElicitingSendInSpace .application built.datagramLen else c
  let c := if built.closePacket ∧ !c.closed then c.enterClosingState nowNanos else c
  (c.accountEmitted built.emitted).recordPacketActivity nowNanos

def pollProtectedShortCloseDatagram (dcidLen : Nat) : ConnM (Option Datagram) := do
  let c ← get
  match c.pendingClose with
  | none => throw .internal
  | some close =>
    let built ← liftExcept (c.buildProtectedShortClosePacket dcidLen close)
    failIf (built.datagramLen > c.maxTxDatagramSize) .bufferTooSmall
    if !c.canSendToPeerAddress built.datagramLen then pure none
    else
      set (c.commitBuiltProtectedShortPacket built nowNanos)
      pure (some ⟨[built.emitted]⟩)

/-- The pacer only holds back STREAM and CRYPTO data, and only once the round trip is known. -/
def Connection.pacerBlocks : Bool :=
  let space := c.applicationPacketSpace
  space.recoveryState.minRttNs.isSome && (!c.sendQueue.isEmpty || !space.cryptoSendQueue.isEmpty) &&
    !c.txPacer.canSend nowNanos c.maxTxDatagramSize space.recoveryState.congestionWindow
      space.recoveryState.smoothedRttNs

def Connection.paceSend (bytes : Nat) : Connection :=
  let recovery := c.applicationPacketSpace.recoveryState
  { c with txPacer :=
      c.txPacer.onPacketSent nowNanos bytes recovery.congestionWindow recovery.smoothedRttNs }

def pollProtectedShortDatagram (dcidLen : Nat) : ConnM (Option Datagram) := do
  expireState nowNanos
  if (← get).pendingClose.isSome then pollProtectedShortCloseDatagram nowNanos dcidLen
  else
    requireActive
    if (← get).pacerBlocks nowNanos then pure none
    else
      match ← buildNextProtectedShortPacket dcidLen with
      | none => pure none
      | some built =>
        let c ← get
        failIf (built.datagramLen > c.maxTxDatagramSize) .bufferTooSmall
        let admitted := if built.ackEliciting then
            c.ackElicitingSendAllowed .application built.datagramLen
          else c.canSendToPeerAddress built.datagramLen
        if !admitted then pure none
        else
          let committed := c.commitBuiltProtectedShortPacket built nowNanos
          set (if built.ackEliciting then committed.paceSend nowNanos built.datagramLen else committed)
          pure (some ⟨[built.emitted]⟩)

end Quicz
