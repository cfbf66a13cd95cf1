import Quicz.Send.Streams

/-! Emission of unprotected payloads: `pollTx` and `pollTxInSpace`. Every queue has a poll
function of the same shape: the frame at the head is sent alone or behind a pending ACK,
the ACK goes out alone when both do not fit or are not admitted, and a packet that is
sent is recorded before the frame leaves its queue. The output buffer is represented by
its length and the payload by its frames and its length. -/
namespace Quicz

open Chunks Proc

variable (c : Connection)

namespace Connection

variable (streamId maximumStreamData : Nat)

def streamDataBlockedFrameIsObsolete : Bool :=
  match c.findSendStream streamId with
  | some stream => sendStreamClosed stream || decide (stream.maxData > maximumStreamData)
  | none => decide (c.initialPeerStreamDataLimit streamId > maximumStreamData)

def blockedFrameIsObsolete : PendingBlockedFrame → Bool
  | .data maximumData => decide (c.peerMaxData > maximumData)
  | .streamData streamId maximumStreamData =>
    c.streamDataBlockedFrameIsObsolete streamId maximumStreamData
  | .streamsBidi maximumStreams => decide (c.peerMaxStreamsBidi > maximumStreams)
  | .streamsUni maximumStreams => decide (c.peerMaxStreamsUni > maximumStreams)

def dropObsoleteBlockedFrames : Connection :=
  { c with pendingBlockedFrames := c.pendingBlockedFrames.filter (!c.blockedFrameIsObsolete ·) }

def maxStreamDataFrameIsObsolete : Bool :=
  match c.findRecvStream streamId with
  | none => decide (c.recvMaxStreamData > maximumStreamData)
  | some stream =>
    stream.finalSize.isSome || stream.resetErrorCode.isSome ||
      decide (stream.maxData > maximumStreamData)

def maxFrameIsObsolete : PendingMaxFrame → Bool
  | .data maximumData => decide (c.recvMaxData > maximumData)
  | .streamData streamId maximumStreamData =>
    c.maxStreamDataFrameIsObsolete streamId maximumStreamData
  | .streamsBidi maximumStreams => decide (c.recvMaxStreamsBidi > maximumStreams)
  | .streamsUni maximumStreams => decide (c.recvMaxStreamsUni > maximumStreams)

def dropObsoleteMaxFrames : Connection :=
  { c with pendingMaxFrames := c.pendingMaxFrames.filter (!c.maxFrameIsObsolete ·) }

def stopSendingFrameIsObsolete (stop : StopSendingFrame) : Bool :=
  match c.findRecvStream stop.streamId with
  | none => true
  | some stream =>
    stream.resetErrorCode.isSome ||
      stream.finalSize.any fun finalSize => decide (stream.data.length ≥ finalSize)

def dropObsoleteStopSendingFrames : Connection :=
  { c with pendingStopSending := c.pendingStopSending.filter (!c.stopSendingFrameIsObsolete ·) }

def streamIsReset (streamId : Nat) : Bool :=
  (c.findSendStream streamId).any SendStreamState.resetSent

def dropResetClosedStreamFrames : Connection :=
  { c with sendQueue := c.sendQueue.filter fun pending => !c.streamIsReset pending.streamId }

def unsentLocalConnectionId (id : LocalConnectionId) : Bool := !id.sent && !id.retired

def pendingNewConnectionIdCount : Nat :=
  (c.localConnectionIds.filter unsentLocalConnectionId).length

def nextUnsentLocalConnectionIdIndex : Option Nat :=
  c.localConnectionIds.findIdx? unsentLocalConnectionId

end Connection

structure OutgoingFrame where
  frame : Frame
  encodedLen : Except Error Nat
  attach : SentPacket → SentPacket := id
  consume : Int → Connection → Connection := fun _ c => c
  afterSend : Connection → Connection := id

def Connection.accountEmitted (c : Connection) (packet : EmittedPacket) : Connection :=
  (c.recordPeerAddressBytesSent packet.len).note (.emitted packet)

variable (space : PacketNumberSpace) (ack : AckFrame) (nowNanos : Int) (outLen : Nat)

def pollAckOnlyInSpace : ConnM (Option Datagram) := do
  let c ← get
  let encodedLen ← liftExcept (ackFrameWireLen ack)
  failIf (encodedLen > c.maxTxDatagramSize) .bufferTooSmall
  if !c.canSendToPeerAddress encodedLen then pure none
  else
    failIf (outLen < encodedLen) .bufferTooSmall
    let packet : EmittedPacket := ⟨space, none, [.ack ack none], encodedLen⟩
    modify fun c => ((((c.modifySpace space fun s => { s with pendingAckLargest := none })
      |>.accountEmitted packet)
      |>.recordPacketActivity nowNanos)
      |>.maybeDiscardInitialAfterHandshakePacketSent space)
    pure (some ⟨[packet]⟩)

def pollAckOnly : ConnM (Option Datagram) :=
  pollAckOnlyInSpace .application ack nowNanos outLen

def PacketNumberSpaceState.commitPacket (s : PacketNumberSpaceState) (attach : SentPacket → SentPacket)
    (nowNanos : Int) (bytes : Nat) (clearAck : Bool) : PacketNumberSpaceState :=
  { s with
    sentPackets := s.sentPackets ++ [attach { packetNumber := s.nextPacketNumber, sentTimeNanos := nowNanos, bytes }]
    pendingAckLargest := if clearAck then none else s.pendingAckLargest
    nextPacketNumber := s.nextPacketNumber + 1 }

def Connection.accountSend (c : Connection) (packet : EmittedPacket) (nowNanos : Int) : Connection :=
  ((c.recordAckElicitingSendInSpace packet.space packet.len).accountEmitted packet).recordPacketActivity
    nowNanos

variable (next : OutgoingFrame)

/-- The last part of every poll: the gates, and the packet that passes them. -/
def emitFrame (ack : Option AckFrame)
    (encodedLen : Nat) (nowNanos : Int) (outLen : Nat) : ConnM (Option Datagram) := do
  let c ← get
  if !c.canSendAckElicitingInSpace space encodedLen || !c.canSendToPeerAddress encodedLen then pure none
  else
    failIf (outLen < encodedLen) .bufferTooSmall
    failIf ((c.packetNumberSpace space).nextPacketNumber > maxQuicVarint) .internal
    let packet : EmittedPacket := ⟨space, some (c.packetNumberSpace space).nextPacketNumber,
      (ack.map fun ack => [.ack ack none]).getD [] ++ [next.frame], encodedLen⟩
    modify fun c => next.afterSend
      ((next.consume nowNanos
        (c.modifySpace space fun s => s.commitPacket next.attach nowNanos encodedLen ack.isSome)).accountSend
        packet nowNanos)
    pure (some ⟨[packet]⟩)

/-- The shared body of the poll functions of all queues but STREAM and DATAGRAM. -/
def pollFrameInSpace (ackToSend : Option AckFrame)
    (nowNanos : Int) (outLen : Nat) : ConnM (Option Datagram) := do
  let c ← get
  let frameLen ← liftExcept next.encodedLen
  failIf (frameLen > c.maxTxDatagramSize) .bufferTooSmall
  match ackToSend with
  | none => emitFrame space next none frameLen nowNanos outLen
  | some ack =>
    let ackLen ← liftExcept (ackFrameWireLen ack)
    let coalescedLen ← liftExcept (addWireLen ackLen frameLen)
    if coalescedLen ≤ c.maxTxDatagramSize ∧ outLen ≥ coalescedLen ∧
        c.canSendAckElicitingInSpace space coalescedLen ∧ c.canSendToPeerAddress coalescedLen then
      emitFrame space next (some ack) coalescedLen nowNanos outLen
    else if ackLen ≤ c.maxTxDatagramSize ∧ outLen ≥ ackLen then
      pollAckOnlyInSpace space ack nowNanos outLen
    else throw .bufferTooSmall

def pollHead {α : Type} (queue : List α) (outgoing : α → OutgoingFrame) (space : PacketNumberSpace)
    (ackToSend : Option AckFrame) (nowNanos : Int) (outLen : Nat) : ConnM (Option Datagram) :=
  match queue with
  | [] => pure none
  | head :: _ => pollFrameInSpace space (outgoing head) ackToSend nowNanos outLen

def pathResponseOutgoing (response : PendingPathResponse) : OutgoingFrame where
  frame := .pathResponse response.data
  encodedLen := .ok pathResponseFrameWireLen
  consume _ c := { c with pendingPathResponses := c.pendingPathResponses.tail }

variable (space : PacketNumberSpace) (ackToSend : Option AckFrame) (nowNanos : Int) (outLen : Nat)

def pollPathResponse : ConnM (Option Datagram) := do
  pollHead (← get).pendingPathResponses pathResponseOutgoing .application ackToSend nowNanos outLen

def resetStreamOutgoing (reset : ResetStreamFrame) : OutgoingFrame where
  frame := .resetStream reset
  encodedLen := resetStreamFrameWireLen reset
  attach packet := { packet with resetStreamFrame := some reset }
  consume _ c := { c with pendingResetStreams := c.pendingResetStreams.tail }

def pollResetStream : ConnM (Option Datagram) := do
  pollHead (← get).pendingResetStreams resetStreamOutgoing .application ackToSend nowNanos outLen

def stopSendingOutgoing (stop : StopSendingFrame) : OutgoingFrame where
  frame := .stopSending stop
  encodedLen := stopSendingFrameWireLen stop
  attach packet := { packet with stopSendingFrame := some stop }
  consume _ c := { c with pendingStopSending := c.pendingStopSending.tail }

def pollStopSending : ConnM (Option Datagram) := do
  pollHead (← get).pendingStopSending stopSendingOutgoing .application ackToSend nowNanos outLen

def retireConnectionIdOutgoing (sequenceNumber : Nat) : OutgoingFrame where
  frame := .retireConnectionId sequenceNumber
  encodedLen := retireConnectionIdFrameWireLen sequenceNumber
  consume _ c := { c with pendingRetireConnectionIds := c.pendingRetireConnectionIds.tail }

def pollRetireConnectionId : ConnM (Option Datagram) := do
  pollHead (← get).pendingRetireConnectionIds retireConnectionIdOutgoing .application ackToSend
    nowNanos outLen

def Connection.markHandshakeDoneSent : Connection :=
  { c with pendingHandshakeDone := false, handshakeDoneSent := true }

def handshakeDoneOutgoing : OutgoingFrame where
  frame := .handshakeDone
  encodedLen := .ok handshakeDoneFrameWireLen
  consume _ c := c.markHandshakeDoneSent

def pollHandshakeDone : ConnM (Option Datagram) :=
  pollFrameInSpace .application handshakeDoneOutgoing ackToSend nowNanos outLen

def LocalConnectionId.toFrame (id : LocalConnectionId) : NewConnectionIdFrame :=
  ⟨id.sequenceNumber, id.retirePriorTo, id.connectionId, id.statelessResetToken⟩

def Connection.markConnectionIdSent (index : Nat) : Connection :=
  { c with localConnectionIds := c.localConnectionIds.modify index fun id => { id with sent := true } }

def newConnectionIdOutgoing (index : Nat) (id : LocalConnectionId) : OutgoingFrame where
  frame := .newConnectionId id.toFrame
  encodedLen := newConnectionIdFrameWireLen id.toFrame
  consume _ c := c.markConnectionIdSent index

def pollNewConnectionId : ConnM (Option Datagram) := do
  let c ← get
  match c.nextUnsentLocalConnectionIdIndex with
  | none => pure none
  | some index =>
    match c.localConnectionIds[index]? with
    | none => pure none
    | some id =>
      pollFrameInSpace .application (newConnectionIdOutgoing index id) ackToSend nowNanos outLen

def newTokenOutgoing (token : Bytes) : OutgoingFrame where
  frame := .newToken token
  encodedLen := newTokenFrameWireLen token
  consume _ c := { c with pendingNewTokens := c.pendingNewTokens.tail }

def pollNewToken : ConnM (Option Datagram) := do
  pollHead (← get).pendingNewTokens newTokenOutgoing .application ackToSend nowNanos outLen

def maxPathChallengeTransmissions : Nat := 3

def Connection.sendHeadPathChallenge (nowNanos : Int) : Connection :=
  match c.pendingPathChallenges with
  | [] => c
  | challenge :: rest =>
    let transmissions :=
      if challenge.transmissions + 1 ≤ 255 then challenge.transmissions + 1
      else maxPathChallengeTransmissions
    { c with
      pendingPathChallenges := rest
      outstandingPathChallenges := c.outstandingPathChallenges ++
        [⟨challenge.data, nowNanos, transmissions, challenge.path, challenge.serial⟩]
      challengeLog := c.challengeLog ++ [.sent challenge.serial challenge.data] }

def pathChallengeOutgoing (challenge : PendingPathChallenge) : OutgoingFrame where
  frame := .pathChallenge challenge.data
  encodedLen := .ok pathChallengeFrameWireLen
  consume nowNanos c := c.sendHeadPathChallenge nowNanos

def pollPathChallenge : ConnM (Option Datagram) := do
  pollHead (← get).pendingPathChallenges pathChallengeOutgoing .application ackToSend nowNanos outLen

def PendingMaxFrame.toFrame : PendingMaxFrame → Frame
  | .data maximumData => .maxData maximumData
  | .streamData streamId maximumStreamData => .maxStreamData streamId maximumStreamData
  | .streamsBidi maximumStreams => .maxStreamsBidi maximumStreams
  | .streamsUni maximumStreams => .maxStreamsUni maximumStreams

def maxOutgoing (frame : PendingMaxFrame) : OutgoingFrame where
  frame := frame.toFrame
  encodedLen := maxFrameWireLen frame
  consume _ c := { c with pendingMaxFrames := c.pendingMaxFrames.tail }

def pollMaxFrame : ConnM (Option Datagram) := do
  pollHead (← get).pendingMaxFrames maxOutgoing .application ackToSend nowNanos outLen

def PendingBlockedFrame.toFrame : PendingBlockedFrame → Frame
  | .data maximumData => .dataBlocked maximumData
  | .streamData streamId maximumStreamData => .streamDataBlocked streamId maximumStreamData
  | .streamsBidi maximumStreams => .streamsBlockedBidi maximumStreams
  | .streamsUni maximumStreams => .streamsBlockedUni maximumStreams

def blockedOutgoing (frame : PendingBlockedFrame) : OutgoingFrame where
  frame := frame.toFrame
  encodedLen := blockedFrameWireLen frame
  consume _ c := { c with pendingBlockedFrames := c.pendingBlockedFrames.tail }

def pollBlockedFrame : ConnM (Option Datagram) := do
  pollHead (← get).pendingBlockedFrames blockedOutgoing .application ackToSend nowNanos outLen

def pingOutgoing : OutgoingFrame where
  frame := .ping
  encodedLen := .ok pingFrameWireLen
  consume _ c := c.modifySpace space fun s => { s with pendingPingCount := s.pendingPingCount - 1 }
  afterSend c := c.maybeDiscardInitialAfterHandshakePacketSent space

def pollPingFrameInSpace : ConnM (Option Datagram) := do
  failIf ((← get).packetNumberSpace space).discarded .invalidPacket
  pollFrameInSpace space (pingOutgoing space) ackToSend nowNanos outLen

def cryptoOutgoing (pending : PendingCryptoFrame) : OutgoingFrame where
  frame := .crypto pending
  encodedLen := cryptoFrameWireLen pending.offset pending.data.length
  attach packet := { packet with cryptoFrame := some pending }
  consume _ c := c.modifySpace space fun s => { s with cryptoSendQueue := s.cryptoSendQueue.tail }
  afterSend c :=
    (c.maybeDiscardInitialAfterHandshakePacketSent space).maybeDiscardHandshakeAfterConfirmedCryptoSent
      space

def pollCryptoFrame : ConnM (Option Datagram) := do
  failIf ((← get).packetNumberSpace space).discarded .invalidPacket
  pollHead ((← get).packetNumberSpace space).cryptoSendQueue (cryptoOutgoing space) space ackToSend
    nowNanos outLen

/-- The DATAGRAM payload leaves its queue even when it does not fit, and no packet is recorded. -/
def pollDatagramFrame : ConnM (Option Datagram) := do
  match (← get).pendingDatagrams with
  | [] => pure none
  | data :: rest =>
    modify fun c => { c with pendingDatagrams := rest }
    match datagramFrameWireLen data.length with
    | .error _ => throw .bufferTooSmall
    | .ok encodedLen =>
      failIf (encodedLen > outLen) .bufferTooSmall
      let packet : EmittedPacket := ⟨.application, none, [.datagram data], encodedLen⟩
      modify fun c => c.note (.emitted packet)
      pure (some ⟨[packet]⟩)

def PendingCloseFrame.toFrame : PendingCloseFrame → Frame
  | .connection close => .connectionClose close
  | .application close => .applicationClose close

def pollCloseFrame : ConnM (Option Datagram) := do
  let c ← get
  match c.pendingClose with
  | none => pure none
  | some close =>
    let encodedLen ← liftExcept (closeFrameWireLen close)
    failIf (encodedLen > c.maxTxDatagramSize) .bufferTooSmall
    if !c.canSendToPeerAddress encodedLen then pure none
    else
      failIf (outLen < encodedLen) .bufferTooSmall
      let packet : EmittedPacket := ⟨.application, none, [close.toFrame], encodedLen⟩
      modify fun c =>
        (((if c.closed then c else c.enterClosingState nowNanos).accountEmitted packet)
          |>.recordPacketActivity nowNanos)
      pure (some ⟨[packet]⟩)

variable (pending : PendingStreamFrame) (n : Nat)

/-- The first `n` bytes of a queued frame, as they are sent; only the last part carries the FIN. -/
def sentPart : PendingStreamFrame :=
  { pending with fin := pending.fin && n == pending.data.length, data := pending.data.take n }

def queuedRemainder : Option PendingStreamFrame :=
  if n < pending.data.length then
    some { pending with offset := pending.offset + n, data := pending.data.drop n }
  else none

def Connection.consumeStream (c : Connection) (remainder : Option PendingStreamFrame) : Connection :=
  { c with sendQueue := remainder.toList ++ c.sendQueue.tail }

def streamOutgoing : OutgoingFrame where
  frame := .stream (sentPart pending n)
  encodedLen := streamFrameWireLen pending.streamId pending.offset n
  attach packet := { packet with streamFrame := some (sentPart pending n) }
  consume _ c := c.consumeStream (queuedRemainder pending n)

/-- The size of the STREAM frame that fits beside the ACK, or the ACK alone when none does. -/
def pollStreamFrame (ackToSend : Option AckFrame) (nowNanos : Int) (outLen : Nat) : ConnM (Option Datagram) := do
  let c ← get
  let ackLen ← liftExcept (match ackToSend with
    | some ack => ackFrameWireLen ack
    | none => .ok 0)
  let budget := c.maxTxDatagramSize - ackLen
  match ackToSend with
  | some ack =>
    if ackLen > c.maxTxDatagramSize then pollAckOnly ack nowNanos outLen
    else
      let headerLen ← liftExcept (streamFrameWireLen pending.streamId pending.offset 0)
      if headerLen > budget then pollAckOnly ack nowNanos outLen
      else
        let n ← liftExcept
          (maxStreamFrameDataLen pending.streamId pending.offset pending.data.length budget)
        let streamLen ← liftExcept (streamFrameWireLen pending.streamId pending.offset n)
        let encodedLen ← liftExcept (addWireLen ackLen streamLen)
        if outLen ≥ encodedLen ∧ c.canSendAckElicitingInSpace .application encodedLen ∧
            c.canSendToPeerAddress encodedLen then
          emitFrame .application (streamOutgoing pending n) (some ack) encodedLen nowNanos outLen
        else pollAckOnly ack nowNanos outLen
  | none =>
    let n ← liftExcept (maxStreamFrameDataLen pending.streamId pending.offset pending.data.length budget)
    let encodedLen ← liftExcept (streamFrameWireLen pending.streamId pending.offset n)
    emitFrame .application (streamOutgoing pending n) none encodedLen nowNanos outLen

/-- A challenge without an answer is queued again, or counted as failed after the last try. -/
def Connection.expirePathChallenges (c : Connection) (nowNanos : Int) : Connection :=
  if c.outstandingPathChallenges = [] then c
  else
    let timeout := c.applicationPacketSpace.recoveryState.ptoNs
    let expired := c.outstandingPathChallenges.filter fun challenge =>
      decide (elapsed challenge.sentTimeNanos nowNanos ≥ timeout.1)
    let retried := expired.filter fun challenge =>
      decide (challenge.transmissions < maxPathChallengeTransmissions)
    { c with
      applicationPacketSpace := { c.applicationPacketSpace with recoveryState := timeout.2 }
      outstandingPathChallenges := c.outstandingPathChallenges.filter fun challenge =>
        decide (elapsed challenge.sentTimeNanos nowNanos < timeout.1)
      pendingPathChallenges := c.pendingPathChallenges ++ retried.map fun challenge =>
          ⟨challenge.data, challenge.transmissions, challenge.path, challenge.serial⟩
      challengeLog := c.challengeLog ++ expired.map fun challenge =>
        if challenge.transmissions < maxPathChallengeTransmissions then .requeued challenge
        else .failed challenge
      failedPathValidations :=
        saturatingAddU64 c.failedPathValidations (expired.length - retried.length) }

/-- The end of `pollTx`: STREAM data, and a pending ACK alone when there is none. -/
def pollTxStreams (ack : Option AckFrame) (nowNanos : Int) (outLen : Nat) : ConnM (Option Datagram) := do
  modify Connection.dropResetClosedStreamFrames
  match (← get).sendQueue, ack with
  | pending :: _, ack => pollStreamFrame pending ack nowNanos outLen
  | [], some ack => pollAckOnly ack nowNanos outLen
  | [], none => pure none

/- The queues in the order the code looks at them; the obsolete frames of a queue are dropped
when its turn comes. -/
def pollTx (nowNanos : Int) (outLen : Nat) : ConnM (Option Datagram) := do
  expireState nowNanos
  if (← get).pendingClose.isSome then pollCloseFrame nowNanos outLen
  else
    requireActive
    modify fun c => c.expirePathChallenges nowNanos
    let ack := (← get).applicationPacketSpace.pendingAckFrame
    if (← get).pendingPathResponses ≠ [] then pollPathResponse ack nowNanos outLen
    else if (← get).pendingResetStreams ≠ [] then pollResetStream ack nowNanos outLen
    else
      modify Connection.dropObsoleteStopSendingFrames
      if (← get).pendingStopSending ≠ [] then pollStopSending ack nowNanos outLen
      else if (← get).pendingRetireConnectionIds ≠ [] then pollRetireConnectionId ack nowNanos outLen
      else if (← get).pendingHandshakeDone then pollHandshakeDone ack nowNanos outLen
      else if (← get).pendingNewConnectionIdCount ≠ 0 then pollNewConnectionId ack nowNanos outLen
      else if (← get).pendingNewTokens ≠ [] then pollNewToken ack nowNanos outLen
      else if (← get).pendingPathChallenges ≠ [] then pollPathChallenge ack nowNanos outLen
      else
        modify Connection.dropObsoleteMaxFrames
        if (← get).pendingMaxFrames ≠ [] then pollMaxFrame ack nowNanos outLen
        else
          modify Connection.dropObsoleteBlockedFrames
          if (← get).pendingBlockedFrames ≠ [] then pollBlockedFrame ack nowNanos outLen
          else if (← get).applicationPacketSpace.cryptoSendQueue ≠ [] then
            pollCryptoFrame .application ack nowNanos outLen
          else if (← get).applicationPacketSpace.pendingPingCount ≠ 0 then
            pollPingFrameInSpace .application ack nowNanos outLen
          else if (← get).pendingDatagrams ≠ [] then pollDatagramFrame outLen
          else pollTxStreams ack nowNanos outLen

/-- When `pollTx` comes to the DATAGRAM payloads: there are some and every queue before them is
empty, once its obsolete frames are dropped. -/
def Connection.datagramIsNext (c : Connection) (nowNanos : Int) : Bool :=
  let c := (c.expireIdleState nowNanos).expireCloseState nowNanos
  c.pendingClose.isNone && !c.isClosingOrClosed &&
    let c := c.expirePathChallenges nowNanos
    c.pendingPathResponses.isEmpty && c.pendingResetStreams.isEmpty &&
      let c := c.dropObsoleteStopSendingFrames
      c.pendingStopSending.isEmpty && c.pendingRetireConnectionIds.isEmpty &&
        !c.pendingHandshakeDone && c.pendingNewConnectionIdCount == 0 &&
        c.pendingNewTokens.isEmpty && c.pendingPathChallenges.isEmpty &&
        let c := c.dropObsoleteMaxFrames
        c.pendingMaxFrames.isEmpty &&
          let c := c.dropObsoleteBlockedFrames
          c.pendingBlockedFrames.isEmpty && c.applicationPacketSpace.cryptoSendQueue.isEmpty &&
            c.applicationPacketSpace.pendingPingCount == 0 && !c.pendingDatagrams.isEmpty

def pollTxInSpace (space : PacketNumberSpace) (nowNanos : Int) (outLen : Nat) : ConnM (Option Datagram) := do
  if space = .application then pollTx nowNanos outLen
  else
    expireState nowNanos
    requireActive
    let packetSpace := (← get).packetNumberSpace space
    failIf packetSpace.discarded .invalidPacket
    if packetSpace.cryptoSendQueue ≠ [] then
      pollCryptoFrame space packetSpace.pendingAckFrame nowNanos outLen
    else if packetSpace.pendingPingCount ≠ 0 then
      pollPingFrameInSpace space packetSpace.pendingAckFrame nowNanos outLen
    else
      match packetSpace.pendingAckFrame with
      | some ack => pollAckOnlyInSpace space ack nowNanos outLen
      | none => pure none

end Quicz
