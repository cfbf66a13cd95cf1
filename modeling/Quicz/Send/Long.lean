import Quicz.Send.Protected

/-! Emission of protected long-header packets: CRYPTO, PING and ACK packets of the Initial and
Handshake spaces, 0-RTT packets of the client's Application space, and their coalescing into
one datagram. -/
namespace Quicz

open Chunks Proc

variable (c : Connection)

structure BuiltProtectedLongPacket where
  space : PacketNumberSpace
  dcid : Bytes
  packetNumber : Nat
  datagramLen : Nat
  frames : Payload
  ackEliciting : Bool
  sentStreamFrame : Option PendingStreamFrame := none
  queuedStreamRemainder : Option PendingStreamFrame := none
  sentResetStreamFrame : Option ResetStreamFrame := none
  sentStopSendingFrame : Option StopSendingFrame := none
  clearAck : Bool := false
  consumeCrypto : Bool := false
  consumePing : Bool := false
  consumeResetStream : Bool := false
  consumeStopSending : Bool := false
  consumeStream : Bool := false
  closePacket : Bool := false
  localOriginalDestinationConnectionId : Option Bytes := none
  localInitialSourceConnectionId : Option Bytes := none

structure LongAddressing where
  dcid : Bytes
  scid : Bytes
  token : Bytes := []

def longPacketType : PacketNumberSpace → Except Error LongPacketType
  | .initial => .ok .initial
  | .handshake => .ok .handshake
  | .application => .error .invalidPacket

def validateInitialDestinationConnectionIdLength (dcid : Bytes) : Except Error Unit :=
  if dcid.length < minInitialDestinationConnectionIdLen ∨ dcid.length > maxConnectionIdLen then
    .error .invalidPacket
  else .ok ()

namespace Connection

variable (space : PacketNumberSpace) (address : LongAddressing)

def validateOutgoingInitialPacketFields (dcid token : Bytes) : Except Error Unit :=
  if space ≠ .initial then .ok ()
  else if c.side = .server then if token ≠ [] then .error .invalidPacket else .ok ()
  else
    match c.originalDestinationConnectionId with
    | none => validateInitialDestinationConnectionIdLength dcid
    | some originalDcid =>
      let expectedDcid :=
        c.peerInitialSourceConnectionId.getD (c.retrySourceConnectionId.getD originalDcid)
      if expectedDcid ≠ dcid then .error .invalidPacket else .ok ()

def minimumOutgoingInitialDatagramLen (ackEliciting : Bool) : Nat :=
  if space = .initial ∧ (c.side = .client ∨ ackEliciting) then minInitialUdpDatagramLen else 0

def recordedIds (built : BuiltProtectedLongPacket) : BuiltProtectedLongPacket :=
  { built with
    localOriginalDestinationConnectionId :=
      if c.side = .client ∧ built.space = .initial ∧ c.originalDestinationConnectionId.isNone then
        some address.dcid else none
    localInitialSourceConnectionId :=
      if built.space = .initial ∧ c.localInitialSourceConnectionId.isNone then
        some address.scid else none }

/-- A stored Retry token goes into every Initial packet without a token of its own. -/
def initialTokenForPacket (token : Bytes) : Bytes :=
  if space ≠ .initial ∨ token ≠ [] then token else c.retryToken.getD []

def longHeaderInSpace : Except Error LongHeader := do
  let packetType ← longPacketType space
  if space ≠ .initial ∧ address.token ≠ [] then throw .invalidPacket
  let token := c.initialTokenForPacket space address.token
  c.validateOutgoingInitialPacketFields space address.dcid token
  if (c.packetNumberSpace space).discarded then throw .invalidPacket
  return ⟨c.config.chosenVersion, packetType, address.dcid, address.scid, token⟩

def sealLong (header : LongHeader) (number : NextPacketNumber) (encodedFrameLen minDatagramLen : Nat)
    (frames : Payload) (ackEliciting : Bool) : Except Error BuiltProtectedLongPacket := do
  let plaintextLen ← protectedLongPlaintextLenForMinDatagram header number.len
    (max encodedFrameLen (minPayloadLen number.len)) minDatagramLen
  if plaintextLen > c.maxTxDatagramSize then throw .bufferTooSmall
  let datagramLen ← protectedLongDatagramWireLen header number.len plaintextLen
  if datagramLen > c.maxTxDatagramSize then throw .bufferTooSmall
  return c.recordedIds address
    { space, dcid := address.dcid, packetNumber := number.value, datagramLen, frames, ackEliciting }

variable (minDatagramLen : Nat)

def buildProtectedLongClosePacketInSpace : Except Error BuiltProtectedLongPacket := do
  let header ← c.longHeaderInSpace space address
  if (c.packetNumberSpace space).nextPacketNumber > maxQuicVarint then throw .internal
  match c.pendingClose with
  | none => throw .internal
  | some (.application _) => throw .invalidPacket
  | some (.connection close) =>
    let encodedFrameLen ← connectionCloseFrameWireLen close
    let number ← (c.packetNumberSpace space).nextNumber
    let built ← c.sealLong space address header number encodedFrameLen minDatagramLen
      [.connectionClose close] false
    return { built with closePacket := true }

def buildProtectedLongCryptoPacketInSpace : Except Error (Option BuiltProtectedLongPacket) := do
  let header ← c.longHeaderInSpace space address
  match (c.packetNumberSpace space).cryptoSendQueue with
  | [] => return none
  | pending :: _ =>
    if (c.packetNumberSpace space).nextPacketNumber > maxQuicVarint then throw .internal
    let encodedFrameLen ← cryptoFrameWireLen pending.offset pending.data.length
    let number ← (c.packetNumberSpace space).nextNumber
    let built ← c.sealLong space address header number encodedFrameLen minDatagramLen
      [.crypto pending] true
    return some { built with consumeCrypto := true }

def buildProtectedLongControlPacketInSpace (encodedFrameLen : Nat) (ackToSend : Option AckFrame)
    (includePing : Bool) (minDatagramLen : Nat) : Except Error BuiltProtectedLongPacket := do
  let header ← c.longHeaderInSpace space address
  let number ← (c.packetNumberSpace space).nextNumber
  let frames := ackPayload ackToSend ++ (if includePing then [.ping] else [])
  let built ← c.sealLong space address header number encodedFrameLen minDatagramLen frames includePing
  return { built with clearAck := ackToSend.isSome, consumePing := includePing }

def buildNextProtectedLongPacketInSpace : Except Error (Option BuiltProtectedLongPacket) := do
  let packetSpace := c.packetNumberSpace space
  if packetSpace.discarded then throw .invalidPacket
  if packetSpace.cryptoSendQueue ≠ [] then
    c.buildProtectedLongCryptoPacketInSpace space address minDatagramLen
  else
    let ackToSend := packetSpace.pendingAckFrame
    if packetSpace.pendingPingCount ≠ 0 then
      let encodedLen ← addWireLen (← ackPayloadLen ackToSend) pingFrameWireLen
      return some (← c.buildProtectedLongControlPacketInSpace space address encodedLen ackToSend true minDatagramLen)
    else
      match ackToSend with
      | some ack =>
        let encodedLen ← ackFrameWireLen ack
        return some (← c.buildProtectedLongControlPacketInSpace space address encodedLen (some ack)
          false minDatagramLen)
      | none => return none

end Connection

namespace Connection

variable (address : LongAddressing)

def zeroRttHeader : LongHeader :=
  ⟨c.config.chosenVersion, .zeroRtt, address.dcid, address.scid, []⟩

variable (number : NextPacketNumber)

def sealZeroRtt (frameLen : Nat) (frame : Frame) : Except Error BuiltProtectedLongPacket := do
  let datagramLen ← protectedLongDatagramWireLen (c.zeroRttHeader address) number.len
    (max frameLen (minPayloadLen number.len))
  if datagramLen > c.maxTxDatagramSize then throw .bufferTooSmall
  return { space := .application, dcid := address.dcid, packetNumber := number.value, datagramLen,
           frames := [frame], ackEliciting := true }

variable (pending : PendingStreamFrame)

/-- How much of a queued frame a 0-RTT packet takes; an empty frame is sent as it is. -/
def zeroRttStreamDataLen : Except Error Nat := do
  if pending.data = [] then return 0
  let wireLen (n : Nat) : Except Error Nat := do
    let frameLen ← streamFrameWireLen pending.streamId pending.offset n
    protectedLongDatagramWireLen (c.zeroRttHeader address) number.len
      (max frameLen (minPayloadLen number.len))
  let best ← searchDataLen wireLen c.maxTxDatagramSize (pending.data.length + 1) 1
    pending.data.length 0
  if best = 0 then throw .bufferTooSmall
  return best

def buildZeroRttResetStreamPacket (reset : ResetStreamFrame) : Except Error BuiltProtectedLongPacket := do
  let frameLen ← resetStreamFrameWireLen reset
  let number ← c.applicationPacketSpace.nextNumber
  let built ← c.sealZeroRtt address number frameLen (.resetStream reset)
  return { built with sentResetStreamFrame := some reset, consumeResetStream := true }

def buildZeroRttStopSendingPacket (stop : StopSendingFrame) : Except Error BuiltProtectedLongPacket := do
  let frameLen ← stopSendingFrameWireLen stop
  let number ← c.applicationPacketSpace.nextNumber
  let built ← c.sealZeroRtt address number frameLen (.stopSending stop)
  return { built with sentStopSendingFrame := some stop, consumeStopSending := true }

def buildZeroRttStreamPacket : Except Error BuiltProtectedLongPacket := do
  let _ ← streamFrameWireLen pending.streamId pending.offset pending.data.length
  let number ← c.applicationPacketSpace.nextNumber
  let n ← c.zeroRttStreamDataLen address number pending
  let frameLen ← streamFrameWireLen pending.streamId pending.offset n
  let built ← c.sealZeroRtt address number frameLen (.stream (sentPart pending n))
  return { built with
    sentStreamFrame := some (sentPart pending n)
    queuedStreamRemainder := queuedRemainder pending n
    consumeStream := true }

end Connection

def buildNextProtectedZeroRttPacket (address : LongAddressing) : ConnM (Option BuiltProtectedLongPacket) := do
  failIf ((← get).side ≠ .client) .invalidPacket
  failIf (← get).applicationPacketSpace.discarded .invalidPacket
  modify Connection.dropResetClosedStreamFrames
  let c ← get
  match c.pendingResetStreams with
  | reset :: _ => some <$> liftExcept (c.buildZeroRttResetStreamPacket address reset)
  | [] =>
    modify Connection.dropObsoleteStopSendingFrames
    let c ← get
    match c.pendingStopSending with
    | stop :: _ => some <$> liftExcept (c.buildZeroRttStopSendingPacket address stop)
    | [] =>
      match c.sendQueue with
      | pending :: _ => some <$> liftExcept (c.buildZeroRttStreamPacket address pending)
      | [] => pure none

variable (built : BuiltProtectedLongPacket)

def BuiltProtectedLongPacket.emitted : EmittedPacket :=
  ⟨built.space, some built.packetNumber, built.frames, built.datagramLen⟩

def BuiltProtectedLongPacket.sentPacket (nowNanos : Int) (cryptoFrame : Option PendingCryptoFrame) : SentPacket where
  packetNumber := built.packetNumber
  sentTimeNanos := nowNanos
  bytes := built.datagramLen
  streamFrame := built.sentStreamFrame
  cryptoFrame := cryptoFrame
  resetStreamFrame := built.sentResetStreamFrame
  stopSendingFrame := built.sentStopSendingFrame

def PacketNumberSpaceState.commitLong (s : PacketNumberSpaceState) (built : BuiltProtectedLongPacket)
    (nowNanos : Int) : PacketNumberSpaceState :=
  let cryptoFrame := if built.consumeCrypto then s.cryptoSendQueue.head? else none
  { s with
    cryptoSendQueue := if built.consumeCrypto then s.cryptoSendQueue.tail else s.cryptoSendQueue
    sentPackets := if built.ackEliciting then s.sentPackets ++ [built.sentPacket nowNanos cryptoFrame]
      else s.sentPackets
    pendingPingCount := if built.consumePing then s.pendingPingCount - 1 else s.pendingPingCount
    pendingAckLargest := if built.clearAck then none else s.pendingAckLargest
    nextPacketNumber := built.packetNumber + 1 }

/-- The queues and connection IDs a long packet changes outside its packet number space. -/
def Connection.consumeLongQueues (c : Connection) (built : BuiltProtectedLongPacket) : Connection :=
  let c := if built.consumeStream then c.consumeStream built.queuedStreamRemainder else c
  { c with
    pendingResetStreams :=
      if built.consumeResetStream then c.pendingResetStreams.tail else c.pendingResetStreams
    pendingStopSending :=
      if built.consumeStopSending then c.pendingStopSending.tail else c.pendingStopSending
    originalDestinationConnectionId :=
      c.originalDestinationConnectionId.or built.localOriginalDestinationConnectionId
    localInitialSourceConnectionId :=
      c.localInitialSourceConnectionId.or built.localInitialSourceConnectionId
    idLog := if built.space = .initial then c.idLog ++ [.sentInitial built.dcid] else c.idLog }

def Connection.commitBuiltProtectedLongPacket (c : Connection) (built : BuiltProtectedLongPacket)
    (nowNanos : Int) : Connection :=
  let c := (c.modifySpace built.space fun s => s.commitLong built nowNanos).consumeLongQueues built
  let c := if built.ackEliciting then c.recordAckElicitingSendInSpace built.space built.datagramLen
    else c
  let c := if built.closePacket ∧ !c.closed then c.enterClosingState nowNanos else c
  let c := (c.accountEmitted built.emitted).recordPacketActivity nowNanos
  (c.maybeDiscardInitialAfterHandshakePacketSent built.space).maybeDiscardHandshakeAfterConfirmedCryptoSent
    built.space

/-- Sends one built packet if congestion control and the peer's address admit it. -/
def commitAdmitted (built : BuiltProtectedLongPacket) (nowNanos : Int) : ConnM (Option Datagram) := do
  let c ← get
  failIf (built.datagramLen > c.maxTxDatagramSize) .bufferTooSmall
  if !c.canSendToPeerAddress built.datagramLen ||
      (built.ackEliciting && !c.canSendAckElicitingInSpace built.space built.datagramLen) then pure none
  else
    set (c.commitBuiltProtectedLongPacket built nowNanos)
    pure (some ⟨[built.emitted]⟩)

variable (nowNanos : Int)

def pollProtectedZeroRttDatagram (address : LongAddressing) : ConnM (Option Datagram) := do
  expireState nowNanos
  requireActive
  match ← buildNextProtectedZeroRttPacket address with
  | none => pure none
  | some built => commitAdmitted built nowNanos

def pollProtectedHandshakeDatagramWithInstalledKeys (dcid scid : Bytes) : ConnM (Option Datagram) := do
  expireState nowNanos
  failIf (← get).localHandshakeKeys.isNone .invalidPacket
  let c ← get
  if c.pendingClose.isSome then
    let built ← liftExcept (c.buildProtectedLongClosePacketInSpace .handshake ⟨dcid, scid, []⟩ 0)
    commitAdmitted built nowNanos
  else
    requireActive
    match ← liftExcept (c.buildNextProtectedLongPacketInSpace .handshake ⟨dcid, scid, []⟩ 0) with
    | none => pure none
    | some built => commitAdmitted built nowNanos

variable (space : PacketNumberSpace)

def pollProtectedLongCryptoDatagramInSpace (nowNanos : Int)
    (address : LongAddressing) : ConnM (Option Datagram) := do
  expireState nowNanos
  requireActive
  let c ← get
  let minDatagramLen := c.minimumOutgoingInitialDatagramLen space true
  match ← liftExcept (c.buildProtectedLongCryptoPacketInSpace space address minDatagramLen) with
  | none => pure none
  | some built => commitAdmitted built nowNanos

structure ProtectedLongDatagramKeys where
  initial : Bool := false
  zeroRtt : Bool := false
  handshake : Bool := false

structure LongPackets where
  initial : Option BuiltProtectedLongPacket := none
  zeroRtt : Option BuiltProtectedLongPacket := none
  handshake : Option BuiltProtectedLongPacket := none

def LongPackets.toList (packets : LongPackets) : List BuiltProtectedLongPacket :=
  packets.initial.toList ++ packets.zeroRtt.toList ++ packets.handshake.toList

def LongPackets.totalLen (packets : LongPackets) : Nat :=
  (packets.toList.map BuiltProtectedLongPacket.datagramLen).sum

def fitBeside (maxLen totalLen : Nat) (packet : Option BuiltProtectedLongPacket) : Option BuiltProtectedLongPacket :=
  packet.filter fun built => totalLen = 0 ∨ totalLen + built.datagramLen ≤ maxLen

def LongPackets.coalesce (packets : LongPackets) (maxLen : Nat) : LongPackets :=
  let zeroRtt := fitBeside maxLen ({ packets with zeroRtt := none, handshake := none } : LongPackets).totalLen
    packets.zeroRtt
  let handshake := fitBeside maxLen ({ packets with zeroRtt, handshake := none } : LongPackets).totalLen
    packets.handshake
  { packets with zeroRtt, handshake }

def PacketNumberSpaceState.hasLongPacket (s : PacketNumberSpaceState) : Bool :=
  s.cryptoSendQueue ≠ [] || s.pendingPingCount != 0 || s.pendingAckLargest.isSome

variable (address : LongAddressing) (keys : ProtectedLongDatagramKeys)

def buildLongClosePackets : Except Error LongPackets := do
  if keys.handshake then
    let built ← c.buildProtectedLongClosePacketInSpace .handshake { address with token := [] } 0
    return { handshake := some built }
  else if keys.initial then
    let built ← c.buildProtectedLongClosePacketInSpace .initial address 0
    return { initial := some built }
  else throw .invalidPacket

def Connection.buildLongPacketIfNeeded (address : LongAddressing)
    (hasKeys : Bool) : Except Error (Option BuiltProtectedLongPacket) :=
  if (c.packetNumberSpace space).hasLongPacket && hasKeys then
    c.buildNextProtectedLongPacketInSpace space address 0
  else .ok none

def buildZeroRttPacketIfNeeded (hasKeys : Bool) : ConnM (Option BuiltProtectedLongPacket) := do
  if !hasKeys then pure none
  else
    modify Connection.dropObsoleteStopSendingFrames
    let c ← get
    if c.pendingResetStreams ≠ [] ∨ c.pendingStopSending ≠ [] ∨ c.sendQueue ≠ [] then
      buildNextProtectedZeroRttPacket address
    else pure none

def buildLongPackets : ConnM LongPackets := do
  requireActive
  let initial ← liftExcept ((← get).buildLongPacketIfNeeded .initial address keys.initial)
  let zeroRtt ← buildZeroRttPacketIfNeeded address keys.zeroRtt
  let handshake ← liftExcept
    ((← get).buildLongPacketIfNeeded .handshake { address with token := [] } keys.handshake)
  pure { initial, zeroRtt, handshake }

def rebuildInitial (wasClose : Bool) (minDatagramLen : Nat) : Except Error (Option BuiltProtectedLongPacket) := do
  if wasClose then return some (← c.buildProtectedLongClosePacketInSpace .initial address minDatagramLen)
  else c.buildNextProtectedLongPacketInSpace .initial address minDatagramLen

/-- A datagram with an Initial packet is padded to the minimum, at the cost of the other
packets when the padded datagram grows too long. -/
def padInitial (packets : LongPackets) : Except Error LongPackets :=
  match packets.initial with
  | none => .ok packets
  | some built => do
    let required := c.minimumOutgoingInitialDatagramLen .initial built.ackEliciting
    if required ≠ 0 ∧ packets.totalLen < required then
      let target ← addWireLen built.datagramLen (required - packets.totalLen)
      let initial ← rebuildInitial c address built.closePacket target
      let padded := { packets with initial }
      if padded.totalLen > c.maxTxDatagramSize then
        let initial ← rebuildInitial c address built.closePacket required
        return { initial }
      else return padded
    else return packets

def buildLongDatagram : ConnM LongPackets := do
  let c ← get
  if c.pendingClose.isSome then liftExcept (buildLongClosePackets c address keys)
  else buildLongPackets address keys

def pollProtectedLongDatagram (address : LongAddressing)
    (keys : ProtectedLongDatagramKeys) : ConnM (Option Datagram) := do
  expireState nowNanos
  let built ← buildLongDatagram address keys
  let c ← get
  let packets ← liftExcept (padInitial c address (built.coalesce c.maxTxDatagramSize))
  if packets.totalLen = 0 then pure none
  else
    failIf (packets.totalLen > c.maxTxDatagramSize) .bufferTooSmall
    if !c.canSendToPeerAddress packets.totalLen ||
        packets.toList.any (fun built =>
          built.ackEliciting && !c.canSendAckElicitingInSpace built.space built.datagramLen) then
      pure none
    else
      set (packets.toList.foldl (fun c built => c.commitBuiltProtectedLongPacket built nowNanos) c)
      pure (some ⟨packets.toList.map BuiltProtectedLongPacket.emitted⟩)

end Quicz
