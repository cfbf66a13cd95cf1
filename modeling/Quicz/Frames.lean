import Quicz.Classify

/-! The dispatch of received payloads. The frames before a failing one keep their effect. A
caller that asks for it gets the connection closed with the transport error the classifier
finds. -/
namespace Quicz

open Chunks Proc

section Dispatch

variable (space : PacketNumberSpace)

def receiveFrame (nowNanos : Int) : Frame → ConnM Unit
  | .padding _ | .ping => pure ()
  | .ack ack ecnCounts => receiveAckFrame space nowNanos ack ecnCounts
  | .maxData maximumData => receiveMaxDataFrame maximumData
  | .maxStreamData streamId maximumStreamData => receiveMaxStreamDataFrame streamId maximumStreamData
  | .maxStreamsBidi maximumStreams => receiveMaxStreamsBidiFrame maximumStreams
  | .maxStreamsUni maximumStreams => receiveMaxStreamsUniFrame maximumStreams
  | .dataBlocked maximumData => receiveDataBlockedFrame maximumData
  | .streamDataBlocked streamId maximumStreamData =>
    receiveStreamDataBlockedFrame streamId maximumStreamData
  | .streamsBlockedBidi maximumStreams => receiveStreamsBlockedBidiFrame maximumStreams
  | .streamsBlockedUni maximumStreams => receiveStreamsBlockedUniFrame maximumStreams
  | .pathChallenge data => receivePathChallengeFrame data
  | .pathResponse data => receivePathResponseFrame data
  | .stopSending stop => receiveStopSendingFrame stop
  | .resetStream reset => receiveResetStreamFrame reset
  | .crypto crypto => receiveCryptoFrame space crypto
  | .stream frame => receiveStreamFrame frame
  | .newConnectionId frame => receiveNewConnectionIdFrame frame
  | .retireConnectionId sequenceNumber => receiveRetireConnectionIdFrame sequenceNumber
  | .newToken token => receiveNewTokenFrame token
  | .handshakeDone => receiveHandshakeDoneFrame
  | .connectionClose close => receiveConnectionCloseFrame nowNanos close
  | .applicationClose close => receiveApplicationCloseFrame nowNanos close
  | .datagram data => receiveDatagramFrame data

variable (packetType : FramePacketType)

def receiveFrames (nowNanos : Int) (frames : List Frame) : ConnM Unit :=
  frames.forM fun frame => do
    failIf (!frameAllowedInFramePacketType frame packetType) .invalidPacket
    modify fun c => c.hear frame
    receiveFrame space nowNanos frame

def finishFrames (nowNanos : Int) (payload : ReceivedPayload) (receivedPacketNumber : Option Nat) : ConnM Unit := do
  if payload.frames.any frameIsAckEliciting && !(← get).closed then
    queueAckForReceivedPacket space receivedPacketNumber
  modify fun c => c.markHandshakeSpaceUsed space
  drainPendingRecvStreams
  modify fun c =>
    (c.recordPacketActivity nowNanos).maybeDiscardInitialAfterHandshakePacketReceived space
  if payload.frames.contains .handshakeDone && !(← get).isClosingOrClosed then
    discardPacketNumberSpace .handshake

def processFramesInSpaceNoSnapshot
    (nowNanos : Int) (payload : ReceivedPayload) (receivedPacketNumber : Option Nat) : ConnM Unit := do
  if ← prepareInboundDatagramProcessing nowNanos then
    failIf (payload.len = 0 ∨ payload.len > (← get).config.maxDatagramSize) .invalidPacket
    failIf ((← get).packetNumberSpace space).discarded .invalidPacket
    receiveFrames space packetType nowNanos payload.frames
    failIf payload.malformed.isSome .invalidPacket
    finishFrames space nowNanos payload receivedPacketNumber

end Dispatch

def closeOn (close : CloseError) : ConnM Unit := do
  closeConnection (codeValue close.code) close.frameType (textBytes close.reasonPhrase)
  throw .invalidPacket

variable (packetType : FramePacketType)

/-- What a failed handler leads to: the classifier looks at the state the handlers left. -/
def closeOnFrameProcessingError (payload : ReceivedPayload) (err : Error) : ConnM Unit := do
  if err = .invalidPacket ∨ err = .invalidStream then
    match (← get).classifyFrameProcessingCloseError packetType payload.wire with
    | some close => closeOn close
    | none => throw err
  else throw err

def processFramesOrClose (space : PacketNumberSpace) (packetType : FramePacketType) (nowNanos : Int)
    (payload : ReceivedPayload) (receivedPacketNumber : Option Nat) : ConnM Unit :=
  match classifyFramePayloadCloseError packetType payload with
  | some close => closeOn close
  | none =>
    recover (processFramesInSpaceNoSnapshot space packetType nowNanos payload receivedPacketNumber)
      (closeOnFrameProcessingError packetType payload)

def processDatagramInSpaceWithPacketTypeMaybeClose (space : PacketNumberSpace)
    (packetType : FramePacketType) (nowNanos : Int) (payload : ReceivedPayload)
    (closeOnFramePayloadError : Bool) (receivedPacketNumber : Option Nat) : ConnM Unit :=
  if closeOnFramePayloadError then
    processFramesOrClose space packetType nowNanos payload receivedPacketNumber
  else processFramesInSpaceNoSnapshot space packetType nowNanos payload receivedPacketNumber

def processDatagramForPacketType (nowNanos : Int) (payload : ReceivedPayload) : ConnM Unit :=
  processFramesInSpaceNoSnapshot (packetNumberSpaceForFramePacketType packetType) packetType nowNanos
    payload none

def processDatagramForPacketTypeOrClose (nowNanos : Int)
    (payload : ReceivedPayload) : ConnM Unit := do
  let c ← get
  if c.isClosingOrClosed ∨ payload.len > c.config.maxDatagramSize then
    processDatagramForPacketType packetType nowNanos payload
  else
    processFramesOrClose (packetNumberSpaceForFramePacketType packetType) packetType nowNanos payload none

def defaultFramePacketTypeForSpace : PacketNumberSpace → FramePacketType
  | .initial => .initial
  | .handshake => .handshake
  | .application => .oneRtt

def processDatagramInSpace (space : PacketNumberSpace) (nowNanos : Int) (payload : ReceivedPayload) : ConnM Unit :=
  processFramesInSpaceNoSnapshot space (defaultFramePacketTypeForSpace space) nowNanos payload none

def processDatagramInSpaceOrClose (space : PacketNumberSpace) (nowNanos : Int)
    (payload : ReceivedPayload) : ConnM Unit :=
  processDatagramForPacketTypeOrClose (defaultFramePacketTypeForSpace space) nowNanos payload

structure OpenedPacket where
  authentic : Bool := true
  packetNumber : Nat
  plaintext : ReceivedPayload

structure OpenedLongPacket extends OpenedPacket where
  packetType : FramePacketType
  version : Version
  dcid : Bytes
  scid : Bytes
  token : Bytes

variable (nowNanos : Int) (udpDatagramLen : Nat) (opened : OpenedLongPacket)

def OpenedLongPacket.space : PacketNumberSpace :=
  packetNumberSpaceForFramePacketType opened.packetType

def validateReceivedUdpDatagramSize (len : Nat) : ConnM Unit := do
  failIf (len = 0 ∨ len > (← get).config.maxDatagramSize) .invalidPacket

/-- A packet number seen before ends the call. -/
def processDecodedProtectedShortDatagram (opened : OpenedPacket) (closeOnFramePayloadError : Bool) : ConnM Unit := do
  if !(← get).applicationPacketSpace.receivedPacketRanges.canRecord opened.packetNumber then pure ()
  else
    modify fun c => c.note (.applied .application opened.packetNumber)
    processDatagramInSpaceWithPacketTypeMaybeClose .application .oneRtt nowNanos opened.plaintext
      closeOnFramePayloadError (some opened.packetNumber)
    let _ ← recordReceivedPacketNumber .application opened.packetNumber
    modify fun c => c.note (.processed .application opened.packetNumber)
    modify fun c => if c.side = .server then c.discardZeroRttProtectionKeyState else c

def processProtectedShortDatagramWithFrameErrorPolicy (opened : OpenedPacket)
    (closeOnFramePayloadError : Bool) : ConnM Unit := do
  if ← prepareInboundDatagramProcessing nowNanos then
    validateReceivedUdpDatagramSize udpDatagramLen
    failIf (← get).applicationPacketSpace.discarded .invalidPacket
    failIf (!opened.authentic) .invalidPacket
    processDecodedProtectedShortDatagram nowNanos opened closeOnFramePayloadError

def processProtectedShortDatagram (opened : OpenedPacket) : ConnM Unit :=
  processProtectedShortDatagramWithFrameErrorPolicy nowNanos udpDatagramLen opened false

def processProtectedShortDatagramOrClose (opened : OpenedPacket) : ConnM Unit :=
  processProtectedShortDatagramWithFrameErrorPolicy nowNanos udpDatagramLen opened true

def Connection.recordPeerInitialIds (c before : Connection) (opened : OpenedLongPacket) : Connection :=
  if opened.space ≠ .initial then c
  else
    { c with
      originalDestinationConnectionId :=
        if before.side = .server ∧ before.originalDestinationConnectionId.isNone then
          c.originalDestinationConnectionId.or (some opened.dcid)
        else c.originalDestinationConnectionId
      peerInitialSourceConnectionId :=
        if before.peerInitialSourceConnectionId.isNone then some opened.scid
        else c.peerInitialSourceConnectionId
      idLog := c.idLog ++ [.processedInitial opened.dcid opened.scid] }

def Connection.checkInitialHeader (c : Connection) (opened : OpenedLongPacket) : Bool :=
  opened.space != .initial ||
    ((c.side == .client || c.originalDestinationConnectionId.isSome ||
        (decide (opened.dcid.length ≥ minInitialDestinationConnectionIdLen) &&
          decide (opened.dcid.length ≤ maxConnectionIdLen))) &&
      (c.side == .server || opened.token == []) &&
      c.peerInitialSourceConnectionId.all (· == opened.scid))

def processProtectedLongDatagramWithRoute (closeOnFramePayloadError : Bool) (opened : OpenedLongPacket) :
    ConnM Unit := do
  let c ← get
  let space := opened.space
  failIf (c.packetNumberSpace space).discarded .invalidPacket
  failIf (space = .initial ∧ c.side = .server ∧ udpDatagramLen < minInitialUdpDatagramLen)
    .invalidPacket
  failIf (!opened.authentic) .invalidPacket
  failIf (opened.version ≠ c.chosenVersion) .invalidPacket
  if !(c.packetNumberSpace space).receivedPacketRanges.canRecord opened.packetNumber then pure ()
  else
    failIf (!c.checkInitialHeader opened) .invalidPacket
    modify fun c => c.note (.applied space opened.packetNumber)
    processDatagramInSpaceWithPacketTypeMaybeClose space opened.packetType nowNanos opened.plaintext
      closeOnFramePayloadError (some opened.packetNumber)
    let _ ← recordReceivedPacketNumber space opened.packetNumber
    modify fun c => c.note (.processed space opened.packetNumber)
    modify fun t => t.recordPeerInitialIds c opened

/-- The validation pass over a coalesced datagram stops at the first packet it cannot route. -/
def Connection.routable (c : Connection) (opened : OpenedLongPacket) : Bool :=
  decide (opened.packetType ≠ .oneRtt) && decide (opened.version = c.chosenVersion) &&
    !(c.packetNumberSpace opened.space).discarded

variable (packets : List OpenedLongPacket)

def processProtectedLongDatagramWithFrameErrorPolicy (closeOnFramePayloadError : Bool) : ConnM Unit := do
  failIf (udpDatagramLen = 0) .invalidPacket
  if ← prepareInboundDatagramProcessing nowNanos then
    validateReceivedUdpDatagramSize udpDatagramLen
    let routed := packets.takeWhile (← get).routable
    failIf (routed = []) .invalidPacket
    routed.forM (processProtectedLongDatagramWithRoute nowNanos udpDatagramLen closeOnFramePayloadError)

def processProtectedLongDatagram : ConnM Unit :=
  processProtectedLongDatagramWithFrameErrorPolicy nowNanos udpDatagramLen packets false

def processProtectedLongDatagramOrClose : ConnM Unit :=
  processProtectedLongDatagramWithFrameErrorPolicy nowNanos udpDatagramLen packets true

def processProtectedLongDatagramInSpaceWithFrameErrorPolicy (space : PacketNumberSpace) (nowNanos : Int)
    (udpDatagramLen : Nat) (opened : OpenedLongPacket) (closeOnFramePayloadError : Bool) :
    ConnM Unit := do
  if ← prepareInboundDatagramProcessing nowNanos then
    validateReceivedUdpDatagramSize udpDatagramLen
    failIf (space = .application) .invalidPacket
    failIf (opened.packetType ≠ defaultFramePacketTypeForSpace space) .invalidPacket
    processProtectedLongDatagramWithRoute nowNanos udpDatagramLen closeOnFramePayloadError opened

def processProtectedLongDatagramInSpace (space : PacketNumberSpace) (nowNanos : Int)
    (udpDatagramLen : Nat) (opened : OpenedLongPacket) : ConnM Unit :=
  processProtectedLongDatagramInSpaceWithFrameErrorPolicy space nowNanos udpDatagramLen opened false

def processProtectedLongDatagramInSpaceOrClose (space : PacketNumberSpace) (nowNanos : Int)
    (udpDatagramLen : Nat) (opened : OpenedLongPacket) : ConnM Unit :=
  processProtectedLongDatagramInSpaceWithFrameErrorPolicy space nowNanos udpDatagramLen opened true

def processProtectedZeroRttDatagramWithFrameErrorPolicy (closeOnFramePayloadError : Bool) : ConnM Unit := do
  if ← prepareInboundDatagramProcessing nowNanos then
    failIf ((← get).side ≠ .server) .invalidPacket
    validateReceivedUdpDatagramSize udpDatagramLen
    failIf (opened.packetType ≠ .zeroRtt) .invalidPacket
    processProtectedLongDatagramWithRoute nowNanos udpDatagramLen closeOnFramePayloadError opened

def processProtectedZeroRttDatagram : ConnM Unit :=
  processProtectedZeroRttDatagramWithFrameErrorPolicy nowNanos udpDatagramLen opened false

def processProtectedZeroRttDatagramOrClose : ConnM Unit :=
  processProtectedZeroRttDatagramWithFrameErrorPolicy nowNanos udpDatagramLen opened true

structure ShortDatagram where
  packet : ShortPacketSeal
  opened : OpenedPacket
  len : Nat

/-- The local send keys follow the phase of the peer's packet. -/
def Connection.followPeerKeyPhase (c : Connection) (keyPhase : Option Bool) (nowNanos : Int) : Connection :=
  match c.localOneRttKeyPhaseState with
  | none => c
  | some state =>
    if some state.currentKeyPhase = keyPhase then c
    else
      { c.note (.keyUpdate false) with
        localOneRttKeyPhaseState :=
          some (c.schedulePreviousKeyDiscard state.initiateKeyUpdate (some nowNanos)) }

variable (state : Aes128KeyPhaseState) (datagram : ShortDatagram)

/-- What a packet of the next key generation changes: the state it was opened with, and
through it the local one. -/
def updateAfterReceiving (nowNanos : Int) (keyPhase : Option Bool) : ConnM Aes128KeyPhaseState := do
  match keyPhase.map state.updateAfterReceiving with
  | some (true, advanced) =>
    let scheduled := (← get).schedulePreviousKeyDiscard advanced (some nowNanos)
    modify fun c => c.followPeerKeyPhase keyPhase nowNanos
    pure scheduled
  | _ => pure state

/-- The key-phase state after the call. It is the caller's own or a copy of the installed one;
only the opening of packets with installed keys goes on record. -/
def processProtectedShortDatagramWithKeyPhaseStateAndFrameErrorPolicy (installed : Bool)
    (datagram : ShortDatagram) (closeOnFramePayloadError : Bool) : ConnM Aes128KeyPhaseState := do
  if ← prepareInboundDatagramProcessing nowNanos then
    validateReceivedUdpDatagramSize datagram.len
    failIf (← get).applicationPacketSpace.discarded .invalidPacket
    match unprotectShortPacketAes128WithKeyUpdate state datagram.packet with
    | .error .keyUpdateError =>
      recover (closeConnection (codeValue .keyUpdateError) 0
        (textBytes "packet protected with discarded key")) fun _ => pure ()
      throw .invalidPacket
    | .error .invalid => throw .invalidPacket
    | .ok (keys, peerInitiatedKeyUpdate) =>
      if installed then modify fun c => c.note (.opened keys)
      processDecodedProtectedShortDatagram nowNanos datagram.opened closeOnFramePayloadError
      if peerInitiatedKeyUpdate then updateAfterReceiving state nowNanos datagram.packet.keyPhase
      else pure state
  else pure state

def processProtectedShortDatagramWithKeyPhaseState : ConnM Aes128KeyPhaseState :=
  processProtectedShortDatagramWithKeyPhaseStateAndFrameErrorPolicy nowNanos state false datagram false

def processProtectedShortDatagramWithKeyPhaseStateOrClose : ConnM Aes128KeyPhaseState :=
  processProtectedShortDatagramWithKeyPhaseStateAndFrameErrorPolicy nowNanos state false datagram true

/-- The installed state is copied before the call and written back when it succeeds. -/
def processProtectedShortDatagramWithInstalledKeysAndFrameErrorPolicy (closeOnFramePayloadError : Bool) :
    ConnM Unit := do
  let state ← orThrow (← get).peerOneRttKeyPhaseState .invalidPacket
  let state ← processProtectedShortDatagramWithKeyPhaseStateAndFrameErrorPolicy nowNanos state true
    datagram closeOnFramePayloadError
  modify fun c => { c with peerOneRttKeyPhaseState := some state }

def processProtectedShortDatagramWithInstalledKeys : ConnM Unit :=
  processProtectedShortDatagramWithInstalledKeysAndFrameErrorPolicy nowNanos datagram false

def processProtectedShortDatagramWithInstalledKeysOrClose : ConnM Unit :=
  processProtectedShortDatagramWithInstalledKeysAndFrameErrorPolicy nowNanos datagram true

def processProtectedHandshakeDatagramWithInstalledKeys : ConnM Unit := do
  failIf (← get).peerHandshakeKeys.isNone .invalidPacket
  processProtectedLongDatagramInSpace .handshake nowNanos udpDatagramLen opened

def processProtectedHandshakeDatagramWithInstalledKeysOrClose : ConnM Unit := do
  failIf (← get).peerHandshakeKeys.isNone .invalidPacket
  processProtectedLongDatagramInSpaceOrClose .handshake nowNanos udpDatagramLen opened

def processProtectedZeroRttDatagramWithInstalledKeys : ConnM Unit := do
  let c ← get
  failIf (c.peerZeroRttKeys.isNone ∨ !c.peerZeroRttAccepted) .invalidPacket
  processProtectedZeroRttDatagram nowNanos udpDatagramLen opened

def processProtectedZeroRttDatagramWithInstalledKeysOrClose : ConnM Unit := do
  let c ← get
  failIf (c.peerZeroRttKeys.isNone ∨ !c.peerZeroRttAccepted) .invalidPacket
  processProtectedZeroRttDatagramOrClose nowNanos udpDatagramLen opened

end Quicz
