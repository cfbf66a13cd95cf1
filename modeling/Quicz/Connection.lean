import Quicz.Lib.Keyed
import Quicz.Lib.Proc
import Quicz.KeyPhase
import Quicz.PacketSpace

/-! The connection record of connection.zig, the parts of connection_state.zig and
connection_config.zig it is built from, its initial state, and the small accessors the
receive and send paths share. Allocation never fails here, and usize is 64 bits wide, so
the casts between usize and u64 are identities. -/
namespace Quicz

open Chunks

abbrev Version := Nat

/-- The two addresses of a UDP path. The connection only compares paths. -/
abbrev UdpTuple := Nat

structure PreferredAddress where
  ipv4Address : Bytes
  ipv4Port : Nat
  ipv6Address : Bytes
  ipv6Port : Nat
  connectionId : Bytes
  statelessResetToken : Bytes
deriving DecidableEq, Repr

structure Config where
  maxDatagramSize : Nat := 1350
  maxCryptoBufferSize : Nat := 2 ^ 20
  initialRttNs : Nat := 333000000
  maxIdleTimeoutMs : Nat := 0
  ackDelayExponent : Nat := 3
  maxAckDelayNs : Nat := 25000000
  preferredAddress : Option PreferredAddress := none
  initialMaxData : Nat := 65536
  initialMaxStreamData : Nat := 65536
  receiveConnectionWindow : Option Nat := none
  receiveStreamWindow : Option Nat := none
  receiveStreamCountWindow : Option Nat := none
  initialMaxStreamsBidi : Nat := 64
  initialMaxStreamsUni : Nat := 64
  maxDatagramFrameSize : Nat := 0
  congestionAlgorithm : CongestionAlgorithm := .newReno
  ptoJitterPercentage : Nat := 0
  activeConnectionIdLimit : Nat := minActiveConnectionIdLimit
  chosenVersion : Version := 1
  availableVersions : List Version := [1]
  versionNegotiationSelectedVersion : Option Version := none
  maxStoredNewTokens : Nat := 4
  acceptZeroRtt : Bool := false
  enableResetPartialDelivery : Bool := false
  initialCongestionWindowPackets : Option Nat := some 32
  /-- Not a field of the code: what its floating-point controllers return in each space. -/
  control : PacketNumberSpace → FloatControl := fun _ => {}

abbrev PendingRecvStreamFrame := Chunk UInt8

structure SendStreamState where
  streamId : Nat
  nextOffset : Nat := 0
  maxData : Nat
  finSent : Bool := false
  finAcked : Bool := false
  dataAcked : Bool := false
  resetSent : Bool := false
  resetAcked : Bool := false
deriving DecidableEq, Repr

structure RecvStreamState where
  streamId : Nat
  maxData : Nat
  data : Bytes := []
  pending : List PendingRecvStreamFrame := []
  readOffset : Nat := 0
  finalSize : Option Nat := none
  resetErrorCode : Option Nat := none
  dataReadObserved : Bool := false
  resetReadObserved : Bool := false
  stopSendingSent : Bool := false
  streamCountCreditReleased : Bool := false
deriving DecidableEq, Repr

structure MetReset where
  stream : RecvStreamState
  frame : ResetStreamFrame
deriving DecidableEq, Repr

structure PeerStreamDataBlockedState where
  streamId : Nat
  maximumStreamData : Nat
deriving DecidableEq, Repr

structure PendingPathChallenge where
  data : Bytes
  transmissions : Nat := 0
  path : Option UdpTuple := none
  /-- Not a field of the code: which challenge this is, counted as they are queued. -/
  serial : Nat := 0
deriving DecidableEq, Repr

structure PendingPathResponse where
  data : Bytes
  path : Option UdpTuple := none
deriving DecidableEq, Repr

structure OutstandingPathChallenge where
  data : Bytes
  sentTimeNanos : Int
  transmissions : Nat
  path : Option UdpTuple := none
  /-- Not a field of the code: which challenge this is. -/
  serial : Nat := 0
deriving DecidableEq, Repr

inductive PathEvent
  | queued (serial : Nat) (data : Bytes) (path : Option UdpTuple)
  | sent (serial : Nat) (data : Bytes)
  | requeued (challenge : OutstandingPathChallenge)
  | validated (challenge : OutstandingPathChallenge) (response : Bytes) (receivedOn : Option UdpTuple)
  | failed (challenge : OutstandingPathChallenge)
deriving DecidableEq, Repr

structure InitialLimits where
  maxData : Nat
  maxStreamDataBidiLocal : Nat
  maxStreamDataBidiRemote : Nat
  maxStreamDataUni : Nat
  maxStreamsBidi : Nat
  maxStreamsUni : Nat
deriving DecidableEq, Repr

inductive PeerLimit
  | initial (limits : InitialLimits)
  | data (maximumData : Nat)
  | streamData (streamId maximumStreamData : Nat)
  | streamsBidi (maximumStreams : Nat)
  | streamsUni (maximumStreams : Nat)
deriving DecidableEq, Repr

structure ActiveConnectionId where
  sequenceNumber : Nat
  connectionId : Bytes
  statelessResetToken : Bytes
  retired : Bool := false
deriving DecidableEq, Repr

structure LocalConnectionId where
  sequenceNumber : Nat
  retirePriorTo : Nat
  connectionId : Bytes
  statelessResetToken : Bytes
  sent : Bool := false
  retired : Bool := false
deriving DecidableEq, Repr

inductive HandshakeState
  | initial | handshake | confirmed
deriving DecidableEq, Repr

abbrev Payload := List Frame

structure EmittedPacket where
  space : PacketNumberSpace
  packetNumber : Option Nat
  frames : Payload
  len : Nat
deriving DecidableEq, Repr

def EmittedPacket.ackEliciting (packet : EmittedPacket) : Bool := packet.frames.any frameIsAckEliciting

structure Datagram where
  packets : List EmittedPacket
deriving DecidableEq, Repr

def Datagram.len (datagram : Datagram) : Nat := (datagram.packets.map EmittedPacket.len).sum

inductive Event
  | emitted (packet : EmittedPacket)
  | recorded (space : PacketNumberSpace) (packetNumber bytes : Nat)
  | acknowledged (space : PacketNumberSpace) (packetNumbers : List Nat)
  | lost (space : PacketNumberSpace) (packetNumbers : List Nat)
  | cleared (space : PacketNumberSpace)
  | restarted
  | applied (space : PacketNumberSpace) (packetNumber : Nat)
  | processed (space : PacketNumberSpace) (packetNumber : Nat)
  | keysInstalled
  | keyUpdate (initiated : Bool)
  | opened (keys : OneRttKeys)
deriving DecidableEq, Repr

structure HeardFrame where
  frame : Frame
  state : ConnectionState
deriving DecidableEq, Repr

/-- What can fix a connection ID of the handshake: an Initial packet this side sent or processed, a
Retry it issued or processed, and an identifier of the peer the caller supplied. -/
inductive IdEvent
  | sentInitial (dcid : Bytes)
  | processedInitial (dcid scid : Bytes)
  | issuedRetry (originalDcid retryScid : Bytes)
  | processedRetry (originalDcid retryScid : Bytes)
  | boundPeer (scid : Bytes)
deriving DecidableEq, Repr

structure Connection where
  config : Config
  side : ConnectionSide
  peerAddressValidated : Bool
  peerAddressBytesReceived : Nat := 0
  peerAddressBytesSent : Nat := 0
  peerMaxIdleTimeoutMs : Nat := 0
  peerDisableActiveMigration : Bool := false
  peerStatelessResetToken : Option Bytes := none
  peerPreferredAddress : Option PreferredAddress := none
  peerVersionInformationChosenVersion : Option Version := none
  peerVersionInformationAvailableVersions : Option (List Version) := none
  lastPacketActivityNanos : Option Int := none
  nextStreamId : Nat
  nextUniStreamId : Nat
  initialPacketSpace : PacketNumberSpaceState
  handshakePacketSpace : PacketNumberSpaceState
  applicationPacketSpace : PacketNumberSpaceState
  pendingPathResponses : List PendingPathResponse := []
  pendingPathChallenges : List PendingPathChallenge := []
  outstandingPathChallenges : List OutstandingPathChallenge := []
  receivePathHint : Option UdpTuple := none
  failedPathValidations : Nat := 0
  activeConnectionIds : List ActiveConnectionId := []
  localConnectionIds : List LocalConnectionId := []
  nextLocalConnectionIdSequence : Nat := 0
  peerActiveConnectionIdLimit : Nat := minActiveConnectionIdLimit
  largestPeerRetirePriorTo : Nat := 0
  pendingRetireConnectionIds : List Nat := []
  storedNewTokens : List Bytes := []
  pendingNewTokens : List Bytes := []
  /-- The version of `config` at first; the only field of it that the code changes. -/
  chosenVersion : Version
  versionNegotiationSelectedVersion : Option Version
  localInitialSourceConnectionId : Option Bytes := none
  peerInitialSourceConnectionId : Option Bytes := none
  originalDestinationConnectionId : Option Bytes := none
  retrySourceConnectionId : Option Bytes := none
  retryToken : Option Bytes := none
  retryTokens : List Bytes := []
  pendingBlockedFrames : List PendingBlockedFrame := []
  pendingMaxFrames : List PendingMaxFrame := []
  peerMaxUdpPayloadSize : Nat
  peerMaxData : Nat
  peerInitialMaxStreamDataBidiLocal : Nat
  peerInitialMaxStreamDataBidiRemote : Nat
  peerInitialMaxStreamDataUni : Nat
  peerMaxStreamsBidi : Nat
  peerMaxStreamsUni : Nat
  peerAckDelayExponent : Nat := 3
  openedBidiStreams : Nat := 0
  openedUniStreams : Nat := 0
  sentStreamDataBytes : Nat := 0
  recvMaxData : Nat
  recvMaxStreamData : Nat
  recvMaxStreamsBidi : Nat
  recvMaxStreamsUni : Nat
  recvDataBytes : Nat := 0
  peerDataBlockedLimit : Option Nat := none
  peerStreamDataBlockedLimits : List PeerStreamDataBlockedState := []
  peerStreamsBlockedBidiLimit : Option Nat := none
  peerStreamsBlockedUniLimit : Option Nat := none
  antiDeadlockPtoStartNanos : Option Int := none
  sendQueue : List PendingStreamFrame := []
  txPacer : Pacer
  pendingDatagrams : List Bytes := []
  receivedDatagrams : List Bytes := []
  pendingResetStreams : List ResetStreamFrame := []
  pendingStopSending : List StopSendingFrame := []
  sendStreams : List SendStreamState := []
  recvStreams : List RecvStreamState := []
  localHandshakeKeys : Option TrafficSecret := none
  peerHandshakeKeys : Option TrafficSecret := none
  localZeroRttKeys : Option TrafficSecret := none
  peerZeroRttKeys : Option TrafficSecret := none
  peerZeroRttAccepted : Bool := false
  localOneRttKeyPhaseState : Option Aes128KeyPhaseState := none
  peerOneRttKeyPhaseState : Option Aes128KeyPhaseState := none
  localOneRttKeyUpdateAckThreshold : Option Nat := none
  handshakeState : HandshakeState := .initial
  handshakeConfirmed : Bool := false
  pendingHandshakeDone : Bool := false
  handshakeDoneSent : Bool := false
  peerClose : Option PendingCloseFrame := none
  pendingClose : Option PendingCloseFrame := none
  state : ConnectionState := .active
  closeDeadlineNanos : Option Int := none
  closed : Bool := false
  /-- Not a field of the code: the STREAM frames of every packet acknowledged so far. No
  function reads it. -/
  ackedStreamFrames : List PendingStreamFrame := []
  /-- Not a field of the code: the resets that took effect. No function reads it. -/
  metResets : List MetReset := []
  /-- Not a field of the code: what has happened so far, oldest first. No function reads it. -/
  history : List Event := []
  /-- Not a field of the code: how many path challenges were queued so far. -/
  challengesQueued : Nat := 0
  /-- Not a field of the code: what happened to the path challenges. No function reads it. -/
  challengeLog : List PathEvent := []
  /-- Not a field of the code: the limits the peer set so far. No function reads it. -/
  peerLimits : List PeerLimit := []
  /-- Not a field of the code: the frames whose handler was called. No function reads it. -/
  heard : List HeardFrame := []
  /-- Not a field of the code: what could fix a connection ID of the handshake. No function reads it. -/
  idLog : List IdEvent := []
  /-- Not a field of the code: the NEW_CONNECTION_ID frames that were accepted. No function reads it. -/
  suppliedIds : List NewConnectionIdFrame := []

/-- Code that runs on a connection: it may fail, and a failure keeps earlier changes. -/
abbrev ConnM := EStateM Error Connection

def liftExcept {α : Type} (x : Except Error α) : ConnM α :=
  match x with
  | .ok a => pure a
  | .error e => throw e

@[simp] theorem wp_liftExcept {α : Type} (x : Except Error α) {Q : α → Connection → Prop}
    {E : Error → Connection → Prop} {c : Connection} :
    Proc.wp (liftExcept x) Q E c ↔ (∀ a, x = .ok a → Q a c) ∧ (∀ e, x = .error e → E e c) := by
  cases x <;> simp [liftExcept]

end Quicz

open Quicz in
theorem Proc.RunsFrom.value {α β : Type} {T : Connection → Connection → Prop} [IsPreorder Connection T]
    {Q : β → Connection → Connection → Prop} {c : Connection} {x : Except Error α} {f : α → ConnM β}
    (next : ∀ a, x = .ok a → RunsFrom T Q c (f a)) : RunsFrom T Q c (liftExcept x >>= f) := by
  simp only [RunsFrom, wp_bind, wp_liftExcept]
  exact ⟨next, fun _ _ => refl_of T c⟩

namespace Quicz

def maxUdpPayloadSizeDefault : Nat := 65527

def isReservedVersion (version : Version) : Bool := version &&& 0x0f0f0f0f == 0x0a0a0a0a

variable (side : ConnectionSide) (config : Config)

def validateLocalVersionInformation : Bool :=
  config.chosenVersion != 0 && !isReservedVersion config.chosenVersion &&
    config.availableVersions.all (· != 0) &&
    (side == .server || config.availableVersions.contains config.chosenVersion) &&
    match config.versionNegotiationSelectedVersion with
    | none => true
    | some selected =>
      side == .client && selected != 0 && !isReservedVersion selected &&
        selected == config.chosenVersion && config.availableVersions.contains selected

/-- The checks on the configuration, in the order the code makes them. -/
def Config.check (side : ConnectionSide) : Except Error Unit := do
  if config.initialMaxStreamsBidi > maxStreamCount ∨ config.initialMaxStreamsUni > maxStreamCount then
    throw .invalidStream
  if config.activeConnectionIdLimit < minActiveConnectionIdLimit then throw .invalidPacket
  if config.maxDatagramSize > maxUdpPayloadSizeDefault then throw .invalidPacket
  if config.maxIdleTimeoutMs > maxQuicVarint then throw .invalidPacket
  if config.initialMaxData > maxQuicVarint ∨ config.initialMaxStreamData > maxQuicVarint then
    throw .invalidPacket
  if config.activeConnectionIdLimit > maxQuicVarint then throw .invalidPacket
  if config.ackDelayExponent > 20 then throw .invalidPacket
  if config.maxAckDelayNs / nsPerMs ≥ 2 ^ 14 then throw .invalidPacket
  if config.maxCryptoBufferSize > maxQuicVarint then throw .invalidPacket
  if config.receiveConnectionWindow.any (· > maxQuicVarint) then throw .invalidPacket
  if config.receiveStreamWindow.any (· > maxQuicVarint) then throw .invalidPacket
  if config.receiveStreamCountWindow.any (· > maxStreamCount) then throw .invalidStream
  if side = .client ∧ config.preferredAddress.isSome then throw .invalidPacket
  if !validateLocalVersionInformation side config then throw .invalidPacket

/-- Only the Application space uses the configured congestion controller and jitter. -/
def PacketNumberSpaceState.init (config : Config) (space : PacketNumberSpace) : PacketNumberSpaceState where
  recoveryState := Recovery.init config.maxDatagramSize config.initialRttNs config.maxAckDelayNs
    .newReno 0 (config.control space)

def applicationRecovery : Recovery :=
  let recovery := Recovery.init config.maxDatagramSize config.initialRttNs config.maxAckDelayNs
    config.congestionAlgorithm config.ptoJitterPercentage (config.control .application)
  match config.initialCongestionWindowPackets with
  | some packets => { recovery with congestionWindow := packets * config.maxDatagramSize }
  | none => recovery

def Connection.fresh : Connection where
  config := config
  side := side
  peerAddressValidated := side == .client
  nextStreamId := match side with | .client => 0 | .server => 1
  nextUniStreamId := match side with | .client => 2 | .server => 3
  initialPacketSpace := .init config .initial
  handshakePacketSpace := .init config .handshake
  applicationPacketSpace := { recoveryState := applicationRecovery config }
  chosenVersion := config.chosenVersion
  versionNegotiationSelectedVersion := config.versionNegotiationSelectedVersion
  peerMaxUdpPayloadSize := config.maxDatagramSize
  peerMaxData := config.initialMaxData
  peerInitialMaxStreamDataBidiLocal := config.initialMaxStreamData
  peerInitialMaxStreamDataBidiRemote := config.initialMaxStreamData
  peerInitialMaxStreamDataUni := config.initialMaxStreamData
  peerMaxStreamsBidi := config.initialMaxStreamsBidi
  peerMaxStreamsUni := config.initialMaxStreamsUni
  recvMaxData := config.initialMaxData
  recvMaxStreamData := config.initialMaxStreamData
  recvMaxStreamsBidi := config.initialMaxStreamsBidi
  recvMaxStreamsUni := config.initialMaxStreamsUni
  txPacer := Pacer.init config.maxDatagramSize

def Connection.init : Except Error Connection := do
  config.check side
  return Connection.fresh side config

namespace Connection

variable (c : Connection)

def note (event : Event) : Connection := { c with history := c.history ++ [event] }

def hear (frame : Frame) : Connection := { c with heard := c.heard ++ [⟨frame, c.state⟩] }

def isClosingOrClosed : Bool :=
  decide (c.state ≠ .active) || c.pendingClose.isSome || c.closed

def maxTxDatagramSize : Nat := min c.config.maxDatagramSize c.peerMaxUdpPayloadSize

def findSendStream (streamId : Nat) : Option SendStreamState :=
  Keyed.lookup SendStreamState.streamId streamId c.sendStreams

def findRecvStream (streamId : Nat) : Option RecvStreamState :=
  Keyed.lookup RecvStreamState.streamId streamId c.recvStreams

def putRecvStream (stream : RecvStreamState) : Connection :=
  { c with recvStreams := Keyed.adjust RecvStreamState.streamId stream.streamId (fun _ => stream) c.recvStreams }

def putSendStream (stream : SendStreamState) : Connection :=
  { c with sendStreams := Keyed.adjust SendStreamState.streamId stream.streamId (fun _ => stream) c.sendStreams }

def packetNumberSpace : PacketNumberSpace → PacketNumberSpaceState
  | .initial => c.initialPacketSpace
  | .handshake => c.handshakePacketSpace
  | .application => c.applicationPacketSpace

def modifySpace (space : PacketNumberSpace) (f : PacketNumberSpaceState → PacketNumberSpaceState) : Connection :=
  match space with
  | .initial => { c with initialPacketSpace := f c.initialPacketSpace }
  | .handshake => { c with handshakePacketSpace := f c.handshakePacketSpace }
  | .application => { c with applicationPacketSpace := f c.applicationPacketSpace }

end Connection

end Quicz
