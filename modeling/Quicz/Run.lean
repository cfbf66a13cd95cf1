import Quicz.Serve.Frames
import Quicz.Serve.Polls

/-! Runs of a connection: the calls an application, an endpoint and the network make, in any
order and number. A call that fails leaves the state its failure left, and the run goes on. -/
namespace Quicz

open Chunks Proc Resend Connection

/-- The public calls. A receiving call has `close` set in the variant that closes the
connection on frame errors. -/
inductive Call
  -- streams, DATAGRAM frames and CRYPTO data of the application
  | openStream
  | openUniStream
  | sendOnStream (streamId : Nat) (data : Bytes) (fin : Bool)
  | recvOnStream (streamId bufLen : Nat)
  | resetStream (streamId applicationErrorCode : Nat)
  | stopSending (streamId applicationErrorCode : Nat)
  | sendDatagram (data : Bytes)
  | recvDatagram (bufLen : Nat)
  | sendCryptoInSpace (space : PacketNumberSpace) (data : Bytes)
  | recvCryptoInSpace (space : PacketNumberSpace) (bufLen : Nat)
  | queueDataBlockedFrame (maximumData : Nat)
  | queueMaxDataFrame (maximumData : Nat)
  -- paths, connection identifiers and tokens
  | sendPingInSpace (space : PacketNumberSpace)
  | sendPathChallenge (data : Bytes)
  | sendPathChallengeForPath (data : Bytes) (path : UdpTuple)
  | setReceivePathHint (path : Option UdpTuple)
  | issueConnectionId (connectionId statelessResetToken : Bytes) (retirePriorTo : Nat)
  | rollbackIssuedConnectionIds (originalLen originalNextSequence : Nat)
  | setLocalInitialSourceConnectionId (scid : Bytes)
  | setPeerInitialSourceConnectionId (scid : Bytes)
  | issueNewToken (token : Bytes)
  | issueRetryToken (token : Bytes)
  | validateRetryToken (token : Bytes)
  | validateAddressValidationToken (nowNanos : Int) (expectedKind : AddressValidationTokenKind)
      (token : Bytes) (authentic : Bool)
  | issueRetryDatagram (nowNanos : Int) (originalDcid clientScid retryScid token : Bytes)
  | processRetryDatagram (nowNanos : Int) (originalDcid : Bytes) (retry : RetryPacket)
  | resetInitialCryptoSendForRetry
  | processVersionNegotiationDatagram (nowNanos : Int) (originalDcid localScid : Bytes)
      (negotiation : Option VersionNegotiationPacket)
  | setChosenVersion (version : Version)
  | processStatelessResetDatagram (nowNanos : Int) (datagram : Bytes)
  -- keys and the handshake
  | installHandshakeTrafficSecrets (own peer : TrafficSecret)
  | installZeroRttTrafficSecrets (own peer : Option TrafficSecret)
  | acceptZeroRtt
  | rejectZeroRtt
  | discardZeroRttProtectionKeys
  | installOneRttTrafficSecrets (own peer : TrafficSecret)
  | initiateOneRttKeyUpdate
  | discardExpiredOneRttKeys (nowNanos : Int)
  | applyPeerTransportParameters (params : TransportParameters)
  | applyPeerTransportParametersWithCompatibleVersion (params : TransportParameters)
      (compatibilities : List VersionCompatibility)
  | applyPeerTransportParameterBytes (data : Bytes) (close : Bool)
  | applyPeerTransportParameterBytesWithCompatibleVersion (data : Bytes)
      (compatibilities : List VersionCompatibility) (close : Bool)
  | confirmHandshake
  | sendHandshakeDone
  | discardPacketNumberSpace (space : PacketNumberSpace)
  -- the end of the connection
  | closeConnection (errorCode frameType : Nat) (reasonPhrase : Bytes)
  | closeApplication (errorCode : Nat) (reasonPhrase : Bytes)
  | checkIdleTimeouts (nowNanos : Int)
  | checkCloseTimeouts (nowNanos : Int)
  | checkPathValidationTimeouts (nowNanos : Int)
  -- what the caller says it sent and received
  | recordPacketSentInSpace (space : PacketNumberSpace) (nowNanos : Int) (bytes : Nat)
  | recordEcnPacketSentInSpace (space : PacketNumberSpace) (nowNanos : Int) (bytes : Nat)
      (codepoint : EcnCodepoint)
  | recordPeerAddressBytesReceived (bytes : Nat)
  | recordPeerAddressDatagramReceived (nowNanos : Int) (bytes : Nat)
  | validatePeerAddress
  | receiveAckInSpace (space : PacketNumberSpace) (nowNanos : Int) (ack : AckFrame)
      (ecnCounts : Option EcnCounts)
  | queueAckForReceivedPacketInSpace (space : PacketNumberSpace)
  | checkLossDetectionTimeouts (nowNanos : Int)
  | checkPtoTimeouts (nowNanos : Int)
  | serviceLossDetectionTimer (nowNanos : Int)
  -- received payloads and packets
  | processDatagramForPacketType (packetType : FramePacketType) (nowNanos : Int)
      (payload : ReceivedPayload) (close : Bool)
  | processProtectedLongDatagram (nowNanos : Int) (udpDatagramLen : Nat)
      (packets : List OpenedLongPacket) (close : Bool)
  | processProtectedLongDatagramInSpace (space : PacketNumberSpace) (nowNanos : Int)
      (udpDatagramLen : Nat) (opened : OpenedLongPacket) (close : Bool)
  | processProtectedHandshakeDatagramWithInstalledKeys (nowNanos : Int) (udpDatagramLen : Nat)
      (opened : OpenedLongPacket) (close : Bool)
  | processProtectedZeroRttDatagram (nowNanos : Int) (udpDatagramLen : Nat)
      (opened : OpenedLongPacket) (close : Bool)
  | processProtectedZeroRttDatagramWithInstalledKeys (nowNanos : Int) (udpDatagramLen : Nat)
      (opened : OpenedLongPacket) (close : Bool)
  | processProtectedShortDatagram (nowNanos : Int) (udpDatagramLen : Nat) (opened : OpenedPacket)
      (close : Bool)
  | processProtectedShortDatagramWithKeyPhaseState (nowNanos : Int) (state : Aes128KeyPhaseState)
      (datagram : ShortDatagram) (close : Bool)
  | processProtectedShortDatagramWithInstalledKeys (nowNanos : Int) (datagram : ShortDatagram)
      (close : Bool)
  -- polls
  | pollTx (nowNanos : Int) (outLen : Nat)
  | pollTxInSpace (space : PacketNumberSpace) (nowNanos : Int) (outLen : Nat)
  | pollProtectedShortDatagram (nowNanos : Int) (dcidLen : Nat)
  | pollProtectedZeroRttDatagram (nowNanos : Int) (address : LongAddressing)
  | pollProtectedHandshakeDatagramWithInstalledKeys (nowNanos : Int) (dcid scid : Bytes)
  | pollProtectedLongCryptoDatagramInSpace (space : PacketNumberSpace) (nowNanos : Int)
      (address : LongAddressing)
  | pollProtectedLongDatagram (nowNanos : Int) (address : LongAddressing)
      (keys : ProtectedLongDatagramKeys)

def quietly {α : Type} (m : ConnM α) : ConnM (Option Datagram) := do
  let _ ← m
  pure none

def perform : Call → ConnM (Option Datagram)
  | .openStream => quietly openStream
  | .openUniStream => quietly openUniStream
  | .sendOnStream streamId data fin => quietly (sendOnStream streamId data fin)
  | .recvOnStream streamId bufLen => quietly (recvOnStream streamId bufLen)
  | .resetStream streamId code => quietly (resetStream streamId code)
  | .stopSending streamId code => quietly (stopSending streamId code)
  | .sendDatagram data => quietly (sendDatagram data)
  | .recvDatagram bufLen => quietly (recvDatagram bufLen)
  | .sendCryptoInSpace space data => quietly (sendCryptoInSpace space data)
  | .recvCryptoInSpace space bufLen => quietly (recvCryptoInSpace space bufLen)
  | .queueDataBlockedFrame maximum => quietly (queueDataBlockedFrame maximum)
  | .queueMaxDataFrame maximum => quietly (queueMaxDataFrame maximum)
  | .sendPingInSpace space => quietly (sendPingInSpace space)
  | .sendPathChallenge data => quietly (sendPathChallenge data)
  | .sendPathChallengeForPath data path => quietly (sendPathChallengeForPath data path)
  | .setReceivePathHint path => quietly (setReceivePathHint path)
  | .issueConnectionId id token retirePriorTo => quietly (issueConnectionId id token retirePriorTo)
  | .rollbackIssuedConnectionIds len sequence => quietly (rollbackIssuedConnectionIds len sequence)
  | .setLocalInitialSourceConnectionId scid => quietly (setLocalInitialSourceConnectionId scid)
  | .setPeerInitialSourceConnectionId scid => quietly (setPeerInitialSourceConnectionId scid)
  | .issueNewToken token => quietly (issueNewToken token)
  | .issueRetryToken token => quietly (issueRetryToken token)
  | .validateRetryToken token => quietly (validateRetryToken token)
  | .validateAddressValidationToken now kind token authentic =>
    quietly (validateAddressValidationToken now kind token authentic)
  | .issueRetryDatagram now originalDcid clientScid retryScid token =>
    quietly (issueRetryDatagram now originalDcid clientScid retryScid token)
  | .processRetryDatagram now originalDcid retry => quietly (processRetryDatagram now originalDcid retry)
  | .resetInitialCryptoSendForRetry => quietly resetInitialCryptoSendForRetry
  | .processVersionNegotiationDatagram now originalDcid localScid negotiation =>
    quietly (processVersionNegotiationDatagram now originalDcid localScid negotiation)
  | .setChosenVersion version => quietly (setChosenVersion version)
  | .processStatelessResetDatagram now datagram => quietly (processStatelessResetDatagram now datagram)
  | .installHandshakeTrafficSecrets own peer => quietly (installHandshakeTrafficSecrets own peer)
  | .installZeroRttTrafficSecrets own peer => quietly (installZeroRttTrafficSecrets own peer)
  | .acceptZeroRtt => quietly acceptZeroRtt
  | .rejectZeroRtt => quietly rejectZeroRtt
  | .discardZeroRttProtectionKeys => quietly discardZeroRttProtectionKeys
  | .installOneRttTrafficSecrets own peer => quietly (installOneRttTrafficSecrets own peer)
  | .initiateOneRttKeyUpdate => quietly initiateOneRttKeyUpdate
  | .discardExpiredOneRttKeys now => quietly (discardExpiredOneRttKeys now)
  | .applyPeerTransportParameters params => quietly (applyPeerTransportParameters params)
  | .applyPeerTransportParametersWithCompatibleVersion params compatibilities =>
    quietly (applyPeerTransportParametersWithCompatibleVersion params compatibilities)
  | .applyPeerTransportParameterBytes data close =>
    quietly (if close then applyPeerTransportParameterBytesOrClose data
      else applyPeerTransportParameterBytes data)
  | .applyPeerTransportParameterBytesWithCompatibleVersion data compatibilities close =>
    quietly (if close then
        applyPeerTransportParameterBytesWithCompatibleVersionOrClose data compatibilities
      else applyPeerTransportParameterBytesWithCompatibleVersion data compatibilities)
  | .confirmHandshake => quietly confirmHandshake
  | .sendHandshakeDone => quietly sendHandshakeDone
  | .discardPacketNumberSpace space => quietly (discardPacketNumberSpace space)
  | .closeConnection code frameType reason => quietly (closeConnection code frameType reason)
  | .closeApplication code reason => quietly (closeApplication code reason)
  | .checkIdleTimeouts now => quietly (checkIdleTimeouts now)
  | .checkCloseTimeouts now => quietly (checkCloseTimeouts now)
  | .checkPathValidationTimeouts now => quietly (checkPathValidationTimeouts now)
  | .recordPacketSentInSpace space now bytes => quietly (recordPacketSentInSpace space now bytes)
  | .recordEcnPacketSentInSpace space now bytes codepoint =>
    quietly (recordEcnPacketSentInSpace space now bytes codepoint)
  | .recordPeerAddressBytesReceived bytes => quietly (recordPeerAddressBytesReceived bytes)
  | .recordPeerAddressDatagramReceived now bytes => quietly (recordPeerAddressDatagramReceived now bytes)
  | .validatePeerAddress => quietly validatePeerAddress
  | .receiveAckInSpace space now ack counts => quietly (receiveAckInSpace space now ack counts)
  | .queueAckForReceivedPacketInSpace space => quietly (queueAckForReceivedPacketInSpace space)
  | .checkLossDetectionTimeouts now => quietly (checkLossDetectionTimeouts now)
  | .checkPtoTimeouts now => quietly (checkPtoTimeouts now)
  | .serviceLossDetectionTimer now => quietly (serviceLossDetectionTimer now)
  | .processDatagramForPacketType packetType now payload close =>
    quietly (if close then processDatagramForPacketTypeOrClose packetType now payload
      else processDatagramForPacketType packetType now payload)
  | .processProtectedLongDatagram now len packets close =>
    quietly (processProtectedLongDatagramWithFrameErrorPolicy now len packets close)
  | .processProtectedLongDatagramInSpace space now len opened close =>
    quietly (processProtectedLongDatagramInSpaceWithFrameErrorPolicy space now len opened close)
  | .processProtectedHandshakeDatagramWithInstalledKeys now len opened close =>
    quietly (if close then processProtectedHandshakeDatagramWithInstalledKeysOrClose now len opened
      else processProtectedHandshakeDatagramWithInstalledKeys now len opened)
  | .processProtectedZeroRttDatagram now len opened close =>
    quietly (processProtectedZeroRttDatagramWithFrameErrorPolicy now len opened close)
  | .processProtectedZeroRttDatagramWithInstalledKeys now len opened close =>
    quietly (if close then processProtectedZeroRttDatagramWithInstalledKeysOrClose now len opened
      else processProtectedZeroRttDatagramWithInstalledKeys now len opened)
  | .processProtectedShortDatagram now len opened close =>
    quietly (processProtectedShortDatagramWithFrameErrorPolicy now len opened close)
  | .processProtectedShortDatagramWithKeyPhaseState now state datagram close =>
    quietly (processProtectedShortDatagramWithKeyPhaseStateAndFrameErrorPolicy now state false datagram close)
  | .processProtectedShortDatagramWithInstalledKeys now datagram close =>
    quietly (processProtectedShortDatagramWithInstalledKeysAndFrameErrorPolicy now datagram close)
  | .pollTx now outLen => pollTx now outLen
  | .pollTxInSpace space now outLen => pollTxInSpace space now outLen
  | .pollProtectedShortDatagram now dcidLen => pollProtectedShortDatagram now dcidLen
  | .pollProtectedZeroRttDatagram now address => pollProtectedZeroRttDatagram now address
  | .pollProtectedHandshakeDatagramWithInstalledKeys now dcid scid =>
    pollProtectedHandshakeDatagramWithInstalledKeys now dcid scid
  | .pollProtectedLongCryptoDatagramInSpace space now address =>
    pollProtectedLongCryptoDatagramInSpace space now address
  | .pollProtectedLongDatagram now address keys => pollProtectedLongDatagram now address keys

namespace Call

def next (call : Call) (c : Connection) : Connection := after (perform call) c

def returned (call : Call) (c : Connection) : Option Datagram :=
  match perform call c with
  | .ok datagram _ => datagram
  | .error _ _ => none

def time : Call → Option Int
  | validateAddressValidationToken now _ _ _ | issueRetryDatagram now _ _ _ _
  | processRetryDatagram now _ _ | processVersionNegotiationDatagram now _ _ _
  | processStatelessResetDatagram now _ | discardExpiredOneRttKeys now | checkIdleTimeouts now
  | checkCloseTimeouts now | checkPathValidationTimeouts now | recordPacketSentInSpace _ now _
  | recordEcnPacketSentInSpace _ now _ _ | recordPeerAddressDatagramReceived now _
  | receiveAckInSpace _ now _ _ | checkLossDetectionTimeouts now | checkPtoTimeouts now
  | serviceLossDetectionTimer now | processDatagramForPacketType _ now _ _
  | processProtectedLongDatagram now _ _ _ | processProtectedLongDatagramInSpace _ now _ _ _
  | processProtectedHandshakeDatagramWithInstalledKeys now _ _ _
  | processProtectedZeroRttDatagram now _ _ _
  | processProtectedZeroRttDatagramWithInstalledKeys now _ _ _
  | processProtectedShortDatagram now _ _ _ | processProtectedShortDatagramWithKeyPhaseState now _ _ _
  | processProtectedShortDatagramWithInstalledKeys now _ _ | pollTx now _ | pollTxInSpace _ now _
  | pollProtectedShortDatagram now _ | pollProtectedZeroRttDatagram now _
  | pollProtectedHandshakeDatagramWithInstalledKeys now _ _
  | pollProtectedLongCryptoDatagramInSpace _ now _ | pollProtectedLongDatagram now _ _ => some now
  | _ => none

variable (c : Connection)

/-- A DATAGRAM frame is what an unprotected poll would hand out. -/
def skipsBooks : Call → Bool
  | pollTx now _ => c.datagramIsNext now
  | pollTxInSpace .application now _ => c.datagramIsNext now
  | _ => false

/-- Coalesced packets that could take the bytes in flight past what the counter holds. -/
def crowds : Call → Bool
  | pollProtectedLongDatagram _ _ _ => maxU64 < c.totalBytesInFlight + c.maxTxDatagramSize
  | _ => false

def installsKeys : Call → Bool
  | installOneRttTrafficSecrets _ _ => true
  | _ => false

/-- A short packet comes in for installed keys whose predecessors are past their time. -/
def usesExpired : Call → Bool
  | processProtectedShortDatagramWithInstalledKeys now _ _ =>
    c.peerOneRttKeyPhaseState.any (·.previousExpired now)
  | _ => false

def opensPackets : Call → Bool
  | processProtectedLongDatagram _ _ _ _ | processProtectedLongDatagramInSpace _ _ _ _ _
  | processProtectedHandshakeDatagramWithInstalledKeys _ _ _ _ | processProtectedZeroRttDatagram _ _ _ _
  | processProtectedZeroRttDatagramWithInstalledKeys _ _ _ _ | processProtectedShortDatagram _ _ _ _
  | processProtectedShortDatagramWithKeyPhaseState _ _ _ _
  | processProtectedShortDatagramWithInstalledKeys _ _ _ => true
  | _ => false

def usesInstalledKeys : Call → Bool
  | processProtectedShortDatagramWithInstalledKeys _ _ _ => true
  | _ => false

def payloads : Call → List ReceivedPayload
  | processDatagramForPacketType _ _ payload _ => [payload]
  | processProtectedLongDatagram _ _ packets _ => packets.map (·.plaintext)
  | processProtectedLongDatagramInSpace _ _ _ opened _
  | processProtectedHandshakeDatagramWithInstalledKeys _ _ opened _
  | processProtectedZeroRttDatagram _ _ opened _
  | processProtectedZeroRttDatagramWithInstalledKeys _ _ opened _ => [opened.plaintext]
  | processProtectedShortDatagram _ _ opened _ => [opened.plaintext]
  | processProtectedShortDatagramWithKeyPhaseState _ _ datagram _
  | processProtectedShortDatagramWithInstalledKeys _ datagram _ => [datagram.opened.plaintext]
  | _ => []

def StoredBy (rule : RecvRule) : Call → Prop
  | processDatagramForPacketType _ _ payload _ => payload.StoredBy rule
  | processProtectedLongDatagram _ _ packets _ => ∀ opened ∈ packets, opened.toOpenedPacket.StoredBy rule
  | processProtectedLongDatagramInSpace _ _ _ opened _
  | processProtectedHandshakeDatagramWithInstalledKeys _ _ opened _
  | processProtectedZeroRttDatagram _ _ opened _
  | processProtectedZeroRttDatagramWithInstalledKeys _ _ opened _ => opened.toOpenedPacket.StoredBy rule
  | processProtectedShortDatagram _ _ opened _ => opened.StoredBy rule
  | processProtectedShortDatagramWithKeyPhaseState _ _ datagram _
  | processProtectedShortDatagramWithInstalledKeys _ datagram _ => datagram.opened.plaintext.StoredBy rule
  | _ => True

def readsFrom : Call → Option Nat
  | recvOnStream streamId _ => some streamId
  | _ => none

structure Meets (rule : LedgerRule) (c : Connection) (call : Call) : Prop where
  booked : rule.unaccounted ∨ call.skipsBooks c = false
  room : rule.crowded ∨ call.crowds c = false
  secrets : rule.installs ∨ call.installsKeys = false
  clock : ∀ now, call.time = some now → rule.clock now
  fresh : rule.rewrites ∨ call.usesExpired c = false
  applied : rule.applies ∨ call.opensPackets = false
  opened : rule.opens ∨ call.usesInstalledKeys = false
  stored : call.StoredBy rule.recv
  read : ∀ streamId, call.readsFrom = some streamId → rule.recv.reads streamId

def opensStream : Call → Bool
  | openStream | openUniStream => true
  | _ => false

def writesStream : Call → Bool
  | sendOnStream _ _ _ => true
  | _ => false

def admits : Call → Bool
  | validateAddressValidationToken _ _ _ _ | issueRetryDatagram _ _ _ _ _ | processRetryDatagram _ _ _
  | processVersionNegotiationDatagram _ _ _ _ => true
  | _ => false

def appliesParameters : Call → Bool
  | applyPeerTransportParameters _ | applyPeerTransportParametersWithCompatibleVersion _ _
  | applyPeerTransportParameterBytes _ _ | applyPeerTransportParameterBytesWithCompatibleVersion _ _ _ => true
  | _ => false

def timesChallenges : Call → Bool
  | checkPathValidationTimeouts _ | pollTx _ _ | pollTxInSpace _ _ _ => true
  | _ => false

def setsPath : Call → Bool
  | setReceivePathHint _ => true
  | _ => false

structure Heeds (rule : UpkeepRule) (call : Call) : Prop where
  takes : ∀ payload ∈ call.payloads, payload.Taken rule
  clock : ∀ now, call.time = some now → rule.clock now
  admits : rule.admits ∨ call.admits = false
  tunes : rule.tunes ∨ call.appliesParameters = false
  waits : rule.waits ∨ call.timesChallenges = false
  arrives : rule.arrives ∨ call.setsPath = false
  opens : rule.opens ∨ call.opensStream = false
  writes : rule.writes ∨ call.writesStream = false
  identifies : rule.identifies

end Call

variable {b : LedgerRule} {u : UpkeepRule} {c : Connection}

structure Hands (b : LedgerRule) (packets : List EmittedPacket) (c t : Connection) : Prop where
  evolves : Evolves b c t
  handed : ∃ earlier, t.ledger.emitted = c.ledger.emitted ++ earlier ++ packets

theorem Evolves.hands {t : Connection} (h : Evolves b c t) : Hands b [] c t := by
  obtain ⟨packets, grown⟩ := h.ledger.emitted
  exact ⟨h, packets, by rw [grown, List.append_nil]⟩

theorem HandsOut.hands {packets : List EmittedPacket} {t : Connection} (h : HandsOut b packets c t) :
    Hands b packets c t := ⟨h.sends.evolves, [], by rw [h.emitted, List.append_nil]⟩

/-- A call moves everything along its machines; what it hands out goes on record. -/
def Acts (b : LedgerRule) (u : UpkeepRule) (c : Connection) (m : ConnM (Option Datagram)) : Prop :=
  wp m (fun datagram t => Hands b (handedOut datagram) c t ∧ Tends LifeSteps u c t)
    (fun _ t => Serves LifeSteps b u c t) c

theorem acts_of_polls {m : ConnM (Option Datagram)} (polls : PollsFrom b u c m) : Acts b u c m :=
  wp_mono polls (fun _ _ h => ⟨h.handsOut.hands, h.tends⟩) fun _ _ h => ⟨h.prepares.sends.evolves, h.tends⟩

theorem acts_of_wp {α : Type} {m : ConnM α}
    (h : wp m (fun _ t => Serves LifeSteps b u c t) (fun _ t => Serves LifeSteps b u c t) c) :
    Acts b u c (quietly m) := by
  rw [Acts, quietly, wp_bind]
  exact wp_mono h (fun _ _ k => ⟨k.evolves.hands, k.tends⟩)

theorem queueMaxFrame_serves (frame : PendingMaxFrame) : Steps (Serves LifeSteps b u) (queueMaxFrame frame) :=
  .modify fun _ => .of_rest (by split <;> rfl) (by split <;> rfl)

variable {call : Call}

theorem Call.acts (turns : b.turns) (hears : ∀ space n, b.hears space n) (meets : call.Meets b c)
    (heeds : call.Heeds u) : Acts b u c (perform call) := by
  obtain ⟨booked, room, secrets, clock, fresh, applied, installed, stored, read⟩ := meets
  obtain ⟨takes, ticks, admits, tunes, waits, arrives, opens, writes, may⟩ := heeds
  have told : ∀ now, call.time = some now → Told b u now := fun now at_ => ⟨clock now at_, ticks now at_⟩
  cases call with try refine acts_of_wp ?_
  | openStream => exact openStream_serves (opens.resolve_right nofun) c
  | openUniStream => exact openUniStream_serves (opens.resolve_right nofun) c
  | sendOnStream => exact sendOnStream_serves _ (writes.resolve_right nofun) _ _ c
  | recvOnStream => exact serves_of_receives (recvOnStream_receives (read _ rfl) _) c
  | resetStream => exact resetStream_serves _ _ c
  | stopSending => exact stopSending_serves _ _ c
  | sendDatagram => exact sendDatagram_serves _ c
  | recvDatagram => exact recvDatagram_serves _ c
  | sendCryptoInSpace => exact sendCryptoInSpace_serves _ _ c
  | recvCryptoInSpace => exact recvCryptoInSpace_serves _ _ c
  | queueDataBlockedFrame => exact queueBlockedFrame_serves _ c
  | queueMaxDataFrame => exact queueMaxFrame_serves _ c
  | sendPingInSpace => exact sendPingInSpace_serves _ c
  | sendPathChallenge | sendPathChallengeForPath => exact sendPathChallengeOn_serves _ _ c
  | setReceivePathHint => exact setReceivePathHint_serves (arrives.resolve_right nofun) _ c
  | issueConnectionId => exact issueConnectionId_serves _ _ _ c
  | rollbackIssuedConnectionIds | setChosenVersion => exact (Steps.modify fun _ => .of_rest rfl rfl) c
  | setLocalInitialSourceConnectionId => exact setLocalInitialSourceConnectionId_serves _ c
  | setPeerInitialSourceConnectionId => exact setPeerInitialSourceConnectionId_serves may _ c
  | issueNewToken => exact issueNewToken_serves _ c
  | issueRetryToken => exact issueRetryToken_serves _ c
  | validateRetryToken => exact validateRetryToken_serves _ c
  | validateAddressValidationToken =>
    exact validateAddressValidationToken_serves (ticks _ rfl) (admits.resolve_right nofun) _ _ _ c
  | issueRetryDatagram => exact issueRetryDatagram_serves may (ticks _ rfl) (admits.resolve_right nofun) _ _ _ _ c
  | processRetryDatagram => exact processRetryDatagram_serves may (ticks _ rfl) (admits.resolve_right nofun) _ _ c
  | resetInitialCryptoSendForRetry => exact resetInitialCryptoSendForRetry_serves c
  | processVersionNegotiationDatagram =>
    exact processVersionNegotiationDatagram_serves (ticks _ rfl) (admits.resolve_right nofun) _ _ _ c
  | processStatelessResetDatagram => exact processStatelessResetDatagram_serves _ _ c
  | installHandshakeTrafficSecrets => exact installHandshakeTrafficSecrets_serves _ _ c
  | installZeroRttTrafficSecrets => exact installZeroRttTrafficSecrets_serves _ _ c
  | acceptZeroRtt => exact acceptZeroRtt_serves c
  | rejectZeroRtt => exact rejectZeroRtt_serves c
  | discardZeroRttProtectionKeys => exact discardZeroRttProtectionKeys_serves c
  | installOneRttTrafficSecrets => exact installOneRttTrafficSecrets_serves (secrets.resolve_right nofun) _ _ c
  | initiateOneRttKeyUpdate => exact initiateOneRttKeyUpdate_serves c
  | discardExpiredOneRttKeys => exact discardExpiredOneRttKeys_serves (clock _ rfl) c
  | applyPeerTransportParameters => exact applyPeerTransportParameters_serves (tunes.resolve_right nofun) _ c
  | applyPeerTransportParametersWithCompatibleVersion =>
    exact applyPeerTransportParametersWithCompatibleVersion_serves (tunes.resolve_right nofun) _ _ c
  | applyPeerTransportParameterBytes data close =>
    have applies : u.tunes := tunes.resolve_right nofun
    have plain : Steps (Serves LifeSteps b u) _ := applyPeerTransportParameterBytes_serves applies data
    exact Steps.ite _ (applyParameterBytesOrClose_serves applies data _ plain) plain c
  | applyPeerTransportParameterBytesWithCompatibleVersion data compatibilities close =>
    have applies : u.tunes := tunes.resolve_right nofun
    have plain : Steps (Serves LifeSteps b u) _ :=
      applyPeerTransportParameterBytesWithCompatibleVersion_serves applies data compatibilities
    exact Steps.ite _ (applyParameterBytesOrClose_serves applies data _ plain) plain c
  | confirmHandshake => exact confirmHandshake_serves c
  | sendHandshakeDone => exact sendHandshakeDone_serves c
  | discardPacketNumberSpace => exact discardPacketNumberSpace_serves _ c
  | closeConnection | closeApplication => exact closeWith_serves _ c
  | checkIdleTimeouts => exact checkIdleTimeouts_serves _ c
  | checkCloseTimeouts => exact checkCloseTimeouts_serves _ c
  | checkPathValidationTimeouts => exact checkPathValidationTimeouts_serves _ (waits.resolve_right nofun) c
  | recordPacketSentInSpace => exact recordPacketSentInSpaceWithEcn_serves _ (ticks _ rfl) _ _ c
  | recordEcnPacketSentInSpace => exact recordEcnPacketSentInSpace_serves _ (ticks _ rfl) _ _ c
  | recordPeerAddressBytesReceived => exact recordPeerAddressBytesReceived_serves _ c
  | recordPeerAddressDatagramReceived => exact recordPeerAddressDatagramReceived_serves (clock _ rfl) _ c
  | validatePeerAddress => exact validatePeerAddress_serves c
  | receiveAckInSpace => exact receiveAckInSpace_serves _ _ _ _ c
  | queueAckForReceivedPacketInSpace space =>
    exact (Steps.active <| queueAckForReceivedPacket_serves fun n _ => hears space n) c
  | checkLossDetectionTimeouts => exact checkLossDetectionTimeouts_serves _ c
  | checkPtoTimeouts => exact checkPtoTimeouts_serves (clock _ rfl) c
  | serviceLossDetectionTimer => exact serviceLossDetectionTimer_serves (clock _ rfl) c
  | processDatagramForPacketType packetType now payload close =>
    have welcome : payload.Welcome b u := ⟨stored, takes payload List.mem_cons_self⟩
    exact Steps.ite _ (processDatagramForPacketTypeOrClose_serves (told now rfl) welcome (hears _))
      (processFramesInSpaceNoSnapshot_serves (told now rfl) welcome (fun n _ => hears _ n) packetType) c
  | processProtectedLongDatagram now len packets close =>
    refine (processProtectedLongDatagramWithFrameErrorPolicy_serves (told now rfl)
      (applied.resolve_right nofun) hears may len close fun opened mem shown => ⟨stored opened mem shown, ?_⟩) c
    exact takes _ (List.mem_map_of_mem mem)
  | processProtectedLongDatagramInSpace space now len opened close =>
    exact processProtectedLongDatagramInSpaceWithFrameErrorPolicy_serves (told now rfl)
      (applied.resolve_right nofun) hears may len close
      (fun shown => ⟨stored shown, takes _ List.mem_cons_self⟩) space c
  | processProtectedHandshakeDatagramWithInstalledKeys now len opened close =>
    have process := fun close => processProtectedLongDatagramInSpaceWithFrameErrorPolicy_serves (told now rfl)
      (applied.resolve_right nofun) hears may len close
      (fun shown => ⟨stored shown, takes _ List.mem_cons_self⟩) .handshake
    exact Steps.ite _ (.read fun _ => .guard <| process true)
      (.read fun _ => .guard <| process false) c
  | processProtectedZeroRttDatagram now len opened close =>
    exact (processProtectedZeroRttDatagramWithFrameErrorPolicy_serves (told now rfl)
      (applied.resolve_right nofun) hears may len close fun shown => ⟨stored shown, takes _ List.mem_cons_self⟩) c
  | processProtectedZeroRttDatagramWithInstalledKeys now len opened close =>
    have process := fun close => processProtectedZeroRttDatagramWithFrameErrorPolicy_serves (told now rfl)
      (applied.resolve_right nofun) hears may len close fun shown => ⟨stored shown, takes _ List.mem_cons_self⟩
    exact Steps.ite _ (.read fun _ => .guard <| process true)
      (.read fun _ => .guard <| process false) c
  | processProtectedShortDatagram now len opened close =>
    exact processProtectedShortDatagramWithFrameErrorPolicy_serves (told now rfl)
      (applied.resolve_right nofun) hears len (fun shown => ⟨stored shown, takes _ List.mem_cons_self⟩) close c
  | processProtectedShortDatagramWithKeyPhaseState =>
    exact processProtectedShortDatagramWithOwnKeys_serves (told _ rfl) (applied.resolve_right nofun) hears _
      ⟨stored, takes _ List.mem_cons_self⟩ _ c
  | processProtectedShortDatagramWithInstalledKeys now datagram close =>
    refine processProtectedShortDatagramWithInstalledKeys_serves (told now rfl)
      (applied.resolve_right nofun) hears (installed.resolve_right nofun) ⟨stored, takes _ List.mem_cons_self⟩ close
      (fresh.imp_right fun unexpired => ⟨turns, fun state held => ?_⟩)
    simpa only [Call.usesExpired, held, Option.any_some] using unexpired
  | pollTx => exact acts_of_polls (pollTx_polls (ticks _ rfl) (waits.resolve_right nofun) _ booked)
  | pollTxInSpace space now outLen =>
    refine acts_of_polls (pollTxInSpace_polls (ticks now rfl) (waits.resolve_right nofun) outLen space
      (booked.imp_right fun later app => ?_))
    subst app
    exact later
  | pollProtectedShortDatagram => exact acts_of_polls (pollProtectedShortDatagram_polls (ticks _ rfl) _)
  | pollProtectedZeroRttDatagram => exact acts_of_polls (pollProtectedZeroRttDatagram_polls (ticks _ rfl) may _)
  | pollProtectedHandshakeDatagramWithInstalledKeys =>
    exact acts_of_polls (pollProtectedHandshakeDatagramWithInstalledKeys_polls (ticks _ rfl) may _ _)
  | pollProtectedLongCryptoDatagramInSpace =>
    exact acts_of_polls (pollProtectedLongCryptoDatagramInSpace_polls (ticks _ rfl) may _ _)
  | pollProtectedLongDatagram =>
    refine acts_of_polls (pollProtectedLongDatagram_polls (ticks _ rfl) may _ _ (room.imp_right fun fits => ?_))
    exact Nat.le_of_not_lt (of_decide_eq_false fits)

theorem Call.heeds_any (call : Call) : call.Heeds .any :=
  ⟨fun _ _ => ⟨trivial, fun _ _ => trivial⟩, fun _ _ => trivial, Or.inl trivial, Or.inl trivial, Or.inl trivial,
    Or.inl trivial, Or.inl trivial, Or.inl trivial, trivial⟩

theorem Call.storedBy_all {rule : RecvRule} (every : ∀ frame, rule.stores frame) (call : Call) :
    call.StoredBy rule := by
  have payload : ∀ payload : ReceivedPayload, payload.StoredBy rule := fun _ frame _ => every frame
  unfold Call.StoredBy
  split
  case h_2 => exact fun opened _ _ => payload _
  case h_1 | h_8 | h_9 => exact payload _
  case h_10 => trivial
  all_goals exact fun _ => payload _

theorem Call.meets_any (c : Connection) (call : Call) : call.Meets .any c :=
  ⟨Or.inl trivial, Or.inl trivial, Or.inl trivial, fun _ _ => trivial, Or.inl trivial, Or.inl trivial,
    Or.inl trivial, call.storedBy_all fun _ => trivial, fun _ _ => trivial⟩

theorem Call.evolves (turns : b.turns) (hears : ∀ space n, b.hears space n) (meets : call.Meets b c) :
    Evolves b c (call.next c) :=
  wp_after (wp_mono (Call.acts turns hears meets call.heeds_any) (fun _ _ h => h.1.evolves) fun _ _ h => h.evolves)

theorem Call.tends (heeds : call.Heeds u) : Steps (Tends LifeSteps u) (perform call) := fun c =>
  wp_mono (Call.acts (b := .any) trivial (fun _ _ => trivial) (call.meets_any c) heeds) (fun _ _ h => h.2)
    fun _ _ h => h.tends

theorem Call.hands (turns : b.turns) (hears : ∀ space n, b.hears space n) (meets : call.Meets b c) :
    Hands b (handedOut (call.returned c)) c (call.next c) := by
  have acts := Call.acts turns hears meets call.heeds_any
  simp only [Acts, wp] at acts
  simp only [Call.returned, Call.next, after]
  cases result : perform call c with
  | ok datagram t =>
    rw [result] at acts
    exact acts.1
  | error e t =>
    rw [result] at acts
    exact acts.evolves.hands

def run (c : Connection) (calls : List Call) : Connection :=
  calls.foldl (fun c call => call.next c) c

def returnedBy (c : Connection) : List Call → List Datagram
  | [] => []
  | call :: rest => (call.returned c).toList ++ returnedBy (call.next c) rest

def Throughout (condition : Connection → Call → Prop) (c : Connection) : List Call → Prop
  | [] => True
  | call :: rest => condition c call ∧ Throughout condition (call.next c) rest

instance decidableThroughout {condition : Connection → Call → Prop}
    [∀ c call, Decidable (condition c call)] :
    ∀ (c : Connection) (calls : List Call), Decidable (Throughout condition c calls)
  | _, [] => inferInstanceAs (Decidable True)
  | c, call :: rest =>
    have : Decidable (Throughout condition (call.next c) rest) := decidableThroughout (call.next c) rest
    inferInstanceAs (Decidable (_ ∧ _))

variable {condition : Connection → Call → Prop}

@[simp] theorem run_nil (c : Connection) : run c [] = c := rfl

@[simp] theorem run_cons (c : Connection) (call : Call) (calls : List Call) :
    run c (call :: calls) = run (call.next c) calls := rfl

theorem run_append (c : Connection) (calls more : List Call) :
    run c (calls ++ more) = run (run c calls) more := List.foldl_append

variable {weaker : Connection → Call → Prop} {calls : List Call}

theorem Throughout.imp (h : Throughout condition c calls) (imp : ∀ c call, condition c call → weaker c call) :
    Throughout weaker c calls := by
  induction calls generalizing c with
  | nil => trivial
  | cons call rest ih => exact ⟨imp c call h.1, ih h.2⟩

theorem Throughout.with_mem (h : Throughout condition c calls)
    (imp : ∀ c, ∀ call ∈ calls, condition c call → weaker c call) : Throughout weaker c calls := by
  induction calls generalizing c with
  | nil => trivial
  | cons call rest ih =>
    exact ⟨imp c call List.mem_cons_self h.1, ih h.2 fun c call mem => imp c call (List.mem_cons_of_mem _ mem)⟩

theorem throughout_append {calls more : List Call} : Throughout condition c (calls ++ more) ↔
      Throughout condition c calls ∧ Throughout condition (run c calls) more := by
  induction calls generalizing c with
  | nil => simp [Throughout]
  | cons call rest ih => rw [List.cons_append, Throughout, ih, Throughout, run_cons, and_assoc]

theorem throughout_true (c : Connection) (calls : List Call) : Throughout (fun _ _ => True) c calls := by
  induction calls generalizing c with
  | nil => trivial
  | cons call rest ih => exact ⟨trivial, ih _⟩

theorem run_preserves {P : Connection → Prop} (step : ∀ c call, condition c call → P c → P (call.next c))
    (all : Throughout condition c calls) (start : P c) : P (run c calls) := by
  induction calls generalizing c with
  | nil => exact start
  | cons call rest ih => exact ih all.2 (step c call all.1 start)

theorem run_evolves {rule : LedgerRule} (turns : rule.turns) (hears : ∀ space n, rule.hears space n)
    (meets : Throughout (fun c call => call.Meets rule c) c calls) : Evolves rule c (run c calls) :=
  run_preserves (P := Evolves rule c) (fun _ _ meets before => before.trans (Call.evolves turns hears meets))
    meets (.refl c)

def ReachableBy (condition : Connection → Call → Prop) (c : Connection) : Prop :=
  ∃ side config start calls, init side config = .ok start ∧ Throughout condition start calls ∧ run start calls = c

def Reachable : Connection → Prop := ReachableBy fun _ _ => True

theorem Connection.init_ok {side : ConnectionSide} {config : Config} {start : Connection}
    (made : init side config = .ok start) : config.check side = .ok () ∧ start = .fresh side config := by
  unfold init at made
  cases checked : config.check side with
  | error e => simp [checked, bind, Except.bind] at made
  | ok u =>
    simp only [checked, bind, Except.bind, pure, Except.pure, Except.ok.injEq] at made
    exact ⟨rfl, made.symm⟩

theorem Connection.init_default (side : ConnectionSide) : init side {} = .ok (.fresh side {}) := by
  cases side <;> rfl

theorem Reachable.evolved (reached : Reachable c) :
    ∃ side config, config.check side = .ok () ∧ Evolves .any (.fresh side config) c := by
  obtain ⟨side, config, start, calls, made, -, rfl⟩ := reached
  obtain ⟨checked, rfl⟩ := init_ok made
  refine ⟨side, config, checked, run_evolves trivial (fun _ _ => trivial) ?_⟩
  exact (throughout_true _ calls).imp fun c call _ => Call.meets_any c call

theorem run_tends {rule : UpkeepRule} (heeds : Throughout (fun _ call => call.Heeds rule) c calls) :
    Tends LifeSteps rule c (run c calls) :=
  run_preserves (P := Tends LifeSteps rule c)
    (fun t _ heeds before => before.trans ((Call.tends heeds).after t)) heeds (.refl c)

/-- Any call meets a rule that only restricts the frames that are handled, when it brings no others. -/
theorem Call.heeds_hears {hears : HeardFrame → Prop}
    (all : ∀ payload ∈ call.payloads, ∀ heard ∈ heardAs .active payload.frames, hears heard) :
    call.Heeds { UpkeepRule.any with hears } :=
  { call.heeds_any with takes := fun payload mem => ⟨trivial, all payload mem⟩ }

theorem run_tends_any (c : Connection) (calls : List Call) : Tends LifeSteps .any c (run c calls) :=
  run_tends ((throughout_true c calls).imp fun _ call _ => call.heeds_any)

theorem Reachable.tended (reached : Reachable c) : ∃ side config,
    config.check side = .ok () ∧ Tends LifeSteps .any (.fresh side config) c := by
  obtain ⟨side, config, start, calls, made, -, rfl⟩ := reached
  obtain ⟨checked, rfl⟩ := init_ok made
  exact ⟨side, config, checked, run_tends_any _ calls⟩

end Quicz
