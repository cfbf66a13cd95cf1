import Quicz.Send.Acks
import Quicz.Send.Long

/-! The calls and frames around the streams: PING, DATAGRAM, CRYPTO, connection IDs, tokens,
path validation, HANDSHAKE_DONE, key installation and updates, Retry, stateless reset, and the
close frames of the peer. -/
namespace Quicz

open Chunks Proc

variable (space : PacketNumberSpace) (c : Connection)

variable (nowNanos : Int) (bytes : Nat) (codepoint : EcnCodepoint)

def recordPacketSentInSpaceWithEcn : ConnM Nat := do
  requireActive
  let c ← get
  let s := c.packetNumberSpace space
  failIf s.discarded .invalidPacket
  failIf (s.nextPacketNumber > maxQuicVarint) .internal
  failIf (!c.ackElicitingSendAllowed space bytes) .flowControlBlocked
  modify fun c => c.modifySpace space fun s =>
    { s.commitPacket (fun packet => { packet with ecnCodepoint := codepoint }) nowNanos bytes false with
      ecnSentEct0 := if codepoint = .ect0 then s.ecnSentEct0 + 1 else s.ecnSentEct0
      ecnSentEct1 := if codepoint = .ect1 then s.ecnSentEct1 + 1 else s.ecnSentEct1 }
  modify fun c => (((((c.recordAckElicitingSendInSpace space bytes)
    |>.recordPeerAddressBytesSent bytes)
    |>.note (.recorded space s.nextPacketNumber bytes))
    |>.recordPacketActivity nowNanos)
    |>.maybeDiscardInitialAfterHandshakePacketSent space)
  pure s.nextPacketNumber

def recordPacketSentInSpace : ConnM Nat :=
  recordPacketSentInSpaceWithEcn space nowNanos bytes .notEct

def recordEcnPacketSentInSpace : ConnM Nat := do
  failIf (codepoint = .notEct) .invalidPacket
  failIf (((← get).packetNumberSpace space).ecnValidationState = .failed) .invalidPacket
  recordPacketSentInSpaceWithEcn space nowNanos bytes codepoint

def recordPeerAddressBytesReceived : ConnM Unit := do
  requireActive
  modify fun c =>
    if !c.isAntiAmplificationLimited then c
    else { c with peerAddressBytesReceived := saturatingAddU64 c.peerAddressBytesReceived bytes }

def recordPeerAddressDatagramReceived : ConnM (Option Connection.LossDetectionTimerDeadline) := do
  let wasAtLimit := (← get).serverAtAntiAmplificationLimit
  recordPeerAddressBytesReceived bytes
  if !wasAtLimit then pure none else serviceLossDetectionTimer nowNanos

def validatePeerAddress : ConnM Unit := do
  requireActive
  modify fun c => { c with peerAddressValidated := true }

def recordReceivedPacketNumber (packetNumber : Nat) : ConnM Bool := do
  failIf (packetNumber > maxQuicVarint) .invalidPacket
  let recorded := ((← get).packetNumberSpace space).receivedPacketRanges.record packetNumber
  if recorded.2 then
    modify fun c => c.modifySpace space fun s =>
      { s with
        receivedPacketRanges := recorded.1
        nextPeerPacketNumber := recorded.1.nextExpectedPacketNumber }
  pure recorded.2

def queueAckForReceivedPacket (receivedPacketNumber : Option Nat) : ConnM Unit := do
  let s := (← get).packetNumberSpace space
  failIf s.discarded .invalidPacket
  let inserted ← recordReceivedPacketNumber space (receivedPacketNumber.getD s.nextPeerPacketNumber)
  if inserted then
    modify fun c => c.modifySpace space fun s =>
      { s with pendingAckLargest := s.receivedPacketRanges.ranges.head?.map ReceivedPacketRange.largest }

def queueAckForReceivedPacketInSpace : ConnM Unit := do
  requireActive
  queueAckForReceivedPacket space none

def sendPingInSpace (space : PacketNumberSpace) : ConnM Unit := do
  requireActive
  queuePingInSpace space
  modify fun c => c.markHandshakeSpaceUsed space

variable (data : Bytes)

def sendDatagram : ConnM Unit := do
  requireActive
  let c ← get
  failIf (c.config.maxDatagramFrameSize = 0) .invalidPacket
  failIf (data.length > c.config.maxDatagramFrameSize) .invalidPacket
  modify fun c => { c with pendingDatagrams := c.pendingDatagrams ++ [data] }

def recvDatagram (bufLen : Nat) : ConnM (Option Bytes) := do
  requireActive
  match (← get).receivedDatagrams with
  | [] => pure none
  | datagram :: rest =>
    modify fun c => { c with receivedDatagrams := rest }
    pure (some (datagram.take bufLen))

def receiveDatagramFrame : ConnM Unit :=
  modify fun c =>
    if c.config.maxDatagramFrameSize > 0 then
      { c with receivedDatagrams := c.receivedDatagrams ++ [data] }
    else c

variable (path : Option UdpTuple)

/-- The shared body of the two calls: a challenge may be bound to a path. -/
def sendPathChallengeOn : ConnM Unit := do
  requireActive
  modify fun c =>
    let challenge : PendingPathChallenge := { data, path, serial := c.challengesQueued }
    { c with
      pendingPathChallenges := c.pendingPathChallenges ++ [challenge]
      challengesQueued := c.challengesQueued + 1
      challengeLog := c.challengeLog ++ [.queued challenge.serial data path] }

def sendPathChallenge : ConnM Unit := sendPathChallengeOn data none

def sendPathChallengeForPath (path : UdpTuple) : ConnM Unit :=
  sendPathChallengeOn data (some path)

def setReceivePathHint : ConnM Unit :=
  modify fun c => { c with receivePathHint := path }

def receivePathChallengeFrame : ConnM Unit :=
  modify fun c =>
    let response : PendingPathResponse := ⟨data, c.receivePathHint⟩
    if response ∈ c.pendingPathResponses then c
    else { c with pendingPathResponses := c.pendingPathResponses ++ [response] }

/-- An answer to a challenge bound to a path only counts on that path. -/
def receivePathResponseFrame : ConnM Unit := do
  let c ← get
  match c.outstandingPathChallenges.findIdx? fun challenge => challenge.data = data with
  | none => throw .invalidPacket
  | some index =>
    match c.outstandingPathChallenges[index]? with
    | none => throw .invalidPacket
    | some challenge =>
      if challenge.path.isSome ∧ c.receivePathHint ≠ challenge.path then pure ()
      else set { c with
        outstandingPathChallenges := c.outstandingPathChallenges.eraseIdx index
        challengeLog := c.challengeLog ++ [PathEvent.validated challenge data c.receivePathHint] }

def checkPathValidationTimeouts : ConnM Unit := do
  expireState nowNanos
  requireActive
  modify fun c => c.expirePathChallenges nowNanos

def checkIdleTimeouts : ConnM Unit := do
  modify fun c => c.expireIdleState nowNanos
  failIf ((← get).state = .closed) .connectionClosed

def checkCloseTimeouts : ConnM Unit := do
  modify fun c => c.expireCloseState nowNanos
  failIf ((← get).state = .closed) .connectionClosed

namespace Connection

def hasZeroLengthLocalInitialSourceConnectionId : Bool :=
  c.localInitialSourceConnectionId == some []

/-- The newest identifier of the peer that is not retired, or its first one. -/
def peerDestinationConnectionId : Option Bytes :=
  let selected := c.activeConnectionIds.foldl (fun best id =>
    if id.retired then best
    else
      match best with
      | none => some id
      | some current => if id.sequenceNumber > current.sequenceNumber then some id else best) none
  (selected.map ActiveConnectionId.connectionId).or c.peerInitialSourceConnectionId

def sendsZeroLengthDestinationConnectionId : Bool :=
  c.peerDestinationConnectionId == some []

variable (retirePriorTo : Nat)

def localConnectionIdCountAfterRetirePriorTo : Nat :=
  (c.localConnectionIds.filter fun id =>
    !id.retired && decide (id.sequenceNumber ≥ retirePriorTo)).length

def activeConnectionIdCount : Nat :=
  (c.activeConnectionIds.filter fun id => !id.retired).length

def queueRetireConnectionId (sequenceNumber : Nat) : Connection :=
  if sequenceNumber ∈ c.pendingRetireConnectionIds then c
  else { c with pendingRetireConnectionIds := c.pendingRetireConnectionIds ++ [sequenceNumber] }

def retireConnectionIdsBefore : Connection :=
  let retiring := c.activeConnectionIds.filter fun id =>
    decide (id.sequenceNumber < retirePriorTo) && !id.retired
  (retiring.map ActiveConnectionId.sequenceNumber).foldl queueRetireConnectionId
    { c with activeConnectionIds := c.activeConnectionIds.map fun id =>
        if id.sequenceNumber < retirePriorTo then { id with retired := true } else id }

end Connection

def issueConnectionId (connectionId statelessResetToken : Bytes) (retirePriorTo : Nat) : ConnM Nat := do
  requireActive
  let c ← get
  failIf c.hasZeroLengthLocalInitialSourceConnectionId .invalidPacket
  failIf (connectionId = [] ∨ connectionId.length > maxConnectionIdLen) .invalidPacket
  failIf (c.nextLocalConnectionIdSequence > maxQuicVarint) .invalidPacket
  failIf (retirePriorTo > c.nextLocalConnectionIdSequence) .invalidPacket
  failIf (c.localConnectionIdCountAfterRetirePriorTo retirePriorTo ≥ c.peerActiveConnectionIdLimit)
    .invalidPacket
  failIf (c.localConnectionIds.any fun id => id.connectionId = connectionId) .invalidPacket
  failIf (c.localConnectionIds.any fun id => id.statelessResetToken = statelessResetToken)
    .invalidPacket
  let issued : LocalConnectionId :=
    ⟨c.nextLocalConnectionIdSequence, retirePriorTo, connectionId, statelessResetToken, false, false⟩
  set { c with
    localConnectionIds := c.localConnectionIds ++ [issued]
    nextLocalConnectionIdSequence := c.nextLocalConnectionIdSequence + 1 }
  pure issued.sequenceNumber

/-- The caller passes a length and a sequence number it read before. -/
def rollbackIssuedConnectionIds (originalLen originalNextSequence : Nat) : ConnM Unit :=
  modify fun c => { c with
    localConnectionIds := c.localConnectionIds.take originalLen
    nextLocalConnectionIdSequence := originalNextSequence }

variable (frame : NewConnectionIdFrame)

def admitConnectionId : ConnM Unit := do
  let c ← get
  match c.activeConnectionIds.find? fun id => id.sequenceNumber = frame.sequenceNumber with
  | some existing =>
    failIf (existing.connectionId ≠ frame.connectionId) .invalidPacket
    failIf (existing.statelessResetToken ≠ frame.statelessResetToken) .invalidPacket
  | none =>
    if frame.sequenceNumber < c.largestPeerRetirePriorTo then
      set (c.queueRetireConnectionId frame.sequenceNumber)
    else
      failIf (c.activeConnectionIds.any fun id => id.connectionId = frame.connectionId) .invalidPacket
      failIf (c.activeConnectionIds.any fun id => id.statelessResetToken = frame.statelessResetToken)
        .invalidPacket
      failIf (c.activeConnectionIdCount ≥ c.config.activeConnectionIdLimit) .invalidPacket
      let added : ActiveConnectionId :=
        ⟨frame.sequenceNumber, frame.connectionId, frame.statelessResetToken, false⟩
      set { c with activeConnectionIds := c.activeConnectionIds ++ [added] }

def receiveNewConnectionIdFrame : ConnM Unit := do
  failIf (← get).sendsZeroLengthDestinationConnectionId .invalidPacket
  failIf (frame.retirePriorTo > frame.sequenceNumber) .invalidPacket
  modify fun c => { c with largestPeerRetirePriorTo := max c.largestPeerRetirePriorTo frame.retirePriorTo }
  modify fun c => c.retireConnectionIdsBefore frame.retirePriorTo
  admitConnectionId frame
  modify fun c => { c with suppliedIds := c.suppliedIds ++ [frame] }

def receiveRetireConnectionIdFrame (sequenceNumber : Nat) : ConnM Unit := do
  let c ← get
  failIf c.hasZeroLengthLocalInitialSourceConnectionId .invalidPacket
  match c.localConnectionIds.findIdx? fun id => id.sequenceNumber = sequenceNumber with
  | none => throw .invalidPacket
  | some index =>
    failIf ((c.localConnectionIds[index]?).any fun id => !id.sent) .invalidPacket
    set { c with localConnectionIds :=
      c.localConnectionIds.modify index fun id => { id with retired := true } }

variable (token : Bytes)

def issueNewToken : ConnM Unit := do
  requireActive
  failIf ((← get).side ≠ .server) .invalidPacket
  let encodedLen ← liftExcept (newTokenFrameWireLen token)
  failIf (encodedLen > (← get).maxTxDatagramSize) .bufferTooSmall
  modify fun c => { c with pendingNewTokens := c.pendingNewTokens ++ [token] }

def receiveNewTokenFrame : ConnM Unit := do
  let c ← get
  failIf (c.side = .server) .invalidPacket
  if c.storedNewTokens.length ≥ c.config.maxStoredNewTokens then pure ()
  else set { c with storedNewTokens := c.storedNewTokens ++ [token] }

def setLocalInitialSourceConnectionId (scid : Bytes) : ConnM Unit := do
  failIf (scid.length > maxConnectionIdLen) .invalidPacket
  modify fun c => { c with localInitialSourceConnectionId := some scid }

def setPeerInitialSourceConnectionId (scid : Bytes) : ConnM Unit := do
  failIf (scid.length > maxConnectionIdLen) .invalidPacket
  match (← get).peerInitialSourceConnectionId with
  | some existing => failIf (existing ≠ scid) .invalidPacket
  | none => modify fun c =>
      { c with peerInitialSourceConnectionId := some scid, idLog := c.idLog ++ [.boundPeer scid] }

def Connection.markHandshakeConfirmed : Connection :=
  { c with handshakeState := .confirmed, handshakeConfirmed := true }

def sendHandshakeDone : ConnM Unit := do
  requireActive
  failIf ((← get).side ≠ .server) .invalidPacket
  modify fun c => c.markHandshakeConfirmed.discardPacketNumberSpaceState .handshake
  modify fun c =>
    if c.pendingHandshakeDone || c.handshakeDoneSent then c else { c with pendingHandshakeDone := true }

def receiveHandshakeDoneFrame : ConnM Unit := do
  failIf ((← get).side = .server) .invalidPacket
  modify Connection.markHandshakeConfirmed

variable (own peer : TrafficSecret)

def installHandshakeTrafficSecrets : ConnM Unit := do
  requireActive
  failIf (← get).handshakePacketSpace.discarded .invalidPacket
  modify fun c => { c with localHandshakeKeys := some own, peerHandshakeKeys := some peer }

def installZeroRttTrafficSecrets (own peer : Option TrafficSecret) : ConnM Unit := do
  requireActive
  failIf (own.isNone ∧ peer.isNone) .invalidPacket
  modify fun c => { c with
    localZeroRttKeys := own.or c.localZeroRttKeys
    peerZeroRttKeys := peer.or c.peerZeroRttKeys
    peerZeroRttAccepted := peer.isNone && c.peerZeroRttAccepted }

def acceptZeroRtt : ConnM Unit := do
  requireActive
  failIf (← get).peerZeroRttKeys.isNone .invalidPacket
  modify fun c => { c with peerZeroRttAccepted := true }

def rejectZeroRtt : ConnM Unit := do
  requireActive
  modify fun c => { c with peerZeroRttKeys := none, peerZeroRttAccepted := false }

def Connection.discardZeroRttProtectionKeyState : Connection :=
  { c with localZeroRttKeys := none, peerZeroRttKeys := none, peerZeroRttAccepted := false }

def discardZeroRttProtectionKeys : ConnM Unit := do
  requireActive
  modify Connection.discardZeroRttProtectionKeyState

def installOneRttTrafficSecrets : ConnM Unit := do
  requireActive
  modify fun c =>
    let c := if c.side = .client then c.discardZeroRttProtectionKeyState else c
    { c.note .keysInstalled with
      localOneRttKeyPhaseState := some (.init ⟨own, 0⟩ false)
      peerOneRttKeyPhaseState := some (.init ⟨peer, 0⟩ false)
      localOneRttKeyUpdateAckThreshold := none }

/-- The retained generation goes one PTO after the time given, if there is one. -/
def Connection.keyDiscardDeadline : Int :=
  let recovery := c.applicationPacketSpace.recoveryState
  Connection.ptoDeadlineFromStart recovery nowNanos false recovery.ptoCount

def Connection.schedulePreviousKeyDiscard (state : Aes128KeyPhaseState) (nowNanos : Option Int) :
    Aes128KeyPhaseState :=
  match nowNanos with
  | none => state
  | some now => state.schedulePreviousDiscard (c.keyDiscardDeadline now)

def initiateOneRttKeyUpdate : ConnM Unit := do
  requireActive
  let c ← get
  failIf (!c.handshakeConfirmed) .invalidPacket
  failIf c.localOneRttKeyUpdateAckThreshold.isSome .invalidPacket
  match c.localOneRttKeyPhaseState with
  | none => throw .invalidPacket
  | some state =>
    let updated := c.schedulePreviousKeyDiscard state.initiateKeyUpdate c.lastPacketActivityNanos
    set { c.note (.keyUpdate true) with
      localOneRttKeyPhaseState := some updated
      localOneRttKeyUpdateAckThreshold := some c.applicationPacketSpace.nextPacketNumber }

def discardExpiredOneRttKeys : ConnM Unit :=
  modify fun c => c.discardExpiredOneRttKeys nowNanos

/-- The shared body of the two close handlers: the first close of the peer is kept. -/
def receiveClose (close : PendingCloseFrame) : ConnM Unit :=
  modify fun c => { c with peerClose := some (c.peerClose.getD close) }.enterDrainingState nowNanos

def receiveConnectionCloseFrame (close : ConnectionCloseFrame) : ConnM Unit :=
  receiveClose nowNanos (.connection close)

def receiveApplicationCloseFrame (close : ApplicationCloseFrame) : ConnM Unit :=
  receiveClose nowNanos (.application close)

def issueRetryToken : ConnM Unit := do
  requireActive
  let c ← get
  failIf (c.side ≠ .server ∨ token = []) .invalidPacket
  failIf (token ∈ c.retryTokens) .invalidPacket
  set { c with retryTokens := c.retryTokens ++ [token] }

def validateRetryToken : ConnM Unit := do
  requireActive
  let c ← get
  failIf (c.side ≠ .server ∨ token = []) .invalidPacket
  failIf (token ∉ c.retryTokens) .invalidPacket
  set { c with retryTokens := c.retryTokens.erase token, peerAddressValidated := true }

/-- Tokens of a Retry are accepted once; tokens of a NEW_TOKEN frame are not remembered. -/
inductive AddressValidationTokenKind
  | retry | newToken
deriving DecidableEq, Repr

/-- An address validation token; `authentic` is what the check of its MAC, kind, version and
lifetime says. -/
def validateAddressValidationToken (expectedKind : AddressValidationTokenKind) (token : Bytes)
    (authentic : Bool) : ConnM Unit := do
  expireState nowNanos
  requireActive
  let c ← get
  failIf (c.side ≠ .server ∨ token = []) .invalidPacket
  failIf (authentic = false) .invalidPacket
  failIf (expectedKind = .retry ∧ token ∉ c.retryTokens) .invalidPacket
  modify fun c =>
    let consumed := { c with
      retryTokens := match expectedKind with
        | .retry => c.retryTokens.erase token
        | .newToken => c.retryTokens
      peerAddressValidated := true }
    consumed.recordPacketActivity nowNanos

def setChosenVersion (version : Version) : ConnM Unit :=
  modify fun c => { c with chosenVersion := version }

def validateOriginalDestinationConnectionIdForRecord (c : Connection) (dcid : Bytes) : Bool :=
  decide (dcid.length ≤ maxConnectionIdLen) && c.originalDestinationConnectionId.all (· == dcid)

structure RetryPacket where
  version : Version
  scid : Bytes
  token : Bytes

def retryVersions : List Version := [0x00000001, 0x6b3343cf]

def retryPacketLen (dcid scid token : Bytes) : Nat :=
  1 + 4 + 1 + dcid.length + 1 + scid.length + token.length + aeadTagLen

def issueRetryDatagram (originalDcid clientScid retryScid token : Bytes) : ConnM Nat := do
  expireState nowNanos
  requireActive
  let c ← get
  failIf (c.side ≠ .server ∨ token = []) .invalidPacket
  failIf (c.initialPacketSpace.discarded ∨ c.initialPacketSpace.nextPeerPacketNumber ≠ 0) .invalidPacket
  failIf (c.originalDestinationConnectionId.isSome ∨ c.retrySourceConnectionId.isSome) .invalidPacket
  failIf (!validateOriginalDestinationConnectionIdForRecord c originalDcid) .invalidPacket
  liftExcept (validateInitialDestinationConnectionIdLength originalDcid)
  failIf (clientScid.length > maxConnectionIdLen ∨ retryScid.length > maxConnectionIdLen) .invalidPacket
  failIf (c.chosenVersion ∉ retryVersions) .invalidPacket
  issueRetryToken token
  let len := retryPacketLen clientScid retryScid token
  modify fun c =>
    (({ c with
        originalDestinationConnectionId := some originalDcid
        retrySourceConnectionId := some retryScid
        idLog := c.idLog ++ [IdEvent.issuedRetry originalDcid retryScid] }.recordPeerAddressBytesSent len)
      |>.recordPacketActivity nowNanos)
  pure len

/- Only a datagram whose integrity tag verifies for the original connection ID appears: any
other is an error without effect. -/
def processRetryDatagram (originalDcid : Bytes) (retry : RetryPacket) : ConnM Unit := do
  expireState nowNanos
  requireActive
  let c ← get
  failIf (c.side ≠ .client ∨ c.retryToken.isSome) .invalidPacket
  failIf c.initialPacketSpace.discarded .invalidPacket
  failIf (c.initialPacketSpace.nextPeerPacketNumber ≠ 0) .invalidPacket
  failIf (retry.version ≠ c.chosenVersion) .invalidPacket
  failIf (!validateOriginalDestinationConnectionIdForRecord c originalDcid) .invalidPacket
  liftExcept (if c.originalDestinationConnectionId.isNone then
    validateInitialDestinationConnectionIdLength originalDcid else .ok ())
  modify fun c =>
    { c with
      originalDestinationConnectionId := c.originalDestinationConnectionId.or (some originalDcid)
      retryToken := some retry.token
      retrySourceConnectionId := some retry.scid
      idLog := c.idLog ++ [IdEvent.processedRetry originalDcid retry.scid] }.recordPacketActivity nowNanos

/-- The send side of the Initial space starts again after a Retry. -/
def PacketNumberSpaceState.restartSend (s : PacketNumberSpaceState) : PacketNumberSpaceState :=
  { s with
    cryptoSendQueue := []
    cryptoSendOffset := 0
    sentPackets := []
    nextPacketNumber := 0
    pendingPingCount := 0
    ptoProbeCount := 0
    congestionProbeCount := 0
    recoveryState := { s.recoveryState with bytesInFlight := 0, ptoCount := 0 } }

def resetInitialCryptoSendForRetry : ConnM Unit := do
  requireActive
  failIf ((← get).side ≠ .client) .invalidPacket
  failIf (← get).initialPacketSpace.discarded .invalidPacket
  modify fun c =>
    (c.modifySpace .initial PacketNumberSpaceState.restartSend).note .restarted

def statelessResetTokenLen : Nat := 16

def minStatelessResetDatagramLen : Nat := statelessResetTokenLen + 5

def statelessResetTokenCandidate (datagram : Bytes) : Option Bytes :=
  if datagram.length < minStatelessResetDatagramLen then none
  else some (datagram.drop (datagram.length - statelessResetTokenLen))

def matchesStatelessReset (datagram expectedToken : Bytes) : Bool :=
  match statelessResetTokenCandidate datagram with
  | none => false
  | some candidate => candidate = expectedToken

def Connection.detectStatelessReset (c : Connection) (datagram : Bytes) : Option Nat :=
  (c.activeConnectionIds.find? fun id =>
    !id.retired && matchesStatelessReset datagram id.statelessResetToken).map ActiveConnectionId.sequenceNumber

def processStatelessResetDatagram (datagram : Bytes) : ConnM (Option Nat) := do
  modify fun c => c.expireCloseState nowNanos
  modify fun c => c.expireIdleState nowNanos
  let c ← get
  if c.state = .closed then pure none
  else
    match c.detectStatelessReset datagram with
    | none => pure none
    | some sequenceNumber =>
      set ({ c with pendingClose := none }.enterDrainingState nowNanos)
      pure (some sequenceNumber)

/- The splitting loop of a CRYPTO write, with the bound on its rounds as for streams. -/
def splitCryptoData (maxDatagramSize : Nat) : Nat → Nat → Bytes → Except Error (List PendingCryptoFrame)
  | 0, _, _ => .error .internal
  | rounds + 1, frameOffset, data =>
    if data = [] then .ok []
    else do
      let chunkLen ← maxCryptoFrameDataLen frameOffset data.length maxDatagramSize
      match endOffset frameOffset chunkLen with
      | none => .error .internal
      | some nextOffset =>
        let rest ← splitCryptoData maxDatagramSize rounds nextOffset (data.drop chunkLen)
        return ⟨frameOffset, data.take chunkLen⟩ :: rest

def sendCryptoInSpace (data : Bytes) : ConnM Unit := do
  requireActive
  if data = [] then pure ()
  else
    let c ← get
    let s := c.packetNumberSpace space
    failIf s.discarded .invalidPacket
    let nextOffset ← orThrow (endOffset s.cryptoSendOffset data.length) .cryptoError
    let _ ← liftExcept (maxCryptoFrameDataLen s.cryptoSendOffset data.length c.maxTxDatagramSize)
    let frames ← liftExcept
      (splitCryptoData c.maxTxDatagramSize (data.length + 1) s.cryptoSendOffset data)
    modify fun c => (c.modifySpace space fun s =>
      { s with cryptoSendQueue := s.cryptoSendQueue ++ frames, cryptoSendOffset := nextOffset })
      |>.markHandshakeSpaceUsed space

variable (s : PacketNumberSpaceState)

/-- The CRYPTO stream of a space as a receive stream: it is reassembled the same way. -/
def PacketNumberSpaceState.cryptoStream : RecvStreamState :=
  { streamId := 0, maxData := 0, data := s.cryptoRecvBuffer, pending := s.cryptoRecvPending }

def PacketNumberSpaceState.putCryptoStream (stream : RecvStreamState) : PacketNumberSpaceState :=
  { s with cryptoRecvBuffer := stream.data, cryptoRecvPending := stream.pending }

def receiveCryptoFrame (crypto : PendingCryptoFrame) : ConnM Unit := do
  let c ← get
  let s := c.packetNumberSpace space
  failIf s.discarded .invalidPacket
  let stop ← orThrow (endOffset crypto.offset crypto.data.length) .invalidPacket
  failIf (stop > c.config.maxCryptoBufferSize) .invalidPacket
  let segments ← liftExcept (collectNewRecvStreamDataSegments s.cryptoStream crypto)
  modify fun c => c.modifySpace space fun s =>
    s.putCryptoStream (segments.foldl storeSegment s.cryptoStream)

def drainPendingCryptoFrames : ConnM Unit := do
  let drained ← liftExcept (drainStream ((← get).packetNumberSpace space).cryptoStream)
  modify fun c => c.modifySpace space fun s => s.putCryptoStream drained

def recvCryptoInSpace (bufLen : Nat) : ConnM (Option Bytes) := do
  requireActive
  failIf ((← get).packetNumberSpace space).discarded .invalidPacket
  drainPendingCryptoFrames space
  let s := (← get).packetNumberSpace space
  if s.cryptoReadOffset ≥ s.cryptoRecvBuffer.length then pure none
  else
    let bytes := (s.cryptoRecvBuffer.drop s.cryptoReadOffset).take bufLen
    modify fun c => c.modifySpace space fun s =>
      { s with cryptoReadOffset := s.cryptoReadOffset + bytes.length }
    pure (some bytes)

end Quicz
