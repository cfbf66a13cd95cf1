import Quicz.Classify
import Quicz.Varint

/-! The transport parameters of the peer: the typed values of transport_parameters.zig, the
checks the connection makes on them, and what they set. The version rules are those of
connection_version.zig and transport_types.zig. -/
namespace Quicz

open Chunks Proc

variable (c : Connection)

structure VersionInformation where
  chosenVersion : Version
  availableVersions : List Version
deriving DecidableEq, Repr

variable (information : VersionInformation) (version : Version)

def VersionInformation.containsAvailableVersion : Bool := information.availableVersions.contains version

structure TransportParameters where
  originalDestinationConnectionId : Option Bytes := none
  maxIdleTimeout : Nat := 0
  statelessResetToken : Option Bytes := none
  maxUdpPayloadSize : Nat := maxUdpPayloadSizeDefault
  initialMaxData : Nat := 0
  initialMaxStreamDataBidiLocal : Nat := 0
  initialMaxStreamDataBidiRemote : Nat := 0
  initialMaxStreamDataUni : Nat := 0
  initialMaxStreamsBidi : Nat := 0
  initialMaxStreamsUni : Nat := 0
  ackDelayExponent : Nat := 3
  maxAckDelay : Nat := 25
  disableActiveMigration : Bool := false
  preferredAddress : Option PreferredAddress := none
  activeConnectionIdLimit : Nat := 2
  initialSourceConnectionId : Option Bytes := none
  retrySourceConnectionId : Option Bytes := none
  versionInformation : Option VersionInformation := none
deriving DecidableEq, Repr

inductive ParameterId
  | originalDestinationConnectionId | maxIdleTimeout | statelessResetToken | maxUdpPayloadSize
  | initialMaxData | initialMaxStreamDataBidiLocal | initialMaxStreamDataBidiRemote
  | initialMaxStreamDataUni | initialMaxStreamsBidi | initialMaxStreamsUni | ackDelayExponent
  | maxAckDelay | disableActiveMigration | preferredAddress | activeConnectionIdLimit
  | initialSourceConnectionId | retrySourceConnectionId | versionInformation
deriving DecidableEq, Repr

/-- The parameters in the order of their identifiers, 0x00 to 0x11. -/
def ParameterId.known : List ParameterId :=
  [.originalDestinationConnectionId, .maxIdleTimeout, .statelessResetToken, .maxUdpPayloadSize,
    .initialMaxData, .initialMaxStreamDataBidiLocal, .initialMaxStreamDataBidiRemote,
    .initialMaxStreamDataUni, .initialMaxStreamsBidi, .initialMaxStreamsUni, .ackDelayExponent,
    .maxAckDelay, .disableActiveMigration, .preferredAddress, .activeConnectionIdLimit,
    .initialSourceConnectionId, .retrySourceConnectionId, .versionInformation]

inductive ParameterError
  | invalidParameterValue | invalidParameterLength | duplicateParameter | endOfStream
deriving DecidableEq, Repr

abbrev Parsed := Except ParameterError

/-- The check of a value, with the error the source gives it. -/
def ParameterError.unless (error : ParameterError) (holds : Bool) : Parsed Unit :=
  if holds then .ok () else .error error

def maxIdleTimeoutMsCap : Nat := 2 ^ 32

def validateIntegerParameter (id : ParameterId) (value : Nat) : Parsed Unit :=
  ParameterError.invalidParameterValue.unless <| value ≤ maxQuicVarint && match id with
    | .maxIdleTimeout => value ≤ maxIdleTimeoutMsCap
    | .maxUdpPayloadSize => 1200 ≤ value && value ≤ maxUdpPayloadSizeDefault
    | .initialMaxStreamsBidi | .initialMaxStreamsUni => value ≤ maxStreamCount
    | .ackDelayExponent => value ≤ 20
    | .maxAckDelay => value < 2 ^ 14
    | .activeConnectionIdLimit => 2 ≤ value
    | _ => true

def parseIntegerValue (id : ParameterId) (value : Bytes) : Parsed Nat :=
  match decodeVarInt value with
  | none => .error .endOfStream
  | some (parsed, rest) => do
    ParameterError.invalidParameterLength.unless (rest == [])
    validateIntegerParameter id parsed
    return parsed

variable (value : Bytes)

def parseConnectionIdValue : Parsed (Option Bytes) := do
  ParameterError.invalidParameterValue.unless (value.length ≤ maxConnectionIdLen)
  return some value

def parsePreferredAddress : Parsed PreferredAddress := do
  ParameterError.invalidParameterLength.unless (41 ≤ value.length)
  let cidLen := BigEndian.decode 0 ((value.drop 24).take 1)
  ParameterError.invalidParameterValue.unless (cidLen != 0 && cidLen ≤ maxConnectionIdLen)
  ParameterError.invalidParameterLength.unless (value.length == 25 + cidLen + 16)
  return {
    ipv4Address := value.take 4
    ipv4Port := BigEndian.decode 0 ((value.drop 4).take 2)
    ipv6Address := (value.drop 6).take 16
    ipv6Port := BigEndian.decode 0 ((value.drop 22).take 2)
    connectionId := (value.drop 25).take cidLen
    statelessResetToken := value.drop (25 + cidLen) }

def versionWords : List Version :=
  (List.range (value.length / 4)).map fun word =>
    BigEndian.decode 0 ((value.drop (4 * word)).take 4)

def parseVersionInformation : Parsed VersionInformation := do
  ParameterError.invalidParameterLength.unless (4 ≤ value.length && value.length % 4 == 0)
  match versionWords value with
  | [] => .error .invalidParameterLength
  | chosen :: available =>
    ParameterError.invalidParameterValue.unless (chosen != 0 && !isReservedVersion chosen)
    ParameterError.invalidParameterValue.unless (available.all (· != 0))
    return ⟨chosen, available⟩

def TransportParameters.set (result : TransportParameters) (id : ParameterId) (value : Bytes) :
    Parsed TransportParameters :=
  match id with
  | .originalDestinationConnectionId => do
    return { result with originalDestinationConnectionId := ← parseConnectionIdValue value }
  | .maxIdleTimeout => do return { result with maxIdleTimeout := ← parseIntegerValue id value }
  | .statelessResetToken => do
    ParameterError.invalidParameterLength.unless (value.length == 16)
    return { result with statelessResetToken := some value }
  | .maxUdpPayloadSize => do return { result with maxUdpPayloadSize := ← parseIntegerValue id value }
  | .initialMaxData => do return { result with initialMaxData := ← parseIntegerValue id value }
  | .initialMaxStreamDataBidiLocal => do
    return { result with initialMaxStreamDataBidiLocal := ← parseIntegerValue id value }
  | .initialMaxStreamDataBidiRemote => do
    return { result with initialMaxStreamDataBidiRemote := ← parseIntegerValue id value }
  | .initialMaxStreamDataUni => do
    return { result with initialMaxStreamDataUni := ← parseIntegerValue id value }
  | .initialMaxStreamsBidi => do
    return { result with initialMaxStreamsBidi := ← parseIntegerValue id value }
  | .initialMaxStreamsUni => do
    return { result with initialMaxStreamsUni := ← parseIntegerValue id value }
  | .ackDelayExponent => do return { result with ackDelayExponent := ← parseIntegerValue id value }
  | .maxAckDelay => do return { result with maxAckDelay := ← parseIntegerValue id value }
  | .disableActiveMigration => do
    ParameterError.invalidParameterLength.unless (value == [])
    return { result with disableActiveMigration := true }
  | .preferredAddress => do
    return { result with preferredAddress := some (← parsePreferredAddress value) }
  | .activeConnectionIdLimit => do
    return { result with activeConnectionIdLimit := ← parseIntegerValue id value }
  | .initialSourceConnectionId => do
    return { result with initialSourceConnectionId := ← parseConnectionIdValue value }
  | .retrySourceConnectionId => do
    return { result with retrySourceConnectionId := ← parseConnectionIdValue value }
  | .versionInformation => do
    return { result with versionInformation := some (← parseVersionInformation value) }

def takeParameter (seen : List Nat) (data : Bytes) : Parsed (Nat × Bytes × Bytes) :=
  match decodeVarInt data with
  | none => .error .endOfStream
  | some (id, afterId) =>
    match decodeVarInt afterId with
    | none => .error .endOfStream
    | some (valueLen, afterLen) =>
      if seen.contains id then .error .duplicateParameter
      else if afterLen.length < valueLen then .error .endOfStream
      else .ok (id, afterLen.take valueLen, afterLen.drop valueLen)

theorem length_takeParameter {seen : List Nat} {data value rest : Bytes} {id : Nat}
    (taken : takeParameter seen data = .ok (id, value, rest)) : rest.length < data.length := by
  unfold takeParameter at taken
  cases first : decodeVarInt data with
  | none => simp [first] at taken
  | some read =>
    obtain ⟨id', afterId⟩ := read
    have shorter := length_decodeVarInt first
    cases second : decodeVarInt afterId with
    | none => simp [first, second] at taken
    | some read' =>
      obtain ⟨valueLen, afterLen⟩ := read'
      have shorter' := length_decodeVarInt second
      simp only [first, second] at taken
      split_ifs at taken
      obtain ⟨-, cut⟩ := Prod.mk.inj (Except.ok.inj taken)
      obtain ⟨-, rfl⟩ := Prod.mk.inj cut
      rw [List.length_drop]
      omega

def parseFrom (seen : List Nat) (result : TransportParameters) (data : Bytes) : Parsed TransportParameters :=
  if data = [] then .ok result
  else
    match taken : takeParameter seen data with
    | .error error => .error error
    | .ok (id, value, rest) =>
      have := length_takeParameter taken
      match ParameterId.known[id]? with
      | none => parseFrom (id :: seen) result rest
      | some known =>
        match result.set known value with
        | .error error => .error error
        | .ok result => parseFrom (id :: seen) result rest
termination_by data.length

def TransportParameters.parse (data : Bytes) : Parsed TransportParameters := parseFrom [] {} data

def isNegotiableVersion : Bool := version != 0 && !isReservedVersion version

variable (preferred offered : List Version)

def selectMutualVersion : Option Version :=
  preferred.find? fun version => isNegotiableVersion version && offered.contains version

def selectMutualVersionWithExtra (extra : Version) : Option Version :=
  preferred.find? fun version =>
    isNegotiableVersion version && (version == extra || offered.contains version)

structure VersionCompatibility where
  originalVersion : Version
  negotiatedVersion : Version
deriving DecidableEq, Repr

def canConvertFirstFlightVersion (original negotiated : Version)
    (compatibilities : List VersionCompatibility) : Bool :=
  isNegotiableVersion original && isNegotiableVersion negotiated &&
    (original == negotiated || compatibilities.any fun rule =>
      isNegotiableVersion rule.originalVersion && isNegotiableVersion rule.negotiatedVersion &&
        rule.originalVersion == original && rule.negotiatedVersion == negotiated)

def selectCompatibleVersion (preferred : List Version) (client : VersionInformation)
    (compatibilities : List VersionCompatibility) : Option Version :=
  if !isNegotiableVersion client.chosenVersion then none
  else preferred.find? fun version =>
    isNegotiableVersion version && client.containsAvailableVersion version &&
      canConvertFirstFlightVersion client.chosenVersion version compatibilities

structure VersionNegotiationPacket where
  dcid : Bytes
  scid : Bytes
  versions : List Version

/-- A client that already answered one, or that heard from its peer, passes these packets over. -/
def Connection.ignoresVersionNegotiation (c : Connection) : Bool :=
  c.versionNegotiationSelectedVersion.isSome || c.initialPacketSpace.nextPacketNumber == 0 ||
    c.retrySourceConnectionId.isSome || c.initialPacketSpace.discarded ||
    c.initialPacketSpace.nextPeerPacketNumber != 0 || c.handshakePacketSpace.discarded ||
    c.handshakePacketSpace.nextPeerPacketNumber != 0 ||
    c.applicationPacketSpace.nextPeerPacketNumber != 0

def processVersionNegotiationDatagram (nowNanos : Int) (originalDcid localScid : Bytes)
    (negotiation : Option VersionNegotiationPacket) : ConnM (Option Version) := do
  expireState nowNanos
  requireActive
  let c ← get
  failIf (c.side ≠ .client) .invalidPacket
  failIf (originalDcid.length > maxConnectionIdLen ∨ localScid.length > maxConnectionIdLen) .invalidPacket
  if c.ignoresVersionNegotiation then pure none
  else
    let negotiation ← orThrow negotiation .invalidPacket
    if negotiation.dcid ≠ localScid ∨ negotiation.scid ≠ originalDcid ∨
        negotiation.versions.contains c.chosenVersion then pure none
    else
      let selected ← orThrow (selectMutualVersion c.config.availableVersions negotiation.versions)
        .invalidPacket
      modify fun c =>
        { c with versionNegotiationSelectedVersion := some selected }.recordPacketActivity nowNanos
      pure (some selected)

inductive PeerTransportParameterValidationError
  | versionNegotiationError | invalidPacket
deriving DecidableEq, Repr

abbrev Validation := Except PeerTransportParameterValidationError

def require (holds : Bool) : Validation Unit := if holds then .ok () else .error .invalidPacket

def requireVersion (holds : Bool) : Validation Unit :=
  if holds then .ok () else .error .versionNegotiationError

def TransportParameters.integers (params : TransportParameters) : List Nat :=
  [params.maxIdleTimeout, params.maxUdpPayloadSize, params.initialMaxData,
    params.initialMaxStreamDataBidiLocal, params.initialMaxStreamDataBidiRemote,
    params.initialMaxStreamDataUni, params.initialMaxStreamsBidi, params.initialMaxStreamsUni,
    params.ackDelayExponent, params.maxAckDelay, params.activeConnectionIdLimit]

def validatePeerTransportParameterIntegerBounds (params : TransportParameters) : Validation Unit := do
  require (params.integers.all (· ≤ maxQuicVarint))
  require (params.maxUdpPayloadSize ≤ maxUdpPayloadSizeDefault)

variable (cid : Option Bytes)

def validateConnectionIdParameter : Validation Unit :=
  require (cid.all (·.length ≤ maxConnectionIdLen))

namespace Connection

def validateInitialSourceConnectionIdParameter : Validation Unit :=
  require (c.peerInitialSourceConnectionId.all fun expected => cid == some expected)

/-- The check of an identifier that only a server sends: the one expected, or none. -/
def validateServerIdParameter (expected cid : Option Bytes) : Validation Unit :=
  require (c.side != .client || cid == expected)

def validateOriginalDestinationConnectionIdParameter : Validation Unit :=
  c.validateServerIdParameter c.originalDestinationConnectionId cid

def validateRetrySourceConnectionIdParameter : Validation Unit :=
  c.validateServerIdParameter c.retrySourceConnectionId cid

variable (params : TransportParameters)

def validatePeerTransportParameterValues : Validation Unit := do
  validatePeerTransportParameterIntegerBounds params
  require (c.side != .server || params.originalDestinationConnectionId.isNone &&
    params.statelessResetToken.isNone && params.preferredAddress.isNone &&
    params.retrySourceConnectionId.isNone)
  require (params.maxUdpPayloadSize ≥ 1200)
  require (params.initialMaxStreamsBidi ≤ maxStreamCount && params.initialMaxStreamsUni ≤ maxStreamCount)
  require (params.ackDelayExponent ≤ 20)
  require (params.maxAckDelay < 2 ^ 14)
  require (params.activeConnectionIdLimit ≥ minActiveConnectionIdLimit)
  validateConnectionIdParameter params.originalDestinationConnectionId
  validateConnectionIdParameter params.initialSourceConnectionId
  validateConnectionIdParameter params.retrySourceConnectionId
  c.validateInitialSourceConnectionIdParameter params.initialSourceConnectionId
  c.validateOriginalDestinationConnectionIdParameter params.originalDestinationConnectionId
  c.validateRetrySourceConnectionIdParameter params.retrySourceConnectionId
  require (params.preferredAddress.all fun preferred =>
    preferred.connectionId != [] && preferred.connectionId.length ≤ maxConnectionIdLen)

def validatePeerVersionInformationSyntax : Validation Unit := do
  require (information.chosenVersion != 0)
  requireVersion (!isReservedVersion information.chosenVersion)
  require (information.availableVersions.all (· != 0))

def validatePeerVersionInformation : Validation Unit := do
  validatePeerVersionInformationSyntax information
  match c.side with
  | .server =>
    require (information.containsAvailableVersion information.chosenVersion)
    requireVersion (information.chosenVersion == c.chosenVersion)
  | .client =>
    requireVersion (c.config.availableVersions.contains information.chosenVersion)
    match c.versionNegotiationSelectedVersion with
    | none => pure ()
    | some selected =>
      requireVersion (information.chosenVersion == selected)
      requireVersion (information.availableVersions != [])
      requireVersion (selectMutualVersionWithExtra c.config.availableVersions
        information.availableVersions information.chosenVersion == some selected)

def validatePeerTransportParameters : Validation Unit := do
  c.validatePeerTransportParameterValues params
  match params.versionInformation with
  | some information => c.validatePeerVersionInformation information
  | none => requireVersion (c.side != .client || c.versionNegotiationSelectedVersion.all (· == 1))

def validatePeerTransportParametersWithCompatibleVersion
    (compatibilities : List VersionCompatibility) : Validation Version := do
  require (c.side == .server)
  c.validatePeerTransportParameterValues params
  match params.versionInformation with
  | none => .error .invalidPacket
  | some information =>
    validatePeerVersionInformationSyntax information
    require (information.containsAvailableVersion information.chosenVersion)
    match selectCompatibleVersion c.config.availableVersions information compatibilities with
    | none => .error .versionNegotiationError
    | some selected =>
      requireVersion (selected == c.chosenVersion)
      return selected

end Connection

namespace Connection

variable (params : TransportParameters)

def syncRecoveryMaxDatagramSize : Connection :=
  let resize (s : PacketNumberSpaceState) : PacketNumberSpaceState :=
    { s with recoveryState := s.recoveryState.updateMaxDatagramSize c.maxTxDatagramSize }
  { c with
    initialPacketSpace := resize c.initialPacketSpace
    handshakePacketSpace := resize c.handshakePacketSpace
    applicationPacketSpace := resize c.applicationPacketSpace }

def setPeerLimits : Connection :=
  { c with
    peerMaxUdpPayloadSize := params.maxUdpPayloadSize
    peerMaxData := params.initialMaxData
    peerInitialMaxStreamDataBidiLocal := params.initialMaxStreamDataBidiLocal
    peerInitialMaxStreamDataBidiRemote := params.initialMaxStreamDataBidiRemote
    peerInitialMaxStreamDataUni := params.initialMaxStreamDataUni
    peerMaxStreamsBidi := params.initialMaxStreamsBidi
    peerMaxStreamsUni := params.initialMaxStreamsUni
    peerAckDelayExponent := params.ackDelayExponent
    peerMaxIdleTimeoutMs := params.maxIdleTimeout
    peerDisableActiveMigration := params.disableActiveMigration
    peerStatelessResetToken := params.statelessResetToken
    peerPreferredAddress := params.preferredAddress
    peerVersionInformationChosenVersion := params.versionInformation.map VersionInformation.chosenVersion
    peerVersionInformationAvailableVersions :=
      params.versionInformation.map VersionInformation.availableVersions
    peerActiveConnectionIdLimit := params.activeConnectionIdLimit
    peerLimits := c.peerLimits ++ [.initial ⟨params.initialMaxData, params.initialMaxStreamDataBidiLocal,
      params.initialMaxStreamDataBidiRemote, params.initialMaxStreamDataUni, params.initialMaxStreamsBidi,
      params.initialMaxStreamsUni⟩] }

/- A stream that was written to before gets the limit of the parameters even when MAX_STREAM_DATA
had raised it. -/
def applyValidatedPeerTransportParameters : Connection :=
  let limited := (c.setPeerLimits params).modifyRecovery .application
    fun r => { r with maxAckDelayNs := params.maxAckDelay * nsPerMs }
  let resized := limited.syncRecoveryMaxDatagramSize
  { resized with sendStreams := resized.sendStreams.map fun stream =>
      { stream with maxData := resized.initialPeerStreamDataLimit stream.streamId } }

end Connection

def liftValidation (x : Validation α) : ConnM α :=
  match x with
  | .ok a => pure a
  | .error _ => throw .invalidPacket

variable (params : TransportParameters)

def applyPeerTransportParameters : ConnM Unit := do
  requireActive
  liftValidation ((← get).validatePeerTransportParameters params)
  modify fun c => c.applyValidatedPeerTransportParameters params

variable (data : Bytes)

def applyPeerTransportParameterBytes : ConnM Unit :=
  match TransportParameters.parse data with
  | .error _ => throw .invalidPacket
  | .ok params => applyPeerTransportParameters params

def applyPeerTransportParametersWithCompatibleVersion
    (compatibilities : List VersionCompatibility) : ConnM Version := do
  requireActive
  let selected ← liftValidation
    ((← get).validatePeerTransportParametersWithCompatibleVersion params compatibilities)
  modify fun c => c.applyValidatedPeerTransportParameters params
  pure selected

variable (compatibilities : List VersionCompatibility) {α : Type}

def applyPeerTransportParameterBytesWithCompatibleVersion : ConnM Version :=
  match TransportParameters.parse data with
  | .error _ => throw .invalidPacket
  | .ok params => applyPeerTransportParametersWithCompatibleVersion params compatibilities

def cryptoFrameType : Nat := 0x06

/-- The close of a refused extension, on the type of the CRYPTO frame. -/
def closeOnParameters (error : PeerTransportParameterValidationError) : ConnM α := do
  match error with
  | .versionNegotiationError =>
    closeConnection (codeValue .versionNegotiationError) cryptoFrameType
      (textBytes "version negotiation")
  | .invalidPacket =>
    closeConnection (codeValue .transportParameterError) cryptoFrameType
      (textBytes "transport parameters")
  throw .invalidPacket

/-- The shape the two closing entries share: every refusal closes, unless the connection is
closing already. -/
def applyParameterBytesOrClose (data : Bytes) (plain : ConnM α)
    (validate : Connection → TransportParameters → Validation α) : ConnM α := do
  if (← get).isClosingOrClosed then plain
  else
    match TransportParameters.parse data with
    | .error _ => closeOnParameters .invalidPacket
    | .ok params =>
      match validate (← get) params with
      | .error error => closeOnParameters error
      | .ok result =>
        modify fun c => c.applyValidatedPeerTransportParameters params
        pure result

def applyPeerTransportParameterBytesOrClose : ConnM Unit :=
  applyParameterBytesOrClose data (applyPeerTransportParameterBytes data)
    Connection.validatePeerTransportParameters

def applyPeerTransportParameterBytesWithCompatibleVersionOrClose : ConnM Version :=
  applyParameterBytesOrClose data
    (applyPeerTransportParameterBytesWithCompatibleVersion data compatibilities)
    fun c params => c.validatePeerTransportParametersWithCompatibleVersion params compatibilities

end Quicz
