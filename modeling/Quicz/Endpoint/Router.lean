import Quicz.Control
import Quicz.Lib.Reader
import Quicz.Lib.Slots
import Quicz.Varint

/-! The routing table of an endpoint. It maps destination connection IDs to the handles of
connections and the paths they are reached on, and keeps the tokens of stateless resets. -/
namespace Quicz

open Proc

inductive RouteError
  | invalidConnectionIdLength
  | invalidConnectionIdSequence
  | invalidDatagram
  | invalidVersionList
  | invalidResetSize
  | bufferTooSmall
  | duplicateConnectionId
  | routeCapacityReached
  | statelessResetTokenCapacityReached
  | unknownConnectionId
  | ambiguousConnectionId
  | activeMigrationDisabled
  | pathMismatch
deriving DecidableEq, Repr

@[ext]
structure ConnectionId where
  bytes : Bytes
  fits : bytes.length ≤ maxConnectionIdLen
deriving DecidableEq, Repr

def ConnectionId.init (value : Bytes) : Except RouteError ConnectionId :=
  if fits : value.length ≤ maxConnectionIdLen then .ok ⟨value, fits⟩ else .error .invalidConnectionIdLength

structure RouteOptions where
  sequenceNumber : Option Nat := none
  activeMigrationDisabled : Bool := false
  statelessResetToken : Option Bytes := none

structure RouteResult where
  connectionId : Nat
  sequenceNumber : Option Nat
  destinationConnectionId : ConnectionId
  pathChanged : Bool
deriving DecidableEq, Repr

structure InitialAcceptResult where
  path : UdpTuple
  version : Version
  originalDestinationConnectionId : Bytes
  sourceConnectionId : Bytes
  token : Bytes
deriving DecidableEq, Repr

structure AcceptedInitialRouteResult where
  originalDestinationRoute : RouteResult
  serverSourceRoute : RouteResult
deriving DecidableEq, Repr

inductive DatagramAction
  | routed (route : RouteResult)
  | acceptInitial (initial : InitialAcceptResult)
  | versionNegotiation (response : Bytes)
  | statelessReset (reset : Bytes)
  | dropped
deriving DecidableEq, Repr

structure ReplacementResult where
  sequenceNumber : Nat
  retirePriorTo : Nat
  retiredCount : Nat
deriving DecidableEq, Repr

structure Route where
  connectionId : Nat
  sequenceNumber : Option Nat
  destinationConnectionId : ConnectionId
  path : UdpTuple
  activeMigrationDisabled : Bool
deriving DecidableEq, Repr

structure StatelessResetRoute where
  destinationConnectionId : ConnectionId
  token : Bytes
deriving DecidableEq, Repr

structure EndpointRouter where
  maxRoutes : Nat := 2 ^ 64 - 1
  maxStatelessResetTokens : Nat := 2 ^ 64 - 1
  routes : List Route := []
  resetTokens : List StatelessResetRoute := []
deriving DecidableEq, Repr

abbrev RouterM : Type → Type := EStateM RouteError EndpointRouter

def resultForRoute (route : Route) (path : UdpTuple) : Except RouteError RouteResult :=
  let pathChanged := decide (route.path ≠ path)
  if pathChanged && route.activeMigrationDisabled then .error .activeMigrationDisabled
  else .ok ⟨route.connectionId, route.sequenceNumber, route.destinationConnectionId, pathChanged⟩

def isLongHeader (first : UInt8) : Bool := first &&& 0x80 != 0

def hasFixedBit (first : UInt8) : Bool := first &&& 0x40 != 0

variable (datagram : Bytes)

def peekVersion : Version := BigEndian.decode 0 ((datagram.drop 1).take 4)

/-- A long header without the fixed bit is passed over unless its version is 0. -/
def passedOver (first : UInt8) : Except RouteError Bool :=
  if hasFixedBit first then .ok false
  else if datagram.length < 5 then .error .invalidDatagram
  else .ok (peekVersion datagram != 0)

def peekLongDestinationConnectionId : Except RouteError Bytes :=
  match (datagram.drop 5).head? with
  | none => .error .invalidDatagram
  | some dcidLen =>
    if maxConnectionIdLen < dcidLen.toNat then .error .invalidConnectionIdLength
    else if datagram.length < 6 + dcidLen.toNat then .error .invalidDatagram
    else .ok ((datagram.drop 6).take dcidLen.toNat)

structure LongHeaderConnectionIds where
  version : Version
  dcid : Bytes
  scid : Bytes

def peekLongHeaderConnectionIds : Except RouteError LongHeaderConnectionIds := do
  if datagram.length < 6 ∨ !isLongHeader (datagram.headD 0) then throw .invalidDatagram
  let dcid ← peekLongDestinationConnectionId datagram
  match (datagram.drop (6 + dcid.length)).head? with
  | none => throw .invalidDatagram
  | some scidLen =>
    if maxConnectionIdLen < scidLen.toNat then throw .invalidConnectionIdLength
    if datagram.length < 6 + dcid.length + 1 + scidLen.toNat then throw .invalidDatagram
    return ⟨peekVersion datagram, dcid, (datagram.drop (6 + dcid.length + 1)).take scidLen.toNat⟩

def validateSupportedVersions (supportedVersions : List Version) : Except RouteError Unit :=
  if supportedVersions = [] ∨ supportedVersions.any (fun version => version == 0 || isReservedVersion version) then
    .error .invalidVersionList
  else .ok ()

/-- The packet as it is written; both connection IDs were read from a datagram. -/
def encodeVersionNegotiationPacket (dcid scid : Bytes) (versions : List Version) : Bytes :=
  [0xc0, 0, 0, 0, 0] ++ [UInt8.ofNat dcid.length] ++ dcid ++ [UInt8.ofNat scid.length] ++ scid ++
    versions.flatMap (BigEndian.encode 4)

def writeVersionNegotiationForUnsupportedVersion (outLen : Nat) (datagram : Bytes)
    (supportedVersions : List Version) : Except RouteError (Option Bytes) :=
  match datagram with
  | [] => .error .invalidDatagram
  | first :: _ =>
    if !isLongHeader first || !hasFixedBit first then .ok none
    else do
      validateSupportedVersions supportedVersions
      let ids ← peekLongHeaderConnectionIds datagram
      if ids.version = 0 ∨ ids.version ∈ supportedVersions then return none
      let response := encodeVersionNegotiationPacket ids.scid ids.dcid supportedVersions
      if outLen < response.length then throw .bufferTooSmall
      return some response

def versionTwo : Version := 0x6b3343cf

def isInitialPacketType (version : Version) (bits : UInt8) : Bool :=
  if version = versionTwo then bits == 1 else bits == 0

def readSlice (len : Nat) : Reader RouteError Bytes := do
  Reader.refuse ((← Reader.remainingLen) < len) .invalidDatagram
  fun bytes => .ok (bytes.take len, bytes.drop len)

def readConnectionId : Reader RouteError Bytes := do
  let len ← readSlice 1
  Reader.refuse (maxConnectionIdLen < (len.headD 0).toNat) .invalidConnectionIdLength
  readSlice (len.headD 0).toNat

def readHeaderVarInt : Reader RouteError Nat := fun bytes =>
  match decodeVarInt bytes with
  | none => .error .invalidDatagram
  | some result => .ok result

def readInitialFields (path : UdpTuple) (version : Version) (packetNumberLen : Nat) :
    Reader RouteError InitialAcceptResult := do
  let dcid ← readConnectionId
  let scid ← readConnectionId
  let tokenLen ← readHeaderVarInt
  let token ← readSlice tokenLen
  let length ← readHeaderVarInt
  Reader.refuse (length < packetNumberLen) .invalidDatagram
  Reader.refuse ((← Reader.remainingLen) < length) .invalidDatagram
  return ⟨path, version, dcid, scid, token⟩

def peekInitialAcceptDatagram (path : UdpTuple) (datagram : Bytes) (supportedVersions : List Version) :
    Except RouteError (Option InitialAcceptResult) :=
  match datagram with
  | [] => .error .invalidDatagram
  | first :: rest =>
    if !isLongHeader first || !hasFixedBit first then .ok none
    else do
      validateSupportedVersions supportedVersions
      if rest.length < 4 then throw .invalidDatagram
      let version := peekVersion datagram
      if version = 0 ∨ version ∉ supportedVersions ∨ !isInitialPacketType version ((first >>> 4) &&& 3) then
        return none
      let (initial, _) ← readInitialFields path version ((first &&& 3).toNat + 1) (rest.drop 4)
      return some initial

namespace EndpointRouter

variable (r : EndpointRouter) (cid : ConnectionId)

def findRouteIndex : Option (Nat × Route) :=
  Slots.locate (fun route => decide (route.destinationConnectionId = cid)) r.routes

variable (path : UdpTuple)

def findZeroLengthRouteIndex : Option (Nat × Route) :=
  Slots.locate (fun route => decide (route.destinationConnectionId.bytes = [] ∧ route.path = path)) r.routes

def findRouteIndexForPath : Option (Nat × Route) :=
  if cid.bytes = [] then r.findZeroLengthRouteIndex path else r.findRouteIndex cid

def findRouteSequenceIndex (connectionId sequenceNumber : Nat) : Option (Nat × Route) :=
  Slots.locate (fun route => decide (route.connectionId = connectionId ∧ route.sequenceNumber = some sequenceNumber))
    r.routes

def findStatelessResetTokenIndex : Option (Nat × StatelessResetRoute) :=
  Slots.locate (fun reset => decide (reset.destinationConnectionId = cid)) r.resetTokens

variable (datagram : Bytes)

def startsWith (cid : ConnectionId) : Bool := cid.bytes.isPrefixOf (datagram.drop 1)

/-- Whether a short header can be meant for a route: one with an empty connection ID is known by its
path. -/
def matchesShort (route : Route) : Bool :=
  if route.destinationConnectionId.bytes = [] then decide (route.path = path)
  else startsWith datagram route.destinationConnectionId

def findShortRouteIndex : Except RouteError (Option Route) :=
  Slots.unique (matchesShort path datagram) .ambiguousConnectionId r.routes none

def findShortStatelessResetTokenIndex : Except RouteError (Option StatelessResetRoute) :=
  Slots.unique (fun reset => startsWith datagram reset.destinationConnectionId) .ambiguousConnectionId
    r.resetTokens none

variable (r : EndpointRouter) (destinationConnectionId : Bytes)

def routeConnectionIdAddress (path : UdpTuple) : Except RouteError RouteResult := do
  let cid ← ConnectionId.init destinationConnectionId
  match r.findRouteIndexForPath cid path with
  | none => .error .unknownConnectionId
  | some (_, route) => resultForRoute route path

variable (outLen : Nat) (path : UdpTuple)

def routeShortDatagram (datagram : Bytes) : Except RouteError RouteResult := do
  match ← r.findShortRouteIndex path datagram with
  | none => .error .unknownConnectionId
  | some route => resultForRoute route path

def routeDatagramAddress (datagram : Bytes) : Except RouteError RouteResult :=
  match datagram with
  | [] => .error .invalidDatagram
  | first :: _ =>
    if isLongHeader first then do
      if ← passedOver datagram first then throw .invalidDatagram
      r.routeConnectionIdAddress (← peekLongDestinationConnectionId datagram) path
    else if !hasFixedBit first then .error .invalidDatagram
    else r.routeShortDatagram path datagram

def currentRoutePathAddress : Except RouteError UdpTuple := do
  let cid ← ConnectionId.init destinationConnectionId
  match r.findRouteIndex cid with
  | none => .error .unknownConnectionId
  | some (_, route) => .ok route.path

def statelessResetTokenForDatagramAddress (datagram : Bytes) : Except RouteError (Option Bytes) :=
  match datagram with
  | [] => .error .invalidDatagram
  | first :: _ =>
    if isLongHeader first then do
      if ← passedOver datagram first then return none
      let dcid ← ConnectionId.init (← peekLongDestinationConnectionId datagram)
      if (r.findRouteIndexForPath dcid path).isSome then return none
      return (r.findStatelessResetTokenIndex dcid).map (·.2.token)
    else if !hasFixedBit first then .ok none
    else do
      if (← r.findShortRouteIndex path datagram).isSome then return none
      return (← r.findShortStatelessResetTokenIndex datagram).map (·.token)

def isStatelessResetPrefix (unpredictable : Bytes) : Bool :=
  unpredictable.head?.any fun first => first &&& 0xc0 == 0x40

def writeStatelessResetForDatagramAddress (triggeringDatagram unpredictable : Bytes) :
    Except RouteError (Option Bytes) := do
  match ← r.statelessResetTokenForDatagramAddress path triggeringDatagram with
  | none => return none
  | some token =>
    if unpredictable.length < minStatelessResetDatagramLen - statelessResetTokenLen ∨
        !isStatelessResetPrefix unpredictable then throw .invalidResetSize
    let reset := unpredictable ++ token
    if triggeringDatagram.length ≤ reset.length then throw .invalidResetSize
    if outLen < reset.length then throw .bufferTooSmall
    return some reset

variable (datagram unpredictable : Bytes)

def resetOrDrop : Except RouteError DatagramAction := do
  match ← r.writeStatelessResetForDatagramAddress outLen path datagram unpredictable with
  | some reset => return .statelessReset reset
  | none => return .dropped

def handleDatagramAddress : Except RouteError DatagramAction :=
  match datagram with
  | [] => .error .invalidDatagram
  | first :: _ => do
    let ignored ← if isLongHeader first then passedOver datagram first else .ok (!hasFixedBit first)
    if ignored then return .dropped
    match r.routeDatagramAddress path datagram with
    | .ok route => return .routed route
    | .error .unknownConnectionId => r.resetOrDrop outLen path datagram unpredictable
    | .error e => throw e

def handleDatagramWithVersionNegotiationAddress
    (supportedVersions : List Version) : Except RouteError DatagramAction := do
  match ← writeVersionNegotiationForUnsupportedVersion outLen datagram supportedVersions with
  | some response => return .versionNegotiation response
  | none =>
    match ← r.handleDatagramAddress outLen path datagram unpredictable with
    | .dropped =>
      match ← peekInitialAcceptDatagram path datagram supportedVersions with
      | some accept => return .acceptInitial accept
      | none => return .dropped
    | action => return action

variable (r : EndpointRouter)

variable (cid : ConnectionId)

def ensureStatelessResetTokenAllowed (token : Bytes) : Except RouteError Unit :=
  if r.resetTokens.any fun reset => decide (reset.destinationConnectionId = cid) != decide (reset.token = token) then
    .error .duplicateConnectionId
  else .ok ()

def ensureStatelessResetTokenRoom : Except RouteError Unit :=
  if (r.findStatelessResetTokenIndex cid).isNone ∧ r.maxStatelessResetTokens ≤ r.resetTokens.length then
    .error .statelessResetTokenCapacityReached
  else .ok ()

/-- The connection ID of a new route is not in use; an empty one is known by the path and carries
neither a sequence number nor a token. -/
def ensureConnectionIdAllowed (path : UdpTuple) (options : RouteOptions) : Except RouteError Unit :=
  if cid.bytes = [] then
    if options.sequenceNumber.isSome ∨ options.statelessResetToken.isSome then .error .invalidConnectionIdLength
    else if (r.findZeroLengthRouteIndex path).isSome then .error .duplicateConnectionId
    else .ok ()
  else if (r.findRouteIndex cid).isSome then .error .duplicateConnectionId
  else .ok ()

def ensureSequenceNumberAllowed (connectionId : Nat) : Option Nat → Except RouteError Unit
  | none => .ok ()
  | some sequenceNumber =>
    if (r.findRouteSequenceIndex connectionId sequenceNumber).isSome then .error .duplicateConnectionId else .ok ()

def ensureTokenAllowed : Option Bytes → Except RouteError Unit
  | none => .ok ()
  | some token => do
    r.ensureStatelessResetTokenAllowed cid token
    r.ensureStatelessResetTokenRoom cid

def withStatelessResetToken (r : EndpointRouter) (cid : ConnectionId) (token : Bytes) : EndpointRouter :=
  if (r.findStatelessResetTokenIndex cid).isSome then r
  else { r with resetTokens := r.resetTokens ++ [⟨cid, token⟩] }

def registerStatelessResetTokenForCid (cid : ConnectionId) (token : Bytes) : RouterM Unit :=
  modify (·.withStatelessResetToken cid token)

def registerConnectionIdAddress (connectionId : Nat) (destinationConnectionId : Bytes) (path : UdpTuple)
    (options : RouteOptions) : RouterM Unit := do
  let cid ← lift (ConnectionId.init destinationConnectionId)
  let r ← get
  lift (r.ensureConnectionIdAllowed cid path options)
  lift (r.ensureSequenceNumberAllowed connectionId options.sequenceNumber)
  lift (r.ensureTokenAllowed cid options.statelessResetToken)
  failIf (r.maxRoutes ≤ r.routes.length) .routeCapacityReached
  let route : Route := ⟨connectionId, options.sequenceNumber, cid, path, options.activeMigrationDisabled⟩
  set { r with routes := r.routes ++ [route] }
  match options.statelessResetToken with
  | none => pure ()
  | some token => registerStatelessResetTokenForCid cid token

def registerStatelessResetToken (destinationConnectionId token : Bytes) : RouterM Unit := do
  let cid ← lift (ConnectionId.init destinationConnectionId)
  failIf (cid.bytes = []) .invalidConnectionIdLength
  let r ← get
  lift (r.ensureTokenAllowed cid (some token))
  registerStatelessResetTokenForCid cid token

def registerClientInitialSourceConnectionIdAddress (connectionId : Nat) (clientSourceConnectionId : Bytes)
    (path : UdpTuple) (activeMigrationDisabled : Bool) : RouterM RouteResult := do
  registerConnectionIdAddress connectionId clientSourceConnectionId path { activeMigrationDisabled }
  lift ((← get).routeConnectionIdAddress clientSourceConnectionId path)

variable (destinationConnectionId : Bytes)

def retireConnectionId : RouterM Bool := do
  let cid ← lift (ConnectionId.init destinationConnectionId)
  failIf (cid.bytes = []) .ambiguousConnectionId
  let r ← get
  match r.findRouteIndex cid with
  | none => pure false
  | some (index, _) => do
    set { r with routes := r.routes.eraseIdx index }
    pure true

def retireConnectionIdOnPathAddress (path : UdpTuple) : RouterM Bool := do
  let cid ← lift (ConnectionId.init destinationConnectionId)
  let r ← get
  match r.findRouteIndexForPath cid path with
  | none => pure false
  | some (index, _) => do
    set { r with routes := r.routes.eraseIdx index }
    pure true

def retireConnectionIdSequence (connectionId sequenceNumber : Nat) : RouterM Bool := do
  let r ← get
  match r.findRouteSequenceIndex connectionId sequenceNumber with
  | none => pure false
  | some (index, _) => do
    set { r with routes := r.routes.eraseIdx index }
    pure true

def retireRoutesWhere (retired : Route → Bool) : RouterM Nat := do
  let r ← get
  let kept := r.routes.filter fun route => !retired route
  set { r with routes := kept }
  pure (r.routes.length - kept.length)

def retireConnectionIdSequencesBefore (connectionId retirePriorTo : Nat) : RouterM Nat :=
  retireRoutesWhere fun route =>
    decide (route.connectionId = connectionId) && route.sequenceNumber.any (decide <| · < retirePriorTo)

def retireConnectionRoutes (connectionId : Nat) : RouterM Nat :=
  retireRoutesWhere fun route => decide (route.connectionId = connectionId)

def registerAcceptedInitialConnectionIds (connectionId : Nat) (initialAccept : InitialAcceptResult)
    (serverSourceConnectionId : Bytes) (activeMigrationDisabled : Bool) (statelessResetToken : Option Bytes) :
    RouterM AcceptedInitialRouteResult := do
  let originalCid ← lift (ConnectionId.init initialAccept.originalDestinationConnectionId)
  failIf (originalCid.bytes.length < 8) .invalidConnectionIdLength
  let serverCid ← lift (ConnectionId.init serverSourceConnectionId)
  registerConnectionIdAddress connectionId originalCid.bytes initialAccept.path { activeMigrationDisabled }
  onError
    (do
      registerConnectionIdAddress connectionId serverCid.bytes initialAccept.path {
        sequenceNumber := if serverCid.bytes = [] then none else some 0
        activeMigrationDisabled
        statelessResetToken }
      let r ← get
      let original ← lift (r.routeConnectionIdAddress originalCid.bytes initialAccept.path)
      let server ← lift (r.routeConnectionIdAddress serverCid.bytes initialAccept.path)
      pure (AcceptedInitialRouteResult.mk original server))
    (after (retireConnectionIdOnPathAddress originalCid.bytes initialAccept.path))

def registerReplacementConnectionIdAddress (connectionId : Nat) (destinationConnectionId : Bytes)
    (path : UdpTuple) (sequenceNumber retirePriorTo : Nat) (activeMigrationDisabled : Bool)
    (statelessResetToken : Option Bytes) : RouterM ReplacementResult := do
  failIf (sequenceNumber < retirePriorTo) .invalidConnectionIdSequence
  registerConnectionIdAddress connectionId destinationConnectionId path {
    sequenceNumber := some sequenceNumber
    activeMigrationDisabled
    statelessResetToken }
  let retiredCount ← retireConnectionIdSequencesBefore connectionId retirePriorTo
  pure (ReplacementResult.mk sequenceNumber retirePriorTo retiredCount)

def switchInitialDestinationConnectionIdAfterRetryAddress (originalDestinationConnectionId
    retrySourceConnectionId : Bytes) (path : UdpTuple) : RouterM RouteResult := do
  let originalCid ← lift (ConnectionId.init originalDestinationConnectionId)
  let retryCid ← lift (ConnectionId.init retrySourceConnectionId)
  let r ← get
  let (index, route) ← orThrow (r.findRouteIndexForPath originalCid path) .unknownConnectionId
  failIf (route.path ≠ path) .pathMismatch
  failIf route.sequenceNumber.isSome .invalidConnectionIdSequence
  failIf ((r.findRouteIndexForPath retryCid path).any (·.1 ≠ index)) .duplicateConnectionId
  let switched := { route with destinationConnectionId := retryCid }
  set { r with routes := r.routes.set index switched }
  lift (resultForRoute switched path)

def commitPreferredAddressMigrationAddress (currentDestinationConnectionId : Bytes) (currentPath : UdpTuple)
    (preferredDestinationConnectionId : Bytes) (preferredPath : UdpTuple)
    (preferredStatelessResetToken : Bytes) : RouterM RouteResult := do
  let currentCid ← lift (ConnectionId.init currentDestinationConnectionId)
  let preferredCid ← lift (ConnectionId.init preferredDestinationConnectionId)
  failIf (preferredCid.bytes = []) .invalidConnectionIdLength
  let r ← get
  let (currentIndex, currentRoute) ← orThrow (r.findRouteIndexForPath currentCid currentPath) .unknownConnectionId
  failIf (currentRoute.path ≠ currentPath) .pathMismatch
  registerConnectionIdAddress currentRoute.connectionId preferredCid.bytes preferredPath {
    activeMigrationDisabled := currentRoute.activeMigrationDisabled
    statelessResetToken := some preferredStatelessResetToken }
  modify fun r => { r with routes := r.routes.eraseIdx currentIndex }
  let r ← get
  let (_, preferred) ← orThrow (r.findRouteIndexForPath preferredCid preferredPath) .unknownConnectionId
  lift (resultForRoute preferred preferredPath)

def moveRoute (r : EndpointRouter) (index : Nat) (route : Route) (newPath : UdpTuple) : EndpointRouter :=
  { r with routes := r.routes.set index { route with path := newPath } }

variable (destinationConnectionId : Bytes)

def updateRoutePathAddress (currentPath newPath : UdpTuple) : RouterM RouteResult := do
  let cid ← lift (ConnectionId.init destinationConnectionId)
  let r ← get
  let (index, route) ← orThrow (r.findRouteIndexForPath cid currentPath) .unknownConnectionId
  failIf (route.path ≠ currentPath) .pathMismatch
  failIf (route.path ≠ newPath ∧ route.activeMigrationDisabled) .activeMigrationDisabled
  failIf (cid.bytes = [] ∧ route.path ≠ newPath ∧ (r.findZeroLengthRouteIndex newPath).any (·.1 ≠ index))
    .duplicateConnectionId
  set (r.moveRoute index route newPath)
  lift (resultForRoute { route with path := newPath } newPath)

def updateRoutePathFromValidatedDatagramAddress (newPath : UdpTuple) : RouterM RouteResult := do
  let cid ← lift (ConnectionId.init destinationConnectionId)
  failIf (cid.bytes = []) .ambiguousConnectionId
  let r ← get
  let (index, route) ← orThrow (r.findRouteIndex cid) .unknownConnectionId
  failIf (route.path ≠ newPath ∧ route.activeMigrationDisabled) .activeMigrationDisabled
  set (r.moveRoute index route newPath)
  lift (resultForRoute { route with path := newPath } newPath)

end EndpointRouter

end Quicz
