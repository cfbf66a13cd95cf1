import Quicz.Endpoint.Router
import Quicz.Frames

/-! The lifecycle of an endpoint: the routes and the loss detection timers of its connections, by
handle. The connections belong to the caller, who hands over the one a call is about. -/
namespace Quicz

open Proc

structure EndpointLossDetectionTimerDeadline where
  connectionId : Nat
  timer : Connection.LossDetectionTimerDeadline
deriving DecidableEq, Repr

structure EndpointLossDetectionTimers where
  entries : List EndpointLossDetectionTimerDeadline := []
deriving DecidableEq, Repr

namespace EndpointLossDetectionTimers
variable (t : EndpointLossDetectionTimers) (connectionId : Nat)

def findIndex : Option (Nat × EndpointLossDetectionTimerDeadline) :=
  Slots.locate (fun entry => decide (entry.connectionId = connectionId)) t.entries

def update (timer : Option Connection.LossDetectionTimerDeadline) : EndpointLossDetectionTimers :=
  match timer, t.findIndex connectionId with
  | some deadline, some (index, _) => ⟨t.entries.set index ⟨connectionId, deadline⟩⟩
  | some deadline, none => ⟨t.entries ++ [⟨connectionId, deadline⟩]⟩
  | none, some (index, _) => ⟨t.entries.eraseIdx index⟩
  | none, none => t

def armFromConnection (c : Connection) : EndpointLossDetectionTimers :=
  t.update connectionId c.lossDetectionTimerDeadline

def disarmConnection : Bool × EndpointLossDetectionTimers :=
  match t.findIndex connectionId with
  | none => (false, t)
  | some (index, _) => (true, ⟨t.entries.eraseIdx index⟩)

def deadlineForConnection : Option EndpointLossDetectionTimerDeadline := (t.findIndex connectionId).map (·.2)

end EndpointLossDetectionTimers

structure EndpointConnectionLifecycle where
  router : EndpointRouter := {}
  recoveryTimers : EndpointLossDetectionTimers := {}
deriving DecidableEq, Repr

structure EndpointConnectionRetireResult where
  routesRetired : Nat
  recoveryTimerDisarmed : Bool
deriving DecidableEq, Repr

structure Attended where
  lifecycle : EndpointConnectionLifecycle
  connection : Connection

abbrev AttendM : Type → Type := EStateM Error Attended

def onConnection {α : Type} (m : ConnM α) : AttendM α :=
  zoom Attended.connection (fun c a => { a with connection := c }) m

def Attended.armed (connectionId : Nat) (a : Attended) : Attended :=
  { a with lifecycle := { a.lifecycle with
      recoveryTimers := a.lifecycle.recoveryTimers.armFromConnection connectionId a.connection } }

def armRecoveryTimerFromConnection (connectionId : Nat) : AttendM Unit := modify (·.armed connectionId)

/-- A call on the connection; the timer is armed again, also when it fails. -/
def mirrored {α : Type} (connectionId : Nat) (m : ConnM α) : AttendM α := do
  let result ← onError (onConnection m) (·.armed connectionId)
  armRecoveryTimerFromConnection connectionId
  pure result

variable (lifecycle : EndpointConnectionLifecycle)

def EndpointConnectionLifecycle.retireConnection (connectionId : Nat) :
    EndpointConnectionRetireResult × EndpointConnectionLifecycle :=
  let (disarmed, recoveryTimers) := lifecycle.recoveryTimers.disarmConnection connectionId
  (⟨lifecycle.router.routes.countP fun route => route.connectionId = connectionId, disarmed⟩,
    { router := after (EndpointRouter.retireConnectionRoutes connectionId) lifecycle.router, recoveryTimers })

def retireConnection (connectionId : Nat) : AttendM EndpointConnectionRetireResult := do
  let a ← get
  let (result, lifecycle) := a.lifecycle.retireConnection connectionId
  set { a with lifecycle }
  pure result

inductive EndpointConnectionDeadlineKind
  | idleTimeout | closeTimeout | recovery | keyDiscard
deriving DecidableEq, Repr

structure EndpointConnectionDeadline where
  connectionId : Nat
  deadlineNanos : Int
  kind : EndpointConnectionDeadlineKind
  recovery : Option Connection.LossDetectionTimerDeadline := none
deriving DecidableEq, Repr

def Connection.oneRttKeyDiscardDeadline (c : Connection) : Option Int :=
  let own := c.localOneRttKeyPhaseState.bind (·.previousDiscardDeadlineNanos)
  let peer := c.peerOneRttKeyPhaseState.bind (·.previousDiscardDeadlineNanos)
  match own, peer with
  | none, peer => peer
  | own, none => own
  | some deadline, some candidate => if candidate < deadline then some candidate else some deadline

def EndpointConnectionDeadline.sooner (next candidate : Option EndpointConnectionDeadline) :
    Option EndpointConnectionDeadline :=
  match next, candidate with
  | next, none => next
  | none, candidate => candidate
  | some next, some candidate => if candidate.deadlineNanos < next.deadlineNanos then some candidate else some next

def EndpointConnectionLifecycle.nextDeadline (connectionId : Nat)
    (c : Connection) : Option EndpointConnectionDeadline :=
  let idle := if c.state = .active then
      c.idleTimeoutDeadline.map fun deadline => { connectionId, deadlineNanos := deadline, kind := .idleTimeout }
    else none
  let close := if c.state = .closing ∨ c.state = .draining then
      c.closeDeadlineNanos.map fun deadline => { connectionId, deadlineNanos := deadline, kind := .closeTimeout }
    else none
  let recovery := if c.state = .active then
      (lifecycle.recoveryTimers.deadlineForConnection connectionId).map fun deadline =>
        { connectionId, deadlineNanos := deadline.timer.deadlineNanos, kind := .recovery,
          recovery := some deadline.timer }
    else none
  let keyDiscard := if c.state = .active then
      c.oneRttKeyDiscardDeadline.map fun deadline =>
        { connectionId, deadlineNanos := deadline, kind := .keyDiscard }
    else none
  [close, recovery, keyDiscard].foldl EndpointConnectionDeadline.sooner idle

structure EndpointPendingWorkResult where
  idleRetired : Option EndpointConnectionRetireResult := none
  closeRetired : Option EndpointConnectionRetireResult := none
  keyDiscardServiced : Bool := false
  recoveryServiced : Option EndpointLossDetectionTimerDeadline := none
deriving DecidableEq, Repr

/-- The check of a timeout. A connection in one of the states the timeout ends is retired when the
check closes it; in another state the failure of the check is passed on. -/
def checkTimeoutsAndRetireConnection (ends : ConnectionState → Bool) (check : ConnM Unit) (connectionId : Nat) :
    AttendM (Option EndpointConnectionRetireResult) := do
  if !ends (← get).connection.state then
    onConnection check
    pure none
  else
    recover
      (do
        onConnection check
        pure none)
      fun e => if e = .connectionClosed then some <$> retireConnection connectionId else throw e

variable (connectionId : Nat) (nowNanos : Int)

def checkIdleTimeoutsAndRetireConnection : AttendM (Option EndpointConnectionRetireResult) :=
  checkTimeoutsAndRetireConnection (· == .active) (checkIdleTimeouts nowNanos) connectionId

def checkCloseTimeoutsAndRetireConnection : AttendM (Option EndpointConnectionRetireResult) :=
  checkTimeoutsAndRetireConnection (fun state => state == .closing || state == .draining)
    (checkCloseTimeouts nowNanos) connectionId

def serviceRecoveryTimer : AttendM (Option EndpointLossDetectionTimerDeadline) := do
  let serviced ← onConnection (serviceLossDetectionTimer nowNanos)
  armRecoveryTimerFromConnection connectionId
  pure (serviced.map fun timer => ⟨connectionId, timer⟩)

def Connection.holdsExpiredOneRttKeys (c : Connection) (nowNanos : Int) : Bool :=
  c.localOneRttKeyPhaseState.any (·.previousExpired nowNanos) ||
    c.peerOneRttKeyPhaseState.any (·.previousExpired nowNanos)

def servicePendingKeysAndRecovery : AttendM EndpointPendingWorkResult := do
  let keyDiscardServiced := (← get).connection.holdsExpiredOneRttKeys nowNanos
  onConnection (discardExpiredOneRttKeys nowNanos)
  let recoveryServiced ← serviceRecoveryTimer connectionId nowNanos
  pure { keyDiscardServiced, recoveryServiced }

def processPendingWork : AttendM EndpointPendingWorkResult := do
  match ← checkIdleTimeoutsAndRetireConnection connectionId nowNanos with
  | some retired => pure { idleRetired := some retired }
  | none =>
    match ← checkCloseTimeoutsAndRetireConnection connectionId nowNanos with
    | some retired => pure { closeRetired := some retired }
    | none => servicePendingKeysAndRecovery connectionId nowNanos

inductive EndpointInstalledKeyDatagramSpace
  | handshake | zeroRtt | application
deriving DecidableEq, Repr

structure EndpointPollInstalledKeyDatagramOptions where
  space : EndpointInstalledKeyDatagramSpace
  destinationConnectionId : Bytes
  sourceConnectionId : Bytes := []

variable (nowNanos : Int)

def pollProtectedZeroRttDatagramWithInstalledKeys (dcid scid : Bytes) : ConnM (Option Datagram) := do
  failIf (← get).localZeroRttKeys.isNone .invalidPacket
  pollProtectedZeroRttDatagram nowNanos ⟨dcid, scid, []⟩

def pollProtectedShortDatagramWithInstalledKeys (dcid : Bytes) : ConnM (Option Datagram) := do
  failIf (← get).localOneRttKeyPhaseState.isNone .invalidPacket
  pollProtectedShortDatagram nowNanos dcid.length

def pollInstalledKeyDatagram (options : EndpointPollInstalledKeyDatagramOptions) : ConnM (Option Datagram) :=
  match options.space with
  | .handshake =>
    pollProtectedHandshakeDatagramWithInstalledKeys nowNanos options.destinationConnectionId
      options.sourceConnectionId
  | .zeroRtt =>
    pollProtectedZeroRttDatagramWithInstalledKeys nowNanos options.destinationConnectionId
      options.sourceConnectionId
  | .application => pollProtectedShortDatagramWithInstalledKeys nowNanos options.destinationConnectionId

def pollDatagram (connectionId : Nat) (nowNanos : Int) (options : EndpointPollInstalledKeyDatagramOptions) :
    AttendM (Option Datagram) :=
  mirrored connectionId (pollInstalledKeyDatagram nowNanos options)

inductive EndpointProtectedDatagramError
  | route (e : RouteError)
  | connection (e : Error)
deriving DecidableEq, Repr

abbrev FeedM : Type → Type := EStateM EndpointProtectedDatagramError Attended

def attend (m : AttendM α) : FeedM α := rethrow .connection m

def onRouter (m : RouterM α) : FeedM α :=
  rethrow .route (zoom (fun a : Attended => a.lifecycle.router)
    (fun router a => { a with lifecycle := { a.lifecycle with router } }) m)

/-- A datagram from the socket: its bytes, and what the packet protection makes of them when they are
taken as a short or a long packet of the connection. -/
structure FedDatagram where
  bytes : Bytes
  shortSeal : ShortPacketSeal
  shortOpened : OpenedPacket
  long : OpenedLongPacket

def FedDatagram.short (datagram : FedDatagram) : ShortDatagram :=
  ⟨datagram.shortSeal, datagram.shortOpened, datagram.bytes.length⟩

structure EndpointFeedInstalledKeyDatagramOptions where
  space : EndpointInstalledKeyDatagramSpace
  outLen : Nat
  unpredictable : Bytes
  supportedVersions : List Version
  pathChallengeData : Option Bytes := none

structure EndpointFeedInstalledKeyPathUpdateResult where
  feed : DatagramAction
  updatedRoute : Option RouteResult := none
  pathChallengeQueued : Bool := false
  selectedOutputPath : Option UdpTuple := none

def EndpointConnectionLifecycle.feedDatagram (outLen : Nat)
    (path : UdpTuple) (datagram unpredictable : Bytes) (supportedVersions : List Version) :
    Except RouteError DatagramAction :=
  lifecycle.router.handleDatagramWithVersionNegotiationAddress outLen path datagram unpredictable supportedVersions

variable (connectionId : Nat) (route : RouteResult) (path : UdpTuple) (nowNanos : Int) {α : Type}

def processRoutedStatelessResetDatagram (datagram : Bytes) : AttendM Bool := do
  if datagram.head?.all isLongHeader then pure false
  else if (← onConnection (processStatelessResetDatagram nowNanos datagram)).isNone then pure false
  else
    armRecoveryTimerFromConnection connectionId
    pure true

def Connection.outstandingPathChallengeCountForPath (c : Connection) (path : UdpTuple) : Nat :=
  c.outstandingPathChallenges.countP fun challenge => challenge.path = some path

def withReceivePathHint (path : UdpTuple) (m : FeedM α) : FeedM α := do
  let hint (path : Option UdpTuple) (a : Attended) : Attended :=
    { a with connection := { a.connection with receivePathHint := path } }
  modify (hint (some path))
  let result ← onError m (hint none)
  modify (hint none)
  pure result

/-- The route moves when a challenge that is bound to the path was answered. -/
def commitRoutePath (outstandingBefore : Nat) : FeedM (Option RouteResult) := do
  let outstandingAfter := (← get).connection.outstandingPathChallengeCountForPath path
  if route.pathChanged ∧ outstandingAfter < outstandingBefore then
    some <$> onRouter
      (EndpointRouter.updateRoutePathFromValidatedDatagramAddress route.destinationConnectionId.bytes path)
  else pure none

/-- Otherwise a changed path is challenged, when no challenge is under way. -/
def challengeChangedPath (updatedRoute : Option RouteResult) (pathChallengeData : Option Bytes) : FeedM Bool := do
  let c := (← get).connection
  if updatedRoute.isNone ∧ route.pathChanged ∧ c.pendingPathChallenges = [] ∧ c.outstandingPathChallenges = [] then
    match pathChallengeData with
    | none => pure false
    | some data =>
      attend (onConnection (sendPathChallengeForPath data path))
      pure true
  else pure false

def feedApplicationDatagram (datagram : FedDatagram) (pathChallengeData : Option Bytes) :
    FeedM EndpointFeedInstalledKeyPathUpdateResult := do
  let outstandingBefore := (← get).connection.outstandingPathChallengeCountForPath path
  attend (mirrored connectionId (processProtectedShortDatagramWithInstalledKeysOrClose nowNanos datagram.short))
  let updatedRoute ← commitRoutePath route path outstandingBefore
  let pathChallengeQueued ← challengeChangedPath route path updatedRoute pathChallengeData
  pure {
    feed := .routed route
    updatedRoute
    pathChallengeQueued
    selectedOutputPath := if updatedRoute.isSome ∨ pathChallengeQueued then some path else none }

def feedRoutedDatagram (datagram : FedDatagram)
    (options : EndpointFeedInstalledKeyDatagramOptions) : FeedM EndpointFeedInstalledKeyPathUpdateResult := do
  failIf (route.connectionId ≠ connectionId) (.connection .invalidPacket)
  if ← attend (processRoutedStatelessResetDatagram connectionId nowNanos datagram.bytes) then
    pure { feed := .dropped }
  else
    match options.space with
    | .handshake => do
      attend (mirrored connectionId (processProtectedHandshakeDatagramWithInstalledKeysOrClose nowNanos
        datagram.bytes.length datagram.long))
      pure { feed := .routed route }
    | .zeroRtt => do
      attend (mirrored connectionId (processProtectedZeroRttDatagramWithInstalledKeysOrClose nowNanos
        datagram.bytes.length datagram.long))
      pure { feed := .routed route }
    | .application =>
      feedApplicationDatagram connectionId route path nowNanos datagram options.pathChallengeData

def feedDatagramWithInstalledKeysAndUpdatePathOrClose (datagram : FedDatagram)
    (options : EndpointFeedInstalledKeyDatagramOptions) : FeedM EndpointFeedInstalledKeyPathUpdateResult :=
  withReceivePathHint path do
    let lifecycle := (← get).lifecycle
    let action ← rethrow .route (lift (lifecycle.feedDatagram options.outLen path datagram.bytes
      options.unpredictable options.supportedVersions))
    match action with
    | .routed route => feedRoutedDatagram connectionId route path nowNanos datagram options
    | action => pure { feed := action }

end Quicz
