import Mathlib.Logic.Relation
import Quicz.Frames
import Quicz.Ledger
import Quicz.TransportParameters

/-! What a connection keeps besides the contents of its streams and the books on its packets:
where it is in its life, when it was last active, the connection IDs of the peer, the path
challenges, what the peer allows it to send, and the frames it has handled. Each part is a machine of
its own, with a step for everything a call can do to it. -/
namespace Quicz

open Chunks

structure PathRule where
  hears : HeardFrame → Prop
  waits : Prop
  arrives : Prop

structure ActivityRule where
  brings : ReceivedPayload → Prop
  clock : Int → Prop
  admits : Prop
  tunes : Prop

structure AllowanceRule where
  opens : Prop
  writes : Prop

structure UpkeepRule extends PathRule, ActivityRule, AllowanceRule where
  identifies : Prop

def UpkeepRule.any : UpkeepRule where
  hears _ := True
  waits := True
  arrives := True
  brings _ := True
  clock _ := True
  admits := True
  tunes := True
  opens := True
  writes := True
  identifies := True

structure Life where
  state : ConnectionState
  pendingClose : Option PendingCloseFrame
  closed : Bool
  deadline : Option Int

inductive LifeStep : Life → Life → Prop
  | closes {l : Life} (close : PendingCloseFrame) (active : l.state = .active) (running : l.closed = false) :
    LifeStep l { l with state := .closing, pendingClose := some close, deadline := none }
  | enters {l : Life} (deadline : Int) (pending : l.pendingClose.isSome) :
    LifeStep l { l with state := .closing, closed := true, deadline := some deadline }
  | drains {l : Life} (deadline : Int) (going : l.state ≠ .closed) :
    LifeStep l ⟨.draining, none, true, some deadline⟩
  | expires (l : Life) : LifeStep l ⟨.closed, none, true, none⟩

theorem LifeStep.of_eq {l m t : Life} (step : LifeStep l m) (same : t = m) : LifeStep l t := same ▸ step

abbrev LifeSteps : Life → Life → Prop := Relation.ReflTransGen LifeStep

instance : IsPreorder Life LifeSteps where
  refl _ := .refl
  trans _ _ _ := .trans

def Frame.isClose : Frame → Bool
  | .connectionClose _ | .applicationClose _ => true
  | _ => false

/-- The frames of a payload with the states in which the loop comes to them. -/
def heardAs : ConnectionState → List Frame → List HeardFrame
  | _, [] => []
  | state, frame :: rest => ⟨frame, state⟩ :: heardAs (if frame.isClose then .draining else state) rest

variable (events : List Event)

def packetsSent : Nat :=
  events.countP fun
    | .emitted _ | .recorded _ _ _ => true
    | _ => false

structure Activity where
  own : Nat
  peer : Nat
  last : Option Int
  sent : Nat
  heard : List HeardFrame

namespace Activity

variable (a : Activity)

def timeout : Option Nat :=
  if a.own = 0 ∧ a.peer = 0 then none
  else if a.own = 0 then some a.peer
  else if a.peer = 0 then some a.own
  else some (min a.own a.peer)

variable (now : Int)

/-- Activity counts only while there is a timeout. -/
def stir : Activity :=
  match a.timeout with
  | none => a
  | some _ => { a with last := some now }

def send : Activity := { a.stir now with sent := a.sent + 1 }

def take (payload : ReceivedPayload) : Activity :=
  { a.stir now with heard := a.heard ++ heardAs .active payload.frames }

end Activity

inductive ActivityStep (rule : ActivityRule) : Activity → Activity → Prop
  | hears (a : Activity) (frame : HeardFrame) {now : Int} (clock : rule.clock now) :
    ActivityStep rule a { a with heard := a.heard ++ [frame] }
  | emits (a : Activity) {now : Int} (clock : rule.clock now) : ActivityStep rule a { a with sent := a.sent + 1 }
  | sends (a : Activity) {now : Int} (clock : rule.clock now) : ActivityStep rule a (a.send now)
  | takes (a : Activity) {now : Int} {payload : ReceivedPayload} (clock : rule.clock now)
      (brings : rule.brings payload) (whole : payload.malformed = none) :
    ActivityStep rule a (a.take now payload)
  | admits (a : Activity) {now : Int} (clock : rule.clock now) (may : rule.admits) :
    ActivityStep rule a (a.stir now)
  | tunes (a : Activity) (peer : Nat) (may : rule.tunes) : ActivityStep rule a { a with peer }

abbrev ActivitySteps (rule : ActivityRule) : Activity → Activity → Prop :=
  Relation.ReflTransGen (ActivityStep rule)

theorem ActivitySteps.same {rule : ActivityRule} {a b : Activity} (steps : ActivitySteps rule a b)
    (timeless : ∀ now, ¬ rule.clock now) (untuned : ¬ rule.tunes) : b = a := by
  induction steps with
  | refl => rfl
  | tail _ step =>
    cases step with
    | hears _ clock | emits clock | sends clock | takes clock | admits clock => exact absurd clock (timeless _)
    | tunes _ may => exact absurd may untuned

structure PeerIds where
  limit : Nat
  ids : List ActiveConnectionId
  largestRetirePriorTo : Nat
  supplied : List NewConnectionIdFrame

def ActiveConnectionId.retireBefore (retirePriorTo : Nat) (id : ActiveConnectionId) : ActiveConnectionId :=
  if id.sequenceNumber < retirePriorTo then { id with retired := true } else id

def PeerIds.activeCount (p : PeerIds) : Nat := (p.ids.filter fun id => !id.retired).length

structure PeerIds.Admits (p : PeerIds) (id : ActiveConnectionId) : Prop where
  current : p.largestRetirePriorTo ≤ id.sequenceNumber
  live : id.retired = false
  number : ∀ other ∈ p.ids, other.sequenceNumber ≠ id.sequenceNumber
  connectionId : ∀ other ∈ p.ids, other.connectionId ≠ id.connectionId
  token : ∀ other ∈ p.ids, other.statelessResetToken ≠ id.statelessResetToken
  room : p.activeCount < p.limit

structure ActiveConnectionId.SuppliedBy (id : ActiveConnectionId) (frame : NewConnectionIdFrame) : Prop where
  number : id.sequenceNumber = frame.sequenceNumber
  connectionId : id.connectionId = frame.connectionId
  token : id.statelessResetToken = frame.statelessResetToken

inductive PeerIdStep : PeerIds → PeerIds → Prop
  | retires (p : PeerIds) (retirePriorTo : Nat) :
    PeerIdStep p { p with
      ids := p.ids.map (·.retireBefore retirePriorTo)
      largestRetirePriorTo := max p.largestRetirePriorTo retirePriorTo }
  | adds {p : PeerIds} {id : ActiveConnectionId} {frame : NewConnectionIdFrame} (admits : p.Admits id)
      (same : id.SuppliedBy frame) :
    PeerIdStep p { p with ids := p.ids ++ [id], supplied := p.supplied ++ [frame] }
  | repeats {p : PeerIds} {id : ActiveConnectionId} {frame : NewConnectionIdFrame} (known : id ∈ p.ids)
      (same : id.SuppliedBy frame) : PeerIdStep p { p with supplied := p.supplied ++ [frame] }
  | outdated {p : PeerIds} {frame : NewConnectionIdFrame} (late : frame.sequenceNumber < p.largestRetirePriorTo) :
    PeerIdStep p { p with supplied := p.supplied ++ [frame] }

abbrev PeerIdSteps : PeerIds → PeerIds → Prop := Relation.ReflTransGen PeerIdStep

structure Paths where
  pending : List PendingPathChallenge
  outstanding : List OutstandingPathChallenge
  queued : Nat
  log : List PathEvent
  emitted : List Bytes
  arrival : Option UdpTuple

def PendingPathChallenge.sentAt (challenge : PendingPathChallenge) (nowNanos : Int) : OutstandingPathChallenge :=
  let transmissions :=
    if challenge.transmissions + 1 ≤ 255 then challenge.transmissions + 1 else maxPathChallengeTransmissions
  ⟨challenge.data, nowNanos, transmissions, challenge.path, challenge.serial⟩

def OutstandingPathChallenge.again (challenge : OutstandingPathChallenge) : PendingPathChallenge :=
  ⟨challenge.data, challenge.transmissions, challenge.path, challenge.serial⟩

inductive PathStep (rule : PathRule) : Paths → Paths → Prop
  | arrives (p : Paths) (path : Option UdpTuple) (may : rule.arrives) : PathStep rule p { p with arrival := path }
  | queues (p : Paths) (data : Bytes) (path : Option UdpTuple) :
    PathStep rule p { p with
      pending := p.pending ++ [⟨data, 0, path, p.queued⟩]
      queued := p.queued + 1
      log := p.log ++ [.queued p.queued data path] }
  | sends {p : Paths} {challenge : PendingPathChallenge} {rest : List PendingPathChallenge} (now : Int)
      (head : p.pending = challenge :: rest) :
    PathStep rule p { p with
      pending := rest
      outstanding := p.outstanding ++ [challenge.sentAt now]
      log := p.log ++ [.sent challenge.serial challenge.data]
      emitted := p.emitted ++ [challenge.data] }
  | retries {p : Paths} {index : Nat} {challenge : OutstandingPathChallenge}
      (found : p.outstanding[index]? = some challenge)
      (again : challenge.transmissions < maxPathChallengeTransmissions) (may : rule.waits) :
    PathStep rule p { p with
      pending := p.pending ++ [challenge.again]
      outstanding := p.outstanding.eraseIdx index
      log := p.log ++ [.requeued challenge] }
  | fails {p : Paths} {index : Nat} {challenge : OutstandingPathChallenge}
      (found : p.outstanding[index]? = some challenge) (may : rule.waits) :
    PathStep rule p { p with
      outstanding := p.outstanding.eraseIdx index
      log := p.log ++ [.failed challenge] }
  | answers {p : Paths} {index : Nat} {challenge : OutstandingPathChallenge}
      (found : p.outstanding[index]? = some challenge)
      (answered : ∃ state, rule.hears ⟨.pathResponse challenge.data, state⟩)
      (bound : challenge.path.isSome → p.arrival = challenge.path) :
    PathStep rule p { p with
      outstanding := p.outstanding.eraseIdx index
      log := p.log ++ [.validated challenge challenge.data p.arrival] }

abbrev PathSteps (rule : PathRule) : Paths → Paths → Prop := Relation.ReflTransGen (PathStep rule)

structure StreamAllowance where
  streamId : Nat
  nextOffset : Nat
  maxData : Nat

def SendStreamState.allowance (stream : SendStreamState) : StreamAllowance :=
  ⟨stream.streamId, stream.nextOffset, stream.maxData⟩

structure Allowance where
  side : ConnectionSide
  limits : InitialLimits
  nextBidi : Nat
  nextUni : Nat
  openedBidi : Nat
  openedUni : Nat
  sent : Nat
  streams : List StreamAllowance
  received : List PeerLimit

def InitialLimits.streamData (limits : InitialLimits) (side : ConnectionSide) (streamId : Nat) : Nat :=
  if !isBidirectional streamId then limits.maxStreamDataUni
  else if isLocalInitiator side streamId then limits.maxStreamDataBidiRemote
  else limits.maxStreamDataBidiLocal

namespace Allowance

variable (a : Allowance) (streamId : Nat)

def opened : StreamAllowance :=
  ⟨streamId, 0, a.limits.streamData a.side streamId⟩

def find : Option StreamAllowance :=
  Keyed.lookup StreamAllowance.streamId streamId a.streams

def put (stream : StreamAllowance) : Allowance :=
  { a with streams := Keyed.adjust StreamAllowance.streamId stream.streamId (fun _ => stream) a.streams }

end Allowance

inductive AllowanceStep (rule : AllowanceRule) : Allowance → Allowance → Prop
  | opensBidi {a : Allowance} (may : rule.opens) (room : a.openedBidi < a.limits.maxStreamsBidi) :
    AllowanceStep rule a { a with
      streams := a.streams ++ [a.opened a.nextBidi], nextBidi := a.nextBidi + 4, openedBidi := a.openedBidi + 1 }
  | opensUni {a : Allowance} (may : rule.opens) (room : a.openedUni < a.limits.maxStreamsUni) :
    AllowanceStep rule a { a with
      streams := a.streams ++ [a.opened a.nextUni], nextUni := a.nextUni + 4, openedUni := a.openedUni + 1 }
  | meets {a : Allowance} {streamId : Nat} (ofPeer : isLocalInitiator a.side streamId = false) :
    AllowanceStep rule a { a with streams := a.streams ++ [a.opened streamId] }
  | writes {a : Allowance} {stream : StreamAllowance} (n : Nat) (may : rule.writes)
      (found : a.find stream.streamId = some stream) (within : stream.nextOffset + n ≤ stream.maxData)
      (total : a.sent + n ≤ a.limits.maxData) :
    AllowanceStep rule a { a.put { stream with nextOffset := stream.nextOffset + n } with sent := a.sent + n }
  | raisesData (a : Allowance) (n : Nat) :
    AllowanceStep rule a { a with
      limits := { a.limits with maxData := max a.limits.maxData n }, received := a.received ++ [.data n] }
  | raisesStream {a : Allowance} {stream : StreamAllowance} (n : Nat)
      (found : a.find stream.streamId = some stream) :
    AllowanceStep rule a { a.put { stream with maxData := max stream.maxData n } with
      received := a.received ++ [.streamData stream.streamId n] }
  | raisesBidi (a : Allowance) (n : Nat) :
    AllowanceStep rule a { a with
      limits := { a.limits with maxStreamsBidi := max a.limits.maxStreamsBidi n }
      received := a.received ++ [.streamsBidi n] }
  | raisesUni (a : Allowance) (n : Nat) :
    AllowanceStep rule a { a with
      limits := { a.limits with maxStreamsUni := max a.limits.maxStreamsUni n }
      received := a.received ++ [.streamsUni n] }
  | applies (a : Allowance) (limits : InitialLimits) :
    AllowanceStep rule a { a with
      limits
      streams := a.streams.map fun stream => { stream with maxData := limits.streamData a.side stream.streamId }
      received := a.received ++ [.initial limits] }

theorem AllowanceStep.of_eq {rule : AllowanceRule} {a b t : Allowance} (step : AllowanceStep rule a b) (same : t = b) :
    AllowanceStep rule a t := same ▸ step

abbrev AllowanceSteps (rule : AllowanceRule) : Allowance → Allowance → Prop :=
  Relation.ReflTransGen (AllowanceStep rule)

structure Identity where
  side : ConnectionSide
  original : Option Bytes
  retrySource : Option Bytes
  retryToken : Option Bytes
  peerInitial : Option Bytes
  log : List IdEvent

/-- The identifier a client must find in the parameters of the server; the server's own is the one
the client used first. -/
inductive IdentityStep (allowed : Prop) : Identity → Identity → Prop
  | sendsInitial (i : Identity) (dcid : Bytes) (may : allowed) :
    IdentityStep allowed i { i with
      original := if i.side = .client then i.original.or (some dcid) else i.original
      log := i.log ++ [.sentInitial dcid] }
  | processesInitial {i : Identity} (dcid : Bytes) {scid : Bytes}
      (same : i.peerInitial.all (· == scid) = true) (may : allowed) :
    IdentityStep allowed i { i with
      original := if i.side = .server then i.original.or (some dcid) else i.original
      peerInitial := i.peerInitial.or (some scid)
      log := i.log ++ [.processedInitial dcid scid] }
  | issuesRetry {i : Identity} (originalDcid retryScid : Bytes) (server : i.side = .server)
      (fresh : i.original = none) (first : i.retrySource = none) (may : allowed) :
    IdentityStep allowed i { i with
      original := some originalDcid
      retrySource := some retryScid
      log := i.log ++ [.issuedRetry originalDcid retryScid] }
  | processesRetry {i : Identity} {originalDcid : Bytes} (retryScid token : Bytes) (client : i.side = .client)
      (same : i.original.all (· == originalDcid) = true) (first : i.retryToken = none) (may : allowed) :
    IdentityStep allowed i { i with
      original := i.original.or (some originalDcid)
      retrySource := some retryScid
      retryToken := some token
      log := i.log ++ [.processedRetry originalDcid retryScid] }
  | bindsPeer {i : Identity} (scid : Bytes) (first : i.peerInitial = none) (may : allowed) :
    IdentityStep allowed i { i with peerInitial := some scid, log := i.log ++ [.boundPeer scid] }

variable {allowed : Prop}

theorem IdentityStep.of_eq {i j t : Identity} (step : IdentityStep allowed i j) (same : t = j) :
    IdentityStep allowed i t := same ▸ step

abbrev IdentitySteps (allowed : Prop) : Identity → Identity → Prop := Relation.ReflTransGen (IdentityStep allowed)

variable {i j : Identity}

theorem IdentitySteps.same (steps : IdentitySteps False i j) : j = i := by
  induction steps with
  | refl => rfl
  | tail _ step => cases step <;> contradiction

theorem IdentitySteps.side (steps : IdentitySteps allowed i j) : j.side = i.side := by
  induction steps with
  | refl => rfl
  | tail _ step ih => cases step <;> exact ih

theorem IdentitySteps.original (steps : IdentitySteps allowed i j) {id : Bytes}
    (recorded : i.original = some id) : j.original = some id := by
  induction steps with
  | refl => exact recorded
  | tail _ step ih =>
    cases step with
    | sendsInitial dcid | processesInitial dcid | processesRetry retryScid token => simp [ih]
    | issuesRetry originalDcid retryScid server fresh => simp [fresh] at ih
    | bindsPeer scid => exact ih

def challengesIn (frames : Payload) : List Bytes :=
  frames.filterMap fun
    | .pathChallenge data => some data
    | _ => none

def challengesEmitted : List Bytes :=
  (emittedIn events).flatMap fun packet => challengesIn packet.frames

namespace Connection

variable (c : Connection)

def life : Life := ⟨c.state, c.pendingClose, c.closed, c.closeDeadlineNanos⟩

def activity : Activity :=
  ⟨c.config.maxIdleTimeoutMs, c.peerMaxIdleTimeoutMs, c.lastPacketActivityNanos, packetsSent c.history, c.heard⟩

def peerIds : PeerIds :=
  ⟨c.config.activeConnectionIdLimit, c.activeConnectionIds, c.largestPeerRetirePriorTo, c.suppliedIds⟩

def paths : Paths :=
  ⟨c.pendingPathChallenges, c.outstandingPathChallenges, c.challengesQueued, c.challengeLog,
    challengesEmitted c.history, c.receivePathHint⟩

def peerLimitsNow : InitialLimits :=
  ⟨c.peerMaxData, c.peerInitialMaxStreamDataBidiLocal, c.peerInitialMaxStreamDataBidiRemote,
    c.peerInitialMaxStreamDataUni, c.peerMaxStreamsBidi, c.peerMaxStreamsUni⟩

def allowance : Allowance where
  side := c.side
  limits := c.peerLimitsNow
  nextBidi := c.nextStreamId
  nextUni := c.nextUniStreamId
  openedBidi := c.openedBidiStreams
  openedUni := c.openedUniStreams
  sent := c.sentStreamDataBytes
  streams := c.sendStreams.map SendStreamState.allowance
  received := c.peerLimits

def identity : Identity where
  side := c.side
  original := c.originalDestinationConnectionId
  retrySource := c.retrySourceConnectionId
  retryToken := c.retryToken
  peerInitial := c.peerInitialSourceConnectionId
  log := c.idLog

end Connection

/-- The same, but no connection ID of the handshake may be fixed. -/
def UpkeepRule.nameless (rule : UpkeepRule) : UpkeepRule := { rule with identifies := False }

/-- The same, but no time is told, and no idle timeout is applied. -/
def UpkeepRule.still (rule : UpkeepRule) : UpkeepRule := { rule with clock := fun _ => False, tunes := False }

structure Upkeep where
  life : Life
  activity : Activity
  peerIds : PeerIds
  paths : Paths
  allowance : Allowance
  heard : List HeardFrame
  identity : Identity

namespace Upkeep

def stir (u : Upkeep) (now : Int) : Upkeep := { u with activity := u.activity.stir now }

def send (u : Upkeep) (now : Int) : Upkeep := { u with activity := u.activity.send now }

/-- A packet goes on the books and does not count as activity. -/
def book (u : Upkeep) : Upkeep := { u with activity := { u.activity with sent := u.activity.sent + 1 } }

theorem stir_book (u : Upkeep) (now : Int) : u.book.stir now = u.send now := by
  have same : u.book.activity.timeout = u.activity.timeout := rfl
  unfold Upkeep.stir Upkeep.send Activity.send Activity.stir
  rw [same]
  cases u.activity.timeout <;> rfl

end Upkeep

def Connection.upkeep (c : Connection) : Upkeep :=
  ⟨c.life, c.activity, c.peerIds, c.paths, c.allowance, c.heard, c.identity⟩

/-- Every part moves along its machine, and the frames that are handled meet a condition. The life
of the connection moves along its machine, or not at all. -/
structure Tends (lives : Life → Life → Prop) (rule : UpkeepRule) (c t : Connection) : Prop where
  life : lives c.life t.life
  activity : ActivitySteps rule.toActivityRule c.activity t.activity
  peerIds : PeerIdSteps c.peerIds t.peerIds
  paths : PathSteps rule.toPathRule c.paths t.paths
  allowance : AllowanceSteps rule.toAllowanceRule c.allowance t.allowance
  identity : IdentitySteps rule.identifies c.identity t.identity
  heard : ∃ frames, t.heard = c.heard ++ frames ∧ ∀ frame ∈ frames, rule.hears frame

variable {lives : Life → Life → Prop} [IsPreorder Life lives] {rule : UpkeepRule}
  {c t : Connection}

namespace Tends

theorem refl (c : Connection) : Tends lives rule c c :=
  ⟨refl_of lives _, .refl, .refl, .refl, .refl, .refl, [], by simp⟩

theorem trans {a b c : Connection} (h : Tends lives rule a b) (k : Tends lives rule b c) : Tends lives rule a c := by
  refine ⟨trans_of lives h.life k.life, h.activity.trans k.activity, h.peerIds.trans k.peerIds,
    h.paths.trans k.paths, h.allowance.trans k.allowance, h.identity.trans k.identity, ?_⟩
  obtain ⟨frames, heard, each⟩ := h.heard
  obtain ⟨more, heard', each'⟩ := k.heard
  refine ⟨frames ++ more, by rw [heard', heard, List.append_assoc], fun frame mem => ?_⟩
  exact (List.mem_append.mp mem).elim (each frame) (each' frame)

instance : IsPreorder Connection (Tends lives rule) where
  refl := refl
  trans _ _ _ := trans

omit [IsPreorder Life lives] in
/-- Each part of the upkeep takes its own steps. -/
theorem of_parts {u : Upkeep} (same : t.upkeep = u) (life : lives c.life u.life)
    (activity : ActivitySteps rule.toActivityRule c.activity u.activity) (peerIds : PeerIdSteps c.peerIds u.peerIds)
    (paths : PathSteps rule.toPathRule c.paths u.paths)
    (allowance : AllowanceSteps rule.toAllowanceRule c.allowance u.allowance)
    (identity : IdentitySteps rule.identifies c.identity u.identity) (heard : u.heard = c.upkeep.heard) :
    Tends lives rule c t := by
  subst same
  exact ⟨life, activity, peerIds, paths, allowance, identity, [], heard.trans (List.append_nil _).symm, nofun⟩

theorem of_upkeep (h : t.upkeep = c.upkeep) : Tends lives rule c t :=
  of_parts h (refl_of lives _) .refl .refl .refl .refl .refl rfl

theorem of_life (step : LifeStep c.life t.life) (rest : t.upkeep = { c.upkeep with life := t.life }) :
    Tends LifeSteps rule c t := of_parts rest (.single step) .refl .refl .refl .refl .refl rfl

theorem of_peerIds (step : PeerIdStep c.peerIds t.peerIds)
    (rest : t.upkeep = { c.upkeep with peerIds := t.peerIds }) : Tends lives rule c t :=
  of_parts rest (refl_of lives _) .refl (.single step) .refl .refl .refl rfl

theorem of_paths_activity (paths : PathSteps rule.toPathRule c.paths t.paths)
    (activity : ActivitySteps rule.toActivityRule c.activity t.activity)
    (rest : t.upkeep = { c.upkeep with paths := t.paths, activity := t.activity }) : Tends lives rule c t :=
  of_parts rest (refl_of lives _) activity .refl paths .refl .refl rfl

theorem of_paths (steps : PathSteps rule.toPathRule c.paths t.paths)
    (rest : t.upkeep = { c.upkeep with paths := t.paths }) : Tends lives rule c t :=
  of_parts rest (refl_of lives _) .refl .refl steps .refl .refl rfl

theorem of_activity {a : Activity} (step : ActivityStep rule.toActivityRule c.activity a)
    (rest : t.upkeep = { c.upkeep with activity := a }) : Tends lives rule c t :=
  of_parts rest (refl_of lives _) (.single step) .refl .refl .refl .refl rfl

variable {now : Int}

theorem of_send (clock : rule.clock now) (same : t.upkeep = c.upkeep.send now) : Tends lives rule c t :=
  of_activity (.sends _ clock) same

theorem of_book (clock : rule.clock now) (same : t.upkeep = c.upkeep.book) : Tends lives rule c t :=
  of_activity (.emits _ clock) same

theorem of_stir (clock : rule.clock now) (may : rule.admits) (same : t.upkeep = c.upkeep.stir now) :
    Tends lives rule c t := of_activity (.admits _ clock may) same

theorem of_allowance (steps : AllowanceSteps rule.toAllowanceRule c.allowance t.allowance)
    (rest : t.upkeep = { c.upkeep with allowance := t.allowance }) : Tends lives rule c t :=
  of_parts rest (refl_of lives _) .refl .refl .refl steps .refl rfl

theorem of_identity (step : IdentityStep rule.identifies c.identity t.identity)
    (rest : t.upkeep = { c.upkeep with identity := t.identity }) : Tends lives rule c t :=
  of_parts rest (refl_of lives _) .refl .refl .refl .refl (.single step) rfl

omit [IsPreorder Life lives] in
/-- What may fix no connection ID of the handshake fixes none. -/
theorem of_nameless (h : Tends lives rule.nameless c t) : Tends lives rule c t ∧ t.identity = c.identity := by
  have same : t.identity = c.identity := h.identity.same
  exact ⟨⟨h.life, h.activity, h.peerIds, h.paths, h.allowance, same ▸ .refl, h.heard⟩, same⟩

omit [IsPreorder Life lives] in
/-- What is told no time and applies no timeout is no activity. -/
theorem of_still (h : Tends lives rule.still c t) : Tends lives rule c t ∧ t.activity = c.activity := by
  have same : t.activity = c.activity := h.activity.same (fun _ => id) id
  exact ⟨⟨h.life, same ▸ .refl, h.peerIds, h.paths, h.allowance, h.identity, h.heard⟩, same⟩

theorem upkeep {u : Connection} (h : Tends lives rule c t) (same : u.upkeep = t.upkeep) :
    Tends lives rule c u := h.trans (of_upkeep same)

theorem lively (h : Tends Eq rule c t) : Tends LifeSteps rule c t :=
  ⟨h.life ▸ .refl, h.activity, h.peerIds, h.paths, h.allowance, h.identity, h.heard⟩

end Tends

end Quicz
