import Quicz.Endpoint.Lifecycle
import Quicz.Run.Keys
import Quicz.Upkeep.Paths

/-! A connection's route moves to another path only when a challenge on that path was answered. -/
namespace Quicz

open Proc List

variable (path : UdpTuple)

/-- While nothing is given up, a challenge that is no longer outstanding was answered. -/
theorem PathSteps.answered {rule : PathRule} {p q : Paths} (patient : ¬ rule.waits) (steps : PathSteps rule p q)
    (fewer : q.outstanding.countP (·.path = some path) < p.outstanding.countP (·.path = some path)) :
    ∃ challenge ∈ p.outstanding, challenge.path = some path ∧
      ∃ state, rule.hears ⟨.pathResponse challenge.data, state⟩ := by
  by_contra unanswered
  have kept : p.outstanding.filter (·.path = some path) <+~ q.outstanding := by
    clear fewer
    induction steps with
    | refl => exact filter_sublist.subperm
    | tail _ step ih =>
      cases step with
      | arrives | queues => exact ih
      | sends => exact ih.trans (sublist_append_left _ _).subperm
      | retries _ _ may | fails _ may => exact absurd may patient
      | @answers index challenge found answered =>
        have absent : challenge ∉ p.outstanding.filter (·.path = some path) := by
          intro mem
          obtain ⟨sent, bound⟩ := mem_filter.mp mem
          exact unanswered ⟨challenge, sent, of_decide_eq_true bound, answered⟩
        obtain ⟨inside, here⟩ := List.getElem?_eq_some_iff.mp found
        have perm := getElem_cons_eraseIdx_perm inside
        rw [here] at perm
        have apart := (ih.trans perm.symm.subperm).erase challenge
        rwa [erase_of_not_mem absent, erase_cons_head] at apart
  have fits := kept.countP_le (·.path = some path)
  simp only [countP_filter, Bool.and_self] at fits
  exact absurd fewer (Nat.not_lt.mpr fits)

def Connection.Opens (c : Connection) (datagram : ShortDatagram) : Prop :=
  ∃ state keys, c.peerOneRttKeyPhaseState = some state ∧
    unprotectShortPacketAes128WithKeyUpdate state datagram.packet = .ok keys

/-- The packet opens under the keys of the connection, and answers a challenge it sent to the path. -/
def Connection.Validated (c : Connection) (datagram : ShortDatagram) : Prop :=
  c.Opens datagram ∧ ∃ challenge ∈ c.outstandingPathChallenges, challenge.path = some path ∧
    .pathResponse challenge.data ∈ datagram.opened.plaintext.frames

variable {c : Connection} {now : Int} {datagram : ShortDatagram} {close : Bool}

theorem processProtectedShortDatagramWithInstalledKeys_opens :
    wp (processProtectedShortDatagramWithInstalledKeysAndFrameErrorPolicy now datagram close)
      (fun _ t => t.outstandingPathChallenges = c.outstandingPathChallenges ∨ c.Opens datagram)
      (fun _ _ => True) c := by
  rw [processProtectedShortDatagramWithInstalledKeysAndFrameErrorPolicy, wp_bind, wp_get, wp_bind, wp_orThrow]
  refine ⟨fun state held => ?_, fun _ => trivial⟩
  cases opened : unprotectShortPacketAes128WithKeyUpdate state datagram.packet with
  | ok keys => exact wp_mono (wp_self _ _) (fun _ _ _ => .inr ⟨state, keys, held, opened⟩) fun _ _ _ => trivial
  | error refused =>
    have timers := fun c : Connection => c.expired_keeps now (f := Connection.outstandingPathChallenges) fun _ => rfl
    simp only [processProtectedShortDatagramWithKeyPhaseStateAndFrameErrorPolicy, prepareInboundDatagramProcessing,
      expireState, validateReceivedUdpDatagramSize, wp_bind, wp_get, wp_modify, wp_ite, wp_failIf, wp_pure, opened,
      Bool.false_eq_true, false_implies, not_false_eq_true, not_true, true_implies, implies_true, true_and, and_true]
    refine ⟨fun _ => .inl ((timers _).2.trans (timers c).1), fun _ _ _ _ => ?_⟩
    cases refused with
    | invalid => exact trivial
    | keyUpdateError =>
      simp only [wp_bind, wp_recover, wp_pure, wp_throw]
      exact wp_mono (wp_self _ _) (fun _ _ _ => trivial) fun _ _ _ => trivial

theorem processProtectedShortDatagramWithInstalledKeys_validated :
    wp (processProtectedShortDatagramWithInstalledKeysAndFrameErrorPolicy now datagram close)
      (fun _ t => t.outstandingPathChallengeCountForPath path < c.outstandingPathChallengeCountForPath path →
        c.Validated path datagram) (fun _ _ => True) c := by
  let rule : UpkeepRule := { UpkeepRule.any with
    hears := fun heard => heard.frame ∈ datagram.opened.plaintext.frames
    waits := False }
  have serves : wp (processProtectedShortDatagramWithInstalledKeysAndFrameErrorPolicy now datagram close)
      (fun _ => Serves LifeSteps .any rule c) (fun _ => Serves LifeSteps .any rule c) c :=
    processProtectedShortDatagramWithInstalledKeys_serves ⟨trivial, trivial⟩ trivial (fun _ _ => trivial) trivial
      ⟨fun _ _ => trivial, trivial, fun _ => mem_of_heardAs⟩ close (.inl trivial)
  refine wp_mono (wp_and serves processProtectedShortDatagramWithInstalledKeys_opens) (fun _ t h fewer => ?_)
    fun _ _ _ => trivial
  rcases h.2 with same | opens
  · simp [Connection.outstandingPathChallengeCountForPath, same] at fewer
  · obtain ⟨challenge, sent, bound, _, heard⟩ := h.1.tends.paths.answered path id fewer
    exact ⟨opens, challenge, sent, bound, heard⟩

variable {connectionId : Nat} {a : Attended} {route : RouteResult} {datagram : FedDatagram}

def Attended.router (a : Attended) : EndpointRouter := a.lifecycle.router

def RouteResult.movedIn (route : RouteResult) (router : EndpointRouter) : EndpointRouter :=
  after (EndpointRouter.updateRoutePathFromValidatedDatagramAddress route.destinationConnectionId.bytes path) router

/-- The table of routes is as it was, or the route of the datagram moved to its path. Then the route was one of this
connection, and the packet is the peer's answer to a challenge of the connection for this path. -/
def Attended.Moves (connectionId : Nat) (datagram : FedDatagram) (options : EndpointFeedInstalledKeyDatagramOptions)
    (a b : Attended) : Prop :=
  b.router = a.router ∨ ∃ route, a.lifecycle.feedDatagram options.outLen path datagram.bytes options.unpredictable
      options.supportedVersions = .ok (.routed route) ∧ route.connectionId = connectionId ∧
    route.pathChanged = true ∧ a.connection.Validated path datagram.short ∧ b.router = route.movedIn path a.router

theorem challengeChangedPath_router (updated : Option RouteResult) (data : Option Bytes) :
    wp (challengeChangedPath route path updated data) (fun _ b => b.router = a.router)
      (fun _ b => b.router = a.router) a := by
  simp only [challengeChangedPath, wp_bind, wp_get, wp_ite, wp_pure]
  refine ⟨fun _ => ?_, fun _ => trivial⟩
  cases data with
  | none => rfl
  | some data =>
    simp only [attend, onConnection, wp_bind, wp_rethrow, wp_zoom, wp_pure]
    exact wp_mono (wp_self _ _) (fun _ _ _ => rfl) fun _ _ _ => rfl

theorem feedApplicationDatagram_wp {I : Attended → Prop} (same : ∀ b : Attended, b.router = a.router → I b)
    (moved : route.pathChanged = true → a.connection.Validated path datagram.short →
      ∀ b : Attended, b.router = route.movedIn path a.router → I b) (data : Option Bytes) :
    wp (feedApplicationDatagram connectionId route path now datagram data) (fun _ => I) (fun _ => I) a := by
  simp only [feedApplicationDatagram, attend, mirrored, onConnection, armRecoveryTimerFromConnection, wp_bind, wp_get,
    wp_rethrow, wp_onError, wp_zoom, wp_modify, wp_pure]
  refine wp_mono (processProtectedShortDatagramWithInstalledKeys_validated path) (fun _ c valid => ?_) fun _ _ _ =>
    same _ rfl
  simp only [commitRoutePath, onRouter, map_eq_pure_bind, wp_bind, wp_get, wp_ite, wp_pure, wp_rethrow, wp_zoom]
  refine ⟨fun answered => ?_, fun _ =>
    wp_mono (challengeChangedPath_router path none data) (fun _ => same) fun _ => same⟩
  have moved := moved answered.1 (valid answered.2)
  refine wp_mono (wp_self _ _) (fun result r ran => ?_) fun _ r ran => moved _ ran
  exact wp_mono (challengeChangedPath_router path (some result) data) (fun _ b kept => moved b (kept.trans ran))
    fun _ b kept => moved b (kept.trans ran)

theorem processRoutedStatelessResetDatagram_keeps (bytes : Bytes) :
    wp (processRoutedStatelessResetDatagram connectionId now bytes)
      (fun _ b => b.router = a.router ∧ b.connection.Validated path = a.connection.Validated path)
      (fun _ b => b.router = a.router) a := by
  have timers := fun c : Connection => c.expired_keeps now (f := Connection.Validated path) fun _ => rfl
  have kept := (timers _).1.trans (timers a.connection).2
  simp only [processRoutedStatelessResetDatagram, processStatelessResetDatagram, onConnection,
    armRecoveryTimerFromConnection, wp_bind, wp_ite, wp_zoom, wp_modify, wp_get, wp_pure]
  refine ⟨fun _ => ⟨trivial, trivial⟩, fun _ => ⟨fun _ => ?_, fun _ => ?_⟩⟩
  on_goal 2 => split
  all_goals exact ⟨fun _ => ⟨rfl, kept⟩, fun _ => ⟨rfl, kept⟩⟩

theorem route_moves_to_validated_path (options : EndpointFeedInstalledKeyDatagramOptions) :
    a.Moves path connectionId datagram options
      (after (feedDatagramWithInstalledKeysAndUpdatePathOrClose connectionId path now datagram options) a) := by
  refine wp_after ?_
  simp only [feedDatagramWithInstalledKeysAndUpdatePathOrClose, withReceivePathHint, wp_bind, wp_modify, wp_onError,
    wp_get, wp_rethrow, wp_lift, wp_pure]
  refine ⟨fun action routed => ?_, fun _ _ => .inl rfl⟩
  cases action with
  | routed route =>
    simp only [feedRoutedDatagram, wp_bind, wp_failIf, attend, wp_rethrow, not_not]
    refine ⟨fun _ => .inl rfl, fun here => wp_mono (processRoutedStatelessResetDatagram_keeps path _)
      (fun reset t kept => ?_) fun _ _ => .inl⟩
    rw [wp_ite]
    refine ⟨fun _ => .inl kept.1, fun _ => ?_⟩
    cases options.space with
    | application =>
      refine feedApplicationDatagram_wp path (fun b same => .inl (same.trans kept.1))
        (fun changed valid b ran => ?_) _
      rw [kept.2] at valid
      exact .inr ⟨route, routed, here, changed, valid, kept.1 ▸ ran⟩
    | _ =>
      simp only [mirrored, onConnection, armRecoveryTimerFromConnection, wp_bind, wp_rethrow, wp_onError, wp_zoom,
        wp_modify, wp_pure]
      exact wp_mono (wp_self _ _) (fun _ _ _ => .inl kept.1) fun _ _ _ => .inl kept.1
  | _ => exact .inl rfl

end Quicz
