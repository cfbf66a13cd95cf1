import Quicz.Endpoint.Lifecycle
import Quicz.Upkeep.Idle

/-! When the endpoint has to wake up for a connection, and what it does then. -/
namespace Quicz

open Proc

variable {c : Connection} (lifecycle : EndpointConnectionLifecycle) (connectionId : Nat)

structure Life.Wakes (l : Life) : Prop where
  draining : l.state = .draining → ∃ deadline, l.deadline = some deadline
  closing : l.state = .closing → l.closed = true → ∃ deadline, l.deadline = some deadline
  unsent : l.state = .closing → l.closed = false → l.pendingClose.isSome = true ∧ l.deadline = none

theorem LifeStep.wakes {l m : Life} (step : LifeStep l m) : m.Wakes := by
  cases step with
  | closes close active running =>
    exact ⟨nofun, fun _ closed => (nomatch running.symm.trans closed), fun _ _ => ⟨rfl, rfl⟩⟩
  | enters deadline => exact ⟨nofun, fun _ _ => ⟨deadline, rfl⟩, nofun⟩
  | drains deadline => exact ⟨fun _ => ⟨deadline, rfl⟩, nofun, nofun⟩
  | expires => exact ⟨nofun, nofun, nofun⟩

theorem Reachable.wakes (reached : Reachable c) : c.life.Wakes := by
  obtain ⟨side, config, -, tended⟩ := reached.tended
  rcases Relation.ReflTransGen.cases_tail tended.life with same | ⟨_, -, last⟩
  · rw [same]
    exact ⟨nofun, nofun, nofun⟩
  · exact last.wakes

section PendingWork
variable {lifecycle : EndpointConnectionLifecycle} {connectionId : Nat} {now : Int}

/-- The check of a timeout closes the connection or leaves it; what it closes is retired if the timeout
ends connections in that state. -/
theorem checkTimeouts_wp {ends : ConnectionState → Bool} {expire : Connection → Connection}
    {Q : Option EndpointConnectionRetireResult → Attended → Prop} {E : Error → Attended → Prop}
    (stays : (expire c).state ≠ .closed → Q none ⟨lifecycle, expire c⟩)
    (retires : (expire c).state = .closed → ends c.state = true → Q (some (lifecycle.retireConnection connectionId).1)
      ⟨(lifecycle.retireConnection connectionId).2, expire c⟩)
    (fails : (expire c).state = .closed → ends c.state = false → E .connectionClosed ⟨lifecycle, expire c⟩) :
    wp (checkTimeoutsAndRetireConnection ends (do
      modify expire
      failIf ((← get).state = .closed) .connectionClosed) connectionId) Q E ⟨lifecycle, c⟩ := by
  simp only [checkTimeoutsAndRetireConnection, onConnection, wp_bind, wp_get, wp_ite, wp_zoom, wp_modify, wp_failIf,
    wp_pure, wp_recover, Bool.not_eq_true', Bool.not_eq_false]
  refine ⟨fun other => ⟨fun closed => fails closed other, stays⟩, fun own => ⟨fun closed => ?_, stays⟩⟩
  simp only [← bind_pure_comp, retireConnection, wp_bind, wp_get, wp_set, wp_pure]
  exact ⟨fun _ => retires closed own, fun other => absurd trivial other⟩

/-- A connection whose timeout is due is closed. -/
theorem processPendingWork_closes (due : c.expireIdleState now = c.expire ∧ c.state = .active ∨
    c.expireCloseState now = c.expire ∧ (c.state = .closing ∨ c.state = .draining)) :
    (after (processPendingWork connectionId now) ⟨lifecycle, c⟩).connection.state = .closed := by
  refine wp_after (I := fun a : Attended => a.connection.state = .closed) ?_
  rw [processPendingWork, wp_bind]
  rcases due with ⟨ended, active⟩ | ⟨ended, closing⟩
  · refine checkTimeouts_wp (fun open_ => ?_) (fun _ _ => ?_) (fun _ other => ?_)
    · exact absurd (ended ▸ rfl) open_
    · exact congrArg Connection.state ended
    · simp [active] at other
  · have stays : c.expireIdleState now = c :=
      if_pos (Or.inl (by rcases closing with state | state <;> rw [state] <;> nofun))
    refine checkTimeouts_wp (fun _ => ?_) (fun closed _ => ?_) (fun closed _ => ?_)
    · rw [stays, wp_bind]
      refine checkTimeouts_wp (fun open_ => ?_) (fun _ _ => ?_) (fun _ other => ?_)
      · exact absurd (ended ▸ rfl) open_
      · exact congrArg Connection.state ended
      · rcases closing with state | state <;> simp [state] at other
    all_goals
      rw [stays] at closed
      rcases closing with state | state <;> cases state.symm.trans closed

end PendingWork

theorem EndpointConnectionDeadline.sooner_le (next : EndpointConnectionDeadline)
    (candidate : Option EndpointConnectionDeadline) :
    ∃ first, sooner (some next) candidate = some first ∧ first.deadlineNanos ≤ next.deadlineNanos := by
  cases candidate with
  | none => exact ⟨next, rfl, le_refl _⟩
  | some candidate =>
    simp only [sooner]
    split
    · rename_i earlier
      exact ⟨candidate, rfl, earlier.le⟩
    · exact ⟨next, rfl, le_refl _⟩

theorem nextDeadline_closing (closing : c.state = .closing ∨ c.state = .draining) :
    lifecycle.nextDeadline connectionId c = c.closeDeadlineNanos.map fun deadline =>
      { connectionId, deadlineNanos := deadline, kind := .closeTimeout } := by
  rcases closing with state | state <;> cases armed : c.closeDeadlineNanos <;>
    simp [EndpointConnectionLifecycle.nextDeadline, state, armed, EndpointConnectionDeadline.sooner]

theorem nextDeadline_active (active : c.state = .active) {deadline : Int}
    (armed : c.idleTimeoutDeadline = some deadline) :
    ∃ next, lifecycle.nextDeadline connectionId c = some next ∧ next.deadlineNanos ≤ deadline := by
  simp only [EndpointConnectionLifecycle.nextDeadline, active, armed, if_true, Option.map_some, reduceCtorEq, or_self,
    if_false, List.foldl_cons, List.foldl_nil]
  obtain ⟨first, sooner, bound⟩ := EndpointConnectionDeadline.sooner_le
    { connectionId, deadlineNanos := deadline, kind := .idleTimeout } (_ : Option EndpointConnectionDeadline)
  rw [show EndpointConnectionDeadline.sooner _ none = some _ from rfl, sooner]
  obtain ⟨next, found, earlier⟩ := EndpointConnectionDeadline.sooner_le first _
  exact ⟨next, found, earlier.trans bound⟩

/-- A connection that is draining, or closing with its close frame sent, has a close deadline, which is
the endpoint's next one; an active connection with an idle timeout that recorded packet activity has an
idle deadline, and the endpoint waits for that or something earlier. Pending work at the deadline or
later closes the connection. While the close frame is not sent there is no deadline at all. -/
theorem unfinished_connection_wakes (reached : Reachable c) :
    (c.state = .draining ∨ c.state = .closing ∧ c.closed = true → ∃ deadline, c.closeDeadlineNanos = some deadline ∧
      lifecycle.nextDeadline connectionId c = some { connectionId, deadlineNanos := deadline, kind := .closeTimeout } ∧
      ∀ now ≥ deadline, (after (processPendingWork connectionId now) ⟨lifecycle, c⟩).connection.state = .closed) ∧
    (c.state = .active → c.effectiveIdleTimeout.isSome = true → c.lastPacketActivityNanos.isSome = true →
      ∃ deadline, c.idleTimeoutDeadline = some deadline ∧
      (∃ next, lifecycle.nextDeadline connectionId c = some next ∧ next.deadlineNanos ≤ deadline) ∧
      ∀ now ≥ deadline, (after (processPendingWork connectionId now) ⟨lifecycle, c⟩).connection.state = .closed) ∧
    (c.state = .closing → c.closed = false → c.pendingClose.isSome = true ∧ c.closeDeadlineNanos = none ∧
      lifecycle.nextDeadline connectionId c = none) := by
  refine ⟨fun going => ?_, fun active timeout recorded => ?_, fun closing unsent => ?_⟩
  · have closing : c.state = .closing ∨ c.state = .draining := going.elim Or.inr fun sent => Or.inl sent.1
    obtain ⟨deadline, armed⟩ : ∃ deadline, c.closeDeadlineNanos = some deadline :=
      going.elim reached.wakes.draining fun sent => reached.wakes.closing sent.1 sent.2
    refine ⟨deadline, armed, by rw [nextDeadline_closing lifecycle connectionId closing, armed]; rfl, fun now due => ?_⟩
    refine processPendingWork_closes (Or.inr ⟨?_, closing⟩)
    have state : ¬ (c.state ≠ .closing ∧ c.state ≠ .draining) := by tauto
    rw [Connection.expireCloseState, if_neg state]
    simp only [armed, if_neg (Int.not_lt.mpr due)]
  · obtain ⟨millis, effective⟩ := Option.isSome_iff_exists.mp timeout
    obtain ⟨last, stirred⟩ := Option.isSome_iff_exists.mp recorded
    have armed : c.idleTimeoutDeadline = some (saturatingAdd last (millis * nsPerMs)) := by
      simp [Connection.idleTimeoutDeadline, effective, stirred]
    refine ⟨_, armed, nextDeadline_active lifecycle connectionId active armed, fun now due => ?_⟩
    exact processPendingWork_closes (Or.inl ⟨expireIdleState_ends reached.tidy active armed due, active⟩)
  · obtain ⟨pending, unarmed⟩ := reached.wakes.unsent closing unsent
    have none : c.closeDeadlineNanos = none := unarmed
    exact ⟨pending, none, by rw [nextDeadline_closing lifecycle connectionId (Or.inl closing), none]; rfl⟩

theorem unfinished_connection_wakes_ping :
    let c := run (.fresh .client { maxIdleTimeoutMs := 30 }) pingedOnce
    (after (processPendingWork 7 30_000_000) ⟨{}, c⟩).connection.state = .closed := by
  intro c
  have reached : Reachable c :=
    ⟨.client, { maxIdleTimeoutMs := 30 }, _, pingedOnce, rfl, throughout_true _ _, rfl⟩
  obtain ⟨deadline, armed, -, ends⟩ := (unfinished_connection_wakes {} 7 reached).2.1 (by decide +kernel)
    (by decide +kernel) (by decide +kernel)
  have due : c.idleTimeoutDeadline = some 30_000_000 := by decide +kernel
  exact ends _ (Option.some.inj (armed.symm.trans due)).le

/-- A connection that is closed before its close frame can be sent has no deadline and stays closing for
ever; one that sent a packet before it had an idle timeout has no idle deadline. -/
theorem unsent_close_never_wakes :
    let closing := run (.fresh .client {}) [.closeConnection 0 0 []]
    let untimed := run (.fresh .client {}) (pingedOnce ++ [.applyPeerTransportParameters { maxIdleTimeout := 30 }])
    let lifecycle : EndpointConnectionLifecycle := {}
    (closing.state = .closing ∧ closing.closeDeadlineNanos = none ∧ lifecycle.nextDeadline 7 closing = none ∧
      (after (processPendingWork 7 maxI64) ⟨lifecycle, closing⟩).connection.state = .closing) ∧
    untimed.state = .active ∧ untimed.effectiveIdleTimeout = some 30 ∧ packetsSent untimed.history = 1 ∧
      untimed.idleTimeoutDeadline = none := by
  decide +kernel

end Quicz
