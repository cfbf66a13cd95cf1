import Mathlib
import Quicz.Endpoint.Wakeup

/-! The table of loss detection timers against the connections of an endpoint: along every run it has one entry
for each connection that has a deadline, and the endpoint waits for the earliest of them. -/
namespace Quicz

open Proc

namespace EndpointLossDetectionTimers

variable (t u : EndpointLossDetectionTimers) (connectionId : Nat)

def earliestDeadline : Option EndpointLossDetectionTimerDeadline :=
  match t.entries with
  | [] => none
  | first :: rest => some (rest.foldl (fun earliest entry =>
      if entry.timer.deadlineNanos < earliest.timer.deadlineNanos then entry else earliest) first)

theorem earliestDeadline_eq : t.earliestDeadline = t.entries.argmin (·.timer.deadlineNanos) := by
  obtain ⟨entries⟩ := t
  cases entries with
  | nil => rfl
  | cons first rest =>
    simp only [earliestDeadline, List.argmin, List.foldl_cons]
    induction rest generalizing first with
    | nil => rfl
    | cons entry rest ih =>
      simp only [List.foldl_cons, ih]
      congr 1
      simp only [List.argAux]
      split <;> rfl

def Distinct : Prop := t.entries.Pairwise fun x y => x.connectionId ≠ y.connectionId

/-- The connection has this timer, and the others have the entries they had before. -/
structure Holds (timer : Option Connection.LossDetectionTimerDeadline) : Prop where
  distinct : u.Distinct
  mem : ∀ entry, entry ∈ u.entries ↔
    if entry.connectionId = connectionId then timer = some entry.timer else entry ∈ t.entries

variable {t connectionId}

theorem update_holds (distinct : t.Distinct) (timer : Option Connection.LossDetectionTimerDeadline) :
    t.Holds (t.update connectionId timer) connectionId timer := by
  obtain ⟨entries⟩ := t
  cases found : findIndex ⟨entries⟩ connectionId with
  | none =>
    have free : ∀ x ∈ entries, x.connectionId ≠ connectionId := fun x mem =>
      of_decide_eq_false (Slots.locate_none.mp found x mem)
    cases timer with
    | none =>
      simp only [update, found]
      exact ⟨distinct, by grind⟩
    | some deadline =>
      simp only [update, found]
      exact ⟨Slots.pairwise_concat distinct free, by rintro ⟨_, _⟩; grind⟩
  | some located =>
    obtain ⟨i, entry⟩ := located
    obtain ⟨front, back, rfl, rfl, here, -⟩ := Slots.locate_some found
    have here : entry.connectionId = connectionId := of_decide_eq_true here
    rw [Distinct, List.pairwise_middle Ne.symm, List.pairwise_cons] at distinct
    have free := List.forall_mem_append.mp distinct.1
    cases timer with
    | none =>
      simp only [update, found, Slots.eraseIdx_at]
      exact ⟨distinct.2, by grind⟩
    | some deadline =>
      simp only [update, found, Slots.set_at]
      refine ⟨?_, by rintro ⟨_, _⟩; grind⟩
      rw [Distinct, List.pairwise_middle Ne.symm, List.pairwise_cons]
      exact ⟨here ▸ distinct.1, distinct.2⟩

theorem disarmConnection_holds (distinct : t.Distinct) :
    t.Holds (t.disarmConnection connectionId).2 connectionId none := by
  have same : (t.disarmConnection connectionId).2 = t.update connectionId none := by
    unfold disarmConnection update
    cases t.findIndex connectionId <;> rfl
  rw [same]
  exact update_holds distinct none

end EndpointLossDetectionTimers

open EndpointLossDetectionTimers

def Attended.timers (a : Attended) : EndpointLossDetectionTimers := a.lifecycle.recoveryTimers

/-- The entry of the connection is the one its timer asks for. -/
def Attended.Mirrors (connectionId : Nat) (a b : Attended) : Prop :=
  a.timers.Holds b.timers connectionId b.connection.lossDetectionTimerDeadline

variable {connectionId : Nat} {a : Attended}

theorem mirrored_mirrors (distinct : a.timers.Distinct) {α : Type} (call : ConnM α) :
    a.Mirrors connectionId (after (mirrored connectionId call) a) := by
  refine wp_after ?_
  simp only [mirrored, onConnection, armRecoveryTimerFromConnection, wp_bind, wp_onError, wp_zoom, wp_modify, wp_pure]
  exact wp_mono (wp_self call _) (fun _ _ _ => update_holds distinct _) fun _ _ _ => update_holds distinct _

theorem processPendingWork_mirrors (distinct : a.timers.Distinct) (nowNanos : Int) :
    wp (processPendingWork connectionId nowNanos) (fun _ b => a.Mirrors connectionId b) (fun _ _ => True) a := by
  have retired : ∀ t : Connection, t.state = .closed →
      a.Mirrors connectionId ⟨(a.lifecycle.retireConnection connectionId).2, t⟩ := by
    intro t closed
    have none : t.lossDetectionTimerDeadline = none := by
      simp [Connection.lossDetectionTimerDeadline, Connection.isClosingOrClosed, closed]
    rw [Attended.Mirrors, none]
    exact disarmConnection_holds distinct
  rw [processPendingWork, wp_bind]
  refine checkTimeouts_wp (fun _ => ?_) (fun closed _ => retired _ closed) fun _ _ => trivial
  rw [wp_bind]
  refine checkTimeouts_wp (fun _ => ?_) (fun closed _ => retired _ closed) fun _ _ => trivial
  simp only [servicePendingKeysAndRecovery, serviceRecoveryTimer, onConnection, armRecoveryTimerFromConnection,
    discardExpiredOneRttKeys, wp_bind, wp_get, wp_zoom, wp_modify, wp_pure]
  exact wp_mono (wp_self _ _) (fun _ _ _ => update_holds distinct _) fun _ _ _ => trivial

/-- An endpoint: its lifecycle, and the connections its caller has. -/
structure Endpoint where
  lifecycle : EndpointConnectionLifecycle := {}
  connections : Nat → Option Connection := fun _ => none

namespace Endpoint

variable (e : Endpoint)

def timers : EndpointLossDetectionTimers := e.lifecycle.recoveryTimers

def deadline (connectionId : Nat) : Option Connection.LossDetectionTimerDeadline :=
  (e.connections connectionId).bind Connection.lossDetectionTimerDeadline

def put (connectionId : Nat) (lifecycle : EndpointConnectionLifecycle) (c : Option Connection) : Endpoint :=
  ⟨lifecycle, Function.update e.connections connectionId c⟩

/-- A connection is taken in, called, given its pending work, or let go. Pending work that fails does not arm the
timer again, and is no step. -/
inductive Step (e : Endpoint) : Endpoint → Prop
  | accepts {connectionId : Nat} (c : Connection) (unarmed : c.lossDetectionTimerDeadline = none)
      (free : e.connections connectionId = none) : Step e (e.put connectionId e.lifecycle (some c))
  | calls {connectionId : Nat} {c : Connection} (here : e.connections connectionId = some c) {α : Type}
      {call : ConnM α} {b : Attended} (ran : after (mirrored connectionId call) ⟨e.lifecycle, c⟩ = b) :
    Step e (e.put connectionId b.lifecycle (some b.connection))
  | works {connectionId : Nat} {c : Connection} (here : e.connections connectionId = some c) {nowNanos : Int}
      {result : EndpointPendingWorkResult} {b : Attended}
      (done : processPendingWork connectionId nowNanos ⟨e.lifecycle, c⟩ = .ok result b) :
    Step e (e.put connectionId b.lifecycle (some b.connection))
  | retires (connectionId : Nat) :
    Step e (e.put connectionId (e.lifecycle.retireConnection connectionId).2 none)

structure Mirrors : Prop where
  distinct : e.timers.Distinct
  mem : ∀ entry, entry ∈ e.timers.entries ↔ e.deadline entry.connectionId = some entry.timer

variable {e}

theorem Mirrors.put (mirrors : e.Mirrors) {lifecycle : EndpointConnectionLifecycle} {c : Option Connection}
    (holds : e.timers.Holds lifecycle.recoveryTimers connectionId (c.bind Connection.lossDetectionTimerDeadline)) :
    (e.put connectionId lifecycle c).Mirrors := by
  refine ⟨holds.distinct, fun entry => (holds.mem entry).trans ?_⟩
  by_cases here : entry.connectionId = connectionId
  · simp [here, Endpoint.put, deadline]
  · simp [here, Endpoint.put, deadline, mirrors.mem]

theorem Mirrors.step {f : Endpoint} (mirrors : e.Mirrors) (step : Step e f) : f.Mirrors := by
  cases step with
  | accepts c unarmed free =>
    refine mirrors.put ⟨mirrors.distinct, fun entry => ?_⟩
    split
    · rename_i here
      refine (mirrors.mem entry).trans ?_
      rw [deadline, here, free, Option.bind_some, unarmed]
      rfl
    · rfl
  | calls here ran => exact mirrors.put (ran ▸ mirrored_mirrors (a := ⟨e.lifecycle, _⟩) mirrors.distinct _)
  | works here done =>
    have served := wp_returns done (processPendingWork_mirrors (a := ⟨e.lifecycle, _⟩) mirrors.distinct _)
    exact mirrors.put served
  | retires connectionId => exact mirrors.put (disarmConnection_holds mirrors.distinct)

/-- In every run the table has the deadlines of the connections, one entry for each that has one. The earliest
of its entries is the deadline of its connection, and no connection has an earlier one. -/
theorem waits_for_earliest_deadline (run : Relation.ReflTransGen Step {} e) : e.Mirrors ∧
    (e.timers.earliestDeadline = none → ∀ connectionId, e.deadline connectionId = none) ∧
    ∀ first, e.timers.earliestDeadline = some first → e.deadline first.connectionId = some first.timer ∧
      ∀ connectionId timer, e.deadline connectionId = some timer →
        first.timer.deadlineNanos ≤ timer.deadlineNanos := by
  have mirrors : e.Mirrors := by
    induction run with
    | refl => exact ⟨List.Pairwise.nil, fun _ => by simp [timers, deadline]⟩
    | tail _ step ih => exact ih.step step
  rw [earliestDeadline_eq]
  refine ⟨mirrors, fun empty connectionId => ?_, fun first least => ?_⟩
  · by_contra some
    obtain ⟨timer, some⟩ := Option.ne_none_iff_exists'.mp some
    have listed := (mirrors.mem ⟨connectionId, timer⟩).mpr some
    rw [List.argmin_eq_none.mp empty] at listed
    exact absurd listed List.not_mem_nil
  · refine ⟨(mirrors.mem first).mp (List.argmin_mem least), fun connectionId timer armed => ?_⟩
    have listed := (mirrors.mem ⟨connectionId, timer⟩).mpr armed
    exact List.le_of_mem_argmin (f := fun entry => entry.timer.deadlineNanos) listed least

/-- An endpoint with one client, which has sent an Initial packet. -/
def armedClient : Endpoint :=
  let b := after (mirrored 7 (recordPacketSentInSpace .initial 0 100)) ⟨{}, .fresh .client {}⟩
  (put {} 7 {} (some (.fresh .client {}))).put 7 b.lifecycle (some b.connection)

theorem waits_for_earliest_deadline_client :
    (armedClient.deadline 7).isSome = true ∧ armedClient.Mirrors := by
  have accepted : Step {} (put {} 7 {} (some (.fresh .client {}))) := .accepts _ rfl rfl
  have called : Step (put {} 7 {} (some (.fresh .client {}))) armedClient := .calls rfl rfl
  exact ⟨by decide +kernel, (waits_for_earliest_deadline (.tail (.single accepted) called)).1⟩

end Endpoint

end Quicz
