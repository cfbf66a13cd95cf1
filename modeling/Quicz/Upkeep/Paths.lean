import Quicz.Run

/-! Path validation. A challenge is known by the serial number it got when it was queued; the log
says what happened to it, and from the log and the two queues where it stands. -/
namespace Quicz

open Chunks Proc List PathEvent Paths

variable {event : PathEvent}

namespace PathEvent

def serial : PathEvent → Nat
  | queued serial _ _ | sent serial _ => serial
  | requeued challenge | validated challenge _ _ | failed challenge => challenge.serial

def sentData : PathEvent → Option Bytes
  | sent _ data => some data
  | _ => none

def sends (serial : Nat) : PathEvent → Bool
  | sent other _ => other = serial
  | _ => false

end PathEvent

inductive PathStanding
  | pending
  | outstanding
  | validated
  | failed
deriving DecidableEq, Repr

def PathEvent.ends (serial : Nat) : PathEvent → Option PathStanding
  | validated challenge _ _ => if challenge.serial = serial then some .validated else none
  | failed challenge => if challenge.serial = serial then some .failed else none
  | _ => none

namespace Paths

def standings (p : Paths) (serial : Nat) : List PathStanding :=
  (p.pending.filter (·.serial = serial)).map (fun _ => .pending) ++
    ((p.outstanding.filter (·.serial = serial)).map (fun _ => .outstanding) ++ p.log.filterMap (·.ends serial))

def transmissions (p : Paths) (serial : Nat) : Nat := p.log.countP (·.sends serial)

end Paths

def lastEvent (log : List PathEvent) (serial : Nat) : Option PathEvent :=
  (log.filter (·.serial = serial)).getLast?

/-- A challenge waits for its answer when the last thing that happened to it is that it was sent. -/
def Awaits (log : List PathEvent) (challenge : OutstandingPathChallenge) : Prop :=
  .queued challenge.serial challenge.data challenge.path ∈ log ∧
    lastEvent log challenge.serial = some (.sent challenge.serial challenge.data)

structure Answers (allowed : HeardFrame → Prop) (log : List PathEvent) (challenge : OutstandingPathChallenge)
    (response : Bytes) (receivedOn : Option UdpTuple) : Prop where
  awaited : Awaits log challenge
  data : response = challenge.data
  path : challenge.path.isSome → receivedOn = challenge.path
  frame : ∃ state, allowed ⟨.pathResponse response, state⟩

variable {α : Type} {l : List α} {a : α} {index : Nat}

theorem countP_eraseIdx (found : l[index]? = some a) (P : α → Bool) :
    l.countP P = (if P a then 1 else 0) + (l.eraseIdx index).countP P := by
  obtain ⟨inside, rfl⟩ := List.getElem?_eq_some_iff.mp found
  rw [← (getElem_cons_eraseIdx_perm inside).countP_eq P, countP_cons, Nat.add_comm]

/-- What holds at every entry of a list, with the entries before it. -/
theorem forall_split_concat {R : List α → α → Prop}
    (each : ∀ before x after, l = before ++ x :: after → R before x) (last : R l a) :
    ∀ before x after, l ++ [a] = before ++ x :: after → R before x := by
  intro before x after split
  rcases eq_nil_or_concat after with rfl | ⟨rest, y, rfl⟩
  · obtain ⟨rfl, same⟩ := append_inj' split rfl
    cases same
    exact last
  · have whole : l ++ [a] = (before ++ x :: rest) ++ [y] := by
      rw [split, append_assoc, cons_append, concat_eq_append]
    exact each before x rest (append_inj' whole rfl).1

variable {rule : PathRule} {allowed : HeardFrame → Prop} {p q : Paths}

structure PathInv (allowed : HeardFrame → Prop) (p : Paths) : Prop where
  standing : ∀ serial, (p.standings serial).length = if serial < p.queued then 1 else 0
  queued : ∀ serial data path, .queued serial data path ∈ p.log → serial < p.queued
  pending : ∀ challenge ∈ p.pending, .queued challenge.serial challenge.data challenge.path ∈ p.log ∧
    p.transmissions challenge.serial = challenge.transmissions ∧
      challenge.transmissions < maxPathChallengeTransmissions
  outstanding : ∀ challenge ∈ p.outstanding, Awaits p.log challenge ∧
    p.transmissions challenge.serial = challenge.transmissions
  bounded : ∀ serial, p.transmissions serial ≤ maxPathChallengeTransmissions
  unsent : ∀ serial, p.queued ≤ serial → p.transmissions serial = 0
  emitted : p.log.filterMap sentData = p.emitted
  answered : ∀ before event after, p.log = before ++ event :: after → ∀ challenge response receivedOn,
    event = .validated challenge response receivedOn → Answers allowed before challenge response receivedOn

theorem Paths.standings_length (p : Paths) (serial : Nat) : (p.standings serial).length =
    p.pending.countP (·.serial = serial) + (p.outstanding.countP (·.serial = serial) +
      (p.log.filterMap (·.ends serial)).length) := by
  simp [standings, countP_eq_length_filter]

variable {log : List PathEvent} {serial : Nat}

theorem lastEvent_concat : lastEvent (log ++ [event]) serial =
    if event.serial = serial then some event else lastEvent log serial := by
  unfold lastEvent
  by_cases here : event.serial = serial <;> simp [here]

theorem Awaits.concat {challenge : OutstandingPathChallenge} (awaits : Awaits log challenge)
    (other : event.serial ≠ challenge.serial) : Awaits (log ++ [event]) challenge :=
  ⟨mem_append_left _ awaits.1, by rw [lastEvent_concat, if_neg other]; exact awaits.2⟩

theorem Paths.standings_concat (grown : q.log = p.log ++ [event]) (serial : Nat) :
    (q.standings serial).length = q.pending.countP (·.serial = serial) + (q.outstanding.countP (·.serial = serial) +
        ((p.log.filterMap (·.ends serial)).length + (event.ends serial).toList.length)) := by
  rw [standings_length, grown, filterMap_append, length_append]
  cases ends : event.ends serial <;> simp [ends]

theorem Paths.transmissions_concat (grown : q.log = p.log ++ [event]) (serial : Nat) :
    q.transmissions serial = p.transmissions serial + if event.sends serial then 1 else 0 := by
  simp [transmissions, grown, countP_append, countP_singleton]

namespace PathInv

variable {challenge : OutstandingPathChallenge} {rest : List PendingPathChallenge}

theorem apart_of_pending (inv : PathInv allowed p) {challenge : PendingPathChallenge}
    (head : p.pending = challenge :: rest) : (∀ other ∈ rest, other.serial ≠ challenge.serial) ∧
      ∀ other ∈ p.outstanding, other.serial ≠ challenge.serial := by
  have standing := inv.standing challenge.serial
  rw [standings_length, head, countP_cons] at standing
  simp only [decide_true, if_true] at standing
  have none : rest.countP (·.serial = challenge.serial) = 0 ∧
      p.outstanding.countP (·.serial = challenge.serial) = 0 := by
    split at standing <;> omega
  simpa [countP_eq_zero] using none

theorem apart_of_outstanding (inv : PathInv allowed p) (found : p.outstanding[index]? = some challenge) :
    (∀ other ∈ p.outstanding.eraseIdx index, other.serial ≠ challenge.serial) ∧
      ∀ other ∈ p.pending, other.serial ≠ challenge.serial := by
  have standing := inv.standing challenge.serial
  rw [standings_length, countP_eraseIdx found] at standing
  simp only [decide_true, if_true] at standing
  have none : (p.outstanding.eraseIdx index).countP (·.serial = challenge.serial) = 0 ∧
      p.pending.countP (·.serial = challenge.serial) = 0 := by
    split at standing <;> omega
  simpa [countP_eq_zero] using none

theorem fresh : PathInv allowed ⟨[], [], 0, [], [], none⟩ where
  standing serial := by simp [standings]
  queued := nofun
  pending := nofun
  outstanding := nofun
  bounded serial := by simp [transmissions]
  unsent _ _ := rfl
  emitted := rfl
  answered before event after split := by simp at split

theorem quiet (grown : q.log = p.log ++ [event]) (silent : event.sentData = none) :
    q.transmissions = p.transmissions := by
  funext serial
  rw [transmissions_concat grown]
  cases event with
  | sent => cases silent
  | _ => rfl

theorem answered_concat (inv : PathInv allowed p)
    (last : ∀ challenge response receivedOn, event = .validated challenge response receivedOn →
      Answers allowed p.log challenge response receivedOn) :
    ∀ before e after, p.log ++ [event] = before ++ e :: after → ∀ challenge response receivedOn,
      e = .validated challenge response receivedOn → Answers allowed before challenge response receivedOn :=
  forall_split_concat inv.answered last

theorem queues (inv : PathInv allowed p) (data : Bytes) (path : Option UdpTuple) : PathInv allowed { p with
      pending := p.pending ++ [⟨data, 0, path, p.queued⟩]
      queued := p.queued + 1
      log := p.log ++ [.queued p.queued data path] } := by
  have same : ({ p with
      pending := p.pending ++ [⟨data, 0, path, p.queued⟩]
      queued := p.queued + 1
      log := p.log ++ [.queued p.queued data path] } : Paths).transmissions = p.transmissions := quiet rfl rfl
  constructor
  case standing =>
    intro serial
    have standing := inv.standing serial
    rw [standings_length] at standing
    rw [standings_concat rfl]
    have ends : ((PathEvent.queued p.queued data path).ends serial).toList.length = 0 := rfl
    simp only [countP_append, countP_singleton, decide_eq_true_eq, ends]
    split at standing <;> split <;> split <;> omega
  case queued =>
    intro serial data' path' mem
    rcases mem_append.mp mem with earlier | last
    · exact Nat.lt_succ_of_lt (inv.queued serial data' path' earlier)
    · cases mem_singleton.mp last
      exact Nat.lt_succ_self _
  case pending =>
    intro challenge mem
    rw [same]
    rcases mem_append.mp mem with earlier | last
    · exact (inv.pending challenge earlier).imp_left (mem_append_left _)
    · rw [mem_singleton.mp last]
      exact ⟨mem_append_right _ mem_cons_self, inv.unsent _ le_rfl, Nat.zero_lt_succ _⟩
  case outstanding =>
    intro challenge mem
    rw [same]
    obtain ⟨awaits, count⟩ := inv.outstanding challenge mem
    refine ⟨awaits.concat fun other => ?_, count⟩
    exact absurd (inv.queued _ _ _ awaits.1) (other ▸ lt_irrefl _)
  case bounded => exact same ▸ inv.bounded
  case unsent => exact fun serial later => same ▸ inv.unsent serial (Nat.le_of_succ_le later)
  case emitted => simp [inv.emitted, sentData]
  case answered => exact inv.answered_concat nofun

theorem sends (inv : PathInv allowed p) {challenge : PendingPathChallenge} (now : Int)
    (head : p.pending = challenge :: rest) : PathInv allowed { p with
      pending := rest
      outstanding := p.outstanding ++ [challenge.sentAt now]
      log := p.log ++ [.sent challenge.serial challenge.data]
      emitted := p.emitted ++ [challenge.data] } := by
  obtain ⟨apart, apart'⟩ := inv.apart_of_pending head
  obtain ⟨queued, count, few⟩ := inv.pending challenge (head ▸ mem_cons_self)
  have within := inv.queued _ _ _ queued
  set q : Paths := { p with
      pending := rest
      outstanding := p.outstanding ++ [challenge.sentAt now]
      log := p.log ++ [.sent challenge.serial challenge.data]
      emitted := p.emitted ++ [challenge.data] }
  have counts : ∀ serial, q.transmissions serial =
      p.transmissions serial + if challenge.serial = serial then 1 else 0 := by
    intro serial
    rw [transmissions_concat rfl]
    simp [PathEvent.sends]
  have others : ∀ serial, serial ≠ challenge.serial → q.transmissions serial = p.transmissions serial := by
    intro serial other
    rw [counts, if_neg other.symm, Nat.add_zero]
  constructor
  case standing =>
    intro serial
    have standing := inv.standing serial
    rw [standings_length, head] at standing
    rw [standings_concat rfl]
    have ends : ((PathEvent.sent challenge.serial challenge.data).ends serial).toList.length = 0 := rfl
    have moved : (challenge.sentAt now).serial = challenge.serial := rfl
    simp only [q, countP_cons, countP_append, countP_nil, decide_eq_true_eq, ends, moved] at standing ⊢
    omega
  case queued =>
    intro serial data path mem
    rcases mem_append.mp mem with earlier | last
    · exact inv.queued serial data path earlier
    · cases mem_singleton.mp last
  case pending =>
    intro other mem
    obtain ⟨queued, count, few⟩ := inv.pending other (head ▸ mem_cons_of_mem _ mem)
    exact ⟨mem_append_left _ queued, (others _ (apart other mem)).trans count, few⟩
  case outstanding =>
    intro other mem
    rcases mem_append.mp mem with earlier | last
    · obtain ⟨awaits, count⟩ := inv.outstanding other earlier
      exact ⟨awaits.concat (apart' other earlier).symm, (others _ (apart' other earlier)).trans count⟩
    · have transmissions : (challenge.sentAt now).transmissions = challenge.transmissions + 1 := by
        have : challenge.transmissions + 1 ≤ 255 := few.trans (by decide)
        simp [PendingPathChallenge.sentAt, this]
      rw [mem_singleton.mp last]
      refine ⟨⟨mem_append_left _ queued, ?_⟩, ?_⟩
      · exact lastEvent_concat.trans (if_pos rfl)
      · have sent : q.transmissions challenge.serial = challenge.transmissions + 1 := by
          rw [counts, count, if_pos rfl]
        exact sent.trans transmissions.symm
  case bounded =>
    intro serial
    have bounded := inv.bounded serial
    rw [counts]
    split
    · subst serial
      omega
    · omega
  case unsent =>
    intro serial later
    rw [others serial (fun same => by simp only [q] at later; omega)]
    exact inv.unsent serial later
  case emitted => simp [q, inv.emitted, PathEvent.sentData]
  case answered => exact inv.answered_concat nofun

theorem leaves (inv : PathInv allowed p) (found : p.outstanding[index]? = some challenge)
    {e : PathEvent} (silent : e.sentData = none) (unqueued : ∀ serial data path, e ≠ .queued serial data path)
    (about : e.serial = challenge.serial) {m : List PendingPathChallenge}
    (stands : ∀ serial, m.countP (·.serial = serial) + (e.ends serial).toList.length =
      if challenge.serial = serial then 1 else 0)
    (again : ∀ other ∈ m, other = challenge.again ∧ challenge.transmissions < maxPathChallengeTransmissions)
    (last : ∀ challenge response receivedOn, e = .validated challenge response receivedOn →
      Answers allowed p.log challenge response receivedOn) : PathInv allowed { p with
      pending := p.pending ++ m
      outstanding := p.outstanding.eraseIdx index
      log := p.log ++ [e] } := by
  obtain ⟨apart, apart'⟩ := inv.apart_of_outstanding found
  obtain ⟨awaits, count⟩ := inv.outstanding challenge (mem_of_getElem? found)
  set q : Paths := { p with
      pending := p.pending ++ m
      outstanding := p.outstanding.eraseIdx index
      log := p.log ++ [e] }
  have same : q.transmissions = p.transmissions := quiet rfl silent
  constructor
  case standing =>
    intro serial
    have standing := inv.standing serial
    have placed := stands serial
    rw [standings_length, countP_eraseIdx found] at standing
    rw [standings_concat rfl]
    simp only [q, countP_append, decide_eq_true_eq] at standing ⊢
    omega
  case queued =>
    intro serial data path mem
    rcases mem_append.mp mem with earlier | here
    · exact inv.queued serial data path earlier
    · exact absurd (mem_singleton.mp here).symm (unqueued serial data path)
  case pending =>
    intro other mem
    rw [same]
    rcases mem_append.mp mem with earlier | new
    · exact (inv.pending other earlier).imp_left (mem_append_left _)
    · obtain ⟨rfl, few⟩ := again other new
      exact ⟨mem_append_left _ awaits.1, count, few⟩
  case outstanding =>
    intro other mem
    rw [same]
    obtain ⟨waits, count⟩ := inv.outstanding other (mem_of_mem_eraseIdx mem)
    exact ⟨waits.concat fun here => apart other mem (here.symm.trans about), count⟩
  case bounded => exact same ▸ inv.bounded
  case unsent => exact same ▸ inv.unsent
  case emitted => simp [q, inv.emitted, silent]
  case answered => exact inv.answered_concat last

theorem step (inv : PathInv rule.hears p) (step : PathStep rule p q) : PathInv rule.hears q := by
  cases step with
  | arrives path =>
    obtain ⟨standing, queued, pending, outstanding, bounded, unsent, emitted, answered⟩ := inv
    exact ⟨standing, queued, pending, outstanding, bounded, unsent, emitted, answered⟩
  | queues data path => exact inv.queues data path
  | sends now head => exact inv.sends now head
  | @retries index challenge found again =>
    refine inv.leaves (e := .requeued challenge) found rfl (fun _ _ _ => by simp) rfl (fun serial => ?_)
      (fun other mem => ?_) fun _ _ _ => by simp
    · simp [countP_singleton, OutstandingPathChallenge.again, ends]
    · exact ⟨mem_singleton.mp mem, again⟩
  | @fails index challenge found =>
    have gone := inv.leaves (e := .failed challenge) (m := []) found rfl (fun _ _ _ => by simp) rfl
      (fun serial => ?_) (by simp) fun _ _ _ => by simp
    · rwa [append_nil] at gone
    · simp only [countP_nil, ends]
      split <;> rfl
  | @answers index challenge found answered bound =>
    have awaits := (inv.outstanding challenge (mem_of_getElem? found)).1
    have gone := inv.leaves (e := .validated challenge challenge.data p.arrival) (m := []) found rfl
      (fun _ _ _ => by simp) rfl (fun serial => ?_) (by simp) fun other response on same => ?_
    · rwa [append_nil] at gone
    · simp only [countP_nil, ends]
      split <;> rfl
    · cases same
      exact ⟨awaits, rfl, bound, answered⟩

theorem steps (inv : PathInv rule.hears p) (steps : PathSteps rule p q) : PathInv rule.hears q := by
  induction steps with
  | refl => exact inv
  | tail _ step ih => exact ih.step step

end PathInv

namespace Connection

def pathStandings (c : Connection) (serial : Nat) : List PathStanding := c.paths.standings serial

def pathTransmissions (c : Connection) (serial : Nat) : Nat := c.paths.transmissions serial

end Connection

def broughtBy (calls : List Call) (heard : HeardFrame) : Prop :=
  ∃ call ∈ calls, ∃ payload ∈ call.payloads, heard.frame ∈ payload.frames

theorem mem_of_heardAs {frames : List Frame} {state : ConnectionState} {heard : HeardFrame}
    (mem : heard ∈ heardAs state frames) : heard.frame ∈ frames := by
  induction frames generalizing state with
  | nil => cases mem
  | cons frame rest ih =>
    rcases mem_cons.mp mem with rfl | later
    · exact mem_cons_self
    · exact mem_cons_of_mem _ (ih later)

theorem run_hears_brought (start : Connection) (calls : List Call) :
    Tends LifeSteps { UpkeepRule.any with hears := broughtBy calls } start (run start calls) := by
  refine run_tends ((throughout_true start calls).with_mem fun c call mem _ =>
    call.heeds_hears fun payload brings heard hears => ?_)
  exact ⟨call, mem, payload, brings, mem_of_heardAs hears⟩

/-- In every run each challenge that was queued is in one place; it is sent at most three times,
each time in one of the PATH_CHALLENGE frames that go out; and it is validated by a PATH_RESPONSE
frame of the run with its data, on the path it is bound to, while the last thing that happened to
it is that it was sent. -/
theorem path_validation_sound {side : ConnectionSide} {config : Config} {start : Connection}
    (made : Connection.init side config = .ok start) (calls : List Call) :
    let c := run start calls
    (∀ serial data path, .queued serial data path ∈ c.challengeLog →
      ∃ standing, c.pathStandings serial = [standing]) ∧
    (∀ serial, c.pathTransmissions serial ≤ 3) ∧
    c.challengeLog.filterMap sentData = challengesEmitted c.history ∧
    ∀ before challenge response receivedOn after,
      c.challengeLog = before ++ .validated challenge response receivedOn :: after →
        Answers (broughtBy calls) before challenge response receivedOn := by
  obtain ⟨-, rfl⟩ := Connection.init_ok made
  have new : PathInv (broughtBy calls) (Connection.fresh side config).paths := PathInv.fresh
  have inv := new.steps (run_hears_brought _ calls).paths
  refine ⟨fun serial data path queued => ?_, inv.bounded, inv.emitted, ?_⟩
  · have one := inv.standing serial
    rw [if_pos (inv.queued serial data path queued)] at one
    exact length_eq_one_iff.mp one
  · intro before challenge response receivedOn after split
    exact inv.answered before _ after split challenge response receivedOn rfl

def challengeData : Bytes := [1, 2, 3, 4, 5, 6, 7, 8]

def answeredChallenge : List Call :=
  [.sendPathChallengeForPath challengeData 5, .pollTx 0 1200, .setReceivePathHint (some 5),
    .processDatagramForPacketType .oneRtt 1 { wire := [⟨0x1b, .pathResponse challengeData⟩], len := 9 } false]

theorem path_validation_sound_answered : (run (.fresh .client {}) answeredChallenge).pathStandings 0 = [.validated] ∧
      Answers (broughtBy answeredChallenge) [.queued 0 challengeData (some 5), .sent 0 challengeData]
        ⟨challengeData, 0, 1, some 5, 0⟩ challengeData (some 5) := by
  exact ⟨rfl, (path_validation_sound (Connection.init_default .client) answeredChallenge).2.2.2 _ _ _ _ [] rfl⟩

end Quicz
