import Quicz.Run.Numbers
import Quicz.Run.Once

/-! The 1-RTT keys over whole runs. A generation that is gone stays gone and opens nothing, as
long as no copy of the state from before its expiry is put back; a second local update waits for
an acknowledgement of a packet that was sent since the first; and a packet that opens under no
key changes nothing, except when its phase bit names a discarded generation. -/
namespace Quicz

open Proc LedgerEntry Call Option Ledger

variable {keys : OneRttKeys} {due : Int} {rule : LedgerRule} {l m : Ledger} {c : Connection}

namespace Aes128KeyPhaseState

variable {s : Aes128KeyPhaseState}

structure Chained (s : Aes128KeyPhaseState) : Prop where
  next : s.next = s.current.update
  previous : ∀ keys, s.previous = some keys → keys.update = s.current

theorem chained_init (keys : OneRttKeys) (phase : Bool) : (init keys phase).Chained := ⟨rfl, nofun⟩

theorem Chained.advance (h : s.Chained) : s.advance.Chained := by
  refine ⟨rfl, fun keys same => ?_⟩
  obtain rfl := some.inj same
  exact h.next.symm

theorem Chained.moveOn (h : s.Chained) (deadline : Option Int) : (s.moveOn deadline).Chained := by
  cases deadline with
  | none => exact h.advance
  | some due => exact ⟨h.advance.next, h.advance.previous⟩

theorem Chained.discardExpiredPrevious (h : s.Chained) (now : Int) : (s.discardExpiredPrevious now).Chained := by
  unfold Aes128KeyPhaseState.discardExpiredPrevious
  split
  · exact ⟨h.next, nofun⟩
  · exact h

/-- A generation that came before the current one and is not retained. -/
def Behind (s : Aes128KeyPhaseState) (keys : OneRttKeys) : Prop :=
  keys.generation < s.current.generation ∧ s.previous ≠ some keys

theorem Behind.not_holds (h : s.Behind keys) (chained : s.Chained) : ¬ s.holds keys := by
  obtain ⟨older, dropped⟩ := h
  rintro (rfl | rfl | retained)
  · exact Nat.lt_irrefl _ older
  · rw [chained.next] at older
    exact absurd older (Nat.not_lt.mpr (Nat.le_succ _))
  · exact dropped retained

/-- The previous generation until its deadline, and one that lies behind after it. -/
def Outgoing (s : Aes128KeyPhaseState) (keys : OneRttKeys) (due : Int) : Prop :=
  s.previous = some keys ∧ s.previousDiscardDeadlineNanos = some due ∨ s.Behind keys

theorem Outgoing.older (h : s.Outgoing keys due) (chained : s.Chained) : keys.generation < s.current.generation := by
  rcases h with ⟨retained, -⟩ | behind
  · rw [← chained.previous keys retained]
    exact Nat.lt_succ_self _
  · exact behind.1

theorem Outgoing.moveOn (h : s.Outgoing keys due) (chained : s.Chained) (deadline : Option Int) :
    (s.moveOn deadline).Behind keys := by
  have older := h.older chained
  have advanced : s.advance.Behind keys := by
    refine ⟨?_, fun same => ?_⟩
    · change keys.generation < s.next.generation
      rw [chained.next]
      exact Nat.lt_succ_of_lt older
    · obtain rfl := some.inj same
      exact Nat.lt_irrefl _ older
  cases deadline <;> exact advanced

theorem Behind.discardExpiredPrevious (h : s.Behind keys) (now : Int) :
    (s.discardExpiredPrevious now).Behind keys := by
  unfold Aes128KeyPhaseState.discardExpiredPrevious
  split
  · exact ⟨h.1, nofun⟩
  · exact h

theorem Outgoing.discardExpiredPrevious (h : s.Outgoing keys due) (chained : s.Chained) (now : Int) :
    (s.discardExpiredPrevious now).Outgoing keys due ∧ (due ≤ now → (s.discardExpiredPrevious now).Behind keys) := by
  rcases h with ⟨retained, deadline⟩ | behind
  · have older : keys.generation < s.current.generation := Outgoing.older (Or.inl ⟨retained, deadline⟩) chained
    unfold Aes128KeyPhaseState.discardExpiredPrevious
    split
    · exact ⟨Or.inr ⟨older, nofun⟩, fun _ => ⟨older, nofun⟩⟩
    · rename_i early
      refine ⟨Or.inl ⟨retained, deadline⟩, fun passed => absurd ?_ early⟩
      simp [previousExpired, deadline, passed]
  · exact ⟨Or.inr (behind.discardExpiredPrevious now), fun _ => behind.discardExpiredPrevious now⟩

end Aes128KeyPhaseState

variable (entry : LedgerEntry)

theorem LedgerEntry.peerKeys_apply (l : Ledger) : (entry.apply l).peerKeys =
    match entry with
    | .installs _ peer => some (.init ⟨peer, 0⟩ false)
    | .expires now => l.peerKeys.map (·.discardExpiredPrevious now)
    | .advances deadline => l.peerKeys.map (·.moveOn (some deadline))
    | .rewrites state => some state
    | _ => l.peerKeys := by
  cases entry with
  | emits packet entry => rw [apply, emit_eq]
  | records space entry => rw [apply, spend_eq]; rfl
  | spends bytes => rw [apply, spend_eq]
  | _ => rfl

def Ledger.PeerKeys (P : Aes128KeyPhaseState → Prop) (l : Ledger) : Prop :=
  ∀ state, l.peerKeys = some state → P state

theorem Ledger.PeerKeys.step {P : Aes128KeyPhaseState → Prop} (fixed : ¬ rule.rewrites)
    (installs : rule.installs → ∀ keys, P (.init keys false)) (moves : ∀ s deadline, P s → P (s.moveOn deadline))
    (expires : ∀ s now, P s → P (s.discardExpiredPrevious now)) (entry : LedgerEntry)
    (h : l.PeerKeys P) (allowed : entry.Allowed rule l) : (entry.apply l).PeerKeys P := by
  intro state held
  rw [peerKeys_apply] at held
  cases entry with
  | installs own peer =>
    obtain rfl := some.inj held
    exact installs allowed _
  | expires now =>
    obtain ⟨before, old, rfl⟩ := map_eq_some_iff.mp held
    exact expires before now (h before old)
  | advances deadline =>
    obtain ⟨before, old, rfl⟩ := map_eq_some_iff.mp held
    exact moves before _ (h before old)
  | rewrites state => exact absurd allowed fixed
  | _ => exact h state held

theorem LedgerSteps.chained (fixed : ¬ rule.rewrites) (steps : LedgerSteps rule l m)
    (start : l.PeerKeys Aes128KeyPhaseState.Chained) : m.PeerKeys Aes128KeyPhaseState.Chained :=
  steps.preserves (fun _ entry => Ledger.PeerKeys.step fixed (fun _ keys => Aes128KeyPhaseState.chained_init keys false)
    (fun _ deadline h => h.moveOn deadline) (fun _ now h => h.discardExpiredPrevious now) entry) start

open Aes128KeyPhaseState in
theorem LedgerSteps.outgoing (fixed : ¬ rule.rewrites) (secrets : ¬ rule.installs)
    (steps : LedgerSteps rule l m) (start : l.PeerKeys fun s => s.Chained ∧ s.Outgoing keys due) :
    m.PeerKeys fun s => s.Chained ∧ s.Outgoing keys due :=
  steps.preserves (fun _ entry => Ledger.PeerKeys.step fixed (fun allowed => absurd allowed secrets)
    (fun _ deadline h => ⟨h.1.moveOn deadline, Or.inr (h.2.moveOn h.1 deadline)⟩)
    (fun _ now h => ⟨h.1.discardExpiredPrevious now, (h.2.discardExpiredPrevious h.1 now).1⟩) entry) start

open Aes128KeyPhaseState in
theorem LedgerSteps.behind (fixed : ¬ rule.rewrites) (secrets : ¬ rule.installs)
    (steps : LedgerSteps rule l m) (start : l.PeerKeys fun s => s.Chained ∧ s.Behind keys) :
    m.PeerKeys (fun s => s.Chained ∧ s.Behind keys) ∧
      ∃ events, m.history = l.history ++ events ∧ .opened keys ∉ events := by
  refine steps.preserves (P := fun m => m.PeerKeys (fun s => s.Chained ∧ s.Behind keys) ∧
      ∃ events, m.history = l.history ++ events ∧ .opened keys ∉ events)
    (fun m entry h allowed => ?_) ⟨start, [], by simp, by simp⟩
  obtain ⟨gone, events, grown, unopened⟩ := h
  refine ⟨?_, events ++ entry.events m, ?_, ?_⟩
  · refine Ledger.PeerKeys.step fixed (fun allowed => absurd allowed secrets) (fun s deadline h => ?_)
      (fun s now h => ?_) entry gone allowed
    · have outgoing : s.Outgoing keys 0 := Or.inr h.2
      exact ⟨h.1.moveOn deadline, outgoing.moveOn h.1 deadline⟩
    · exact ⟨h.1.discardExpiredPrevious now, h.2.discardExpiredPrevious now⟩
  · rw [history_apply, grown, List.append_assoc]
  · rw [List.mem_append, not_or]
    refine ⟨unopened, fun mem => ?_⟩
    cases entry <;> simp [LedgerEntry.events] at mem
    subst mem
    obtain ⟨state, held, holds⟩ := allowed.2.resolve_left fixed
    exact (gone state held).2.not_holds (gone state held).1 holds

theorem LedgerSteps.unopened (shut : ¬ rule.opens) (steps : LedgerSteps rule l m) :
    ∃ events, m.history = l.history ++ events ∧ .opened keys ∉ events := by
  refine steps.preserves (P := fun m => ∃ events, m.history = l.history ++ events ∧ .opened keys ∉ events)
    (fun m entry h allowed => ?_) ⟨[], by simp, by simp⟩
  obtain ⟨events, grown, unopened⟩ := h
  refine ⟨events ++ entry.events m, ?_, ?_⟩
  · rw [history_apply, grown, List.append_assoc]
  · rw [List.mem_append, not_or]
    refine ⟨unopened, fun mem => ?_⟩
    cases entry <;> simp [LedgerEntry.events] at mem
    exact shut allowed.1

variable {call : Call}

def LedgerRule.uncopied : LedgerRule := { LedgerRule.any with rewrites := False }

def LedgerRule.settled : LedgerRule := { LedgerRule.any with rewrites := False, installs := False }

def LedgerRule.shut : LedgerRule :=
  { LedgerRule.any with rewrites := False, installs := False, opens := False }

theorem Call.uncopied (fresh : call.usesExpired c = false) : Evolves .uncopied c (call.next c) :=
  evolves trivial (fun _ _ => trivial) { meets_any c call with fresh := Or.inr fresh }

theorem Call.settled (fresh : call.usesExpired c = false) (same : call.installsKeys = false) :
    Evolves .settled c (call.next c) :=
  evolves trivial (fun _ _ => trivial)
    { meets_any c call with secrets := Or.inr same, fresh := Or.inr fresh }

theorem Call.shut (fresh : call.usesExpired c = false) (same : call.installsKeys = false)
    (other : call.usesInstalledKeys = false) : Evolves .shut c (call.next c) :=
  evolves trivial (fun _ _ => trivial)
    { meets_any c call with secrets := Or.inr same, fresh := Or.inr fresh, opened := Or.inr other }

/-- Calls that neither copy keys past their time nor install new ones. -/
def Call.keepsKeys (c : Connection) (call : Call) : Prop :=
  call.usesExpired c = false ∧ call.installsKeys = false

theorem run_settled {calls : List Call} (keep : Throughout keepsKeys c calls) : Evolves .settled c (run c calls) :=
  run_preserves (P := Evolves .settled c)
    (fun _ _ keep before => before.trans (settled keep.1 keep.2)) keep (.refl c)

open Aes128KeyPhaseState in
theorem Call.unopened (keep : call.keepsKeys c) {now : Int} (time : call.time = some now)
    (passed : due ≤ now) (outgoing : c.ledger.PeerKeys fun s => s.Chained ∧ s.Outgoing keys due) :
    ∃ events, (call.next c).history = c.history ++ events ∧ .opened keys ∉ events := by
  by_cases installed : call.usesInstalledKeys = true
  · cases call with
    | processProtectedShortDatagramWithInstalledKeys now datagram close =>
      obtain rfl := some.inj time
      have gone : c.ledger.PeerKeys fun s => s.Chained ∧ s.Behind keys := by
        intro state held
        obtain ⟨chained, ⟨-, deadline⟩ | behind⟩ := outgoing state held
        · -- the deadline has passed, and then the call is not one of these
          have held : c.peerOneRttKeyPhaseState = some state := held
          have fresh := keep.1
          simp [usesExpired, held, previousExpired, deadline] at fresh
          omega
        · exact ⟨chained, behind⟩
      exact ((settled keep.1 keep.2).ledger.behind id id gone).2
    | _ => exact absurd installed Bool.false_ne_true
  · exact (shut keep.1 keep.2 (Bool.not_eq_true _ ▸ installed)).ledger.unopened id

theorem fresh_chained (side : ConnectionSide) (config : Config) :
    (Connection.fresh side config).ledger.PeerKeys Aes128KeyPhaseState.Chained := nofun

open Aes128KeyPhaseState in
/-- In a run in which no short packet comes in for installed keys whose predecessors are past
their time, a previous generation with a deadline opens nothing at or after it, and once the
connection does not hold it any more, which an expiry check at or after the deadline sees to, it
never holds it again. -/
theorem discarded_keys_stay_discarded {side : ConnectionSide} {config : Config} {start : Connection}
    {earlier later : List Call} {state : Aes128KeyPhaseState} (made : Connection.init side config = .ok start)
    (fresh : Throughout (fun c call => call.usesExpired c = false) start (earlier ++ later))
    (same : ∀ call ∈ later, call.installsKeys = false)
    (held : (run start earlier).peerOneRttKeyPhaseState = some state)
    (retained : state.previous = some keys) (deadline : state.previousDiscardDeadlineNanos = some due) :
    (∀ before call after now, later = before ++ call :: after → call.time = some now → due ≤ now →
      ∃ events, (run start (earlier ++ before ++ [call])).history =
        (run start (earlier ++ before)).history ++ events ∧ .opened keys ∉ events) ∧
    (∀ before after, later = before ++ after →
      (∀ s, (run start (earlier ++ before)).peerOneRttKeyPhaseState = some s → ¬ s.holds keys) →
      ∀ s, (run start (earlier ++ later)).peerOneRttKeyPhaseState = some s → ¬ s.holds keys) ∧
    ∀ before now after, later = before ++ .discardExpiredOneRttKeys now :: after → due ≤ now →
      ∀ s, (run start (earlier ++ later)).peerOneRttKeyPhaseState = some s → ¬ s.holds keys := by
  obtain ⟨-, rfl⟩ := Connection.init_ok made
  set middle := run (.fresh side config) earlier with middle_def
  obtain ⟨first, second⟩ := throughout_append.mp fresh
  have keep : Throughout keepsKeys middle later := 
    second.with_mem fun c call mem fresh => ⟨fresh, same call mem⟩
  have evolved : Evolves .uncopied (.fresh side config) middle :=
    run_preserves (P := Evolves .uncopied _) (fun _ _ fresh before => before.trans (uncopied fresh))
      first (.refl _)
  have chained := evolved.ledger.chained id (fresh_chained side config)
  have outgoing : middle.ledger.PeerKeys fun s => s.Chained ∧ s.Outgoing keys due := by
    intro other other_held
    obtain rfl := some.inj (held.symm.trans other_held)
    exact ⟨chained state held, Or.inl ⟨retained, deadline⟩⟩
  have until_ : ∀ before after, later = before ++ after →
      ((run middle before).ledger.PeerKeys fun s => s.Chained ∧ s.Outgoing keys due) ∧
        Throughout keepsKeys (run middle before) after := by
    rintro before after rfl
    obtain ⟨keep, rest⟩ := throughout_append.mp keep
    exact ⟨(run_settled keep).ledger.outgoing id id outgoing, rest⟩
  have stays : ∀ {t : Connection} {calls : List Call}, Throughout keepsKeys t calls →
      (t.ledger.PeerKeys fun s => s.Chained ∧ s.Behind keys) →
      ∀ s, (run t calls).peerOneRttKeyPhaseState = some s → ¬ s.holds keys := by
    intro t calls keep gone s held
    have gone := ((run_settled keep).ledger.behind id id gone).1
    exact (gone s held).2.not_holds (gone s held).1
  simp only [run_append, ← middle_def]
  refine ⟨fun before call after now split time passed => ?_, fun before after split dropped => ?_,
    fun before now after split passed => ?_⟩
  · obtain ⟨outgoing, keep, -⟩ := until_ before (call :: after) split
    exact unopened keep time passed outgoing
  · obtain ⟨outgoing, keep⟩ := until_ before after split
    rw [split, run_append]
    refine stays keep fun s held => ?_
    obtain ⟨chained, ⟨still, -⟩ | behind⟩ := outgoing s held
    · exact absurd (Or.inr (Or.inr still)) (dropped s held)
    · exact ⟨chained, behind⟩
  · obtain ⟨outgoing, -, keep⟩ := until_ before _ split
    rw [split, run_append, run_cons]
    refine stays keep fun s held => ?_
    obtain ⟨old, was, rfl⟩ := map_eq_some_iff.mp held
    obtain ⟨chained, outgoing⟩ := outgoing old was
    exact ⟨chained.discardExpiredPrevious now, (outgoing.discardExpiredPrevious chained now).2 passed⟩

def pingSealed (generation : Nat) (keyPhase : Bool) (packetNumber : Nat) : ShortDatagram where
  packet := ⟨some keyPhase, some ⟨[2], generation⟩⟩
  opened := { packetNumber, plaintext := { wire := [⟨1, .ping⟩], len := 1 } }
  len := 30

def peerUpdates : List Call :=
  [.installOneRttTrafficSecrets [1] [2],
    .processProtectedShortDatagramWithInstalledKeys 0 (pingSealed 1 true 0) false]

theorem discarded_keys_stay_discarded_ping :
    let c := run (.fresh .client {}) (peerUpdates ++ [.discardExpiredOneRttKeys 999000000,
      .processProtectedShortDatagramWithInstalledKeys 999000001 (pingSealed 2 false 1) false])
    c.history.count (.opened ⟨[2], 2⟩) = 1 ∧
    ∀ s, c.peerOneRttKeyPhaseState = some s → ¬ s.holds ⟨[2], 0⟩ := by
  have fresh : Throughout (fun c call => call.usesExpired c = false) (.fresh .client {})
      (peerUpdates ++ [.discardExpiredOneRttKeys 999000000,
        .processProtectedShortDatagramWithInstalledKeys 999000001 (pingSealed 2 false 1) false]) :=
    ⟨rfl, rfl, rfl, rfl, trivial⟩
  have later := discarded_keys_stay_discarded (Connection.init_default _) fresh (by simp [installsKeys]) rfl rfl rfl
  exact ⟨rfl, later.2.2 [] 999000000 _ rfl (Int.le_refl _)⟩

/-- A packet of the previous generation comes in after the deadline: it is opened, and the copy
that was taken before the expiry check brings its keys back. -/
theorem expired_keys_open_and_return :
    let c := run (.fresh .client {}) peerUpdates
    let late : Call := .processProtectedShortDatagramWithInstalledKeys 2000000000 (pingSealed 0 false 1) false
    Connection.init .client {} = .ok (.fresh .client {}) ∧
    c.peerOneRttKeyPhaseState.map (·.previous) = some (some ⟨[2], 0⟩) ∧
    c.peerOneRttKeyPhaseState.map (·.previousDiscardDeadlineNanos) = some (some 999000000) ∧
    (late.next c).history = c.history ++ [.opened ⟨[2], 0⟩, .applied .application 1, .processed .application 1] ∧
    (late.next c).peerOneRttKeyPhaseState.map (·.previous) = some (some ⟨[2], 0⟩) :=
  ⟨rfl, rfl, rfl, rfl, rfl⟩

theorem LedgerEntry.threshold_apply (l : Ledger) : (entry.apply l).threshold =
    match entry with
    | .acknowledges space gone confirmed => if confirmed && l.confirms space gone then none else l.threshold
    | .installs _ _ => none
    | .initiates _ => some (l.space .application).nextPacketNumber
    | _ => l.threshold := by
  cases entry with
  | emits packet entry => rw [apply, emit_eq]
  | records space entry => rw [apply, spend_eq]; rfl
  | spends bytes => rw [apply, spend_eq]
  | _ => rfl

/-- A packet that was sent in a stretch of history is acknowledged in it. -/
def Confirmed (events : List Event) : Prop :=
  ∃ before numbers after n, events = before ++ .acknowledged .application numbers :: after ∧ n ∈ numbers ∧
    ∃ event ∈ before, event.takes .application = some n

theorem Confirmed.append {events : List Event} (h : Confirmed events) (more : List Event) :
    Confirmed (events ++ more) := by
  obtain ⟨before, numbers, after, n, rfl, mem, sent⟩ := h
  exact ⟨before, numbers, after ++ more, n, by simp, mem, sent⟩

/-- Since a local update, one of its packets was acknowledged, or the gate is still closed and
every listed packet it waits for was sent since. -/
def Gated (base : List Event) (l : Ledger) : Prop :=
  ∃ events, l.history = base ++ events ∧ (Confirmed events ∨ ∃ threshold, l.threshold = some threshold ∧
      ∀ packet ∈ (l.space .application).sent, threshold ≤ packet.packetNumber →
        ∃ event ∈ events, event.takes .application = some packet.packetNumber)

theorem Gated.step {base : List Event} (secrets : ¬ rule.installs) (entry : LedgerEntry) (h : Gated base l)
    (allowed : entry.Allowed rule l) : Gated base (entry.apply l) := by
  obtain ⟨events, grown, state⟩ := h
  refine ⟨events ++ entry.events l, by rw [history_apply, grown, List.append_assoc], ?_⟩
  rcases state with confirmed | ⟨threshold, waits, sent⟩
  · exact Or.inl (confirmed.append _)
  have listed : ∀ packet ∈ ((entry.apply l).space .application).sent, threshold ≤ packet.packetNumber →
      ∃ event ∈ events ++ entry.events l, event.takes .application = some packet.packetNumber := by
    intro packet mem above
    rcases allowed.listed_or_taken mem with old | ⟨-, -, event, new, takes⟩
    · obtain ⟨event, mem, takes⟩ := sent packet old above
      exact ⟨event, List.mem_append_left _ mem, takes⟩
    · exact ⟨event, List.mem_append_right _ new, takes⟩
  have same := threshold_apply entry l
  cases entry with
  | acknowledges space gone confirmed =>
    by_cases cleared : (confirmed && l.confirms space gone) = true
    · -- the packet that opens the gate was sent since the update
      obtain ⟨-, confirms⟩ := Bool.and_eq_true_iff.mp cleared
      simp only [Ledger.confirms, waits, any_some, Bool.and_eq_true, beq_iff_eq, List.any_eq_true,
        decide_eq_true_eq] at confirms
      obtain ⟨rfl, n, mem, above⟩ := confirms
      obtain ⟨packet, inside, rfl⟩ := List.mem_map.mp mem
      obtain ⟨event, earlier, takes⟩ := sent packet (List.mem_filter.mp inside).1 above
      exact Or.inl ⟨events, _, [], packet.packetNumber, rfl, mem, event, earlier, takes⟩
    · exact Or.inr ⟨threshold, by simpa [cleared, waits] using same, listed⟩
  | installs own peer => exact absurd allowed secrets
  | initiates deadline => exact absurd (waits.symm.trans allowed) nofun
  | _ => exact Or.inr ⟨threshold, same.trans waits, listed⟩

/-- A local update that succeeds found the gate open, and closes it. -/
theorem initiateOneRttKeyUpdate_succeeds (done : Call.initiateOneRttKeyUpdate.succeeds c = true) :
    c.localOneRttKeyUpdateAckThreshold = none ∧
      (Call.initiateOneRttKeyUpdate.next c).localOneRttKeyUpdateAckThreshold =
        some c.applicationPacketSpace.nextPacketNumber ∧
      (Call.initiateOneRttKeyUpdate.next c).applicationPacketSpace = c.applicationPacketSpace := by
  have spec : wp (perform .initiateOneRttKeyUpdate) (fun _ t => c.localOneRttKeyUpdateAckThreshold = none ∧
      t.localOneRttKeyUpdateAckThreshold = some c.applicationPacketSpace.nextPacketNumber ∧
      t.applicationPacketSpace = c.applicationPacketSpace) (fun _ _ => True) c := by
    simp only [perform, quietly, initiateOneRttKeyUpdate, requireActive, wp_bind, wp_get, wp_failIf]
    refine ⟨fun _ => trivial, fun _ => ⟨fun _ => trivial, fun _ => ⟨fun _ => trivial, fun open_ => ?_⟩⟩⟩
    cases c.localOneRttKeyPhaseState with
    | none => trivial
    | some state => exact ⟨by simpa using open_, rfl, rfl⟩
  simp only [Call.succeeds] at done
  simp only [wp] at spec
  simp only [next, after]
  cases result : perform .initiateOneRttKeyUpdate c with
  | ok datagram t => simpa only [result] using spec
  | error e t => simp [result] at done

/-- Between two successful local updates without new traffic secrets, a packet that was sent after
the first is acknowledged. -/
theorem second_key_update_acknowledged {between : List Call} (reached : Reachable c)
    (first : Call.initiateOneRttKeyUpdate.succeeds c = true) (same : ∀ call ∈ between, call.installsKeys = false)
    (second : Call.initiateOneRttKeyUpdate.succeeds (run (Call.initiateOneRttKeyUpdate.next c) between) = true) :
    ∃ events, (run (Call.initiateOneRttKeyUpdate.next c) between).history =
        (Call.initiateOneRttKeyUpdate.next c).history ++ events ∧
      ∃ before numbers after n, events = before ++ .acknowledged .application numbers :: after ∧
        n ∈ numbers ∧ ∃ event ∈ before, event.takes .application = some n := by
  obtain ⟨side, config, -, evolved⟩ := reached.evolved
  have below : c.ledger.Below :=
    evolved.ledger.preserves (fun _ entry => Ledger.Below.step entry) (fresh_below side config)
  obtain ⟨-, gate, kept⟩ := initiateOneRttKeyUpdate_succeeds first
  set begun := Call.initiateOneRttKeyUpdate.next c
  have start : Gated begun.history begun.ledger := by
    refine ⟨[], (List.append_nil _).symm, Or.inr ⟨_, gate, fun packet mem above => absurd above ?_⟩⟩
    have mem : packet ∈ begun.applicationPacketSpace.sentPackets := mem
    rw [kept] at mem
    exact Nat.not_le.mpr (below .application packet mem)
  have moved : Evolves { LedgerRule.any with installs := False } begun (run begun between) := by
    refine run_evolves trivial (fun _ _ => trivial) ((throughout_true begun between).with_mem fun c call mem _ => ?_)
    exact { Call.meets_any c call with secrets := Or.inr (same call mem) }
  obtain ⟨events, grown, state⟩ := moved.ledger.preserves (fun _ entry => Gated.step id entry) start
  refine ⟨events, grown, state.resolve_right ?_⟩
  rintro ⟨threshold, waits, -⟩
  have opened := (initiateOneRttKeyUpdate_succeeds second).1
  exact absurd (waits.symm.trans opened) nofun

def keysReady : List Call := [.installOneRttTrafficSecrets [1] [2], .confirmHandshake]

theorem second_key_update_acknowledged_ping :
    let c := run (.fresh .client {}) keysReady
    let calls : List Call := [.sendPingInSpace .application, .pollProtectedShortDatagram 0 8,
      .receiveAckInSpace .application 1 ⟨0, 0, 0, []⟩ none]
    Call.initiateOneRttKeyUpdate.succeeds (run (Call.initiateOneRttKeyUpdate.next c) calls) = true ∧
    ∃ events, (run (Call.initiateOneRttKeyUpdate.next c) calls).history =
        (Call.initiateOneRttKeyUpdate.next c).history ++ events ∧
      ∃ before numbers after n, events = before ++ .acknowledged .application numbers :: after ∧
        n ∈ numbers ∧ ∃ event ∈ before, event.takes .application = some n := by
  intro c calls
  have reached : Reachable c := ⟨.client, {}, .fresh .client {}, keysReady, rfl, throughout_true _ _, rfl⟩
  have quiet : ∀ call ∈ calls, call.installsKeys = false := by simp [calls, Call.installsKeys]
  have done : Call.initiateOneRttKeyUpdate.succeeds (run (Call.initiateOneRttKeyUpdate.next c) calls) = true := by
    decide +kernel
  exact ⟨done, second_key_update_acknowledged reached rfl quiet done⟩

/-- The first local update needs no acknowledgement. -/
theorem first_key_update_unacknowledged :
    let c := run (.fresh .client {}) keysReady
    Connection.init .client {} = .ok (.fresh .client {}) ∧
    Call.initiateOneRttKeyUpdate.succeeds c = true ∧ c.history = [.keysInstalled] ∧
    (Call.initiateOneRttKeyUpdate.next c).localOneRttKeyPhaseState.map (·.current) = some ⟨[1], 1⟩ :=
  ⟨rfl, rfl, rfl, rfl⟩

namespace Connection

def timed (c : Connection) (nowNanos : Int) : Connection :=
  ((c.expireIdleState nowNanos).expireCloseState nowNanos).discardExpiredOneRttKeys nowNanos

theorem timed_state (active : c.isClosingOrClosed = false) (now : Int) :
    (c.timed now).state = .active ∨ (c.timed now).state = .closed := by
  have state : c.state = .active := by
    simp only [isClosingOrClosed, Bool.or_eq_false_iff, decide_eq_false_iff_not, not_not] at active
    exact active.1.1
  have idle : (c.expireIdleState now).state = .active ∨ (c.expireIdleState now).state = .closed := by
    rcases c.expireIdleState_cases now with same | ended
    · exact .inl ((congrArg _ same).trans state)
    · exact .inr (congrArg _ ended)
  have kept : (c.expireIdleState now).expireCloseState now = c.expireIdleState now := by
    unfold expireCloseState
    rcases idle with active | closed
    · simp [active]
    · simp [closed]
  change ((c.expireIdleState now).expireCloseState now).state = _ ∨
    ((c.expireIdleState now).expireCloseState now).state = _
  rw [kept]
  exact idle

end Connection

/-- The phase bit of the packet is that of a generation that was discarded: not the current one,
and not that of the retained one. -/
def Aes128KeyPhaseState.namesDiscarded (state : Aes128KeyPhaseState) (packet : ShortPacketSeal) : Prop :=
  ∃ keyPhase, packet.keyPhase = some keyPhase ∧ keyPhase ≠ state.currentKeyPhase ∧
    state.discardedPreviousKeyPhase = some keyPhase ∧
    (state.previous = none ∨ state.previousKeyPhase ≠ some keyPhase)

/-- A packet that no held keys open is refused in one of two ways. -/
theorem unprotect_forged {packet : ShortPacketSeal}
    (forged : ∀ keys, state.holds keys → packet.sealedWith ≠ some keys) :
    state.namesDiscarded packet ∧ unprotectShortPacketAes128WithKeyUpdate state packet = .error .keyUpdateError ∨
    ¬ state.namesDiscarded packet ∧ unprotectShortPacketAes128WithKeyUpdate state packet = .error .invalid := by
  unfold unprotectShortPacketAes128WithKeyUpdate
  cases phase : packet.keyPhase with
  | none => exact Or.inr ⟨by simp [Aes128KeyPhaseState.namesDiscarded, phase], rfl⟩
  | some keyPhase =>
    have named : state.namesDiscarded packet ↔ keyPhase ≠ state.currentKeyPhase ∧
        state.discardedPreviousKeyPhase = some keyPhase ∧
        (state.previous = none ∨ state.previousKeyPhase ≠ some keyPhase) := by
      simp [Aes128KeyPhaseState.namesDiscarded, phase]
    simp only [named]
    by_cases current : keyPhase = state.currentKeyPhase
    · simp [current, forged state.current (Or.inl rfl)]
    · simp only [current, if_false, forged state.next (Or.inr (Or.inl rfl)),
        unprotectShortPacketAes128WithKeyUpdate.discarded]
      cases previous : state.previous with
      | none => by_cases named : state.discardedPreviousKeyPhase = some keyPhase <;> simp [named, current]
      | some keys =>
        have unopened := forged keys (Or.inr (Or.inr previous))
        cases retained : state.previousKeyPhase with
        | none => by_cases named : state.discardedPreviousKeyPhase = some keyPhase <;> simp [named, current]
        | some previousPhase =>
          by_cases matches_ : keyPhase = previousPhase
          · simp [matches_, unopened]
          · by_cases named : state.discardedPreviousKeyPhase = some keyPhase <;>
              simp [named, current, matches_, Ne.symm matches_]

/-- A forged packet gets as far as the keys, names a discarded generation, and the close frame for
it fits a datagram. -/
def Connection.closesOnForged (c : Connection) (nowNanos : Int) (state : Aes128KeyPhaseState)
    (datagram : ShortDatagram) : Prop :=
  (c.timed nowNanos).isClosingOrClosed = false ∧ 0 < datagram.len ∧
    datagram.len ≤ c.config.maxDatagramSize ∧ c.applicationPacketSpace.discarded = false ∧
    state.namesDiscarded datagram.packet ∧ 39 ≤ c.maxTxDatagramSize

theorem Connection.timed_same (c : Connection) (now : Int) : (c.timed now).config = c.config ∧
    (c.timed now).peerMaxUdpPayloadSize = c.peerMaxUdpPayloadSize ∧
    (c.timed now).applicationPacketSpace = c.applicationPacketSpace := by
  have same := fun c : Connection => c.expired_keeps now
    (f := fun c => (c.config, c.peerMaxUdpPayloadSize, c.applicationPacketSpace)) fun _ => rfl
  have kept := (same (c.expireIdleState now)).2.trans (same c).1
  rw [Prod.mk.injEq, Prod.mk.injEq] at kept
  exact kept

variable {now : Int} {state : Aes128KeyPhaseState}

theorem prepareInboundDatagramProcessing_active (active : c.isClosingOrClosed = false) :
    wp (prepareInboundDatagramProcessing now)
      (fun proceed t => proceed = true ∧ t = c.timed now ∧ t.isClosingOrClosed = false)
      (fun _ t => t = c.timed now ∧ t.isClosingOrClosed = true) c := by
  have open_ : ¬ ((c.timed now).state = .closing ∨ (c.timed now).state = .draining) := by
    rcases c.timed_state active now with state | state <;> simp [state]
  simp only [prepareInboundDatagramProcessing, expireState, wp_bind, wp_modify, wp_get]
  change wp (if (c.timed now).state = .closing ∨ (c.timed now).state = .draining then _ else _) _ _
    (c.timed now)
  rw [if_neg open_, wp_failIf_bind]
  exact ⟨fun ended => ⟨rfl, ended⟩, fun going => ⟨rfl, rfl, Bool.not_eq_true _ ▸ going⟩⟩

/-- A packet that no held keys open fails the call: it queues a close, or leaves what the timers
leave. -/
theorem forged_short_datagram (active : c.isClosingOrClosed = false)
    (held : c.peerOneRttKeyPhaseState = some state) {datagram : ShortDatagram}
    (forged : ∀ keys, state.holds keys → datagram.packet.sealedWith ≠ some keys) (close : Bool) :
    wp (processProtectedShortDatagramWithInstalledKeysAndFrameErrorPolicy now datagram close) (fun _ _ => False)
      (fun _ t => c.closesOnForged now state datagram ∧ t.state = .closing ∨
        ¬ c.closesOnForged now state datagram ∧ t = c.timed now) c := by
  obtain ⟨config, size, space⟩ := c.timed_same now
  rw [processProtectedShortDatagramWithInstalledKeysAndFrameErrorPolicy, wp_bind, wp_get, held, wp_bind, wp_orThrow]
  refine ⟨fun copy same => ?_, by simp⟩
  obtain rfl := some.inj same
  rw [wp_bind, processProtectedShortDatagramWithKeyPhaseStateAndFrameErrorPolicy, wp_bind]
  refine wp_mono (prepareInboundDatagramProcessing_active active) (fun proceed t prepared => ?_)
    fun _ t ended => Or.inr ⟨fun closes => ?_, ended.1⟩
  · obtain ⟨rfl, rfl, going⟩ := prepared
    simp only [if_true, validateReceivedUdpDatagramSize, wp_bind, wp_get, wp_failIf, config, space]
    refine ⟨fun misfit => Or.inr ⟨fun closes => ?_, trivial⟩,
      fun fits => ⟨fun gone => Or.inr ⟨fun closes => ?_, trivial⟩, fun kept => ?_⟩⟩
    · have := closes.2.1
      have := closes.2.2.1
      omega
    · exact absurd (closes.2.2.2.1.symm.trans gone) Bool.false_ne_true
    · rcases unprotect_forged forged with ⟨named, refused⟩ | ⟨unnamed, refused⟩
      · have len : closeFrameWireLen (.connection ⟨codeValue .keyUpdateError, 0,
            textBytes "packet protected with discarded key"⟩) = .ok 39 := rfl
        have limit : (c.timed now).maxTxDatagramSize = c.maxTxDatagramSize := by
          simp only [Connection.maxTxDatagramSize, config, size]
        simp only [refused, wp_bind, wp_recover, wp_throw, wp_pure, closeConnection, closeWith,
          requireActive, wp_get, wp_failIf, going, len, liftExcept, wp_modify, limit]
        refine ⟨by simp, fun _ => ⟨fun large => Or.inr ⟨fun closes => ?_, trivial⟩,
          fun small => Or.inl ⟨?_, trivial⟩⟩⟩
        · have := closes.2.2.2.2.2
          omega
        · exact ⟨going, by omega, by omega, Bool.not_eq_true _ ▸ kept, named, by omega⟩
      · simp only [refused, wp_throw]
        exact Or.inr ⟨fun closes => unnamed closes.2.2.2.2.1, trivial⟩
  · have going := closes.1
    rw [← ended.1, ended.2] at going
    exact Bool.noConfusion going

/-- A short packet that no held keys open leaves an active connection as the timers alone leave it,
exactly unless its phase bit names a discarded generation. -/
theorem forged_short_datagram_inert_iff (active : c.isClosingOrClosed = false)
    {state : Aes128KeyPhaseState} (held : c.peerOneRttKeyPhaseState = some state) {datagram : ShortDatagram}
    (forged : ∀ keys, state.holds keys → datagram.packet.sealedWith ≠ some keys) (close : Bool) :
    (Call.processProtectedShortDatagramWithInstalledKeys now datagram close).next c = c.timed now ↔
      ¬ c.closesOnForged now state datagram := by
  have outcome : c.closesOnForged now state datagram ∧
        ((Call.processProtectedShortDatagramWithInstalledKeys now datagram close).next c).state = .closing ∨
      ¬ c.closesOnForged now state datagram ∧
        (Call.processProtectedShortDatagramWithInstalledKeys now datagram close).next c = c.timed now := by
    refine wp_after (I := fun t => c.closesOnForged now state datagram ∧ t.state = .closing ∨
      ¬ c.closesOnForged now state datagram ∧ t = c.timed now) ?_
    rw [perform, quietly, wp_bind]
    exact wp_mono (forged_short_datagram active held forged close) (fun _ _ never => never.elim)
  rcases outcome with ⟨closes, closing⟩ | ⟨inert, same⟩
  · refine ⟨fun same => ?_, fun inert => absurd closes inert⟩
    rw [same] at closing
    rcases c.timed_state active now with state | state <;> exact absurd (state.symm.trans closing) (by simp)
  · exact ⟨fun _ => inert, fun _ => same⟩

def unsealed (keyPhase : Bool) : ShortDatagram where
  packet := ⟨some keyPhase, none⟩
  opened := { packetNumber := 1, plaintext := { wire := [], len := 1 } }
  len := 30

theorem forged_short_datagram_inert_current :
    let c := run (.fresh .client {}) (peerUpdates ++ [.discardExpiredOneRttKeys 999000000])
    (Call.processProtectedShortDatagramWithInstalledKeys 999000001 (unsealed true) true).next c =
      c.timed 999000001 := by
  intro c
  have held : c.peerOneRttKeyPhaseState = some ⟨⟨[2], 1⟩, ⟨[2], 2⟩, true, 1, none, none, none, some false⟩ := rfl
  refine (forged_short_datagram_inert_iff rfl held (fun keys _ => (some_ne_none keys).symm) true).mpr ?_
  rintro ⟨-, -, -, -, ⟨keyPhase, phase, other, -⟩, -⟩
  obtain rfl := some.inj phase
  exact other rfl

/-- A forged packet with the other phase bit closes a connection that discarded a generation. -/
theorem forged_phase_bit_closes :
    let c := run (.fresh .client {}) (peerUpdates ++ [.discardExpiredOneRttKeys 999000000])
    let forgery : Call := .processProtectedShortDatagramWithInstalledKeys 999000001 (unsealed false) true
    Connection.init .client {} = .ok (.fresh .client {}) ∧ c.isClosingOrClosed = false ∧
    (unsealed false).packet.sealedWith = none ∧ (forgery.next c).state = .closing ∧
    (forgery.next c).pendingClose = some (.connection ⟨14, 0, textBytes "packet protected with discarded key"⟩) :=
  ⟨rfl, rfl, rfl, rfl, rfl⟩

end Quicz
