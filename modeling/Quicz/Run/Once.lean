import Quicz.Ranges
import Quicz.Run

/-! Each packet number's frames are applied at most once. While a packet is processed its number
is not settled yet; a call that succeeds has recorded it, and a recorded number is refused in
every later state. -/
namespace Quicz

open Chunks Proc Resend LedgerEntry Ledger ReceivedPacketRanges SpaceLedger

namespace SpaceLedger

variable {s : SpaceLedger} {packetNumber : Nat}

def Knows (s : SpaceLedger) (packetNumber : Nat) : Prop :=
  s.discarded = true ∨ s.received.Remembers packetNumber

theorem Knows.blocks (known : s.Knows packetNumber) (ok : s.received.Ok) : s.Blocks packetNumber :=
  known.imp_right ok.refuses

theorem ok_hear (ok : s.received.Ok) (bound : packetNumber ≤ maxQuicVarint) : (s.hear packetNumber).received.Ok :=
  (record_keeps ok (bound.trans (by decide))).1

theorem Knows.hear (known : s.Knows packetNumber) (ok : s.received.Ok) {other : Nat}
    (bound : other ≤ maxQuicVarint) : (s.hear other).Knows packetNumber :=
  known.imp_right ((record_keeps ok (bound.trans (by decide))).2 packetNumber)

theorem knows_hear (ok : s.received.Ok) (bound : packetNumber ≤ maxQuicVarint)
    (fresh : s.received.canRecord packetNumber = true) : (s.hear packetNumber).Knows packetNumber :=
  Or.inr (Or.inl (record_records ok (bound.trans (by decide)) fresh).1.added)

end SpaceLedger

/-- What an entry does to the received numbers of a space: nothing, one more, or all gone. -/
theorem LedgerEntry.received_apply (entry : LedgerEntry) (l : Ledger) (space : PacketNumberSpace) :
    (((entry.apply l).space space).received = (l.space space).received ∧
      ((entry.apply l).space space).discarded = (l.space space).discarded) ∨
    (∃ n, (entry = .hears space n ∨ entry = .processes space n) ∧
      (entry.apply l).space space = (l.space space).hear n) ∨
    (entry = .clears space ∧ (entry.apply l).space space = (l.space space).clear) := by
  have modified : ∀ (other : PacketNumberSpace) (f : SpaceLedger → SpaceLedger),
      (∀ s, (f s).received = s.received ∧ (f s).discarded = s.discarded) →
      ((l.modify other f).space space).received = (l.space space).received ∧
        ((l.modify other f).space space).discarded = (l.space space).discarded := by
    intro other f same
    by_cases here : space = other
    · subst here
      rw [space_modify_self]
      exact same _
    · rw [space_modify_ne l f here]
      exact ⟨rfl, rfl⟩
  cases entry with
  | emits packet sent =>
    left
    simp only [apply]
    by_cases here : space = packet.space
    · subst here
      rw [space_emit]
      cases sent <;> simp only [carry] <;> split <;> exact ⟨rfl, rfl⟩
    · rw [l.space_emit_ne sent here]
      exact ⟨rfl, rfl⟩
  | records other sent =>
    left
    have same := modified other (fun s => s.take.carry sent) fun _ => ⟨rfl, rfl⟩
    simpa only [apply, note, space_spend] using same
  | acknowledges other gone confirmed | loses other gone =>
    exact Or.inl (modified other (·.leave gone) fun _ => ⟨rfl, rfl⟩)
  | hears other n =>
    by_cases here : space = other
    · subst here
      exact Or.inr (Or.inl ⟨n, Or.inl rfl, l.space_modify_self space (·.hear n)⟩)
    · left
      simp only [apply, space_modify_ne l _ here, and_self]
  | processes other n =>
    by_cases here : space = other
    · subst here
      exact Or.inr (Or.inl ⟨n, Or.inr rfl, l.space_modify_self space (·.hear n)⟩)
    · left
      simp only [apply, note, space_modify_ne l _ here, and_self]
  | clears other =>
    by_cases here : space = other
    · subst here
      exact Or.inr (Or.inr ⟨rfl, l.space_modify_self space _⟩)
    · left
      simp only [apply, note, space_modify_ne l _ here, and_self]
  | restarts => exact Or.inl (modified .initial _ fun _ => ⟨rfl, rfl⟩)
  | spends bytes =>
    left
    simp only [apply, space_spend, and_self]
  | _ => exact Or.inl ⟨rfl, rfl⟩

variable {n : Nat} {entry : LedgerEntry}

theorem LedgerEntry.applied_mem_events {l : Ledger} {space : PacketNumberSpace}
    (mem : .applied space n ∈ entry.events l) : entry = .applies space n := by
  cases entry <;> simp [events] at mem
  obtain ⟨rfl, rfl⟩ := mem
  rfl

structure Once (busy : Option (PacketNumberSpace × Nat)) (l : Ledger) : Prop where
  ok : ∀ space, (l.space space).received.Ok
  known : ∀ space n, .applied space n ∈ l.history → (l.space space).Knows n ∨ busy = some (space, n)
  single : ∀ space n, l.history.count (.applied space n) ≤ 1
  open_ : ∀ space n, busy = some (space, n) → (l.space space).Knows n ∨ (l.space space).received.canRecord n = true

variable {rule : LedgerRule} {busy : Option (PacketNumberSpace × Nat)} {l m : Ledger}

theorem LedgerEntry.Allowed.ok (allowed : entry.Allowed rule l)
    (ok : ∀ space, (l.space space).received.Ok) (space : PacketNumberSpace) :
    ((entry.apply l).space space).received.Ok := by
  rcases entry.received_apply l space with ⟨same, -⟩ | ⟨n, which, heard⟩ | ⟨-, cleared⟩
  · exact same ▸ ok space
  · rw [heard]
    rcases which with rfl | rfl
    · exact ok_hear (ok space) allowed.2
    · exact ok_hear (ok space) allowed.2
  · rw [cleared]
    exact ok_empty

variable {space : PacketNumberSpace}

theorem LedgerEntry.Allowed.knows (allowed : entry.Allowed rule l)
    (ok : ∀ space, (l.space space).received.Ok) (known : (l.space space).Knows n) :
    ((entry.apply l).space space).Knows n := by
  rcases entry.received_apply l space with ⟨received, discarded⟩ | ⟨m, which, heard⟩ | ⟨-, cleared⟩
  · unfold SpaceLedger.Knows
    rwa [received, discarded]
  · rw [heard]
    rcases which with rfl | rfl
    · exact known.hear (ok space) allowed.2
    · exact known.hear (ok space) allowed.2
  · rw [cleared]
    exact Or.inl rfl

/-- While a packet is at work nothing is applied, and no other number is recorded in its space. -/
theorem Once.step (quiet : ¬ rule.applies)
    (only : ∀ space n, busy = some (space, n) → ∀ m, rule.hears space m → m = n)
    (entry : LedgerEntry) (once : Once busy l) (allowed : entry.Allowed rule l) : Once busy (entry.apply l) := by
  have silent : ∀ space n, .applied space n ∉ entry.events l := by
    intro space n mem
    rw [applied_mem_events mem] at allowed
    exact quiet allowed.1
  refine ⟨allowed.ok once.ok, fun space n mem => ?_, fun space n => ?_, fun space n working => ?_⟩
  · rw [history_apply, List.mem_append] at mem
    rcases mem with before | now
    · exact (once.known space n before).imp_left (allowed.knows once.ok)
    · exact absurd now (silent space n)
  · rw [history_apply, List.count_append, List.count_eq_zero.mpr (silent space n)]
    exact once.single space n
  · rcases once.open_ space n working with known | fresh
    · exact Or.inl (allowed.knows once.ok known)
    · rcases entry.received_apply l space with ⟨received, -⟩ | ⟨m, which, heard⟩ | ⟨-, cleared⟩
      · exact Or.inr (received ▸ fresh)
      · rw [heard]
        rcases which with rfl | rfl
        all_goals
          obtain rfl := only space n working m allowed.1
          exact Or.inl (knows_hear (once.ok space) allowed.2 fresh)
      · rw [cleared]
        exact Or.inl (Or.inl rfl)

theorem Once.steps (quiet : ¬ rule.applies)
    (only : ∀ space n, busy = some (space, n) → ∀ m, rule.hears space m → m = n)
    (steps : LedgerSteps rule l m) (once : Once busy l) : Once busy m :=
  steps.preserves (fun _ entry => Once.step quiet only entry) once

theorem Once.begin (once : Once none l) (kept : (l.space space).discarded = false)
    (fresh : (l.space space).received.canRecord n = true) : Once (some (space, n)) (l.note (.applied space n)) := by
  have unknown : .applied space n ∉ l.history := by
    intro before
    rcases (once.known space n before).resolve_right nofun with discarded | remembered
    · exact absurd (kept.symm.trans discarded) nofun
    · exact absurd (fresh.symm.trans ((once.ok space).refuses remembered)) nofun
  refine ⟨once.ok, fun other m mem => ?_, fun other m => ?_, ?_⟩
  · rcases List.mem_append.mp mem with before | now
    · exact Or.inl ((once.known other m before).resolve_right nofun)
    · obtain ⟨rfl, rfl⟩ : other = space ∧ m = n := by simpa using now
      exact Or.inr rfl
  · rw [note, List.count_append]
    by_cases same : Event.applied other m = .applied space n
    · rw [same, List.count_eq_zero.mpr unknown]
      simp
    · rw [List.count_singleton, if_neg fun equal => same (eq_of_beq equal).symm]
      exact once.single other m
  · rintro other m same
    obtain ⟨rfl, rfl⟩ := Prod.mk.inj (Option.some.inj same)
    exact Or.inr fresh

theorem Once.settle (once : Once (some (space, n)) l) (bound : n ≤ maxQuicVarint) :
    Once none (apply l (.processes space n)) := by
  have allowed : (processes space n).Allowed .any l := ⟨trivial, bound⟩
  have here : ((apply l (.processes space n)).space space).Knows n := by
    rcases once.open_ space n rfl with known | fresh
    · exact allowed.knows once.ok known
    · have heard : (apply l (.processes space n)).space space = (l.space space).hear n :=
        l.space_modify_self space (·.hear n)
      exact heard ▸ knows_hear (once.ok space) bound fresh
  have history : (apply l (.processes space n)).history = l.history ++ [.processed space n] := rfl
  refine ⟨allowed.ok once.ok, fun other m mem => Or.inl ?_, fun other m => ?_, nofun⟩
  · rw [history, List.mem_append] at mem
    have before : Event.applied other m ∈ l.history := mem.resolve_right (by simp)
    rcases once.known other m before with known | working
    · exact allowed.knows once.ok known
    · obtain ⟨rfl, rfl⟩ := Prod.mk.inj (Option.some.inj working)
      exact here
  · rw [history, List.count_append]
    exact once.single other m

def LedgerRule.applying (space : PacketNumberSpace) (n : Nat) : LedgerRule :=
  { LedgerRule.any with applies := False, hears := fun other m => other = space → m = n }

def LedgerRule.quiet : LedgerRule := { LedgerRule.any with applies := False }

/-- A call that succeeds leaves every applied number known. -/
def Settles {α : Type} (m : ConnM α) : Prop :=
  ∀ c : Connection, Once none c.ledger → wp m (fun _ t => Once none t.ledger) (fun _ _ => True) c

variable {α β : Type} {m : ConnM α}

theorem Settles.of_evolves (h : Steps (Evolves .quiet) m) : Settles m := fun c once =>
  wp_mono (h c) (fun _ _ k => once.steps id nofun k.ledger) fun _ _ _ => trivial

theorem Settles.bind {f : α → ConnM β} (first : Settles m) (next : ∀ a, Settles (f a)) : Settles (m >>= f) := by
  intro c once
  rw [wp_bind]
  exact wp_mono (first c once) (fun a t settled => next a t settled) fun _ _ _ => trivial

theorem Settles.get
    (next : ∀ c, Once none c.ledger → wp (f c) (fun _ t => Once none t.ledger) (fun _ _ => True) c) :
    Settles (MonadState.get >>= f) := next

theorem Settles.read (next : ∀ c, Settles (f c)) : Settles (MonadState.get >>= f) := fun c once => next c c once

theorem Settles.ite (p : Prop) [Decidable p] {m n : ConnM α} (yes : Settles m) (no : Settles n) :
    Settles (if p then m else n) := by
  by_cases h : p
  · simpa [h] using yes
  · simpa [h] using no

theorem Settles.pure (a : α) : Settles (Pure.pure a : ConnM α) := .of_evolves (.pure a)

theorem Settles.failIf (p : Prop) [Decidable p] (e : Error) : Settles (failIf p e : ConnM Unit) :=
  .of_evolves (.failIf p e)

theorem Settles.forM {f : α → ConnM PUnit} (each : ∀ a, Settles (f a)) (xs : List α) : Settles (xs.forM f) := by
  induction xs with
  | nil => exact .pure PUnit.unit
  | cons x xs ih => exact .bind (each x) fun _ => ih

variable (space : PacketNumberSpace) (now : Int) (len : Nat) {f : Connection → ConnM α}

theorem prepareInboundDatagramProcessing_settles : Settles (prepareInboundDatagramProcessing now) :=
  .of_evolves fun c => wp_mono (prepareInboundDatagramProcessing_serves (u := .any) trivial c)
    (fun _ _ h => h.1.evolves) fun _ _ h => h.evolves

theorem validateReceivedUdpDatagramSize_settles :
    Settles (validateReceivedUdpDatagramSize len) := .of_evolves (.read fun _ => .failIf _ _)

/-- A packet with a new number: its frames, its record, and what is noted last. -/
theorem applied_settles {c : Connection} (once : Once none c.ledger)
    (kept : ¬ (c.packetNumberSpace space).discarded = true)
    (fresh : (c.packetNumberSpace space).receivedPacketRanges.canRecord n = true) {process : ConnM Unit}
    (processes : Steps (Evolves (.applying space n)) process) {last : Connection → Connection}
    (same : ∀ t, (last t).ledger = t.ledger) : wp (do
      modify fun c => c.note (.applied space n)
      process
      let _ ← recordReceivedPacketNumber space n
      modify fun c => c.note (.processed space n)
      modify last) (fun _ t => Once none t.ledger) (fun _ _ => True) c := by
  rw [wp_bind, wp_modify, wp_bind]
  have begun : Once (some (space, n)) (c.note (.applied space n)).ledger :=
    once.begin (Bool.not_eq_true _ ▸ kept) fresh
  refine wp_mono (processes _) (fun _ t h => ?_) fun _ _ _ => trivial
  have working : Once (some (space, n)) t.ledger := by
    refine begun.steps id (fun other m at_ k heard => ?_) h.ledger
    obtain ⟨rfl, rfl⟩ := Prod.mk.inj (Option.some.inj at_)
    exact heard rfl
  simp only [recordReceivedPacketNumber, wp_bind, wp_failIf, wp_get, wp_ite, wp_modify, wp_pure, same]
  refine ⟨fun _ => trivial, fun bound => ?_⟩
  have settled := working.settle (Nat.le_of_not_lt bound)
  refine ⟨fun _ => ?_, fun refused => ?_⟩
  · rw [ledger_note, ledger_modifySpace_at t space (g := (·.hear n)) rfl]
    exact settled
  · rw [ledger_note]
    have still : (t.ledger.space space).hear n = t.ledger.space space := by
      have unchanged := record_refused (Bool.not_eq_true _ ▸ refused)
      exact congrArg (fun received => { t.ledger.space space with received }) unchanged
    have quiet : t.ledger.modify space (·.hear n) = t.ledger :=
      (modify_congr (g := id) still).trans (modify_id _ space)
    simp only [apply, quiet] at settled
    exact settled

theorem processNumbered_evolves (n : Nat) (packetType : FramePacketType) (now : Int) (payload : ReceivedPayload)
    (close : Bool) : Steps (Evolves (.applying space n))
      (processDatagramInSpaceWithPacketTypeMaybeClose space packetType now payload close (some n)) :=
  (processDatagramInSpaceWithPacketTypeMaybeClose_serves (u := .any) ⟨trivial, trivial⟩
    ⟨fun _ _ => trivial, trivial, fun _ _ => trivial⟩
    (fun _ which _ => (Option.some.inj (which.resolve_left nofun)).symm) packetType close).mono fun _ _ => Serves.evolves

theorem processDecodedProtectedShortDatagram_settles {c : Connection} (once : Once none c.ledger)
    (kept : ¬ c.applicationPacketSpace.discarded = true) (now : Int) (opened : OpenedPacket) (close : Bool) :
    wp (processDecodedProtectedShortDatagram now opened close) (fun _ t => Once none t.ledger)
      (fun _ _ => True) c := by
  rw [processDecodedProtectedShortDatagram, wp_bind, wp_get, wp_ite]
  refine ⟨fun _ => once, fun fresh => ?_⟩
  rw [Bool.not_eq_true', Bool.not_eq_false] at fresh
  refine applied_settles .application once kept fresh (processNumbered_evolves _ _ _ now _ close) ?_
  intro t
  split <;> rfl

theorem processProtectedShortDatagramWithFrameErrorPolicy_settles (opened : OpenedPacket) (close : Bool) :
    Settles (processProtectedShortDatagramWithFrameErrorPolicy now len opened close) := by
  refine .bind (prepareInboundDatagramProcessing_settles now) fun _ => .ite _
    (.bind (validateReceivedUdpDatagramSize_settles len) fun _ => .get fun c once => ?_) (.pure _)
  simp only [wp_bind, wp_failIf]
  exact ⟨fun _ => trivial, fun kept => ⟨fun _ => trivial, fun _ =>
    processDecodedProtectedShortDatagram_settles once kept now opened close⟩⟩

theorem processProtectedLongDatagramWithRoute_settles (close : Bool) (opened : OpenedLongPacket) :
    Settles (processProtectedLongDatagramWithRoute now len close opened) := by
  refine .get fun c once => ?_
  simp only [wp_failIf_bind, wp_ite, wp_pure]
  refine ⟨fun _ => trivial, fun kept => ⟨fun _ => trivial, fun _ => ⟨fun _ => trivial, fun _ =>
    ⟨fun _ => trivial, fun _ => ⟨fun _ => once, fun fresh => ⟨fun _ => trivial, fun _ => ?_⟩⟩⟩⟩⟩⟩
  rw [Bool.not_eq_true', Bool.not_eq_false] at fresh
  refine applied_settles opened.space once kept fresh (processNumbered_evolves _ _ _ now _ close) ?_
  intro t
  unfold Connection.recordPeerInitialIds
  split <;> rfl

theorem processProtectedLongDatagramWithFrameErrorPolicy_settles (packets : List OpenedLongPacket) (close : Bool) :
    Settles (processProtectedLongDatagramWithFrameErrorPolicy now len packets close) :=
  .bind (.failIf _ _) fun _ => .bind (prepareInboundDatagramProcessing_settles now) fun _ => .ite _
    (.bind (validateReceivedUdpDatagramSize_settles len) fun _ => .read fun _ =>
      .bind (.failIf _ _) fun _ =>
        .forM (processProtectedLongDatagramWithRoute_settles now len close) _) (.pure _)

variable (opened : OpenedLongPacket)

theorem processProtectedLongDatagramInSpaceWithFrameErrorPolicy_settles
    (close : Bool) : Settles (processProtectedLongDatagramInSpaceWithFrameErrorPolicy space now len opened close) :=
  .bind (prepareInboundDatagramProcessing_settles now) fun _ => .ite _
    (.bind (validateReceivedUdpDatagramSize_settles len) fun _ => .bind (.failIf _ _) fun _ =>
      .bind (.failIf _ _) fun _ => processProtectedLongDatagramWithRoute_settles now len close opened)
    (.pure _)

theorem processProtectedZeroRttDatagramWithFrameErrorPolicy_settles (close : Bool) :
    Settles (processProtectedZeroRttDatagramWithFrameErrorPolicy now len opened close) :=
  .bind (prepareInboundDatagramProcessing_settles now) fun _ => .ite _
    (.read fun _ => .bind (.failIf _ _) fun _ => .bind (validateReceivedUdpDatagramSize_settles len) fun _ =>
      .bind (.failIf _ _) fun _ => processProtectedLongDatagramWithRoute_settles now len close opened)
    (.pure _)

theorem processProtectedShortDatagramWithKeyPhaseState_settles (state : Aes128KeyPhaseState) (installed : Bool)
    (datagram : ShortDatagram) (close : Bool) :
    Settles (processProtectedShortDatagramWithKeyPhaseStateAndFrameErrorPolicy now state installed datagram
      close) := by
  refine .bind (prepareInboundDatagramProcessing_settles now) fun _ => .ite _
    (.bind (validateReceivedUdpDatagramSize_settles datagram.len) fun _ => .get fun c once => ?_) (.pure _)
  rw [wp_failIf_bind]
  refine ⟨fun _ => trivial, fun kept => ?_⟩
  split
  · rw [wp_bind]
    exact wp_mono (Q := fun _ _ => True) (E := fun _ _ => True) (by unfold wp; split <;> trivial)
      (fun _ _ _ => trivial) fun _ _ _ => trivial
  · trivial
  · rename_i keys turned _
    -- the opening changes no number, and neither do the keys that follow
    have rest : ∀ u : Connection, Once none u.ledger → ¬ u.applicationPacketSpace.discarded = true → wp (do
          processDecodedProtectedShortDatagram now datagram.opened close
          if turned then updateAfterReceiving state now datagram.packet.keyPhase else pure state)
          (fun _ t => Once none t.ledger) (fun _ _ => True) u := by
      intro u settled stays
      rw [wp_bind]
      refine wp_mono (processDecodedProtectedShortDatagram_settles settled stays now datagram.opened close)
        (fun _ v done => ?_) fun _ _ _ => trivial
      refine wp_mono (Q := fun _ t => Evolves .quiet v t) (E := fun _ t => Evolves .quiet v t) ?_
        (fun _ _ moved => done.steps id nofun moved.ledger) fun _ _ _ => trivial
      rw [wp_ite]
      exact ⟨fun _ => wp_mono (updateAfterReceiving_serves (u := .any) v state now
        datagram.packet.keyPhase) (fun _ _ k => k.1.evolves) fun _ _ k => k.evolves, fun _ => .refl v⟩
    rw [wp_ite]
    refine ⟨fun _ => ?_, fun _ => rest c once kept⟩
    rw [wp_bind, wp_modify]
    have noted : LedgerSteps .quiet c.ledger (c.note (.opened keys)).ledger :=
      .of_eq (.opens keys) ⟨trivial, Or.inl trivial⟩ rfl
    exact rest _ (once.steps id nofun noted) kept

theorem processProtectedShortDatagramWithInstalledKeys_settles (datagram : ShortDatagram) (close : Bool) :
    Settles (processProtectedShortDatagramWithInstalledKeysAndFrameErrorPolicy now datagram close) := by
  refine .read fun c => .bind (.of_evolves (.orThrow _ _)) fun state =>
    .bind (processProtectedShortDatagramWithKeyPhaseState_settles now state true datagram close) fun after =>
    .of_evolves (.modify fun t => ?_)
  exact Sends.evolves (.of_entry (.rewrites after) trivial rfl rfl)

namespace Call

def succeeds (call : Call) (c : Connection) : Bool :=
  match perform call c with
  | .ok _ _ => true
  | .error _ _ => false

variable {c : Connection}

theorem settles_quietly {α : Type} {m : ConnM α} (h : Settles m) : Settles (quietly m) :=
  .bind h fun _ => .pure _

theorem settles {call : Call} (opens : call.opensPackets = true) : Settles (perform call) := by
  cases call with try refine settles_quietly ?_
  | processProtectedLongDatagram now len packets close =>
    exact processProtectedLongDatagramWithFrameErrorPolicy_settles now len packets close
  | processProtectedLongDatagramInSpace space now len opened close =>
    exact processProtectedLongDatagramInSpaceWithFrameErrorPolicy_settles space now len opened close
  | processProtectedHandshakeDatagramWithInstalledKeys now len opened close =>
    have process := processProtectedLongDatagramInSpaceWithFrameErrorPolicy_settles .handshake now len opened
    exact .ite _ (.read fun _ => .bind (.failIf _ _) fun _ => process true)
      (.read fun _ => .bind (.failIf _ _) fun _ => process false)
  | processProtectedZeroRttDatagram now len opened close =>
    exact processProtectedZeroRttDatagramWithFrameErrorPolicy_settles now len opened close
  | processProtectedZeroRttDatagramWithInstalledKeys now len opened close =>
    have process := processProtectedZeroRttDatagramWithFrameErrorPolicy_settles now len opened
    exact .ite _ (.read fun _ => .bind (.failIf _ _) fun _ => process true)
      (.read fun _ => .bind (.failIf _ _) fun _ => process false)
  | processProtectedShortDatagram now len opened close =>
    exact processProtectedShortDatagramWithFrameErrorPolicy_settles now len opened close
  | processProtectedShortDatagramWithKeyPhaseState now state datagram close =>
    exact processProtectedShortDatagramWithKeyPhaseState_settles now state false datagram close
  | processProtectedShortDatagramWithInstalledKeys now datagram close =>
    exact processProtectedShortDatagramWithInstalledKeys_settles now datagram close
  | _ => exact absurd opens Bool.false_ne_true

/-- Between calls every applied number is known, as long as no call on packets fails. -/
theorem once_next {call : Call} (succeed : call.opensPackets = true → call.succeeds c = true)
    (once : Once none c.ledger) : Once none (call.next c).ledger := by
  by_cases opens : call.opensPackets = true
  · have settled := settles opens c once
    have returned := succeed opens
    simp only [Call.succeeds] at returned
    simp only [Call.next, after]
    simp only [wp] at settled
    cases result : perform call c with
    | ok datagram t => simpa only [result] using settled
    | error e t => simp [result] at returned
  · have meets : call.Meets .quiet c :=
      { Call.meets_any c call with applied := Or.inr (Bool.not_eq_true _ ▸ opens) }
    exact once.steps id (by simp) (Call.evolves trivial (fun _ _ => trivial) meets).ledger

end Call

theorem fresh_once (side : ConnectionSide) (config : Config) : Once none (Connection.fresh side config).ledger := by
  refine ⟨fun space => ?_, nofun, fun _ _ => Nat.zero_le _, nofun⟩
  cases space <;> exact ok_empty

/-- In a run in which no call on protected packets fails, a packet's frames are applied at most
once, and from then on its number is refused. A table refuses a number for good once it has
recorded it, also when the range is long evicted. -/
theorem packets_applied_at_most_once {side : ConnectionSide} {config : Config} {start : Connection}
    {calls : List Call} (made : Connection.init side config = .ok start)
    (succeed : Throughout (fun c call => call.opensPackets = true → call.succeeds c = true) start calls) :
    (∀ space n, (run start calls).history.count (.applied space n) ≤ 1 ∧
      (.applied space n ∈ (run start calls).history → ((run start calls).packetNumberSpace space).discarded = true ∨
        ((run start calls).packetNumberSpace space).receivedPacketRanges.canRecord n = false)) ∧
    ∀ (earlier later : List Nat) (n : Nat), (∀ m ∈ n :: (earlier ++ later), m ≤ maxU64) →
      ((ReceivedPacketRanges.recordAll {} earlier).record n).2 = true →
      (((ReceivedPacketRanges.recordAll {} earlier).record n).1.recordAll later).canRecord n = false := by
  obtain ⟨-, rfl⟩ := Connection.init_ok made
  have once : Once none (run (.fresh side config) calls).ledger :=
    run_preserves (P := fun c => Once none c.ledger) (fun _ _ succeed => Call.once_next succeed) succeed
      (fresh_once side config)
  refine ⟨fun space n => ⟨once.single space n, fun applied => ?_⟩, fun earlier later n bounded recorded => ?_⟩
  · exact ((once.known space n applied).resolve_right nofun).blocks (once.ok space)
  · obtain ⟨bound, rest⟩ := List.forall_mem_cons.mp bounded
    obtain ⟨before, after⟩ := List.forall_mem_append.mp rest
    have ok := (recordAll_keeps ok_empty before).1
    have fresh : (recordAll {} earlier).canRecord n = true := by
      by_contra refused
      rw [record, if_neg refused] at recorded
      exact Bool.false_ne_true recorded
    have records := (record_records ok bound fresh).1
    obtain ⟨ok', keeps⟩ := recordAll_keeps records.ok after
    exact ok'.refuses (keeps n (Or.inl records.added))

def pingPacket : Call :=
  .processProtectedShortDatagram 0 30
    { packetNumber := 5, plaintext := { wire := [⟨1, .ping⟩], len := 1 } } false

theorem packets_applied_at_most_once_ping : (run (.fresh .client {}) [pingPacket, pingPacket]).history =
      [.applied .application 5, .processed .application 5] ∧
    (run (.fresh .client {}) [pingPacket, pingPacket]).history.count (.applied .application 5) ≤ 1 := by
  refine ⟨rfl, ((packets_applied_at_most_once (Connection.init_default _) ?_).1 .application 5).1⟩
  exact ⟨fun _ => rfl, fun _ => rfl, trivial⟩

end Quicz
