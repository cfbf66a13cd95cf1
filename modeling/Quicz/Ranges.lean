import Quicz.PacketSpace

/-! The table of received packet numbers. Its ranges lie apart, newest first, above everything it
has forgotten, and a number that was recorded is never accepted again: it stays in a range, or
is forgotten together with all numbers below it. -/
namespace Quicz

open List ReceivedPacketRanges

namespace ReceivedPacketRanges

def Retains (r : ReceivedPacketRanges) (packetNumber : Nat) : Prop :=
  ∃ range ∈ r.ranges, range.smallest ≤ packetNumber ∧ packetNumber ≤ range.largest

/-- The number is retained, or at most the largest one that was forgotten. -/
def Remembers (r : ReceivedPacketRanges) (packetNumber : Nat) : Prop :=
  r.Retains packetNumber ∨ ∃ forgotten, r.forgottenThrough = some forgotten ∧ packetNumber ≤ forgotten

structure Ok (r : ReceivedPacketRanges) : Prop where
  ordered : ∀ range ∈ r.ranges, range.smallest ≤ range.largest
  bounded : ∀ range ∈ r.ranges, range.largest ≤ maxU64
  apart : r.ranges.Pairwise fun above below => below.largest + 1 < above.smallest
  few : r.ranges.length ≤ maxRanges
  recent : ∀ forgotten, r.forgottenThrough = some forgotten → ∀ range ∈ r.ranges, forgotten < range.smallest

theorem ok_empty : Ok {} :=
  ⟨nofun, nofun, List.Pairwise.nil, Nat.zero_le _, nofun⟩

structure Records (r r' : ReceivedPacketRanges) (packetNumber : Nat) : Prop where
  ok : r'.Ok
  added : r'.Retains packetNumber
  only : ∀ n, r'.Retains n → r.Retains n ∨ n = packetNumber
  keeps : ∀ n, r.Remembers n → r'.Remembers n

variable {r : ReceivedPacketRanges} {packetNumber : Nat}

theorem isImmediatelyBefore_iff {previous next : Nat} (bound : next ≤ maxU64) :
    isImmediatelyBefore previous next = true ↔ previous + 1 = next := by
  simp only [isImmediatelyBefore, Bool.and_eq_true, bne_iff_ne, ne_eq, beq_iff_eq]
  omega

/-- A run of ranges is replaced by one that holds their numbers and the new one. -/
theorem Ok.splice {before covered after : List ReceivedPacketRange} {forgotten : Option Nat}
    {new : ReceivedPacketRange} (ok : Ok ⟨before ++ covered ++ after, forgotten⟩)
    (exact : ∀ n, new.smallest ≤ n ∧ n ≤ new.largest ↔
      n = packetNumber ∨ ∃ range ∈ covered, range.smallest ≤ n ∧ n ≤ range.largest)
    (upper : ∀ range ∈ before, packetNumber + 1 < range.smallest)
    (under : ∀ range ∈ after, range.largest + 1 < packetNumber)
    (bound : packetNumber ≤ maxU64) (newest : ∀ n, forgotten = some n → n < packetNumber)
    (few : (before ++ new :: after).length ≤ maxRanges) :
    Records ⟨before ++ covered ++ after, forgotten⟩ ⟨before ++ new :: after, forgotten⟩ packetNumber := by
  obtain ⟨ordered, bounded, apart, -, recent⟩ := ok
  simp only [forall_mem_append] at ordered bounded recent
  obtain ⟨apartFront, apartAfter, frontAfter⟩ := pairwise_append.mp apart
  obtain ⟨apartBefore, apartCovered, beforeCovered⟩ := pairwise_append.mp apartFront
  have here := (exact packetNumber).mpr (Or.inl rfl)
  -- the ends of the new range are the new number or lie in a covered range
  have top : new.largest = packetNumber ∨ ∃ range ∈ covered, new.largest ≤ range.largest :=
    ((exact new.largest).mp ⟨here.1.trans here.2, le_rfl⟩).imp_right fun ⟨range, mem, inside⟩ =>
      ⟨range, mem, inside.2⟩
  have bottom : new.smallest = packetNumber ∨ ∃ range ∈ covered, range.smallest ≤ new.smallest :=
    ((exact new.smallest).mp ⟨le_rfl, here.1.trans here.2⟩).imp_right fun ⟨range, mem, inside⟩ =>
      ⟨range, mem, inside.1⟩
  have with_new : ∀ {p : ReceivedPacketRange → Prop}, (∀ range ∈ before, p range) → p new →
      (∀ range ∈ after, p range) → ∀ range ∈ before ++ new :: after, p range := fun first middle last =>
    forall_mem_append.mpr ⟨first, forall_mem_cons.mpr ⟨middle, last⟩⟩
  have retains : ∀ n, Retains ⟨before ++ new :: after, forgotten⟩ n ↔
      Retains ⟨before ++ covered ++ after, forgotten⟩ n ∨ n = packetNumber := by
    intro n
    simp only [Retains, mem_append, mem_cons, or_and_right, exists_or, exists_eq_left, exact, or_assoc]
    rw [or_comm (b := n = packetNumber)]
    simp only [or_left_comm (b := n = packetNumber)]
  refine ⟨⟨with_new ordered.1.1 (here.1.trans here.2) ordered.2, with_new bounded.1.1 ?_ bounded.2, ?_, few, ?_⟩,
    (retains _).mpr (Or.inr rfl), fun n => (retains n).mp, fun n => Or.imp_left fun old => (retains n).mpr (Or.inl old)⟩
  · rcases top with same | ⟨range, mem, below⟩
    · exact same ▸ bound
    · exact below.trans (bounded.1.2 range mem)
  · refine pairwise_append.mpr ⟨apartBefore, pairwise_cons.mpr ⟨fun range mem => ?_, apartAfter⟩,
      fun above front => forall_mem_cons.mpr ⟨?_, frontAfter above (mem_append_left _ front)⟩⟩
    · rcases bottom with same | ⟨other, inside, below⟩
      · exact same ▸ under range mem
      · exact Nat.lt_of_lt_of_le (frontAfter other (mem_append_right _ inside) range mem) below
    · rcases top with same | ⟨other, inside, below⟩
      · exact same ▸ upper above front
      · exact Nat.lt_of_le_of_lt (Nat.add_le_add_right below 1) (beforeCovered above front other inside)
  · intro n forgot
    obtain ⟨⟨first, middle⟩, last⟩ := recent n forgot
    refine with_new first ?_ last
    rcases bottom with same | ⟨range, mem, below⟩
    · exact same ▸ newest n forgot
    · exact Nat.lt_of_lt_of_le (middle range mem) below

def evict (r : ReceivedPacketRanges) (last : ReceivedPacketRange) : ReceivedPacketRanges where
  ranges := r.ranges.dropLast
  forgottenThrough := some ((r.forgottenThrough.map (max · last.largest)).getD last.largest)

variable {front : List ReceivedPacketRange}

theorem Ok.evict (ok : r.Ok) {last : ReceivedPacketRange} (split : r.ranges = front ++ [last]) :
    (r.evict last).Ok ∧ (∀ n, (r.evict last).Retains n → r.Retains n) ∧
      ∀ n, r.Remembers n → (r.evict last).Remembers n := by
  obtain ⟨ranges, forgotten⟩ := r
  obtain rfl : ranges = front ++ [last] := split
  obtain ⟨ordered, bounded, apart, few, recent⟩ := ok
  simp only [forall_mem_append, forall_mem_singleton] at ordered bounded recent
  obtain ⟨apartFront, -, above⟩ := pairwise_append.mp apart
  have table : evict ⟨front ++ [last], forgotten⟩ last =
      ⟨front, some ((forgotten.map (max · last.largest)).getD last.largest)⟩ := by
    rw [evict, dropLast_concat]
  rw [table]
  have forgets : ∀ n, n ≤ last.largest ∨ (∃ m, forgotten = some m ∧ n ≤ m) →
      n ≤ (forgotten.map (max · last.largest)).getD last.largest := by
    cases forgotten <;> simp [or_comm]
  refine ⟨⟨ordered.1, bounded.1, apartFront, ?_, ?_⟩, ?_, ?_⟩
  · rw [length_append] at few
    exact (Nat.le_add_right _ _).trans few
  · rintro _ ⟨⟩ range mem
    have past : last.largest < range.smallest := Nat.lt_of_succ_lt (above range mem last mem_cons_self)
    cases forgotten with
    | none => exact past
    | some m => exact Nat.max_lt.mpr ⟨(recent m rfl).1 range mem, past⟩
  · rintro n ⟨range, mem, within⟩
    exact ⟨range, mem_append_left _ mem, within⟩
  · rintro n (⟨range, mem, within⟩ | old)
    · rcases mem_append.mp mem with early | final
      · exact Or.inl ⟨range, early, within⟩
      · obtain rfl := mem_singleton.mp final
        exact Or.inr ⟨_, rfl, forgets n (Or.inl within.2)⟩
    · exact Or.inr ⟨_, rfl, forgets n (Or.inr old)⟩

theorem insertIdx_append {α : Type} (front back : List α) (x : α) :
    (front ++ back).insertIdx front.length x = front ++ x :: back := by
  induction front with
  | nil => rfl
  | cons y front ih => simp [insertIdx_succ_cons, ih]

theorem insertRange_room {index : Nat} {range : ReceivedPacketRange} (room : r.ranges.length ≠ maxRanges) :
    r.insertRange index range = (⟨r.ranges.insertIdx index range, r.forgottenThrough⟩, true) := by
  rw [insertRange, if_neg fun both => room both.1, if_neg room]

theorem insertRange_full {index : Nat} {range last : ReceivedPacketRange} (full : r.ranges.length = maxRanges)
    (whole : r.ranges = front ++ [last]) (inner : index ≠ r.ranges.length) :
    r.insertRange index range = (⟨front.insertIdx index range, (r.evict last).forgottenThrough⟩, true) := by
  rw [insertRange, if_neg fun both => inner both.2, if_pos full]
  obtain ⟨ranges, forgotten⟩ := r
  simp only at whole
  subst whole
  cases forgotten <;> simp [evict]

/-- A number that touches no range takes a place of its own, unless it is the lowest and the table is full. -/
theorem Ok.insert (ok : r.Ok) {before after : List ReceivedPacketRange} (split : r.ranges = before ++ after)
    (upper : ∀ range ∈ before, packetNumber + 1 < range.smallest)
    (lower : ∀ range ∈ after, range.largest + 1 < packetNumber) (bound : packetNumber ≤ maxU64)
    (newest : ∀ n, r.forgottenThrough = some n → n < packetNumber)
    (room : after = [] → r.ranges.length ≠ maxRanges) :
    Records r (r.insertRange before.length ⟨packetNumber, packetNumber⟩).1 packetNumber ∧
      (r.insertRange before.length ⟨packetNumber, packetNumber⟩).2 = true := by
  let new : ReceivedPacketRange := ⟨packetNumber, packetNumber⟩
  have itself : ∀ n, new.smallest ≤ n ∧ n ≤ new.largest ↔
      n = packetNumber ∨ ∃ range ∈ ([] : List ReceivedPacketRange), range.smallest ≤ n ∧ n ≤ range.largest :=
    fun n => by simp [new]; omega
  by_cases full : r.ranges.length = maxRanges
  · -- the oldest range goes first
    obtain ⟨front, last, rfl⟩ : ∃ front last, after = front ++ [last] :=
      (eq_nil_or_concat' after).resolve_left fun none => room none full
    have whole : r.ranges = (before ++ front) ++ [last] := by rw [split, append_assoc]
    obtain ⟨evicted, fewer, remembers⟩ := ok.evict whole
    have table : r.evict last = ⟨before ++ [] ++ front, (r.evict last).forgottenThrough⟩ := by
      rw [ReceivedPacketRanges.evict, whole, dropLast_concat, append_nil]
    have lengths : before.length + (front.length + 1) = maxRanges := by simpa [split] using full
    have inner : before.length ≠ r.ranges.length := by omega
    obtain ⟨lower, past⟩ := forall_mem_append.mp lower
    rw [insertRange_full full whole inner, insertIdx_append]
    have newest' : ∀ n, (r.evict last).forgottenThrough = some n → n < packetNumber := by
      rintro _ ⟨⟩
      have past := Nat.lt_of_succ_lt (past last mem_cons_self)
      cases previous : r.forgottenThrough with
      | none => exact past
      | some m => exact Nat.max_lt.mpr ⟨newest m previous, past⟩
    have spliced := Ok.splice (table ▸ evicted) itself upper lower bound newest' (by simp; omega)
    rw [← table] at spliced
    exact ⟨⟨spliced.ok, spliced.added, fun n retained => (spliced.only n retained).imp_left (fewer n),
      fun n old => spliced.keeps n (remembers n old)⟩, rfl⟩
  · have same : r = ⟨before ++ [] ++ after, r.forgottenThrough⟩ := by
      rw [append_nil, ← split]
    have lengths : before.length + after.length ≤ maxRanges ∧ before.length + after.length ≠ maxRanges := by
      simpa [split] using And.intro ok.few full
    have spliced := Ok.splice (same ▸ ok) itself upper lower bound newest (by simp; omega)
    rw [← same] at spliced
    rw [insertRange_room full, split, insertIdx_append]
    exact ⟨spliced, rfl⟩

theorem recordIn_records (ok : r.Ok) (bound : packetNumber ≤ maxU64)
    (newest : ∀ n, r.forgottenThrough = some n → n < packetNumber) :
    ∀ (rest before : List ReceivedPacketRange), r.ranges = before.reverse ++ rest →
      (∀ range ∈ before, packetNumber + 1 < range.smallest) →
      (canRecordIn packetNumber rest).getD (decide (r.ranges.length < maxRanges)) = true →
      Records r (r.recordIn packetNumber before rest).1 packetNumber ∧
        (r.recordIn packetNumber before rest).2 = true := by
  intro rest
  induction rest with
  | nil =>
    intro before split upper accepts
    have inserted := ok.insert split (fun range mem => upper range (mem_reverse.mp mem)) nofun bound newest
      fun _ => (of_decide_eq_true accepts).ne
    rwa [length_reverse] at inserted
  | cons range rest ih =>
    intro before split upper accepts
    have rangeMem : range ∈ r.ranges := split ▸ mem_append_right _ mem_cons_self
    have sized := ok.ordered range rangeMem
    have capped := ok.bounded range rangeMem
    have lower : ∀ below ∈ rest, below.largest + 1 < range.smallest :=
      (pairwise_cons.mp (pairwise_append.mp (split ▸ ok.apart)).2.1).1
    have higher : ∀ above ∈ before.reverse, packetNumber + 1 < above.smallest :=
      fun above mem => upper above (mem_reverse.mp mem)
    -- one range takes the place of those it covers, at most as many as before
    have replaces : ∀ (covered after : List ReceivedPacketRange) (new : ReceivedPacketRange),
        range :: rest = covered ++ after → covered ≠ [] →
        (∀ n, new.smallest ≤ n ∧ n ≤ new.largest ↔
          n = packetNumber ∨ ∃ range ∈ covered, range.smallest ≤ n ∧ n ≤ range.largest) →
        (∀ below ∈ after, below.largest + 1 < packetNumber) →
        Records r ⟨before.reverse ++ new :: after, r.forgottenThrough⟩ packetNumber := by
      intro covered after new tail some exact under
      have same : r = ⟨before.reverse ++ covered ++ after, r.forgottenThrough⟩ := by
        rw [append_assoc, ← tail, ← split]
      have few : (before.reverse ++ new :: after).length ≤ maxRanges := by
        have all := ok.few
        have nonempty := length_pos_iff.mpr some
        rw [split, tail] at all
        simp only [length_append, length_cons] at all ⊢
        omega
      have spliced := Ok.splice (same ▸ ok) exact higher under bound newest few
      rwa [← same] at spliced
    unfold recordIn
    by_cases past : packetNumber > range.largest
    · rw [if_pos past]
      by_cases touches : isImmediatelyBefore range.largest packetNumber = true
      · rw [if_pos touches]
        rw [isImmediatelyBefore_iff bound] at touches
        have grows := replaces [range] rest { range with largest := packetNumber } rfl
          (cons_ne_nil _ _) (fun n => by simp; omega)
          (fun below mem => by have := lower below mem; omega)
        cases before with
        | nil => exact ⟨grows, rfl⟩
        | cons above earlier =>
          -- the number would have been put below that range already
          have clear : ¬ isImmediatelyBefore packetNumber above.smallest = true := by
            simp only [isImmediatelyBefore, Bool.and_eq_true, beq_iff_eq]
            have := upper above mem_cons_self
            omega
          simp only [if_neg clear]
          exact ⟨grows, trivial⟩
      · rw [if_neg touches]
        rw [isImmediatelyBefore_iff bound] at touches
        have under : ∀ below ∈ range :: rest, below.largest + 1 < packetNumber :=
          forall_mem_cons.mpr ⟨by omega, fun below mem => by have := lower below mem; omega⟩
        have inserted := ok.insert split higher under bound newest nofun
        rwa [length_reverse] at inserted
    · rw [if_neg past]
      by_cases inside : packetNumber ≥ range.smallest
      · rw [canRecordIn, if_neg past, if_pos inside] at accepts
        exact absurd accepts Bool.false_ne_true
      · rw [if_neg inside]
        by_cases touches : isImmediatelyBefore packetNumber range.smallest = true
        · rw [if_pos touches]
          rw [isImmediatelyBefore_iff (sized.trans capped)] at touches
          have grows (apart : ∀ below ∈ rest, below.largest + 1 < packetNumber) :=
            replaces [range] rest { range with smallest := packetNumber } rfl
              (cons_ne_nil _ _) (fun n => by simp; omega) apart
          cases rest with
          | nil => exact ⟨grows fun _ none => absurd none not_mem_nil, rfl⟩
          | cons below later =>
            have belowMem : below ∈ r.ranges :=
              split ▸ mem_append_right _ (mem_cons_of_mem _ mem_cons_self)
            have belowSized := ok.ordered below belowMem
            have past := lower below mem_cons_self
            have deeper : ∀ deep ∈ later, deep.largest + 1 < below.smallest :=
              (pairwise_cons.mp (pairwise_cons.mp (pairwise_append.mp (split ▸ ok.apart)).2.1).2).1
            by_cases joins : isImmediatelyBefore below.largest packetNumber = true
            · simp only [if_pos joins]
              rw [isImmediatelyBefore_iff bound] at joins
              refine ⟨replaces [range, below] later { range with smallest := below.smallest } rfl
                (cons_ne_nil _ _) (fun n => by simp; omega) (fun deep mem => ?_), trivial⟩
              have := deeper deep mem
              omega
            · simp only [if_neg joins]
              rw [isImmediatelyBefore_iff bound] at joins
              refine ⟨grows fun deep mem => ?_, trivial⟩
              rcases mem_cons.mp mem with rfl | deep'
              · omega
              · have := deeper deep deep'
                omega
        · rw [if_neg touches]
          rw [isImmediatelyBefore_iff (sized.trans capped)] at touches
          refine ih (range :: before) (by rw [split, reverse_cons, append_assoc]; rfl)
            (forall_mem_cons.mpr ⟨by omega, upper⟩) ?_
          rwa [canRecordIn, if_neg past, if_neg inside, if_neg ?_] at accepts
          rwa [isImmediatelyBefore_iff (sized.trans capped)]

theorem record_records (ok : r.Ok) (bound : packetNumber ≤ maxU64) (fresh : r.canRecord packetNumber = true) :
    Records r (r.record packetNumber).1 packetNumber ∧ (r.record packetNumber).2 = true := by
  have newest : ∀ n, r.forgottenThrough = some n → n < packetNumber := by
    intro n forgot
    simp only [canRecord, forgot, Bool.and_eq_true, decide_eq_true_eq] at fresh
    exact fresh.1
  have accepts : (canRecordIn packetNumber r.ranges).getD (decide (r.ranges.length < maxRanges)) = true := by
    cases forgot : r.forgottenThrough with
    | none => simpa only [canRecord, forgot, canRecord.go] using fresh
    | some n =>
      simp only [canRecord, forgot, canRecord.go, Bool.and_eq_true] at fresh
      exact fresh.2
  rw [record, if_pos fresh]
  exact recordIn_records ok bound newest r.ranges [] rfl nofun accepts

theorem Ok.refuses (ok : r.Ok) (known : r.Remembers packetNumber) : r.canRecord packetNumber = false := by
  have stops : ∀ ranges : List ReceivedPacketRange,
      ranges.Pairwise (fun above below => below.largest + 1 < above.smallest) →
      (∀ range ∈ ranges, range.smallest ≤ range.largest) →
      (∃ range ∈ ranges, range.smallest ≤ packetNumber ∧ packetNumber ≤ range.largest) →
      canRecordIn packetNumber ranges = some false := by
    intro ranges apart ordered inside
    induction ranges with
    | nil =>
      obtain ⟨range, mem, -⟩ := inside
      exact absurd mem not_mem_nil
    | cons first rest ih =>
      obtain ⟨lower, apart⟩ := pairwise_cons.mp apart
      obtain ⟨range, mem, low, high⟩ := inside
      rcases mem_cons.mp mem with rfl | later
      · rw [canRecordIn, if_neg (by omega), if_pos low]
      · have past := lower range later
        have sized := ordered first mem_cons_self
        have clear : ¬ isImmediatelyBefore packetNumber first.smallest = true := by
          simp only [isImmediatelyBefore, Bool.and_eq_true, beq_iff_eq]
          omega
        rw [canRecordIn, if_neg (by omega), if_neg (by omega), if_neg clear]
        exact ih apart (fun other mem => ordered other (mem_cons_of_mem _ mem))
          ⟨range, later, low, high⟩
  rcases known with inside | ⟨forgotten, forgot, below⟩
  · have stop := stops r.ranges ok.apart ok.ordered inside
    cases forgot : r.forgottenThrough with
    | none | some n => simp [canRecord, forgot, canRecord.go, stop]
  · simp only [canRecord, forgot, Bool.and_eq_false_iff, decide_eq_false_iff_not]
    exact Or.inl (by omega)

/-- Whatever the table answers, it stays well formed and forgets no number it knew. -/
theorem record_keeps (ok : r.Ok) (bound : packetNumber ≤ maxU64) :
    (r.record packetNumber).1.Ok ∧ ∀ n, r.Remembers n → (r.record packetNumber).1.Remembers n := by
  by_cases fresh : r.canRecord packetNumber = true
  · have recorded := (record_records ok bound fresh).1
    exact ⟨recorded.ok, recorded.keeps⟩
  · rw [record, if_neg fresh]
    exact ⟨ok, fun _ known => known⟩

def recordAll (r : ReceivedPacketRanges) (numbers : List Nat) : ReceivedPacketRanges :=
  numbers.foldl (fun r n => (r.record n).1) r

theorem recordAll_keeps (ok : r.Ok) {numbers : List Nat} (bounded : ∀ n ∈ numbers, n ≤ maxU64) :
    (r.recordAll numbers).Ok ∧ ∀ n, r.Remembers n → (r.recordAll numbers).Remembers n := by
  induction numbers generalizing r with
  | nil => exact ⟨ok, fun _ known => known⟩
  | cons first rest ih =>
    obtain ⟨ok, keeps⟩ := record_keeps ok (bounded first mem_cons_self)
    obtain ⟨ok', keeps'⟩ := ih ok fun n mem => bounded n (mem_cons_of_mem _ mem)
    exact ⟨ok', fun n known => keeps' n (keeps n known)⟩

end ReceivedPacketRanges

end Quicz
