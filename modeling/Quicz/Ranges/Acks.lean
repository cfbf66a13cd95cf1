import Quicz.Ranges
import Quicz.WireLen.Exact

/-! The ACK frame of a table of received numbers. Its deltas do not underflow, it passes the
checks of both ends of the wire, and the peer's walk over it meets exactly the retained numbers. -/
namespace Quicz

open Chunks Reader List

variable {smallest : Nat} {ranges : List AckRange}

theorem ackIntervals_valid : (ackIntervals smallest ranges).2 = true ↔ ackRangesWireRange smallest ranges = .ok () := by
  induction ranges generalizing smallest with
  | nil => simp [ackIntervals, ackRangesWireRange]
  | cons range rest ih =>
    rw [ackRangesWireRange_cons, ← ih, ackIntervals]
    by_cases short : range.gap + 2 > maxU64 ∨ smallest < range.gap + 2
    · rw [if_pos short]
      refine ⟨by simp, fun valid => ?_⟩
      omega
    · rw [if_neg short]
      dsimp only
      split_ifs with long
      · refine ⟨by simp, fun valid => ?_⟩
        omega
      constructor
      · intro valid
        exact ⟨by omega, by omega, by omega, valid⟩
      · exact fun valid => valid.2.2.2

/-- Each range takes two numbers at least, so nothing in a valid list is larger than what is left. -/
theorem ackRanges_within (fit : ackRangesWireRange smallest ranges = .ok ()) :
    ranges.length ≤ smallest ∧ ∀ range ∈ ranges, range.gap ≤ smallest ∧ range.ackRange ≤ smallest := by
  induction ranges generalizing smallest with
  | nil => exact ⟨Nat.zero_le _, nofun⟩
  | cons range rest ih =>
    obtain ⟨-, short, long, fit⟩ := ackRangesWireRange_cons.mp fit
    obtain ⟨few, each⟩ := ih fit
    constructor
    · rw [length_cons]
      omega
    · refine forall_mem_cons.mpr ⟨by omega, fun other member => ?_⟩
      obtain ⟨gap, len⟩ := each other member
      omega

variable {ack : AckFrame}

theorem ackFrameRangesAreValid_iff :
    ackFrameRangesAreValid ack = true ↔ ack.firstAckRange ≤ ack.largestAcknowledged ∧
      ackRangesWireRange (ack.largestAcknowledged - ack.firstAckRange) ack.ranges = .ok () := by
  unfold ackFrameRangesAreValid
  split_ifs with long
  · exact ⟨nofun, fun both => absurd both.1 (Nat.not_le.mpr long)⟩
  · rw [ackIntervals_valid, and_iff_right (Nat.not_lt.mp long)]

theorem validateAckFrameWireRange_iff :
    validateAckFrameWireRange ack = .ok () ↔ ackFrameRangesAreValid ack = true := by
  rw [ackFrameRangesAreValid_iff, validateAckFrameWireRange]
  split_ifs with long
  · exact ⟨by simp, fun both => absurd both.1 (Nat.not_le.mpr long)⟩
  · rw [and_iff_right (Nat.not_lt.mp long)]

theorem validateAckFrame_iff : validateAckFrame ack = .ok () ↔ ackFrameRangesAreValid ack = true ∧
      ack.largestAcknowledged ≤ maxQuicVarint ∧ ack.ackDelay ≤ maxQuicVarint := by
  rw [validateAckFrame_ok, validateAckFrameWireRange_iff]
  constructor
  · exact fun ⟨valid, largest, delay, _⟩ => ⟨valid, largest, delay⟩
  · rintro ⟨valid, largest, delay⟩
    obtain ⟨first, fit⟩ := ackFrameRangesAreValid_iff.mp valid
    obtain ⟨few, each⟩ := ackRanges_within fit
    refine ⟨valid, largest, delay, by omega, by omega, fun range member => ?_⟩
    obtain ⟨gap, len⟩ := each range member
    omega

namespace ReceivedPacketRanges

variable {r : ReceivedPacketRanges} {first : ReceivedPacketRange} {rest : List ReceivedPacketRange}

def Recorded (numbers : List Nat) (n : Nat) : Prop :=
  ∃ earlier later, numbers = earlier ++ n :: later ∧ ((recordAll {} earlier).record n).2 = true

theorem recordAll_append (r : ReceivedPacketRanges) (numbers more : List Nat) :
    r.recordAll (numbers ++ more) = (r.recordAll numbers).recordAll more := foldl_append

theorem Retains.recorded {numbers : List Nat} (bounded : ∀ n ∈ numbers, n ≤ maxU64) {n : Nat}
    (retained : (recordAll {} numbers).Retains n) : Recorded numbers n := by
  induction numbers using reverseRecOn with
  | nil =>
    obtain ⟨range, mem, -⟩ := retained
    exact absurd mem not_mem_nil
  | append_singleton front last ih =>
    obtain ⟨before, now⟩ := forall_mem_append.mp bounded
    have extend : Recorded front n → Recorded (front ++ [last]) n := by
      rintro ⟨earlier, later, rfl, taken⟩
      exact ⟨earlier, later ++ [last], by simp, taken⟩
    rw [recordAll_append] at retained
    have ok := (recordAll_keeps ok_empty before).1
    by_cases fresh : (recordAll {} front).canRecord last = true
    · obtain ⟨records, taken⟩ := record_records ok (now last mem_cons_self) fresh
      rcases records.only n retained with old | rfl
      · exact extend (ih before old)
      · exact ⟨front, [], rfl, taken⟩
    · have same : (recordAll {} front).recordAll [last] = recordAll {} front := by
        change ((recordAll {} front).record last).1 = _
        rw [record, if_neg fresh]
      rw [same] at retained
      exact extend (ih before retained)

section Deltas

variable (ordered : ∀ range ∈ first :: rest, range.smallest ≤ range.largest)
  (apart : (first :: rest).Pairwise fun above below => below.largest + 1 < above.smallest)
include ordered apart

theorem ackIntervals_ackRanges (bound : first.largest ≤ maxU64) :
    ackIntervals first.smallest (ackRanges first.smallest rest) =
      (rest.map fun range => (range.smallest, range.largest), true) := by
  induction rest generalizing first with
  | nil => rfl
  | cons second rest ih =>
    obtain ⟨below, apart⟩ := pairwise_cons.mp apart
    obtain ⟨here, ordered⟩ := forall_mem_cons.mp ordered
    have gap := below second mem_cons_self
    have sized := ordered second mem_cons_self
    have skip : first.smallest - (first.smallest - second.largest - 2 + 2) = second.largest := by omega
    have back : second.largest - (second.largest - second.smallest) = second.smallest := by omega
    rw [ackRanges, ackIntervals, if_neg (by simp only [not_or]; omega)]
    simp only [skip]
    rw [if_neg (by omega), back, ih ordered apart (by omega)]
    rfl

end Deltas

theorem Ok.ackFrame (ok : r.Ok) (built : r.ackFrame = some ack) :
    (∀ n, ackFrameContains ack n = true ↔ r.Retains n) ∧
      ((∀ range ∈ r.ranges, range.largest ≤ maxQuicVarint) → validateAckFrame ack = .ok ()) := by
  obtain ⟨ranges, forgotten⟩ := r
  cases ranges with
  | nil => exact absurd built nofun
  | cons first rest =>
    obtain rfl := Option.some.inj built
    have sized := ok.ordered first mem_cons_self
    have back : first.largest - (first.largest - first.smallest) = first.smallest := by omega
    have walk := ackIntervals_ackRanges ok.ordered ok.apart (ok.bounded first mem_cons_self)
    refine ⟨fun n => ?_, fun bounded => ?_⟩
    · rw [ackFrameContains, if_neg (by simp only; omega)]
      simp only [back, walk, Retains, mem_cons, Bool.or_eq_true, Bool.and_eq_true, decide_eq_true_eq,
        any_eq_true, mem_map, exists_eq_or_imp, exists_exists_and_eq_and]
    · refine validateAckFrame_iff.mpr ⟨?_, bounded first mem_cons_self, Nat.zero_le _⟩
      rw [ackFrameRangesAreValid, if_neg (by simp only; omega)]
      simp only [back, walk]

end ReceivedPacketRanges

open ReceivedPacketRanges in
/-- For any sequence of recorded numbers the ACK frame of the table crosses the wire unchanged, is
valid, and contains exactly the recorded numbers that are still retained. The subtractions that
build it do not underflow. -/
theorem ack_frame_contains_recorded {numbers : List Nat} (wide : ∀ n ∈ numbers, n ≤ maxU64)
    {ack : AckFrame} (built : (recordAll {} numbers).ackFrame = some ack) :
    ((∀ n ∈ numbers, n ≤ maxQuicVarint) → ∃ bytes, encodeFrame (.ack ack none) = .ok bytes) ∧
    (∀ bytes, encodeFrame (.ack ack none) = .ok bytes → ∀ rest, ∃ decoded,
      decodeFrame (bytes ++ rest) = .ok (.ack decoded none, rest) ∧ validateAckFrame decoded = .ok () ∧
      ∀ n, ackFrameContains decoded n = true ↔ Recorded numbers n ∧ (recordAll {} numbers).Retains n) ∧
    (∀ n, ackFrameContains ack n = true → n ∈ numbers) ∧
    (∀ range ∈ (recordAll {} numbers).ranges, range.smallest ≤ range.largest) ∧
    (recordAll {} numbers).ranges.Pairwise (fun above below => below.largest + 2 ≤ above.smallest) := by
  have ok := (recordAll_keeps ok_empty wide).1
  have contains : ∀ n, ackFrameContains ack n = true ↔
      Recorded numbers n ∧ (recordAll {} numbers).Retains n := fun n =>
    ((ok.ackFrame built).1 n).trans ⟨fun retained => ⟨retained.recorded wide, retained⟩, And.right⟩
  have member : ∀ n, Recorded numbers n → n ∈ numbers := by
    rintro n ⟨earlier, later, rfl, -⟩
    simp
  refine ⟨fun bounded => encodeFrame_ack ((ok.ackFrame built).2 fun range mem => ?_), fun bytes encoded rest => ?_,
    fun n inside => member n ((contains n).mp inside).1, ok.ordered, ok.apart⟩
  · have retained : (recordAll {} numbers).Retains range.largest :=
      ⟨range, mem, ok.ordered range mem, le_rfl⟩
    exact bounded _ (member _ (retained.recorded wide))
  · obtain ⟨reads, valid⟩ := decodeFrame_ack encoded
    exact ⟨ack, reads rest, valid, contains⟩

theorem ack_frame_contains_recorded_gap :
    (ReceivedPacketRanges.recordAll {} [3, 7, 4]).ackFrame = some ⟨7, 0, 0, [⟨1, 1⟩]⟩ ∧
    (∃ bytes, encodeFrame (.ack ⟨7, 0, 0, [⟨1, 1⟩]⟩ none) = .ok bytes) ∧
    ∀ n, ackFrameContains ⟨7, 0, 0, [⟨1, 1⟩]⟩ n = true → n ∈ [3, 7, 4] := by
  have built : (ReceivedPacketRanges.recordAll {} [3, 7, 4]).ackFrame = some ⟨7, 0, 0, [⟨1, 1⟩]⟩ := rfl
  obtain ⟨encodes, -, honest, -⟩ := ack_frame_contains_recorded (by decide) built
  exact ⟨built, encodes (by decide), honest⟩

/-- The intervals below a packet number that a list of ranges stands for (RFC 9000, section 19.3.1). -/
def denotedBelow (smallest : Int) : List AckRange → List (Int × Int)
  | [] => []
  | range :: rest =>
    (smallest - range.gap - 2 - range.ackRange, smallest - range.gap - 2) ::
      denotedBelow (smallest - range.gap - 2 - range.ackRange) rest

def AckFrame.denoted (ack : AckFrame) : List (Int × Int) :=
  ((ack.largestAcknowledged : Int) - ack.firstAckRange, (ack.largestAcknowledged : Int)) ::
    denotedBelow (ack.largestAcknowledged - ack.firstAckRange) ack.ranges

theorem denotedBelow_eq (fit : ackRangesWireRange smallest ranges = .ok ()) : denotedBelow smallest ranges =
      (ackIntervals smallest ranges).1.map fun interval => ((interval.1 : Int), (interval.2 : Int)) := by
  induction ranges generalizing smallest with
  | nil => rfl
  | cons range rest ih =>
    obtain ⟨fits, short, long, fit⟩ := ackRangesWireRange_cons.mp fit
    have largest : (smallest : Int) - range.gap - 2 = ((smallest - (range.gap + 2) : Nat) : Int) := by omega
    have lowest : (smallest : Int) - range.gap - 2 - range.ackRange =
        ((smallest - (range.gap + 2) - range.ackRange : Nat) : Int) := by omega
    rw [denotedBelow, lowest, largest, ih fit, ackIntervals, if_neg (by omega)]
    simp only [if_neg (Nat.not_lt.mpr long), map_cons]

theorem denotedBelow_descends (fit : ackRangesWireRange smallest ranges = .ok ()) :
    (∀ interval ∈ denotedBelow smallest ranges, 0 ≤ interval.1 ∧ interval.1 ≤ interval.2 ∧ interval.2 + 1 < smallest) ∧
      (denotedBelow smallest ranges).Pairwise fun above below => below.2 + 1 < above.1 := by
  induction ranges generalizing smallest with
  | nil => exact ⟨nofun, List.Pairwise.nil⟩
  | cons range rest ih =>
    obtain ⟨-, short, long, fit⟩ := ackRangesWireRange_cons.mp fit
    have lowest : (smallest : Int) - range.gap - 2 - range.ackRange =
        ((smallest - (range.gap + 2) - range.ackRange : Nat) : Int) := by omega
    obtain ⟨each, apart⟩ := ih fit
    rw [← lowest] at each apart
    constructor
    · refine forall_mem_cons.mpr ⟨by omega, fun interval member => ?_⟩
      obtain ⟨low, ordered, below⟩ := each interval member
      omega
    · exact pairwise_cons.mpr ⟨fun interval member => (each interval member).2.2, apart⟩

/-- The size computation and the frame rules accept the same ACK frames, and the codec those among them whose
largest number and delay can be encoded. In an accepted frame the loop over the ranges finds the numbers of the
intervals the frame denotes, which are disjoint and descend. -/
theorem ack_validators_agree (ack : AckFrame) :
    (validateAckFrameWireRange ack = .ok () ↔ ackFrameRangesAreValid ack = true) ∧
    (validateAckFrame ack = .ok () ↔ ackFrameRangesAreValid ack = true ∧
      ack.largestAcknowledged ≤ maxQuicVarint ∧ ack.ackDelay ≤ maxQuicVarint) ∧ (ackFrameRangesAreValid ack = true →
      (∀ n : Nat, ackFrameContains ack n = true ↔ ∃ interval ∈ ack.denoted, interval.1 ≤ n ∧ n ≤ interval.2) ∧
      (∀ interval ∈ ack.denoted, 0 ≤ interval.1 ∧ interval.1 ≤ interval.2) ∧
      ack.denoted.Pairwise fun above below => below.2 + 1 < above.1) := by
  refine ⟨validateAckFrameWireRange_iff, validateAckFrame_iff, fun valid => ?_⟩
  obtain ⟨first, fit⟩ := ackFrameRangesAreValid_iff.mp valid
  have cast : (ack.largestAcknowledged : Int) - ack.firstAckRange =
      ((ack.largestAcknowledged - ack.firstAckRange : Nat) : Int) := by omega
  obtain ⟨each, apart⟩ := denotedBelow_descends fit
  rw [AckFrame.denoted, cast]
  refine ⟨fun n => ?_, ?_, pairwise_cons.mpr ⟨fun interval member => (each interval member).2.2, apart⟩⟩
  · rw [denotedBelow_eq fit, ackFrameContains, if_neg (Nat.not_lt.mpr first)]
    simp only [Bool.or_eq_true, Bool.and_eq_true, decide_eq_true_eq, any_eq_true, mem_cons, mem_map,
      exists_eq_or_imp, exists_exists_and_eq_and, Nat.cast_le]
  · exact forall_mem_cons.mpr ⟨by omega, fun interval member => ⟨(each interval member).1,
      (each interval member).2.1⟩⟩

/-- A largest number beyond the variable-length integers: only the codec refuses it. -/
theorem ack_validators_differ :
    ackFrameRangesAreValid ⟨2 ^ 62, 0, 0, []⟩ = true ∧ validateAckFrameWireRange ⟨2 ^ 62, 0, 0, []⟩ = .ok () ∧
      validateAckFrame ⟨2 ^ 62, 0, 0, []⟩ = .error .invalidFrameValue := by
  decide +kernel

end Quicz
