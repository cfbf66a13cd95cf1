import Mathlib.Order.Bounds.Basic
import Quicz.WireLen.Exact

/-! The chunk sizing functions find the largest payload that fits, by binary search. A frame that would carry
none of the available bytes counts as too large. -/
namespace Quicz

variable {wireLen : Nat → Except Error Nat}

/-- The payload sizes a frame may have: the frame can be encoded within the budget, and carries at least one
byte when there is one. -/
def payloadSizes (wireLen : Nat → Except Error Nat) (available budget : Nat) : Set Nat :=
  { n | n ≤ available ∧ (available = 0 ∨ 1 ≤ n) ∧ ∃ len, wireLen n = .ok len ∧ len ≤ budget }

variable {len : Nat → Nat} {budget top : Nat}

/-- The search keeps the last length that fitted just below the window, and what is above the window does not
fit; the rounds cover the window. -/
theorem searchDataLen_finds (lens : ∀ n ≤ top, wireLen n = .ok (len n)) (mono : Monotone len) (small : top < maxU64) :
    ∀ (fuel high best : Nat), high ≤ top → high - best ≤ fuel → best ≤ top → len best ≤ budget →
      (∀ n, high < n → n ≤ top → budget < len n) →
      ∃ found, searchDataLen wireLen budget fuel (best + 1) high best = .ok found ∧ found ≤ top ∧
        len found ≤ budget ∧ ∀ n, found < n → n ≤ top → budget < len n := by
  intro fuel
  induction fuel with
  | zero =>
    intro high best _ rounds inside fits above
    exact ⟨best, rfl, inside, fits, fun n lower upper => above n (by omega) upper⟩
  | succ fuel ih =>
    intro high best bounded rounds inside fits above
    rw [searchDataLen]
    by_cases window : best + 1 ≤ high
    · set mid := best + 1 + (high - (best + 1)) / 2 with mid_def
      have within : best + 1 ≤ mid ∧ mid ≤ high := by omega
      rw [if_pos window]
      dsimp only
      rw [lens mid (by omega)]
      dsimp only
      by_cases probe : len mid ≤ budget
      · rw [if_pos probe, if_neg (by omega)]
        exact ih high mid bounded (by omega) (by omega) probe above
      · rw [if_neg probe, if_neg (by omega)]
        refine ih (mid - 1) best (by omega) (by omega) inside fits fun n lower upper => ?_
        exact lt_of_lt_of_le (not_le.mp probe) (mono (by omega))
    · rw [if_neg window]
      exact ⟨best, rfl, inside, fits, fun n lower upper => above n (by omega) upper⟩

structure Grows (wireLen : Nat → Except Error Nat) (len : Nat → Nat) (limit : Nat) : Prop where
  defined : ∀ n ≤ limit, wireLen n = .ok (len n)
  undefined : ∀ n, limit < n → ∀ size, wireLen n ≠ .ok size
  mono : Monotone len
  carries : ∀ n, n ≤ len n

theorem Grows.mem_payloadSizes {limit available n : Nat} (grows : Grows wireLen len limit) :
    n ∈ payloadSizes wireLen available budget ↔
      n ≤ available ∧ (available = 0 ∨ 1 ≤ n) ∧ n ≤ limit ∧ len n ≤ budget := by
  constructor
  · rintro ⟨enough, some, size, sized, fits⟩
    have inside : n ≤ limit := by
      by_contra outside
      exact grows.undefined n (not_le.mp outside) size sized
    rw [grows.defined n inside] at sized
    obtain rfl := Except.ok.inj sized
    exact ⟨enough, some, inside, fits⟩
  · rintro ⟨enough, some, inside, fits⟩
    exact ⟨enough, some, len n, grows.defined n inside, fits⟩

theorem isGreatest_zero {limit : Nat} (grows : Grows wireLen len limit) (fits : len 0 ≤ budget) :
    IsGreatest (payloadSizes wireLen 0 budget) 0 :=
  ⟨grows.mem_payloadSizes.mpr ⟨le_refl 0, .inl rfl, Nat.zero_le _, fits⟩, fun _ mem => mem.1⟩

theorem search_greatest {limit available found : Nat} (grows : Grows wireLen len limit) (some : available ≠ 0)
    (inside : found ≤ min (min available budget) limit) (fits : len found ≤ budget)
    (above : ∀ n, found < n → n ≤ min (min available budget) limit → budget < len n) :
    if found = 0 then payloadSizes wireLen available budget = ∅
    else IsGreatest (payloadSizes wireLen available budget) found := by
  have greatest : ∀ n ∈ payloadSizes wireLen available budget, n ≤ found ∧ 1 ≤ n := by
    intro n mem
    obtain ⟨enough, one, bounded, short⟩ := grows.mem_payloadSizes.mp mem
    refine ⟨?_, one.resolve_left some⟩
    by_contra larger
    have carried := grows.carries n
    exact absurd short (not_le.mpr (above n (not_le.mp larger)
      (le_min (le_min enough (le_trans carried short)) bounded)))
  split
  case isTrue none =>
    refine Set.eq_empty_of_forall_notMem fun n mem => ?_
    have := greatest n mem
    omega
  case isFalse one =>
    refine ⟨grows.mem_payloadSizes.mpr ⟨?_, .inr (Nat.one_le_iff_ne_zero.mpr one), ?_, fits⟩,
      fun n mem => (greatest n mem).1⟩
    · exact le_trans inside (le_trans (min_le_left ..) (min_le_left ..))
    · exact le_trans inside (min_le_right ..)

/-- The sizing function gives the greatest size there is, or fails when there is none. -/
theorem maxFrameDataLen_greatest {offset available : Nat} (grows : Grows wireLen len (maxQuicVarint - offset)) :
    (∃ n, maxFrameDataLen wireLen offset available budget = .ok n ∧
      IsGreatest (payloadSizes wireLen available budget) n) ∨
    (∃ e, maxFrameDataLen wireLen offset available budget = .error e ∧
      payloadSizes wireLen available budget = ∅) := by
  unfold maxFrameDataLen
  rw [grows.defined 0 (Nat.zero_le _)]
  by_cases empty : len 0 > budget
  · refine .inr ⟨.bufferTooSmall, ?_, ?_⟩
    · simp [bind, Except.bind, empty, throw, throwThe, MonadExceptOf.throw]
    · refine Set.eq_empty_of_forall_notMem fun n mem => ?_
      obtain ⟨-, -, -, fits⟩ := grows.mem_payloadSizes.mp mem
      have := grows.mono (Nat.zero_le n)
      omega
  have fits := not_lt.mp empty
  by_cases nothing : available = 0
  · subst nothing
    exact .inl ⟨0, by simp [bind, Except.bind, empty, pure, Except.pure], isGreatest_zero grows fits⟩
  · set high := min (min available budget) (maxQuicVarint - offset) with high_def
    have bounded : high < maxU64 :=
      lt_of_le_of_lt (le_trans (min_le_right ..) (Nat.sub_le ..)) (show maxQuicVarint < maxU64 by decide)
    obtain ⟨found, search, inside, short, above⟩ := searchDataLen_finds
      (fun n within => grows.defined n (le_trans within (min_le_right ..))) grows.mono bounded (high + 1) high 0
      (le_refl _) (by omega) (Nat.zero_le _) fits (fun n lower upper => absurd upper (not_le.mpr lower))
    have greatest := search_greatest grows nothing inside short above
    by_cases none : found = 0
    · rw [if_pos none] at greatest
      refine .inr ⟨.bufferTooSmall, ?_, greatest⟩
      simp [bind, Except.bind, empty, nothing, search, none, throw, throwThe, MonadExceptOf.throw]
    · rw [if_neg none] at greatest
      refine .inl ⟨found, ?_, greatest⟩
      simp [bind, Except.bind, empty, nothing, search, none, pure, Except.pure]

theorem varIntLen_mono : Monotone varIntLen := by
  intro a b le
  unfold varIntLen
  split_ifs <;> omega

theorem grows_of_measured {fixed limit : Nat}
    (measured : ∀ n, Measured id (wireLen n) (n ≤ limit) (fixed + (varIntLen n + n))) :
    Grows wireLen (fun n => fixed + (varIntLen n + n)) limit where
  defined n inside := by
    obtain ⟨size, sized, rfl⟩ := (measured n).succeeds inside
    exact sized
  undefined n outside size sized := absurd ((measured n).needs size sized) (not_le.mpr outside)
  mono a b le := by
    have := varIntLen_mono le
    dsimp only
    omega
  carries n := by omega

theorem maxFrameDataLen_undefined {offset available budget : Nat} (undefined : ∀ n size, wireLen n ≠ .ok size) :
    (∃ e, maxFrameDataLen wireLen offset available budget = .error e) ∧
      payloadSizes wireLen available budget = ∅ := by
  constructor
  · cases first : wireLen 0 with
    | ok size => exact absurd first (undefined 0 size)
    | error e => exact ⟨e, by rw [maxFrameDataLen, first]; rfl⟩
  · refine Set.eq_empty_of_forall_notMem fun n mem => ?_
    obtain ⟨-, -, size, sized, -⟩ := mem
    exact undefined n size sized

/-- The outcome that belongs to a set of sizes: its greatest element, or an error when it is empty. -/
def SizedBy (outcome : Except Error Nat) (sizes : Set Nat) : Prop :=
  (∀ n, outcome = .ok n ↔ IsGreatest sizes n) ∧ ((∃ e, outcome = .error e) ↔ sizes = ∅)

theorem sizedBy_of_greatest {outcome : Except Error Nat} {sizes : Set Nat}
    (result : (∃ n, outcome = .ok n ∧ IsGreatest sizes n) ∨ ∃ e, outcome = .error e ∧ sizes = ∅) :
    SizedBy outcome sizes := by
  obtain ⟨n, rfl, greatest⟩ | ⟨e, rfl, rfl⟩ := result
  · refine ⟨fun m => ⟨fun same => ?_, fun other => ?_⟩, fun failed => (nomatch failed), fun empty => ?_⟩
    · obtain rfl := Except.ok.inj same
      exact greatest
    · rw [greatest.unique other]
    · rw [empty] at greatest
      exact absurd greatest.1 (Set.notMem_empty n)
  · exact ⟨fun n => ⟨nofun, fun greatest => absurd greatest.1 (Set.notMem_empty n)⟩, fun _ => rfl, fun _ => ⟨e, rfl⟩⟩

theorem sizedBy_of_measured {offset available budget fixed : Nat} {valid : Prop}
    (measured : ∀ n, Measured id (wireLen n) (valid ∧ offset + n ≤ maxQuicVarint) (fixed + (varIntLen n + n))) :
    SizedBy (maxFrameDataLen wireLen offset available budget) (payloadSizes wireLen available budget) := by
  apply sizedBy_of_greatest
  by_cases usable : valid ∧ offset ≤ maxQuicVarint
  · refine maxFrameDataLen_greatest (grows_of_measured fun n => (measured n).congr ?_ fun _ => rfl)
    rw [and_iff_right usable.1]
    omega
  · have undefined : ∀ n size, wireLen n ≠ .ok size := by
      intro n size sized
      obtain ⟨holds, bounded⟩ := (measured n).needs size sized
      exact usable ⟨holds, by omega⟩
    have none : (∃ e, maxFrameDataLen wireLen offset available budget = .error e) ∧
        payloadSizes wireLen available budget = ∅ := maxFrameDataLen_undefined undefined
    obtain ⟨⟨e, failed⟩, empty⟩ := none
    exact .inr ⟨e, failed, empty⟩

/-- Both chunk sizing functions return the greatest payload size whose frame fits the budget, at least one byte
when some are available, and fail exactly when there is none. -/
theorem chunk_sizes_greatest (streamId offset available budget : Nat) :
    SizedBy (maxStreamFrameDataLen streamId offset available budget)
      (payloadSizes (streamFrameWireLen streamId offset) available budget) ∧
    SizedBy (maxCryptoFrameDataLen offset available budget)
      (payloadSizes (cryptoFrameWireLen offset) available budget) := by
  constructor
  · exact sizedBy_of_measured fun n => streamFrameWireLen_measured streamId offset n
  · have measured : ∀ n, Measured id (cryptoFrameWireLen offset n) (True ∧ offset + n ≤ maxQuicVarint) _ :=
      fun n => (cryptoFrameWireLen_measured offset n).congr (by simp) fun _ => rfl
    exact sizedBy_of_measured measured

/-- A budget for the empty frame alone, with a byte available: the functions fail. -/
theorem chunk_sizes_not_empty : streamFrameWireLen 0 0 0 = .ok 3 ∧
    maxStreamFrameDataLen 0 0 1 3 = .error .bufferTooSmall ∧ cryptoFrameWireLen 0 0 = .ok 3 ∧
    maxCryptoFrameDataLen 0 1 3 = .error .bufferTooSmall := by
  decide +kernel

end Quicz
