import Quicz.WireLen.Sizing

/-! Padding of protected long packets. The padding loop adds the bytes that are missing from the datagram
and does not see that the Length field in front of them may grow as well. -/
namespace Quicz

open Nat

/-- The plaintext lengths a packet may be padded to: the datagram has the length that is asked for. -/
def paddedLens (wireLen : Nat → Except Error Nat) (plaintextLen minDatagramLen : Nat) : Set Nat :=
  { n | plaintextLen ≤ n ∧ ∃ len, wireLen n = .ok len ∧ minDatagramLen ≤ len }

variable {wireLen : Nat → Except Error Nat} {width : Nat → Nat} {base top plain least : Nat}

structure FieldSized (wireLen : Nat → Except Error Nat) (width : Nat → Nat) (base top : Nat) : Prop where
  ok_iff : ∀ n len, wireLen n = .ok len ↔ n ≤ top ∧ len = base + width n + n
  mono : Monotone width

/-- Where lengths grow at least as fast as the plaintext, two rounds are as good as any number. -/
theorem expandPlaintext_rounds
    (grows : ∀ n m a b, n ≤ m → wireLen n = .ok a → wireLen m = .ok b → a + (m - n) ≤ b) (rounds : Nat) :
    expandPlaintext wireLen least (rounds + 2) plain = expandPlaintext wireLen least 2 plain := by
  simp only [expandPlaintext, bind, Except.bind]
  cases here : wireLen plain with
  | error e => rfl
  | ok current =>
    dsimp only
    split_ifs with short
    swap
    · rfl
    simp only [addDatagramWireLen]
    split_ifs
    swap
    · rfl
    dsimp only
    cases next : wireLen (plain + (least - current)) with
    | error e => rfl
    | ok reached =>
      have enough := grows _ _ _ _ (Nat.le_add_right ..) here next
      dsimp only
      rw [if_neg (by omega), if_neg (by omega)]

namespace FieldSized

theorem sized (lens : FieldSized wireLen width base top) {n : Nat} (small : n ≤ top) :
    wireLen n = .ok (base + width n + n) := (lens.ok_iff n _).mpr ⟨small, rfl⟩

theorem mem_iff (lens : FieldSized wireLen width base top) {n : Nat} :
    n ∈ paddedLens wireLen plain least ↔ plain ≤ n ∧ n ≤ top ∧ least ≤ base + width n + n := by
  constructor
  · rintro ⟨above, len, result, enough⟩
    obtain ⟨small, rfl⟩ := (lens.ok_iff n len).mp result
    exact ⟨above, small, enough⟩
  · rintro ⟨above, small, enough⟩
    exact ⟨above, _, lens.sized small, enough⟩

theorem expand_enough (lens : FieldSized wireLen width base top) (inside : plain ≤ top)
    (enough : least ≤ base + width plain + plain) (rounds : Nat) :
    expandPlaintext wireLen least (rounds + 1) plain = .ok plain := by
  rw [expandPlaintext, lens.sized inside]
  exact if_neg (not_lt.mpr enough)

/-- One addition ends the loop: what it adds for the missing bytes reaches the length, the field can only
be longer. -/
theorem expand_missing (lens : FieldSized wireLen width base top) (small : top ≤ maxU64) {target : Nat}
    (inside : plain ≤ top) (missing : base + width plain + plain + (target - plain) = least)
    (above : plain < target) (rounds : Nat) :
    (target ≤ top → expandPlaintext wireLen least (rounds + 2) plain = .ok target) ∧
    (top < target → ∀ n, expandPlaintext wireLen least (rounds + 2) plain ≠ .ok n) := by
  have short : base + width plain + plain < least := by omega
  have sum : plain + (least - (base + width plain + plain)) = target := by omega
  rw [expandPlaintext, lens.sized inside]
  simp only [bind, Except.bind, if_pos short, addDatagramWireLen, sum]
  constructor
  · intro reached
    rw [if_pos (reached.trans small)]
    have wider := lens.mono above.le
    exact lens.expand_enough reached (by omega) rounds
  · intro large n
    split_ifs
    · dsimp only
      cases result : wireLen target with
      | error e => rw [expandPlaintext, result]; exact nofun
      | ok len => exact absurd ((lens.ok_iff target len).mp result).1 (not_le.mpr large)
    · exact nofun

/-- The loop ends with the least length exactly if the field has not grown one byte before the end. -/
theorem expand_least_iff (lens : FieldSized wireLen width base top) (small : top ≤ maxU64)
    (possible : (paddedLens wireLen plain least).Nonempty) (rounds : Nat) :
    (∃ n, expandPlaintext wireLen least (rounds + 2) plain = .ok n ∧ IsLeast (paddedLens wireLen plain least) n) ↔
      (base + width plain + plain < least → plain + (least - (base + width plain + plain)) - 1 ≤ top ∧
        width (plain + (least - (base + width plain + plain)) - 1) = width plain) := by
  obtain ⟨m, member⟩ := possible
  obtain ⟨above, within, reaches⟩ := lens.mem_iff.mp member
  have inside : plain ≤ top := above.trans within
  rcases lt_or_ge (base + width plain + plain) least with short | enough
  · obtain ⟨target, sum⟩ : ∃ target, target = plain + (least - (base + width plain + plain)) := ⟨_, rfl⟩
    rw [← sum]
    obtain ⟨padded, refused⟩ := lens.expand_missing small inside
      (show base + width plain + plain + (target - plain) = least by omega) (by omega) rounds
    constructor
    · rintro ⟨n, result, -, lowest⟩ -
      have reached : target ≤ top := not_lt.mp fun large => refused large n result
      rw [padded reached] at result
      obtain rfl := Except.ok.inj result
      refine ⟨by omega, le_antisymm ?_ (lens.mono (by omega))⟩
      by_contra wider
      have : target ≤ target - 1 := lowest (lens.mem_iff.mpr ⟨by omega, by omega, by omega⟩)
      omega
    · intro even
      obtain ⟨near, same⟩ := even short
      -- One byte less is one byte short, and so is everything below it.
      have below : ∀ n ∈ paddedLens wireLen plain least, target ≤ n := by
        intro n member
        obtain ⟨_, _, reaches⟩ := lens.mem_iff.mp member
        by_contra lower
        have := lens.mono (show n ≤ target - 1 by omega)
        omega
      have reached : target ≤ top := (below m member).trans within
      have wider := lens.mono (show plain ≤ target by omega)
      exact ⟨target, padded reached, lens.mem_iff.mpr ⟨by omega, reached, by omega⟩, below⟩
  · exact ⟨fun _ short => absurd short (not_lt.mpr enough), fun _ =>
      ⟨plain, lens.expand_enough inside enough (rounds + 1), lens.mem_iff.mpr ⟨le_rfl, inside, enough⟩,
        fun n member => member.1⟩⟩

end FieldSized

def longFixedLen (header : LongHeader) (packetNumberLen : Nat) : Nat :=
  7 + header.dcid.length + header.scid.length +
    (if header.packetType = .initial then varIntLen header.token.length + header.token.length else 0) +
    packetNumberLen + aeadTagLen

def LongHeader.Sizable (header : LongHeader) (packetNumberLen : Nat) : Prop :=
  ¬ (packetNumberLen = 0 ∨ packetNumberLen > 4) ∧
  ¬ (header.dcid.length > maxConnectionIdLen ∨ header.scid.length > maxConnectionIdLen) ∧
  ¬ header.version = 0 ∧ ¬ header.packetType = .retry ∧ ¬ (header.packetType ≠ .initial ∧ header.token ≠ []) ∧
  (header.packetType = .initial → header.token.length ≤ maxQuicVarint)

theorem addDatagramWireLen_fits {current extra : Nat} (fits : current + extra ≤ maxU64) :
    addDatagramWireLen current extra = .ok (current + extra) := if_pos fits

theorem quicVarIntWireLen_ok {value : Nat} (fits : value ≤ maxQuicVarint) :
    quicVarIntWireLen value = .ok (varIntLen value) := by
  obtain ⟨len, result, rfl⟩ := (quicVarIntWireLen_measured value).succeeds fits
  exact result

theorem protectedLongDatagramWireLen_measured (header : LongHeader) (packetNumberLen n : Nat) :
    Measured id (protectedLongDatagramWireLen header packetNumberLen n)
      (header.Sizable packetNumberLen ∧ n + aeadTagLen + packetNumberLen ≤ maxQuicVarint)
      (longFixedLen header packetNumberLen + varIntLen (n + aeadTagLen + packetNumberLen) + n) := by
  unfold protectedLongDatagramWireLen LongHeader.Sizable
  simp only [and_assoc]
  refine .guard fun number => .guard fun ids => .guard fun version => .guard fun retry => .guard fun token => ?_
  simp only [not_or, not_lt, gt_iff_lt, maxConnectionIdLen] at number ids
  have large : maxQuicVarint + maxQuicVarint + 100 ≤ maxU64 := by decide
  have tag : aeadTagLen = 16 := rfl
  by_cases fits : n + aeadTagLen + packetNumberLen ≤ maxQuicVarint
  · have field := varIntLen_le (n + aeadTagLen + packetNumberLen)
    have digits := varIntLen_le header.token.length
    simp (disch := omega) only [addDatagramWireLen_fits, bind, Except.bind, quicVarIntWireLen_ok fits,
      if_neg (not_lt.mpr fits)]
    by_cases initial : header.packetType = .initial
    · simp only [if_pos initial]
      by_cases token : header.token.length ≤ maxQuicVarint
      · simp (disch := omega) only [quicVarIntWireLen_ok token, if_neg (not_lt.mpr token), addDatagramWireLen_fits]
        refine (Measured.ok _).congr ⟨fun _ => ⟨fun _ => token, fits⟩, fun _ => trivial⟩ fun _ => ?_
        simp only [id, longFixedLen, if_pos initial]
        omega
      · simp only [if_pos (not_le.mp token)]
        exact ⟨fun h => absurd (h.1 initial) token, fun _ result => (by cases result)⟩
    · simp (disch := omega) only [if_neg initial, pure, Except.pure, addDatagramWireLen_fits]
      refine (Measured.ok _).congr ⟨fun _ => ⟨fun h => absurd h initial, fits⟩, fun _ => trivial⟩ fun _ => ?_
      simp only [id, longFixedLen, if_neg initial]
      omega
  · refine ⟨fun h => absurd h.2 fits, fun a result => ?_⟩
    -- The sums are refused when they overflow, and the Length field when it is no varint.
    simp only [addDatagramWireLen] at result
    by_cases first : n + aeadTagLen ≤ maxU64
    · by_cases second : n + aeadTagLen + packetNumberLen ≤ maxU64
      · simp only [if_pos first, if_pos second, bind, Except.bind, if_pos (not_le.mp fits)] at result
        cases result
      · simp only [if_pos first, if_neg second, bind, Except.bind] at result
        cases result
    · simp only [if_neg first, bind, Except.bind] at result
      cases result

variable {header : LongHeader} {packetNumberLen : Nat}

theorem protectedLongDatagramWireLen_fieldSized (sizable : header.Sizable packetNumberLen) :
    FieldSized (protectedLongDatagramWireLen header packetNumberLen)
      (fun n => varIntLen (n + aeadTagLen + packetNumberLen)) (longFixedLen header packetNumberLen)
      (maxQuicVarint - aeadTagLen - packetNumberLen) where
  ok_iff n len := by
    have measured := (protectedLongDatagramWireLen_measured header packetNumberLen n).result (k := len)
    have small : packetNumberLen ≤ 4 := by
      have := sizable.1
      omega
    have room : aeadTagLen + packetNumberLen ≤ maxQuicVarint := by
      simp only [aeadTagLen, maxQuicVarint]
      omega
    constructor
    · intro result
      obtain ⟨⟨-, fits⟩, sized⟩ := measured.mp ⟨len, result, rfl⟩
      exact ⟨by omega, sized.symm⟩
    · rintro ⟨within, rfl⟩
      obtain ⟨len, result, rfl⟩ := measured.mpr ⟨⟨sizable, by omega⟩, rfl⟩
      exact result
  mono a b le := varIntLen_mono (by omega)

/-- Nothing is missing from the datagram, or the Length field is as long one byte before the padding ends as
it was without padding. -/
def PadsEvenly (header : LongHeader) (packetNumberLen plaintextLen minDatagramLen : Nat) : Prop :=
  ∀ len, protectedLongDatagramWireLen header packetNumberLen plaintextLen = .ok len → len < minDatagramLen →
    quicVarIntWireLen (plaintextLen + (minDatagramLen - len) - 1 + aeadTagLen + packetNumberLen) =
      quicVarIntWireLen (plaintextLen + aeadTagLen + packetNumberLen)

theorem padsEvenly_iff {plaintextLen minDatagramLen : Nat} (sizable : header.Sizable packetNumberLen)
    (fits : plaintextLen + aeadTagLen + packetNumberLen ≤ maxQuicVarint) :
    let len := longFixedLen header packetNumberLen + varIntLen (plaintextLen + aeadTagLen + packetNumberLen) +
      plaintextLen
    PadsEvenly header packetNumberLen plaintextLen minDatagramLen ↔ (len < minDatagramLen →
        plaintextLen + (minDatagramLen - len) - 1 ≤ maxQuicVarint - aeadTagLen - packetNumberLen ∧
        varIntLen (plaintextLen + (minDatagramLen - len) - 1 + aeadTagLen + packetNumberLen) =
          varIntLen (plaintextLen + aeadTagLen + packetNumberLen)) := by
  have lens := protectedLongDatagramWireLen_fieldSized sizable
  have sized := lens.sized (n := plaintextLen) (by omega)
  intro len
  simp only [PadsEvenly, sized, Except.ok.injEq, forall_eq', quicVarIntWireLen_ok fits]
  refine imp_congr_right fun short => ?_
  constructor
  · intro same
    have bounded := (quicVarIntWireLen_measured _).needs _ same
    rw [quicVarIntWireLen_ok bounded] at same
    exact ⟨by omega, Except.ok.inj same⟩
  · rintro ⟨within, same⟩
    rw [quicVarIntWireLen_ok (by omega), same]

/-- The loop ends, and with the least padding exactly if the Length field does not grow on the way. The same
holds for a datagram that could have the length asked for. -/
theorem protectedLongPlaintextLenForMinDatagram_least_iff (header : LongHeader)
    (packetNumberLen plaintextLen minDatagramLen : Nat) :
    let wireLen := protectedLongDatagramWireLen header packetNumberLen
    let result := protectedLongPlaintextLenForMinDatagram header packetNumberLen plaintextLen minDatagramLen
    (∀ rounds ≥ 2, minDatagramLen ≠ 0 → expandPlaintext wireLen minDatagramLen rounds plaintextLen = result) ∧
    ((paddedLens wireLen plaintextLen minDatagramLen).Nonempty →
      ((∃ n, result = .ok n ∧ IsLeast (paddedLens wireLen plaintextLen minDatagramLen) n) ↔
        PadsEvenly header packetNumberLen plaintextLen minDatagramLen)) ∧
    ((∃ n ≥ plaintextLen, wireLen n = .ok minDatagramLen) → ((∃ n, result = .ok n ∧ wireLen n = .ok minDatagramLen) ↔
        PadsEvenly header packetNumberLen plaintextLen minDatagramLen)) := by
  intro wireLen result
  have measured := protectedLongDatagramWireLen_measured header packetNumberLen
  have grows : ∀ n m a b, n ≤ m → wireLen n = .ok a → wireLen m = .ok b → a + (m - n) ≤ b := by
    intro n m a b le first second
    obtain ⟨-, rfl⟩ := (measured n).result.mp ⟨a, first, rfl⟩
    obtain ⟨-, rfl⟩ := (measured m).result.mp ⟨b, second, rfl⟩
    have := varIntLen_mono (show n + aeadTagLen + packetNumberLen ≤ m + aeadTagLen + packetNumberLen by omega)
    omega
  have unfolded : ∀ rounds, minDatagramLen ≠ 0 →
      expandPlaintext wireLen minDatagramLen (rounds + 2) plaintextLen = result := by
    intro rounds asked
    obtain ⟨least, rfl⟩ := exists_eq_succ_of_ne_zero asked
    rw [expandPlaintext_rounds grows]
    exact (expandPlaintext_rounds grows least).symm
  have leastIff : (paddedLens wireLen plaintextLen minDatagramLen).Nonempty →
      ((∃ n, result = .ok n ∧ IsLeast (paddedLens wireLen plaintextLen minDatagramLen) n) ↔
        PadsEvenly header packetNumberLen plaintextLen minDatagramLen) := by
    intro possible
    obtain ⟨m, above, len, sized, -⟩ := id possible
    obtain ⟨⟨sizable, fits⟩, -⟩ := (measured m).result.mp ⟨len, sized, rfl⟩
    have lens := protectedLongDatagramWireLen_fieldSized sizable
    have same : expandPlaintext wireLen minDatagramLen 2 plaintextLen = result := by
      by_cases asked : minDatagramLen = 0
      · subst asked
        exact lens.expand_enough (by omega) (zero_le _) 1
      · exact unfolded 0 asked
    rw [← same]
    exact (lens.expand_least_iff (by simp only [maxQuicVarint, maxU64]; omega) possible 0).trans
      (padsEvenly_iff sizable (by omega)).symm
  refine ⟨fun rounds enough asked => ?_, leastIff, fun exact => ?_⟩
  · obtain ⟨more, rfl⟩ := Nat.exists_eq_add_of_le' enough
    exact unfolded more asked
  · obtain ⟨m, above, reached⟩ := exact
    rw [← leastIff ⟨m, above, _, reached, le_rfl⟩]
    refine exists_congr fun n => and_congr_right fun _ => ?_
    -- No other plaintext gives this length.
    constructor
    · intro sized
      obtain rfl : n = m := by
        rcases le_total n m with le | le
        · have := grows _ _ _ _ le sized reached
          omega
        · have := grows _ _ _ _ le reached sized
          omega
      refine ⟨⟨above, _, sized, le_rfl⟩, fun other holds => ?_⟩
      obtain ⟨_, len, size, enough⟩ := holds
      by_contra lower
      have := grows _ _ _ _ (Nat.le_of_not_le lower) size sized
      omega
    · rintro ⟨⟨-, len, size, enough⟩, lowest⟩
      have := grows _ _ _ _ (lowest ⟨above, _, reached, le_rfl⟩) size reached
      rw [size, show len = minDatagramLen by omega]

/-- A client Initial with ten bytes of frames: one byte of padding less gives a datagram of 1200 bytes, but
the loop makes it 1201. -/
theorem initial_padded_beyond :
    let header : LongHeader := ⟨1, .initial, List.replicate 8 0, List.replicate 8 0, []⟩
    protectedLongDatagramWireLen header 2 10 = .ok 53 ∧
    protectedLongDatagramWireLen header 2 1156 = .ok 1200 ∧
    protectedLongPlaintextLenForMinDatagram header 2 10 1200 = .ok 1157 ∧
    protectedLongDatagramWireLen header 2 1157 = .ok 1201 ∧
    ¬ PadsEvenly header 2 10 1200 := by
  refine ⟨by decide +kernel, by decide +kernel, by decide +kernel, by decide +kernel, fun even => ?_⟩
  have same := even 53 (by decide +kernel) (by decide)
  exact absurd same (by decide)

theorem initial_padded_exactly :
    let header : LongHeader := ⟨1, .initial, List.replicate 8 0, List.replicate 8 0, []⟩
    protectedLongPlaintextLenForMinDatagram header 2 100 1200 = .ok 1156 ∧
    IsLeast (paddedLens (protectedLongDatagramWireLen header 2) 100 1200) 1156 := by
  intro header
  have even : PadsEvenly header 2 100 1200 := by
    intro len sized short
    obtain rfl := Except.ok.inj ((show protectedLongDatagramWireLen header 2 100 = .ok 144 by decide +kernel).symm.trans
      sized)
    decide
  obtain ⟨n, result, lowest⟩ :=
    ((protectedLongPlaintextLenForMinDatagram_least_iff header 2 100 1200).2.1
      ⟨1156, by decide, 1200, by decide +kernel, le_rfl⟩).mpr even
  have returned : protectedLongPlaintextLenForMinDatagram header 2 100 1200 = .ok 1156 := by decide +kernel
  obtain rfl := Except.ok.inj (returned.symm.trans result)
  exact ⟨returned, lowest⟩

end Quicz
