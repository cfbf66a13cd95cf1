import Quicz.H3.Bounds
import Mathlib.Tactic.Ring

/-! What the writers of qpack.zig put down, the readers find again, wherever it stands. Strings are
left to their readers: whether one is read back depends on its length and on the shared buffer. -/
namespace Quicz.H3

open Proc List Nat

variable {σ : Type} {s : σ}

theorem or_shiftLeft {result shift : Nat} (low : result < 2 ^ shift) (digit : Nat) :
    result ||| digit <<< shift = result + digit * 2 ^ shift := by
  rw [Nat.or_comm, ← Nat.shiftLeft_add_eq_or_of_lt low, Nat.shiftLeft_eq, Nat.add_comm]

theorem toNat_ofNat {n : Nat} (small : n < 256) : (UInt8.ofNat n).toNat = n := by
  rw [UInt8.toNat_ofNat', mod_eq_of_lt (by omega)]

variable {value p result shift : Nat}

theorem decodeVarintLoop_last (rest : Bytes) (low : result < 2 ^ shift) (small : value < 128) :
    decodeVarintLoop (UInt8.ofNat value :: rest) p result shift s = .ok (result + value * 2 ^ shift, p + 1) s := by
  rw [decodeVarintLoop, toNat_ofNat (by omega), if_pos small, mod_eq_of_lt small, or_shiftLeft low]
  rfl

theorem decodeVarintLoop_encode (fuel : Nat) (rest : Bytes)
    (low : result < 2 ^ shift) (enough : value < 128 ^ (fuel + 1)) (septets : shift % 7 = 0)
    (shifts : shift < 63) (narrow : value < 2 ^ (63 - shift)) :
    decodeVarintLoop (encodeVarintLoop fuel value ++ rest) p result shift s =
      .ok (result + value * 2 ^ shift, p + (encodeVarintLoop fuel value).length) s := by
  induction fuel generalizing value p result shift with
  | zero => exact decodeVarintLoop_last rest low (by simpa using enough)
  | succ fuel ih =>
    unfold encodeVarintLoop
    split_ifs with large
    · have digit : (128 + value % 128) % 128 = value % 128 := by omega
      have room : shift + 7 < 63 := by
        by_contra full
        have bound : (2 : Nat) ^ (63 - shift) ≤ 2 ^ 7 := Nat.pow_le_pow_right (by decide) (by omega)
        omega
      have grown : result + value % 128 * 2 ^ shift < 2 ^ (shift + 7) := by
        rw [← or_shiftLeft low]
        refine Nat.or_lt_two_pow (low.trans_le (Nat.pow_le_pow_right (by decide) (by omega))) ?_
        rw [shiftLeft_eq, add_comm, pow_add]
        exact Nat.mul_lt_mul_of_pos_right (Nat.mod_lt _ (by decide)) (Nat.two_pow_pos shift)
      have upper : value / 128 < 128 ^ (fuel + 1) := by
        rw [div_lt_iff_lt_mul (by decide)]
        simpa [pow_succ] using enough
      have rest_narrow : value / 128 < 2 ^ (63 - (shift + 7)) := by
        rw [div_lt_iff_lt_mul (by decide), show (128 : Nat) = 2 ^ 7 from rfl, ← pow_add]
        exact narrow.trans_eq (congrArg _ (by omega))
      have value_eq : result + value % 128 * 2 ^ shift + value / 128 * 2 ^ (shift + 7) =
          result + value * 2 ^ shift := by
        calc result + value % 128 * 2 ^ shift + value / 128 * 2 ^ (shift + 7)
            = result + (128 * (value / 128) + value % 128) * 2 ^ shift := by
              rw [pow_add]
              ring
          _ = result + value * 2 ^ shift := by rw [div_add_mod]
      rw [cons_append, decodeVarintLoop, toNat_ofNat (by omega), digit, if_neg (by omega),
        if_neg (by omega), or_shiftLeft low, ih grown upper (by omega) room rest_narrow, value_eq,
        length_cons]
      congr 2
      omega
    · exact decodeVarintLoop_last rest low (by omega)

theorem byteAt_eq {data tail : Bytes} {pos : Nat} {byte : UInt8} (here : data.drop pos = byte :: tail) :
    byteAt data pos s = .ok byte s := by
  have found : data[pos]? = some byte := by
    rw [← head?_drop, here]
    rfl
  rw [byteAt, found]
  rfl

/-- An integer behind flags is found at the place it was written to, and with it the position after
it. The flags stand above the integer's bits. -/
theorem decodeInteger_encode {flags bits value pos : Nat} {data rest : Bytes}
    (above : 2 ^ bits ∣ flags) (byte : flags + 2 ^ bits ≤ 256) (small : value < 2 ^ 63)
    (here : data.drop pos = encodeInteger flags bits value ++ rest) :
    decodeInteger bits data pos s = .ok (value, pos + (encodeInteger flags bits value).length) s := by
  have positive := Nat.two_pow_pos bits
  have low : ∀ {n : Nat}, n < 2 ^ bits → (flags + n) % 2 ^ bits = n := by
    intro n fits
    rw [Nat.add_mod, Nat.mod_eq_zero_of_dvd above, Nat.zero_add, Nat.mod_mod, Nat.mod_eq_of_lt fits]
  unfold encodeInteger at here ⊢
  split_ifs at here ⊢ with short
  · refine run_ok ?_
    rw [decodeInteger, wp_bind, wp, byteAt_eq here]
    simp only [toNat_ofNat (show flags + value < 256 by omega), low (show value < 2 ^ bits by omega),
      if_neg (show value ≠ 2 ^ bits - 1 by omega)]
    exact ⟨rfl, rfl⟩
  · rw [cons_append] at here
    have after_first : data.drop (pos + 1) = encodeVarintToBuf (value - (2 ^ bits - 1)) ++ rest := by
      rw [← tail_drop, here]
      rfl
    have tail : decodeVarintFromBuf data (pos + 1) s =
        .ok (value - (2 ^ bits - 1), pos + 1 + (encodeVarintToBuf (value - (2 ^ bits - 1))).length) s := by
      rw [decodeVarintFromBuf, after_first, encodeVarintToBuf, decodeVarintLoop_encode 9 rest (by decide)
        ((Nat.sub_le _ _).trans_lt (small.trans_le (by decide))) (by decide) (by decide)
        ((Nat.sub_le _ _).trans_lt small)]
      simp
    have sum : 2 ^ bits - 1 + (value - (2 ^ bits - 1)) = value := by omega
    have fits : value ≤ maxU64 := by
      simp only [maxU64]
      omega
    refine run_ok ?_
    rw [decodeInteger, wp_bind, wp, byteAt_eq here]
    simp only [toNat_ofNat (show flags + (2 ^ bits - 1) < 256 by omega),
      low (show 2 ^ bits - 1 < 2 ^ bits by omega), if_true]
    rw [wp_bind, wp, tail]
    simp only [wp_bind, wp_sumU64, sum, wp_pure]
    exact ⟨fun _ => ⟨by rw [length_cons, Nat.add_assoc, Nat.add_comm 1], trivial⟩, fun big => big fits⟩

/-- The bits of the flags are not touched by what stands below them. -/
theorem testBit_flags {flags bits low j : Nat} (above : 2 ^ bits ∣ flags) (fits : low < 2 ^ bits)
    (high : bits ≤ j) : (flags + low).testBit j = flags.testBit j := by
  obtain ⟨a, rfl⟩ := above
  have plain := Nat.testBit_two_pow_mul_add a (Nat.two_pow_pos bits) j
  rw [Nat.add_zero, if_neg (by omega)] at plain
  rw [Nat.testBit_two_pow_mul_add a fits, if_neg (by omega), plain]

theorem encodeInteger_head {flags bits : Nat} (value : Nat) (byte : flags + 2 ^ bits ≤ 256) :
    ∃ low tail, low < 2 ^ bits ∧ encodeInteger flags bits value = UInt8.ofNat (flags + low) :: tail ∧
      (UInt8.ofNat (flags + low)).toNat = flags + low := by
  have positive := Nat.two_pow_pos bits
  unfold encodeInteger
  split_ifs with short
  · exact ⟨value, [], by omega, rfl, toNat_ofNat (by omega)⟩
  · exact ⟨2 ^ bits - 1, _, by omega, rfl, toNat_ofNat (by omega)⟩

theorem byteAt_encodeInteger {flags bits value pos : Nat} {data rest : Bytes} (above : 2 ^ bits ∣ flags)
    (byte : flags + 2 ^ bits ≤ 256) (here : data.drop pos = encodeInteger flags bits value ++ rest) :
    ∃ first : UInt8, byteAt data pos s = .ok first s ∧ ∀ j, bits ≤ j → first.toNat.testBit j = flags.testBit j := by
  obtain ⟨low, tail, fits, written, first⟩ := encodeInteger_head value byte
  rw [written, cons_append] at here
  refine ⟨_, byteAt_eq here, fun j high => ?_⟩
  rw [first, testBit_flags above fits high]

theorem drop_append {data front rest : Bytes} {pos : Nat} (here : data.drop pos = front ++ rest) :
    data.drop (pos + front.length) = rest := by
  rw [← drop_drop, here, drop_left]

def ReadsBack (flags bits : Nat) (data : Bytes) (start : Nat) (text : Bytes) (s t : Scratch) : Prop :=
  decodeStringWith decodeToScratch bits data start s = .ok (text, start + (encodeString flags bits text).length) t

def FieldRepresentation.ReadsBack (data : Bytes) (pos : Nat) : FieldRepresentation → Scratch → Scratch → Prop
  | .dynamicIndexed _, s, t => t = s
  | .staticIndexed _, s, t => t = s
  | .dynamicNameRef index value, s, t =>
    H3.ReadsBack 0x00 7 data (pos + (encodeInteger 0x40 4 index).length) value s t
  | .staticNameRef index value, s, t =>
    H3.ReadsBack 0x00 7 data (pos + (encodeInteger 0x50 4 index).length) value s t
  | .literal name value, s, t =>
    ∃ mid, H3.ReadsBack 0x20 3 data pos name s mid ∧
      H3.ReadsBack 0x00 7 data (pos + (encodeStringToBuf4 name).length) value mid t

def FieldRepresentation.Denotes (t : DynamicTable) : FieldRepresentation → HeaderField → Prop
  | .dynamicIndexed index, field => index < 2 ^ 63 ∧ t.entries[index]? = some field
  | .staticIndexed index, field => staticTable[index]? = some field
  | .dynamicNameRef index value, field =>
    index < 2 ^ 63 ∧ ∃ entry, t.entries[index]? = some entry ∧ field = ⟨entry.name, value⟩
  | .staticNameRef index value, field => ∃ entry, staticTable[index]? = some entry ∧ field = ⟨entry.name, value⟩
  | .literal name value, field => field = ⟨name, value⟩

variable {entry : HeaderField}

theorem static_index_small (found : staticTable[index]? = some entry) : index < 2 ^ 63 := by
  obtain ⟨inside, -⟩ := List.getElem?_eq_some_iff.mp found
  exact inside.trans_le (by decide)

theorem lookup_eq {t : DynamicTable} (found : t.entries[index]? = some entry) (s : σ) :
    t.lookup index s = .ok entry s := by
  rw [DynamicTable.lookup, found]
  rfl

theorem staticEntry_eq (found : staticTable[index]? = some entry) (s : σ) : staticEntry index s = .ok entry s := by
  rw [staticEntry, found]
  rfl

theorem encodeStringToBuf4_head (text : Bytes) :
    ∃ low tail, low < 2 ^ 4 ∧ encodeStringToBuf4 text = UInt8.ofNat (0x20 + low) :: tail := by
  simp only [encodeStringToBuf4, encodeString]
  split_ifs with short shorter
  · exact ⟨2 ^ 3 + (huffmanCoded text).length, huffmanCoded text, by omega, by rw [add_assoc]⟩
  · exact ⟨text.length, _, by omega, rfl⟩
  · exact ⟨7, _, by decide, rfl⟩

variable {t : DynamicTable} {data rest : Bytes} {pos : Nat} {s u : Scratch} {field : HeaderField} {index : Nat}

theorem decodeDynamicFieldLine_indexed (isStatic : Bool) (small : index < 2 ^ 63)
    (here : data.drop pos = encodeInteger (0x80 + if isStatic then 0x40 else 0x00) 6 index ++ rest)
    (found : referencedEntry isStatic index t s = .ok field s) :
    decodeDynamicFieldLine decodeToScratch t data pos s =
      .ok (field, pos + (encodeInteger (0x80 + if isStatic then 0x40 else 0x00) 6 index).length) s := by
  have above : 2 ^ 6 ∣ 0x80 + if isStatic then 0x40 else 0x00 := by cases isStatic <;> decide
  have byte : (0x80 + if isStatic then 0x40 else 0x00) + 2 ^ 6 ≤ 256 := by cases isStatic <;> decide
  obtain ⟨first, read, flags⟩ := byteAt_encodeInteger (s := s) above byte here
  have bit7 : first.toNat.testBit 7 = true := (flags 7 (by decide)).trans (by cases isStatic <;> decide)
  have bit6 : first.toNat.testBit 6 = isStatic := (flags 6 (by decide)).trans (by cases isStatic <;> decide)
  rw [decodeDynamicFieldLine, run_bind_ok read, if_pos bit7, run_bind_ok (decodeInteger_encode above byte small here),
    bit6, run_bind_ok found]
  rfl

theorem decodeDynamicFieldLine_nameRef (isStatic : Bool) {value : Bytes} (small : index < 2 ^ 63)
    (here : data.drop pos =
      encodeInteger (0x40 + if isStatic then 0x10 else 0x00) 4 index ++ encodeStringToBuf value ++ rest)
    (found : referencedEntry isStatic index t s = .ok entry s) (back : ReadsBack 0x00 7 data
      (pos + (encodeInteger (0x40 + if isStatic then 0x10 else 0x00) 4 index).length) value s u) :
    decodeDynamicFieldLine decodeToScratch t data pos s = .ok (⟨entry.name, value⟩, pos +
      (encodeInteger (0x40 + if isStatic then 0x10 else 0x00) 4 index ++ encodeStringToBuf value).length) u := by
  have above : 2 ^ 4 ∣ 0x40 + if isStatic then 0x10 else 0x00 := by cases isStatic <;> decide
  have byte : (0x40 + if isStatic then 0x10 else 0x00) + 2 ^ 4 ≤ 256 := by cases isStatic <;> decide
  rw [append_assoc] at here
  obtain ⟨first, read, flags⟩ := byteAt_encodeInteger (s := s) above byte here
  have bit7 : first.toNat.testBit 7 = false := (flags 7 (by decide)).trans (by cases isStatic <;> decide)
  have bit6 : first.toNat.testBit 6 = true := (flags 6 (by decide)).trans (by cases isStatic <;> decide)
  have bit4 : first.toNat.testBit 4 = isStatic := (flags 4 (by decide)).trans (by cases isStatic <;> decide)
  rw [decodeDynamicFieldLine, run_bind_ok read, bit7, if_neg Bool.false_ne_true, if_pos bit6,
    run_bind_ok (decodeInteger_encode above byte small here), bit4, run_bind_ok found, decodeString,
    run_bind_ok back, length_append, ← add_assoc]
  rfl

variable (rep : FieldRepresentation)

theorem decodeDynamicFieldLine_encode
    (here : data.drop pos = encodeFieldRepresentation rep ++ rest) (denotes : rep.Denotes t field)
    (back : rep.ReadsBack data pos s u) : decodeDynamicFieldLine decodeToScratch t data pos s =
      .ok (field, pos + (encodeFieldRepresentation rep).length) u := by
  cases rep with
  | dynamicIndexed index =>
    obtain ⟨small, found⟩ := denotes
    obtain rfl : u = s := back
    exact decodeDynamicFieldLine_indexed false small here (lookup_eq found u)
  | staticIndexed index =>
    obtain rfl : u = s := back
    exact decodeDynamicFieldLine_indexed true (static_index_small denotes) here (staticEntry_eq denotes u)
  | dynamicNameRef index value =>
    obtain ⟨small, named, found, rfl⟩ := denotes
    exact decodeDynamicFieldLine_nameRef false small here (lookup_eq found s) back
  | staticNameRef index value =>
    obtain ⟨named, found, rfl⟩ := denotes
    exact decodeDynamicFieldLine_nameRef true (static_index_small found) here (staticEntry_eq found s) back
  | literal name value =>
    obtain rfl : field = ⟨name, value⟩ := denotes
    obtain ⟨mid, name_back, value_back⟩ := back
    obtain ⟨low, tail, fits, written⟩ := encodeStringToBuf4_head name
    have flags : ∀ j, 4 ≤ j → (UInt8.ofNat (0x20 + low)).toNat.testBit j = (0x20).testBit j := fun j high => by
      rw [toNat_ofNat (by omega), testBit_flags (by decide) fits high]
    rw [encodeFieldRepresentation, append_assoc, written, cons_append] at here
    rw [decodeDynamicFieldLine, run_bind_ok (byteAt_eq here), flags 7 (by decide), if_neg (by decide),
      flags 6 (by decide), if_neg (by decide), flags 5 (by decide), if_pos (by decide), decodeString4,
      run_bind_ok name_back, decodeString]
    refine (run_bind_ok value_back _).trans ?_
    rw [encodeFieldRepresentation, length_append, ← add_assoc]
    rfl

inductive LinesReadBack (data : Bytes) : Nat → List FieldRepresentation → Scratch → Scratch → Prop
  | nil {pos : Nat} {s : Scratch} : LinesReadBack data pos [] s s
  | cons {pos : Nat} {rep : FieldRepresentation} {reps : List FieldRepresentation} {s mid u : Scratch} :
    rep.ReadsBack data pos s mid → LinesReadBack data (pos + (encodeFieldRepresentation rep).length) reps mid u →
    LinesReadBack data pos (rep :: reps) s u

theorem encodeInteger_ne_nil (flags bits value : Nat) : encodeInteger flags bits value ≠ [] := by
  unfold encodeInteger
  split_ifs <;> exact cons_ne_nil _ _

theorem encodeFieldRepresentation_pos : 0 < (encodeFieldRepresentation rep).length := by
  refine length_pos_iff.mpr ?_
  cases rep with
  | dynamicIndexed index | staticIndexed index => exact encodeInteger_ne_nil _ _ _
  | dynamicNameRef index value | staticNameRef index value =>
    exact append_ne_nil_of_left_ne_nil (encodeInteger_ne_nil _ _ _) _
  | literal name value =>
    obtain ⟨low, tail, -, written⟩ := encodeStringToBuf4_head name
    rw [encodeFieldRepresentation, written]
    exact cons_ne_nil _ _

variable {reps : List FieldRepresentation} {fields : List HeaderField}

theorem decodeDynamicFieldLines_encode
    (denotes : List.Forall₂ (FieldRepresentation.Denotes t) reps fields) {outLen rounds : Nat}
    {done : List HeaderField} (here : data.drop pos = reps.flatMap encodeFieldRepresentation)
    (back : LinesReadBack data pos reps s u) (room : done.length + fields.length ≤ outLen)
    (enough : (reps.flatMap encodeFieldRepresentation).length ≤ rounds) :
    decodeDynamicFieldLines decodeToScratch t data outLen rounds pos done s = .ok (done ++ fields) u := by
  induction denotes generalizing pos s rounds done with
  | nil =>
    cases back
    rw [append_nil]
    have ended : ¬ pos < data.length := not_lt.mpr (drop_eq_nil_iff.mp here)
    cases rounds with
    | zero => rfl
    | succ rounds => rw [decodeDynamicFieldLines, if_neg ended]; rfl
  | @cons rep field reps fields first rest ih =>
    rw [flatMap_cons] at here enough
    rw [length_append] at enough
    rw [length_cons] at room
    have some_byte := encodeFieldRepresentation_pos rep
    obtain ⟨rounds, rfl⟩ : ∃ n, rounds = n + 1 := ⟨rounds - 1, by omega⟩
    cases back with
    | cons rep_back rest_back =>
    have inside : pos < data.length := by
      by_contra past
      rw [drop_of_length_le (by omega)] at here
      have sizes := congrArg length here
      rw [length_append, length_nil] at sizes
      omega
    have line := decodeDynamicFieldLine_encode rep here first rep_back
    have room_left : (done ++ [field]).length + fields.length ≤ outLen := by
      rw [length_append, length_singleton]
      omega
    have enough_left : (reps.flatMap encodeFieldRepresentation).length ≤ rounds := by omega
    have next := ih (drop_append here) rest_back room_left enough_left
    rw [append_assoc, singleton_append] at next
    rw [decodeDynamicFieldLines, if_pos inside, run_bind_ok line,
      run_bind_ok (run_failIf (show ¬ done.length ≥ outLen by omega) _)]
    split_ifs with full
    · -- the output is full, so this was the last field
      have last : fields = [] := by
        rw [length_append, length_singleton] at full
        exact length_eq_zero_iff.mp (by omega)
      subst last
      cases rest
      cases rest_back
      rfl
    · exact next

theorem decodeHeaderBlockWithDynamicInfo_head {lines : Bytes} {required : Nat} (outLen : Nat)
    (block : data = encodeInteger 0 8 required ++ [0x00] ++ lines) (small : required < 2 ^ 63) :
    decodeHeaderBlockWithDynamicInfo decodeToScratch t data outLen s =
      (failIf (required > t.insertCount) (.error .blockedByQpack) >>= fun _ => do
        let fields ← decodeDynamicFieldLines decodeToScratch t data outLen data.length
          ((encodeInteger 0 8 required).length + 1) []
        return (fields, required)) s := by
  have count := length_pos_iff.mpr (encodeInteger_ne_nil 0 8 required)
  have size : data.length = (encodeInteger 0 8 required).length + 1 + lines.length := by
    rw [block]
    simp only [length_append, length_singleton]
  have start : data.drop 0 = encodeInteger 0 8 required ++ ([0x00] ++ lines) := by
    rw [drop_zero, block, append_assoc]
  have base : data.drop (0 + (encodeInteger 0 8 required).length) = encodeInteger 0 7 0 ++ lines :=
    drop_append start
  rw [zero_add] at base
  rw [decodeHeaderBlockWithDynamicInfo, run_bind_ok (run_failIf (by omega) _),
    run_bind_ok (decodeInteger_encode (by decide) (by decide) small start)]
  simp only [zero_add]
  rw [run_bind_ok (run_failIf (by omega) _),
    run_bind_ok (decodeInteger_encode (by decide) (by decide) (by decide) base)]
  rfl

theorem decodeHeaderBlockWithDynamicInfo_encode
    {required outLen : Nat} (denotes : List.Forall₂ (FieldRepresentation.Denotes t) reps fields)
    (block : data = encodeInteger 0 8 required ++ [0x00] ++ reps.flatMap encodeFieldRepresentation)
    (small : required < 2 ^ 63) (ready : required ≤ t.insertCount)
    (back : LinesReadBack data ((encodeInteger 0 8 required).length + 1) reps s u) (room : fields.length ≤ outLen) :
    decodeHeaderBlockWithDynamicInfo decodeToScratch t data outLen s = .ok (fields, required) u := by
  have lines : data.drop ((encodeInteger 0 8 required).length + 1) = reps.flatMap encodeFieldRepresentation := by
    rw [block]
    exact drop_left' (by simp)
  have size := congrArg length lines
  rw [length_drop] at size
  rw [decodeHeaderBlockWithDynamicInfo_head outLen block small, run_bind_ok (run_failIf (not_lt.mpr ready) _)]
  refine (run_bind_ok (decodeDynamicFieldLines_encode denotes lines back ?_ (by omega)) _).trans rfl
  rwa [length_nil, zero_add]

theorem decodeHeaderBlockWithDynamicInfo_blocked {lines : Bytes} {required : Nat} (outLen : Nat)
    (block : data = encodeInteger 0 8 required ++ [0x00] ++ lines) (small : required < 2 ^ 63)
    (early : t.insertCount < required) :
    decodeHeaderBlockWithDynamicInfo decodeToScratch t data outLen s = .error (.error .blockedByQpack) s := by
  rw [decodeHeaderBlockWithDynamicInfo_head outLen block small, run_bind_error (run_failIf_yes early _)]

def EncoderInstruction.ReadsBack (data : Bytes) : EncoderInstruction → Scratch → Scratch → Prop
  | .insertNameRef isStatic nameIndex value, s, t =>
    H3.ReadsBack 0x00 7 data (encodeInteger (0x80 + if isStatic then 0x40 else 0x00) 6 nameIndex).length value s t
  | .insertLiteral name value, s, t =>
    H3.ReadsBack 0x00 7 data ((encodeInteger 0x40 5 name.length).length + name.length) value s t
  | .setCapacity _, s, t => t = s
  | .duplicate _, s, t => t = s

def EncoderInstruction.Small : EncoderInstruction → Prop
  | .insertNameRef _ nameIndex _ => nameIndex < 2 ^ 63
  | .insertLiteral name _ => name.length < 2 ^ 63
  | .setCapacity capacity => capacity < 2 ^ 63
  | .duplicate index => index < 2 ^ 63

variable (i : EncoderInstruction)

theorem encodeEncoderInstruction_pos : 0 < (encodeEncoderInstruction i).length := by
  refine length_pos_iff.mpr ?_
  cases i with
  | insertNameRef isStatic nameIndex value =>
    exact append_ne_nil_of_left_ne_nil (encodeInteger_ne_nil _ _ _) _
  | insertLiteral name value =>
    rw [encodeEncoderInstruction, append_assoc]
    exact append_ne_nil_of_left_ne_nil (encodeInteger_ne_nil _ _ _) _
  | setCapacity capacity | duplicate index => exact encodeInteger_ne_nil _ _ _

theorem decodeEncoderInstruction_encode
    (here : data = encodeEncoderInstruction i ++ rest) (small : i.Small) (slice : data.length ≤ maxU64)
    (back : i.ReadsBack data s u) :
    decodeEncoderInstruction decodeToScratch data s = .ok (i, (encodeEncoderInstruction i).length) u := by
  have start : data.drop 0 = encodeEncoderInstruction i ++ rest := here
  have filled : ¬ data.length = 0 := by
    rw [here, length_append]
    have some_byte := encodeEncoderInstruction_pos i
    omega
  rw [decodeEncoderInstruction, run_bind_ok (run_failIf filled _)]
  cases i with
  | insertNameRef isStatic nameIndex value =>
    rw [encodeEncoderInstruction, append_assoc] at start
    have above : 2 ^ 6 ∣ 0x80 + if isStatic then 0x40 else 0x00 := by cases isStatic <;> decide
    have byte : (0x80 + if isStatic then 0x40 else 0x00) + 2 ^ 6 ≤ 256 := by cases isStatic <;> decide
    obtain ⟨first, read, flags⟩ := byteAt_encodeInteger (s := s) above byte start
    have bit7 : first.toNat.testBit 7 = true := (flags 7 (by decide)).trans (by cases isStatic <;> decide)
    have bit6 : first.toNat.testBit 6 = isStatic := (flags 6 (by decide)).trans (by cases isStatic <;> decide)
    rw [run_bind_ok read, if_pos bit7, run_bind_ok (decodeInteger_encode above byte small start), bit6]
    simp only [zero_add]
    rw [decodeString, run_bind_ok back, encodeEncoderInstruction, length_append]
    rfl
  | insertLiteral name value =>
    rw [encodeEncoderInstruction, append_assoc, append_assoc] at start
    obtain ⟨first, read, flags⟩ := byteAt_encodeInteger (s := s) (by decide) (by decide) start
    have name_at := drop_append start
    rw [zero_add] at name_at
    have within : (encodeInteger 0x40 5 name.length).length + name.length ≤ data.length := by
      rw [here, encodeEncoderInstruction]
      simp only [length_append]
      omega
    have stop : sumU64 (encodeInteger 0x40 5 name.length).length name.length s =
        .ok ((encodeInteger 0x40 5 name.length).length + name.length) s := by
      rw [sumU64, addU64, if_pos (within.trans slice)]
      rfl
    rw [run_bind_ok read, flags 7 (by decide), if_neg (by decide), flags 6 (by decide), if_pos (by decide),
      flags 5 (by decide), run_bind_ok (run_failIf (by decide) _), run_bind_ok (decodeInteger_encode (by decide) (by decide) small start)]
    simp only [zero_add]
    rw [run_bind_ok stop, run_bind_ok (run_failIf (not_lt.mpr within) _), decodeString, run_bind_ok back,
      name_at, take_left, encodeEncoderInstruction, length_append, length_append]
    rfl
  | setCapacity capacity =>
    obtain rfl : u = s := back
    obtain ⟨first, read, flags⟩ := byteAt_encodeInteger (s := u) (by decide) (by decide) start
    rw [run_bind_ok read, flags 7 (by decide), if_neg (by decide), flags 6 (by decide), if_neg (by decide),
      flags 5 (by decide), if_pos (by decide), run_bind_ok (decodeInteger_encode (by decide) (by decide) small start), zero_add]
    rfl
  | duplicate index =>
    obtain rfl : u = s := back
    obtain ⟨first, read, flags⟩ := byteAt_encodeInteger (s := u) (by decide) (by decide) start
    rw [run_bind_ok read, flags 7 (by decide), if_neg (by decide), flags 6 (by decide), if_neg (by decide),
      flags 5 (by decide), if_neg (by decide), run_bind_ok (decodeInteger_encode (by decide) (by decide) small start), zero_add]
    rfl

end Quicz.H3
