import Quicz.H3.Bounds

/-! The two readers of header blocks: one knows the static table only, the other has the dynamic table
at hand. On a block without dynamic references they read the same lines, and differ in when they stop. -/
namespace Quicz.H3

open Proc List Scratch

variable {σ : Type} {unhuffman : Bytes → EStateM Failure σ Bytes} {data : Bytes} {pos outLen : Nat} {s u : σ}

theorem decodeFieldLine_advances (inside : pos < data.length) :
    wp (decodeFieldLine unhuffman data pos) (fun r _ => pos < r.2) (fun _ _ => True) s := by
  have string : ∀ {bits start : Nat} {t : σ}, bits ≤ 8 → wp (decodeStringWith unhuffman bits data start)
      (fun r _ => True ∧ start < r.2 ∧ r.2 ≤ data.length) (fun _ _ => True) t := fun narrow =>
    decodeStringWith_bounds (fun raw t _ => wp_mono (wp_self (unhuffman raw) t) (fun _ _ _ => trivial) fun _ _ _ => trivial)
      (fun _ _ _ _ => trivial) narrow (.inr fun _ _ => trivial) trivial _
  have value : ∀ {start : Nat} {t : σ}, pos < start → wp (decodeString unhuffman data start)
      (fun r _ => pos < r.2) (fun _ _ => True) t := fun past =>
    wp_mono (string (by decide)) (fun _ _ h => past.trans h.2.1)
  simp only [decodeFieldLine, staticEntry, wp_bind, wp_byteAt inside, wp_ite, wp_failIf, wp_orThrow, wp_pure, wp_throw,
    implies_true, true_and, and_true]
  refine ⟨fun _ => ?_, fun _ => ⟨fun _ => ?_, fun _ _ => ?_⟩⟩
  · exact wp_mono (decodeInteger_bounds (by decide) inside) (fun _ _ h _ _ _ => h.2.2.1) fun _ _ _ => trivial
  · exact wp_mono (decodeInteger_bounds (by decide) inside) (fun _ _ h _ _ _ => value h.2.2.1) fun _ _ _ => trivial
  · exact wp_mono (string (by decide)) (fun _ _ h => value h.2.1)

/-- Up to `n` field lines, read one after the other, and the position after them. -/
def readLines (line : Nat → EStateM Failure σ (HeaderField × Nat)) (size : Nat) :
    Nat → Nat → EStateM Failure σ (List HeaderField × Nat)
  | 0, pos => pure ([], pos)
  | n + 1, pos =>
    if pos < size then do
      let first ← line pos
      let rest ← readLines line size n first.2
      return (first.1 :: rest.1, rest.2)
    else pure ([], pos)

variable {acc : List HeaderField}

theorem readLines_past {line : Nat → EStateM Failure σ (HeaderField × Nat)} {size : Nat} (past : size ≤ pos) (n : Nat) :
    readLines line size n pos = pure ([], pos) := by
  cases n with
  | zero => rfl
  | succ n => exact if_neg (Nat.not_lt.mpr past)

theorem decodeFieldLines_eq (rounds n : Nat) (enough : data.length ≤ pos + rounds) (room : acc.length + n = outLen) :
    decodeFieldLines unhuffman data outLen rounds pos acc s = (do
      let r ← readLines (decodeFieldLine unhuffman data) data.length n pos
      failIf (r.2 < data.length) (.error .tooManyFields)
      pure (acc ++ r.1)) s := by
  induction rounds generalizing n pos acc s with
  | zero =>
    rw [readLines_past (by omega), pure_bind, run_bind_ok (run_failIf (by simp only; omega) _), append_nil]
    rfl
  | succ rounds ih =>
    rw [decodeFieldLines]
    split_ifs with inside
    · cases n with
      | zero => rw [readLines, pure_bind, run_bind_error (run_failIf_yes (by omega) _),
          run_bind_error (run_failIf_yes inside _)]
      | succ n =>
        rw [readLines, if_pos inside, run_bind_ok (run_failIf (by omega) _)]
        simp only [bind_assoc, pure_bind]
        cases line : decodeFieldLine unhuffman data pos s with
        | error e t => rw [run_bind_error line, run_bind_error line]
        | ok r t =>
          have past := wp_returns line (decodeFieldLine_advances inside)
          rw [run_bind_ok line, run_bind_ok line]
          refine (ih n (by omega) (by simp; omega)).trans ?_
          simp only [append_assoc, singleton_append]
    · rw [readLines_past (by omega), pure_bind, run_bind_ok (run_failIf (by simp only; omega) _), append_nil]

def refersToDynamic (first : UInt8) : Bool :=
  if first.toNat.testBit 7 then !first.toNat.testBit 6 else first.toNat.testBit 6 && !first.toNat.testBit 4

/-- No line from the position on refers to the dynamic table. -/
def StaticOnly (unhuffman : Bytes → EStateM Failure σ Bytes) (data : Bytes) (pos : Nat) (s : σ) : Prop :=
  ∀ n r u, readLines (decodeFieldLine unhuffman data) data.length n pos s = .ok r u →
    ∀ first ∈ data[r.2]?, refersToDynamic first = false

theorem StaticOnly.of_bytes (all : data.any refersToDynamic = false) : StaticOnly unhuffman data pos s :=
  fun _ _ _ _ first found => Bool.eq_false_iff.mpr (any_eq_false.mp all first (mem_of_getElem? found))

variable (t : DynamicTable)

theorem decodeDynamicFieldLine_static (inside : pos < data.length)
    (static : StaticOnly unhuffman data pos s) (r : HeaderField × Nat) :
    decodeDynamicFieldLine unhuffman t data pos s = .ok r u ↔ decodeFieldLine unhuffman data pos s = .ok r u := by
  have found : data[pos]? = some data[pos] := getElem?_eq_getElem inside
  have first : byteAt data pos s = .ok data[pos] s := by rw [byteAt, found]; rfl
  have own := static 0 _ _ rfl _ found
  rw [decodeDynamicFieldLine, decodeFieldLine, run_bind_ok first, run_bind_ok first]
  split_ifs with seven six five
  · have six : data[pos].toNat.testBit 6 = true := by simpa [refersToDynamic, seven] using own
    simp [six, referencedEntry, failIf]
  · have four : data[pos].toNat.testBit 4 = true := by simpa [refersToDynamic, seven, six] using own
    simp [four, referencedEntry, failIf]
  · rfl
  · exact ⟨by rintro ⟨⟩, by rintro ⟨⟩⟩

theorem decodeDynamicFieldLines_ok (rounds n : Nat) (enough : data.length ≤ pos + rounds)
    {acc out : List HeaderField} (room : acc.length + (n + 1) = outLen) (static : StaticOnly unhuffman data pos s) :
    decodeDynamicFieldLines unhuffman t data outLen rounds pos acc s = .ok out u ↔ (do
      let r ← readLines (decodeFieldLine unhuffman data) data.length (n + 1) pos
      pure (acc ++ r.1)) s = .ok out u := by
  induction rounds generalizing n pos acc s with
  | zero =>
    rw [readLines_past (by omega), pure_bind, append_nil]
    rfl
  | succ rounds ih =>
    rw [decodeDynamicFieldLines]
    split_ifs with inside
    · rw [readLines, if_pos inside]
      simp only [bind_assoc, pure_bind]
      cases line : decodeFieldLine unhuffman data pos s with
      | error e v =>
        rw [run_bind_error line]
        cases own : decodeDynamicFieldLine unhuffman t data pos s with
        | error e v => rw [run_bind_error own]; exact ⟨nofun, nofun⟩
        | ok r v => cases line.symm.trans ((decodeDynamicFieldLine_static t inside static r).mp own)
      | ok r v =>
        have past := wp_returns line (decodeFieldLine_advances inside)
        rw [run_bind_ok line, run_bind_ok ((decodeDynamicFieldLine_static t inside static r).mpr line),
          run_bind_ok (run_failIf (by omega) _)]
        cases n with
        | zero => rw [if_pos (by simp; omega), readLines, pure_bind]
        | succ n =>
          rw [if_neg (by simp; omega)]
          refine (ih n (by omega) (by simp; omega) fun m rest u read => ?_).trans ?_
          · refine static (m + 1) (r.1 :: rest.1, rest.2) u ?_
            rw [readLines, if_pos inside, run_bind_ok line, run_bind_ok read]
            rfl
          · simp only [append_assoc, singleton_append]
    · rw [readLines_past (by omega), pure_bind, append_nil]

theorem run_bind_iff {α β : Type} {m : EStateM Failure σ α} {f : α → EStateM Failure σ β} {b : β} :
    (m >>= f) s = .ok b u ↔ ∃ a t, m s = .ok a t ∧ f a t = .ok b u := by
  cases run : m s with
  | ok a t => simp [run_bind_ok run]
  | error e t => simp [run_bind_error run]

/-- Both readers give the same fields or neither gives any, and the fields given are those of all lines. -/
def ReadersAgree (unhuffman : Bytes → EStateM Failure σ Bytes) (t : DynamicTable) (data : Bytes) (outLen : Nat)
    (s : σ) : Prop :=
  ∀ fields, ((∃ u, decodeHeaderBlock unhuffman data outLen s = .ok fields u) ↔
      ∃ u, decodeHeaderBlockWithDynamicInfo unhuffman t data outLen s = .ok (fields, 0) u) ∧
    ∀ u, decodeHeaderBlockWithDynamicInfo unhuffman t data outLen s = .ok (fields, 0) u →
      ∃ n stop, readLines (decodeFieldLine unhuffman data) data.length n 2 s = .ok (fields, stop) u ∧ data.length ≤ stop

theorem decodeInteger_small {bits : Nat} {first : UInt8} (found : data[pos]? = some first)
    (small : first.toNat % 2 ^ bits ≠ 2 ^ bits - 1) :
    decodeInteger bits data pos s = .ok (first.toNat % 2 ^ bits, pos + 1) s := by
  have here : byteAt data pos s = .ok first s := by rw [byteAt, found]; rfl
  rw [decodeInteger, run_bind_ok here, if_neg small]
  rfl

variable {fields : List HeaderField}

theorem decodeHeaderBlock_ok (whole : 2 ≤ data.length) : decodeHeaderBlock unhuffman data outLen s = .ok fields u ↔
      ∃ stop, readLines (decodeFieldLine unhuffman data) data.length outLen 2 s = .ok (fields, stop) u ∧
        data.length ≤ stop := by
  rw [decodeHeaderBlock, run_bind_ok (run_failIf (by omega) _), decodeFieldLines_eq _ outLen (by omega) (Nat.zero_add _),
    run_bind_iff]
  constructor
  · rintro ⟨r, v, read, run⟩
    by_cases left : r.2 < data.length
    · cases (run_bind_error (run_failIf_yes left _) _).symm.trans run
    · cases (run_bind_ok (run_failIf left _) _).symm.trans run
      exact ⟨r.2, read, Nat.not_lt.mp left⟩
  · rintro ⟨stop, read, past⟩
    exact ⟨_, _, read, run_bind_ok (run_failIf (Nat.not_lt.mpr past) _) _⟩

theorem decodeHeaderBlockWithDynamicInfo_lines (whole : 2 ≤ data.length) (zero : data[0]? = some 0)
    (short : ∀ base ∈ data[1]?, base.toNat % 128 ≠ 127) :
    decodeHeaderBlockWithDynamicInfo unhuffman t data outLen s = .ok (fields, 0) u ↔
      decodeDynamicFieldLines unhuffman t data outLen data.length 2 [] s = .ok fields u := by
  have base : data[1]? = some data[1] := getElem?_eq_getElem whole
  have required : decodeInteger 8 data 0 s = .ok (0, 1) s := decodeInteger_small zero (by decide)
  rw [decodeHeaderBlockWithDynamicInfo, run_bind_ok (run_failIf (by omega) _), run_bind_ok required,
    run_bind_ok (run_failIf (by simp only; omega) _), run_bind_ok (decodeInteger_small base (short _ base)),
    run_bind_ok (run_failIf (Nat.not_lt_zero _) _), run_bind_iff]
  constructor
  · rintro ⟨_, _, read, ⟨⟩⟩
    exact read
  · exact fun read => ⟨_, _, read, rfl⟩

/-- On a block without dynamic references, and with a Delta Base of one byte, the readers agree if and only if
the lines that fill the output are all of the block's. -/
theorem readers_agree_iff (t : DynamicTable) (static : StaticOnly unhuffman data 2 s) (zero : data[0]? = some 0)
    (short : ∀ base ∈ data[1]?, base.toNat % 128 ≠ 127) : ReadersAgree unhuffman t data outLen s ↔ outLen = 0 ∨
      ∀ r u, readLines (decodeFieldLine unhuffman data) data.length outLen 2 s = .ok r u → data.length ≤ r.2 := by
  by_cases whole : 2 ≤ data.length
  · simp only [ReadersAgree, decodeHeaderBlock_ok whole, decodeHeaderBlockWithDynamicInfo_lines t whole zero short]
    cases outLen with
    | zero =>
      -- nothing is read: either the block has no line, or both fail
      refine iff_of_true (fun fields => ?_) (.inl rfl)
      have none : ∀ u, decodeDynamicFieldLines unhuffman t data 0 data.length 2 [] s = .ok fields u ↔
          ∃ stop, readLines (decodeFieldLine unhuffman data) data.length 0 2 s = .ok (fields, stop) u ∧
            data.length ≤ stop := by
        intro u
        obtain ⟨rounds, size⟩ : ∃ rounds, data.length = rounds + 1 := ⟨data.length - 1, by omega⟩
        rw [size, decodeDynamicFieldLines, ← size, readLines]
        split_ifs with inside
        · refine iff_of_false (fun run => ?_) fun ⟨stop, read, past⟩ => ?_
          · obtain ⟨_, v, _, run⟩ := run_bind_iff.mp run
            cases (run_bind_error (run_failIf_yes (Nat.zero_le _) _) _).symm.trans run
          · cases read
            omega
        · exact ⟨fun run => by cases run; exact ⟨2, rfl, Nat.not_lt.mp inside⟩, fun ⟨_, read, _⟩ => by cases read; rfl⟩
      simp only [none]
      exact ⟨trivial, fun u ⟨stop, read⟩ => ⟨0, stop, read⟩⟩
    | succ n =>
      have lines : ∀ fields u, decodeDynamicFieldLines unhuffman t data (n + 1) data.length 2 [] s = .ok fields u ↔
          ∃ stop, readLines (decodeFieldLine unhuffman data) data.length (n + 1) 2 s = .ok (fields, stop) u := by
        intro fields u
        rw [decodeDynamicFieldLines_ok t _ n (Nat.le_add_left _ _) (Nat.zero_add _) static, run_bind_iff]
        constructor
        · rintro ⟨r, _, read, ⟨⟩⟩
          exact ⟨r.2, read⟩
        · exact fun ⟨stop, read⟩ => ⟨_, _, read, rfl⟩
      simp only [lines]
      constructor
      · intro agree
        refine .inr fun ⟨fields, place⟩ u read => ?_
        obtain ⟨v, stop, again, past⟩ := (agree fields).1.mpr ⟨u, place, read⟩
        cases read.symm.trans again
        exact past
      · intro all fields
        have all := all.resolve_left n.succ_ne_zero
        exact ⟨⟨fun ⟨u, stop, read, _⟩ => ⟨u, stop, read⟩, fun ⟨u, stop, read⟩ => ⟨u, stop, read, all _ u read⟩⟩,
          fun u ⟨stop, read⟩ => ⟨n + 1, stop, read, all _ u read⟩⟩
  · have refused : ∀ {α : Type} (f : Unit → EStateM Failure σ α) a u,
        (failIf (data.length < 2) (.error .invalidHeaderBlock) >>= f) s ≠ .ok a u := fun f a u run => by
      cases (run_bind_error (run_failIf_yes (Nat.not_le.mp whole) _) f).symm.trans run
    refine iff_of_true (fun fields => ⟨iff_of_false ?_ ?_, fun u run => (refused _ _ _ run).elim⟩) (.inr fun r u read => ?_)
    · exact fun ⟨u, run⟩ => refused _ _ _ run
    · exact fun ⟨u, run⟩ => refused _ _ _ run
    · rw [readLines_past (by omega)] at read
      cases read
      simp only
      omega

def pathLine : HeaderField := ⟨ascii ":path", ascii "/"⟩

theorem readers_agree_path : ReadersAgree decodeToScratch {} [0, 0, 0xc1] 1 Scratch.fresh := by
  refine (readers_agree_iff {} (.of_bytes rfl) rfl (by rintro _ ⟨⟩; decide)).mpr (.inr fun r u read => ?_)
  have line : readLines (decodeFieldLine decodeToScratch [0, 0, 0xc1]) 3 1 2 fresh = .ok ([pathLine], 3) fresh := rfl
  cases line.symm.trans read
  exact le_rfl

def Separates (block : Bytes) : Prop :=
  StaticOnly decodeToScratch block 2 fresh ∧ ¬ ReadersAgree decodeToScratch {} block 1 fresh

/-- A second line is dropped where the other reader refuses the block, and a Delta Base of two bytes is skipped by
one reader only. -/
theorem readers_disagree : Separates [0, 0, 0xc1, 0xc1] ∧ Separates [0, 0x7f, 0, 0xc1] := by
  have split : ∀ {block : Bytes} {e : Failure}, block.any refersToDynamic = false →
      decodeHeaderBlock decodeToScratch block 1 fresh = .error e fresh →
      decodeHeaderBlockWithDynamicInfo decodeToScratch {} block 1 fresh = .ok ([pathLine], 0) fresh →
      Separates block := by
    refine fun all fails succeeds => ⟨.of_bytes all, fun agree => ?_⟩
    obtain ⟨u, run⟩ := (agree _).1.mpr ⟨_, succeeds⟩
    cases fails.symm.trans run
  exact ⟨split rfl rfl rfl, split rfl rfl rfl⟩

end Quicz.H3
