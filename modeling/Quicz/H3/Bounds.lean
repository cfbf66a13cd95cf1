import Quicz.H3.HeaderBlock
import Quicz.H3.HuffmanCode
import Mathlib.Tactic.Linarith

/-! The readers of qpack.zig stay inside their input: what they return lies in it, numbers fit
their registers, and they fail with an error only. -/
namespace Quicz.H3

open Proc

variable {σ : Type} {E : Failure → σ → Prop} {s : σ}

@[simp] theorem wp_sumU64 {Q : Nat → σ → Prop} (a b : Nat) : wp (sumU64 a b) Q E s ↔
      (a + b ≤ maxU64 → Q (a + b) s) ∧ (¬ a + b ≤ maxU64 → E (.panic .integerOverflow) s) := by
  unfold sumU64 addU64
  split_ifs with fits <;> simp [fits]

theorem wp_byteAt {Q : UInt8 → σ → Prop} {pos : Nat} (inside : pos < data.length) :
    wp (byteAt data pos) Q E s ↔ Q data[pos] s := by
  simp [byteAt, List.getElem?_eq_getElem inside]

theorem or_shiftLeft_lt {result shift : Nat} (low : result < 2 ^ shift) (byte : UInt8) :
    (result ||| (byte.toNat % 128) <<< shift) < 2 ^ (shift + 7) := by
  refine Nat.or_lt_two_pow (low.trans_le (Nat.pow_le_pow_right (by decide) (by omega))) ?_
  have digit : byte.toNat % 128 < 2 ^ 7 := Nat.mod_lt _ (by decide)
  calc (byte.toNat % 128) <<< shift = byte.toNat % 128 * 2 ^ shift := Nat.shiftLeft_eq ..
    _ < 2 ^ 7 * 2 ^ shift := Nat.mul_lt_mul_of_pos_right digit (Nat.two_pow_pos shift)
    _ = 2 ^ (shift + 7) := by rw [Nat.pow_add, Nat.mul_comm]

theorem decodeVarintLoop_bounds (rest : Bytes) {p result shift : Nat} (low : result < 2 ^ shift)
    (septets : shift % 7 = 0) (shifts : shift ≤ 56) : wp (decodeVarintLoop rest p result shift)
      (fun r t => t = s ∧ r.1 < 2 ^ 63 ∧ p < r.2 ∧ r.2 ≤ p + rest.length) (fun e t => t = s ∧ ¬ e.IsPanic) s := by
  induction rest generalizing p result shift with
  | nil => exact ⟨rfl, id⟩
  | cons byte rest ih =>
    have grown := or_shiftLeft_lt low byte
    simp only [decodeVarintLoop, wp_ite, wp_pure, wp_throw, List.length_cons]
    refine ⟨fun _ => ⟨trivial, ?_, by omega, by omega⟩, fun _ => ⟨fun _ => ⟨trivial, id⟩, fun more => ?_⟩⟩
    · exact grown.trans_le (Nat.pow_le_pow_right (by decide) (by omega))
    · refine wp_mono (ih grown (by omega) (by omega)) (fun r t h => ?_)
      exact ⟨h.1, h.2.1, by omega, by omega⟩

theorem decodeInteger_bounds {bits pos : Nat} (narrow : bits ≤ 8) (inside : pos < data.length) :
    wp (decodeInteger bits data pos) (fun r t => t = s ∧ r.1 < 2 ^ 63 + 2 ^ 8 ∧ pos < r.2 ∧ r.2 ≤ data.length)
      (fun e t => t = s ∧ ¬ e.IsPanic) s := by
  have width : 2 ^ bits ≤ 2 ^ 8 := Nat.pow_le_pow_right (by decide) narrow
  have top : maxU64 = 2 ^ 64 - 1 := rfl
  simp only [decodeInteger, wp_bind, wp_byteAt inside, wp_ite, wp_pure]
  refine ⟨fun _ => ?_, fun _ => ⟨trivial, ?_, by omega, inside⟩⟩
  · refine wp_mono (decodeVarintLoop_bounds (data.drop (pos + 1)) Nat.zero_lt_one (by decide) (by decide)) ?_
    rintro r t ⟨rfl, small, past, within⟩
    rw [List.length_drop] at within
    simp only [wp_sumU64]
    exact ⟨fun _ => ⟨trivial, by omega, by omega, by omega⟩, fun large => absurd large (by omega)⟩
  · have low : data[pos].toNat % 2 ^ bits < 2 ^ bits := Nat.mod_lt _ (Nat.two_pow_pos bits)
    omega

def maxSlice : Nat := 2 ^ 62

variable {I : σ → Prop} {unhuffman : Bytes → EStateM Failure σ Bytes} {data : Bytes}

theorem decodeStringWith_bounds (quiet : ∀ raw s, I s → wp (unhuffman raw) (fun _ t => I t) E s)
    (errs : ∀ e t, I t → ¬ e.IsPanic → E e t) {bits : Nat} (narrow : bits ≤ 8)
    (slice : data.length < maxSlice ∨ ∀ e t, E e t) (held : I s) (start : Nat) :
    wp (decodeStringWith unhuffman bits data start) (fun r t => I t ∧ start < r.2 ∧ r.2 ≤ data.length) E s := by
  rw [decodeStringWith, wp_failIf_bind]
  refine ⟨fun _ => errs _ s held id, fun inside => ?_⟩
  rw [wp_bind, wp_byteAt (by omega), wp_bind]
  refine wp_mono (decodeInteger_bounds narrow (by omega)) ?_ (by rintro e t ⟨rfl, h⟩; exact errs e t held h)
  rintro len t ⟨rfl, small, past, within⟩
  have top : maxU64 = 2 ^ 64 - 1 := rfl
  have widest : maxSlice = 2 ^ 62 := rfl
  simp only [wp_bind, wp_sumU64, wp_failIf, wp_ite, wp_pure]
  refine ⟨fun _ => ⟨fun _ => errs _ t held id, fun ends => ⟨fun _ => ?_, fun _ => ⟨held, by omega, by omega⟩⟩⟩,
    fun large => slice.elim (fun slice => absurd large (by omega)) fun any => any _ t⟩
  exact wp_mono (quiet _ t held) (fun _ _ h => ⟨h, by omega, by omega⟩)

def Scratch.Valid (s : Scratch) : Prop := s.pos ≤ s.buf.length

theorem Scratch.fresh_valid : Scratch.fresh.Valid := Nat.zero_le _

theorem length_overwrite {buf written : Bytes} {pos : Nat} (fits : pos + written.length ≤ buf.length) :
    (overwrite buf pos written).length = buf.length := by
  simp only [overwrite, List.length_append, List.length_take, List.length_drop]
  omega

theorem decodeToScratch_eq {s : Scratch} (valid : s.Valid) (raw : Bytes) : decodeToScratch raw s =
      match Huffman.decode (s.buf.length - s.pos) raw {} with
      | .ok _ w => .ok w.written
        { buf := overwrite s.buf s.pos w.written, pos := s.pos + w.written.length,
          handed := s.handed ++ [(s.pos, w.written)] }
      | .error e w => .error e { s with buf := overwrite s.buf s.pos w.written } :=
  if_neg (Nat.not_lt.mpr valid)

theorem decodeToScratch_quiet (raw : Bytes) (s : Scratch) (valid : s.Valid) :
    wp (decodeToScratch raw) (fun _ t => t.Valid) (fun e t => t.Valid ∧ ¬ e.IsPanic) s := by
  have bounds := Huffman.decode_bounds (s.buf.length - s.pos) raw
  have inside : s.pos ≤ s.buf.length := valid
  rw [wp, decodeToScratch_eq valid]
  rw [wp] at bounds
  cases run : Huffman.decode (s.buf.length - s.pos) raw {} with
  | ok _ w =>
    rw [run] at bounds
    have room : s.pos + w.written.length ≤ s.buf.length := by omega
    simpa [Scratch.Valid, length_overwrite room] using room
  | error e w =>
    rw [run] at bounds
    have room : s.pos + w.written.length ≤ s.buf.length := by omega
    exact ⟨by simpa [Scratch.Valid, length_overwrite room] using inside, bounds.2⟩

end Quicz.H3
