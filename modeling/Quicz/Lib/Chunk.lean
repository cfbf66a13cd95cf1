import Mathlib.Algebra.GroupWithZero.Nat
import Mathlib.Data.Finset.Card
import Mathlib.Order.Interval.Finset.Nat
import Mathlib.Algebra.BigOperators.Group.List.Basic

/-! Runs of data placed at an offset of a byte sequence. A list of such runs is
read as the set of offsets it covers, and, relative to a sequence f, as a piece
of f. Nothing here depends on where the runs come from. -/
namespace Chunks

structure Chunk (α : Type*) where
  offset : Nat
  data : List α
deriving DecidableEq, Repr

variable {α : Type*}

def Chunk.stop (c : Chunk α) : Nat := c.offset + c.data.length

variable (f : Nat → α) {c : Chunk α}

theorem Chunk.offset_lt_stop (h : c.data ≠ []) : c.offset < c.stop := by
  have := List.length_pos_iff.mpr h
  unfold Chunk.stop
  omega

def Chunk.span (c : Chunk α) : Finset Nat := Finset.Ico c.offset c.stop

@[simp] theorem Chunk.mem_span {i : Nat} : i ∈ c.span ↔ c.offset ≤ i ∧ i < c.stop := Finset.mem_Ico

@[simp] theorem Chunk.card_span (c : Chunk α) : c.span.card = c.data.length := by
  simp [Chunk.span, Chunk.stop]

def slice (f : Nat → α) (a b : Nat) : List α := (List.range' a (b - a)).map f

@[simp] theorem slice_length (a b : Nat) : (slice f a b).length = b - a := by
  simp [slice]

@[simp] theorem slice_self (a : Nat) : slice f a a = [] := by simp [slice]

theorem slice_get (a b i : Nat) : (slice f a b)[i]? = if i < b - a then some (f (a + i)) else none := by
  unfold slice
  split <;> simp_all

theorem slice_append {a b c : Nat} (hab : a ≤ b) (hbc : b ≤ c) : slice f a b ++ slice f b c = slice f a c := by
  have start : b = a + 1 * (b - a) := by omega
  have total : c - a = (b - a) + (c - b) := by omega
  simp only [slice, ← List.map_append]
  rw [total, ← List.range'_append, ← start]

theorem slice_drop {a b c : Nat} (hab : a ≤ b) (hbc : b ≤ c) : (slice f a c).drop (b - a) = slice f b c := by
  rw [← slice_append f hab hbc, List.drop_append_of_le_length (by simp)]
  simp

theorem slice_take {a b c : Nat} (hab : a ≤ b) (hbc : b ≤ c) : (slice f a c).take (b - a) = slice f a b := by
  rw [← slice_append f hab hbc, List.take_append_of_le_length (by simp)]
  simp

def Chunk.Agrees (f : Nat → α) (c : Chunk α) : Prop := c.data = slice f c.offset c.stop

variable {a b : Nat}

theorem Chunk.agrees_slice (hab : a ≤ b) : Chunk.Agrees f ⟨a, slice f a b⟩ := by
  simp [Chunk.Agrees, Chunk.stop, Nat.add_sub_cancel' hab]

def Chunk.window (c : Chunk α) (a b : Nat) : List α := (c.data.drop (a - c.offset)).take (b - a)

theorem Chunk.window_length (lo : c.offset ≤ a) (hi : b ≤ c.stop) : (c.window a b).length = b - a := by
  simp only [Chunk.window, List.length_take, List.length_drop]
  unfold Chunk.stop at hi
  omega

theorem Chunk.Agrees.window {f : Nat → α} (h : c.Agrees f) (lo : c.offset ≤ a) (hab : a ≤ b)
    (hi : b ≤ c.stop) : c.window a b = slice f a b := by
  rw [Chunk.Agrees] at h
  rw [Chunk.window, h, slice_drop f lo (hab.trans hi), slice_take f hab hi]

theorem Chunk.Agrees.tail {f : Nat → α} (h : c.Agrees f) {a : Nat} (lo : c.offset ≤ a) (hi : a ≤ c.stop) :
    c.data.drop (a - c.offset) = slice f a c.stop := by
  rw [Chunk.Agrees] at h
  rw [h, slice_drop f lo hi]

def Apart (a b : Chunk α) : Prop := a.stop ≤ b.offset ∨ b.stop ≤ a.offset

theorem Apart.symm {a b : Chunk α} (h : Apart a b) : Apart b a := Or.symm h

theorem Apart.disjoint {a b : Chunk α} (h : Apart a b) : Disjoint a.span b.span := by
  rw [Finset.disjoint_left]
  intro i ha hb
  simp only [Chunk.mem_span] at ha hb
  unfold Apart at h
  omega

def covered : List (Chunk α) → Finset Nat
  | [] => ∅
  | c :: cs => c.span ∪ covered cs

@[simp] theorem covered_nil : covered ([] : List (Chunk α)) = ∅ := rfl

@[simp] theorem covered_cons (c : Chunk α) (cs : List (Chunk α)) : covered (c :: cs) = c.span ∪ covered cs := rfl

theorem mem_covered {cs : List (Chunk α)} {i : Nat} : i ∈ covered cs ↔ ∃ c ∈ cs, c.offset ≤ i ∧ i < c.stop := by
  induction cs with
  | nil => simp
  | cons c cs ih => simp [ih]

variable (cs ds : List (Chunk α))

@[simp] theorem covered_append : covered (cs ++ ds) = covered cs ∪ covered ds := by
  induction cs with
  | nil => simp
  | cons c cs ih => simp [ih, Finset.union_assoc]

def size (cs : List (Chunk α)) : Nat := (cs.map fun c => c.data.length).sum

@[simp] theorem size_nil : size ([] : List (Chunk α)) = 0 := rfl

@[simp] theorem size_cons (c : Chunk α) (cs : List (Chunk α)) :
    size (c :: cs) = c.data.length + size cs := by simp [size]

@[simp] theorem size_append : size (cs ++ ds) = size cs + size ds := by
  simp [size]

/-- Runs that are pairwise apart cover as many offsets as they are long. -/
theorem card_covered {cs : List (Chunk α)} (apart : cs.Pairwise Apart) : (covered cs).card = size cs := by
  induction cs with
  | nil => rfl
  | cons c cs ih =>
    have tail := List.pairwise_cons.mp apart
    have disjoint : Disjoint c.span (covered cs) := by
      rw [Finset.disjoint_left]
      intro i hc hcs
      obtain ⟨d, hd, lo, hi⟩ := mem_covered.mp hcs
      exact Finset.disjoint_left.mp (tail.1 d hd).disjoint hc (Chunk.mem_span.mpr ⟨lo, hi⟩)
    rw [covered_cons, Finset.card_union_of_disjoint disjoint, Chunk.card_span, ih tail.2, size_cons]

end Chunks
