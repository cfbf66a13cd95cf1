import Mathlib.Data.List.Basic
import Mathlib.Algebra.BigOperators.Group.List.Basic
import Mathlib.Tactic.Ring

/-! Weighted sequences cut to a budget: the longest front whose weight fits. Dropping items from
the back until the rest fits gives the same front. -/
namespace Fitting

open List

variable {α : Type} (weight : α → Nat)

def total (xs : List α) : Nat := (xs.map weight).sum

def keep : Nat → List α → List α
  | _, [] => []
  | budget, x :: xs => if weight x ≤ budget then x :: keep (budget - weight x) xs else []

variable {weight}

@[simp] theorem total_nil : total weight ([] : List α) = 0 := rfl

@[simp] theorem total_cons (x : α) (xs : List α) :
    total weight (x :: xs) = weight x + total weight xs := by simp [total]

@[simp] theorem total_append (xs ys : List α) :
    total weight (xs ++ ys) = total weight xs + total weight ys := by simp [total]

theorem keep_isPrefix (budget : Nat) (xs : List α) : keep weight budget xs <+: xs := by
  induction xs generalizing budget with
  | nil => exact prefix_refl _
  | cons x xs ih =>
    unfold keep
    split_ifs
    · exact cons_prefix_cons.mpr ⟨rfl, ih _⟩
    · exact nil_prefix

theorem total_keep_le (budget : Nat) (xs : List α) : total weight (keep weight budget xs) ≤ budget := by
  induction xs generalizing budget with
  | nil => exact Nat.zero_le _
  | cons x xs ih =>
    unfold keep
    split_ifs with fits
    · have rest := ih (budget - weight x)
      rw [total_cons]
      omega
    · exact Nat.zero_le _

variable {budget : Nat} {xs : List α}

/-- A sequence within the budget is kept whole, and what follows it is cut to what is left. -/
theorem keep_append (fits : total weight xs ≤ budget) (ys : List α) :
    keep weight budget (xs ++ ys) = xs ++ keep weight (budget - total weight xs) ys := by
  induction xs generalizing budget with
  | nil => rfl
  | cons x xs ih =>
    rw [total_cons] at fits
    rw [cons_append, keep, if_pos (by omega), ih (by omega), total_cons, cons_append, Nat.sub_sub]

theorem keep_eq_self (fits : total weight xs ≤ budget) : keep weight budget xs = xs := by
  simpa [keep] using keep_append fits []

theorem keep_append_of_lt (short : budget < total weight xs) (ys : List α) :
    keep weight budget (xs ++ ys) = keep weight budget xs := by
  induction xs generalizing budget with
  | nil => exact absurd short (Nat.not_lt_zero _)
  | cons x xs ih =>
    rw [total_cons] at short
    simp only [cons_append, keep]
    split_ifs with fits
    · rw [ih (by omega)]
    · rfl

theorem keep_mono (budget : Nat) {xs ys : List α} (front : xs <+: ys) :
    keep weight budget xs <+: keep weight budget ys := by
  obtain ⟨rest, rfl⟩ := front
  by_cases fits : total weight xs ≤ budget
  · rw [keep_append fits, keep_eq_self fits]
    exact prefix_append _ _
  · have same := keep_append_of_lt (Nat.not_le.mp fits) rest
    exact same.symm ▸ prefix_rfl

theorem keep_dropLast (short : budget < total weight xs) :
    keep weight budget xs.dropLast = keep weight budget xs := by
  rcases eq_nil_or_concat xs with rfl | ⟨front, last, rfl⟩
  · rfl
  rw [concat_eq_append, dropLast_concat]
  by_cases front_fits : total weight front ≤ budget
  · have last_short : ¬ weight last ≤ budget - total weight front := by
      rw [concat_eq_append, total_append, total_cons, total_nil] at short
      omega
    rw [keep_append front_fits, keep_eq_self front_fits, keep, if_neg last_short, append_nil]
  · rw [keep_append_of_lt (by omega)]

end Fitting
