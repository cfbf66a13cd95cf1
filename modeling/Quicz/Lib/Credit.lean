import Mathlib.Order.Lattice

/-! Credit ledgers. A party grants a limit to another. It raises the limit by what it gives
back, and possibly to a window above a mark that only moves up. -/

structure Credit where
  limit : Nat
  mark : Nat
  given : Nat

namespace Credit

structure Move (window : Option Nat) (l l' : Credit) : Prop where
  gives : l.given ≤ l'.given
  marks : l.mark ≤ l'.mark
  lower : l.limit + l'.given ≤ l'.limit + l.given
  upper : l'.limit + l.given ≤
    window.elim (l.limit + l'.given) fun w => max (l.limit + l'.given) (l'.mark + w + l.given)

/-- The initial limit, raised to the mark plus the window when there is a window. -/
def ceiling (initial : Nat) (window : Option Nat) (mark : Nat) : Nat :=
  window.elim initial fun w => max initial (mark + w)

variable {window : Option Nat} {l l' : Credit}

theorem Move.of_gain {n : Nat} (limit : l'.limit = l.limit + n) (marks : l.mark ≤ l'.mark)
    (given : l'.given = l.given + n) : Move window l l' := by
  refine ⟨by omega, marks, by omega, ?_⟩
  cases window <;> simp only [Option.elim_none, Option.elim_some] <;> omega

theorem Move.of_mark (limit : l'.limit = l.limit) (marks : l.mark ≤ l'.mark)
    (given : l'.given = l.given) : Move window l l' :=
  .of_gain (n := 0) limit marks given

/-- Giving n back, with a rise to the window above some amount below the mark. -/
theorem Move.of_raise {n amount : Nat} (given : l'.given = l.given + n) (marks : l.mark ≤ l'.mark)
    (seen : amount ≤ l'.mark) (bounds : l.limit + n ≤ l'.limit ∧
      l'.limit ≤ window.elim (l.limit + n) fun w => max (l.limit + n) (amount + w)) : Move window l l' := by
  obtain ⟨lower, upper⟩ := bounds
  refine ⟨by omega, marks, by omega, ?_⟩
  cases window <;> simp only [Option.elim_none, Option.elim_some] at upper ⊢ <;> omega

/-- A limit that starts at its initial value is never below that value and what was given. -/
theorem Move.backed (move : Move window l l') {initial : Nat}
    (h : initial + l.given ≤ l.limit) : initial + l'.given ≤ l'.limit := by
  have := move.lower
  omega

/-- Nor is it above its ceiling and what was given. -/
theorem Move.bounded (move : Move window l l') {initial : Nat}
    (h : l.limit ≤ ceiling initial window l.mark + l.given) :
    l'.limit ≤ ceiling initial window l'.mark + l'.given := by
  have gives := move.gives
  have marks := move.marks
  have upper := move.upper
  cases window <;> simp only [ceiling, Option.elim_none, Option.elim_some] at h upper ⊢ <;> omega

end Credit
