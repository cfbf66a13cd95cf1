import Mathlib.Data.Nat.Init

/-! Fallible computations that are measured: when they succeed, and how large the result then is. Two
computations with the same measure succeed on the same inputs with results of the same size. -/

variable {ε ε' α β : Type}

structure Measured (size : α → Nat) (x : Except ε α) (c : Prop) (n : Nat) : Prop where
  succeeds : c → ∃ a, x = .ok a ∧ size a = n
  needs : ∀ a, x = .ok a → c

namespace Measured

variable {size : α → Nat} {sizeOf : β → Nat} {x : Except ε α} {c d : Prop} {n m : Nat}

theorem ok (a : α) : Measured size (.ok a : Except ε α) True (size a) where
  succeeds _ := ⟨a, rfl, rfl⟩
  needs _ _ := trivial

theorem bind {k : α → Except ε β} (first : Measured size x c n)
    (next : ∀ a, c → size a = n → Measured sizeOf (k a) d m) : Measured sizeOf (x >>= k) (c ∧ d) m where
  succeeds := by
    rintro ⟨hc, hd⟩
    obtain ⟨a, rfl, sized⟩ := first.succeeds hc
    exact (next a hc sized).succeeds hd
  needs b result := by
    cases outcome : x with
    | error e => rw [outcome] at result; exact nomatch result
    | ok a =>
      have hc := first.needs a outcome
      obtain ⟨a', same, sized⟩ := first.succeeds hc
      rw [outcome] at same
      cases same
      rw [outcome] at result
      exact ⟨hc, (next a hc sized).needs b result⟩

theorem map {g : α → β} (measured : Measured size x c n) (extend : Nat → Nat)
    (sized : ∀ a, sizeOf (g a) = extend (size a)) : Measured sizeOf (x >>= fun a => pure (g a)) c (extend n) where
  succeeds hc := by
    obtain ⟨a, rfl, rfl⟩ := measured.succeeds hc
    exact ⟨g a, rfl, sized a⟩
  needs b result := by
    cases outcome : x with
    | error e => rw [outcome] at result; exact nomatch result
    | ok a => exact measured.needs a outcome

theorem check {v : Except ε Unit} (rest : v = .ok () → Measured size x c n) :
    Measured size (v >>= fun _ => x) (v = .ok () ∧ c) n := by
  cases v with
  | error e => exact ⟨fun h => (nomatch h.1), fun _ result => nomatch result⟩
  | ok _ =>
    have measured := rest rfl
    exact ⟨fun h => measured.succeeds h.2, fun a result => ⟨rfl, measured.needs a result⟩⟩

theorem congr (measured : Measured size x c n) (same : c ↔ d) (sized : d → n = m) : Measured size x d m where
  succeeds hd := by
    obtain ⟨a, result, rfl⟩ := measured.succeeds (same.mpr hd)
    exact ⟨a, result, sized hd⟩
  needs a result := same.mp (measured.needs a result)

theorem guard [Decidable d] {e : ε} (rest : ¬ d → Measured size x c n) :
    Measured size (if d then .error e else x) (¬ d ∧ c) n := by
  split
  case isTrue refused => exact ⟨fun h => absurd refused h.1, fun _ result => nomatch result⟩
  case isFalse passed =>
    have measured := rest passed
    exact ⟨fun h => measured.succeeds h.2, fun a result => ⟨passed, measured.needs a result⟩⟩

theorem result (measured : Measured size x c n) {k : Nat} : (∃ a, x = .ok a ∧ size a = k) ↔ c ∧ n = k := by
  constructor
  · rintro ⟨a, outcome, rfl⟩
    have hc := measured.needs a outcome
    obtain ⟨a', again, sized⟩ := measured.succeeds hc
    rw [outcome] at again
    cases again
    exact ⟨hc, sized.symm⟩
  · rintro ⟨hc, rfl⟩
    exact measured.succeeds hc

theorem agree {y : Except ε' β} (first : Measured size x c n) (second : Measured sizeOf y c n) (k : Nat) :
    (∃ a, x = .ok a ∧ size a = k) ↔ ∃ b, y = .ok b ∧ sizeOf b = k :=
  first.result.trans second.result.symm

end Measured
