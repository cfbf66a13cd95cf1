import Mathlib.Data.List.Basic

/-! Runs of a system: a step function applied to one event after the other. -/
namespace Trace

variable {σ ε : Type} {step : σ → ε → σ}

/-- A condition is met by every event of the run, in the state it finds. -/
def Along (step : σ → ε → σ) (P : σ → ε → Prop) : σ → List ε → Prop
  | _, [] => True
  | s, event :: rest => P s event ∧ Along step P (step s event) rest

theorem along_append {P : σ → ε → Prop} {s : σ} {events rest : List ε} :
    Along step P s (events ++ rest) ↔ Along step P s events ∧ Along step P (events.foldl step s) rest := by
  induction events generalizing s with
  | nil => exact (iff_of_eq (true_and _)).symm
  | cons event events ih =>
    rw [List.cons_append, Along, Along, ih, and_assoc]
    rfl

variable {M P : σ → ε → Prop} (Inv : σ → Prop) {events : List ε}

/-- What an invariant gives at every event, along a run whose events keep it. -/
theorem Along.of_invariant (keeps : ∀ s event, Inv s → M s event → Inv (step s event))
    (gives : ∀ s event, Inv s → M s event → P s event) {s : σ} (inv : Inv s)
    (met : Along step M s events) : Along step P s events := by
  induction events generalizing s with
  | nil => trivial
  | cons event rest ih => exact ⟨gives s event inv met.1, ih (keeps s event inv met.1) met.2⟩

end Trace
