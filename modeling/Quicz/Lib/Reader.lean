import Mathlib.Data.Nat.Init

/-! Readers of byte sequences. A reader takes what it needs from the front and hands back the
rest; what it takes must not depend on what follows. -/

/-- Takes bytes from the front of the input, or fails. -/
abbrev Reader (ε α : Type) : Type := StateT (List UInt8) (Except ε) α

namespace Reader

open Except

variable {ε α β : Type}

def fail (e : ε) : Reader ε α := fun _ => .error e

def refuse (c : Prop) [Decidable c] (e : ε) : Reader ε Unit := if c then fail e else pure ()

def remainingLen : Reader ε Nat := fun bytes => .ok (bytes.length, bytes)

def attempt (x : Except ε α) : Reader ε α := fun bytes => x.map fun a => (a, bytes)

/-- On input that starts with these bytes the reader takes exactly them. -/
def Reads (m : Reader ε α) (bytes : List UInt8) (a : α) : Prop :=
  ∀ rest, m (bytes ++ rest) = .ok (a, rest)

@[simp]
theorem pure_apply (a : α) (bytes : List UInt8) : (pure a : Reader ε α) bytes = .ok (a, bytes) := rfl

theorem Reads.pure (a : α) : Reads (Pure.pure a : Reader ε α) [] a := fun _ => rfl

variable {x : Except ε α} {P : α → Prop} {m : Reader ε α} {c : Prop} {f : α → Reader ε β} {bytes : List UInt8}
  {a : α} {b : β}

theorem Reads.bind {front back : List UInt8} (first : Reads m front a) (next : Reads (f a) back b) :
    Reads (m >>= f) (front ++ back) b := by
  intro rest
  rw [List.append_assoc]
  simp only [Bind.bind, StateT.bind, first (back ++ rest), Except.bind]
  exact next rest

theorem Reads.skip (first : Reads m [] a) (next : Reads (f a) bytes b) : Reads (m >>= f) bytes b := first.bind next

theorem Reads.map {g : α → β} (read : Reads m bytes a) : Reads (m >>= fun x => Pure.pure (g x)) bytes (g a) := by
  have whole := read.bind (f := fun x => Pure.pure (g x)) (.pure (g a))
  rwa [List.append_nil] at whole

theorem Reads.refuse [Decidable c] {e : ε} (h : ¬ c) : Reads (refuse c e) [] () := by
  rw [Reader.refuse, if_neg h]
  exact .pure ()

theorem Reads.attempt (h : x = .ok a) : Reads (attempt x) [] a := by
  subst h
  exact fun _ => rfl

theorem Reads.measure {f : Nat → Reader ε β}
    (next : ∀ rest, f (bytes ++ rest).length (bytes ++ rest) = .ok (b, rest)) :
    Reads (remainingLen >>= f) bytes b := next

/-- What a reader leaves is no longer than what it was given. -/
def Shrinks (m : Reader ε α) : Prop :=
  ∀ bytes a rest, m bytes = .ok (a, rest) → rest.length ≤ bytes.length

/-- A reader that shrinks because its parts do. -/
class Shrinking (m : Reader ε α) : Prop where
  shrinks : Shrinks m

instance (a : α) : Shrinking (pure a : Reader ε α) := by
  refine ⟨fun bytes _ rest read => ?_⟩
  obtain ⟨-, rfl⟩ := Prod.mk.inj (ok.inj read)
  exact Nat.le_refl _

instance (e : ε) : Shrinking (fail e : Reader ε α) := ⟨fun _ _ _ read => nomatch read⟩

theorem bind_eq_ok {bytes rest : List UInt8} :
    (m >>= f) bytes = .ok (b, rest) ↔ ∃ a left, m bytes = .ok (a, left) ∧ f a left = .ok (b, rest) := by
  simp only [Bind.bind, StateT.bind]
  cases m bytes with
  | error e => simp [Except.bind]
  | ok result => exact ⟨fun later => ⟨_, _, rfl, later⟩, fun ⟨_, _, here, later⟩ => by cases here; exact later⟩

theorem bind_congr_at {f g : α → Reader ε β} (same : ∀ a left, m bytes = .ok (a, left) → f a left = g a left) :
    (m >>= f) bytes = (m >>= g) bytes := by
  simp only [Bind.bind, StateT.bind]
  cases read : m bytes with
  | error e => rfl
  | ok result => exact same result.1 result.2 read

theorem refuse_eq_ok [Decidable c] {e : ε} {bytes left : List UInt8} {u : Unit}
    (read : refuse c e bytes = .ok (u, left)) : ¬ c ∧ bytes = left := by
  unfold refuse at read
  split at read
  case isTrue => exact nomatch read
  case isFalse no => exact ⟨no, (Prod.mk.inj (ok.inj read)).2⟩

theorem attempt_eq_ok {bytes left : List UInt8} (read : attempt x bytes = .ok (a, left)) :
    x = .ok a ∧ bytes = left := by
  cases x with
  | error e => exact nomatch read
  | ok b =>
    obtain ⟨rfl, rfl⟩ := Prod.mk.inj (ok.inj read)
    exact ⟨rfl, rfl⟩

instance Shrinking.bind [first : Shrinking m] [next : ∀ a, Shrinking (f a)] : Shrinking (m >>= f) := by
  refine ⟨fun bytes b rest read => ?_⟩
  obtain ⟨a, left, here, later⟩ := bind_eq_ok.mp read
  exact Nat.le_trans ((next a).shrinks left b rest later) (first.shrinks bytes a left here)

instance Shrinking.ite [Decidable c] {m n : Reader ε α} [yes : Shrinking m] [no : Shrinking n] :
    Shrinking (if c then m else n) := by
  split
  · exact yes
  · exact no

instance [Decidable c] {e : ε} : Shrinking (refuse c e) := .ite

instance : Shrinking (remainingLen : Reader ε Nat) := by
  refine ⟨fun bytes _ rest read => ?_⟩
  obtain ⟨-, rfl⟩ := Prod.mk.inj (ok.inj read)
  exact Nat.le_refl _

instance : Shrinking (attempt x) :=
  ⟨fun _ _ _ read => Nat.le_of_eq (congrArg List.length (attempt_eq_ok read).2.symm)⟩

def Gives (P : α → Prop) (m : Reader ε α) : Prop := ∀ bytes a rest, m bytes = .ok (a, rest) → P a

theorem Gives.pure (h : P a) : Gives P (Pure.pure a : Reader ε α) := by
  intro bytes _ rest read
  obtain ⟨rfl, -⟩ := Prod.mk.inj (ok.inj read)
  exact h

theorem Gives.fail (e : ε) : Gives P (fail e : Reader ε α) := fun _ _ _ read => nomatch read

theorem Gives.bind {P : β → Prop} (next : ∀ a, Gives P (f a)) : Gives P (m >>= f) := by
  intro bytes b rest read
  obtain ⟨a, left, -, later⟩ := bind_eq_ok.mp read
  exact next a left b rest later

theorem Gives.ite [Decidable c] {m n : Reader ε α} (yes : c → Gives P m) (no : ¬ c → Gives P n) :
    Gives P (if c then m else n) := by
  split
  case isTrue h => exact yes h
  case isFalse h => exact no h

end Reader
