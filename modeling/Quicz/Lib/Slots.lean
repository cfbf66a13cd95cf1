import Mathlib.Data.List.Pairwise

/-! Lists used as arrays of records: a linear search finds a record and its place, and the record at
a place is removed or overwritten. -/
namespace Slots

open List

variable {α ε : Type} {p : α → Bool} {xs : List α} {x y : α} {i : Nat}

def locate (p : α → Bool) : List α → Option (Nat × α)
  | [] => none
  | x :: xs => if p x then some (0, x) else (locate p xs).map fun (i, y) => (i + 1, y)

def unique (p : α → Bool) (e : ε) : List α → Option α → Except ε (Option α)
  | [], found => .ok found
  | x :: xs, found =>
    if !p x then unique p e xs found
    else if found.isSome then .error e
    else unique p e xs (some x)

theorem locate_none : locate p xs = none ↔ ∀ x ∈ xs, p x = false := by
  induction xs with
  | nil => simp [locate]
  | cons x xs ih =>
    cases here : p x <;> simp [locate, here, ih]

theorem locate_some (found : locate p xs = some (i, x)) :
    ∃ front back, xs = front ++ x :: back ∧ i = front.length ∧ p x = true ∧ ∀ y ∈ front, p y = false := by
  induction xs generalizing i with
  | nil => cases found
  | cons z zs ih =>
    cases here : p z with
    | true =>
      simp only [locate, here, if_true, Option.some.injEq, Prod.mk.injEq] at found
      obtain ⟨rfl, rfl⟩ := found
      exact ⟨[], zs, rfl, rfl, here, nofun⟩
    | false =>
      simp only [locate, here, Bool.false_eq_true, if_false, Option.map_eq_some_iff, Prod.mk.injEq] at found
      obtain ⟨⟨j, z'⟩, later, rfl, rfl⟩ := found
      obtain ⟨front, back, rfl, rfl, meets, none⟩ := ih later
      refine ⟨z :: front, back, rfl, rfl, meets, fun y mem => ?_⟩
      rcases mem_cons.mp mem with rfl | mem
      · exact here
      · exact none y mem

theorem locate_of_mem (mem : x ∈ xs) (meets : p x = true) (only : ∀ y ∈ xs, p y = true → y = x) :
    ∃ i, locate p xs = some (i, x) := by
  cases found : locate p xs with
  | none => simp [locate_none.mp found x mem] at meets
  | some result =>
    obtain ⟨i, y⟩ := result
    obtain ⟨front, back, table, -, first, -⟩ := locate_some found
    have here : y ∈ xs := table ▸ mem_append_right _ mem_cons_self
    exact ⟨i, by rw [only y here first]⟩

variable (front back : List α)

theorem eraseIdx_at : (front ++ x :: back).eraseIdx front.length = front ++ back := by
  rw [eraseIdx_append_of_length_le (Nat.le_refl _), Nat.sub_self, eraseIdx_cons_zero]

theorem set_at : (front ++ x :: back).set front.length y = front ++ y :: back := by
  rw [set_append_right _ _ (Nat.le_refl _), Nat.sub_self, set_cons_zero]

theorem unique_eq (e : ε) (xs : List α) : unique p e xs none =
    match xs.filter p with
    | [] => .ok none
    | [x] => .ok (some x)
    | _ => .error e := by
  have second : ∀ xs : List α, ∀ x, unique p e xs (some x) = if xs.filter p = [] then .ok (some x) else .error e := by
    intro xs x
    induction xs with
    | nil => simp [unique]
    | cons y ys ih => cases here : p y <;> simp [unique, here, ih]
  induction xs with
  | nil => rfl
  | cons x xs ih =>
    cases here : p x with
    | false => simp [unique, here, ih]
    | true =>
      simp only [unique, here, Bool.not_true, Bool.false_eq_true, if_false, Option.isSome_none, second,
        filter_cons, if_true]
      cases xs.filter p <;> simp

variable {R : α → α → Prop}

theorem pairwise_concat (apart : xs.Pairwise R) (new : ∀ x ∈ xs, R x y) : (xs ++ [y]).Pairwise R :=
  pairwise_append.mpr ⟨apart, pairwise_singleton R y, fun x mem _ last =>
    mem_singleton.mp last ▸ new x mem⟩

theorem pairwise_set (symm : ∀ {a b}, R a b → R b a) {front back : List α}
    (apart : (front ++ x :: back).Pairwise R) (new : ∀ z ∈ front ++ back, R y z) :
    (front ++ y :: back).Pairwise R := by
  rw [pairwise_middle symm, pairwise_cons] at apart ⊢
  exact ⟨new, apart.2⟩

end Slots
