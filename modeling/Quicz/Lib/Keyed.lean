import Mathlib.Algebra.GroupWithZero.Nat
import Mathlib.Algebra.BigOperators.Group.List.Basic
import Mathlib.Data.List.Nodup

/-! Lists used as tables: records are found by a key and changed in place, as a
program does through a pointer returned by a linear search. -/
namespace Keyed

open List

variable {α κ : Type*} [DecidableEq κ] (key : α → κ)

def lookup (k : κ) (xs : List α) : Option α := xs.find? fun x => key x = k

def adjust (k : κ) (g : α → α) : List α → List α
  | [] => []
  | x :: xs => if key x = k then g x :: xs else x :: adjust k g xs

variable {key} {k : κ} {g : α → α} {xs : List α}

variable {R : α → α → Prop} {x : α} {y : α} {ys : List α}

theorem lookup_some (h : lookup key k xs = some x) : key x = k ∧ x ∈ xs := by
  have found := find?_some h
  exact ⟨by simpa using found, mem_of_find?_eq_some h⟩

theorem lookup_self (h : lookup key k xs = some x) : lookup key (key x) xs = some x :=
  (lookup_some h).1 ▸ h

theorem lookup_none : lookup key k xs = none ↔ ∀ x ∈ xs, key x ≠ k := by
  simp [lookup]

theorem lookup_cons (x : α) : lookup key k (x :: xs) = if key x = k then some x else lookup key k xs := by
  simp only [lookup, find?_cons]
  split <;> simp_all

theorem lookup_of_mem (distinct : (xs.map key).Nodup) (h : x ∈ xs) : lookup key (key x) xs = some x := by
  induction xs with
  | nil => cases h
  | cons y ys ih =>
    rw [map_cons, nodup_cons] at distinct
    rw [lookup_cons]
    rcases mem_cons.mp h with rfl | tail
    · simp
    · have other : key y ≠ key x := by
        intro same
        exact distinct.1 (same ▸ mem_map_of_mem tail)
      rw [if_neg other, ih distinct.2 tail]

theorem lookup_append (ys : List α) : lookup key k (xs ++ ys) = (lookup key k xs).or (lookup key k ys) := by
  simp [lookup, find?_append]

theorem map_key_adjust (keeps : ∀ x, key x = k → key (g x) = k) : (adjust key k g xs).map key = xs.map key := by
  induction xs with
  | nil => rfl
  | cons x xs ih =>
    simp only [adjust]
    split
    · rename_i hx
      simp [keeps x hx, hx]
    · simp [ih]

theorem lookup_adjust_self (keeps : ∀ x, key x = k → key (g x) = k) :
    lookup key k (adjust key k g xs) = (lookup key k xs).map g := by
  induction xs with
  | nil => rfl
  | cons x xs ih =>
    simp only [adjust]
    split
    · rename_i hx
      simp [lookup_cons, keeps x hx, hx]
    · rename_i hx
      simp [lookup_cons, hx, ih]

theorem lookup_adjust_ne (keeps : ∀ x, key x = k → key (g x) = k) {j : κ} (other : j ≠ k) :
    lookup key j (adjust key k g xs) = lookup key j xs := by
  induction xs with
  | nil => rfl
  | cons x xs ih =>
    simp only [adjust]
    split
    · rename_i hx
      have old : key x ≠ j := fun h => other (h.symm.trans hx)
      have new : key (g x) ≠ j := fun h => other (h.symm.trans (keeps x hx))
      simp [lookup_cons, old, new]
    · simp [lookup_cons, ih]

theorem lookup_forall₂ (keeps : ∀ x y, R x y → key y = key x) (each : List.Forall₂ R xs ys) :
    lookup key k xs = none ∧ lookup key k ys = none ∨
      ∃ x y, R x y ∧ lookup key k xs = some x ∧ lookup key k ys = some y := by
  induction each with
  | nil => exact Or.inl ⟨rfl, rfl⟩
  | cons related _ ih =>
    simp only [lookup_cons, keeps _ _ related]
    split
    · exact Or.inr ⟨_, _, related, rfl, rfl⟩
    · exact ih

omit [DecidableEq κ] in
theorem map_key_forall₂ (keeps : ∀ x y, R x y → key y = key x) (each : List.Forall₂ R xs ys) :
    ys.map key = xs.map key := by
  induction each with
  | nil => rfl
  | cons related _ ih => rw [map_cons, map_cons, keeps _ _ related, ih]

theorem related_old (each : List.Forall₂ R xs ys) (mem : y ∈ ys) : ∃ x ∈ xs, R x y := by
  induction each with
  | nil => cases mem
  | cons related _ ih =>
    rcases mem_cons.mp mem with rfl | tail
    · exact ⟨_, mem_cons_self, related⟩
    · obtain ⟨x, hx, hxy⟩ := ih tail
      exact ⟨x, mem_cons_of_mem _ hx, hxy⟩

theorem related_new (each : List.Forall₂ R xs ys) (mem : x ∈ xs) : ∃ y ∈ ys, R x y :=
  related_old each.flip mem

theorem adjust_append_new (unknown : lookup key k xs = none) (keyed : key y = k) :
    adjust key k g (xs ++ [y]) = xs ++ [g y] := by
  induction xs with
  | nil => simp [adjust, keyed]
  | cons x xs ih =>
    have other : key x ≠ k := lookup_none.mp unknown x mem_cons_self
    have later : lookup key k xs = none :=
      lookup_none.mpr fun z mem => lookup_none.mp unknown z (mem_cons_of_mem _ mem)
    simp only [cons_append, adjust, other, if_false, ih later]

theorem forall₂_adjust (whole : ∀ x, R x x) (changed : ∀ x, lookup key k xs = some x → R x (g x)) :
    List.Forall₂ R xs (adjust key k g xs) := by
  induction xs with
  | nil => exact .nil
  | cons x xs ih =>
    simp only [adjust]
    split
    · rename_i hx
      exact .cons (changed x (by simp [lookup_cons, hx])) (forall₂_same.mpr fun _ _ => whole _)
    · rename_i hx
      exact .cons (whole x) (ih fun y found => changed y (by simp [lookup_cons, hx, found]))

theorem adjust_adjust (h : α → α) (keeps : ∀ x, key x = k → key (h x) = k) :
    adjust key k g (adjust key k h xs) = adjust key k (fun x => g (h x)) xs := by
  induction xs with
  | nil => rfl
  | cons x xs ih =>
    simp only [adjust]
    split
    · rename_i hx
      simp [adjust, keeps x hx]
    · rename_i hx
      simp [adjust, hx, ih]

@[simp] theorem adjust_const_const {a b : α} (here : key a = k) :
    adjust key k (fun _ => b) (adjust key k (fun _ => a) xs) = adjust key k (fun _ => b) xs :=
  adjust_adjust (fun _ => a) fun _ _ => here

theorem adjust_found (found : lookup key k xs = some y) : adjust key k (fun _ => y) xs = xs := by
  induction xs with
  | nil => rfl
  | cons x xs ih =>
    rw [lookup_cons] at found
    simp only [adjust]
    split at found
    · rename_i hx
      cases found
      simp [hx]
    · rename_i hx
      simp [hx, ih found]

theorem mem_adjust (h : x ∈ adjust key k g xs) : x ∈ xs ∨ ∃ y, lookup key k xs = some y ∧ x = g y := by
  induction xs with
  | nil => cases h
  | cons z zs ih =>
    simp only [adjust] at h
    split at h
    · rename_i hz
      rcases mem_cons.mp h with rfl | tail
      · exact Or.inr ⟨z, by simp [lookup_cons, hz], rfl⟩
      · exact Or.inl (mem_cons_of_mem _ tail)
    · rename_i hz
      rcases mem_cons.mp h with rfl | tail
      · exact Or.inl mem_cons_self
      · rcases ih tail with old | ⟨y, hy, rfl⟩
        · exact Or.inl (mem_cons_of_mem _ old)
        · exact Or.inr ⟨y, by simp [lookup_cons, hz, hy], rfl⟩

theorem mem_adjust_of_ne (h : x ∈ xs) (other : key x ≠ k) : x ∈ adjust key k g xs := by
  induction xs with
  | nil => cases h
  | cons z zs ih =>
    simp only [adjust]
    split
    · rename_i hz
      rcases mem_cons.mp h with rfl | tail
      · exact absurd hz other
      · exact mem_cons_of_mem _ tail
    · rcases mem_cons.mp h with rfl | tail
      · exact mem_cons_self
      · exact mem_cons_of_mem _ (ih tail)

theorem mem_adjust_const (distinct : (xs.map key).Nodup) {x y : α} (keyed : key y = k)
    (h : x ∈ adjust key k (fun _ => y) xs) : x = y ∨ (x ∈ xs ∧ key x ≠ k) := by
  by_cases same : key x = k
  · have keys : (adjust key k (fun _ => y) xs).map key = xs.map key :=
      map_key_adjust fun _ _ => keyed
    have found := lookup_of_mem (keys ▸ distinct) h
    rw [same, lookup_adjust_self fun _ _ => keyed] at found
    obtain ⟨_, _, rfl⟩ := Option.map_eq_some_iff.mp found
    exact Or.inl rfl
  · rcases mem_adjust h with old | ⟨_, _, rfl⟩
    · exact Or.inr ⟨old, same⟩
    · exact absurd keyed same

theorem forall_adjust {P : α → Prop} (all : ∀ x ∈ xs, P x)
    (new : ∀ y, lookup key k xs = some y → P (g y)) : ∀ x ∈ adjust key k g xs, P x := by
  intro x hx
  rcases mem_adjust hx with old | ⟨y, hy, rfl⟩
  · exact all x old
  · exact new y hy

theorem adjust_middle {before later : List α} {x y : α} (distinct : ((before ++ x :: later).map key).Nodup) :
    adjust key (key x) (fun _ => y) (before ++ x :: later) = before ++ y :: later := by
  induction before with
  | nil => simp [adjust]
  | cons z zs ih =>
    rw [cons_append, map_cons, nodup_cons] at distinct
    have other : key z ≠ key x := fun same => distinct.1 (by simp [same])
    simp only [cons_append, adjust, if_neg other, ih distinct.2]

/-- A sum over the table changes by the weight of the changed record only. -/
theorem sum_adjust (w : α → Nat) (found : lookup key k xs = some y) :
    ((adjust key k g xs).map w).sum + w y = (xs.map w).sum + w (g y) := by
  induction xs with
  | nil => cases found
  | cons x xs ih =>
    rw [lookup_cons] at found
    simp only [adjust]
    split at found
    · rename_i hx
      cases found
      simp only [if_pos hx, map_cons, sum_cons]
      omega
    · rename_i hx
      simp only [if_neg hx, map_cons, sum_cons]
      have := ih found
      omega

theorem countP_adjust (p : α → Bool) (found : lookup key k xs = some y) :
    (adjust key k g xs).countP p + (p y).toNat = xs.countP p + (p (g y)).toNat := by
  induction xs with
  | nil => cases found
  | cons x xs ih =>
    have one : ∀ z (zs : List α), (z :: zs).countP p = zs.countP p + (p z).toNat := fun z zs => by
      cases h : p z <;> simp [h]
    rw [lookup_cons] at found
    simp only [adjust]
    split at found
    · rename_i hx
      cases found
      rw [if_pos hx, one, one]
      omega
    · rename_i hx
      have rest := ih found
      rw [if_neg hx, one, one]
      omega

theorem adjust_missing (missing : lookup key k xs = none) : adjust key k g xs = xs := by
  induction xs with
  | nil => rfl
  | cons x xs ih =>
    rw [lookup_cons] at missing
    split at missing
    · cases missing
    · rename_i hx
      rw [adjust, if_neg hx, ih missing]

end Keyed
