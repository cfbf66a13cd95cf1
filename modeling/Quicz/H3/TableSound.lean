import Quicz.Lib.Fitting
import Quicz.H3.Bounds

/-! What the operations of the dynamic table do, in terms of the entries they keep. -/
namespace Quicz.H3

open Proc Fitting List

namespace DynamicTable

def held (entries : List HeaderField) : Nat := total HeaderField.size entries

variable (need : Nat)

def kept (t : DynamicTable) : List HeaderField :=
  keep HeaderField.size (t.maxCapacity - need) t.entries

def withEntries (t : DynamicTable) (entries : List HeaderField) : DynamicTable :=
  { t with entries := entries, currentSize := held entries }

structure Sound (t : DynamicTable) : Prop where
  size : t.currentSize = held t.entries
  fits : t.currentSize ≤ t.maxCapacity
  counted : t.entries.length ≤ t.insertCount

variable {t : DynamicTable}

theorem withEntries_self (size : t.currentSize = held t.entries) : t.withEntries t.entries = t := by
  rw [withEntries, ← size]

theorem evictOldest_eq (size : t.currentSize = held t.entries) :
    t.evictOldest = t.withEntries t.entries.dropLast := by
  rw [evictOldest]
  rcases eq_nil_or_concat t.entries with empty | ⟨front, last, split⟩
  · have same := withEntries_self size
    rw [empty] at same
    rw [empty, getLast?_nil, dropLast_nil, same]
  · rw [concat_eq_append] at split
    simp only [split, getLast?_concat, dropLast_concat, withEntries, size, held, total_append,
      total_cons, total_nil, Nat.add_zero, Nat.add_sub_cancel]

/-- Entries have gone from the back only, and none that fits; if the loop got to its end, all that
do not fit. -/
def Evicted (t : DynamicTable) (r : Bool × DynamicTable) : Prop :=
  ∃ left, r.2 = t.withEntries left ∧ left <+: t.entries ∧ t.kept need <+: left ∧ (r.1 = true → left = t.kept need)

theorem Evicted.stay {need : Nat} (size : t.currentSize = held t.entries) {b : Bool}
    (done : b = true → ¬ (t.currentSize + need > t.maxCapacity ∧ t.entries.length > 0))
    (possible : need ≤ t.maxCapacity) : t.Evicted need (b, t) := by
  refine ⟨t.entries, (withEntries_self size).symm, prefix_refl _, keep_isPrefix _ _, fun whole => ?_⟩
  refine (keep_eq_self ?_).symm
  by_cases empty : t.entries.length = 0
  · rw [length_eq_zero_iff.mp empty]
    exact Nat.zero_le _
  · have stop := done whole
    simp only [held] at size
    omega

theorem evictFor_evicted (respect : Bool) (rounds : Nat) (size : t.currentSize = held t.entries)
    (enough : t.entries.length ≤ rounds) (possible : need ≤ t.maxCapacity) :
    t.Evicted need (t.evictFor need respect rounds) := by
  induction rounds generalizing t with
  | zero => exact .stay size (fun _ => by omega) possible
  | succ rounds ih =>
    unfold evictFor
    split_ifs with more stop
    · exact .stay size nofun possible
    · have short : t.maxCapacity - need < total HeaderField.size t.entries := by
        simp only [held] at size
        omega
      have same : (t.withEntries t.entries.dropLast).kept need = t.kept need := keep_dropLast short
      have fewer : t.entries.dropLast.length ≤ rounds := by
        rw [length_dropLast]
        omega
      rw [evictOldest_eq size]
      obtain ⟨left, after, front, fits, whole⟩ := ih (t := t.withEntries t.entries.dropLast) rfl fewer possible
      rw [same] at fits whole
      exact ⟨left, after, front.trans ( dropLast_prefix _), fits, whole⟩
    · exact .stay size (fun _ => more) possible

theorem evictFor_unprotected (need rounds : Nat) (t : DynamicTable) : (t.evictFor need false rounds).1 = true := by
  induction rounds generalizing t with
  | zero => rfl
  | succ rounds ih =>
    unfold evictFor
    split_ifs with more stop
    · exact absurd stop.1 (by decide)
    · exact ih _
    · rfl

theorem evictFor_eq (size : t.currentSize = held t.entries) (possible : need ≤ t.maxCapacity) :
    t.evictFor need false t.entries.length = (true, t.withEntries (t.kept need)) := by
  obtain ⟨left, after, -, -, whole⟩ := evictFor_evicted need false _ size le_rfl possible
  have ended := evictFor_unprotected need t.entries.length t
  exact Prod.ext ended (by rw [after, whole ended])

theorem setCapacity_eq (capacity : Nat) (size : t.currentSize = held t.entries) : t.setCapacity capacity =
      { t with maxCapacity := capacity }.withEntries (keep HeaderField.size capacity t.entries) := by
  have room := evictFor_eq 0 (t := { t with maxCapacity := capacity }) size (Nat.zero_le _)
  rw [setCapacity, evictToCapacity, room]
  rfl

theorem insert_eq (lender : Option Nat) (name value : Bytes) (size : t.currentSize = held t.entries) :
    insert lender name value t = if HeaderField.size ⟨name, value⟩ > t.maxCapacity then .ok () t.clearEntries
      else if (t.withEntries (t.kept (HeaderField.size ⟨name, value⟩))).holdsLender lender then
        .ok () ((t.withEntries (t.kept (HeaderField.size ⟨name, value⟩))).push ⟨name, value⟩)
      else .error (.panic .useAfterFree) (t.withEntries (t.kept (HeaderField.size ⟨name, value⟩))) := by
  split_ifs with large live
  · exact run_ok (by simp [insert, insertInternal, large])
  · have room := evictFor_eq _ size (Nat.not_lt.mp large)
    exact run_ok (by simp [insert, insertInternal, large, room, live])
  · have room := evictFor_eq _ size (Nat.not_lt.mp large)
    exact run_error (by simp [insert, insertInternal, large, room, live])

theorem Sound.withEntries (sound : t.Sound) {left : List HeaderField} (front : left <+: t.entries) :
    (t.withEntries left).Sound where
  size := rfl
  fits := by
    obtain ⟨gone, split⟩ := front
    have sum : t.currentSize = held left + held gone := by
      rw [sound.size, ← split]
      exact total_append left gone
    exact (Nat.le.intro sum.symm).trans sound.fits
  counted := front.length_le.trans sound.counted

variable {entry : HeaderField}

theorem Sound.push (sound : t.Sound) (room : t.currentSize + entry.size ≤ t.maxCapacity) : (t.push entry).Sound where
  size := by
    simp only [DynamicTable.push, held, total_cons]
    rw [sound.size, Nat.add_comm]
    rfl
  fits := room
  counted := Nat.succ_le_succ sound.counted

theorem Sound.clearEntries (_ : t.Sound) : t.clearEntries.Sound :=
  ⟨rfl, Nat.zero_le _, Nat.zero_le _⟩

theorem Sound.setCapacity (sound : t.Sound) (capacity : Nat) : (t.setCapacity capacity).Sound := by
  rw [setCapacity_eq capacity sound.size]
  exact ⟨rfl, total_keep_le _ _, (keep_isPrefix _ _).length_le.trans sound.counted⟩

theorem held_kept {need : Nat} (possible : need ≤ t.maxCapacity) : held (t.kept need) + need ≤ t.maxCapacity := by
  have fits : held (t.kept need) ≤ t.maxCapacity - need := total_keep_le _ _
  omega

theorem Sound.insert (sound : t.Sound) (possible : entry.size ≤ t.maxCapacity) :
    ((t.withEntries (t.kept entry.size)).push entry).Sound :=
  (sound.withEntries (keep_isPrefix _ _)).push (held_kept possible)

end DynamicTable

end Quicz.H3
