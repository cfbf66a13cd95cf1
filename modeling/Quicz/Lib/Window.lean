import Mathlib.Data.List.Dedup
import Mathlib.Data.List.DropRight

/-! The last entries of a list that only grows at its end. -/
namespace Window

open List

variable {α : Type} {l m : List α} {n : Nat} {a : α}

/-- A full window drops its oldest entry before it takes the new one. -/
def push (n : Nat) (l : List α) (a : α) : List α := (if l.length = n then l.tail else l) ++ [a]

/-- Walks from the end and keeps what it has not kept yet, as long as there is room. -/
def newest [DecidableEq α] (n : Nat) (l : List α) : List α :=
  l.foldr (fun a kept => if kept.length < n ∧ a ∉ kept then kept ++ [a] else kept) []

theorem length_rtake_le : (l.rtake n).length ≤ n := by
  rw [rtake, length_drop]
  omega

theorem push_eq (fits : l.length ≤ n) (room : n ≠ 0) : push n l a = (l ++ [a]).rtake n := by
  rw [push, rtake, length_append, length_singleton]
  split_ifs with full
  · rw [show l.length + 1 - n = 1 by omega, ← drop_one, drop_append_of_le_length (by omega)]
  · rw [show l.length + 1 - n = 0 by omega, drop_zero]

theorem rtake_rtake_append : (l.rtake n ++ m).rtake n = (l ++ m).rtake n := by
  have inside : l.length - n ≤ l.length := Nat.sub_le ..
  simp only [rtake, length_append, length_drop]
  rw [← drop_append_of_le_length inside, drop_drop]
  congr 1
  omega

theorem mem_rtake_append (few : m.length < n) : a ∈ (l ++ a :: m).rtake n := by
  rw [rtake, length_append, length_cons]
  have start : l.length + (m.length + 1) - n ≤ l.length := by omega
  rw [drop_append_of_le_length start]
  simp

theorem newest_eq [DecidableEq α] : newest n l = l.dedup.reverse.take n := by
  induction l with
  | nil => simp [newest]
  | cons a l ih =>
    have step : newest n (a :: l) = _ := foldr_cons ..
    rw [step, ← newest, ih]
    by_cases room : l.dedup.length < n
    · rw [take_of_length_le (by rw [length_reverse]; omega)]
      by_cases seen : a ∈ l
      · simp [seen, take_of_length_le, room.le]
      · simp [seen, room, take_of_length_le, Nat.succ_le_of_lt room]
    · have full : n ≤ l.dedup.reverse.length := by simpa using room
      rw [if_neg (by rw [length_take, Nat.min_eq_left full]; simp)]
      by_cases seen : a ∈ l
      · rw [dedup_cons_of_mem seen]
      · rw [dedup_cons_of_notMem seen, reverse_cons, take_append_of_le_length full]

end Window
