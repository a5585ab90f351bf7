import Mathlib.Algebra.Order.BigOperators.Group.List
import Mathlib.Algebra.Order.Field.Rat
import Mathlib.Tactic.Linarith
import Swimlane.Length

/-!
# Exact lengths

Measured with rational numbers a drawing has an exact geometry.  Here the operations on
lengths are read as those on the rational numbers, and the largest of a list is bounded.
-/

namespace Swimlane

namespace Length

@[simp] theorem zero_eq : (zero : Rat) = 0 := rfl

@[simp] theorem twice_eq (x : Rat) : twice x = x * 2 := rfl

@[simp] theorem half_eq (x : Rat) : half x = x / 2 := rfl

@[simp] theorem times_eq (x : Rat) (n : Nat) : times x n = x * n := rfl

@[simp] theorem larger_eq (x y : Rat) : larger x y = max x y := by
  show (if x < y then y else x) = max x y
  rw [max_def]
  split
  · next hlt => rw [if_pos (le_of_lt hlt)]
  · next hle =>
    split
    · next hge => exact le_antisymm hge (not_lt.1 hle)
    · rfl

@[simp] theorem smaller_eq (x y : Rat) : smaller x y = min x y := by
  show (if y < x then y else x) = min x y
  rw [min_def]
  split
  · next hlt => rw [if_neg (not_le.2 hlt)]
  · next hle => rw [if_pos (not_lt.1 hle)]

@[simp] theorem atMost_eq (x y : Rat) : atMost x y = decide (x ≤ y) := rfl

theorem sum_eq (xs : List Rat) : sum xs = xs.sum := by
  have hfold (xs : List Rat) (x : Rat) : xs.foldl (· + ·) x = x + xs.sum := by
    induction xs generalizing x with
    | nil => rw [List.foldl_nil, List.sum_nil, add_zero]
    | cons y xs ih => rw [List.foldl_cons, ih, List.sum_cons, add_assoc]
  cases xs with
  | nil => rfl
  | cons x xs => exact (hfold xs x).trans List.sum_cons.symm

/-! ## The largest of a list -/

theorem le_largest (floor : Rat) (xs : List Rat) : floor ≤ largest floor xs := by
  rw [largest]
  induction xs generalizing floor with
  | nil => exact le_refl floor
  | cons x xs ih =>
    rw [List.foldl_cons, larger_eq]
    exact (le_max_left floor x).trans (ih _)

theorem le_largest_of_mem (floor : Rat) {x : Rat} {xs : List Rat} (h : x ∈ xs) :
    x ≤ largest floor xs := by
  rw [largest]
  induction xs generalizing floor with
  | nil => exact absurd h List.not_mem_nil
  | cons y xs ih =>
    rw [List.foldl_cons, larger_eq]
    rcases List.mem_cons.1 h with rfl | hrest
    · exact (le_max_right floor x).trans (le_largest _ xs)
    · exact ih _ hrest

/-- A length that was moved into a range is at least its lower end. -/
theorem le_clamp {low high : Rat} (h : low ≤ high) (x : Rat) : low ≤ clamp low high x := by
  have hless (a b : Rat) : less a b = decide (a < b) := rfl
  simp only [clamp, hless, decide_eq_true_eq]
  by_cases hlow : x < low
  · rw [if_pos hlow, if_neg (not_lt.2 h)]
  · rw [if_neg hlow]
    by_cases hhigh : high < x
    · rw [if_pos hhigh]
      exact h
    · rw [if_neg hhigh]
      exact not_lt.1 hlow

end Length

end Swimlane
