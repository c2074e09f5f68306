import Mathlib.Algebra.Order.Ring.Nat

/-!
# Saturating unsigned arithmetic

Addition and multiplication that stop at the largest value of a bit width. Values are naturals; the
width is a parameter, so one set of lemmas serves every unsigned type.
-/

namespace Saturating

/-- The largest unsigned value of a width. -/
def top (bits : Nat) : Nat := 2 ^ bits - 1

/-- `saturating_add`. -/
def add (bits left right : Nat) : Nat := min (left + right) (top bits)

/-- `saturating_mul`. -/
def mul (bits left right : Nat) : Nat := min (left * right) (top bits)

variable {bits left right : Nat}

/-- A value within the width stays at most the sum. -/
theorem le_add (fits : left ≤ top bits) : left ≤ add bits left right := by
  unfold add
  omega

/-- Saturating on the way changes nothing once the sum saturates. -/
theorem add_min_left : add bits (min left (top bits)) right = min (left + right) (top bits) := by
  unfold add
  omega

/-- Saturating the right operand changes nothing once the sum saturates. -/
theorem add_min_right : add bits left (min right (top bits)) = min (left + right) (top bits) := by
  unfold add
  omega

/-- Saturating a factor changes nothing once the product saturates. -/
theorem mul_min_left : mul bits (min left (top bits)) right = min (left * right) (top bits) := by
  unfold mul
  rcases Nat.le_total left (top bits) with fits | exceeds
  · rw [Nat.min_eq_left fits]
  · rw [Nat.min_eq_right exceeds]
    rcases Nat.eq_zero_or_pos right with rfl | positive
    · rfl
    · have saturated := Nat.le_mul_of_pos_right (top bits) positive
      have exact := Nat.mul_le_mul_right right exceeds
      rw [Nat.min_eq_right saturated, Nat.min_eq_right (saturated.trans exact)]

/-- A saturating sum is the exact sum, cut off at the top. -/
theorem foldl_add (values : List Nat) (start : Nat) (fits : start ≤ top bits) :
    values.foldl (add bits) start = min (start + values.sum) (top bits) := by
  induction values generalizing start with
  | nil =>
    rw [List.foldl_nil, List.sum_nil]
    omega
  | cons value rest ih =>
    have below : add bits start value ≤ top bits := Nat.min_le_right _ _
    rw [List.foldl_cons, ih _ below, List.sum_cons]
    unfold add
    omega

end Saturating
