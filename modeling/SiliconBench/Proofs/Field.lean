import SiliconBench.Proofs.Answer
import SiliconBench.Scalar.Exact
import Mathlib.Algebra.Order.Field.Rat
import Mathlib.Algebra.Order.Group.Abs
import Mathlib.Data.Rat.Cast.Order
import Mathlib.Tactic.NormNum

/-!
# Field — arithmetic that is exact

Arithmetic is EXACT where operations are those of an ordered field, comparisons are
those of its order, and a quotient by zero is all that can fail. What is said of a
formula in any such arithmetic holds over the rationals, and over the reals too, where
powers live that no rational comes to.
-/

namespace SiliconBench.Scalar

/-- Operations are those of the field and comparisons those of its order. -/
class LawfulField (α : Type) [Field α] [LinearOrder α] [Scalar α] : Prop where
  whole_eq (n : Int) : whole α n = n
  real_eq (q : Rat) : real α q = q
  add_eq (x y : α) : add x y = .ok (x + y)
  sub_eq (x y : α) : sub x y = .ok (x - y)
  mul_eq (x y : α) : mul x y = .ok (x * y)
  div_eq {x y : α} (hy : y ≠ 0) : div x y = .ok (x / y)
  lt_eq (x y : α) : lt x y = .ok (decide (x < y))
  le_eq (x y : α) : le x y = .ok (decide (x ≤ y))
  toReal_eq (x : α) : toReal x = .ok x

export LawfulField (whole_eq real_eq add_eq sub_eq mul_eq div_eq lt_eq le_eq toReal_eq)

instance : LawfulField Rat where
  whole_eq _ := rfl
  real_eq _ := rfl
  add_eq _ _ := rfl
  sub_eq _ _ := rfl
  mul_eq _ _ := rfl
  div_eq hy := if_neg hy
  lt_eq _ _ := rfl
  le_eq _ _ := rfl
  toReal_eq _ := rfl

/-- Magnitudes are those of the field as well, and a number is found to be a whole one
exactly where it is. -/
class LawfulMagnitude (α : Type) [Field α] [LinearOrder α] [Scalar α] : Prop
    extends LawfulField α where
  magnitude_eq (x : α) : abs x = .ok |x|
  isWhole_iff (x : α) (n : Int) : isWhole x n = true ↔ x = n

export LawfulMagnitude (magnitude_eq isWhole_iff)

instance : LawfulMagnitude Rat where
  magnitude_eq x := by
    show Except.ok (if x < 0 then -x else x) = _
    split
    · rw [abs_of_neg ‹_›]
    · rw [abs_of_nonneg (not_lt.mp ‹_›)]
  isWhole_iff _ _ := decide_eq_true_iff

variable {α : Type} [Field α] [LinearOrder α] [Scalar α] [LawfulField α]

theorem least_eq_min (x y : α) : least x y = .ok (min x y) := by
  rcases lt_or_ge y x with h | h
  · simp [least, lt_eq, h, min_eq_right h.le]
  · simp [least, lt_eq, not_lt.mpr h, min_eq_left h]

theorem greatest_eq_max (x y : α) : greatest x y = .ok (max x y) := by
  rcases lt_or_ge x y with h | h
  · simp [greatest, lt_eq, h, max_eq_right h.le]
  · simp [greatest, lt_eq, not_lt.mpr h, max_eq_left h]

/-! ## Requirements -/

variable {name : String} {x : α} {u : Unit}

theorem requireNonNegative_ok_iff : requireNonNegative name x = .ok u ↔ 0 ≤ x := by
  simp [requireNonNegative, refuse, lt_eq, whole_eq]

theorem requireFraction_ok_iff : requireFraction name x = .ok u ↔ 0 ≤ x ∧ x ≤ 1 := by
  simp [requireFraction, refuse, le_eq, real_eq]

end SiliconBench.Scalar
