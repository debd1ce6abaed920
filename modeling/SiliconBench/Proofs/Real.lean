import SiliconBench.Proofs.Field
import Mathlib.Algebra.Order.Archimedean.Real.Basic

/-!
# Real — the model over the reals

Nothing runs over the reals. They are there for what is said of a formula with a power
in it, because a power of a rational is hardly ever a rational.
-/

namespace SiliconBench.Scalar

open Classical in
noncomputable instance : Scalar ℝ where
  ofWhole n := n
  ofRational q := q
  flag b := if b then 1 else 0
  add x y := .ok (x + y)
  sub x y := .ok (x - y)
  mul x y := .ok (x * y)
  div x y := if y = 0 then .error .zeroDivision else .ok (x / y)
  abs x := .ok |x|
  lt x y := .ok (decide (x < y))
  le x y := .ok (decide (x ≤ y))
  isWhole x n := decide (x = n)
  isTrue x := decide (x ≠ 0)
  toReal x := .ok x
  truncate x := .ok (if x < 0 then ⌈x⌉ else ⌊x⌋)
  divides x n := if x = 0 then .error .zeroDivision else .ok (decide (∃ k : Int, n / x = k))
  ceiling x := ⌈x⌉₊

instance : LawfulField ℝ where
  whole_eq _ := rfl
  real_eq _ := rfl
  add_eq _ _ := rfl
  sub_eq _ _ := rfl
  mul_eq _ _ := rfl
  div_eq hy := if_neg hy
  lt_eq _ _ := rfl
  le_eq _ _ := rfl
  toReal_eq _ := rfl

instance : LawfulMagnitude ℝ where
  magnitude_eq _ := rfl
  isWhole_iff _ _ := decide_eq_true_iff

end SiliconBench.Scalar
