import SiliconBench.Scalar.Basic

/-! # Exact — the model over the rationals

Over the rationals a formula means what it says: every operation is exact, and
the only fault left is a division by zero. A flag is on when it is not zero. -/

namespace SiliconBench.Scalar

instance : Scalar Rat where
  ofWhole n := n
  ofRational q := q
  flag b := if b then 1 else 0
  add x y := .ok (x + y)
  sub x y := .ok (x - y)
  mul x y := .ok (x * y)
  div x y := if y = 0 then .error .zeroDivision else .ok (x / y)
  abs x := .ok (if x < 0 then -x else x)
  lt x y := .ok (decide (x < y))
  le x y := .ok (decide (x ≤ y))
  isWhole x n := decide (x = n)
  isTrue x := decide (x ≠ 0)
  toReal x := .ok x
  truncate x := .ok (x.num.tdiv x.den)
  divides x n := if x = 0 then .error .zeroDivision else .ok (decide (((n : Rat) / x).den = 1))
  ceiling x := x.ceil.toNat

end SiliconBench.Scalar
