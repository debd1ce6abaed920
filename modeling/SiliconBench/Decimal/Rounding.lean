/-! # Rounding — the nearest whole number, ties to even

Every conversion of the library (a ratio to a double, a double to a fixed
number of places, a double to so many significant digits) ends in ONE decision:
which whole number is nearest to a quotient of naturals, and where a half goes.
`nearestEven` is that decision. -/

namespace SiliconBench.Decimal

/-- The whole number nearest to `num / den`; a half goes to the EVEN neighbour. -/
def nearestEven (num den : Nat) : Nat :=
  let q := num / den
  let r := num % den
  if 2 * r < den then q
  else if den < 2 * r then q + 1
  else q + q % 2

/-- A power of `base` with a signed exponent, as a numerator and a denominator. -/
def powerRatio (base : Nat) : Int → Nat × Nat
  | .ofNat k => (Nat.pow base k, 1)
  | .negSucc k => (1, Nat.pow base (k + 1))

end SiliconBench.Decimal
