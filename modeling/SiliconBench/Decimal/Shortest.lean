import SiliconBench.Decimal.Binary64

/-! # Shortest — the fewest digits that read back

A double is written with as few decimal digits as still round to it, and of
those the nearest. The reals that round to the double `m · 2 ^ e` form an
interval around it, closed when `m` is even. A grid of decimals that has a point
in the interval has one among the double's TWO NEIGHBOURS on that grid, so it is
enough to look at those two, on the grids of 1, 2, … 17 digits in turn: seventeen
digits tell all doubles apart.

`toSignificant` is the other way to choose digits: so many of them, the last
rounded half to even on the exact value. -/

namespace SiliconBench.Decimal

/-- A decimal `coefficient · 10 ^ exponent`. -/
structure Digits where
  coefficient : Nat
  exponent : Int
  deriving Repr, DecidableEq

namespace Digits

/-- Drops at most `fuel` zeros at the end of the coefficient. -/
def dropZeros : Nat → Nat → Int → Digits
  | 0, c, k => ⟨c, k⟩
  | fuel + 1, c, k => if c ≠ 0 ∧ c % 10 = 0 then dropZeros fuel (c / 10) (k + 1) else ⟨c, k⟩

/-- The same decimal without zeros at the end of its coefficient. A number has
no more zeros at its end than binary digits. -/
def trimmed (d : Digits) : Digits :=
  dropZeros (d.coefficient.log2 + 1) d.coefficient d.exponent

/-- The coefficient's digits as text. -/
def text (d : Digits) : List Char :=
  Nat.toDigits 10 d.coefficient

/-- The exponent of the FIRST digit, the one that scientific notation shows. -/
def leading (d : Digits) : Int :=
  d.exponent + (d.text.length : Int) - 1

end Digits

/-- The greatest `t` with `10 ^ t ≤ num / den`, for a positive quotient. The
binary logarithm leaves three candidates. -/
def decimalOrder (num den : Nat) : Int :=
  let bits : Int := (num.log2 : Int) - (den.log2 : Int)
  let guess : Int := bits * 30103 / 100000
  let reaches (t : Int) : Bool :=
    let (p, q) := powerRatio 10 t
    decide (p * den ≤ num * q)
  if reaches (guess + 1) then guess + 1
  else if reaches guess then guess
  else if reaches (guess - 1) then guess - 1
  else guess - 2

/-- The point of the grid of multiples of `10 ^ k` that stands for the double
`m · 2 ^ e`, if one of the double's two neighbours on the grid rounds to it. -/
def gridPoint? (m : Nat) (e k : Int) : Option Nat :=
  -- all quantities are multiples of a quarter of the last bit, over `den`
  let (un, ud) := powerRatio 2 (e - 2)
  let (p, q) := powerRatio 10 (-k)
  let quarter := un * p
  let den := ud * q
  let value := 4 * m * quarter
  let below :=
    if m = hiddenBit ∧ leastExponent < e then (4 * m - 1) * quarter else (4 * m - 2) * quarter
  let above := (4 * m + 2) * quarter
  let inside (c : Nat) : Bool :=
    if m % 2 = 0 then decide (below ≤ c * den ∧ c * den ≤ above)
    else decide (below < c * den ∧ c * den < above)
  let lower := value / den
  let upper := lower + 1
  match inside lower, inside upper with
  | true, true =>
    let down := value - lower * den
    let up := upper * den - value
    some (if down < up then lower else if up < down then upper else lower + lower % 2)
  | true, false => some lower
  | false, true => some upper
  | false, false => none

/-- The first grid with a point, from the grid of `count` digits on. -/
def firstGrid (m : Nat) (e order : Int) : Nat → Nat → Digits
  | 0, count => ⟨0, order + 1 - count⟩
  | fuel + 1, count =>
    match gridPoint? m e (order + 1 - count) with
    | some c => ⟨c, order + 1 - count⟩
    | none => firstGrid m e order fuel (count + 1)

/-- The shortest digits of the positive double `m · 2 ^ e`. -/
def shortest (m : Nat) (e : Int) : Digits :=
  let (num, den) := magnitude m e
  (firstGrid m e (decimalOrder num den) 17 1).trimmed

/-- A positive quotient to `count` significant digits; all of them are kept. -/
def toSignificant (count num den : Nat) : Digits :=
  let k := decimalOrder num den + 1 - count
  let (p, q) := powerRatio 10 (-k)
  let c := nearestEven (num * p) (den * q)
  if c = Nat.pow 10 count then ⟨Nat.pow 10 (count - 1), k + 1⟩ else ⟨c, k⟩

end SiliconBench.Decimal
