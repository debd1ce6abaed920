import SiliconBench.Decimal.Rounding

/-! # Binary64 — doubles read and written exactly

A double is a sign, a whole number and a power of two. `Reading.of` takes a
double apart through its bits, so that everything said ABOUT doubles elsewhere
(their decimal text, their order among the integers) is said in exact integer
arithmetic. The other direction, `ofRatio?`, is correct rounding: the double
nearest to a quotient of naturals, a half going to the even significand, and
nothing at all where the quotient is too large for any finite double. -/

namespace SiliconBench.Decimal

/-- What the bits of a double stand for. -/
inductive Reading where
  /-- the value `± significand · 2 ^ exponent` -/
  | finite (negative : Bool) (significand : Nat) (exponent : Int)
  | infinite (negative : Bool)
  | undefined

/-- The least exponent of a double's last bit. -/
def leastExponent : Int := -1074

/-- The bit of a significand that its double does not store: `2 ^ 52`. -/
def hiddenBit : Nat := 0x10000000000000

/-- The values that an exponent field can have: `2 ^ 11`. -/
def fieldCount : Nat := 0x800

/-- The bit of the sign: `2 ^ 63`. -/
def signBit : Nat := 0x8000000000000000

/-- The bits of positive infinity, one past those of the largest finite double. -/
def infinityBits : Nat := 0x7ff0000000000000

namespace Reading

/-- Takes a double apart. -/
def of (x : Float) : Reading :=
  let bits := x.toBits.toNat
  let negative := decide (signBit ≤ bits)
  let field := bits / hiddenBit % fieldCount
  let fraction := bits % hiddenBit
  if field = fieldCount - 1 then
    if fraction = 0 then .infinite negative else .undefined
  else if field = 0 then .finite negative fraction leastExponent
  else .finite negative (hiddenBit + fraction) (leastExponent + (field - 1 : Nat))

end Reading

/-- The magnitude of `significand · 2 ^ exponent` as a numerator and a denominator. -/
def magnitude (significand : Nat) (exponent : Int) : Nat × Nat :=
  let (p, q) := powerRatio 2 exponent
  (significand * p, q)

/-- The bits of the double nearest to `num / den`, before the check for range.
The scale is the one at which the quotient has 53 bits, but never finer than
the least exponent; rounding up to a power of two CARRIES into the exponent
field, which is exactly the next double. -/
def nearestBits (num den : Nat) : Nat :=
  let scaled (e : Int) : Nat × Nat :=
    let (p, q) := powerRatio 2 (-e)
    (num * p, den * q)
  let guess : Int := (num.log2 : Int) - (den.log2 : Int) - 52
  let (gn, gd) := scaled guess
  let exact := if gn / gd < hiddenBit then guess - 1 else guess
  let e := max exact leastExponent
  let (n, d) := scaled e
  nearestEven n d + (e - leastExponent).toNat * hiddenBit

/-- The double nearest to `num / den`, if there is a finite one. -/
def ofRatio? (num den : Nat) : Option Float :=
  if num = 0 then some 0.0
  else
    let bits := nearestBits num den
    if bits < infinityBits then some (Float.ofBits (UInt64.ofNat bits)) else none

/-- The double nearest to a whole number, if there is a finite one. -/
def ofWhole? (n : Int) : Option Float :=
  (ofRatio? n.natAbs 1).map fun x => if n < 0 then -x else x

/-- The double nearest to a quotient of whole numbers. The sign is that of the
operands even where the quotient is zero. -/
def ofQuotient? (a b : Int) : Option Float :=
  (ofRatio? a.natAbs b.natAbs).map fun x => if (decide (a < 0)) != (decide (b < 0)) then -x else x

/-- The double nearest to a rational. It is infinite where none is near. -/
def ofRational (q : Rat) : Float :=
  match ofRatio? q.num.natAbs q.den with
  | some x => if q.num < 0 then -x else x
  | none => if q.num < 0 then -(1.0 / 0.0) else 1.0 / 0.0

/-- The double nearest to `± coefficient · 10 ^ exponent`. Past four hundred
places on either side the answer is an infinity or a zero whatever the digits
are, so no power of ten beyond that is ever written out. -/
def ofDecimal (negative : Bool) (coefficient : Nat) (exponent : Int) : Float :=
  let top : Int := exponent + (Nat.toDigits 10 coefficient).length
  let x :=
    if coefficient = 0 then 0.0
    else if top < -400 then 0.0
    else if 400 < top then 1.0 / 0.0
    else
      let (p, q) := powerRatio 10 exponent
      (ofRatio? (coefficient * p) q).getD (1.0 / 0.0)
  if negative then -x else x

/-- How a whole number stands to a double, decided exactly; nothing stands
anywhere to an undefined one. -/
def compareWhole (n : Int) (x : Float) : Option Ordering :=
  match Reading.of x with
  | .undefined => none
  | .infinite negative => some (if negative then .gt else .lt)
  | .finite negative m e =>
    let (num, den) := magnitude m e
    some (compare (n * den) (if negative then -(num : Int) else num))

/-- The whole part of a finite double, toward zero. -/
def wholePart? (x : Float) : Option Int :=
  match Reading.of x with
  | .finite negative m e =>
    let (num, den) := magnitude m e
    some (if negative then -((num / den : Nat) : Int) else ((num / den : Nat) : Int))
  | _ => none

end SiliconBench.Decimal
