import SiliconBench.Decimal.Numeral
import SiliconBench.Scalar.Basic

/-! # Setting — arithmetic on the values of a settings file

Nothing keeps a caller from putting any value where a number belongs, so
arithmetic is defined on ALL values and faults where it has no meaning. Truth
values count as 0 and 1. A sum, a difference or a product of whole numbers is
whole and exact; a quotient never is whole, but it is correctly rounded even
where its operands are too large for a double. A whole number meets a double as
the nearest double in arithmetic and EXACTLY in a comparison. Texts and lists
can be added to their own kind and multiplied by a whole number, which repeats
them. -/

namespace SiliconBench.Value

/-- The two kinds of number. -/
inductive Number where
  | whole (n : Int)
  | real (x : Float)

/-- The number that a value counts as. -/
def number? : Value → Option Number
  | .bool b => some (.whole (if b then 1 else 0))
  | .whole n => some (.whole n)
  | .real x => some (.real x)
  | _ => none

/-- The number that a value counts as, where one is needed. -/
def number (v : Value) : Result Value Number :=
  match v.number? with
  | some n => .ok n
  | none => .error .wrongKind

/-- The nearest double of a number. -/
def Number.double : Number → Result Value Float
  | .whole n =>
    match Decimal.ofWhole? n with
    | some x => .ok x
    | none => .error .overflow
  | .real x => .ok x

/-- The nearest double of a value that counts as a number. -/
def double (v : Value) : Result Value Float := do
  (← v.number).double

/-- Exact on whole numbers, on the nearest doubles otherwise. -/
def combine (onWhole : Int → Int → Int) (onReal : Float → Float → Float) (v w : Value) :
    Result Value Value := do
  match ← v.number, ← w.number with
  | .whole a, .whole b => return .whole (onWhole a b)
  | a, b => return .real (onReal (← a.double) (← b.double))

/-- A list repeated. -/
def repeatList {β : Type} (xs : List β) : Nat → List β
  | 0 => []
  | k + 1 => xs ++ repeatList xs k

/-- The sum. -/
def add : Value → Value → Result Value Value
  | .text s, .text t => .ok (.text (s ++ t))
  | .list xs, .list ys => .ok (.list (xs ++ ys))
  | v, w => combine (· + ·) (· + ·) v w

/-- The bound on how often anything can be repeated: `2 ^ 63`. -/
def repeatLimit : Int := 0x8000000000000000

/-- How often something is repeated: not at all for a negative number. -/
def repeatCount {α : Type} (n : Int) : Result α Nat :=
  if -repeatLimit ≤ n ∧ n < repeatLimit then .ok n.toNat else .error .overflow

/-- A text or a list repeated; nothing for any other value. -/
def repeated? (v : Value) (n : Int) : Option (Result Value Value) :=
  match v with
  | .text s => some do
    let count ← repeatCount n
    return .text (String.ofList (repeatList s.toList count))
  | .list xs => some do
    let count ← repeatCount n
    return .list (repeatList xs count)
  | _ => none

/-- The product. -/
def mul (v w : Value) : Result Value Value :=
  match v.number?, w.number? with
  | none, some (.whole n) => (repeated? v n).getD (.error .wrongKind)
  | some (.whole n), none => (repeated? w n).getD (.error .wrongKind)
  | _, _ => combine (· * ·) (· * ·) v w

/-- The quotient. -/
def div (v w : Value) : Result Value Value := do
  match ← v.number, ← w.number with
  | .whole a, .whole b =>
    if b = 0 then .error .zeroDivision
    else
      match Decimal.ofQuotient? a b with
      | some x => return .real x
      | none => .error .overflow
  | a, b =>
    let x ← a.double
    let y ← b.double
    if y == 0.0 then .error .zeroDivision else return .real (x / y)

/-- How two numbers stand to each other; an undefined one stands nowhere. -/
def Number.compare : Number → Number → Option Ordering
  | .whole a, .whole b => some (Ord.compare a b)
  | .whole a, .real y => Decimal.compareWhole a y
  | .real x, .whole b => (Decimal.compareWhole b x).map Ordering.swap
  | .real x, .real y =>
    if x < y then some .lt else if y < x then some .gt else if x == y then some .eq else none

/-- Whether the first number is below the second. -/
def lt (v w : Value) : Result Value Bool := do
  return (← v.number).compare (← w.number) == some .lt

/-- Whether the first number is below the second or equal to it. -/
def le (v w : Value) : Result Value Bool := do
  let order := (← v.number).compare (← w.number)
  return order == some .lt || order == some .eq

/-- Whether a value is that whole number. -/
def isWhole (v : Value) (n : Int) : Bool :=
  match v.number? with
  | some m => m.compare (.whole n) == some .eq
  | none => false

/-- The magnitude. -/
def abs (v : Value) : Result Value Value := do
  match ← v.number with
  | .whole n => return .whole n.natAbs
  | .real x => return .real x.abs

/-- The double that a value stands for; a text may be a numeral. -/
def toReal : Value → Result Value Value
  | .text s =>
    match Decimal.readReal? s with
    | some x => .ok (.real x)
    | none => .error (.badValue (.notRealNumeral s))
  | v => do return .real (← v.double)

/-- The whole part; a text may be a whole numeral. -/
def truncate : Value → Result Value Int
  | .text s =>
    match Decimal.readWhole? s with
    | some n => .ok n
    | none => .error (.badValue (.notWholeNumeral s))
  | v => do
    match ← v.number with
    | .whole n => return n
    | .real x =>
      match Decimal.wholePart? x with
      | some n => return n
      | none => if x.isNaN then .error (.badValue .undefinedWhole) else .error .overflow

/-- Whether a natural number is a whole multiple of the value. Only zero is one
of an infinity. -/
def divides (v : Value) (n : Nat) : Result Value Bool := do
  match ← v.number with
  | .whole k => if k = 0 then .error .zeroDivision else return decide ((n : Int) % k = 0)
  | .real x =>
    match Decimal.Reading.of x with
    | .undefined => return false
    | .infinite _ => return n == 0
    | .finite _ m e =>
      if m = 0 then .error .zeroDivision
      else
        let (num, den) := Decimal.magnitude m e
        return decide (n * den % num = 0)

/-- The number that stands for one without end: `2 ^ 62`. -/
def endless : Nat := 0x4000000000000000

/-- A natural number not below the value. -/
def ceiling (v : Value) : Nat :=
  match v.number? with
  | none => 0
  | some (.whole n) => n.toNat
  | some (.real x) =>
    match Decimal.Reading.of x with
    | .undefined => endless
    | .infinite negative => if negative then 0 else endless
    | .finite negative m e =>
      let (num, den) := Decimal.magnitude m e
      if negative then 0 else (num + den - 1) / den

instance : Scalar Value where
  ofWhole n := .whole n
  ofRational q := .real (Decimal.ofRational q)
  flag := .bool
  add := add
  sub v w := combine (· - ·) (· - ·) v w
  mul := mul
  div := div
  abs := abs
  lt := lt
  le := le
  isWhole := isWhole
  isTrue := isTrue
  toReal := toReal
  truncate := truncate
  divides := divides
  ceiling := ceiling

end SiliconBench.Value
