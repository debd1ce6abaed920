import SiliconBench.Decimal.Shortest

/-! # Layout — the texts of a double

`Decimal.Shortest` decides WHICH digits stand for a double; this module decides
how they are laid out. There are four layouts:

* `short`: the digits that read back, positional from `1e-04` up to below
  `1e+16`, and always with a point or an exponent, so that a double never looks
  like a whole number;
* `fixed n`: exactly `n` digits after the point;
* `general n`: at most `n` significant digits, without zeros at the end;
* `percent n`: a hundred times the double, `fixed n`, and a percent sign.

A negative zero keeps its sign in all of them. -/

namespace SiliconBench.Decimal

/-- The spellings that all layouts share, and where the short one turns to an exponent. -/
structure Style where
  undefined : String
  infinite : String
  /-- the least exponent of the first digit that is written positionally -/
  positionalFrom : Int
  /-- the least exponent of the first digit that is no longer written positionally -/
  positionalBelow : Int
  /-- the least number of digits in a written exponent -/
  exponentWidth : Nat

/-- The one style of this library. -/
def style : Style :=
  { undefined := "nan", infinite := "inf", positionalFrom := -4, positionalBelow := 16,
    exponentWidth := 2 }

/-- A comma before every group of three digits, counted from the end; `count`
digits are still to come. -/
def groupDigits : List Char → Nat → List Char
  | [], _ => []
  | c :: rest, count =>
    if count % 3 = 1 ∧ count ≠ 1 then c :: ',' :: groupDigits rest (count - 1)
    else c :: groupDigits rest (count - 1)

/-- A whole number with a comma between thousands. -/
def groupedNat (n : Nat) : String :=
  let digits := Nat.toDigits 10 n
  String.ofList (groupDigits digits digits.length)

/-- Digits with the point after the first `point` of them, and zeros where the
point lies outside. The second part is empty for a whole number. -/
def placePoint (digits : List Char) (point : Int) : List Char × List Char :=
  if point ≤ 0 then (['0'], List.replicate (-point).toNat '0' ++ digits)
  else
    let k := point.toNat
    if digits.length ≤ k then (digits ++ List.replicate (k - digits.length) '0', [])
    else (digits.take k, digits.drop k)

/-- An exponent with its sign. -/
def exponentText (e : Int) : List Char :=
  let digits := Nat.toDigits 10 e.natAbs
  'e' :: (if e < 0 then '-' else '+') ::
    (List.replicate (style.exponentWidth - digits.length) '0' ++ digits)

/-- One digit, a point and the rest if there is a rest, and the exponent. -/
def scientific (digits : List Char) (e : Int) : List Char :=
  let rest := digits.drop 1
  digits.take 1 ++ (if rest.isEmpty then [] else '.' :: rest) ++ exponentText e

/-- A double laid out by `body`, which sees the magnitude of a finite one. -/
def layOut (body : Nat → Int → String) (x : Float) : String :=
  let signed (negative : Bool) (t : String) := if negative then "-" ++ t else t
  match Reading.of x with
  | .undefined => style.undefined
  | .infinite negative => signed negative style.infinite
  | .finite negative m e => signed negative (body m e)

/-- The short layout, its whole part written by `whole`. -/
def shortWith (whole : List Char → List Char) : Float → String :=
  layOut fun m e =>
    if m = 0 then "0.0"
    else
      let d := shortest m e
      let digits := d.text
      let lead := d.leading
      if style.positionalFrom ≤ lead ∧ lead < style.positionalBelow then
        let (i, f) := placePoint digits (lead + 1)
        String.ofList (whole i ++ '.' :: (if f.isEmpty then ['0'] else f))
      else String.ofList (scientific digits lead)

/-- The fewest digits that read back. -/
def short : Float → String :=
  shortWith id

/-- The same with a comma between thousands. -/
def shortGrouped : Float → String :=
  shortWith fun i => groupDigits i i.length

/-- Exactly `places` digits after the point, the whole part written by `whole`. -/
def fixedWith (whole : Nat → String) (places : Nat) : Float → String :=
  layOut fun m e =>
    let (num, den) := magnitude m e
    let unit := Nat.pow 10 places
    let n := nearestEven (num * unit) den
    let i := whole (n / unit)
    if places = 0 then i
    else
      let f := Nat.toDigits 10 (n % unit)
      i ++ "." ++ String.ofList (List.replicate (places - f.length) '0' ++ f)

/-- Exactly `places` digits after the point. -/
def fixed (places : Nat) : Float → String :=
  fixedWith toString places

/-- The same with a comma between thousands. -/
def fixedGrouped (places : Nat) : Float → String :=
  fixedWith groupedNat places

/-- At most `count` significant digits. -/
def general (count : Nat) : Float → String :=
  layOut fun m e =>
    if m = 0 then "0"
    else
      let (num, den) := magnitude m e
      let kept := toSignificant count num den
      let lead := kept.leading
      let digits := kept.trimmed.text
      if style.positionalFrom ≤ lead ∧ lead < (count : Int) then
        let (i, f) := placePoint digits (lead + 1)
        String.ofList (i ++ (if f.isEmpty then [] else '.' :: f))
      else String.ofList (scientific digits lead)

/-- A fraction as a percentage. -/
def percent (places : Nat) (x : Float) : String :=
  fixed places (x * 100.0) ++ "%"

/-- The double nearest to `x` among the decimals of at most `count` significant digits. -/
def roundSignificant (count : Nat) (x : Float) : Float :=
  match Reading.of x with
  | .finite negative m e =>
    if m = 0 then x
    else
      let (num, den) := magnitude m e
      let d := toSignificant count num den
      ofDecimal negative d.coefficient d.exponent
  | _ => x

end SiliconBench.Decimal
