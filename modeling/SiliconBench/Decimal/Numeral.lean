import SiliconBench.Decimal.Binary64
import SiliconBench.Text.Blank
import SiliconBench.Text.Digit

/-! # Numeral — numbers as people type them

A typed numeral may have blanks at its ends, a sign, digits of any script, and a
single underscore BETWEEN two digits. A whole numeral has nothing else; a real
one may have a point and an exponent, or be one of the words for infinity and
for no number at all, in any case. Whole numerals of more than 4300 digits are
refused. -/

namespace SiliconBench.Decimal

/-- The most digits that a whole numeral may have. -/
def wholeDigitLimit : Nat := 4300

/-- Digits of any script turned into those of ASCII. -/
def plainDigit (c : Char) : Char :=
  match Text.digit? c with
  | some d => Char.ofNat (0x30 + d)
  | none => c

/-- Takes out the underscores, if each stands between two digits; the first
argument says whether a digit came just before. -/
def dropUnderscores : Bool → List Char → Option (List Char)
  | _, [] => some []
  | before, '_' :: rest =>
    match rest with
    | [] => none
    | c :: _ => if before && c.isDigit then dropUnderscores false rest else none
  | _, c :: rest => (dropUnderscores c.isDigit rest).map (c :: ·)

/-- A sign, if there is one, and the rest. -/
def splitSign : List Char → Bool × List Char
  | '-' :: rest => (true, rest)
  | '+' :: rest => (false, rest)
  | rest => (false, rest)

/-- The number that a list of digits stands for. -/
def digitsValue (ds : List Char) : Nat :=
  ds.foldl (fun n c => 10 * n + (c.toNat - 0x30)) 0

/-- A numeral without the freedoms: no blanks at the ends, digits of ASCII, no underscores. -/
def plainNumeral (s : String) : Option (List Char) :=
  dropUnderscores false ((Text.stripChars s.toList).map plainDigit)

/-- Reads a whole numeral. -/
def readWhole? (s : String) : Option Int := do
  let (negative, ds) := splitSign (← plainNumeral s)
  guard (!ds.isEmpty && ds.all Char.isDigit && decide (ds.length ≤ wholeDigitLimit))
  return if negative then -(digitsValue ds : Int) else digitsValue ds

/-- Reads an exponent, which must be there in full once its letter is. -/
def readExponent? : List Char → Option Int
  | [] => some 0
  | c :: rest =>
    if c = 'e' ∨ c = 'E' then
      let (negative, ds) := splitSign rest
      if ds.isEmpty || !ds.all Char.isDigit then none
      else some (if negative then -(digitsValue ds : Int) else digitsValue ds)
    else none

/-- The double of a sign, the digits before and after the point, and an exponent. -/
def decimalDouble (negative : Bool) (whole fraction : List Char) (exponent : Int) : Float :=
  ofDecimal negative (digitsValue (whole ++ fraction)) (exponent - fraction.length)

/-- Reads a real numeral. -/
def readReal? (s : String) : Option Float := do
  let (negative, body) := splitSign (← plainNumeral s)
  let word := String.ofList (body.map Char.toLower)
  let signed (x : Float) : Float := if negative then -x else x
  if word = "inf" ∨ word = "infinity" then return signed (1.0 / 0.0)
  if word = "nan" then return 0.0 / 0.0
  let whole := body.takeWhile Char.isDigit
  match body.dropWhile Char.isDigit with
  | '.' :: rest =>
    let fraction := rest.takeWhile Char.isDigit
    guard (!(whole.isEmpty && fraction.isEmpty))
    return decimalDouble negative whole fraction (← readExponent? (rest.dropWhile Char.isDigit))
  | rest =>
    guard (!whole.isEmpty)
    return decimalDouble negative whole [] (← readExponent? rest)

end SiliconBench.Decimal
