import SiliconBench.Decimal.Layout
import SiliconBench.Text.Quoted
import SiliconBench.Value.Basic

/-! # Writer — values as JSON text

The text holds ASCII only: every other character is written by its UTF-16 units.
Infinities and the undefined double have no spelling in the standard and are
written as the words that the reader knows. There is one writer for both forms
of the text; they differ in what stands between the items of a list or a table. -/

namespace SiliconBench.Value

/-- One UTF-16 unit. -/
def unitText (n : Nat) : String :=
  String.ofList ('\\' :: 'u' :: Text.hexDigits 4 n)

/-- One character of a JSON text. -/
def jsonChar (c : Char) : String :=
  let n := c.toNat
  if c = '"' then "\\\""
  else if c = '\\' then "\\\\"
  else if c = '\n' then "\\n"
  else if c = '\r' then "\\r"
  else if c = '\t' then "\\t"
  else if n = 8 then "\\b"
  else if n = 12 then "\\f"
  else if 0x20 ≤ n ∧ n < 0x7f then c.toString
  else if n < 0x10000 then unitText n
  else unitText (0xd800 + (n - 0x10000) / 0x400) ++ unitText (0xdc00 + (n - 0x10000) % 0x400)

/-- A text between double quotes. -/
def jsonText (s : String) : String :=
  "\"" ++ String.join (s.toList.map jsonChar) ++ "\""

/-- A double. -/
def jsonReal (x : Float) : String :=
  match Decimal.Reading.of x with
  | .undefined => "NaN"
  | .infinite negative => if negative then "-Infinity" else "Infinity"
  | .finite _ _ _ => Decimal.short x

mutual

/-- Writes a value `depth` levels deep; `gap depth` stands before each item, and
before the closing bracket of the level above. -/
def writeWith (gap : Nat → String) (depth : Nat) : Value → String
  | .null => "null"
  | .bool b => if b then "true" else "false"
  | .whole n => toString n
  | .real x => jsonReal x
  | .text s => jsonText s
  | .list [] => "[]"
  | .list (v :: rest) =>
    "[" ++ gap (depth + 1) ++ writeWith gap (depth + 1) v ++ writeItems gap (depth + 1) rest ++
      gap depth ++ "]"
  | .table [] => "\x7b\x7d"
  | .table ((k, v) :: rest) =>
    "\x7b" ++ gap (depth + 1) ++ jsonText k ++ ": " ++ writeWith gap (depth + 1) v ++
      writeEntries gap (depth + 1) rest ++ gap depth ++ "\x7d"

def writeItems (gap : Nat → String) (depth : Nat) : List Value → String
  | [] => ""
  | v :: rest => "," ++ gap depth ++ writeWith gap depth v ++ writeItems gap depth rest

def writeEntries (gap : Nat → String) (depth : Nat) : List (String × Value) → String
  | [] => ""
  | (k, v) :: rest =>
    "," ++ gap depth ++ jsonText k ++ ": " ++ writeWith gap depth v ++ writeEntries gap depth rest

end

/-- JSON text on one line. -/
def toJson : Value → String :=
  writeWith (fun _ => "") 0

/-- JSON text with one item a line, two blanks further in at each level. -/
def toJsonLines : Value → String :=
  writeWith (fun depth => "\n" ++ String.ofList (List.replicate (2 * depth) ' ')) 0

end SiliconBench.Value
