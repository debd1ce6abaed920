import SiliconBench.Decimal.Numeral
import SiliconBench.Value.Basic

/-! # Reader — values from JSON text

The reader takes the JSON standard at its word, with three spellings more: the
words for the infinities and for the undefined double. A number with a fraction
or an exponent is a double, any other a whole number. A key that comes twice
keeps its first place and its last value.

What is wrong with a text is said together with WHERE: the reader carries the
offset of the next character, and `Defect.message` turns it into a line and a
column.

Lists and tables are read however deep they are nested; the depth at which a runtime
gives up is not modelled. Half of a surrogate pair on its own is read as U+FFFD
(`unitChar`), also where other readers would keep it: no text here can hold it. -/

namespace SiliconBench.Value

/-- What a JSON text may lack or have too much of. -/
inductive Problem where
  | noValue
  | noName
  | noColon
  | noComma
  | extraData
  | openText
  | controlCharacter
  | badEscape
  | badUnit
  | byteOrderMark
  | longWhole (digits : Nat)

/-- A problem and the offset where it was met. -/
structure Defect where
  problem : Problem
  offset : Nat

namespace Defect

/-- The line and the column of the character at an offset. -/
def position (cs : List Char) (offset : Nat) : Nat × Nat :=
  (cs.take offset).foldl (fun (line, column) c =>
    if c = '\n' then (line + 1, 1) else (line, column + 1)) (1, 1)

/-- What is said of a problem, where the place does not matter. -/
def wording : Problem → String
  | .noValue => "Expecting value"
  | .noName => "Expecting property name enclosed in double quotes"
  | .noColon => "Expecting ':' delimiter"
  | .noComma => "Expecting ',' delimiter"
  | .extraData => "Extra data"
  | .openText => "Unterminated string starting at"
  | .controlCharacter => "Invalid control character at"
  | .badEscape => "Invalid \\escape"
  | .badUnit => "Invalid \\uXXXX escape"
  | .byteOrderMark => "Unexpected UTF-8 BOM (decode using utf-8-sig)"
  | .longWhole digits =>
    "Exceeds the limit (" ++ toString Decimal.wholeDigitLimit ++
      " digits) for integer string conversion: value has " ++ toString digits ++
      " digits; use sys.set_int_max_str_digits() to increase the limit"

/-- What is wrong with a text, and where. -/
def message (text : String) (d : Defect) : String :=
  match d.problem with
  | .longWhole _ => wording d.problem
  | problem =>
    let (line, column) := position text.toList d.offset
    wording problem ++ ": line " ++ toString line ++ " column " ++ toString column ++
      " (char " ++ toString d.offset ++ ")"

end Defect

/-- The characters still to read and the offset of the first of them. -/
structure Cursor where
  rest : List Char
  offset : Nat

namespace Cursor

/-- Moves past `k` characters. -/
def skip (c : Cursor) (k : Nat) : Cursor :=
  ⟨c.rest.drop k, c.offset + k⟩

/-- The four blanks of JSON. -/
def isGap (c : Char) : Bool :=
  c == ' ' || c == '\t' || c == '\n' || c == '\r'

/-- Moves past blanks. -/
def skipGaps (c : Cursor) : Cursor :=
  c.skip (c.rest.takeWhile isGap).length

/-- The next character. -/
def next? (c : Cursor) : Option Char :=
  c.rest.head?

/-- The defect of this place. -/
def fail {β : Type} (c : Cursor) (problem : Problem) : Except Defect β :=
  .error ⟨problem, c.offset⟩

end Cursor

/-- The value of a hexadecimal digit. -/
def hexDigit? (c : Char) : Option Nat :=
  if c.isDigit then some (c.toNat - 0x30)
  else if 'a' ≤ c ∧ c ≤ 'f' then some (c.toNat - 0x61 + 10)
  else if 'A' ≤ c ∧ c ≤ 'F' then some (c.toNat - 0x41 + 10)
  else none

/-- The value of four hexadecimal digits. -/
def hexUnit? (a b c d : Char) : Option Nat := do
  return (((← hexDigit? a) * 16 + (← hexDigit? b)) * 16 + (← hexDigit? c)) * 16 + (← hexDigit? d)

/-- The character of a UTF-16 unit. A surrogate on its own is no character. -/
def unitChar (n : Nat) : Char :=
  if 0xd800 ≤ n ∧ n < 0xe000 then '\ufffd' else Char.ofNat n

/-- The character that a letter after a backslash stands for. -/
def escaped? : Char → Option Char
  | '"' => some '"'
  | '\\' => some '\\'
  | '/' => some '/'
  | 'b' => some '\x08'
  | 'f' => some '\x0c'
  | 'n' => some '\n'
  | 'r' => some '\r'
  | 't' => some '\t'
  | _ => none

/-- Reads the rest of a text whose quote stands at `start`; `done` holds the
characters so far, backwards. A pair of surrogates is one character. -/
def readText (start : Nat) : List Char → Nat → List Char → Except Defect (String × Cursor)
  | [], _, _ => .error ⟨.openText, start⟩
  | '"' :: rest, i, done => .ok (String.ofList done.reverse, ⟨rest, i + 1⟩)
  | ['\\'], _, _ => .error ⟨.openText, start⟩
  | '\\' :: 'u' :: a :: b :: c :: d :: '\\' :: 'u' :: e :: f :: g :: h :: rest, i, done =>
    match hexUnit? a b c d with
    | none => .error ⟨.badUnit, i + 1⟩
    | some high =>
      if 0xd800 ≤ high ∧ high < 0xdc00 ∧ !rest.isEmpty then
        match hexUnit? e f g h with
        | none => .error ⟨.badUnit, i + 7⟩
        | some low =>
          if 0xdc00 ≤ low ∧ low < 0xe000 then
            let n := 0x10000 + (high - 0xd800) * 0x400 + (low - 0xdc00)
            readText start rest (i + 12) (Char.ofNat n :: done)
          else
            readText start ('\\' :: 'u' :: e :: f :: g :: h :: rest) (i + 6) (unitChar high :: done)
      else
        readText start ('\\' :: 'u' :: e :: f :: g :: h :: rest) (i + 6) (unitChar high :: done)
  | '\\' :: 'u' :: a :: b :: c :: d :: x :: rest, i, done =>
    match hexUnit? a b c d with
    | none => .error ⟨.badUnit, i + 1⟩
    | some n => readText start (x :: rest) (i + 6) (unitChar n :: done)
  | '\\' :: 'u' :: _, i, _ => .error ⟨.badUnit, i + 1⟩
  | '\\' :: c :: rest, i, done =>
    match escaped? c with
    | some d => readText start rest (i + 2) (d :: done)
    | none => .error ⟨.badEscape, i⟩
  | c :: rest, i, done =>
    if c.toNat ≤ 0x1f then .error ⟨.controlCharacter, i⟩
    else readText start rest (i + 1) (c :: done)
termination_by cs => cs.length

/-- Digits at the front, and the rest. -/
def spanDigits (cs : List Char) : List Char × List Char :=
  (cs.takeWhile Char.isDigit, cs.dropWhile Char.isDigit)

/-- The fraction of a number, if a point with a digit after it is there. -/
def fractionPart : List Char → Option (List Char) × List Char
  | '.' :: rest =>
    match spanDigits rest with
    | ([], _) => (none, '.' :: rest)
    | (ds, after) => (some ds, after)
  | rest => (none, rest)

/-- The exponent of a number, if its letter has digits after it. -/
def exponentPart : List Char → Option (Bool × List Char) × List Char
  | e :: rest =>
    if e = 'e' ∨ e = 'E' then
      let (negative, body) := Decimal.splitSign rest
      match spanDigits body with
      | ([], _) => (none, e :: rest)
      | (ds, after) => (some (negative, ds), after)
    else (none, e :: rest)
  | [] => (none, [])

/-- Reads a number. -/
def readNumber (c : Cursor) : Except Defect (Value × Cursor) :=
  let (negative, body) : Bool × List Char :=
    match c.rest with
    | '-' :: rest => (true, rest)
    | rest => (false, rest)
  let whole : List Char × List Char :=
    match body with
    | '0' :: rest => (['0'], rest)
    | rest => spanDigits rest
  match whole with
  | ([], _) => c.fail .noValue
  | (ds, rest) =>
    let (fraction, rest) := fractionPart rest
    let (exponent, rest) := exponentPart rest
    let after : Cursor := ⟨rest, c.offset + (c.rest.length - rest.length)⟩
    match fraction, exponent with
    | none, none =>
      if Decimal.wholeDigitLimit < ds.length then c.fail (.longWhole ds.length)
      else
        let n : Int := Decimal.digitsValue ds
        .ok (.whole (if negative then -n else n), after)
    | _, _ =>
      let power : Int :=
        match exponent with
        | none => 0
        | some (negative, es) =>
          if negative then -(Decimal.digitsValue es : Int) else Decimal.digitsValue es
      .ok (.real (Decimal.decimalDouble negative ds (fraction.getD []) power), after)

/-- The words that are values. -/
def words : List (String × Value) :=
  [("null", .null), ("true", .bool true), ("false", .bool false), ("NaN", .real (0.0 / 0.0)),
    ("Infinity", .real (1.0 / 0.0)), ("-Infinity", .real (-(1.0 / 0.0)))]

/-- Reads a value that is a word or a number. -/
def readAtom (c : Cursor) : Except Defect (Value × Cursor) :=
  match words.find? fun (w, _) => w.toList.isPrefixOf c.rest with
  | some (w, v) => .ok (v, c.skip w.length)
  | none => readNumber c

mutual

/-- Reads a value. Every list and table that is entered uses up one unit of
`fuel`, and every item of one too, so the length of the text is always enough. -/
def readValue (fuel : Nat) (c : Cursor) : Except Defect (Value × Cursor) :=
  match fuel with
  | 0 => c.fail .noValue
  | fuel + 1 =>
    match c.next? with
    | none => c.fail .noValue
    | some '"' =>
      match readText c.offset (c.rest.drop 1) (c.offset + 1) [] with
      | .ok (s, after) => .ok (.text s, after)
      | .error d => .error d
    | some '[' =>
      let inside := (c.skip 1).skipGaps
      if inside.next? = some ']' then .ok (.list [], inside.skip 1)
      else readItems fuel inside []
    | some '\x7b' =>
      let inside := (c.skip 1).skipGaps
      if inside.next? = some '\x7d' then .ok (.table [], inside.skip 1)
      else readEntries fuel inside []
    | some _ => readAtom c

/-- Reads the items of a list, one at least; `done` holds those before, backwards. -/
def readItems (fuel : Nat) (c : Cursor) (done : List Value) : Except Defect (Value × Cursor) :=
  match fuel with
  | 0 => c.fail .noValue
  | fuel + 1 =>
    match readValue fuel c with
    | .error d => .error d
    | .ok (v, after) =>
      let after := after.skipGaps
      match after.next? with
      | some ']' => .ok (.list (v :: done).reverse, after.skip 1)
      | some ',' => readItems fuel (after.skip 1).skipGaps (v :: done)
      | _ => after.fail .noComma

/-- Reads the entries of a table, one at least. -/
def readEntries (fuel : Nat) (c : Cursor) (done : List (String × Value)) :
    Except Defect (Value × Cursor) :=
  match fuel with
  | 0 => c.fail .noValue
  | fuel + 1 =>
    if c.next? ≠ some '"' then c.fail .noName
    else
      match readText c.offset (c.rest.drop 1) (c.offset + 1) [] with
      | .error d => .error d
      | .ok (key, after) =>
        let colon := after.skipGaps
        if colon.next? ≠ some ':' then colon.fail .noColon
        else
          match readValue fuel (colon.skip 1).skipGaps with
          | .error d => .error d
          | .ok (v, after) =>
            let after := after.skipGaps
            let done := putEntry key v done
            match after.next? with
            | some '\x7d' => .ok (.table done, after.skip 1)
            | some ',' => readEntries fuel (after.skip 1).skipGaps done
            | _ => after.fail .noComma

end

/-- Reads a whole text. -/
def ofJson (s : String) : Except Defect Value :=
  let cs := s.toList
  if cs.head? = some '\ufeff' then .error ⟨.byteOrderMark, 0⟩
  else
    let start : Cursor := ⟨cs, 0⟩
    match readValue (2 * cs.length + 2) start.skipGaps with
    | .error d => .error d
    | .ok (v, after) =>
      let after := after.skipGaps
      if after.rest.isEmpty then .ok v else after.fail .extraData

end SiliconBench.Value
