import SiliconBench.Text.Printable

/-! # Quoted — a text between quotes

A quoted text shows exactly which characters it has. It stands between single
quotes, or between double quotes when it holds single quotes and no double ones;
the quote it stands in and the backslash are escaped, and so is every character
that is not printable: tab, line feed and carriage return by a letter, the others
by two, four or eight hexadecimal digits, as few as hold the code point. -/

namespace SiliconBench.Text

/-- A code point as hexadecimal digits, filled with zeros to `width`. -/
def hexDigits (width n : Nat) : List Char :=
  let digits := Nat.toDigits 16 n
  List.replicate (width - digits.length) '0' ++ digits

/-- One character inside quotes. -/
def quotedChar (quote c : Char) : List Char :=
  if c = quote ∨ c = '\\' then ['\\', c]
  else if c = '\n' then ['\\', 'n']
  else if c = '\r' then ['\\', 'r']
  else if c = '\t' then ['\\', 't']
  else if isPrintable c then [c]
  else
    let n := c.toNat
    if n < 0x100 then '\\' :: 'x' :: hexDigits 2 n
    else if n < 0x10000 then '\\' :: 'u' :: hexDigits 4 n
    else '\\' :: 'U' :: hexDigits 8 n

/-- The text between quotes. -/
def quoted (s : String) : String :=
  let cs := s.toList
  let quote := if cs.contains '\'' && !cs.contains '"' then '"' else '\''
  String.ofList (quote :: (cs.flatMap (quotedChar quote) ++ [quote]))

end SiliconBench.Text
