/-! # Lines — where a text breaks

A text breaks into lines at the line and paragraph separators of Unicode and at
the vertical controls of ASCII. A carriage return FUSES with a line feed after
it into one break. A break ends a line and does not begin one, so a text that
ends in a break has no empty line after it.

Text files know fewer breaks: on reading, `newlines` turns a carriage return,
alone or with its line feed, into a line feed. -/

namespace SiliconBench.Text

/-- Whether a character breaks a line. -/
def isBreak (c : Char) : Bool :=
  let n := c.toNat
  decide (0x0a ≤ n ∧ n ≤ 0x0d) || decide (0x1c ≤ n ∧ n ≤ 0x1e) || n == 0x85 || n == 0x2028 ||
    n == 0x2029

/-- The lines of a text, given the open line and the finished ones, both backwards. -/
def linesFrom : List Char → List Char → List (List Char) → List (List Char)
  | [], [], done => done.reverse
  | [], c :: line, done => ((c :: line).reverse :: done).reverse
  | '\r' :: '\n' :: rest, line, done => linesFrom rest [] (line.reverse :: done)
  | c :: rest, line, done =>
    if isBreak c then linesFrom rest [] (line.reverse :: done)
    else linesFrom rest (c :: line) done

/-- The lines of a text, without their breaks. -/
def lines (cs : List Char) : List (List Char) :=
  linesFrom cs [] []

/-- A text file's characters, with `\n` for every way to end a line; the second
argument holds what is already read, backwards. -/
def newlinesFrom : List Char → List Char → List Char
  | [], done => done.reverse
  | '\r' :: '\n' :: rest, done => newlinesFrom rest ('\n' :: done)
  | '\r' :: rest, done => newlinesFrom rest ('\n' :: done)
  | c :: rest, done => newlinesFrom rest (c :: done)

/-- A text file's text. -/
def newlines (s : String) : String :=
  String.ofList (newlinesFrom s.toList [])

end SiliconBench.Text
