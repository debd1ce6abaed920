import SiliconBench.Decimal.Layout
import SiliconBench.Text.Quoted
import SiliconBench.Value.Basic

/-! # Display — values inside messages

A message shows a value the way it was given: a whole number without a point, a
double with one, a truth value as a word. A text is shown bare on its own, and
QUOTED inside a list or a table, where one could not tell otherwise where it
ends.

Whole numbers are shown however long they are: the limit of
`Decimal.wholeDigitLimit` digits is one on numerals that are READ, and a limit that
a runtime sets to writing is not modelled. Nor is one on how deep values are nested. -/

namespace SiliconBench.Value

mutual

/-- The value as a part of another: texts are quoted. -/
def inner : Value → String
  | .null => "None"
  | .bool b => if b then "True" else "False"
  | .whole n => toString n
  | .real x => Decimal.short x
  | .text s => Text.quoted s
  | .list items => "[" ++ ", ".intercalate (innerItems items) ++ "]"
  | .table entries => "\x7b" ++ ", ".intercalate (innerEntries entries) ++ "\x7d"

def innerItems : List Value → List String
  | [] => []
  | v :: rest => inner v :: innerItems rest

def innerEntries : List (String × Value) → List String
  | [] => []
  | (k, v) :: rest => (Text.quoted k ++ ": " ++ inner v) :: innerEntries rest

end

/-- The value on its own: a text is bare. -/
def display : Value → String
  | .text s => s
  | v => inner v

end SiliconBench.Value
