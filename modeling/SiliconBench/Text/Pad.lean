/-! # Pad — texts in columns

A column is as wide as it says or as wide as its text, whichever is more; widths
count characters. -/

namespace SiliconBench.Text

/-- `count` copies of a character. -/
def repeated (c : Char) (count : Nat) : String :=
  String.ofList (List.replicate count c)

/-- The text at the left of a column. -/
def left (width : Nat) (s : String) : String :=
  s ++ repeated ' ' (width - s.length)

/-- The text at the right of a column. -/
def right (width : Nat) (s : String) : String :=
  repeated ' ' (width - s.length) ++ s

end SiliconBench.Text
