/-! # Blank — white space at the ends of a text

A blank is a character that a text may carry at its ends without meaning
anything by it. There are twenty-nine: the separators of ASCII, the next-line
control, and the spaces and separators of Unicode. The zero-width characters are
NOT blank. -/

namespace SiliconBench.Text

/-- Whether a character is blank. -/
def isBlank (c : Char) : Bool :=
  let n := c.toNat
  decide (9 ≤ n ∧ n ≤ 13) || decide (0x1c ≤ n ∧ n ≤ 0x20) || n == 0x85 || n == 0xa0 ||
    n == 0x1680 || decide (0x2000 ≤ n ∧ n ≤ 0x200a) || n == 0x2028 || n == 0x2029 ||
    n == 0x202f || n == 0x205f || n == 0x3000

/-- The characters without the blanks at both ends. -/
def stripChars (cs : List Char) : List Char :=
  ((cs.dropWhile isBlank).reverse.dropWhile isBlank).reverse

end SiliconBench.Text
