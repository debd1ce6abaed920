import SiliconBench.Fault
import SiliconBench.Text.Blank
import SiliconBench.Value.Display

/-! # Pattern — how memory is walked

The access pattern is a hint to both models: it scales the miss rates of the
caches, and the hit rate of a kernel. A pattern is named by a word, in any case
and with blanks around it. -/

namespace SiliconBench

/-- How addresses follow each other. -/
inductive Pattern where
  /-- unit stride: streaming, easy to prefetch -/
  | sequential
  /-- a regular stride: columns, tiles -/
  | strided
  /-- no locality to exploit -/
  | random
  deriving DecidableEq, Repr

namespace Pattern

/-- The word for a pattern. -/
def word : Pattern → String
  | .sequential => "sequential"
  | .strided => "strided"
  | .random => "random"

/-- All of them, the friendliest first. -/
def all : List Pattern := [.sequential, .strided, .random]

/-- How hard a pattern is on a cache, as its place among all of them. -/
def harshness : Pattern → Nat
  | .sequential => 0
  | .strided => 1
  | .random => 2

/-- The pattern that a text names. Only the case of ASCII letters matters here:
no other character has a letter of these words as its small form. -/
def ofText? (s : String) : Option Pattern :=
  let w := String.ofList ((Text.stripChars s.toList).map Char.toLower)
  all.find? fun p => p.word == w

/-- The pattern that a setting names. -/
def parse {α : Type} (v : Value) : Result α Pattern :=
  let shown := v.display
  match ofText? shown with
  | some p => .ok p
  | none => refuse (.unknownPattern shown)

end Pattern

end SiliconBench
