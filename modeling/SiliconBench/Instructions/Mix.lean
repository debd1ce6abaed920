import SiliconBench.Scalar.Basic
import SiliconBench.Text.Blank
import SiliconBench.Text.Lines
import SiliconBench.Warning

/-! # Mix — counting what a program does

A program is text. Its instructions are the lines that are neither blank nor a
comment as a whole; a comment at the end of a line stays on it. A line is a
memory instruction when a load or store mnemonic occurs ANYWHERE in it, be it in
a label. Lines past the cap are not counted. -/

namespace SiliconBench.Instructions

open Scalar

/-- The mnemonics of memory instructions. -/
def memoryMnemonics : List (List Char) := [['l', 'w'], ['s', 'w']]

/-- The character that begins a comment. -/
def commentMark : Char := '#'

/-- How many lines are counted unless another cap is given. -/
def defaultCap : Nat := 10000

/-- Whether a word occurs in a text. -/
def occursIn (word : List Char) : List Char → Bool
  | [] => word.isEmpty
  | c :: rest => word.isPrefixOf (c :: rest) || occursIn word rest

/-- Whether a line is a memory instruction. -/
def isMemory (line : List Char) : Bool :=
  memoryMnemonics.any fun m => occursIn m line

/-- Whether a line is an instruction. -/
def isInstruction (line : List Char) : Bool :=
  match Text.stripChars line with
  | [] => false
  | c :: _ => c != commentMark

/-- The instructions of a program. -/
def parse (program : List Char) : List (List Char) :=
  (Text.lines program).filter isInstruction

/-- What a stream of instructions is made of. -/
structure Mix (α : Type) where
  memory : α
  other : α
  /-- whether lines were left out -/
  truncated : α

/-- The counts of a stream so far. -/
structure Counts where
  memory : Nat
  other : Nat
  truncated : Bool
  deriving DecidableEq, Repr

variable {α : Type} [Scalar α]

/-- Counts instructions up to a cap, `memory + other` of which came before. -/
def countFrom (cap : α) : List (List Char) → Nat → Nat → Result α Counts
  | [], memory, other => .ok ⟨memory, other, false⟩
  | line :: rest, memory, other =>
    match le cap (whole α (memory + other : Nat)) with
    | .error e => .error e
    | .ok true => .ok ⟨memory, other, true⟩
    | .ok false =>
      if isMemory line then countFrom cap rest (memory + 1) other
      else countFrom cap rest memory (other + 1)

/-- Counts instructions up to a cap. -/
def count (cap : α) (lines : List (List Char)) : Result α Counts :=
  countFrom cap lines 0 0

namespace Counts

/-- The counts as a mix of a given kind of number. -/
def toMix (c : Counts) : Mix α :=
  ⟨whole α c.memory, whole α c.other, flag c.truncated⟩

end Counts

namespace Mix

/-- All counted instructions. -/
def total (m : Mix α) : Result α α := m.memory + m.other

/-- The fraction of memory instructions; zero for an empty stream. -/
def memoryRatio (m : Mix α) : Result α α := do
  let total ← m.total
  if ← lt (whole α 0) total then m.memory / total else return real α 0

/-- What a user should know about a stream that was counted up to a cap. -/
def warnings (m : Mix α) (cap : α) : List (Warning α) :=
  if isTrue m.truncated then [.capReached cap] else []

end Mix

end SiliconBench.Instructions
