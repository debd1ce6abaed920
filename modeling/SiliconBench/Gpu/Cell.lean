import SiliconBench.Scalar.Basic

/-! # Cell — the numbers of per-core arrays

What holds for every core at once is computed in an arithmetic of its own, in
which nothing overflows: a quotient by zero is an infinity or undefined for
doubles, and the greatest of several numbers is undefined if one of them is. For
rationals such a quotient has no value, which `div` admits. `PerCore` leads from
the settings to the arrays and back. -/

namespace SiliconBench.Gpu

/-- Numbers of per-core arrays. -/
class Cell (κ : Type) extends Add κ, Sub κ, Mul κ, Neg κ where
  ofRational : Rat → κ
  /-- the quotient, where there is one -/
  div : κ → κ → Option κ
  lt : κ → κ → Bool
  /-- the greater of two -/
  greater : κ → κ → κ

/-- How settings of kind `α` enter arrays of kind `κ`, and come out again. -/
class PerCore (α : Type) (κ : outParam Type) where
  toCell : α → Result α κ
  ofCell : κ → α

namespace Cell

variable {κ : Type} [Cell κ]

/-- A literal. -/
def lit (κ : Type) [Cell κ] (q : Rat) : κ := ofRational q

/-- The sum of an array, taken from the left. Array libraries add up in pairs from eight
numbers on, so their sums of doubles may differ from this one in the last bits. Where
sums are exact there is no difference. -/
def sum (xs : List κ) : κ :=
  xs.foldl (· + ·) (lit κ 0)

/-- The greatest number of an array; zero for none. -/
def greatest : List κ → κ
  | [] => lit κ 0
  | x :: xs => xs.foldl greater x

/-- A quotient in a computation that cannot go on without it. -/
def quotient {α : Type} (x y : κ) : Result α κ :=
  match div x y with
  | some q => .ok q
  | none => .error .zeroDivision

end Cell

end SiliconBench.Gpu
