import SiliconBench.Fault

/-! # Scalar — the numbers the model computes with

Every formula of the model is written ONCE, over any kind of number with the
operations of `Scalar`. Two kinds matter: the values of a settings file
(`SiliconBench.Scalar.Setting`), where a sum may overflow or meet a text, and
the rationals (`SiliconBench.Scalar.Exact`), where only a division by zero can
fail. What is said about a formula over the rationals is thus said about the
formula that runs.

Arithmetic is written with the usual signs on `Result α α`, into which numbers
are lifted: operands are evaluated from left to right and the first fault wins.
A literal is `whole α n` or `real α q`, because the two kinds of number in a
settings file are never confused. -/

namespace SiliconBench

/-- A kind of number that the model can compute with. -/
class Scalar (α : Type) where
  /-- a whole number -/
  ofWhole : Int → α
  /-- a number of the fractional kind -/
  ofRational : Rat → α
  /-- a truth value -/
  flag : Bool → α
  add : α → α → Result α α
  sub : α → α → Result α α
  mul : α → α → Result α α
  div : α → α → Result α α
  abs : α → Result α α
  lt : α → α → Result α Bool
  le : α → α → Result α Bool
  /-- whether a value is that whole number, which can be asked of any value -/
  isWhole : α → Int → Bool
  /-- whether a value counts as true, which can be asked of any value -/
  isTrue : α → Bool
  /-- the same number, of the fractional kind -/
  toReal : α → Result α α
  /-- the whole part, toward zero -/
  truncate : α → Result α Int
  /-- whether the natural number is a whole multiple of the value -/
  divides : α → Nat → Result α Bool
  /-- a natural number not below the value, if there is one -/
  ceiling : α → Nat

namespace Scalar

/-- A whole literal. -/
def whole (α : Type) [Scalar α] (n : Int) : α := ofWhole n

/-- A literal of the fractional kind. -/
def real (α : Type) [Scalar α] (q : Rat) : α := ofRational q

variable {α : Type} [Scalar α]

instance : Coe α (Result α α) := ⟨.ok⟩

instance : Add (Result α α) := ⟨fun a b => a >>= fun x => b >>= fun y => add x y⟩
instance : Sub (Result α α) := ⟨fun a b => a >>= fun x => b >>= fun y => sub x y⟩
instance : Mul (Result α α) := ⟨fun a b => a >>= fun x => b >>= fun y => mul x y⟩
instance : Div (Result α α) := ⟨fun a b => a >>= fun x => b >>= fun y => div x y⟩

@[simp] theorem ok_add (x y : α) : (Except.ok x + Except.ok y : Result α α) = add x y := rfl
@[simp] theorem ok_sub (x y : α) : (Except.ok x - Except.ok y : Result α α) = sub x y := rfl
@[simp] theorem ok_mul (x y : α) : (Except.ok x * Except.ok y : Result α α) = mul x y := rfl
@[simp] theorem ok_div (x y : α) : (Except.ok x / Except.ok y : Result α α) = div x y := rfl

/-- The lesser of two numbers: the first, unless the second is below it. -/
def least (x y : α) : Result α α := do
  return if ← lt y x then y else x

/-- The greater of two numbers: the first, unless the second is above it. -/
def greatest (x y : α) : Result α α := do
  return if ← lt x y then y else x

/-! ## Requirements -/

/-- Refuses a value below zero. -/
def requireNonNegative (name : String) (x : α) : Result α Unit := do
  if ← lt x (whole α 0) then refuse (.belowZero name x)

/-- Refuses a value that is zero or below. -/
def requirePositive (name : String) (x : α) : Result α Unit := do
  if ← le x (whole α 0) then refuse (.notPositive name x)

/-- Refuses a value that is not between zero and one. An undefined number is not. -/
def requireFraction (name : String) (x : α) : Result α Unit := do
  unless (← le (real α 0) x) && (← le x (real α 1)) do refuse (.notFraction name x)

/-- Refuses a value below one. -/
def requireOne (name : String) (x : α) : Result α Unit := do
  if ← lt x (whole α 1) then refuse (.belowOne name x)

end Scalar

end SiliconBench
