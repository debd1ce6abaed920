import SiliconBench.Value.Basic

/-! # Fault — why there is no answer

A computation of the library ends with an answer or with a `Fault`. Most faults
are REFUSALS: settings or requests that the model gives no meaning to, told
apart by cause. The others are what arithmetic on unchecked settings can run
into: a value of the wrong kind, a whole number too large for a double, a
division by zero. `α` is the kind of number that the settings hold; the wording
of a refusal or of a bad value belongs to `SiliconBench.Message`.

A fault of arithmetic has a kind and no wording. What a runtime says there, about
the operation and its operands, is not modelled: two such faults that are equal are
of the same KIND. -/

namespace SiliconBench

/-- Why settings or requests are refused. -/
inductive Refusal (α : Type) where
  /-- `name` must not be below zero -/
  | belowZero (name : String) (got : α)
  /-- `name` must be above zero -/
  | notPositive (name : String) (got : α)
  /-- `name` must lie between zero and one -/
  | notFraction (name : String) (got : α)
  /-- `name` must not be below one -/
  | belowOne (name : String) (got : α)
  /-- the number of cores must be a positive whole number -/
  | coreCount (got : α)
  /-- the share of memory instructions must lie between 0 and 100 percent -/
  | mixPercent (got : α)
  /-- memory instructions that take no time at all have no rate -/
  | freeMemory (accessTime ratio : α)
  /-- the thermal time constant is too short for the step; the least one is `bound` -/
  | unstable (constant milliseconds bound : α)
  | unknownPattern (echo : String)
  | unknownKernel (echo : String)
  | unknownFields (part : String) (names : List String)
  | unknownLevels (names : List String)
  /-- a part of the settings that is no table -/
  | notTable (part kind : String)

/-- Why a value of the right kind has no meaning for an operation. -/
inductive Misfit where
  /-- a text that is no whole numeral -/
  | notWholeNumeral (text : String)
  /-- a text that is no real numeral -/
  | notRealNumeral (text : String)
  /-- the undefined double has no whole part -/
  | undefinedWhole
  /-- seeds are natural numbers -/
  | negativeSeed
  /-- rows of no width never end -/
  | noWidth
  /-- a text is not laid out like a number -/
  | textLayout

/-- Why a computation has no answer. -/
inductive Fault (α : Type) where
  | refused (cause : Refusal α)
  /-- a finished run was asked for another tick -/
  | finished
  /-- a table of results has no row of that name -/
  | noRow (name : Value)
  /-- a value of a kind that the operation has no meaning for; which operation and
  which kind is not recorded -/
  | wrongKind
  /-- a text operation on a value that is no text -/
  | notText
  /-- a value of the right kind that the operation has no meaning for -/
  | badValue (cause : Misfit)
  /-- a number too large for a double; which operation met it is not recorded -/
  | overflow
  | zeroDivision
  /-- an argument that the operation does not have -/
  | unknownArgument (name : String)
  /-- an argument that the operation cannot do without -/
  | missingArgument (name : String)

/-- An answer or the reason why there is none. -/
abbrev Result (α β : Type) := Except (Fault α) β

/-- Refuses for a cause. -/
def refuse {α β : Type} (cause : Refusal α) : Result α β :=
  .error (.refused cause)

/-- `f` of every item, in order; the first fault wins. -/
def each {α β γ : Type} (f : β → Result α γ) : List β → Result α (List γ)
  | [] => .ok []
  | x :: xs => do
    let y ← f x
    let ys ← each f xs
    return y :: ys

/-- `f` of items that stand side by side, in order; the first fault wins. -/
def eachPair {α β γ δ : Type} (f : β → γ → Result α δ) : List β → List γ → Result α (List δ)
  | x :: xs, y :: ys => do
    let z ← f x y
    let zs ← eachPair f xs ys
    return z :: zs
  | _, _ => .ok []

@[simp] theorem ok_bind {ε β γ : Type} (x : β) (f : β → Except ε γ) :
    ((Except.ok x : Except ε β) >>= f) = f x := rfl

@[simp] theorem error_bind {ε β γ : Type} (e : ε) (f : β → Except ε γ) :
    ((Except.error e : Except ε β) >>= f) = Except.error e := rfl

@[simp] theorem pure_eq_ok {ε β : Type} (x : β) : (pure x : Except ε β) = Except.ok x := rfl

@[simp] theorem each_nil {α β γ : Type} (f : β → Result α γ) : each f [] = .ok [] := rfl

@[simp] theorem each_cons {α β γ : Type} (f : β → Result α γ) (x : β) (xs : List β) :
    each f (x :: xs) = (f x >>= fun y => each f xs >>= fun ys => .ok (y :: ys)) := rfl

/-- Without a fault `each` is `map`. -/
theorem each_eq_map {α β γ : Type} {f : β → Result α γ} {g : β → γ} {xs : List β}
    (h : ∀ x ∈ xs, f x = .ok (g x)) : each f xs = .ok (xs.map g) := by
  induction xs with
  | nil => rfl
  | cons x xs ih =>
    simp [h x (by simp), ih fun y hy => h y (by simp [hy])]

/-- What `each` answers is as long as what it was given. -/
theorem length_of_each {α β γ : Type} {f : β → Result α γ} {xs : List β} {ys : List γ}
    (h : each f xs = .ok ys) : ys.length = xs.length := by
  induction xs generalizing ys with
  | nil => cases h; rfl
  | cons x xs ih =>
    rw [each_cons] at h
    cases hx : f x with
    | error e => simp [hx] at h
    | ok y =>
      cases hxs : each f xs with
      | error e => simp [hx, hxs] at h
      | ok zs =>
        simp only [hx, hxs, ok_bind, Except.ok.injEq] at h
        subst h
        simp [ih hxs]

end SiliconBench
