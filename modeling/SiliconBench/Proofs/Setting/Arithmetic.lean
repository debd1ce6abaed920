import SiliconBench.Pattern
import SiliconBench.Proofs.Answer
import SiliconBench.Scalar.Setting
import SiliconBench.Value.Fields
import SiliconBench.Value.Format

/-!
# Arithmetic — what computing with unchecked settings can run into

Nothing keeps a text from standing where a number belongs, so arithmetic on the
values of a settings file has faults of its own: a value of the wrong kind, one
without a meaning, a number too large for a double, a division by zero. There are NO
others (`Fault.IsArithmetic`), and every computation that is put together from
arithmetic and requirements inherits this. A statement about a computation of the
model is proved for any property of faults that all faults of arithmetic have, and
refusals too where something is required; `simp` puts the statements together.
-/

namespace SiliconBench

/-- A fault of arithmetic on values that nobody has checked. -/
inductive Fault.IsArithmetic {α : Type} : Fault α → Prop
  | wrongKind : IsArithmetic .wrongKind
  | badValue (cause : Misfit) : IsArithmetic (.badValue cause)
  | overflow : IsArithmetic .overflow
  | zeroDivision : IsArithmetic .zeroDivision

/-- A property that the faults of arithmetic have. -/
class AdmitsArithmetic (P : Fault Value → Prop) : Prop where
  arithmetic : ∀ {fault : Fault Value}, fault.IsArithmetic → P fault

/-- A property that refusals have. -/
class AdmitsRefusals (P : Fault Value → Prop) : Prop where
  refused : ∀ cause, P (.refused cause)

instance : AdmitsArithmetic Fault.IsArithmetic where
  arithmetic h := h

/-- A fault of a computation that requires something of its settings. -/
def Fault.IsChecked (fault : Fault Value) : Prop :=
  fault.IsRefusal ∨ fault.IsArithmetic

instance : AdmitsArithmetic Fault.IsChecked where
  arithmetic := .inr

instance : AdmitsRefusals Fault.IsChecked where
  refused cause := .inl ⟨cause, rfl⟩

/-! ## Putting actions together -/

namespace Faults

section

variable {ε β γ : Type} {P : ε → Prop}

@[simp] theorem ok_iff (y : β) : Faults P (.ok y : Except ε β) ↔ True :=
  iff_true_intro (.ok y)

@[simp] theorem bind_iff {x : Except ε β} {f : β → Except ε γ} :
    Faults P (x >>= f) ↔ Faults P x ∧ ∀ y, x = .ok y → Faults P (f y) := by
  constructor
  · intro h
    cases x with
    | error e =>
      refine ⟨fun e' he' => h e' ?_, fun _ hy => by cases hy⟩
      cases he'
      rfl
    | ok y =>
      refine ⟨.ok y, fun y' hy => ?_⟩
      cases hy
      exact h
  · rintro ⟨hx, hf⟩
    exact .bind hx hf

@[simp] theorem discard_iff {x : Except ε β} : Faults P (discard x) ↔ Faults P x := by
  cases x with
  | error e =>
    constructor <;> rintro h _ ⟨⟩ <;> exact h e rfl
  | ok y => exact iff_of_true (.ok ()) (.ok y)

@[simp] theorem ite_iff {c : Prop} [Decidable c] {x y : Except ε γ} :
    Faults P (if c then x else y) ↔ (c → Faults P x) ∧ (¬ c → Faults P y) := by
  split <;> simp [*]

end

variable {P : Fault Value → Prop} {β γ δ : Type}

@[simp] theorem each {f : β → Result Value γ} {xs : List β} (h : ∀ x, Faults P (f x)) :
    Faults P (each f xs) := by
  induction xs with
  | nil => exact .ok _
  | cons x xs ih => simp [h x, ih]

@[simp] theorem eachPair {f : β → γ → Result Value δ} {xs : List β} {ys : List γ}
    (h : ∀ x y, Faults P (f x y)) : Faults P (eachPair f xs ys) := by
  induction xs generalizing ys with
  | nil => exact .ok _
  | cons x xs ih =>
    cases ys with
    | nil => exact .ok _
    | cons y ys => simp [SiliconBench.eachPair, h x y, ih]

section Refusals

variable [AdmitsRefusals P]

@[simp] theorem refuse (cause : Refusal Value) : Faults P (refuse cause : Result Value β) := by
  intro fault h
  cases h
  exact AdmitsRefusals.refused cause

end Refusals

section Arithmetic

variable [AdmitsArithmetic P]

@[simp] theorem wrongKind : Faults P (.error .wrongKind : Result Value β) := by
  rintro _ ⟨⟩
  exact AdmitsArithmetic.arithmetic .wrongKind

@[simp] theorem badValue (cause : Misfit) :
    Faults P (.error (.badValue cause) : Result Value β) := by
  rintro _ ⟨⟩
  exact AdmitsArithmetic.arithmetic (.badValue cause)

@[simp] theorem overflow : Faults P (.error .overflow : Result Value β) := by
  rintro _ ⟨⟩
  exact AdmitsArithmetic.arithmetic .overflow

@[simp] theorem zeroDivision : Faults P (.error .zeroDivision : Result Value β) := by
  rintro _ ⟨⟩
  exact AdmitsArithmetic.arithmetic .zeroDivision

end Arithmetic

end Faults

/-! ## Reading settings -/

section Reading

variable {P : Fault Value → Prop} [AdmitsRefusals P] {v : Value} {part : String}

@[simp] theorem Value.tableEntries_faults : Faults P (tableEntries part v) := by
  rw [tableEntries.eq_def]
  split <;> simp

@[simp] theorem Value.knownEntries_faults {known : List String} :
    Faults P (knownEntries part known v) := by
  simp [knownEntries]

@[simp] theorem Pattern.parse_faults : Faults P (parse v : Result Value Pattern) := by
  simp only [parse]
  split <;> simp

end Reading

/-! ## Arithmetic on values -/

namespace Value

variable {P : Fault Value → Prop} [AdmitsArithmetic P] {v w : Value}

@[simp] theorem number_faults : Faults P v.number := by
  rw [number]
  split <;> simp

@[simp] theorem numberDouble_faults {m : Number} : Faults P m.double := by
  rw [Number.double.eq_def]
  split
  · split <;> simp
  · simp

@[simp] theorem double_faults : Faults P v.double := by
  simp [double]

@[simp] theorem combine_faults {f : Int → Int → Int} {g : Float → Float → Float} :
    Faults P (combine f g v w) := by
  simp only [combine, Faults.bind_iff, number_faults, true_and]
  intro m _ n _
  split <;> simp

@[simp] theorem add_faults : Faults P (add v w) := by
  rw [add.eq_def]
  split <;> simp

@[simp] theorem repeatCount_faults {n : Int} : Faults P (repeatCount n : Result Value Nat) := by
  rw [repeatCount]
  split <;> simp

theorem repeated?_faults {n : Int} {x : Result Value Value} (h : repeated? v n = some x) :
    Faults P x := by
  cases v with
  | text | list =>
    cases h
    simp
  | null | bool | whole | real | table => cases h

@[simp] theorem mul_faults : Faults P (mul v w) := by
  have hrepeated (u : Value) (n : Int) :
      Faults P ((repeated? u n).getD (.error .wrongKind)) := by
    cases h : repeated? u n with
    | none => exact .wrongKind
    | some x => exact repeated?_faults h
  rw [mul.eq_def]
  split <;> simp [hrepeated]

@[simp] theorem div_faults : Faults P (div v w) := by
  simp only [div, Faults.bind_iff, number_faults, true_and]
  intro m _ n _
  split
  · split
    · exact .zeroDivision
    · split <;> simp
  · simp

@[simp] theorem lt_faults : Faults P (lt v w) := by
  simp [lt]

@[simp] theorem le_faults : Faults P (le v w) := by
  simp [le]

@[simp] theorem abs_faults : Faults P (abs v) := by
  simp only [abs, Faults.bind_iff, number_faults, true_and]
  intro m _
  split <;> simp

@[simp] theorem toReal_faults : Faults P (toReal v) := by
  rw [toReal.eq_def]
  split
  · split <;> simp
  · simp

@[simp] theorem truncate_faults : Faults P (truncate v) := by
  rw [truncate.eq_def]
  split
  · split <;> simp
  · simp only [Faults.bind_iff, number_faults, true_and]
    intro m _
    split
    · simp
    · split
      · simp
      · split <;> simp

@[simp] theorem divides_faults {n : Nat} : Faults P (divides v n) := by
  simp only [divides, Faults.bind_iff, number_faults, true_and]
  intro m _
  split
  · split <;> simp
  · split
    · simp
    · simp
    · split <;> simp

/-! ## The same as operations of numbers -/

@[simp] theorem scalar_add_faults : Faults P (Scalar.add v w) := add_faults
@[simp] theorem scalar_sub_faults : Faults P (Scalar.sub v w) := combine_faults
@[simp] theorem scalar_mul_faults : Faults P (Scalar.mul v w) := mul_faults
@[simp] theorem scalar_div_faults : Faults P (Scalar.div v w) := div_faults
@[simp] theorem scalar_lt_faults : Faults P (Scalar.lt v w) := lt_faults
@[simp] theorem scalar_le_faults : Faults P (Scalar.le v w) := le_faults
@[simp] theorem scalar_abs_faults : Faults P (Scalar.abs v) := abs_faults
@[simp] theorem scalar_toReal_faults : Faults P (Scalar.toReal v) := toReal_faults
@[simp] theorem scalar_truncate_faults : Faults P (Scalar.truncate v) := truncate_faults
@[simp] theorem scalar_divides_faults {n : Nat} : Faults P (Scalar.divides v n) := divides_faults

variable {a b : Result Value Value}

@[simp] theorem hAdd_faults : Faults P (a + b) ↔ Faults P a ∧ ∀ x, a = .ok x → Faults P b := by
  show Faults P (a >>= fun x => b >>= fun y => Scalar.add x y) ↔ _
  simp

@[simp] theorem hSub_faults : Faults P (a - b) ↔ Faults P a ∧ ∀ x, a = .ok x → Faults P b := by
  show Faults P (a >>= fun x => b >>= fun y => Scalar.sub x y) ↔ _
  simp

@[simp] theorem hMul_faults : Faults P (a * b) ↔ Faults P a ∧ ∀ x, a = .ok x → Faults P b := by
  show Faults P (a >>= fun x => b >>= fun y => Scalar.mul x y) ↔ _
  simp

@[simp] theorem hDiv_faults : Faults P (a / b) ↔ Faults P a ∧ ∀ x, a = .ok x → Faults P b := by
  show Faults P (a >>= fun x => b >>= fun y => Scalar.div x y) ↔ _
  simp

@[simp] theorem least_faults : Faults P (Scalar.least v w) := by
  simp [Scalar.least]

@[simp] theorem greatest_faults : Faults P (Scalar.greatest v w) := by
  simp [Scalar.greatest]

/-! ## Layouts -/

@[simp] theorem laidOut_faults {layout : Float → String} : Faults P (laidOut layout v) := by
  rw [laidOut.eq_def]
  split <;> simp

@[simp] theorem fixed_faults {places : Nat} : Faults P (fixed places v) :=
  laidOut_faults

@[simp] theorem fixedGrouped_faults {places : Nat} : Faults P (fixedGrouped places v) :=
  laidOut_faults

@[simp] theorem grouped_faults : Faults P (grouped v) := by
  rw [grouped.eq_def]
  split
  · simp
  · simp only [Faults.bind_iff, number_faults, true_and]
    intro m _
    split <;> simp

@[simp] theorem columnText_faults : Faults P (columnText v) := by
  rw [columnText.eq_def]
  split
  · simp
  · simp only [Faults.bind_iff, number_faults, true_and]
    intro m _
    split <;> simp

/-! ## Requirements -/

section Requirements

open Scalar

variable [AdmitsRefusals P] {name : String}

@[simp] theorem requireNonNegative_faults : Faults P (requireNonNegative name v) := by
  simp [requireNonNegative]

@[simp] theorem requirePositive_faults : Faults P (requirePositive name v) := by
  simp [requirePositive]

@[simp] theorem requireFraction_faults : Faults P (requireFraction name v) := by
  simp [requireFraction]

@[simp] theorem requireOne_faults : Faults P (requireOne name v) := by
  simp [requireOne]

end Requirements

end Value

end SiliconBench
