import SiliconBench.Gpu.Run
import SiliconBench.Proofs.Rational
import SiliconBench.Proofs.Setting.Bound

/-!
# Zero — what comes out of nothing

A product with a factor of nothing is nothing, and so is a quotient of it,
WHATEVER the other operand: that much is lost to rounding in no arithmetic. With
an infinity it is undefined rather than zero, but the undefined number stands
nowhere, so it is not above zero either (`lt_vanishing`). A figure that is worked
out only where its divisor is above zero is then not worked out at all.
-/

namespace SiliconBench

namespace Scalar

/-- Worked out from zero by products and quotients. -/
inductive Vanishing {α : Type} [Scalar α] : α → Prop
  | zero : Vanishing (real α 0)
  | mul_left {x y z : α} (hx : Vanishing x) (hz : mul x y = .ok z) : Vanishing z
  | mul_right {x y z : α} (hy : Vanishing y) (hz : mul x y = .ok z) : Vanishing z
  | div_left {x y z : α} (hx : Vanishing x) (hz : div x y = .ok z) : Vanishing z

section

variable {α : Type} [Scalar α] {x y : Result α α}

theorem answers_ok {a : α} (h : Vanishing a) : Answers Vanishing (.ok a : Result α α) :=
  .pure h

theorem vanishing_mul_left (hx : Answers Vanishing x) : Answers Vanishing (x * y) :=
  .bind fun a ha => .bind fun _ _ _ hz => .mul_left (hx a ha) hz

theorem vanishing_mul_right (hy : Answers Vanishing y) : Answers Vanishing (x * y) :=
  .bind fun _ _ => .bind fun b hb _ hz => .mul_right (hy b hb) hz

theorem vanishing_div_left (hx : Answers Vanishing x) : Answers Vanishing (x / y) :=
  .bind fun a ha => .bind fun _ _ _ hz => .div_left (hx a ha) hz

end

/-- What is worked out from zero is not above it, zero itself least of all, and no ticks
take no time. -/
class LawfulZero (α : Type) [Scalar α] : Prop where
  lt_vanishing {x : α} (hx : Vanishing x) : (lt (whole α 0) x : Result α Bool) = .ok false
  lt_zero_zero : (lt (real α 0) (real α 0) : Result α Bool) = .ok false
  mul_tickMillis : (mul (whole α 0) (Gpu.tickMillis α) : Result α α) = .ok (real α 0)

export LawfulZero (lt_vanishing lt_zero_zero mul_tickMillis)

/-- Over the rationals there is one nothing. -/
theorem Vanishing.eq_zero {x : Rat} (h : Vanishing x) : x = 0 := by
  induction h with
  | zero => rfl
  | mul_left hx hz ih =>
    cases hz
    rw [ih, zero_mul]
  | mul_right hy hz ih =>
    cases hz
    rw [ih, mul_zero]
  | @div_left x y z hx hz ih =>
    by_cases hy : y = 0
    · simp [div, hy] at hz
    · rw [div_rat hy] at hz
      cases hz
      rw [ih, zero_div]

instance : LawfulZero Rat where
  lt_vanishing hx := by simp [hx.eq_zero]
  lt_zero_zero := by simp
  mul_tickMillis := by simp [Gpu.tickMillis]

end Scalar

/-! ## Doubles

A double that is zero or undefined stays so under every product, and under every
quotient of it. -/

namespace Decimal

open Float.Model (UnpackedFloat)
open Float.Model.UnpackedFloat

/-- An unpacked double that is zero, of either sign, or undefined. -/
inductive Nothing : UnpackedFloat → Prop
  | notANumber : Nothing .notANumber
  | zero (s : Sign) : Nothing (.zero s)

section

variable {u v : UnpackedFloat}

theorem Nothing.mul_left (hu : Nothing u) : Nothing (mul .binary64 u v) := by
  cases hu <;> cases v <;> constructor

theorem Nothing.mul_right (hv : Nothing v) : Nothing (mul .binary64 u v) := by
  cases hv <;> cases u <;> constructor

theorem Nothing.div_left (hu : Nothing u) : Nothing (div .binary64 u v) := by
  cases hu <;> cases v <;> constructor

/-- Packing loses neither a zero nor the undefined. -/
theorem Nothing.unpack_pack (hu : Nothing u) : Nothing (unpack .binary64 (u.pack .binary64)) := by
  cases hu with
  | notANumber => exact .notANumber
  | zero s => cases s <;> exact .zero _

end

section

variable {x : Float}

theorem compareWhole_of_zero {negative : Bool} {e : Int} (h : Reading.of x = .finite negative 0 e) :
    compareWhole 0 x = some .eq := by
  have hnum : (magnitude 0 e).1 = 0 := Nat.zero_mul _
  simp [compareWhole, h, hnum]

theorem compareWhole_of_undefined {n : Int} (h : Reading.of x = .undefined) :
    compareWhole n x = none := by
  simp [compareWhole, h]

/-- The whole number zero is not below a double that is nothing. -/
theorem Nothing.compareWhole_ne (hx : Nothing x.toModel.unpack) :
    compareWhole 0 x ≠ some .lt := by
  have hread := Reading.of_eq x
  generalize x.toModel.unpack = u at hx hread
  cases hx with
  | notANumber => simp [compareWhole_of_undefined hread]
  | zero s => simp [compareWhole_of_zero hread]

end

end Decimal

/-! ## The values of a settings file -/

namespace Value

open Decimal (Nothing)

/-- A double that is zero or undefined. -/
inductive IsNothing : Value → Prop
  | real {x : Float} (hx : Nothing x.toModel.unpack) : IsNothing (.real x)

variable {v w t : Value}

/-- Zero is not below what is nothing. -/
theorem IsNothing.lt_zero (hv : v.IsNothing) : lt (.whole 0) v = .ok false := by
  obtain ⟨hx⟩ := hv
  show Except.ok (Decimal.compareWhole 0 _ == some .lt) = _
  simp [hx.compareWhole_ne]

section

variable {onWhole : Int → Int → Int} {onReal : Float → Float → Float} {x y : Float}

/-- What is combined with a double goes by doubles. -/
theorem combine_real_left : combine onWhole onReal (.real x) w = (do
    return .real (onReal x (← w.double))) := by
  have hx : (Value.real x).number = .ok (.real x) := rfl
  rw [combine, double, hx]
  cases w.number with
  | error e => rfl
  | ok m => cases m <;> rfl

theorem combine_real_right : combine onWhole onReal v (.real y) = (do
    return .real (onReal (← v.double) y)) := by
  have hy : (Value.real y).number = .ok (.real y) := rfl
  rw [combine, double, hy]
  cases v.number with
  | error e => rfl
  | ok m => cases m <;> rfl

theorem mul_real_left : mul (.real x) w = combine (· * ·) (· * ·) (.real x) w := rfl

theorem mul_real_right : mul v (.real y) = combine (· * ·) (· * ·) v (.real y) := by
  rw [mul]
  cases v.number? with
  | none => rfl
  | some m => cases m <;> rfl

theorem div_real_left : div (.real x) w = (do
    let y ← w.double
    if y == 0.0 then .error .zeroDivision else return .real (x / y)) := by
  have hx : (Value.real x).number = .ok (.real x) := rfl
  rw [div, double, hx]
  cases w.number with
  | error e => rfl
  | ok m => cases m <;> rfl

end

theorem IsNothing.mul_left (hv : v.IsNothing) (h : mul v w = .ok t) : t.IsNothing := by
  obtain ⟨hx⟩ := hv
  rw [mul_real_left, combine_real_left] at h
  obtain ⟨y, -, h⟩ := bind_eq_ok.mp h
  cases h
  exact ⟨(hx.mul_left (v := y.toModel.unpack)).unpack_pack⟩

theorem IsNothing.mul_right (hw : w.IsNothing) (h : mul v w = .ok t) : t.IsNothing := by
  obtain ⟨hy⟩ := hw
  rw [mul_real_right, combine_real_right] at h
  obtain ⟨x, -, h⟩ := bind_eq_ok.mp h
  cases h
  exact ⟨hy.mul_right.unpack_pack⟩

theorem IsNothing.div_left (hv : v.IsNothing) (h : div v w = .ok t) : t.IsNothing := by
  obtain ⟨hx⟩ := hv
  rw [div_real_left] at h
  obtain ⟨y, -, h⟩ := bind_eq_ok.mp h
  split at h
  · cases h
  · cases h
    exact ⟨hx.div_left.unpack_pack⟩

end Value

namespace Scalar

theorem Vanishing.isNothing {v : Value} (h : Vanishing v) : v.IsNothing := by
  induction h with
  | zero => exact ⟨.zero .positive⟩
  | mul_left _ hz ih => exact ih.mul_left hz
  | mul_right _ hz ih => exact ih.mul_right hz
  | div_left _ hz ih => exact ih.div_left hz

instance : LawfulZero Value where
  lt_vanishing hx := hx.isNothing.lt_zero
  lt_zero_zero := by rfl
  mul_tickMillis := by rfl

end Scalar

end SiliconBench
