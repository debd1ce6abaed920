import SiliconBench.Gpu.CellKinds
import SiliconBench.Proofs.Field
import Mathlib.Algebra.Order.Floor.Semiring
import Mathlib.Data.Rat.Floor
import Mathlib.Tactic.Linarith
import Mathlib.Tactic.NormNum

/-!
# Rational — what the operations come to over the rationals

Over the rationals an operation is the one of the field, a comparison is the
comparison, and only a quotient by zero has no answer. A requirement is then
exactly the inequality it is named for. The lemmas below are the ONLY place
where the rational instances are opened.
-/

namespace SiliconBench

namespace Scalar

@[simp] theorem add_rat (x y : Rat) : (add x y : Result Rat Rat) = .ok (x + y) := rfl
@[simp] theorem sub_rat (x y : Rat) : (sub x y : Result Rat Rat) = .ok (x - y) := rfl
@[simp] theorem mul_rat (x y : Rat) : (mul x y : Result Rat Rat) = .ok (x * y) := rfl
@[simp] theorem lt_rat (x y : Rat) : (lt x y : Result Rat Bool) = .ok (decide (x < y)) := rfl
@[simp] theorem le_rat (x y : Rat) : (le x y : Result Rat Bool) = .ok (decide (x ≤ y)) := rfl
@[simp] theorem toReal_rat (x : Rat) : (toReal x : Result Rat Rat) = .ok x := rfl
@[simp] theorem whole_rat (n : Int) : whole Rat n = n := rfl
@[simp] theorem real_rat (q : Rat) : real Rat q = q := rfl

theorem div_rat {x y : Rat} (hy : y ≠ 0) : (div x y : Result Rat Rat) = .ok (x / y) := by
  simp [div, hy]

theorem div_rat_of_pos {x y : Rat} (hy : 0 < y) : (div x y : Result Rat Rat) = .ok (x / y) :=
  div_rat hy.ne'

@[simp] theorem least_rat (x y : Rat) : (least x y : Result Rat Rat) = .ok (min x y) :=
  least_eq_min x y

@[simp] theorem greatest_rat (x y : Rat) : (greatest x y : Result Rat Rat) = .ok (max x y) :=
  greatest_eq_max x y

theorem ceiling_rat (x : Rat) : ceiling x = ⌈x⌉₊ := by
  show x.ceil.toNat = ⌈x⌉₊
  rw [Rat.ceil_eq_neg_floor_neg, ← Int.ceil_toNat]
  rfl

@[simp] theorem isTrue_rat (x : Rat) : isTrue x = decide (x ≠ 0) := rfl

@[simp] theorem isWhole_rat (x : Rat) (n : Int) : isWhole x n = decide (x = n) := rfl

@[simp] theorem truncate_intCast (n : Int) :
    (truncate (n : Rat) : Result Rat Int) = .ok n := by
  show Except.ok ((n : Rat).num.tdiv (n : Rat).den) = _
  rw [Rat.num_intCast, Rat.den_intCast, Nat.cast_one, Int.tdiv_one]

/-- Toward zero is down, from zero on. -/
theorem truncate_rat_of_nonneg {x : Rat} (hx : 0 ≤ x) :
    (truncate x : Result Rat Int) = .ok ⌊x⌋₊ := by
  show Except.ok (x.num.tdiv x.den) = _
  rw [Int.tdiv_eq_ediv_of_nonneg (Rat.num_nonneg.mpr hx), Int.natCast_floor_eq_floor hx,
    ← Rat.floor_def]
  rfl

theorem divides_rat {x : Rat} (hx : x ≠ 0) (n : Nat) :
    (divides x n : Result Rat Bool) = .ok (decide (((n : Rat) / x).den = 1)) := by
  simp [divides, hx]

theorem divides_natCast {k : Nat} (hk : 1 ≤ k) (n : Nat) :
    (divides (k : Rat) n : Result Rat Bool) = .ok (decide (k ∣ n)) := by
  have hk0 : k ≠ 0 := Nat.one_le_iff_ne_zero.mp hk
  simp [divides_rat (Nat.cast_ne_zero.mpr hk0), Rat.den_div_natCast_eq_one_iff n k hk0]

/-- Whatever the whole part of a rational that is not whole, it is not all of it. -/
theorem ne_truncate {x : Rat} (hx : x.den ≠ 1) {n : Int} : x ≠ n := by
  rintro rfl
  exact hx (Rat.den_intCast n)

/-! ## Requirements -/

theorem requireNonNegative_rat {name : String} {x : Rat} {u : Unit} :
    requireNonNegative name x = .ok u ↔ 0 ≤ x :=
  requireNonNegative_ok_iff

theorem requirePositive_rat {name : String} {x : Rat} {u : Unit} :
    requirePositive name x = .ok u ↔ 0 < x := by
  simp [requirePositive, refuse]

theorem requireFraction_rat {name : String} {x : Rat} {u : Unit} :
    requireFraction name x = .ok u ↔ 0 ≤ x ∧ x ≤ 1 :=
  requireFraction_ok_iff

theorem requireOne_rat {name : String} {x : Rat} {u : Unit} :
    requireOne name x = .ok u ↔ 1 ≤ x := by
  simp [requireOne, refuse]

/-- A requirement can always be decided, so that it faults with its refusal only. -/
theorem requireNonNegative_refuses (name : String) (x : Rat) :
    Faults Fault.IsRefusal (requireNonNegative name x) := by
  rw [requireNonNegative, lt_rat, ok_bind]
  exact .ite (fun _ he => ⟨_, (Except.error.inj he).symm⟩) (.ok ())

theorem requirePositive_refuses (name : String) (x : Rat) :
    Faults Fault.IsRefusal (requirePositive name x) := by
  rw [requirePositive, le_rat, ok_bind]
  exact .ite (fun _ he => ⟨_, (Except.error.inj he).symm⟩) (.ok ())

theorem requireOne_refuses (name : String) (x : Rat) :
    Faults Fault.IsRefusal (requireOne name x) := by
  rw [requireOne, lt_rat, ok_bind]
  exact .ite (fun _ he => ⟨_, (Except.error.inj he).symm⟩) (.ok ())

theorem requireOne_eq_error {name : String} {x : Rat} {fault : Fault Rat} :
    requireOne name x = .error fault ↔ x < 1 ∧ fault = .refused (.belowOne name x) := by
  by_cases hx : x < 1
  · simp [requireOne, hx, refuse, eq_comm]
  · simp [requireOne, hx]

end Scalar

namespace Gpu

open Cell

@[simp] theorem lit_rat (q : Rat) : lit Rat q = q := rfl
@[simp] theorem toCell_rat (x : Rat) : (PerCore.toCell x : Result Rat Rat) = .ok x := rfl

theorem quotient_rat {x y : Rat} (hy : y ≠ 0) :
    (quotient x y : Result Rat Rat) = .ok (x / y) := by
  simp [quotient, Cell.div, hy]

@[simp] theorem sum_rat (xs : List Rat) : Cell.sum xs = xs.sum := by
  rw [List.sum_eq_foldl]
  rfl

theorem greater_rat (x y : Rat) : Cell.greater x y = max x y := by
  rcases lt_or_ge x y with h | h
  · simp [Cell.greater, h, max_eq_right h.le]
  · simp [Cell.greater, not_lt.mpr h, max_eq_left h]

theorem greatest_cons_rat (x : Rat) (xs : List Rat) :
    Cell.greatest (x :: xs) = xs.foldl max x := by
  have hmax : (Cell.greater : Rat → Rat → Rat) = max := funext₂ greater_rat
  rw [Cell.greatest, hmax]

theorem isGreatest_greatest {xs : List Rat} (h : xs ≠ []) :
    IsGreatest {t | t ∈ xs} (Cell.greatest xs) := by
  obtain ⟨x, xs, rfl⟩ := List.exists_cons_of_ne_nil h
  rw [greatest_cons_rat]
  exact List.max?_eq_some_iff.mp List.max?_cons'

end Gpu

end SiliconBench
