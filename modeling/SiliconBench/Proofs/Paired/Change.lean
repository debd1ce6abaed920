import SiliconBench.Paired.Comparison
import SiliconBench.Proofs.Field
import Mathlib.Tactic.FieldSimp
import Mathlib.Tactic.Ring

/-!
# Change — relative changes, where arithmetic is exact

Three formulas tell how much better one system is than another: what is saved of the
cycles, what is saved of the power, and the improvement of a row. They differ in what they
do with a baseline that is zero or below, and in nothing else. So all of them are ONE
relative change (`changeOf`) of figures that are not negative; its sign tells who is better,
also of figures that are.
-/

namespace SiliconBench.Paired

open Scalar

variable {α : Type} [Field α] [LinearOrder α] [Scalar α]

/-- The change toward the better direction, in percent of the baseline's magnitude. -/
def changeOf (baseline stacked : α) (higherIsBetter : Bool) : α :=
  if baseline = 0 then 0
  else (if higherIsBetter then stacked - baseline else baseline - stacked) / |baseline| * real α 100

variable {baseline stacked : α}

theorem changeOf_self (baseline : α) (higherIsBetter : Bool) :
    changeOf baseline baseline higherIsBetter = 0 := by
  cases higherIsBetter <;> simp [changeOf]

/-- What is a gain in one direction is a loss in the other. -/
theorem changeOf_not (baseline stacked : α) (higherIsBetter : Bool) :
    changeOf baseline stacked (!higherIsBetter) = -changeOf baseline stacked higherIsBetter := by
  unfold changeOf
  split
  · simp
  · cases higherIsBetter
    · simp only [Bool.not_false, Bool.false_eq_true, if_true, if_false]
      ring
    · simp only [Bool.not_true, Bool.false_eq_true, if_true, if_false]
      ring

theorem hundred_eq [LawfulField α] : real α 100 = 100 := by
  rw [real_eq, Rat.cast_ofNat]

variable [IsStrictOrderedRing α]

section

variable [LawfulField α]

theorem changeOf_pos_iff (h : baseline ≠ 0) (higherIsBetter : Bool) :
    0 < changeOf baseline stacked higherIsBetter ↔
      if higherIsBetter then baseline < stacked else stacked < baseline := by
  have hscale : 0 < |baseline| := abs_pos.mpr h
  have hhundred : 0 < real α 100 := by
    rw [hundred_eq]
    norm_num
  rw [changeOf, if_neg h, mul_pos_iff_of_pos_right hhundred, lt_div_iff₀ hscale, zero_mul]
  cases higherIsBetter <;> simp

theorem changeOf_neg_iff (h : baseline ≠ 0) (higherIsBetter : Bool) :
    changeOf baseline stacked higherIsBetter < 0 ↔
      if higherIsBetter then stacked < baseline else baseline < stacked := by
  rw [← neg_pos, ← changeOf_not, changeOf_pos_iff h]
  cases higherIsBetter <;> simp

/-- What is left of a positive figure of which less is better. -/
theorem one_sub_changeOf (h : 0 < baseline) (stacked : α) :
    1 - changeOf baseline stacked false / 100 = stacked / baseline := by
  have hbaseline := h.ne'
  rw [changeOf, if_neg hbaseline, abs_of_pos h, if_neg Bool.false_ne_true, hundred_eq]
  field_simp
  ring

/-- There and back again nothing is gained or lost. -/
theorem one_sub_changeOf_mul (h : 0 < baseline) (h' : 0 < stacked) :
    (1 - changeOf baseline stacked false / 100) * (1 - changeOf stacked baseline false / 100) =
      1 := by
  rw [one_sub_changeOf h, one_sub_changeOf h', div_mul_div_cancel₀ h.ne', div_self h'.ne']

/-- What has become of a positive figure of which more is better. -/
theorem one_add_changeOf (h : 0 < baseline) (stacked : α) :
    1 + changeOf baseline stacked true / 100 = stacked / baseline := by
  have hbaseline := h.ne'
  rw [changeOf, if_neg hbaseline, abs_of_pos h, if_pos rfl, hundred_eq]
  field_simp
  ring

/-! ## The three formulas -/

/-- What is saved of cycles that are not negative. -/
theorem cycleImprovement_eq {baseline : α} (h : 0 ≤ baseline) (stacked : α) :
    cycleImprovement baseline stacked = .ok (changeOf baseline stacked false) := by
  rcases h.eq_or_lt with rfl | hpos
  · simp [cycleImprovement, changeOf, le_eq, whole_eq, real_eq]
  · have hbaseline := hpos.ne'
    simp [cycleImprovement, changeOf, le_eq, whole_eq, real_eq, sub_eq, div_eq hbaseline, mul_eq,
      hbaseline, hpos.not_ge, abs_of_pos hpos]

/-- What is saved of power that is not negative. -/
theorem powerImprovement_eq {x : Metrics α} (h : 0 ≤ x.power.total) (y : Metrics α) :
    powerImprovement x y = .ok (changeOf x.power.total y.power.total false) :=
  -- power is asked for in the same way as cycles are
  cycleImprovement_eq h y.power.total

end

/-- The improvement of a row, whatever the signs. -/
theorem relativeImprovement_eq [LawfulMagnitude α] (baseline stacked : α) (higherIsBetter : Bool) :
    relativeImprovement baseline stacked higherIsBetter =
      .ok (changeOf baseline stacked higherIsBetter) := by
  have hwhole : isWhole baseline 0 = true ↔ baseline = 0 := by
    rw [isWhole_iff, Int.cast_zero]
  by_cases h : baseline = 0
  · rw [relativeImprovement, if_pos (hwhole.mpr h), changeOf, if_pos h]
    simp [real_eq]
  · have hscale : |baseline| ≠ 0 := abs_ne_zero.mpr h
    rw [relativeImprovement, if_neg (hwhole.not.mpr h), changeOf, if_neg h]
    cases higherIsBetter <;>
      simp [sub_eq, magnitude_eq, div_eq hscale, mul_eq, real_eq]

end SiliconBench.Paired
