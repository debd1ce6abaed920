import SiliconBench.Proofs.Machine.Estimate
import Mathlib.Tactic.FieldSimp

/-!
# Scale — the length of a stream shows in its cycles and nowhere else

A stream takes the cycles of one instruction times its length, and everything else in
an estimate goes by cycles PER instruction; throttling lengthens all of them alike. So
an estimate is that of a single instruction, but for its cycles (`estimateOf_scale`).
The floor below the divisor is the ONE thing that is not in proportion to the length.
It is out of reach where an instruction takes no fewer cycles than the floor.
-/

namespace SiliconBench.Machine

open Scalar

/-- Cycles of an instruction on average, before throttling. -/
def costOf (ratio access : Rat) : Rat :=
  1 - ratio + ratio * access

theorem cyclesOf_eq_mul (n ratio access : Rat) :
    cyclesOf n ratio access = n * costOf ratio access := by
  unfold cyclesOf costOf
  ring

section

variable {n cost : Rat} (hn : 1 ≤ n) (hcost : cycleFloor Rat ≤ cost)

include hn hcost

/-- The rate of a stream is that of one instruction. -/
theorem rateOf_mul : rateOf n (n * cost) = 1 / cost := by
  have hpos : 0 < n := one_pos.trans_le hn
  have hcost' : 0 < cost := cycleFloor_pos.trans_le hcost
  have hfloor : cycleFloor Rat ≤ n * cost := hcost.trans (le_mul_of_one_le_left hcost'.le hn)
  rw [rateOf, if_neg (not_le.mpr hpos), max_eq_left hfloor]
  field_simp

theorem rateOf_mul_one : rateOf n (n * cost) = rateOf 1 (1 * cost) := by
  rw [rateOf_mul hn hcost, rateOf_mul le_rfl hcost]

end

variable {n ratio access : Rat} (hn : 1 ≤ n) (hcost : cycleFloor Rat ≤ costOf ratio access)

section

include hn hcost

theorem dynamicOf_scale (style : Integration) :
    dynamicOf n ratio access style = dynamicOf 1 ratio access style := by
  rw [dynamicOf, dynamicOf, cyclesOf_eq_mul, cyclesOf_eq_mul, rateOf_mul_one hn hcost]

/-- **The estimate of a stream is that of one instruction, but for its cycles.** -/
theorem estimateOf_scale (g : Rat → Rat) (style : Integration) (thermal : Thermal Rat) :
    estimateOf g n ratio access style thermal =
      { estimateOf g 1 ratio access style thermal with
        cycles := n * (estimateOf g 1 ratio access style thermal).cycles } := by
  -- throttled instructions are above the floor all the more
  have hthrottled (temperature : Rat) :
      cycleFloor Rat ≤ costOf ratio access * (1 + throttleOf temperature thermal.limit / 100) :=
    hcost.trans (le_mul_of_one_le_right (cycleFloor_pos.le.trans hcost) (one_le_throttled _ _))
  have hrate (temperature : Rat) := rateOf_mul_one hn (hthrottled temperature)
  unfold estimateOf
  simp only [throttled_eq (throttleOf_nonneg _ _)]
  simp only [dynamicOf_scale hn hcost, cyclesOf_eq_mul, mul_assoc, hrate, one_mul]

end

include hcost in
theorem estimateOf_cycles_pos (g : Rat → Rat) (style : Integration) (thermal : Thermal Rat) :
    0 < (estimateOf g 1 ratio access style thermal).cycles := by
  have hpos : 0 < costOf ratio access := cycleFloor_pos.trans_le hcost
  unfold estimateOf
  simp only [throttled_eq (throttleOf_nonneg _ _), cyclesOf_eq_mul, one_mul]
  exact mul_pos hpos (one_pos.trans_le (one_le_throttled _ _))

end SiliconBench.Machine
