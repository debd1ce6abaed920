import SiliconBench.Proofs.Machine.Growth

/-!
# Consistent — the figures of an estimate belong together

Power is worked out from the cycles before throttling, and throttling then lengthens
these very cycles. So the figures that are shown must be told apart from those that
they were worked out from: instructions per cycle go with the LENGTHENED cycles, and
power and temperature with the others. Three clamps are on the way, on leakage, on
throttling and on the divisor, and each of them is met exactly where it should be.
-/

namespace SiliconBench.Machine

open Scalar

variable {α : Type} [Field α] [LinearOrder α] [IsStrictOrderedRing α]

/-! ## Throttling -/

theorem throttleOf_le_cap (temperature limit : α) : throttleOf temperature limit ≤ 50 := by
  rw [throttleOf_eq_clamp]
  exact max_le (by norm_num) (min_le_left _ _)

theorem throttleOf_eq_zero_iff {temperature limit : α} :
    throttleOf temperature limit = 0 ↔ temperature ≤ limit := by
  have hcap : ¬ (50 : α) ≤ 0 := by norm_num
  rw [throttleOf_eq_clamp, max_eq_left_iff, min_le_iff, or_iff_right hcap]
  constructor
  · intro h
    linarith
  · intro h
    linarith

theorem throttleOf_eq_cap_iff {temperature limit : α} :
    throttleOf temperature limit = 50 ↔ limit + 25 ≤ temperature := by
  rw [throttleOf_eq_clamp]
  constructor
  · intro h
    have hnonzero : max 0 (min 50 ((temperature - limit) * 2)) ≠ 0 := by
      rw [h]
      norm_num
    have hreached : min 50 ((temperature - limit) * 2) = 50 :=
      ((max_choice _ _).resolve_left hnonzero).symm.trans h
    have hexcess := min_eq_left_iff.mp hreached
    linarith
  · intro h
    have hexcess : 50 ≤ (temperature - limit) * 2 := by linarith
    rw [min_eq_left hexcess, max_eq_right (by norm_num)]

/-! ## The whole -/

/-- What the figures of an estimate of `n` instructions have to do with each other:
`plain` are the cycles before throttling, and leakage grows at most `most` times. -/
structure Estimate.Consistent [Scalar α] (n plain most : α) (t : Thermal α) (e : Estimate α) :
    Prop where
  throttling_nonneg : 0 ≤ e.throttling
  throttling_le : e.throttling ≤ 50
  throttling_eq_zero_iff : e.throttling = 0 ↔ e.temperature ≤ t.limit
  throttling_eq_cap_iff : e.throttling = 50 ↔ t.limit + 25 ≤ e.temperature
  cycles_eq : e.cycles = plain * (1 + e.throttling / 100)
  plain_le : plain ≤ e.cycles
  cycles_le : e.cycles ≤ 1.5 * plain
  ipc_mul_cycles : n = 0 ∨ cycleFloor α ≤ e.cycles → e.ipc * e.cycles = n
  static_ge : 0.5 ≤ e.power.static
  static_le : e.power.static ≤ 0.5 * most
  total_eq : e.power.total = e.power.dynamic + e.power.static
  temperature_eq : e.temperature = t.ambient + e.power.total * t.resistance
  ambient_le : t.ambient ≤ e.temperature

variable [Scalar α]

section

variable {n ratio access : α} (h : Accepted n ratio access) (g : α → α) (style : Integration)
  (t : Thermal α)

include h

theorem Accepted.plain_le :
    cyclesOf n ratio access ≤ (estimateOf g n ratio access style t).cycles := by
  rw [estimateOf_cycles]
  exact le_mul_of_one_le_right h.cyclesOf_nonneg (one_le_throttled _ _)

theorem Accepted.cycles_le :
    (estimateOf g n ratio access style t).cycles ≤ 1.5 * cyclesOf n ratio access := by
  have hcap : (estimateOf g n ratio access style t).throttling ≤ 50 := throttleOf_le_cap _ _
  have hlongest : 1 + (estimateOf g n ratio access style t).throttling / 100 ≤ 1.5 := by
    norm_num
    linarith
  rw [estimateOf_cycles, mul_comm]
  exact mul_le_mul_of_nonneg_right hlongest h.cyclesOf_nonneg

end

variable [LawfulField α]

/-- A rate is what it is called, of the cycles that are divided by. -/
theorem rateOf_mul_max {n : α} (hn : 0 ≤ n) (cycles : α) :
    rateOf n cycles * max cycles (cycleFloor α) = n := by
  rcases hn.eq_or_lt with rfl | hpos
  · rw [rateOf, if_pos le_rfl, zero_mul]
  · have hdivisor : max cycles (cycleFloor α) ≠ 0 := (lt_max_of_lt_right cycleFloor_pos).ne'
    rw [rateOf, if_neg (not_le.mpr hpos), div_mul_cancel₀ _ hdivisor]

theorem rateOf_mul_cycles {n cycles : α} (hn : 0 ≤ n) (h : n = 0 ∨ cycleFloor α ≤ cycles) :
    rateOf n cycles * cycles = n := by
  rcases h with rfl | hfloor
  · rw [rateOf, if_pos le_rfl, zero_mul]
  · have hmax := rateOf_mul_max hn cycles
    rwa [max_eq_left hfloor] at hmax

theorem Rises.estimateOf_consistent {growth : α → Result α α} {g : α → α} (hg : Rises growth g)
    (hone : g 0 = 1) {n ratio access : α} (h : Accepted n ratio access) (style : Integration)
    {t : Thermal α} (hR : 0 ≤ t.resistance) :
    (estimateOf g n ratio access style t).Consistent n (cyclesOf n ratio access) (g 100) t := by
  have hdynamic := h.dynamicOf_nonneg style
  have hrise : 0 ≤ dynamicOf n ratio access style * t.resistance := mul_nonneg hdynamic hR
  obtain ⟨hlow, hhigh⟩ := hg.leakageOf_mem hrise
  constructor
  case throttling_nonneg => exact throttleOf_nonneg _ _
  case throttling_le => exact throttleOf_le_cap _ _
  case throttling_eq_zero_iff => exact throttleOf_eq_zero_iff
  case throttling_eq_cap_iff => exact throttleOf_eq_cap_iff
  case cycles_eq => exact estimateOf_cycles g n ratio access style t
  case plain_le => exact h.plain_le g style t
  case cycles_le => exact h.cycles_le g style t
  case ipc_mul_cycles => exact rateOf_mul_cycles h.instructions_nonneg
  case static_ge =>
    rw [hone, mul_one] at hlow
    exact hlow
  case static_le => exact hhigh
  case total_eq => rfl
  case temperature_eq => rfl
  case ambient_le =>
    have hleakage := hg.leakageOf_pos hrise
    exact le_add_of_nonneg_right (mul_nonneg (add_nonneg hdynamic hleakage.le) hR)

/-- **The figures of every estimate belong together.** An estimate has an answer for
exactly the streams that can be accepted, and whatever it answers, throttling is told by
the temperature, cycles are lengthened by it, instructions per cycle go with these
cycles, leakage is between its bounds, and the temperature is that of the total power. -/
theorem estimate_consistent {growth : α → Result α α} {g : α → α} (hg : Rises growth g)
    (hone : g 0 = 1) {t : Thermal α} (ht : t.validate = .ok ()) (style : Integration)
    (n ratio access : α) :
    ((∃ e, estimate growth n ratio access style t = .ok e) ↔ Accepted n ratio access) ∧
      ∀ e, estimate growth n ratio access style t = .ok e →
        e.Consistent n (n * (1 - ratio) + n * ratio * access) (g 100) t := by
  have hR := t.resistance_nonneg ht
  refine ⟨hg.grows.estimate_answers_iff style hR, fun e he => ?_⟩
  obtain ⟨haccepted, rfl⟩ := (hg.grows.estimate_eq_ok_iff style hR).mp he
  exact hg.estimateOf_consistent hone haccepted style hR

/-- A thermal path over the reals; its design powers play no part. -/
noncomputable def realPath (ambient resistance limit : Rat) : Thermal ℝ :=
  { ambient := real ℝ ambient
    logicPower := real ℝ 1
    memoryPower := real ℝ 1
    resistance := real ℝ resistance
    limit := real ℝ limit }

theorem realPath_validates {resistance : Rat} (h : 0 ≤ resistance) (ambient limit : Rat) :
    (realPath ambient resistance limit).validate = .ok () := by
  simp [Thermal.validate, realPath, real_eq, bind_eq_ok, requireNonNegative_ok_iff, h]

/-- A thermal path that is poor enough for a core to throttle. -/
noncomputable def narrowPath : Thermal ℝ := realPath 25 50 55

theorem narrowPath_validates : narrowPath.validate = .ok () :=
  realPath_validates (by norm_num) _ _

theorem estimate_consistent_narrowPath :
    ∃ e, estimate powerGrowth 100 (1 / 2) 2 .planar narrowPath = .ok e ∧
      e.Consistent 100 150 ((1.08 : ℝ) ^ (100 : ℝ)) narrowPath := by
  have hone : (1.08 : ℝ) ^ (0 : ℝ) = 1 := Real.rpow_zero _
  have haccepted : Accepted (100 : ℝ) (1 / 2) 2 := by constructor <;> norm_num
  obtain ⟨hanswer, hfigures⟩ := estimate_consistent powerGrowth_rises hone narrowPath_validates
    .planar 100 (1 / 2) 2
  obtain ⟨e, he⟩ := hanswer.mpr haccepted
  have hplain : (100 : ℝ) * (1 - 1 / 2) + 100 * (1 / 2) * 2 = 150 := by norm_num
  exact ⟨e, he, hplain ▸ hfigures e he⟩

end SiliconBench.Machine
