import SiliconBench.Machine.Power
import SiliconBench.Proofs.Field
import Mathlib.Tactic.Linarith
import Mathlib.Tactic.Positivity
import Mathlib.Tactic.Ring

/-!
# Estimate — cycles, power and temperature, where arithmetic is exact

The estimate divides in one place only, by the cycles, and these are kept above
zero. So for a stream and a system that make sense it has an answer, with ONE
exception that it looks for itself: instructions that take no cycles at all. The
growth of leakage is asked for at no more than a hundred times ten degrees, which
is what the cap on the rise is for; an answer up to there is all that is needed.
-/

namespace SiliconBench.Machine

open Scalar

variable {α : Type} [Field α] [LinearOrder α]

/-- `g` is the growth of leakage, as far as the cap on the rise goes. -/
def Grows (growth : α → Result α α) (g : α → α) : Prop :=
  ∀ x, 0 ≤ x → x ≤ 100 → growth x = .ok (g x)

theorem exists_grows {growth : α → Result α α}
    (h : ∀ x, 0 ≤ x → x ≤ 100 → ∃ y, growth x = .ok y) : ∃ g, Grows growth g := by
  have hanswer (x : α) : ∃ y, 0 ≤ x → x ≤ 100 → growth x = .ok y := by
    by_cases hx : 0 ≤ x ∧ x ≤ 100
    · obtain ⟨y, hy⟩ := h x hx.1 hx.2
      exact ⟨y, fun _ _ => hy⟩
    · exact ⟨0, fun hlow hhigh => absurd ⟨hlow, hhigh⟩ hx⟩
  choose g hg using hanswer
  exact ⟨g, hg⟩

/-- Cycles before throttling. -/
def cyclesOf (n ratio access : α) : α :=
  n * (1 - ratio) + n * ratio * access

/-- Watts of leakage at a rise above ambient. -/
def leakageOf (g : α → α) (rise : α) : α :=
  0.5 * g (min rise 1000 / 10)

/-- Percent that throttling costs. -/
def throttleOf (temperature limit : α) : α :=
  if temperature ≤ limit then 0 else min 50 ((temperature - limit) * 2)

/-- Instructions per cycle. -/
def rateOf [Scalar α] (n cycles : α) : α :=
  if n ≤ 0 then 0 else n / max cycles (cycleFloor α)

/-- Average energy of an instruction in joules. -/
def energyOf [Scalar α] (ratio : α) (style : Integration) : α :=
  (ratio * memoryEnergy α style + (1 - ratio) * otherEnergy α) * 0.000000000001

/-- Watts while the cores work. -/
def dynamicOf [Scalar α] (n ratio access : α) (style : Integration) : α :=
  energyOf ratio style * rateOf n (cyclesOf n ratio access) * clockRate α

/-- What a system makes of a stream. -/
def estimateOf [Scalar α] (g : α → α) (n ratio access : α) (style : Integration)
    (thermal : Thermal α) : Estimate α :=
  let dynamic := dynamicOf n ratio access style
  let static := leakageOf g (dynamic * thermal.resistance)
  let total := dynamic + static
  let temperature := thermal.ambient + total * thermal.resistance
  let throttling := throttleOf temperature thermal.limit
  let plain := cyclesOf n ratio access
  let cycles := if 0 < throttling then plain * (1 + throttling / 100) else plain
  { cycles, ipc := rateOf n cycles, power := { dynamic, static, total }, temperature, throttling }

/-- A stream and an access time that an estimate can be made of. -/
structure Accepted (n ratio access : α) : Prop where
  instructions_nonneg : 0 ≤ n
  ratio_nonneg : 0 ≤ ratio
  ratio_le_one : ratio ≤ 1
  access_nonneg : 0 ≤ access
  /-- instructions, if there are any, take some cycles -/
  not_free : ¬ (0 < n ∧ ratio = 1 ∧ access = 0)

/-! ## Throttling and cycles -/

/-- Throttling costs its percentage of the cycles, also where that is nothing. -/
theorem throttled_eq {throttling : α} (h : 0 ≤ throttling) (plain : α) :
    (if 0 < throttling then plain * (1 + throttling / 100) else plain) =
      plain * (1 + throttling / 100) := by
  rcases h.eq_or_lt with hnone | hsome
  · simp [← hnone]
  · rw [if_pos hsome]

section

variable [IsStrictOrderedRing α]

/-- Throttling grows with the excess over the limit, between nothing and its cap. -/
theorem throttleOf_eq_clamp (temperature limit : α) :
    throttleOf temperature limit = max 0 (min 50 ((temperature - limit) * 2)) := by
  by_cases h : temperature ≤ limit
  · have hexcess : (temperature - limit) * 2 ≤ 0 := by linarith
    rw [throttleOf, if_pos h, max_eq_left ((min_le_right _ _).trans hexcess)]
  · have hexcess : 0 ≤ (temperature - limit) * 2 := by linarith
    rw [throttleOf, if_neg h, max_eq_right (le_min (by norm_num) hexcess)]

theorem throttleOf_nonneg (temperature limit : α) : 0 ≤ throttleOf temperature limit := by
  rw [throttleOf_eq_clamp]
  exact le_max_left _ _

theorem one_le_throttled (temperature limit : α) : 1 ≤ 1 + throttleOf temperature limit / 100 := by
  have hnonneg := throttleOf_nonneg temperature limit
  exact le_add_of_nonneg_right (by positivity)

/-- Tens of degrees, as far as leakage grows with them. -/
theorem tens_mem {rise : α} (hrise : 0 ≤ rise) :
    0 ≤ min rise 1000 / 10 ∧ min rise 1000 / 10 ≤ 100 := by
  constructor
  · exact div_nonneg (le_min hrise (by norm_num)) (by norm_num)
  · rw [div_le_iff₀ (by norm_num)]
    exact (min_le_right _ _).trans (by norm_num)

theorem Accepted.cyclesOf_nonneg {n ratio access : α} (h : Accepted n ratio access) :
    0 ≤ cyclesOf n ratio access := by
  have hother : 0 ≤ 1 - ratio := sub_nonneg.mpr h.ratio_le_one
  exact add_nonneg (mul_nonneg h.instructions_nonneg hother)
    (mul_nonneg (mul_nonneg h.instructions_nonneg h.ratio_nonneg) h.access_nonneg)

/-- Instructions take no cycles exactly when all of them reach a memory that takes none. -/
theorem cyclesOf_nonpos_iff {n ratio access : α} (hn : 0 < n) (hratio : 0 ≤ ratio)
    (hratio' : ratio ≤ 1) (haccess : 0 ≤ access) :
    cyclesOf n ratio access ≤ 0 ↔ ratio = 1 ∧ access = 0 := by
  have hcycles : cyclesOf n ratio access = n * ((1 - ratio) + ratio * access) := by
    unfold cyclesOf
    ring
  have hother : 0 ≤ 1 - ratio := sub_nonneg.mpr hratio'
  have hmemory : 0 ≤ ratio * access := mul_nonneg hratio haccess
  rw [hcycles]
  constructor
  · intro h
    have hnone : (1 - ratio) + ratio * access ≤ 0 := nonpos_of_mul_nonpos_right h hn
    obtain rfl : ratio = 1 := by linarith
    exact ⟨rfl, by linarith⟩
  · rintro ⟨rfl, rfl⟩
    simp

theorem Accepted.cyclesOf_pos {n ratio access : α} (h : Accepted n ratio access) (hn : n ≠ 0) :
    0 < cyclesOf n ratio access := by
  have hpos : 0 < n := h.instructions_nonneg.lt_of_ne' hn
  refine not_le.mp fun hnone => h.not_free ⟨hpos, ?_⟩
  exact (cyclesOf_nonpos_iff hpos h.ratio_nonneg h.ratio_le_one h.access_nonneg).mp hnone

/-- The cycles of an estimate are lengthened by its throttling, also where that is nothing. -/
theorem estimateOf_cycles [Scalar α] (g : α → α) (n ratio access : α) (style : Integration)
    (thermal : Thermal α) :
    (estimateOf g n ratio access style thermal).cycles =
      cyclesOf n ratio access *
        (1 + (estimateOf g n ratio access style thermal).throttling / 100) :=
  throttled_eq (throttleOf_nonneg _ _) _

end

/-! ## The parts -/

variable [Scalar α] [LawfulField α]

theorem plainCycles_eq (n ratio access : α) :
    plainCycles n ratio access = .ok (cyclesOf n ratio access) := by
  simp only [plainCycles, ok_sub, sub_eq, ok_mul, mul_eq, ok_add, add_eq, real_eq, Rat.cast_one]
  rfl

theorem throttlePercent_eq (temperature limit : α) :
    throttlePercent temperature limit = .ok (throttleOf temperature limit) := by
  by_cases h : temperature ≤ limit
  · simp [throttlePercent, throttleOf, le_eq, real_eq, h]
  · simp [throttlePercent, throttleOf, le_eq, sub_eq, mul_eq, least_eq_min, real_eq, h, throttleCap,
      throttleSlope]

theorem Thermal.resistance_nonneg {t : Thermal α} (h : t.validate = .ok ()) :
    0 ≤ t.resistance := by
  obtain ⟨_, -, h⟩ := bind_eq_ok.mp h
  obtain ⟨_, -, h⟩ := bind_eq_ok.mp h
  exact requireNonNegative_ok_iff.mp h

variable [IsStrictOrderedRing α]

theorem energyPerInstruction_eq (ratio : α) (style : Integration) :
    energyPerInstruction ratio style = .ok (energyOf ratio style) := by
  have hpico : real α 0.000000000001 = 0.000000000001 := by norm_num [real_eq]
  have hone : real α 1 = 1 := by norm_num [real_eq]
  simp only [energyPerInstruction, ok_mul, mul_eq, ok_sub, sub_eq, ok_add, add_eq, ok_bind, hone,
    hpico]
  rfl

theorem cycleFloor_pos : 0 < cycleFloor α := by
  norm_num [cycleFloor, real_eq]

theorem perCycle_eq (n cycles : α) : perCycle n cycles = .ok (rateOf n cycles) := by
  have hfloor : max cycles (cycleFloor α) ≠ 0 := (lt_max_of_lt_right cycleFloor_pos).ne'
  by_cases hn : n ≤ 0
  · simp [perCycle, rateOf, le_eq, whole_eq, real_eq, hn]
  · simp [perCycle, rateOf, le_eq, whole_eq, greatest_eq_max, div_eq hfloor, hn]

/-- Cycles that are lengthened by a percentage. -/
theorem lengthened_eq (plain percent : α) :
    (plain * (real α 1 + percent / real α 100) : Result α α) =
      .ok (plain * (1 + percent / 100)) := by
  have hhundred : (100 : α) ≠ 0 := by norm_num
  have hunit : real α 100 = 100 := by norm_num [real_eq]
  have hone : real α 1 = 1 := by norm_num [real_eq]
  simp only [ok_div, hunit, div_eq hhundred, ok_add, hone, add_eq, ok_mul, mul_eq]

theorem Grows.staticPower_eq {growth : α → Result α α} {g : α → α}
    (hg : Grows growth g) {rise : α} (hrise : 0 ≤ rise) :
    staticPower growth rise = .ok (leakageOf g rise) := by
  have hten : (10 : α) ≠ 0 := by norm_num
  obtain ⟨hlow, hhigh⟩ := tens_mem hrise
  have hhalf : leakageBase α = 0.5 := by norm_num [leakageBase, real_eq]
  have hlimit : leakageRiseLimit α = 1000 := by norm_num [leakageRiseLimit, real_eq]
  have hunit : real α 10 = 10 := by norm_num [real_eq]
  simp [staticPower, leakageOf, least_eq_min, hhalf, hlimit, hunit, div_eq hten, mul_eq,
    hg _ hlow hhigh]

section

variable {n ratio access : α}

theorem rateOf_nonneg (hn : 0 ≤ n) (cycles : α) : 0 ≤ rateOf n cycles := by
  unfold rateOf
  split
  · exact le_rfl
  · exact div_nonneg hn (cycleFloor_pos.le.trans (le_max_right _ _))

theorem energyOf_nonneg (hratio : 0 ≤ ratio) (hratio' : ratio ≤ 1) (style : Integration) :
    0 ≤ energyOf ratio style := by
  have hmemory : 0 ≤ memoryEnergy α style := by
    cases style <;> norm_num [memoryEnergy, real_eq]
  have hother : 0 ≤ otherEnergy α := by norm_num [otherEnergy, real_eq]
  have hrest : 0 ≤ 1 - ratio := sub_nonneg.mpr hratio'
  unfold energyOf
  positivity

theorem clockRate_pos : 0 < clockRate α := by
  norm_num [clockRate, real_eq]

theorem dynamicOf_nonneg (hn : 0 ≤ n) (hratio : 0 ≤ ratio) (hratio' : ratio ≤ 1) (access : α)
    (style : Integration) : 0 ≤ dynamicOf n ratio access style := by
  have henergy := energyOf_nonneg hratio hratio' style
  have hrate := rateOf_nonneg hn (cyclesOf n ratio access)
  exact mul_nonneg (mul_nonneg henergy hrate) clockRate_pos.le

theorem Accepted.dynamicOf_nonneg (h : Accepted n ratio access) (style : Integration) :
    0 ≤ dynamicOf n ratio access style :=
  Machine.dynamicOf_nonneg h.instructions_nonneg h.ratio_nonneg h.ratio_le_one access style

end

/-! ## The whole -/

variable {growth : α → Result α α} {g : α → α} (hg : Grows growth g) {n ratio access : α}
  (style : Integration) {thermal : Thermal α} (hR : 0 ≤ thermal.resistance)

include hg hR

/-- **The estimate of a stream and a system that make sense**: a refusal where
instructions take no cycles, and an answer everywhere else. -/
theorem Grows.estimate_eq (hn : 0 ≤ n) (hratio : 0 ≤ ratio) (hratio' : ratio ≤ 1)
    (haccess : 0 ≤ access) :
    estimate growth n ratio access style thermal =
      if 0 < n ∧ ratio = 1 ∧ access = 0 then refuse (.freeMemory access ratio)
      else .ok (estimateOf g n ratio access style thermal) := by
  have hinstructions : requireNonNegative "total_instructions" n = .ok () :=
    requireNonNegative_ok_iff.mpr hn
  have hfraction : requireFraction "memory_ratio" ratio = .ok () :=
    requireFraction_ok_iff.mpr ⟨hratio, hratio'⟩
  have hmean : requireNonNegative "amat" access = .ok () := requireNonNegative_ok_iff.mpr haccess
  have hfree : (0 < n ∧ cyclesOf n ratio access ≤ 0) ↔ 0 < n ∧ ratio = 1 ∧ access = 0 :=
    and_congr_right fun hpos => cyclesOf_nonpos_iff hpos hratio hratio' haccess
  have hdynamic : energyOf ratio style * rateOf n (cyclesOf n ratio access) * clockRate α =
      dynamicOf n ratio access style := rfl
  have hrise : thermal.ambient + dynamicOf n ratio access style * thermal.resistance -
      thermal.ambient = dynamicOf n ratio access style * thermal.resistance := by ring
  have hstatic := hg.staticPower_eq
    (mul_nonneg (dynamicOf_nonneg hn hratio hratio' access style) hR)
  simp only [estimate, hinstructions, hfraction, hmean, toReal_eq, plainCycles_eq, ok_bind, lt_eq,
    le_eq, whole_eq, Int.cast_zero, ← Bool.decide_and, hfree, perCycle_eq, energyPerInstruction_eq,
    ok_mul, mul_eq, ok_add, add_eq, ok_sub, sub_eq, hdynamic, hrise, hstatic, throttlePercent_eq,
    lengthened_eq, decide_eq_true_eq]
  split
  · rfl
  · unfold estimateOf
    dsimp only
    split <;> rfl

/-- Whatever it is asked for, an estimate answers what it makes of an accepted stream. -/
theorem Grows.estimate_eq_ok_iff {e : Estimate α} :
    estimate growth n ratio access style thermal = .ok e ↔
      Accepted n ratio access ∧ estimateOf g n ratio access style thermal = e := by
  constructor
  · intro h
    -- the checks stand before everything else, so that they are known to have passed
    obtain ⟨_, hn, hchecked⟩ := bind_eq_ok.mp h
    obtain ⟨_, hratio, hchecked⟩ := bind_eq_ok.mp hchecked
    obtain ⟨_, haccess, -⟩ := bind_eq_ok.mp hchecked
    rw [requireNonNegative_ok_iff] at hn haccess
    rw [requireFraction_ok_iff] at hratio
    rw [hg.estimate_eq style hR hn hratio.1 hratio.2 haccess] at h
    split at h
    · cases h
    · exact ⟨⟨hn, hratio.1, hratio.2, haccess, ‹_›⟩, Except.ok.inj h⟩
  · rintro ⟨h, rfl⟩
    rw [hg.estimate_eq style hR h.instructions_nonneg h.ratio_nonneg h.ratio_le_one
      h.access_nonneg, if_neg h.not_free]

theorem Grows.estimate_answers_iff :
    (∃ e, estimate growth n ratio access style thermal = .ok e) ↔ Accepted n ratio access := by
  simp only [hg.estimate_eq_ok_iff style hR, exists_and_left, exists_eq', and_true]

end SiliconBench.Machine
