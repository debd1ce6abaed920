import SiliconBench.Proofs.Machine.Cooler

/-!
# Faster — when a faster memory pays

A faster memory saves cycles, and a core that no longer waits for it burns more power.
The heat of that power is paid for with cycles again, so that a faster memory may even
COST cycles: it does where a poor way for heat lets the throttling grow faster than the
cycles shrink. Whether it pays is told by the two amounts of throttling alone. It does
pay where the faster side does not throttle, or the slower side throttles all it can;
and, because the same work makes no more heat when it is done faster, it pays as long
as a core is no more than fifty degrees above ambient.
-/

namespace SiliconBench.Machine

open Scalar

variable {α : Type} [Field α] [LinearOrder α] [IsStrictOrderedRing α]

/-! ## Throttling -/

/-- Throttling grows by two percent per degree, at most. -/
theorem throttleOf_le_add {temperature temperature' : α} (h : temperature' ≤ temperature)
    (limit : α) :
    throttleOf temperature limit ≤
      throttleOf temperature' limit + (temperature - temperature') * 2 := by
  rw [throttleOf_eq_clamp, throttleOf_eq_clamp]
  apply max_le
  · have hnonneg : 0 ≤ max 0 (min 50 ((temperature' - limit) * 2)) := le_max_left _ _
    linarith
  · rcases le_total 50 ((temperature' - limit) * 2) with hcapped | hbelow
    · have hcap : min 50 ((temperature - limit) * 2) ≤ 50 := min_le_left _ _
      rw [min_eq_left hcapped, max_eq_right (by norm_num)]
      linarith
    · have hexcess : min 50 ((temperature - limit) * 2) ≤ (temperature - limit) * 2 :=
        min_le_right _ _
      have hreached : (temperature' - limit) * 2 ≤ max 0 ((temperature' - limit) * 2) :=
        le_max_right _ _
      rw [min_eq_right hbelow]
      linarith

/-- Of two throttled counts of cycles the first is no larger exactly if what throttling
costs it more is no more than what the second has more. -/
theorem throttled_le_iff {plain plain' percent percent' : α} :
    plain * (1 + percent / 100) ≤ plain' * (1 + percent' / 100) ↔
      plain * (percent - percent') ≤ (plain' - plain) * (100 + percent') := by
  constructor
  · intro h
    linarith
  · intro h
    linarith

/-! ## The same work over more cycles -/

theorem le_of_work_eq {m m' x y : α} (hm : 0 < m) (hmm' : m ≤ m') (hwork : m * x = m' * y)
    (hy : 0 ≤ y) : y ≤ x := by
  refine le_of_mul_le_mul_left ?_ hm
  rw [hwork]
  exact mul_le_mul_of_nonneg_right hmm' hy

section

variable {growth : α → Result α α} {g : α → α} (hg : Rises growth g) (hmoderate : Moderate g)
  {m m' : α} (hm : 0 < m) (hmm' : m ≤ m')

include hg hmoderate hm hmm'

/-- The heat that leaks while a work is done does not grow when it is done faster. -/
theorem Rises.mul_leakageOf_le {rise rise' : α} (hwork : m * rise = m' * rise')
    (hrise' : 0 ≤ rise') (hfifty : rise ≤ 50) :
    m * leakageOf g rise ≤ m' * leakageOf g rise' := by
  have hle : rise' ≤ rise := le_of_work_eq hm hmm' hwork hrise'
  rcases hrise'.eq_or_lt with rfl | hpos
  · obtain rfl : rise = 0 := (mul_eq_zero.mp (hwork.trans (mul_zero m'))).resolve_left hm.ne'
    exact mul_le_mul_of_nonneg_right hmm' (hg.leakageOf_pos le_rfl).le
  · have huncut : min rise 1000 = rise := min_eq_left (by linarith)
    have huncut' : min rise' 1000 = rise' := min_eq_left (by linarith)
    have hgrowth := hmoderate (rise' / 10) (rise / 10) (by linarith) (by linarith) (by linarith)
    have hleakage : rise' * leakageOf g rise ≤ rise * leakageOf g rise' := by
      rw [leakageOf, leakageOf, huncut, huncut']
      linarith
    refine le_of_mul_le_mul_left ?_ hpos
    calc rise' * (m * leakageOf g rise)
      _ = m * (rise' * leakageOf g rise) := by ring
      _ ≤ m * (rise * leakageOf g rise') := mul_le_mul_of_nonneg_left hleakage hm.le
      _ = rise' * (m' * leakageOf g rise') := by rw [← mul_assoc, hwork]; ring

variable {t : Thermal α} (hR : 0 ≤ t.resistance) {dynamic dynamic' : α}
  (hwork : m * dynamic = m' * dynamic') (hdynamic' : 0 ≤ dynamic')
  (hcool : temperatureOf g dynamic t ≤ t.ambient + 50)

include hR hwork hdynamic' hcool

/-- Neither does all of the heat of the work. -/
theorem Rises.mul_temperatureOf_le :
    m * (temperatureOf g dynamic t - t.ambient) ≤
      m' * (temperatureOf g dynamic' t - t.ambient) := by
  have hdynamic : 0 ≤ dynamic := hdynamic'.trans (le_of_work_eq hm hmm' hwork hdynamic')
  have hrise : 0 ≤ dynamic * t.resistance := mul_nonneg hdynamic hR
  have hleakage : 0 ≤ leakageOf g (dynamic * t.resistance) * t.resistance :=
    mul_nonneg (hg.leakageOf_pos hrise).le hR
  have hfifty : dynamic * t.resistance ≤ 50 := by
    rw [temperatureOf, totalOf] at hcool
    linarith
  have hsame : m * (dynamic * t.resistance) = m' * (dynamic' * t.resistance) := by
    rw [← mul_assoc, hwork, mul_assoc]
  have hleak := mul_le_mul_of_nonneg_right
    (hg.mul_leakageOf_le hmoderate hm hmm' hsame (mul_nonneg hdynamic' hR) hfifty) hR
  rw [temperatureOf, temperatureOf, totalOf, totalOf]
  linarith

/-- What throttling costs a work more when it is done faster is no more than a hundred
percent of the cycles that this saves. -/
theorem Rises.mul_throttleOf_sub_le :
    m' * (throttleOf (temperatureOf g dynamic t) t.limit -
      throttleOf (temperatureOf g dynamic' t) t.limit) ≤ (m' - m) * 100 := by
  have hm' : 0 < m' := hm.trans_le hmm'
  have hless : dynamic' ≤ dynamic := le_of_work_eq hm hmm' hwork hdynamic'
  have hheat := hg.mul_temperatureOf_le hmoderate hm hmm' hR hwork hdynamic' hcool
  have hhotter := hg.temperatureOf_le (.refl t) hR hdynamic' hless
  have hpercent : throttleOf (temperatureOf g dynamic t) t.limit -
      throttleOf (temperatureOf g dynamic' t) t.limit ≤
        (temperatureOf g dynamic t - temperatureOf g dynamic' t) * 2 := by
    have hslope := throttleOf_le_add hhotter t.limit
    linarith
  have hsaved : (m' - m) * (temperatureOf g dynamic t - t.ambient) ≤ (m' - m) * 50 :=
    mul_le_mul_of_nonneg_left (by linarith) (sub_nonneg.mpr hmm')
  calc m' * (throttleOf (temperatureOf g dynamic t) t.limit -
        throttleOf (temperatureOf g dynamic' t) t.limit)
    _ ≤ m' * ((temperatureOf g dynamic t - temperatureOf g dynamic' t) * 2) :=
      mul_le_mul_of_nonneg_left hpercent hm'.le
    _ ≤ (m' - m) * 100 := by linarith

end

/-! ## Two estimates -/

/-- What `e` has over `f`, which are two estimates of one stream on one system, before a
faster memory and before a slower one: `plain` and `plain'` are their cycles before
throttling. -/
structure Estimate.FasterThan (g : α → α) (t : Thermal α) (plain plain' : α)
    (e f : Estimate α) : Prop where
  throttling_ge : f.throttling ≤ e.throttling
  cycles_le_iff : e.cycles ≤ f.cycles ↔
    plain * (e.throttling - f.throttling) ≤ (plain' - plain) * (100 + f.throttling)
  cycles_le_of_unthrottled : e.temperature ≤ t.limit → e.cycles ≤ f.cycles
  cycles_le_of_capped : t.limit + 25 ≤ f.temperature → e.cycles ≤ f.cycles
  cycles_le_of_cool : Moderate g → e.temperature ≤ t.ambient + 50 → e.cycles ≤ f.cycles
  cycles_le_half_more : e.cycles ≤ 1.5 * f.cycles

variable [Scalar α] [LawfulField α]

/-- The energy of a stream is the same over all cycles that it may take. -/
theorem max_mul_dynamicOf {n : α} (hn : 0 ≤ n) (ratio access : α) (style : Integration) :
    max (cyclesOf n ratio access) (cycleFloor α) * dynamicOf n ratio access style =
      energyOf ratio style * n * clockRate α := by
  have hrate := rateOf_mul_max hn (cyclesOf n ratio access)
  calc max (cyclesOf n ratio access) (cycleFloor α) * dynamicOf n ratio access style
    _ = energyOf ratio style *
          (rateOf n (cyclesOf n ratio access) * max (cyclesOf n ratio access) (cycleFloor α)) *
          clockRate α := by unfold dynamicOf; ring
    _ = energyOf ratio style * n * clockRate α := by rw [hrate]

section

variable {growth : α → Result α α} {g : α → α} (hg : Rises growth g) {n ratio a b : α}
  (ha : Accepted n ratio a) (hb : Accepted n ratio b) (hab : a ≤ b) (style : Integration)
  {t : Thermal α} (hR : 0 ≤ t.resistance)

include hg ha hb hab hR

theorem Rises.throttling_anti :
    (estimateOf g n ratio b style t).throttling ≤ (estimateOf g n ratio a style t).throttling :=
  throttleOf_mono (hg.temperatureOf_le (.refl t) hR (hb.dynamicOf_nonneg style)
    (ha.dynamicOf_le (.inr rfl) hab)) le_rfl

/-- Up to fifty degrees above ambient a faster memory pays. -/
theorem Rises.cycles_le_of_cool (hmoderate : Moderate g)
    (hcool : (estimateOf g n ratio a style t).temperature ≤ t.ambient + 50) :
    (estimateOf g n ratio a style t).cycles ≤ (estimateOf g n ratio b style t).cycles := by
  set plain := cyclesOf n ratio a
  set plain' := cyclesOf n ratio b
  set percent := (estimateOf g n ratio a style t).throttling
  set percent' := (estimateOf g n ratio b style t).throttling
  set floor := cycleFloor α
  have hplain : plain ≤ plain' := ha.cyclesOf_le hab
  have hpercent : percent' ≤ percent := hg.throttling_anti ha hb hab style hR
  have hnonneg : 0 ≤ percent' := throttleOf_nonneg _ _
  have hfloor : 0 < max plain floor := lt_max_of_lt_right cycleFloor_pos
  have hdivisors : max plain floor ≤ max plain' floor := max_le_max_right _ hplain
  have hwork : max plain floor * dynamicOf n ratio a style =
      max plain' floor * dynamicOf n ratio b style := by
    rw [max_mul_dynamicOf ha.instructions_nonneg, max_mul_dynamicOf ha.instructions_nonneg]
  have hcost : max plain' floor * (percent - percent') ≤
      (max plain' floor - max plain floor) * 100 :=
    hg.mul_throttleOf_sub_le hmoderate hfloor hdivisors hR hwork (hb.dynamicOf_nonneg style) hcool
  -- the floor under the divisors makes them differ by no more than the cycles do
  have hsaved : max plain' floor - max plain floor ≤ plain' - plain := by
    have hmax := max_sub_max_le_max plain' floor plain floor
    rwa [sub_self, max_eq_left (sub_nonneg.mpr hplain)] at hmax
  rw [estimateOf_cycles, estimateOf_cycles, throttled_le_iff]
  calc plain * (percent - percent')
    _ ≤ max plain' floor * (percent - percent') :=
      mul_le_mul_of_nonneg_right (hplain.trans (le_max_left _ _)) (sub_nonneg.mpr hpercent)
    _ ≤ (max plain' floor - max plain floor) * 100 := hcost
    _ ≤ (plain' - plain) * 100 := mul_le_mul_of_nonneg_right hsaved (by norm_num)
    _ ≤ (plain' - plain) * (100 + percent') :=
      mul_le_mul_of_nonneg_left (by linarith) (sub_nonneg.mpr hplain)

theorem Rises.estimateOf_fasterThan :
    (estimateOf g n ratio a style t).FasterThan g t (cyclesOf n ratio a) (cyclesOf n ratio b)
      (estimateOf g n ratio b style t) := by
  have hnonneg : 0 ≤ (estimateOf g n ratio b style t).throttling := throttleOf_nonneg _ _
  constructor
  case throttling_ge => exact hg.throttling_anti ha hb hab style hR
  case cycles_le_iff =>
    rw [estimateOf_cycles, estimateOf_cycles]
    exact throttled_le_iff
  case cycles_le_of_unthrottled =>
    intro hunthrottled
    refine ha.cycles_le_of_throttling_le hab ?_
    exact (throttleOf_eq_zero_iff.mpr hunthrottled).trans_le hnonneg
  case cycles_le_of_capped =>
    intro hcapped
    refine ha.cycles_le_of_throttling_le hab ?_
    exact (throttleOf_le_cap _ _).trans (throttleOf_eq_cap_iff.mpr hcapped).ge
  case cycles_le_of_cool => exact hg.cycles_le_of_cool ha hb hab style hR
  case cycles_le_half_more =>
    calc (estimateOf g n ratio a style t).cycles
      _ ≤ 1.5 * cyclesOf n ratio a := ha.cycles_le g style t
      _ ≤ 1.5 * (estimateOf g n ratio b style t).cycles :=
        mul_le_mul_of_nonneg_left ((ha.cyclesOf_le hab).trans (hb.plain_le g style t)) (by norm_num)

end

/-! ## A hundred loads -/

section

variable {access : ℝ} (h : 1 ≤ access)

include h

theorem accepted_hundred : Accepted (100 : ℝ) 1 access where
  instructions_nonneg := by norm_num
  ratio_nonneg := zero_le_one
  ratio_le_one := le_rfl
  access_nonneg := zero_le_one.trans h
  not_free := fun hfree => (zero_lt_one.trans_le h).ne' hfree.2.2

/-- Their energy is spent over the time that each of them waits. -/
theorem temperature_hundred (g : ℝ → ℝ) (t : Thermal ℝ) :
    (estimateOf g 100 1 access .planar t).temperature = temperatureOf g (1 / access) t := by
  have hplain : cyclesOf (100 : ℝ) 1 access = 100 * access := by norm_num [cyclesOf]
  have hdivisor : max (100 * access) (cycleFloor ℝ) = 100 * access := by
    apply max_eq_left
    norm_num [cycleFloor, real_eq]
    linarith
  have hpos : 0 < access := by linarith
  have hdynamic : dynamicOf (100 : ℝ) 1 access .planar = 1 / access := by
    rw [dynamicOf, rateOf, hplain, hdivisor]
    norm_num [energyOf, memoryEnergy, otherEnergy, clockRate, real_eq]
    field_simp
  rw [← hdynamic]
  rfl

end

/-! ## The whole -/

/-- **When a faster memory pays.** The estimates of one stream on one system before two
memories each have an answer for exactly the streams that can be accepted. Where both
have one, the faster side throttles no less; and it takes no more cycles exactly if what
throttling costs it more is no more than what the slower side waits more. -/
theorem estimate_fasterThan {growth : α → Result α α} {g : α → α} (hg : Rises growth g)
    {t : Thermal α} (ht : t.validate = .ok ()) (style : Integration) (n ratio : α) {a b : α}
    (hab : a ≤ b) :
    ((∃ e, estimate growth n ratio a style t = .ok e) ↔ Accepted n ratio a) ∧
      ((∃ f, estimate growth n ratio b style t = .ok f) ↔ Accepted n ratio b) ∧
      ∀ e f, estimate growth n ratio a style t = .ok e →
        estimate growth n ratio b style t = .ok f →
          e.FasterThan g t (n * (1 - ratio) + n * ratio * a) (n * (1 - ratio) + n * ratio * b)
            f := by
  have hR := t.resistance_nonneg ht
  refine ⟨hg.grows.estimate_answers_iff style hR, hg.grows.estimate_answers_iff style hR, ?_⟩
  intro e f he hf
  obtain ⟨ha, rfl⟩ := (hg.grows.estimate_eq_ok_iff style hR).mp he
  obtain ⟨hb, rfl⟩ := (hg.grows.estimate_eq_ok_iff style hR).mp hf
  exact hg.estimateOf_fasterThan ha hb hab style hR

/-- On the narrow path a memory that is twice as fast makes a core throttle, with 37
degrees above ambient. It pays all the same. -/
theorem estimate_fasterThan_narrowPath :
    ∃ e f, estimate powerGrowth 100 1 5 .planar narrowPath = .ok e ∧
      estimate powerGrowth 100 1 10 .planar narrowPath = .ok f ∧
      narrowPath.limit < e.temperature ∧ e.cycles ≤ f.cycles := by
  have hR := narrowPath.resistance_nonneg narrowPath_validates
  obtain ⟨hfast, hslow, horder⟩ := estimate_fasterThan powerGrowth_rises narrowPath_validates
    .planar 100 1 (a := 5) (b := 10) (by norm_num)
  obtain ⟨e, he⟩ := hfast.mpr (accepted_hundred (by norm_num))
  obtain ⟨f, hf⟩ := hslow.mpr (accepted_hundred (by norm_num))
  have htemperature : e.temperature = 62 := by
    obtain ⟨-, rfl⟩ := (powerGrowth_rises.grows.estimate_eq_ok_iff .planar hR).mp he
    rw [temperature_hundred (by norm_num)]
    norm_num [temperatureOf, totalOf, leakageOf, narrowPath, realPath, real_eq]
  refine ⟨e, f, he, hf, ?_, (horder e f he hf).cycles_le_of_cool moderate_power ?_⟩
  · norm_num [htemperature, narrowPath, realPath, real_eq]
  · norm_num [htemperature, narrowPath, realPath, real_eq]

/-- A thermal path that lets hardly any heat through. -/
noncomputable def cloggedPath : Thermal ℝ := realPath 25 200 300

theorem cloggedPath_validates : cloggedPath.validate = .ok () :=
  realPath_validates (by norm_num) _ _

/-- A faster memory may cost cycles: on this path the slower side does not throttle at
all, and the faster side as much as it can. -/
theorem fasterMemory_throttles :
    Rises powerGrowth (fun x => 1.08 ^ x) ∧ cloggedPath.validate = .ok () ∧ (2 : ℝ) ≤ 2.5 ∧
      ∃ e f, estimate powerGrowth 100 1 2 .planar cloggedPath = .ok e ∧
        estimate powerGrowth 100 1 2.5 .planar cloggedPath = .ok f ∧
        e.cycles = 300 ∧ f.cycles = 250 := by
  have hR := cloggedPath.resistance_nonneg cloggedPath_validates
  have hone : (1.08 : ℝ) ^ (0 : ℝ) = 1 := Real.rpow_zero _
  have hfast : (1 : ℝ) ≤ 2 := by norm_num
  have hslow : (1 : ℝ) ≤ 2.5 := by norm_num
  have hestimate {access : ℝ} (h : 1 ≤ access) :=
    (powerGrowth_rises.grows.estimate_eq_ok_iff .planar hR).mpr ⟨accepted_hundred h, rfl⟩
  have hfigures {access : ℝ} (h : 1 ≤ access) :=
    powerGrowth_rises.estimateOf_consistent hone (accepted_hundred h) .planar hR
  refine ⟨powerGrowth_rises, cloggedPath_validates, by norm_num, _, _, hestimate hfast,
    hestimate hslow, ?_, ?_⟩
  · have hcapped := (hfigures hfast).throttling_eq_cap_iff.mpr (by
      rw [temperature_hundred hfast]
      norm_num [temperatureOf, totalOf, leakageOf, cloggedPath, realPath, real_eq])
    rw [(hfigures hfast).cycles_eq, hcapped]
    norm_num [cyclesOf]
  · have hunthrottled := (hfigures hslow).throttling_eq_zero_iff.mpr (by
      rw [temperature_hundred hslow]
      norm_num [temperatureOf, totalOf, leakageOf, cloggedPath, realPath, real_eq])
    rw [(hfigures hslow).cycles_eq, hunthrottled]
    norm_num [cyclesOf]

end SiliconBench.Machine
