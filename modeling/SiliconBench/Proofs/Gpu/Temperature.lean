import SiliconBench.Proofs.Gpu.ClockBand
import Mathlib.Algebra.Order.BigOperators.Group.List
import Mathlib.Tactic.FieldSimp

/-!
# Temperature — no core leaves the band that the step allows

A step multiplies the deviation of a core from ambient by `1 - ρ`, with `ρ` the
ratio that was checked ONCE, and adds the heat of the power that the core draws.
Since `ρ` is between zero and two that factor is less than one in size, so a
large enough interval of deviations is led into itself, WHEREVER the hotspots
are. Two such intervals matter: one for every ratio, and a tighter one without
deviations below zero for a ratio that does not overshoot.
-/

namespace SiliconBench.Gpu

open Scalar

/-! ## What a core draws -/

/-- What is assumed of the exponential. -/
def Damps (exp : Rat → Rat) : Prop :=
  ∀ x, 0 ≤ x → 0 ≤ exp (-x) ∧ exp (-x) ≤ 1

/-- A hotspot is at most as strong as the power that it adds to. -/
def Hotspot.Mild (h : Hotspot Rat) : Prop :=
  0 ≤ h.intensity ∧ h.intensity ≤ 1

theorem Hotspot.distanceSquared_nonneg (h : Hotspot Rat) (x y : Rat) :
    0 ≤ h.distanceSquared x y :=
  add_nonneg (mul_self_nonneg _) (mul_self_nonneg _)

theorem Hotspot.Mild.share_mem {h : Hotspot Rat} (hh : h.Mild) {exp : Rat → Rat}
    (hexp : Damps exp) {falloff : Rat} (hf : 0 < falloff) (x y : Rat) :
    0 ≤ h.share exp falloff x y ∧ h.share exp falloff x y ≤ 1 := by
  obtain ⟨hlow, hhigh⟩ := hexp _ (div_nonneg (h.distanceSquared_nonneg x y) hf.le)
  rw [← neg_div] at hlow hhigh
  exact ⟨mul_nonneg hh.1 hlow, mul_le_one₀ hh.2 hlow hhigh⟩

/-- Each hotspot adds at most the power of the core once more. -/
theorem factorAt_mem {exp : Rat → Rat} (hexp : Damps exp) {falloff : Rat} (hf : 0 < falloff)
    {hs : List (Hotspot Rat)} (hmild : ∀ h ∈ hs, h.Mild) (x y : Rat) :
    1 ≤ factorAt exp falloff hs x y ∧ factorAt exp falloff hs x y ≤ 1 + hs.length := by
  have hshare : ∀ s ∈ hs.map (Hotspot.share exp falloff x y), 0 ≤ s ∧ s ≤ 1 := by
    intro s hs
    obtain ⟨h, hmem, rfl⟩ := List.mem_map.mp hs
    exact (hmild h hmem).share_mem hexp hf x y
  have hlow := List.sum_nonneg fun s hs => (hshare s hs).1
  have hhigh := List.sum_le_card_nsmul _ 1 fun s hs => (hshare s hs).2
  rw [List.length_map, nsmul_one] at hhigh
  exact ⟨le_add_of_nonneg_right hlow, add_le_add_right hhigh 1⟩

theorem factors_mem {exp : Rat → Rat} (hexp : Damps exp) {g : Grid} (hg : 0 < g.side)
    {hs : List (Hotspot Rat)} (hmild : ∀ h ∈ hs, h.Mild) :
    ∀ f ∈ factors exp g hs, 1 ≤ f ∧ f ≤ 1 + hs.length := by
  intro f hf
  obtain ⟨p, -, rfl⟩ := List.mem_map.mp hf
  exact factorAt_mem hexp (Grid.falloff_pos hg) hmild _ _

/-! ## Deviations from ambient -/

namespace Config

variable {c : Config Rat}

/-- The most that a core draws when there are `count` hotspots. -/
def mostWatts (c : Config Rat) (count : Nat) : Rat :=
  c.maxPower / c.cores * (1 + count)

theorem Valid.mostWatts_nonneg (h : c.Valid) (count : Nat) : 0 ≤ c.mostWatts count :=
  mul_nonneg (div_nonneg h.maxPower_nonneg h.cores_pos.le)
    (add_nonneg zero_le_one count.cast_nonneg)

/-- The deviation of a core after a step in which it drew `power`. -/
def deviate (c : Config Rat) (d power : Rat) : Rat :=
  (1 - c.ratio) * d + 0.02 / c.capacitance * power

theorem Valid.heated_sub_ambient (h : c.Valid) (t power : Rat) :
    c.heated t power - c.ambient = c.deviate (t - c.ambient) power :=
  heatedBy_sub_ambient h.resistance_pos.ne' h.capacitance_pos.ne' c.ambient 0.02 t power

/-- Deviations from `low` to `high` stay there while a core draws at most `watts`. -/
structure Confines (c : Config Rat) (watts low high : Rat) : Prop where
  low_nonpos : low ≤ 0
  high_nonneg : 0 ≤ high
  deviate_mem : ∀ d power, low ≤ d ∧ d ≤ high → 0 ≤ power ∧ power ≤ watts →
    low ≤ c.deviate d power ∧ c.deviate d power ≤ high

/-- The interval for EVERY ratio: the heat of one step over what a step forgets. -/
theorem Valid.confines_ball (h : c.Valid) (hratio : c.ratio < 2) {watts : Rat}
    (hwatts : 0 ≤ watts) :
    c.Confines watts (-(0.02 / c.capacitance * watts / (1 - |1 - c.ratio|)))
      (0.02 / c.capacitance * watts / (1 - |1 - c.ratio|)) := by
  have hfactor : |1 - c.ratio| < 1 := by
    have := h.ratio_pos
    exact abs_lt.mpr ⟨by linarith, by linarith⟩
  have hforget : 0 < 1 - |1 - c.ratio| := sub_pos.mpr hfactor
  have hgain : 0 ≤ 0.02 / c.capacitance := div_nonneg (by norm_num) h.capacitance_pos.le
  set bound := 0.02 / c.capacitance * watts / (1 - |1 - c.ratio|) with hdef
  have hbound : 0 ≤ bound := div_nonneg (mul_nonneg hgain hwatts) hforget.le
  -- the bound is where a step forgets as much as it adds
  have hfix : |1 - c.ratio| * bound + 0.02 / c.capacitance * watts = bound := by
    have := div_mul_cancel₀ (0.02 / c.capacitance * watts) hforget.ne'
    rw [← hdef] at this
    linarith
  refine ⟨neg_nonpos.mpr hbound, hbound, fun d power hd hpower => abs_le.mp ?_⟩
  calc |c.deviate d power|
      ≤ |(1 - c.ratio) * d| + |0.02 / c.capacitance * power| := abs_add_le _ _
    _ = |1 - c.ratio| * |d| + 0.02 / c.capacitance * power := by
        rw [abs_mul, abs_of_nonneg (mul_nonneg hgain hpower.1)]
    _ ≤ |1 - c.ratio| * bound + 0.02 / c.capacitance * watts :=
        add_le_add (mul_le_mul_of_nonneg_left (abs_le.mpr hd) (abs_nonneg _))
          (mul_le_mul_of_nonneg_left hpower.2 hgain)
    _ = bound := hfix

/-- The interval for a step within the time constant: up to the temperature at
which the heat that flows off is the heat of the power. -/
theorem Valid.confines_above (h : c.Valid) (hratio : c.ratio ≤ 1) {watts : Rat}
    (hwatts : 0 ≤ watts) :
    c.Confines watts 0 ((c.junctionToCase + c.caseToAmbient) * watts) := by
  have hkept : 0 ≤ 1 - c.ratio := sub_nonneg.mpr hratio
  have hgain : 0 ≤ 0.02 / c.capacitance := div_nonneg (by norm_num) h.capacitance_pos.le
  have hflow : 0.02 / c.capacitance = c.ratio * (c.junctionToCase + c.caseToAmbient) := by
    have hR := h.resistance_pos.ne'
    have hC := h.capacitance_pos.ne'
    unfold ratio
    field_simp
  refine ⟨le_rfl, mul_nonneg h.resistance_pos.le hwatts, fun d power hd hpower => ⟨?_, ?_⟩⟩
  · exact add_nonneg (mul_nonneg hkept hd.1) (mul_nonneg hgain hpower.1)
  · calc c.deviate d power
        ≤ (1 - c.ratio) * ((c.junctionToCase + c.caseToAmbient) * watts) +
            0.02 / c.capacitance * watts :=
          add_le_add (mul_le_mul_of_nonneg_left hd.2 hkept)
            (mul_le_mul_of_nonneg_left hpower.2 hgain)
      _ = (c.junctionToCase + c.caseToAmbient) * watts := by
          rw [hflow]
          ring

end Config

/-! ## The invariant -/

namespace Run

variable {exp : Rat → Rat} {start r : Run Rat Rat} {count : Nat} {low high : Rat}

/-- The cores deviate from ambient by `low` to `high`, and the hotspots are mild. -/
structure Confined (count : Nat) (low high : Rat) (r : Run Rat Rat) : Prop where
  inBand : r.InBand
  count_eq : r.hotspots.length = count
  mild : ∀ h ∈ r.hotspots, h.Mild
  cells_eq : r.temperatures.length = r.grid.cells
  deviation_mem : ∀ t ∈ r.temperatures, low ≤ t - r.config.ambient ∧ t - r.config.ambient ≤ high

theorem initial_confined {config : Config Rat} {workload : Kernel.Workload Rat}
    {pattern : Pattern} {maxTicks : Rat} {hotspots : List (Hotspot Rat)} {watts : Rat}
    (hband : (initial config workload pattern maxTicks hotspots).InBand)
    (hmild : ∀ h ∈ hotspots, h.Mild) (hc : config.Confines watts low high) :
    (initial config workload pattern maxTicks hotspots).Confined hotspots.length low high where
  inBand := hband
  count_eq := rfl
  mild := hmild
  cells_eq := List.length_replicate
  deviation_mem := fun t ht => by
    obtain rfl : t = config.ambient := List.eq_of_mem_replicate ht
    show low ≤ config.ambient - config.ambient ∧ config.ambient - config.ambient ≤ high
    rw [sub_self]
    exact ⟨hc.low_nonpos, hc.high_nonneg⟩

/-- At a clock in the band a core draws at most its share of the maximum power. -/
theorem Checked.power_mem (h : r.Checked) (hr : r.InBand) :
    0 ≤ r.power ∧ r.power ≤ r.config.maxPower / r.config.cores := by
  have hshare : 0 ≤ r.config.maxPower / r.config.cores :=
    div_nonneg h.config.maxPower_nonneg h.config.cores_pos.le
  have hclock : 0 ≤ r.clock := h.config.floor_pos.le.trans hr.floor_le_clock
  exact ⟨mul_nonneg hshare (div_nonneg hclock h.config.clock_pos.le),
    mul_le_of_le_one_right hshare ((div_le_one h.config.clock_pos).mpr hr.clock_le_base)⟩

/-- What the cores draw in the next tick. -/
def drawn (exp : Rat → Rat) (r : Run Rat Rat) : List Rat :=
  (factors exp r.grid (r.hotspots.map (Hotspot.advance r.grid))).map (r.power * ·)

theorem Checked.drawn_mem (h : r.Checked) (hr : r.Confined count low high) (hexp : Damps exp) :
    ∀ p ∈ r.drawn exp, 0 ≤ p ∧ p ≤ r.config.mostWatts count := by
  intro p hp
  obtain ⟨f, hf, rfl⟩ := List.mem_map.mp hp
  have hmild : ∀ s ∈ r.hotspots.map (Hotspot.advance r.grid), s.Mild := by
    intro s hs
    obtain ⟨old, hold, rfl⟩ := List.mem_map.mp hs
    exact hr.mild old hold
  obtain ⟨hlow, hhigh⟩ := factors_mem hexp h.side_pos hmild f hf
  rw [List.length_map, hr.count_eq] at hhigh
  obtain ⟨hpower, hshare⟩ := h.power_mem hr.inBand
  have hf0 : 0 ≤ f := zero_le_one.trans hlow
  exact ⟨mul_nonneg hpower hf0, mul_le_mul hshare hhigh hf0 (hpower.trans hshare)⟩

/-- **A tick keeps the cores confined**, wherever it moves the hotspots. -/
theorem Checked.next_confined (h : r.Checked) (hexp : Damps exp)
    (hc : r.config.Confines (r.config.mostWatts count) low high)
    (hr : r.Confined count low high) : (r.next exp).Confined count low high where
  inBand := h.next_inBand hr.inBand exp
  count_eq := (List.length_map _).trans hr.count_eq
  mild := fun s hs => by
    obtain ⟨old, hold, rfl⟩ := List.mem_map.mp hs
    exact hr.mild old hold
  cells_eq := length_heated hr.cells_eq exp
  deviation_mem := fun t ht => by
    change t ∈ List.zipWith r.config.heated r.temperatures (r.drawn exp) at ht
    -- a new temperature comes from one core: its old temperature and what it drew
    rw [← List.map_uncurry_zip_eq_zipWith] at ht
    obtain ⟨⟨old, p⟩, hpair, rfl⟩ := List.mem_map.mp ht
    obtain ⟨hold, hp⟩ := List.of_mem_zip hpair
    show low ≤ r.config.heated old p - r.config.ambient ∧
      r.config.heated old p - r.config.ambient ≤ high
    rw [h.config.heated_sub_ambient]
    exact hc.deviate_mem _ p (hr.deviation_mem old hold) (h.drawn_mem hr hexp p hp)

/-! ## Every state of an accepted run -/

section

variable {config : Config Rat} {workload : Kernel.Workload Rat} {pattern : Value} {maxTicks : Rat}
  {draw : Grid → Result Rat (List (Hotspot Rat))}

/-- A confining interval holds every state of an accepted run. -/
theorem accepted_confined (accepted : prepare config workload pattern maxTicks draw = .ok start)
    (hmild : ∀ h ∈ start.hotspots, h.Mild) (hexp : Damps exp)
    (hc : config.Confines (config.mostWatts start.hotspots.length) low high)
    (reached : Reachable exp start r) : r.Confined start.hotspots.length low high := by
  have hstart := accepted_fresh accepted
  obtain ⟨-, -, -, -, p, hotspots, -, -, rfl⟩ := prepare_eq_ok.mp accepted
  have hnext : ∀ s : Run Rat Rat, s.Checked →
      s.config = config ∧ s.Confined hotspots.length low high →
      (s.next exp).config = config ∧ (s.next exp).Confined hotspots.length low high := by
    rintro s hs ⟨rfl, hconfined⟩
    exact ⟨rfl, hs.next_confined hexp hc hconfined⟩
  exact (hstart.checked.of_reachable
    (P := fun s => s.config = config ∧ s.Confined hotspots.length low high)
    ⟨hstart.config_eq, initial_confined hstart.inBand hmild hc⟩ hnext reached).2

/-- **The temperature band**: in every state of an accepted run, wherever its
hotspots are, no core is farther from ambient than the heat of one step over what
a step forgets. If the step is within the time constant, no core is below
ambient, nor above the temperature at which it loses what it can draw. -/
theorem temperature_in_band
    (accepted : prepare config workload pattern maxTicks draw = .ok start)
    (mild : ∀ h ∈ start.hotspots, h.Mild) (damps : Damps exp) (reached : Reachable exp start r) :
    ∃ ratio, stepRatio (config.junctionToCase + config.caseToAmbient) config.capacitance
        (tickSeconds Rat) = .ok ratio ∧ 0 < ratio ∧ ratio < 2 ∧
      r.temperatures.length = start.grid.cells ∧
      (∀ t ∈ r.temperatures, |t - config.ambient| ≤
        0.02 / config.capacitance * (config.maxPower / config.cores) *
          (1 + start.hotspots.length) / (1 - |1 - ratio|)) ∧
      (ratio ≤ 1 → ∀ t ∈ r.temperatures, config.ambient ≤ t ∧
        t ≤ config.ambient + (config.junctionToCase + config.caseToAmbient) *
          (config.maxPower / config.cores) * (1 + start.hotspots.length)) := by
  have hstart := accepted_fresh accepted
  have hvalid : config.Valid := hstart.config_eq ▸ hstart.checked.config
  have hstable : config.ratio < 2 := hstart.config_eq ▸ hstart.checked.stable
  have hwatts := hvalid.mostWatts_nonneg start.hotspots.length
  have hball := accepted_confined accepted mild damps (hvalid.confines_ball hstable hwatts) reached
  have hconfig : r.config = config := reached.config_eq.trans hstart.config_eq
  refine ⟨config.ratio, hvalid.stepRatio_rat, hvalid.ratio_pos, hstable,
    reached.grid_eq ▸ hball.cells_eq, fun t ht => ?_, fun hratio t ht => ?_⟩
  · have hmem := hball.deviation_mem t ht
    rw [hconfig, Config.mostWatts, ← mul_assoc] at hmem
    exact abs_le.mpr hmem
  · have habove :=
      accepted_confined accepted mild damps (hvalid.confines_above hratio hwatts) reached
    have hmem := habove.deviation_mem t ht
    rw [hconfig, Config.mostWatts, ← mul_assoc] at hmem
    exact ⟨sub_nonneg.mp hmem.1, sub_le_iff_le_add'.mp hmem.2⟩

theorem decay_damps : Damps decay := by
  intro x hx
  have hpos : 0 < 1 - -x := by linarith
  exact ⟨div_nonneg zero_le_one hpos.le, (div_le_one hpos).mpr (by linarith)⟩

/-- A core that has gone two of the three degrees that it can go. -/
theorem temperature_in_band_hotRun :
    prepare hotConfig shortKernel (.text "strided") 3 (fun _ => .ok [stillSpot]) = .ok hotRun ∧
      Reachable decay hotRun (hotRun.next decay) ∧ (hotRun.next decay).temperatures = [27] ∧
      ∃ ratio, 0 < ratio ∧ ratio < 2 ∧ ∀ t ∈ (hotRun.next decay).temperatures,
        |t - 25| ≤ 0.02 / 1 * (50 / 1) * (1 + 1) / (1 - |1 - ratio|) := by
  have hmild : ∀ h ∈ hotRun.hotspots, h.Mild := by
    intro h hh
    obtain rfl : h = stillSpot := List.mem_singleton.mp hh
    exact ⟨zero_le_one, le_rfl⟩
  have reached : Reachable decay hotRun (hotRun.next decay) := .ticked .start hotRun_step
  obtain ⟨ratio, -, hpos, hlt, -, hball, -⟩ :=
    temperature_in_band prepare_hotRun hmild decay_damps reached
  refine ⟨prepare_hotRun, reached, by decide +kernel, ratio, hpos, hlt, fun t ht => ?_⟩
  simpa [hotRun, initial, hotConfig] using hball t ht

end

end Run

end SiliconBench.Gpu
