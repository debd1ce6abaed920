import SiliconBench.Gpu.Run
import SiliconBench.Proofs.Gpu.Relaxation
import Mathlib.Tactic.Positivity

/-!
# Accepted — what is known of a run that was prepared

`Run.prepare` checks the settings, the kernel, the budget and the step ONCE; no
tick checks anything again. Over the rationals each check is an inequality, so
an accepted run is the initial run of its settings together with all of these
inequalities (`prepare_eq_ok`). `Run.Checked` is the part of them that stays
true while the run goes on.
-/

namespace SiliconBench

open Scalar

/-! ## Settings -/

namespace Gpu.Config

/-- Settings of a processor that make sense. -/
structure Valid (c : Config Rat) : Prop where
  cores_whole : c.cores.den = 1
  one_le_cores : 1 ≤ c.cores
  clock_pos : 0 < c.clock
  bandwidth_pos : 0 < c.bandwidth
  cacheSize_pos : 0 < c.cacheSize
  cacheLatency_nonneg : 0 ≤ c.cacheLatency
  one_le_cacheWays : 1 ≤ c.cacheWays
  intensity_nonneg : 0 ≤ c.intensity
  maxPower_nonneg : 0 ≤ c.maxPower
  junctionToCase_nonneg : 0 ≤ c.junctionToCase
  caseToAmbient_nonneg : 0 ≤ c.caseToAmbient
  resistance_pos : 0 < c.junctionToCase + c.caseToAmbient
  capacitance_pos : 0 < c.capacitance

theorem Valid.cores_pos {c : Config Rat} (h : c.Valid) : 0 < c.cores :=
  lt_of_lt_of_le one_pos h.one_le_cores

/-- The step over the time constant of a core. -/
def ratio (c : Config Rat) : Rat :=
  0.02 / ((c.junctionToCase + c.caseToAmbient) * c.capacitance)

theorem Valid.ratio_pos {c : Config Rat} (h : c.Valid) : 0 < c.ratio := by
  have hR := h.resistance_pos
  have hC := h.capacitance_pos
  unfold ratio
  positivity

theorem resistance_rat (c : Config Rat) :
    c.resistance = .ok (c.junctionToCase + c.caseToAmbient) := rfl

theorem wholeCores_eq_ok {c : Config Rat} {k : Rat} :
    c.wholeCores = .ok k ↔ k = c.cores ∧ c.cores.den = 1 ∧ 1 ≤ c.cores := by
  by_cases hw : c.cores.den = 1
  · have hn : c.cores = c.cores.num := (Rat.coe_int_num_of_den_eq_one hw).symm
    generalize c.cores.num = n at hn
    rcases lt_or_ge (n : Rat) 1 with h1 | h1
    · simp [wholeCores, hn, h1, h1.not_ge, refuse]
    · simp [wholeCores, hn, h1, h1.not_gt, eq_comm]
  · simp [wholeCores, truncate, ne_truncate hw, hw, refuse]

theorem Valid.truncate_cores {c : Config Rat} (h : c.Valid) :
    (truncate c.cores : Result Rat Int) = .ok c.cores.num := by
  have hn : c.cores = c.cores.num := (Rat.coe_int_num_of_den_eq_one h.cores_whole).symm
  rw [hn, truncate_intCast, Rat.num_intCast]

/-- Validation accepts exactly the settings that make sense, and over the
rationals it changes nothing: a whole number of cores IS its whole part. -/
theorem validate_eq_ok {c c' : Config Rat} :
    c.validate = .ok c' ↔ c' = c ∧ c.Valid := by
  simp only [validate, bind_eq_ok, wholeCores_eq_ok, requirePositive_rat,
    requireNonNegative_rat, requireOne_rat, resistance_rat, exists_const]
  constructor
  · rintro ⟨cores, ⟨rfl, hwhole, hcores⟩, hclock, hbandwidth, hsize, hlatency, hways,
      hintensity, hpower, hjunction, hcase, R, hR, hpos, hcapacitance, hc⟩
    cases hR
    cases hc
    exact ⟨rfl, hwhole, hcores, hclock, hbandwidth, hsize, hlatency, hways, hintensity, hpower,
      hjunction, hcase, hpos, hcapacitance⟩
  · rintro ⟨rfl, h⟩
    exact ⟨c'.cores, ⟨rfl, h.cores_whole, h.one_le_cores⟩, h.clock_pos, h.bandwidth_pos,
      h.cacheSize_pos, h.cacheLatency_nonneg, h.one_le_cacheWays, h.intensity_nonneg,
      h.maxPower_nonneg, h.junctionToCase_nonneg, h.caseToAmbient_nonneg, _, rfl,
      h.resistance_pos, h.capacitance_pos, rfl⟩

theorem Valid.stepRatio_rat {c : Config Rat} (h : c.Valid) :
    (stepRatio (c.junctionToCase + c.caseToAmbient) c.capacitance (tickSeconds Rat) :
      Result Rat Rat) = .ok c.ratio :=
  Gpu.stepRatio_rat h.resistance_pos h.capacitance_pos

/-- The guard on the step accepts exactly the ratios below two. -/
theorem Valid.requireStable_eq_ok {c : Config Rat} (h : c.Valid) {u : Unit} :
    requireStable (c.junctionToCase + c.caseToAmbient) c.capacitance (tickSeconds Rat) = .ok u ↔
      c.ratio < 2 := by
  rw [requireStable_rat h.resistance_pos h.capacitance_pos]
  show (if 2 ≤ c.ratio then _ else _) = Except.ok u ↔ c.ratio < 2
  simp [refuse]

end Gpu.Config

/-! ## Kernels -/

namespace Kernel.Workload

/-- A kernel that makes sense. -/
structure Valid (w : Workload Rat) : Prop where
  ops_nonneg : 0 ≤ w.ops
  data_nonneg : 0 ≤ w.data
  items_nonneg : 0 ≤ w.items
  locality_nonneg : 0 ≤ w.locality
  locality_le_one : w.locality ≤ 1

theorem requiredOps_rat (w : Workload Rat) (intensity : Rat) :
    w.requiredOps intensity = .ok (w.ops * w.items * intensity) := rfl

theorem validate_eq_ok {w : Workload Rat} {u : Unit} : w.validate = .ok u ↔ w.Valid := by
  simp only [validate, bind_eq_ok, requireNonNegative_rat, requireFraction_rat, exists_const]
  constructor
  · rintro ⟨hops, hdata, hitems, hlow, hhigh⟩
    exact ⟨hops, hdata, hitems, hlow, hhigh⟩
  · intro h
    exact ⟨h.ops_nonneg, h.data_nonneg, h.items_nonneg, h.locality_nonneg, h.locality_le_one⟩

end Kernel.Workload

namespace Gpu

/-! ## The layout has room -/

theorem ceilSqrt_pos {n : Nat} (hn : 0 < n) : 0 < ceilSqrt n := by
  unfold ceilSqrt
  split
  · rename_i k hk
    have hle : n ≤ k * k := by simpa using List.find?_some hk
    exact Nat.pos_of_ne_zero fun h0 => by subst h0; omega
  · exact hn

theorem Grid.side_ofCores_pos (cores : Int) : 0 < (Grid.ofCores cores).side := by
  have hcells : 0 < max 1 (min cores.toNat maxCells) := by omega
  have hcols := ceilSqrt_pos hcells
  refine Nat.lt_min.mpr ⟨hcols, Nat.div_pos ?_ hcols⟩
  show ceilSqrt _ ≤ _
  omega

/-! ## Runs -/

namespace Run

/-- The run at the start of a kernel. -/
def initial (config : Config Rat) (workload : Kernel.Workload Rat) (pattern : Pattern)
    (maxTicks : Rat) (hotspots : List (Hotspot Rat)) : Run Rat Rat :=
  let grid := Grid.ofCores config.cores.num
  { config, workload, pattern, maxTicks,
    requiredOps := workload.ops * workload.items * config.intensity, grid, hotspots,
    temperatures := List.replicate grid.cells config.ambient, tick := 0, ops := 0,
    clock := config.clock, throttling := false, peak := config.ambient, clockSum := 0,
    throttleTime := 0 }

/-- Over the rationals `prepare` accepts exactly a positive budget and settings
and a kernel that make sense, with a step that is stable; what it prepares is the
initial run. -/
theorem prepare_eq_ok {config : Config Rat} {workload : Kernel.Workload Rat} {pattern : Value}
    {maxTicks : Rat} {draw : Grid → Result Rat (List (Hotspot Rat))} {start : Run Rat Rat} :
    prepare config workload pattern maxTicks draw = .ok start ↔
      1 ≤ maxTicks ∧ config.Valid ∧ workload.Valid ∧ config.ratio < 2 ∧
        ∃ p hotspots, Pattern.parse (α := Rat) pattern = .ok p ∧
          draw (Grid.ofCores config.cores.num) = .ok hotspots ∧
          start = initial config workload p maxTicks hotspots := by
  simp only [prepare, bind_eq_ok, requireOne_rat, Config.validate_eq_ok,
    Kernel.Workload.validate_eq_ok, Kernel.Workload.requiredOps_rat, Config.resistance_rat,
    toReal_rat, toCell_rat, exists_const, Except.ok.injEq]
  constructor
  · rintro ⟨hbudget, c, ⟨rfl, hc⟩, hw, R, rfl, _, hstable, p, hp, ops, rfl, n, hn, hotspots,
      hdraw, ambient, rfl, cell, rfl, clock, rfl, h⟩
    rw [hc.truncate_cores] at hn
    cases hn
    cases h
    exact ⟨hbudget, hc, hw, hc.requireStable_eq_ok.mp hstable, p, hotspots, hp, hdraw, rfl⟩
  · rintro ⟨hbudget, hc, hw, hratio, p, hotspots, hp, hdraw, rfl⟩
    exact ⟨hbudget, config, ⟨rfl, hc⟩, hw, _, rfl, (), hc.requireStable_eq_ok.mpr hratio, p, hp,
      _, rfl, _, hc.truncate_cores, hotspots, hdraw, _, rfl, _, rfl, _, rfl, rfl⟩

end Run

/-! ## A processor to try statements on

One core above its throttling temperature from the first tick on, with a step
longer than its time constant, and a hotspot that sits on the core. The kernel
takes three ticks, the second and third of them throttled, and the budget is
three ticks too. -/

/-- A core that always throttles. -/
def hotConfig : Config Rat :=
  { cores := 1, clock := 2, bandwidth := 1, cacheSize := 1, cacheLatency := 20, cacheWays := 1,
    intensity := 1, maxPower := 50, junctionToCase := 1 / 100, caseToAmbient := 1 / 200,
    throttleTemp := 20, ambient := 25, capacitance := 1 }

/-- A kernel of seventy million operations. -/
def shortKernel : Kernel.Workload Rat :=
  { name := .text "short", ops := 1, data := 8, items := 70000000, locality := 1 / 2,
    category := .text "custom", intensity := .text "", access := .text "",
    applications := .text "" }

/-- A hotspot that sits on the first core. -/
def stillSpot : Hotspot Rat := ⟨0, 0, 0, 0, 1⟩

/-- A rational function with what matters of the exponential at and below zero. -/
def decay (x : Rat) : Rat := 1 / (1 - x)

/-- The kernel on the core, with three ticks to spend. -/
def hotRun : Run Rat Rat :=
  Run.initial hotConfig shortKernel .strided 3 [stillSpot]

theorem hotConfig_valid : hotConfig.Valid := by
  constructor <;> norm_num [hotConfig]

theorem shortKernel_valid : shortKernel.Valid := by
  constructor <;> norm_num [shortKernel]

theorem prepare_hotRun :
    Run.prepare hotConfig shortKernel (.text "strided") 3 (fun _ => .ok [stillSpot]) =
      .ok hotRun := by
  refine Run.prepare_eq_ok.mpr ⟨by norm_num, hotConfig_valid, shortKernel_valid, ?_,
    .strided, _, rfl, rfl, rfl⟩
  norm_num [Config.ratio, hotConfig]

end Gpu

end SiliconBench
