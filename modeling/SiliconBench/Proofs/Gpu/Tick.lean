import SiliconBench.Proofs.Gpu.Accepted
import SiliconBench.Proofs.Gpu.Reachable

/-!
# Tick — what one tick does, over the rationals

`Run.next` is a tick written as ONE equation per field, without the question
whether the run is over. `step_rat` says that a tick of a checked run is exactly
that, or is refused because the run is over, and that it is never anything else:
the only quotients of a tick are by the number of cores, the clock, the
resistance, the capacitance and the falloff, and none of them is zero. Whatever
holds of a run is proved about `next`, never by opening `step` again.
-/

namespace SiliconBench.Gpu

open Scalar

/-! ## Heat -/

/-- What a hotspot adds to the power of a core at `(x, y)`. -/
def Hotspot.share (exp : Rat → Rat) (falloff x y : Rat) (h : Hotspot Rat) : Rat :=
  h.intensity * exp (-(h.distanceSquared x y) / falloff)

/-- The factor on the power of a core at `(x, y)`. -/
def factorAt (exp : Rat → Rat) (falloff : Rat) (hs : List (Hotspot Rat)) (x y : Rat) : Rat :=
  1 + (hs.map (Hotspot.share exp falloff x y)).sum

/-- The factors on the power of all cores of a grid. -/
def factors (exp : Rat → Rat) (g : Grid) (hs : List (Hotspot Rat)) : List Rat :=
  g.positions.map fun p => factorAt exp g.falloff hs p.1 p.2

theorem length_factors (exp : Rat → Rat) (g : Grid) (hs : List (Hotspot Rat)) :
    (factors exp g hs).length = g.cells := by
  simp [factors, Grid.positions]

theorem Grid.falloff_pos {g : Grid} (hg : 0 < g.side) : 0 < (g.falloff : Rat) := by
  have hside : (0 : Rat) < g.side := by exact_mod_cast hg
  exact mul_pos hside (by norm_num)

theorem powerFactor_rat {exp : Rat → Rat} {falloff : Rat} (hf : falloff ≠ 0)
    (hs : List (Hotspot Rat)) (x y : Rat) :
    (powerFactor exp falloff hs x y : Result Rat Rat) = .ok (factorAt exp falloff hs x y) := by
  have hparts : each (Hotspot.contribution exp falloff x y) hs =
      (.ok (hs.map (Hotspot.share exp falloff x y)) : Result Rat (List Rat)) :=
    each_eq_map fun h _ => by simp [Hotspot.contribution, Hotspot.share, quotient_rat hf]
  simp [powerFactor, factorAt, hparts]

theorem powerFactors_rat {exp : Rat → Rat} {g : Grid} (hg : 0 < g.side)
    (hs : List (Hotspot Rat)) :
    (powerFactors exp g hs : Result Rat (List Rat)) = .ok (factors exp g hs) :=
  each_eq_map fun _ _ => powerFactor_rat (Grid.falloff_pos hg).ne' hs _ _

/-- The temperature of a core after a tick in which it draws `power`. -/
def Config.heated (c : Config Rat) (t power : Rat) : Rat :=
  t + power / c.capacitance * 0.02 -
    (t - c.ambient) / (c.junctionToCase + c.caseToAmbient) / c.capacitance * 0.02

theorem Config.Valid.integrate_rat {c : Config Rat} (h : c.Valid) (ts powers : List Rat) :
    (integrate c.ambient (c.junctionToCase + c.caseToAmbient) c.capacitance 0.02 ts powers :
      Result Rat (List Rat)) = .ok (List.zipWith c.heated ts powers) :=
  Gpu.integrate_rat h.resistance_pos.ne' h.capacitance_pos.ne' c.ambient 0.02 ts powers

/-! ## The clock -/

/-- The clock after a tick that left the cores at `maxTemp`. -/
def Config.clockAfter (c : Config Rat) (maxTemp clock : Rat) : Rat :=
  if c.throttleTemp < maxTemp then c.clock * max 0.1 (1 - (maxTemp - c.throttleTemp) * 0.05)
  else min c.clock (clock + c.clock * 0.02)

namespace Run

/-! ## Phases -/

/-- The settings of a run have been checked. Ticks rely on it and keep it. -/
structure Checked (r : Run Rat Rat) : Prop where
  config : r.config.Valid
  workload : r.workload.Valid
  budget : 1 ≤ r.maxTicks
  stable : r.config.ratio < 2
  requiredOps : r.requiredOps = r.workload.ops * r.workload.items * r.config.intensity
  side_pos : 0 < r.grid.side

theorem Checked.requiredOps_nonneg {r : Run Rat Rat} (h : r.Checked) : 0 ≤ r.requiredOps := by
  rw [h.requiredOps]
  exact mul_nonneg (mul_nonneg h.workload.ops_nonneg h.workload.items_nonneg)
    h.config.intensity_nonneg

/-- What was checked is the task, so a run with the same task is checked too. -/
theorem Checked.congr {r s : Run Rat Rat} (h : r.Checked) (hs : s.task = r.task) : s.Checked := by
  simp only [task, Task.mk.injEq] at hs
  obtain ⟨hconfig, hworkload, -, hbudget, hops, hgrid⟩ := hs
  exact ⟨hconfig ▸ h.config, hworkload ▸ h.workload, hbudget ▸ h.budget, hconfig ▸ h.stable,
    by rw [hops, hworkload, hconfig, h.requiredOps], hgrid ▸ h.side_pos⟩

theorem Checked.initial {config : Config Rat} {workload : Kernel.Workload Rat}
    {pattern : Pattern} {maxTicks : Rat} {hotspots : List (Hotspot Rat)} (hc : config.Valid)
    (hw : workload.Valid) (hbudget : 1 ≤ maxTicks) (hratio : config.ratio < 2) :
    (initial config workload pattern maxTicks hotspots).Checked :=
  ⟨hc, hw, hbudget, hratio, rfl, Grid.side_ofCores_pos _⟩

theorem hotRun_checked : hotRun.Checked :=
  .initial hotConfig_valid shortKernel_valid (by norm_num) (by norm_num [Config.ratio, hotConfig])

/-- Watts of one core before the hotspots. -/
def power (r : Run Rat Rat) : Rat :=
  r.config.maxPower / r.config.cores * (r.clock / r.config.clock)

/-- The temperatures after the next tick. -/
def heated (exp : Rat → Rat) (r : Run Rat Rat) : List Rat :=
  List.zipWith r.config.heated r.temperatures
    ((factors exp r.grid (r.hotspots.map (Hotspot.advance r.grid))).map (r.power * ·))

theorem length_heated {r : Run Rat Rat} (hcells : r.temperatures.length = r.grid.cells)
    (exp : Rat → Rat) : (r.heated exp).length = r.grid.cells := by
  rw [heated, List.length_zipWith, List.length_map, length_factors, hcells, min_self]

theorem work_rat (r : Run Rat Rat) :
    r.work = .ok { r with ops := r.ops + r.config.cores * r.clock * 1000000000 * 0.02 } := rfl

theorem Checked.powerPerCore_rat {r : Run Rat Rat} (h : r.Checked) :
    r.powerPerCore = .ok r.power := by
  simp [powerPerCore, power, div_rat h.config.cores_pos.ne', div_rat h.config.clock_pos.ne']

theorem Checked.heat_rat {r : Run Rat Rat} (h : r.Checked) (exp : Rat → Rat) (power : Rat) :
    r.heat exp power = .ok { r with
      temperatures := List.zipWith r.config.heated r.temperatures
        ((factors exp r.grid r.hotspots).map (power * ·)) } := by
  simp only [heat, powerFactors_rat h.side_pos, Config.resistance_rat, toCell_rat, tickSeconds,
    real_rat, ok_bind, h.config.integrate_rat, pure_eq_ok]

theorem notePeak_rat (r : Run Rat Rat) :
    r.notePeak = .ok { r with peak := max r.peak r.maxTemp } := by
  simp [notePeak]

theorem regulate_rat (r : Run Rat Rat) :
    r.regulate = .ok { r with
      clock := r.config.clockAfter r.maxTemp r.clock
      throttling := decide (r.config.throttleTemp < r.maxTemp)
      throttleTime := if r.config.throttleTemp < r.maxTemp then r.throttleTime + 20
        else r.throttleTime } := by
  by_cases hot : r.config.throttleTemp < r.maxTemp
  · simp [regulate, hot, throttledClock, throttleSlope, throttleFloor, tickMillis,
      Config.clockAfter]
  · simp [regulate, hot, recoveredClock, recovery, Config.clockAfter]

theorem count_rat (r : Run Rat Rat) :
    r.count = .ok { r with tick := r.tick + 1, clockSum := r.clockSum + r.clock } := rfl

/-! ## The end of a run -/

/-- The run is over: there is no work, or the work is done, or the budget is spent. -/
def Over (r : Run Rat Rat) : Prop :=
  r.requiredOps ≤ 0 ∨ r.requiredOps ≤ r.ops ∨ r.maxTicks ≤ r.tick

instance (r : Run Rat Rat) : Decidable r.Over :=
  inferInstanceAs (Decidable (_ ∨ _ ∨ _))

theorem isDone_rat (r : Run Rat Rat) : r.isDone = .ok (decide r.Over) := by
  by_cases h0 : r.requiredOps ≤ 0
  · simp [isDone, isComplete, isDegenerate, Over, h0]
  · by_cases h1 : r.requiredOps ≤ r.ops
    · simp [isDone, isComplete, isDegenerate, Over, h0, h1]
    · simp [isDone, isComplete, isDegenerate, isSpent, Over, h0, h1]

theorem isDone_eq_true_iff {r : Run Rat Rat} : r.isDone = .ok true ↔ r.Over := by
  simp [isDone_rat]

/-- How a run stands. -/
def standing (r : Run Rat Rat) : Status :=
  if r.requiredOps ≤ 0 then .degenerate
  else if r.requiredOps ≤ r.ops then .completed
  else if r.maxTicks ≤ r.tick then .budgetExceeded
  else .completed

theorem status_rat (r : Run Rat Rat) : r.status = .ok r.standing := by
  by_cases h0 : r.requiredOps ≤ 0
  · simp [status, isDegenerate, standing, h0]
  · by_cases h1 : r.requiredOps ≤ r.ops
    · simp [status, isComplete, isDegenerate, standing, h0, h1]
    · by_cases h2 : r.maxTicks ≤ r.tick
      · simp [status, isComplete, isDegenerate, isSpent, standing, h0, h1, h2]
      · simp [status, isComplete, isDegenerate, isSpent, standing, h0, h1, h2]

/-- The fraction of the work that is done; all of it where there is none. -/
def doneShare (r : Run Rat Rat) : Rat :=
  if r.requiredOps ≤ 0 then 1 else min 1 (r.ops / r.requiredOps)

theorem progress_rat (r : Run Rat Rat) : r.progress = .ok r.doneShare := by
  by_cases h0 : r.requiredOps ≤ 0
  · simp [progress, isDegenerate, doneShare, h0]
  · have hne : r.requiredOps ≠ 0 := fun h => h0 h.le
    simp [progress, isDegenerate, doneShare, h0, div_rat hne]

/-- Milliseconds so far. -/
def millis (r : Run Rat Rat) : Rat :=
  r.tick * 20

theorem elapsed_rat (r : Run Rat Rat) : r.elapsed = .ok r.millis := rfl

/-- What a caller sees of a run. -/
def seen (r : Run Rat Rat) : Snapshot Rat Rat :=
  { tick := r.tick, elapsed := r.millis, ops := r.ops, progress := r.doneShare,
    clock := r.clock, throttling := r.throttling, maxTemp := r.maxTemp,
    temperatures := r.temperatures }

theorem snapshot_rat (r : Run Rat Rat) : r.snapshot = .ok r.seen := by
  simp [snapshot, elapsed_rat, progress_rat, seen]

/-! ## The tick -/

/-- The run after one more tick, whether or not it is over. -/
def next (exp : Rat → Rat) (r : Run Rat Rat) : Run Rat Rat :=
  let temperatures := r.heated exp
  let hottest := Cell.greatest temperatures
  let clock := r.config.clockAfter hottest r.clock
  { r with
    hotspots := r.hotspots.map (Hotspot.advance r.grid)
    temperatures
    tick := r.tick + 1
    ops := r.ops + r.config.cores * r.clock * 1000000000 * 0.02
    clock
    throttling := decide (r.config.throttleTemp < hottest)
    peak := max r.peak hottest
    clockSum := r.clockSum + clock
    throttleTime := if r.config.throttleTemp < hottest then r.throttleTime + 20
      else r.throttleTime }

/-- **A tick, exactly**: it is refused when the run is over, and does what `next`
says otherwise. -/
theorem Checked.step_rat {r : Run Rat Rat} (h : r.Checked) (exp : Rat → Rat) :
    r.step exp = if r.Over then .error ⟨.finished, r⟩ else .ok (r.next exp) := by
  by_cases hover : r.Over
  · simp [step, isDone_rat, hover]
  · set worked := { r with ops := r.ops + r.config.cores * r.clock * 1000000000 * 0.02 }
      with hworked
    -- the later phases see other runs, but the task is the same, so these are checked too
    have hw : worked.Checked := h.congr rfl
    have hm : worked.moveHotspots.Checked := h.congr rfl
    simp only [step, isDone_rat, hover, work_rat, ← hworked, hw.powerPerCore_rat, hm.heat_rat,
      notePeak_rat, regulate_rat, count_rat, orHalt_ok, ok_bind, decide_false,
      Bool.false_eq_true, if_false]
    rfl

/-- A tick of a run that is not over. -/
theorem Checked.step_next {r : Run Rat Rat} (h : r.Checked) (hover : ¬ r.Over)
    (exp : Rat → Rat) : r.step exp = .ok (r.next exp) := by
  rw [h.step_rat, if_neg hover]

theorem hotRun_step : hotRun.step decay = .ok (hotRun.next decay) :=
  hotRun_checked.step_next (by norm_num [Over, hotRun, initial, shortKernel, hotConfig]) decay

theorem Checked.next {r : Run Rat Rat} (h : r.Checked) (exp : Rat → Rat) :
    (r.next exp).Checked := h.congr rfl

end Run

end SiliconBench.Gpu
