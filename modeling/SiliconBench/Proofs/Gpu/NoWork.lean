import SiliconBench.Proofs.Gpu.Budget
import SiliconBench.Proofs.Gpu.MemorySide
import SiliconBench.Proofs.Zero

/-!
# NoWork — what a kernel without work costs

A run with nothing to do is over before its first tick: it takes no step, shows
no snapshot and stays at the ambient temperature. Its figures are worked out all
the same. All that are about the cores come to nothing, because the average clock
that they are worked out from is nothing (`figures_idle`). The time of memory is
NOT worked out from a clock: the bytes of the kernel take as long as they would
in a run with work, and a run that took no time is then bound by its memory. It
costs nothing exactly where there are no bytes.
-/

namespace SiliconBench.Gpu

open Scalar

variable {α κ : Type} [Scalar α]

namespace Run

/-- Milliseconds that the bytes of a kernel take at the bandwidth. -/
def transferTime (r : Run α κ) : Result α α := do
  let bytes ← r.workload.totalBytes
  (bytes / (r.config.bandwidth * giga α : Result α α) : Result α α) * real α 1000

/-! ## A run that is over -/

variable {r : Run α κ}

theorem isDone_of_isDegenerate (h : r.isDegenerate = .ok true) : r.isDone = .ok true := by
  simp [isDone, isComplete, h]

theorem status_of_isDegenerate (h : r.isDegenerate = .ok true) : r.status = .ok .degenerate := by
  simp [status, h]

section

variable [Cell κ] [PerCore α κ] {exp : κ → κ}

theorem step_of_isDone (h : r.isDone = .ok true) : r.step exp = .error ⟨.finished, r⟩ := by
  simp [step, h]

/-- A host finds a run that is over as it was. -/
theorem Reachable.eq_of_isDone {start : Run α κ} (reached : Reachable exp start r)
    (h : start.isDone = .ok true) : r = start := by
  induction reached with
  | start => rfl
  | ticked _ hstep ih =>
    rw [ih, step_of_isDone h] at hstep
    cases hstep
  | halted _ hstep ih =>
    rw [ih, step_of_isDone h] at hstep
    cases hstep
    rfl

end

end Run

/-! ## What such a run comes to -/

/-- Figures of a run that had no work: only the bytes take their time. -/
structure Figures.Idle (r : Run α κ) (f : Figures α) : Prop where
  status : f.status = .degenerate
  averageClock : f.averageClock = real α 0
  kernelTime : f.kernelTime = real α 0
  computeTime : f.computeTime = real α 0
  memoryTime : r.transferTime = .ok f.memoryTime
  throughput : f.throughput = real α 0
  utilization : f.utilization = real α 0

/-- The outcome of a run that had no work. -/
structure Outcome.Idle [PerCore α κ] (r : Run α κ) (o : Outcome α κ) : Prop where
  figures : o.figures.Idle r
  ticks : o.ticks = 0
  throttleTime : o.throttleTime = real α 0
  power : Vanishing o.power
  memoryBound : lt (real α 0) o.figures.memoryTime = .ok o.memoryBound
  ambient : toReal r.config.ambient = .ok o.peakTemp
  /-- every core has the ambient temperature -/
  temperatures : ∃ cell, PerCore.toCell o.peakTemp = .ok cell ∧
    o.temperatures = List.replicate r.grid.cells cell

namespace Run

variable [LawfulZero α] {r : Run α κ}

theorem guarded_of_vanishing {divisor : α} (h : Vanishing divisor) (quotient : Result α α) :
    guarded divisor quotient = .ok (real α 0) := by
  simp [guarded, lt_vanishing h]

/-- Without an average clock the miss is not counted. -/
theorem memoryTime_of_no_clock (bytes hitRate : α) :
    r.memoryTime bytes (real α 0) hitRate =
      (bytes / (r.config.bandwidth * giga α : Result α α) : Result α α) * real α 1000 := by
  simp only [memoryTime, lt_vanishing Vanishing.zero, ok_bind]
  exact bind_pure _

/-- The figures that go by the clock come to nothing. -/
theorem figures_idle (htick : r.tick = 0) (h : r.isDegenerate = .ok true) :
    Answers (Figures.Idle r) r.figures := by
  have hstatus := status_of_isDegenerate h
  have hclock : r.averageClock = .ok (real α 0) := by simp [averageClock, htick]
  have helapsed : r.elapsed = .ok (real α 0) := by
    rw [elapsed, htick]
    exact mul_tickMillis
  rw [figures_eq, hstatus, hclock, helapsed]
  refine .bind fun status hstatus => .bind fun averageClock hclock => ?_
  cases hstatus
  cases hclock
  refine .bind fun bytes hbytes => .bind fun hitRate _ => .bind fun rate hrate => ?_
  have hrate : Vanishing rate :=
    vanishing_mul_left (vanishing_mul_right (answers_ok .zero)) rate hrate
  rw [guarded_of_vanishing hrate, memoryTime_of_no_clock]
  refine .bind fun computeTime hcompute => .bind fun memoryTime hmemory => ?_
  refine .bind fun kernelTime hkernel => .bind fun seconds hseconds => ?_
  cases hcompute
  cases hkernel
  have hseconds : Vanishing seconds := .div_left .zero hseconds
  rw [guarded_of_vanishing hseconds]
  refine .bind fun throughput hthroughput => .bind fun most hmost => ?_
  cases hthroughput
  have hmost : Vanishing most :=
    vanishing_mul_left (vanishing_mul_left (answers_ok hrate)) most hmost
  rw [guarded_of_vanishing hmost]
  refine .bind fun utilization hutilization => ?_
  cases hutilization
  have htransfer : r.transferTime = .ok memoryTime := by
    rw [transferTime, hbytes]
    exact hmemory
  exact .pure ⟨rfl, rfl, rfl, rfl, htransfer, rfl, rfl⟩

theorem Prepared.outcome_idle [PerCore α κ] {workload : Kernel.Workload α} {maxTicks : α}
    (hr : r.Prepared workload maxTicks) (h : r.isDegenerate = .ok true) :
    Answers (Outcome.Idle r) r.outcome := by
  refine .bind fun f hf => ?_
  have hidle := figures_idle hr.tick h f hf
  rw [hidle.status, hidle.averageClock, hidle.computeTime]
  refine .bind fun peakRate _ => .bind fun memoryBound hbound => .bind fun power hpower => ?_
  have hpower : Vanishing power :=
    vanishing_div_left (vanishing_mul_right (answers_ok .zero)) power hpower
  exact .pure ⟨hidle, hr.tick, hr.throttleTime, hpower, hbound, hr.ambient, hr.temperatures⟩

end Run

/-- Such a run is free exactly where its bytes take no time. -/
theorem Outcome.Idle.free_iff [LawfulZero α] [PerCore α κ] {r : Run α κ} {o : Outcome α κ}
    (h : o.Idle r) :
    o.figures.memoryTime = real α 0 ∧ o.memoryBound = false ↔
      r.transferTime = .ok (real α 0) := by
  constructor
  · rintro ⟨hmemory, -⟩
    rw [h.figures.memoryTime, hmemory]
  · intro htransfer
    have hmemory := Except.ok.inj (h.figures.memoryTime.symm.trans htransfer)
    have hbound := h.memoryBound
    rw [hmemory, lt_zero_zero] at hbound
    exact ⟨hmemory, (Except.ok.inj hbound).symm⟩

namespace Run

/-! ## Over the rationals -/

/-- There is no work exactly where one of its three factors is nothing. -/
theorem isDegenerate_initial {config : Config Rat} {workload : Kernel.Workload Rat} {p : Pattern}
    {maxTicks : Rat} {hotspots : List (Hotspot Rat)} (hc : config.Valid) (hw : workload.Valid) :
    (initial config workload p maxTicks hotspots).isDegenerate = .ok true ↔
      workload.ops = 0 ∨ workload.items = 0 ∨ config.intensity = 0 := by
  have hnonneg : 0 ≤ workload.ops * workload.items * config.intensity :=
    mul_nonneg (mul_nonneg hw.ops_nonneg hw.items_nonneg) hc.intensity_nonneg
  show Except.ok (decide (workload.ops * workload.items * config.intensity ≤ 0)) = .ok true ↔ _
  rw [Except.ok.injEq, decide_eq_true_iff, hnonneg.ge_iff_eq', mul_eq_zero, mul_eq_zero, or_assoc]

theorem Checked.transferTime_rat {r : Run Rat Rat} (h : r.Checked) :
    r.transferTime = .ok (r.bytes / (r.config.bandwidth * 1000000000) * 1000) := by
  have hband : r.config.bandwidth * 1000000000 ≠ 0 :=
    mul_ne_zero h.config.bandwidth_pos.ne' (by norm_num)
  simp [transferTime, Kernel.Workload.totalBytes, bytes, giga, div_rat hband]

/-- The bytes take no time exactly where there are none. -/
theorem transfer_eq_zero_iff {bytes bandwidth : Rat} (hband : 0 < bandwidth) :
    bytes / (bandwidth * 1000000000) * 1000 = 0 ↔ bytes = 0 := by
  have hrate : bandwidth * 1000000000 ≠ 0 := mul_ne_zero hband.ne' (by norm_num)
  simp [hrate]

/-- **A run without work costs what its bytes cost.** In whatever way it is driven it is
over before its first tick; it is degenerate, at the ambient temperature, and all of its
figures are zero but one. The time of memory is that of the bytes, and the run is free
exactly where that is zero. Over the rationals such a run lacks operations, items or
intensity; it always has an outcome, and is free exactly where it has no bytes. -/
theorem idle_without_work {α κ : Type} [Scalar α] [LawfulZero α] [Cell κ] [PerCore α κ]
    {config : Config α} {workload : Kernel.Workload α} {pattern : Value} {maxTicks : α}
    {draw : Grid → Result α (List (Hotspot κ))} {start : Run α κ}
    (accepted : prepare config workload pattern maxTicks draw = .ok start)
    (hnone : le start.requiredOps (whole α 0) = .ok true) (exp : κ → κ) :
    start.ticks exp = .ok (#[], start) ∧
    (∀ {σ : Type} (every : α) (f : σ → Snapshot α κ → σ) (acc : σ),
      requireOne "snapshot_every" every = .ok () →
        start.finish exp every f acc = .ok (acc, start)) ∧
    (∀ r, Reachable exp start r → r = start ∧ ∀ o, r.outcome = .ok o → o.Idle start ∧
      (o.figures.memoryTime = real α 0 ∧ o.memoryBound = false ↔
        start.transferTime = .ok (real α 0))) ∧
    ∀ {config : Config Rat} {workload : Kernel.Workload Rat} {pattern : Value} {maxTicks : Rat}
        {draw : Grid → Result Rat (List (Hotspot Rat))} {start : Run Rat Rat},
      prepare config workload pattern maxTicks draw = .ok start →
      (le start.requiredOps (whole Rat 0) = .ok true ↔
        workload.ops = 0 ∨ workload.items = 0 ∨ config.intensity = 0) ∧
      (le start.requiredOps (whole Rat 0) = .ok true → ∃ o, start.outcome = .ok o ∧
        o.Idle start ∧ o.power = 0 ∧
        o.figures.memoryTime =
          workload.data * workload.items / (config.bandwidth * 1000000000) * 1000 ∧
        (o.figures.memoryTime = 0 ∧ o.memoryBound = false ↔
          workload.data = 0 ∨ workload.items = 0)) := by
  have hstart := prepare_prepared config workload pattern maxTicks draw start accepted
  have hdone := isDone_of_isDegenerate hnone
  refine ⟨foldTicks_of_isDone hdone _ _, fun every f acc hevery => ?_, fun r reached => ?_, ?_⟩
  · rw [finish_eq, hevery]
    exact foldTicks_of_isDone hdone _ _
  · obtain rfl := reached.eq_of_isDone hdone
    refine ⟨rfl, fun o ho => ?_⟩
    have hidle := hstart.outcome_idle hnone o ho
    exact ⟨hidle, hidle.free_iff⟩
  · intro config workload pattern maxTicks draw start accepted
    have hstart := prepare_prepared config workload pattern maxTicks draw start accepted
    have h := (accepted_fresh accepted).checked
    obtain ⟨-, hc, hw, -, p, hotspots, -, -, rfl⟩ := prepare_eq_ok.mp accepted
    refine ⟨isDegenerate_initial hc hw, fun hnone => ?_⟩
    have hidle := hstart.outcome_idle hnone _ h.outcome_rat
    have hmemory := Except.ok.inj (hidle.figures.memoryTime.symm.trans h.transferTime_rat)
    have hzero : workload.data * workload.items / (config.bandwidth * 1000000000) * 1000 = 0 ↔
        workload.data = 0 ∨ workload.items = 0 :=
      (transfer_eq_zero_iff hc.bandwidth_pos).trans mul_eq_zero
    refine ⟨_, h.outcome_rat, hidle, hidle.power.eq_zero, hmemory, hidle.free_iff.trans ?_⟩
    rw [h.transferTime_rat, Except.ok.injEq]
    exact hzero

/-- The core that always throttles, with nothing to compute for a byte. -/
def inertConfig : Config Rat :=
  { hotConfig with intensity := 0 }

/-- A kernel that moves half a gigabyte and computes nothing with it. -/
def inertRun : Run Rat Rat :=
  Run.initial inertConfig shortKernel .strided 3 [stillSpot]

theorem prepare_inertRun :
    prepare inertConfig shortKernel (.text "strided") 3 (fun _ => .ok [stillSpot]) =
      .ok inertRun := by
  refine prepare_eq_ok.mpr ⟨by norm_num, ?_, shortKernel_valid, ?_, .strided, _, rfl, rfl, rfl⟩
  · constructor <;> norm_num [inertConfig, hotConfig]
  · norm_num [Config.ratio, inertConfig, hotConfig]

/-- Half a gigabyte that nothing is computed with takes half a second, in no time. -/
theorem idle_without_work_inertRun :
    prepare inertConfig shortKernel (.text "strided") 3 (fun _ => .ok [stillSpot]) = .ok inertRun ∧
      inertRun.ticks decay = .ok (#[], inertRun) ∧
      ∃ o, inertRun.outcome = .ok o ∧ o.Idle inertRun ∧ o.figures.memoryTime = 560 ∧
        o.memoryBound = true := by
  have hnone : le inertRun.requiredOps (whole Rat 0) = .ok true :=
    (le_rat _ _).trans (congrArg Except.ok (by decide +kernel))
  obtain ⟨hticks, -, -, hexact⟩ := idle_without_work prepare_inertRun hnone decay
  obtain ⟨o, ho, hidle, -, hmemory, -⟩ := (hexact prepare_inertRun).2 hnone
  have hmillis : o.figures.memoryTime = 560 := by
    rw [hmemory]
    norm_num [shortKernel, inertConfig, hotConfig]
  have hbound := hidle.memoryBound
  rw [hmillis] at hbound
  exact ⟨prepare_inertRun, hticks, o, ho, hidle, hmillis,
    (Except.ok.inj hbound).symm.trans (by decide +kernel)⟩

/-- A run without work may have a time of memory. -/
theorem idle_with_memoryTime :
    ¬ ∀ (config : Config Rat) (workload : Kernel.Workload Rat) (pattern : Value) (maxTicks : Rat)
        (draw : Grid → Result Rat (List (Hotspot Rat))) (start : Run Rat Rat)
        (o : Outcome Rat Rat),
      prepare config workload pattern maxTicks draw = .ok start → start.requiredOps = 0 →
        start.outcome = .ok o → o.figures.memoryTime = 0 ∧ o.memoryBound = false := by
  intro hclaim
  have ho := (accepted_fresh prepare_inertRun).checked.outcome_rat
  have hzero := (hclaim _ _ _ _ _ _ _ prepare_inertRun (by decide +kernel) ho).1
  exact absurd hzero (by decide +kernel)

end Run

end SiliconBench.Gpu
