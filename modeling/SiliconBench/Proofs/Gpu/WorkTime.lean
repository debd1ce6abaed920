import SiliconBench.Proofs.Gpu.Course
import Mathlib.Tactic.FieldSimp

/-!
# WorkTime — the work that was done, and the time it takes at the average clock

A tick works at the clock that it FINDS, and the clock that it LEAVES is summed
up. Over a whole run the two differ by one clock only: the first tick found the
base clock, and the clock that the last one left has not been worked at yet. All
that was throttled and recovered in between cancels. So the average clock is too
low for the work by exactly that gap, and the time that the work takes at the
average clock is longer than the time that went by, unless the run ends at its
base clock.
-/

namespace SiliconBench.Gpu

open Scalar

theorem Config.workAt_add (c : Config Rat) (x y : Rat) :
    c.workAt (x + y) = c.workAt x + c.workAt y := by
  unfold workAt
  ring

namespace Run

variable {exp : Rat → Rat} {start r : Run Rat Rat}

/-! ## Work against clocks -/

/-- How far the clock is below the base clock. -/
def gap (r : Run Rat Rat) : Rat :=
  r.config.clock - r.clock

/-- The work is that of the clocks summed up and of the gap. -/
def Balanced (r : Run Rat Rat) : Prop :=
  r.ops = r.config.workAt (r.clockSum + r.gap)

theorem initial_balanced (config : Config Rat) (workload : Kernel.Workload Rat)
    (pattern : Pattern) (maxTicks : Rat) (hotspots : List (Hotspot Rat)) :
    (initial config workload pattern maxTicks hotspots).Balanced := by
  simp [Balanced, gap, initial, Config.workAt]

/-- **A tick keeps the balance**, whatever clock it leaves: that clock is added to
the sum, and the gap shrinks by it. -/
theorem Balanced.next (hr : r.Balanced) (exp : Rat → Rat) : (r.next exp).Balanced := by
  have hsum : (r.next exp).clockSum + (r.next exp).gap = r.clockSum + r.gap + r.clock := by
    show r.clockSum + (r.next exp).clock + (r.config.clock - (r.next exp).clock) =
      r.clockSum + (r.config.clock - r.clock) + r.clock
    ring
  show (r.next exp).ops = r.config.workAt _
  rw [next_ops, hr, hsum, Config.workAt_add r.config (r.clockSum + r.gap) r.clock]

/-! ## The time that work takes at the average clock -/

theorem Checked.meanClock_pos (h : r.Checked) (hr : r.InBand) (htick : 1 ≤ r.tick) :
    0 < r.meanClock :=
  h.config.floor_pos.trans_le (hr.meanClock_mem htick).1

theorem Checked.meanRate_pos (h : r.Checked) (hr : r.InBand) (htick : 1 ≤ r.tick) :
    0 < r.meanRate :=
  mul_pos (mul_pos h.config.cores_pos (h.meanClock_pos hr htick)) (by norm_num)

/-- Milliseconds that operations take at the average clock. -/
def timeOf (r : Run Rat Rat) (ops : Rat) : Rat :=
  ops / r.meanRate * 1000

theorem Checked.timeOf_mono_iff (h : r.Checked) (hr : r.InBand) (htick : 1 ≤ r.tick)
    {x y : Rat} : r.timeOf x ≤ r.timeOf y ↔ x ≤ y := by
  unfold timeOf
  rw [mul_le_mul_iff_left₀ (by norm_num), div_le_div_iff_of_pos_right (h.meanRate_pos hr htick)]

/-- The work of a tick at a clock takes a tick in proportion to the average clock. -/
theorem Checked.timeOf_workAt (h : r.Checked) (hr : r.InBand) (htick : 1 ≤ r.tick) (x : Rat) :
    r.timeOf (r.config.workAt x) = 20 * x / r.meanClock := by
  have hcores := h.config.cores_pos.ne'
  have hmean := (h.meanClock_pos hr htick).ne'
  unfold timeOf meanRate Config.workAt
  field_simp
  ring

/-- The clocks that were summed up would have done their work in the time that went by. -/
theorem Checked.timeOf_clockSum (h : r.Checked) (hr : r.InBand) (htick : 1 ≤ r.tick) :
    r.timeOf (r.config.workAt r.clockSum) = r.millis := by
  have hpos := h.meanClock_pos hr htick
  have htick0 : (r.tick : Rat) ≠ 0 := Nat.cast_ne_zero.mpr (by omega)
  have hmean : r.meanClock = r.clockSum / r.tick := if_neg (by omega)
  have hsum : r.clockSum = r.meanClock * r.tick := by
    rw [hmean, div_mul_cancel₀ _ htick0]
  rw [h.timeOf_workAt hr htick, hsum, millis, mul_left_comm, mul_div_cancel_left₀ _ hpos.ne',
    mul_comm]

/-- **The work that was done takes the time that went by, and that of the gap.** -/
theorem Checked.timeOf_ops (h : r.Checked) (hr : r.InBand) (hb : r.Balanced)
    (htick : 1 ≤ r.tick) : r.timeOf r.ops = r.millis + 20 * r.gap / r.meanClock := by
  calc r.timeOf r.ops
      = r.timeOf (r.config.workAt r.clockSum + r.config.workAt r.gap) := by
        rw [← Config.workAt_add, ← hb]
    _ = r.timeOf (r.config.workAt r.clockSum) + r.timeOf (r.config.workAt r.gap) := by
        simp only [timeOf, add_div, add_mul]
    _ = r.millis + 20 * r.gap / r.meanClock := by
        rw [h.timeOf_clockSum hr htick, h.timeOf_workAt hr htick]

/-- A run that is over and completed has done its work. -/
theorem ops_ge_of_completed (hover : r.Over) (hstatus : r.standing = .completed) :
    r.requiredOps ≤ r.ops := by
  by_cases hnone : r.requiredOps ≤ 0
  · simp [standing, hnone] at hstatus
  · exact (standing_eq_completed_iff (not_le.mp hnone) hover).mp hstatus

theorem Checked.summary_computeTime (h : r.Checked) (hr : r.InBand) (htick : 1 ≤ r.tick) :
    r.summary.computeTime = r.timeOf (r.measuredOps r.standing) :=
  if_pos (h.meanRate_pos hr htick)

/-! ## A run of one throttled tick -/

/-- The hot core with a kernel of so many operations, and so many ticks to spend. -/
def briefRun (ops maxTicks : Rat) : Run Rat Rat :=
  Run.initial hotConfig { shortKernel with items := ops } .strided maxTicks [stillSpot]

theorem prepare_briefRun (ops maxTicks : Rat) (hops : 0 ≤ ops) (hbudget : 1 ≤ maxTicks) :
    prepare hotConfig { shortKernel with items := ops } (.text "strided") maxTicks
      (fun _ => .ok [stillSpot]) = .ok (briefRun ops maxTicks) :=
  prepare_eq_ok.mpr ⟨hbudget, hotConfig_valid, { shortKernel_valid with items_nonneg := hops },
    hotRun_checked.stable, .strided, _, rfl, rfl, rfl⟩

theorem briefRun_reached (ops maxTicks : Rat) (hops : 0 < ops) (hbudget : 1 ≤ maxTicks) :
    Reachable decay (briefRun ops maxTicks) ((briefRun ops maxTicks).next decay) := by
  have hchecked := (accepted_fresh (prepare_briefRun ops maxTicks hops.le hbudget)).checked
  have hrequired : (briefRun ops maxTicks).requiredOps = ops := by
    show 1 * ops * 1 = ops
    rw [one_mul, mul_one]
  refine .ticked .start (hchecked.step_next ?_ decay)
  rintro (hnone | hdone | hspent)
  · rw [hrequired] at hnone
    exact hnone.not_gt hops
  · rw [hrequired] at hdone
    exact hdone.not_gt hops
  · exact (zero_lt_one.trans_le hbudget).not_ge hspent

/-! ## Every state of an accepted run -/

section

variable {config : Config Rat} {workload : Kernel.Workload Rat} {pattern : Value} {maxTicks : Rat}
  {draw : Grid → Result Rat (List (Hotspot Rat))}

theorem accepted_balanced (accepted : prepare config workload pattern maxTicks draw = .ok start)
    (reached : Reachable exp start r) : r.Balanced := by
  have hstart := accepted_fresh accepted
  obtain ⟨-, -, -, -, p, hotspots, -, -, rfl⟩ := prepare_eq_ok.mp accepted
  exact hstart.checked.of_reachable (initial_balanced ..) (fun _ _ hs => hs.next exp) reached

/-- **Work against clocks**: in every state of an accepted run the work that was
done is that of the clocks summed up so far and of the gap between the base clock
and the clock in effect. -/
theorem ops_eq_clockSum_add_gap
    (accepted : prepare config workload pattern maxTicks draw = .ok start)
    (reached : Reachable exp start r) :
    r.ops = config.cores * 1000000000 * 0.02 * (r.clockSum + config.clock - r.clock) := by
  obtain ⟨-, -, rfl⟩ := (accepted_fresh accepted).of_reachable reached
  have hbalanced : r.ops = r.config.workAt (r.clockSum + r.gap) :=
    accepted_balanced accepted reached
  rw [hbalanced, Config.workAt, gap]
  ring

/-- After a throttled tick: the work of the base clock against a sum of 1.3 GHz. -/
theorem ops_eq_clockSum_add_gap_hotRun :
    prepare hotConfig shortKernel (.text "strided") 3 (fun _ => .ok [stillSpot]) = .ok hotRun ∧
      Reachable decay hotRun (hotRun.next decay) ∧
      (hotRun.next decay).clockSum = 13 / 10 ∧ (hotRun.next decay).clock = 13 / 10 ∧
      (hotRun.next decay).ops = 1 * 1000000000 * 0.02 * (13 / 10 + 2 - 13 / 10) := by
  have reached : Reachable decay hotRun (hotRun.next decay) := .ticked .start hotRun_step
  have hsum : (hotRun.next decay).clockSum = 13 / 10 := by decide +kernel
  have hclock : (hotRun.next decay).clock = 13 / 10 := by decide +kernel
  refine ⟨prepare_hotRun, reached, hsum, hclock, ?_⟩
  rw [ops_eq_clockSum_add_gap prepare_hotRun reached, hsum, hclock]
  rfl

/-- **The compute time of a finished run**: a run that was cut short takes as long
for its work, at the average clock, as the time that went by and the share of a
tick that the gap of its last clock stands for; a completed run takes at most that.
So compute time and kernel time of a run that was cut short are equal exactly when
it ends at its base clock, and a completed run computes within its kernel time
exactly when its work is within that of the clocks summed up. -/
theorem computeTime_of_finished
    (accepted : prepare config workload pattern maxTicks draw = .ok start)
    (reached : Reachable exp start r) (ticked : 1 ≤ r.tick) (finished : r.isDone = .ok true) :
    ∃ o, r.outcome = .ok o ∧ 0 < o.figures.averageClock ∧ r.clock ≤ config.clock ∧
      (o.figures.status = .completed →
        o.figures.computeTime ≤
          o.figures.kernelTime + 20 * (config.clock - r.clock) / o.figures.averageClock ∧
        (o.figures.computeTime ≤ o.figures.kernelTime ↔
          start.requiredOps ≤ config.cores * r.clockSum * 20000000)) ∧
      (o.figures.status = .budgetExceeded →
        o.figures.computeTime =
          o.figures.kernelTime + 20 * (config.clock - r.clock) / o.figures.averageClock ∧
        (o.figures.computeTime = o.figures.kernelTime ↔ r.clock = config.clock)) := by
  obtain ⟨h, hr, rfl⟩ := (accepted_fresh accepted).of_reachable reached
  have hmean := h.meanClock_pos hr ticked
  have hops := h.timeOf_ops hr (accepted_balanced accepted reached) ticked
  have htime := h.summary_computeTime hr ticked
  refine ⟨r.report, h.outcome_rat, hmean, hr.clock_le_base, ?_, ?_⟩
  · intro (hstatus : r.standing = .completed)
    have hmeasured : r.summary.computeTime = r.timeOf r.requiredOps := by
      rw [htime, hstatus]
      rfl
    constructor
    · show r.summary.computeTime ≤ r.millis + 20 * r.gap / r.meanClock
      rw [hmeasured, ← hops, h.timeOf_mono_iff hr ticked]
      exact ops_ge_of_completed (isDone_eq_true_iff.mp finished) hstatus
    · show r.summary.computeTime ≤ r.millis ↔ start.requiredOps ≤ r.config.workAt r.clockSum
      rw [hmeasured, ← h.timeOf_clockSum hr ticked, h.timeOf_mono_iff hr ticked,
        reached.requiredOps_eq]
  · intro (hstatus : r.standing = .budgetExceeded)
    have hmeasured : r.summary.computeTime = r.millis + 20 * r.gap / r.meanClock := by
      rw [htime, hstatus]
      exact hops
    refine ⟨hmeasured, ?_⟩
    show r.summary.computeTime = r.millis ↔ r.clock = r.config.clock
    rw [hmeasured, add_eq_left, div_eq_zero_iff, or_iff_left hmean.ne', mul_eq_zero,
      or_iff_right (by norm_num), gap, sub_eq_zero, eq_comm]

/-- One throttled tick of a run that is cut short after it: it did the work of the
base clock, which at the clock that it left takes more than half a tick longer. -/
theorem computeTime_of_finished_briefRun :
    Reachable decay (briefRun 70000000 1) ((briefRun 70000000 1).next decay) ∧
      ((briefRun 70000000 1).next decay).isDone = .ok true ∧
      ∃ o, ((briefRun 70000000 1).next decay).outcome = .ok o ∧
        o.figures.status = .budgetExceeded ∧ o.figures.kernelTime = 20 ∧
        o.figures.averageClock = 13 / 10 ∧
        o.figures.computeTime = 20 + 20 * (2 - 13 / 10) / (13 / 10) := by
  have accepted := prepare_briefRun 70000000 1 (by norm_num) le_rfl
  have reached := briefRun_reached 70000000 1 (by norm_num) le_rfl
  have finished : ((briefRun 70000000 1).next decay).isDone = .ok true :=
    isDone_eq_true_iff.mpr (by decide +kernel)
  obtain ⟨o, ho, -, -, -, hcut⟩ := computeTime_of_finished accepted reached le_rfl finished
  have hreport : o = ((briefRun 70000000 1).next decay).report := by
    have hchecked := ((accepted_fresh accepted).checked.next decay).outcome_rat
    exact Except.ok.inj (ho.symm.trans hchecked)
  have hstatus : o.figures.status = .budgetExceeded := by
    rw [hreport]
    decide +kernel
  have hkernel : o.figures.kernelTime = 20 := by
    rw [hreport]
    decide +kernel
  have hmean : o.figures.averageClock = 13 / 10 := by
    rw [hreport]
    decide +kernel
  have hclock : ((briefRun 70000000 1).next decay).clock = 13 / 10 := by decide +kernel
  refine ⟨reached, finished, o, ho, hstatus, hkernel, hmean, ?_⟩
  rw [(hcut hstatus).1, hkernel, hmean, hclock]
  rfl

/-- A completed run may compute longer than it lasted, and so may one that was cut short. -/
theorem computeTime_exceeds_kernelTime :
    (¬ ∀ (config : Config Rat) (workload : Kernel.Workload Rat) (pattern : Value) (maxTicks : Rat)
        (draw : Grid → Result Rat (List (Hotspot Rat))) (exp : Rat → Rat) (start r : Run Rat Rat)
        (o : Outcome Rat Rat),
      prepare config workload pattern maxTicks draw = .ok start → Reachable exp start r →
        1 ≤ r.tick → r.isDone = .ok true → r.outcome = .ok o →
        o.figures.status = .completed → o.figures.computeTime ≤ o.figures.kernelTime) ∧
    (¬ ∀ (config : Config Rat) (workload : Kernel.Workload Rat) (pattern : Value) (maxTicks : Rat)
        (draw : Grid → Result Rat (List (Hotspot Rat))) (exp : Rat → Rat) (start r : Run Rat Rat)
        (o : Outcome Rat Rat),
      prepare config workload pattern maxTicks draw = .ok start → Reachable exp start r →
        1 ≤ r.tick → r.isDone = .ok true → r.outcome = .ok o →
        o.figures.status = .budgetExceeded → o.figures.computeTime = o.figures.kernelTime) := by
  constructor
  · intro hclaim
    -- the work of exactly one tick at the base clock
    have accepted := prepare_briefRun 40000000 3 (by norm_num) (by norm_num)
    have hle := hclaim _ _ _ _ _ decay _ _ _ accepted
      (briefRun_reached 40000000 3 (by norm_num) (by norm_num)) le_rfl
      (isDone_eq_true_iff.mpr (by decide +kernel))
      ((accepted_fresh accepted).checked.next decay).outcome_rat (by decide +kernel)
    exact absurd hle (by decide +kernel)
  · intro hclaim
    have accepted := prepare_briefRun 70000000 1 (by norm_num) le_rfl
    have heq := hclaim _ _ _ _ _ decay _ _ _ accepted
      (briefRun_reached 70000000 1 (by norm_num) le_rfl) le_rfl
      (isDone_eq_true_iff.mpr (by decide +kernel))
      ((accepted_fresh accepted).checked.next decay).outcome_rat (by decide +kernel)
    exact absurd heq (by decide +kernel)

end

end Run

end SiliconBench.Gpu
