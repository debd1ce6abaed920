import SiliconBench.Gpu.Outcome
import SiliconBench.Proofs.Gpu.Tick

/-!
# Summary — what a run comes to, over the rationals

The figures of a run divide by quantities that a run may not have yet: no tick
is no average, no clock is no rate, no time is no throughput. Every such quotient
is guarded, and the others are by settings that were checked; so a checked run
can be summed up in EVERY state (`outcome_rat`), not only when it is over.
-/

namespace SiliconBench.Gpu

open Scalar

/-- The hit rate of a kernel under a pattern. -/
def hitRateOf (locality : Rat) : Pattern → Rat
  | .sequential => min 0.995 (locality * 1.2)
  | .random => locality * 0.4
  | .strided => locality

theorem effectiveLocality_rat (locality : Rat) (p : Pattern) :
    effectiveLocality locality p = .ok (hitRateOf locality p) := by
  cases p with
  | sequential =>
    simp [effectiveLocality, sequentialCap, sequentialBoost, hitRateOf]
  | strided => rfl
  | random => rfl

namespace Run

/-- The average clock after the ticks so far, zero before the first. -/
def meanClock (r : Run Rat Rat) : Rat :=
  if r.tick = 0 then 0 else r.clockSum / r.tick

theorem averageClock_rat (r : Run Rat Rat) : r.averageClock = .ok r.meanClock := by
  by_cases h0 : r.tick = 0
  · simp [averageClock, meanClock, h0]
  · have hne : (r.tick : Rat) ≠ 0 := Nat.cast_ne_zero.mpr h0
    simp [averageClock, meanClock, h0, div_rat hne]

/-- Operations per second at the average clock. -/
def meanRate (r : Run Rat Rat) : Rat :=
  r.config.cores * r.meanClock * 1000000000

/-- The hit rate of the kernel of a run. -/
def hitRate (r : Run Rat Rat) : Rat :=
  hitRateOf r.workload.locality r.pattern

/-- All bytes of the kernel of a run. -/
def bytes (r : Run Rat Rat) : Rat :=
  r.workload.data * r.workload.items

/-- Milliseconds that the bytes and one miss take. -/
def memoryMillis (r : Run Rat Rat) : Rat :=
  r.bytes / (r.config.bandwidth * 1000000000) * 1000 +
    if 0 < r.meanClock then
      r.config.cacheLatency * (1 - r.hitRate) / (r.meanClock * 1000000000) * 1000
    else 0

theorem Checked.memoryTime_rat {r : Run Rat Rat} (h : r.Checked) :
    r.memoryTime r.bytes r.meanClock r.hitRate = .ok r.memoryMillis := by
  have hband : r.config.bandwidth * 1000000000 ≠ 0 :=
    mul_ne_zero h.config.bandwidth_pos.ne' (by norm_num)
  by_cases hclock : 0 < r.meanClock
  · have hgiga : r.meanClock * 1000000000 ≠ 0 := mul_ne_zero hclock.ne' (by norm_num)
    simp [memoryTime, memoryMillis, giga, div_rat hband, div_rat hgiga, hclock]
  · simp [memoryTime, memoryMillis, giga, div_rat hband, hclock]

/-- Seconds so far. -/
def seconds (r : Run Rat Rat) : Rat :=
  r.millis / 1000

/-- Times and rates so far. -/
def summary (r : Run Rat Rat) : Figures Rat :=
  let ops := r.measuredOps r.standing
  let most := r.meanRate * r.seconds * 2
  { status := r.standing
    averageClock := r.meanClock
    hitRate := r.hitRate
    kernelTime := r.millis
    computeTime := if 0 < r.meanRate then ops / r.meanRate * 1000 else 0
    memoryTime := r.memoryMillis
    throughput := if 0 < r.seconds then r.bytes / r.seconds / 1000000000 else 0
    utilization := if 0 < most then min 1 (ops / most) else 0 }

theorem Checked.figures_rat {r : Run Rat Rat} (h : r.Checked) : r.figures = .ok r.summary := by
  have hmemory := h.memoryTime_rat
  have hrate : r.config.cores * r.meanClock * giga Rat = r.meanRate := rfl
  have hseconds : r.millis / 1000 = r.seconds := rfl
  have hbytes : r.workload.data * r.workload.items = r.bytes := rfl
  have hhit : hitRateOf r.workload.locality r.pattern = r.hitRate := rfl
  have hmost : r.meanRate * r.seconds * opsPerCycle Rat = r.meanRate * r.seconds * 2 := rfl
  have hthousand : (0 : Rat) < 1000 := by norm_num
  have hgiga : 0 < giga Rat := by norm_num [giga]
  simp only [figures, status_rat, averageClock_rat, effectiveLocality_rat, elapsed_rat,
    Kernel.Workload.totalBytes, ok_bind, ok_mul, mul_rat, ok_div, real_rat,
    div_rat_of_pos hthousand, hrate, hseconds, hbytes, hhit, hmost, hmemory, lt_rat, whole_rat,
    Int.cast_zero]
  -- each guard is either passed, and then its quotient has an answer, or not
  rcases lt_or_ge 0 r.meanRate with h1 | h1 <;>
    rcases lt_or_ge 0 r.seconds with h2 | h2 <;>
    rcases lt_or_ge 0 (r.meanRate * r.seconds * 2) with h3 | h3 <;>
    simp only [h1, h2, h3, not_lt.mpr, decide_true, decide_false, if_true, if_false,
      Bool.false_eq_true, div_rat_of_pos, ok_bind, ok_mul, ok_div, mul_rat, hgiga, summary,
      least_rat, pure_eq_ok] <;>
    rfl

/-- Everything that is known of a run so far. -/
def report (r : Run Rat Rat) : Outcome Rat Rat :=
  { name := r.workload.name
    config := r.config
    pattern := r.pattern
    figures := r.summary
    peakRate := r.config.cores * r.config.clock * 2 / 1000
    memoryBound := decide (r.summary.computeTime < r.summary.memoryTime)
    peakTemp := r.peak
    throttleTime := r.throttleTime
    power := r.config.maxPower * r.meanClock / r.config.clock
    temperatures := r.temperatures
    cols := r.grid.cols
    rows := r.grid.rows
    ticks := r.tick }

/-- **Every state of a checked run can be summed up.** -/
theorem Checked.outcome_rat {r : Run Rat Rat} (h : r.Checked) : r.outcome = .ok r.report := by
  have hthousand : (0 : Rat) < 1000 := by norm_num
  simp only [outcome, h.figures_rat, percentDone, progress_rat, opsPerCycle, ok_bind, ok_mul,
    ok_div, mul_rat, lt_rat, real_rat, div_rat_of_pos hthousand,
    div_rat_of_pos h.config.clock_pos, pure_eq_ok]
  split <;> rfl

end Run

end SiliconBench.Gpu
