import SiliconBench.Proofs.Gpu.Locality
import SiliconBench.Proofs.Gpu.Tally

/-!
# Ranges — where the figures of a run can lie

A run can be summed up in every state: before its first tick, on its way, cut short or
completed. Wherever that is, no figure leaves its physical range, and each for a reason of
its own. Power goes with the average clock, and that is in the clock band; the throttled time
counts some of the ticks that the kernel time counts; the hit rate comes from a locality that
was checked; and the utilization is cut off at one, because work is measured by what the
kernel REQUIRES while a run may still be on its way to it.
-/

namespace SiliconBench.Gpu

open Scalar

/-- A number from zero to one. -/
def IsFraction (x : Rat) : Prop :=
  0 ≤ x ∧ x ≤ 1

theorem isFraction_hitRateOf {locality : Rat} (h : IsFraction locality) (p : Pattern) :
    IsFraction (hitRateOf locality p) := by
  have hrated := rated_hitRateOf h.1 h.2
  have hcap : (0.995 : Rat) ≤ 1 := by norm_num
  cases p with
  | sequential =>
    exact ⟨hrated.random_nonneg.trans hrated.random_le_sequential,
      hrated.sequential_le_cap.trans hcap⟩
  | strided => exact h
  | random =>
    exact ⟨hrated.random_nonneg, hrated.random_le_strided.trans hrated.strided_le_one⟩

/-- The figures of an outcome lie where those of a processor with these settings can lie;
`share` is the fraction of the time that was throttled. -/
structure Outcome.InRange (config : Config Rat) (share : Rat) (o : Outcome Rat Rat) : Prop where
  utilization : IsFraction o.figures.utilization
  hitRate : IsFraction o.figures.hitRate
  share : IsFraction share
  power_eq_zero : o.ticks = 0 → o.power = 0
  power_mem : 1 ≤ o.ticks → config.maxPower / 10 ≤ o.power ∧ o.power ≤ config.maxPower
  peakRate_pos : 0 < o.peakRate
  kernelTime_nonneg : 0 ≤ o.figures.kernelTime
  computeTime_nonneg : 0 ≤ o.figures.computeTime
  memoryTime_nonneg : 0 ≤ o.figures.memoryTime
  throttleTime_nonneg : 0 ≤ o.throttleTime
  throughput_nonneg : 0 ≤ o.figures.throughput
  memoryBound_iff : o.memoryBound = true ↔ o.figures.computeTime < o.figures.memoryTime

namespace Run

variable {exp : Rat → Rat} {start r : Run Rat Rat}

/-! ## What figures are made of -/

theorem meanClock_eq_zero (htick : r.tick = 0) : r.meanClock = 0 :=
  if_pos htick

theorem millis_nonneg (r : Run Rat Rat) : 0 ≤ r.millis :=
  mul_nonneg r.tick.cast_nonneg (by norm_num)

theorem Checked.bytes_nonneg (h : r.Checked) : 0 ≤ r.bytes :=
  mul_nonneg h.workload.data_nonneg h.workload.items_nonneg

theorem Checked.hitRate_mem (h : r.Checked) : IsFraction r.hitRate :=
  isFraction_hitRateOf ⟨h.workload.locality_nonneg, h.workload.locality_le_one⟩ r.pattern

/-- The work that was done and the work that is required are both no less than none. -/
theorem Checked.measuredOps_nonneg (h : r.Checked) (hr : r.InBand) (status : Status) :
    0 ≤ r.measuredOps status := by
  unfold measuredOps
  split
  · exact h.ops_nonneg hr
  · exact h.requiredOps_nonneg

/-! ## Times and rates

A quotient that is guarded is one of numbers that are not negative, or it is left out. -/

theorem Checked.computeTime_nonneg (h : r.Checked) (hr : r.InBand) :
    0 ≤ r.summary.computeTime := by
  show 0 ≤ if 0 < r.meanRate then r.measuredOps r.standing / r.meanRate * 1000 else 0
  split
  · rename_i hrate
    exact mul_nonneg (div_nonneg (h.measuredOps_nonneg hr _) hrate.le) (by norm_num)
  · exact le_rfl

theorem Checked.memoryMillis_nonneg (h : r.Checked) : 0 ≤ r.memoryMillis := by
  have hband : 0 ≤ r.config.bandwidth * 1000000000 :=
    mul_nonneg h.config.bandwidth_pos.le (by norm_num)
  have htransfer : 0 ≤ r.bytes / (r.config.bandwidth * 1000000000) * 1000 :=
    mul_nonneg (div_nonneg h.bytes_nonneg hband) (by norm_num)
  refine add_nonneg htransfer ?_
  split
  · rename_i hclock
    -- what is missed is a fraction as well, so a miss costs no negative time
    have hmissed : 0 ≤ 1 - r.hitRate := sub_nonneg.mpr h.hitRate_mem.2
    have hgiga : 0 ≤ r.meanClock * 1000000000 := mul_nonneg hclock.le (by norm_num)
    exact mul_nonneg (div_nonneg (mul_nonneg h.config.cacheLatency_nonneg hmissed) hgiga)
      (by norm_num)
  · exact le_rfl

theorem Checked.throughput_nonneg (h : r.Checked) : 0 ≤ r.summary.throughput := by
  show 0 ≤ if 0 < r.seconds then r.bytes / r.seconds / 1000000000 else 0
  split
  · rename_i hseconds
    exact div_nonneg (div_nonneg h.bytes_nonneg hseconds.le) (by norm_num)
  · exact le_rfl

theorem Checked.utilization_mem (h : r.Checked) (hr : r.InBand) :
    IsFraction r.summary.utilization := by
  show IsFraction (if 0 < r.meanRate * r.seconds * 2 then
    min 1 (r.measuredOps r.standing / (r.meanRate * r.seconds * 2)) else 0)
  split
  · rename_i hmost
    have hshare := div_nonneg (h.measuredOps_nonneg hr r.standing) hmost.le
    exact ⟨le_min zero_le_one hshare, min_le_left _ _⟩
  · exact ⟨le_rfl, zero_le_one⟩

/-! ## Power -/

theorem report_power_eq_zero (htick : r.tick = 0) : r.report.power = 0 := by
  show r.config.maxPower * r.meanClock / r.config.clock = 0
  rw [meanClock_eq_zero htick, mul_zero, zero_div]

/-- Power goes with the average clock, so it keeps to the band that the clock keeps to. -/
theorem Checked.power_mem_band (h : r.Checked) (hr : r.InBand) (htick : 1 ≤ r.tick) :
    r.config.maxPower / 10 ≤ r.report.power ∧ r.report.power ≤ r.config.maxPower := by
  have hmost := h.config.maxPower_nonneg
  obtain ⟨hlow, hhigh⟩ := hr.meanClock_mem htick
  show _ ≤ r.config.maxPower * r.meanClock / r.config.clock ∧
    r.config.maxPower * r.meanClock / r.config.clock ≤ _
  rw [le_div_iff₀ h.config.clock_pos, div_le_iff₀ h.config.clock_pos]
  constructor
  · calc r.config.maxPower / 10 * r.config.clock
        = r.config.maxPower * (r.config.clock / 10) := by ring
      _ ≤ r.config.maxPower * r.meanClock := mul_le_mul_of_nonneg_left hlow hmost
  · exact mul_le_mul_of_nonneg_left hhigh hmost

/-! ## Throttled time -/

/-- No time was throttled that did not go by. -/
theorem Tallied.throttleTime_mem {shown : List (Snapshot Rat Rat)} (hr : Tallied shown r) :
    0 ≤ r.throttleTime ∧ r.throttleTime ≤ r.millis := by
  have hcount : (shown.countP Snapshot.throttling : Rat) ≤ shown.length := by
    exact_mod_cast List.countP_le_length
  rw [hr.throttleTime_eq, millis, hr.tick_eq, mul_comm _ (20 : Rat)]
  exact ⟨mul_nonneg (by norm_num) (Nat.cast_nonneg _),
    mul_le_mul_of_nonneg_left hcount (by norm_num)⟩

theorem throttleFraction_report (h : 0 ≤ r.throttleTime ∧ r.throttleTime ≤ r.millis) :
    ∃ share, r.report.throttleFraction = .ok share ∧ IsFraction share := by
  have hkernel : r.report.figures.kernelTime = r.millis := rfl
  rcases r.millis_nonneg.eq_or_lt with hnone | hsome
  · refine ⟨0, ?_, le_rfl, zero_le_one⟩
    simp [Outcome.throttleFraction, hkernel, ← hnone]
  · refine ⟨r.throttleTime / r.millis, ?_, div_nonneg h.1 hsome.le, (div_le_one hsome).mpr h.2⟩
    simp only [Outcome.throttleFraction, hkernel, le_rat, whole_rat, Int.cast_zero, hsome.not_ge,
      decide_false, Bool.false_eq_true, if_false, ok_bind, ok_div, div_rat_of_pos hsome]
    rfl

/-! ## Every state of an accepted run -/

section

variable {config : Config Rat} {workload : Kernel.Workload Rat} {pattern : Value} {maxTicks : Rat}
  {draw : Grid → Result Rat (List (Hotspot Rat))}

/-- What a run keeps is what was shown so far, in every state of it. -/
theorem accepted_tallied (accepted : prepare config workload pattern maxTicks draw = .ok start)
    (reached : Reachable exp start r) : ∃ shown, Tallied shown r := by
  obtain ⟨n, rfl, -⟩ := (accepted_fresh accepted).checked.exists_after reached
  obtain ⟨-, -, -, -, p, hotspots, -, -, rfl⟩ := prepare_eq_ok.mp accepted
  exact ⟨_, (initial_tallied ..).after exp n⟩

/-- **The ranges of an outcome**: every state of an accepted run has an outcome, in its
outcome every figure is in its range, and so is the fraction of the time that was
throttled. -/
theorem outcome_in_range (accepted : prepare config workload pattern maxTicks draw = .ok start)
    (reached : Reachable exp start r) :
    ∃ o share, r.outcome = .ok o ∧ o.throttleFraction = .ok share ∧ o.ticks = r.tick ∧
      o.InRange config share := by
  obtain ⟨shown, htallied⟩ := accepted_tallied accepted reached
  obtain ⟨h, hr, rfl⟩ := (accepted_fresh accepted).of_reachable reached
  obtain ⟨share, hshare, hfraction⟩ := throttleFraction_report htallied.throttleTime_mem
  have hpeak : 0 < r.config.cores * r.config.clock * 2 / 1000 :=
    div_pos (mul_pos (mul_pos h.config.cores_pos h.config.clock_pos) (by norm_num)) (by norm_num)
  refine ⟨r.report, share, h.outcome_rat, hshare, rfl, ?_⟩
  exact
    { utilization := h.utilization_mem hr
      hitRate := h.hitRate_mem
      share := hfraction
      power_eq_zero := report_power_eq_zero
      power_mem := h.power_mem_band hr
      peakRate_pos := hpeak
      kernelTime_nonneg := r.millis_nonneg
      computeTime_nonneg := h.computeTime_nonneg hr
      memoryTime_nonneg := h.memoryMillis_nonneg
      throttleTime_nonneg := htallied.throttleTime_mem.1
      throughput_nonneg := h.throughput_nonneg
      memoryBound_iff := decide_eq_true_iff }

/-- On its way, after one throttled tick of three: its power is within its bounds, and the
work that is still required counts in full, more than the tick can have done. -/
theorem outcome_in_range_hotRun :
    prepare hotConfig shortKernel (.text "strided") 3 (fun _ => .ok [stillSpot]) = .ok hotRun ∧
      Reachable decay hotRun (hotRun.next decay) ∧
      ∃ o share, (hotRun.next decay).outcome = .ok o ∧ o.throttleFraction = .ok share ∧
        IsFraction share ∧ o.power = 65 / 2 ∧ 50 / 10 ≤ o.power ∧ o.power ≤ 50 ∧
        o.figures.utilization = 1 ∧ IsFraction o.figures.utilization := by
  have reached : Reachable decay hotRun (hotRun.next decay) := .ticked .start hotRun_step
  obtain ⟨o, share, ho, hshare, hticks, hrange⟩ := outcome_in_range prepare_hotRun reached
  have hreport : o = (hotRun.next decay).report :=
    Except.ok.inj (ho.symm.trans (hotRun_checked.next decay).outcome_rat)
  have hticked : 1 ≤ o.ticks := hticks.ge
  have hpower : o.power = 65 / 2 := by
    rw [hreport]
    decide +kernel
  have hutilization : o.figures.utilization = 1 := by
    rw [hreport]
    decide +kernel
  obtain ⟨hleast, hmost⟩ := hrange.power_mem hticked
  exact ⟨prepare_hotRun, reached, o, share, ho, hshare, hrange.share, hpower, hleast, hmost,
    hutilization, hrange.utilization⟩

end

end Run

end SiliconBench.Gpu
