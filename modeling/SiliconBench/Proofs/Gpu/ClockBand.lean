import SiliconBench.Proofs.Gpu.After
import SiliconBench.Proofs.Gpu.Summary
import Mathlib.Tactic.Ring

/-!
# ClockBand — the clock stays between a tenth of the base clock and the base clock

The clock is set by one of two rules, and the temperature decides which. BOTH
rules lead into the band from anywhere above its floor and at EVERY temperature,
so the loop from clock to power to temperature and back to the clock need not be
followed. What is summed up over ticks, the clocks and the work, stays in the
band multiplied by the number of ticks.
-/

namespace SiliconBench.Gpu

open Scalar

/-! ## The two rules -/

/-- Operations of a tick at a clock. -/
def Config.workAt (c : Config Rat) (clock : Rat) : Rat :=
  c.cores * clock * 20000000

namespace Config.Valid

variable {c : Config Rat} (h : c.Valid)

include h

theorem floor_pos : 0 < c.clock / 10 :=
  div_pos h.clock_pos (by norm_num)

theorem workAt_mono {x y : Rat} (hxy : x ≤ y) : c.workAt x ≤ c.workAt y :=
  mul_le_mul_of_nonneg_right (mul_le_mul_of_nonneg_left hxy h.cores_pos.le) (by norm_num)

theorem workAt_pos {x : Rat} (hx : 0 < x) : 0 < c.workAt x :=
  mul_pos (mul_pos h.cores_pos hx) (by norm_num)

/-- The throttling rule is a fraction of the base clock between the floor and one. -/
theorem throttled_mem {maxTemp : Rat} (hot : c.throttleTemp < maxTemp) :
    c.clock / 10 ≤ c.clock * max 0.1 (1 - (maxTemp - c.throttleTemp) * 0.05) ∧
      c.clock * max 0.1 (1 - (maxTemp - c.throttleTemp) * 0.05) ≤ c.clock := by
  have hbase := h.clock_pos.le
  have hfloor : (0.1 : Rat) ≤ max 0.1 (1 - (maxTemp - c.throttleTemp) * 0.05) := le_max_left _ _
  have htop : max 0.1 (1 - (maxTemp - c.throttleTemp) * 0.05) ≤ (1 : Rat) := by
    refine max_le (by norm_num) ?_
    linarith
  constructor
  · calc c.clock / 10 = c.clock * 0.1 := by ring
      _ ≤ _ := mul_le_mul_of_nonneg_left hfloor hbase
  · calc _ ≤ c.clock * 1 := mul_le_mul_of_nonneg_left htop hbase
      _ = c.clock := mul_one _

/-- **Both rules lead into the band**, whatever the temperature. -/
theorem clockAfter_mem {clock : Rat} (hclock : c.clock / 10 ≤ clock) (maxTemp : Rat) :
    c.clock / 10 ≤ c.clockAfter maxTemp clock ∧ c.clockAfter maxTemp clock ≤ c.clock := by
  unfold clockAfter
  split
  · rename_i hot
    exact h.throttled_mem hot
  · -- recovery only raises the clock, so the floor needs the clock before
    have hbase := h.clock_pos
    refine ⟨le_min ?_ ?_, min_le_left _ _⟩
    · linarith
    · linarith

end Config.Valid

/-! ## The invariant -/

namespace Run

variable {exp : Rat → Rat} {start r : Run Rat Rat}

theorem next_ops (exp : Rat → Rat) (r : Run Rat Rat) :
    (r.next exp).ops = r.ops + r.config.workAt r.clock := by
  show r.ops + r.config.cores * r.clock * 1000000000 * 0.02 = _
  unfold Config.workAt
  ring

/-- The clock is in the band, and so is what was summed up over the ticks. -/
structure InBand (r : Run Rat Rat) : Prop where
  floor_le_clock : r.config.clock / 10 ≤ r.clock
  clock_le_base : r.clock ≤ r.config.clock
  floor_le_sum : r.tick * (r.config.clock / 10) ≤ r.clockSum
  sum_le_base : r.clockSum ≤ r.tick * r.config.clock
  floor_le_ops : r.tick * r.config.workAt (r.config.clock / 10) ≤ r.ops
  ops_le_base : r.ops ≤ r.tick * r.config.workAt r.config.clock

theorem initial_inBand {config : Config Rat} (h : config.Valid) (workload : Kernel.Workload Rat)
    (pattern : Pattern) (maxTicks : Rat) (hotspots : List (Hotspot Rat)) :
    (initial config workload pattern maxTicks hotspots).InBand where
  floor_le_clock := by
    have := h.clock_pos
    show config.clock / 10 ≤ config.clock
    linarith
  clock_le_base := le_refl config.clock
  floor_le_sum := by simp [initial]
  sum_le_base := by simp [initial]
  floor_le_ops := by simp [initial]
  ops_le_base := by simp [initial]

/-- The work and the clocks of a tick are those of a clock in the band. -/
theorem Checked.next_inBand (h : r.Checked) (hr : r.InBand) (exp : Rat → Rat) :
    (r.next exp).InBand := by
  obtain ⟨hfloor, hbase⟩ :=
    h.config.clockAfter_mem hr.floor_le_clock (Cell.greatest (r.heated exp))
  have hlow := h.config.workAt_mono hr.floor_le_clock
  have hhigh := h.config.workAt_mono hr.clock_le_base
  have htick : ((r.next exp).tick : Rat) = r.tick + 1 := Nat.cast_succ r.tick
  refine ⟨hfloor, hbase, ?_, ?_, ?_, ?_⟩
  · show _ * (r.config.clock / 10) ≤ r.clockSum + _
    rw [htick, add_mul, one_mul]
    exact add_le_add hr.floor_le_sum hfloor
  · show r.clockSum + _ ≤ _ * r.config.clock
    rw [htick, add_mul, one_mul]
    exact add_le_add hr.sum_le_base hbase
  · rw [next_ops, htick, add_mul, one_mul]
    exact add_le_add hr.floor_le_ops hlow
  · rw [next_ops, htick, add_mul, one_mul]
    exact add_le_add hr.ops_le_base hhigh

/-- The average clock of a run that has ticked is in the band. -/
theorem InBand.meanClock_mem (hr : r.InBand) (htick : 1 ≤ r.tick) :
    r.config.clock / 10 ≤ r.meanClock ∧ r.meanClock ≤ r.config.clock := by
  have hpos : (0 : Rat) < r.tick := by exact_mod_cast htick
  have hmean : r.meanClock = r.clockSum / r.tick := if_neg (by omega)
  rw [hmean, le_div_iff₀ hpos, div_le_iff₀ hpos, mul_comm _ (r.tick : Rat),
    mul_comm _ (r.tick : Rat)]
  exact ⟨hr.floor_le_sum, hr.sum_le_base⟩

theorem Checked.after_inBand (h : r.Checked) (hr : r.InBand) (exp : Rat → Rat) (n : Nat) :
    (r.after exp n).InBand :=
  h.after_of_next hr (fun _ hs hb => hs.next_inBand hb exp) n

theorem Checked.ops_lt_next (h : r.Checked) (hr : r.InBand) (exp : Rat → Rat) :
    r.ops < (r.next exp).ops := by
  rw [next_ops]
  exact lt_add_of_pos_right _
    (h.config.workAt_pos (lt_of_lt_of_le h.config.floor_pos hr.floor_le_clock))

theorem Checked.ops_nonneg (h : r.Checked) (hr : r.InBand) : 0 ≤ r.ops :=
  le_trans (mul_nonneg r.tick.cast_nonneg (h.config.workAt_pos h.config.floor_pos).le)
    hr.floor_le_ops

/-! ## Every state of an accepted run -/

/-- What a host finds when it asks a run for a tick: the run is over, and the call
is refused; or it is not, and the call does work at a clock of the band. -/
theorem Checked.step_work (h : r.Checked) (hr : r.InBand) (exp : Rat → Rat) :
    (r.isDone = .ok true ∧ r.step exp = .error ⟨.finished, r⟩) ∨
      (r.isDone = .ok false ∧ ∃ next, r.step exp = .ok next ∧ r.ops < next.ops ∧
        r.config.workAt (r.config.clock / 10) ≤ next.ops - r.ops ∧
        next.ops - r.ops ≤ r.config.workAt r.config.clock) := by
  rw [isDone_rat, h.step_rat]
  by_cases hover : r.Over
  · exact .inl ⟨by simp [hover], if_pos hover⟩
  · refine .inr ⟨by simp [hover], r.next exp, if_neg hover, h.ops_lt_next hr exp, ?_⟩
    rw [next_ops, add_sub_cancel_left]
    exact ⟨h.config.workAt_mono hr.floor_le_clock, h.config.workAt_mono hr.clock_le_base⟩

section

variable {config : Config Rat} {workload : Kernel.Workload Rat} {pattern : Value} {maxTicks : Rat}
  {draw : Grid → Result Rat (List (Hotspot Rat))}

/-- What is known of an accepted run before its first tick. -/
structure Fresh (config : Config Rat) (maxTicks : Rat) (start : Run Rat Rat) : Prop where
  checked : start.Checked
  inBand : start.InBand
  config_eq : start.config = config
  maxTicks_eq : start.maxTicks = maxTicks
  tick_eq : start.tick = 0

theorem accepted_fresh (accepted : prepare config workload pattern maxTicks draw = .ok start) :
    start.Fresh config maxTicks := by
  obtain ⟨hbudget, hc, hw, hratio, p, hotspots, -, -, rfl⟩ := prepare_eq_ok.mp accepted
  exact ⟨.initial hc hw hbudget hratio, initial_inBand hc .., rfl, rfl, rfl⟩

/-- In every state the checks still hold, the clock and the sums are in the band,
and the settings are those that were accepted. -/
theorem Fresh.of_reachable (h : start.Fresh config maxTicks) (reached : Reachable exp start r) :
    r.Checked ∧ r.InBand ∧ r.config = config :=
  ⟨h.checked.congr reached.task_eq,
    h.checked.of_reachable h.inBand (fun _ hs hb => hs.next_inBand hb exp) reached,
    reached.config_eq.trans h.config_eq⟩

/-- **The clock band**: in every state of an accepted run the clock lies between a
tenth of the base clock and the base clock. So every tick does at least the work
of the floor and at most that of the base clock, and the average clock that is
reported after a tick is in the band too. -/
theorem clock_in_band (accepted : prepare config workload pattern maxTicks draw = .ok start)
    (reached : Reachable exp start r) :
    (config.clock / 10 ≤ r.clock ∧ r.clock ≤ config.clock) ∧
      ((r.isDone = .ok true ∧ r.step exp = .error ⟨.finished, r⟩) ∨
        (r.isDone = .ok false ∧ ∃ next, r.step exp = .ok next ∧ r.ops < next.ops ∧
          config.cores * (config.clock / 10) * 20000000 ≤ next.ops - r.ops ∧
          next.ops - r.ops ≤ config.cores * config.clock * 20000000)) ∧
      (1 ≤ r.tick → ∃ o, r.outcome = .ok o ∧ r.averageClock = .ok o.figures.averageClock ∧
        config.clock / 10 ≤ o.figures.averageClock ∧ o.figures.averageClock ≤ config.clock) := by
  obtain ⟨hr, hband, rfl⟩ := (accepted_fresh accepted).of_reachable reached
  refine ⟨⟨hband.floor_le_clock, hband.clock_le_base⟩, hr.step_work hband exp, fun htick => ?_⟩
  exact ⟨r.report, hr.outcome_rat, averageClock_rat r, hband.meanClock_mem htick⟩

/-- A run whose first tick throttles it. -/
theorem clock_in_band_hotRun :
    prepare hotConfig shortKernel (.text "strided") 3 (fun _ => .ok [stillSpot]) = .ok hotRun ∧
      Reachable decay hotRun (hotRun.next decay) ∧ (hotRun.next decay).clock = 13 / 10 ∧
      hotConfig.clock / 10 ≤ (hotRun.next decay).clock ∧
      (hotRun.next decay).clock ≤ hotConfig.clock :=
  ⟨prepare_hotRun, .ticked .start hotRun_step, by decide +kernel,
    (clock_in_band prepare_hotRun (.ticked .start hotRun_step)).1⟩

end

end Run

end SiliconBench.Gpu
