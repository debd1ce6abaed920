import SiliconBench.Proofs.Gpu.ClockBand

/-!
# Recovery — the way back to the base clock

A throttled tick sets the clock by its temperature alone and forgets what the clock was;
a cool tick adds a fiftieth of the base clock, up to the base clock. Steps that are cut off
at a ceiling add up to ONE sum that is cut off there (`Config.recovered_succ`), so the clock
after `k` cool ticks is known from the clock before them. The floor of the clock band is
nine tenths below the ceiling, and that is 45 fiftieths: whatever happened before, 45 cool
ticks bring the base clock back, and from the floor it takes all of them.
-/

namespace SiliconBench.Gpu

open Scalar

/-! ## The two rules -/

namespace Config

variable {c : Config Rat} {maxTemp clock : Rat} {k : Nat}

theorem clockAfter_of_hot (hot : c.throttleTemp < maxTemp) (clock : Rat) :
    c.clockAfter maxTemp clock = c.clock * max 0.1 (1 - 0.05 * (maxTemp - c.throttleTemp)) := by
  rw [clockAfter, if_pos hot, mul_comm (0.05 : Rat)]

theorem clockAfter_of_cool (cool : maxTemp ≤ c.throttleTemp) (clock : Rat) :
    c.clockAfter maxTemp clock = min c.clock (clock + c.clock * 0.02) :=
  if_neg cool.not_gt

/-- The clock after `k` cool ticks, if it was `clock` before them. -/
def recovered (c : Config Rat) (clock : Rat) (k : Nat) : Rat :=
  min c.clock (clock + 0.02 * k * c.clock)

theorem recovered_zero (h : clock ≤ c.clock) : c.recovered clock 0 = clock := by
  rw [recovered, Nat.cast_zero, mul_zero, zero_mul, add_zero, min_eq_right h]

/-- A cool tick goes on from where the ones before it have got to: a step that starts at
the ceiling is cut off there again. -/
theorem recovered_succ (hbase : 0 ≤ c.clock) (clock : Rat) (k : Nat) :
    min c.clock (c.recovered clock k + c.clock * 0.02) = c.recovered clock (k + 1) := by
  have hceiling : c.clock ≤ c.clock + c.clock * 0.02 :=
    le_add_of_nonneg_right (mul_nonneg hbase (by norm_num))
  have hsum : clock + 0.02 * k * c.clock + c.clock * 0.02 =
      clock + 0.02 * (k + 1 : Nat) * c.clock := by
    push_cast
    ring
  rw [recovered, ← min_add_add_right, hsum, ← min_assoc, min_eq_left hceiling, recovered]

theorem recovered_eq_base_iff :
    c.recovered clock k = c.clock ↔ c.clock ≤ clock + 0.02 * k * c.clock :=
  min_eq_left_iff

namespace Valid

variable (h : c.Valid)

include h

/-- Nine tenths of the base clock are 45 fiftieths of it. -/
theorem recovered_floor_iff : c.recovered (c.clock / 10) k = c.clock ↔ 45 ≤ k := by
  have hdistance : c.clock ≤ c.clock / 10 + 0.02 * k * c.clock ↔ c.clock * 45 ≤ c.clock * k := by
    constructor <;> intro hle <;> linarith
  rw [recovered_eq_base_iff, hdistance, mul_le_mul_iff_right₀ h.clock_pos]
  exact Nat.ofNat_le_cast

/-- From anywhere in the clock band 45 cool ticks are enough. -/
theorem recovered_of_enough (hfloor : c.clock / 10 ≤ clock) (hk : 45 ≤ k) :
    c.recovered clock k = c.clock := by
  have hfrom := recovered_eq_base_iff.mp (h.recovered_floor_iff.mpr hk)
  exact recovered_eq_base_iff.mpr (hfrom.trans (add_le_add_left hfloor _))

end Valid

end Config

namespace Run

variable {exp : Rat → Rat} {start r s : Run Rat Rat} {k : Nat}

/-! ## Ticks -/

/-- A host asked for `k` ticks in a row, and none of them left a core above the throttling
temperature. -/
inductive CoolTicks (exp : Rat → Rat) (r : Run Rat Rat) : Nat → Run Rat Rat → Prop
  | none : CoolTicks exp r 0 r
  | tick {k : Nat} {s next : Run Rat Rat} : CoolTicks exp r k s → s.step exp = .ok next →
      next.maxTemp ≤ next.config.throttleTemp → CoolTicks exp r (k + 1) next

/-- A tick that was not refused set the clock by the temperature that it led to. -/
theorem Checked.step_clock (h : r.Checked) (hstep : r.step exp = .ok s) :
    s.clock = r.config.clockAfter s.maxTemp r.clock := by
  rw [h.step_rat] at hstep
  split at hstep
  · cases hstep
  · cases hstep
    rfl

/-- **The clock after cool ticks**, as long as they last. -/
theorem Checked.clock_of_coolTicks (h : r.Checked) (hr : r.InBand) (cool : CoolTicks exp r k s) :
    s.task = r.task ∧ s.clock = r.config.recovered r.clock k := by
  induction cool with
  | none => exact ⟨rfl, (Config.recovered_zero hr.clock_le_base).symm⟩
  | @tick k s next _ hstep hcool ih =>
    obtain ⟨htask, hclock⟩ := ih
    have hs : s.Checked := h.congr htask
    have hnext : next.task = r.task := (task_of_step hstep).trans htask
    have hconfig : s.config = r.config := congrArg Task.config htask
    have hlimit : next.config = r.config := congrArg Task.config hnext
    rw [hlimit] at hcool
    refine ⟨hnext, ?_⟩
    rw [hs.step_clock hstep, hconfig, Config.clockAfter_of_cool hcool, hclock,
      Config.recovered_succ h.config.clock_pos.le]

/-! ## Every state of an accepted run -/

section

variable {config : Config Rat} {workload : Kernel.Workload Rat} {pattern : Value} {maxTicks : Rat}
  {draw : Grid → Result Rat (List (Hotspot Rat))}

/-- **Recovery is bounded, and throttling has no memory.** In every state of an accepted run,
however often it was throttled before, the clock after `k` cool ticks is the clock before
them and `k` fiftieths of the base clock, but not more than the base clock. So 45 cool ticks
bring the base clock back, and from the floor no fewer do. The clock that a throttled tick
leaves is told by its temperature, whatever the clock was before. -/
theorem clock_recovers (accepted : prepare config workload pattern maxTicks draw = .ok start)
    (reached : Reachable exp start r) :
    (∀ k s, CoolTicks exp r k s →
      s.clock = min config.clock (r.clock + 0.02 * k * config.clock) ∧
      (45 ≤ k → s.clock = config.clock) ∧
      (r.clock = config.clock / 10 → (s.clock = config.clock ↔ 45 ≤ k))) ∧
    ∀ s, r.step exp = .ok s → config.throttleTemp < s.maxTemp →
      s.clock = config.clock * max 0.1 (1 - 0.05 * (s.maxTemp - config.throttleTemp)) := by
  obtain ⟨h, hr, rfl⟩ := (accepted_fresh accepted).of_reachable reached
  refine ⟨fun k s cool => ?_, fun s hstep hot => ?_⟩
  · obtain ⟨-, hclock⟩ := h.clock_of_coolTicks hr cool
    rw [hclock]
    refine ⟨rfl, fun hk => h.config.recovered_of_enough hr.floor_le_clock hk, fun hfloor => ?_⟩
    rw [hfloor]
    exact h.config.recovered_floor_iff
  · rw [h.step_clock hstep, Config.clockAfter_of_hot hot]

/-- The hot core, with a limit between the temperatures of its first two ticks. -/
def warmConfig : Config Rat :=
  { hotConfig with throttleTemp := 53 / 2 }

/-- The short kernel on that core. -/
def warmRun : Run Rat Rat :=
  Run.initial warmConfig shortKernel .strided 3 [stillSpot]

theorem prepare_warmRun :
    prepare warmConfig shortKernel (.text "strided") 3 (fun _ => .ok [stillSpot]) =
      .ok warmRun := by
  refine prepare_eq_ok.mpr ⟨by norm_num, ?_, shortKernel_valid, ?_, .strided, _, rfl, rfl, rfl⟩
  · constructor <;> norm_num [warmConfig, hotConfig]
  · norm_num [Config.ratio, warmConfig, hotConfig]

/-- Its first tick is throttled to 1.95 GHz, and its second one is cool. -/
theorem clock_recovers_warmRun :
    prepare warmConfig shortKernel (.text "strided") 3 (fun _ => .ok [stillSpot]) = .ok warmRun ∧
      Reachable decay warmRun (warmRun.after decay 1) ∧
      CoolTicks decay (warmRun.after decay 1) 1 (warmRun.after decay 2) ∧
      (warmRun.after decay 1).clock = 2 * max 0.1 (1 - 0.05 * (27 - 53 / 2)) ∧
      (warmRun.after decay 2).clock = min 2 (39 / 20 + 0.02 * ((1 : Nat) : Rat) * 2) := by
  have h := (accepted_fresh prepare_warmRun).checked
  have hfirst : warmRun.step decay = .ok (warmRun.after decay 1) :=
    h.step_next (by decide +kernel) decay
  have hsecond : (warmRun.after decay 1).step decay = .ok (warmRun.after decay 2) :=
    (h.after decay 1).step_next (by decide +kernel) decay
  have reached : Reachable decay warmRun (warmRun.after decay 1) := .ticked .start hfirst
  have cool : CoolTicks decay (warmRun.after decay 1) 1 (warmRun.after decay 2) :=
    .tick .none hsecond (by decide +kernel)
  have hmax : (warmRun.after decay 1).maxTemp = 27 := by decide +kernel
  have hthrottled := (clock_recovers prepare_warmRun .start).2 _ hfirst (by decide +kernel)
  have hclock : (warmRun.after decay 1).clock = 39 / 20 := by decide +kernel
  have hrecovered := ((clock_recovers prepare_warmRun reached).1 1 _ cool).1
  rw [hmax] at hthrottled
  rw [hclock] at hrecovered
  exact ⟨prepare_warmRun, reached, cool, hthrottled, hrecovered⟩

end

end Run

end SiliconBench.Gpu
