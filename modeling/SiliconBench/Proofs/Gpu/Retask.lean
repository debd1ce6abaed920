import SiliconBench.Gpu.Drive
import SiliconBench.Proofs.Gpu.Reachable
import SiliconBench.Proofs.Matched

/-!
# Retask — what a tick reads of its task

A tick reads seven settings of the processor and nothing else of the task that
the run was prepared with: neither the rest of the settings nor the kernel, and
the budget and the required work only to ask whether the run is over. So two
runs in the same state whose tasks agree in these seven (`SameTicks`) go through
the same ticks, for as long as they agree on whether they are over. `Retasked`
is that relation; one lemma for each phase carries it over a tick, and the tick
over a run. All of this holds in any arithmetic, also where a phase faults.
-/

namespace SiliconBench.Gpu

open Scalar

variable {α κ σ : Type} [Scalar α]

/-- Two processors that a tick cannot tell apart. -/
structure Config.SameTicks (c d : Config α) : Prop where
  cores : c.cores = d.cores
  clock : c.clock = d.clock
  maxPower : c.maxPower = d.maxPower
  resistance : c.resistance = d.resistance
  throttleTemp : c.throttleTemp = d.throttleTemp
  ambient : c.ambient = d.ambient
  capacitance : c.capacitance = d.capacitance

theorem Config.SameTicks.refl (c : Config α) : c.SameTicks c :=
  ⟨rfl, rfl, rfl, rfl, rfl, rfl, rfl⟩

/-- Two tasks that a tick cannot tell apart. -/
structure Task.SameTicks (t u : Task α) : Prop where
  config : t.config.SameTicks u.config
  grid : t.grid = u.grid

namespace Run

omit [Scalar α] in
/-- The state of a run, with another task. -/
def under (u : Task α) (r : Run α κ) : Run α κ :=
  { r with
    config := u.config
    workload := u.workload
    pattern := u.pattern
    maxTicks := u.maxTicks
    requiredOps := u.requiredOps
    grid := u.grid }

/-- The first run has task `t` and has taken `n` ticks, and the second one is in
the same state with task `u`. -/
structure Retasked (t u : Task α) (n : Nat) (r s : Run α κ) : Prop where
  task : r.task = t
  tick : r.tick = n
  state : s = r.under u

/-- Both runs halted for the same cause, in states that differ only in the task. -/
structure HaltRetasked (t u : Task α) (g h : Halt α κ) : Prop where
  fault : g.fault = h.fault
  run : ∃ n, Retasked t u n g.run h.run

variable [Cell κ] [PerCore α κ]

/-- The temperatures to which a tick heats the cores. -/
def heatedBy (exp : κ → κ) (power : α) (r : Run α κ) : Result α (List κ) := do
  let factors ← powerFactors exp r.grid r.hotspots
  let power ← PerCore.toCell power
  let resistance ← r.config.resistance
  let capacitance ← PerCore.toCell r.config.capacitance
  let ambient ← PerCore.toCell r.config.ambient
  let resistance ← PerCore.toCell resistance
  let dt ← PerCore.toCell (tickSeconds α)
  integrate ambient resistance capacitance dt r.temperatures (factors.map (power * ·))

theorem heat_eq (exp : κ → κ) (power : α) (r : Run α κ) :
    r.heat exp power = r.heatedBy exp power >>= fun ts => .ok { r with temperatures := ts } := by
  simp only [heat, heatedBy, bind_assoc]
  rfl

variable {t u : Task α} {n : Nat} {r s : Run α κ} {exp : κ → κ}

/-! ## The phases -/

section Phases

variable (same : t.SameTicks u)

include same

omit [Cell κ] [PerCore α κ] in
theorem Retasked.work (h : Retasked t u n r s) :
    Matched Eq (Retasked t u n) r.work s.work := by
  obtain ⟨rfl, rfl, rfl⟩ := h
  have hwork : (r.under u).workPerTick = r.workPerTick := by
    simp only [workPerTick, under, ← same.config.cores]
    rfl
  unfold Run.work
  rw [hwork]
  exact .bind_same fun _ => .bind_same fun _ => .pure ⟨rfl, rfl, rfl⟩

omit [Cell κ] [PerCore α κ] in
theorem Retasked.powerPerCore (h : Retasked t u n r s) : r.powerPerCore = s.powerPerCore := by
  obtain ⟨rfl, rfl, rfl⟩ := h
  simp only [Run.powerPerCore, under, ← same.config.maxPower, ← same.config.cores,
    ← same.config.clock]
  rfl

omit [PerCore α κ] in
theorem Retasked.moveHotspots (h : Retasked t u n r s) :
    Retasked t u n r.moveHotspots s.moveHotspots := by
  obtain ⟨rfl, rfl, rfl⟩ := h
  refine ⟨rfl, rfl, ?_⟩
  simp only [Run.moveHotspots, under, ← same.grid]
  rfl

theorem Retasked.heat (h : Retasked t u n r s) (power : α) :
    Matched Eq (Retasked t u n) (r.heat exp power) (s.heat exp power) := by
  obtain ⟨rfl, rfl, rfl⟩ := h
  have hheat : (r.under u).heatedBy exp power = r.heatedBy exp power := by
    simp only [heatedBy, under, ← same.grid, ← same.config.resistance,
      ← same.config.capacitance, ← same.config.ambient]
    rfl
  rw [heat_eq, heat_eq, hheat]
  exact .bind_same fun _ => .pure ⟨rfl, rfl, rfl⟩

theorem Retasked.notePeak (h : Retasked t u n r s) :
    Matched Eq (Retasked t u n) r.notePeak s.notePeak := by
  obtain ⟨rfl, rfl, rfl⟩ := h
  exact .bind_same fun _ => .pure ⟨rfl, rfl, rfl⟩

theorem Retasked.regulate (h : Retasked t u n r s) :
    Matched Eq (Retasked t u n) r.regulate s.regulate := by
  obtain ⟨rfl, rfl, rfl⟩ := h
  have hmax : (r.under u).maxTemp = r.maxTemp := rfl
  have hlimit : (r.under u).config.throttleTemp = r.config.throttleTemp :=
    same.config.throttleTemp.symm
  have hthrottled :
      throttledClock (r.under u).config r.maxTemp = throttledClock r.config r.maxTemp := by
    simp only [throttledClock, under, ← same.config.throttleTemp, ← same.config.clock]
    rfl
  have hrecovered :
      recoveredClock (r.under u).config (r.under u).clock = recoveredClock r.config r.clock := by
    simp only [recoveredClock, under, ← same.config.clock]
    rfl
  unfold Run.regulate
  rw [hmax, hlimit, hthrottled, hrecovered]
  refine .bind_same fun hot => ?_
  cases hot with
  | true => exact .bind_same fun _ => .bind_same fun _ => .pure ⟨rfl, rfl, rfl⟩
  | false => exact .bind_same fun _ => .pure ⟨rfl, rfl, rfl⟩

omit same [Cell κ] [PerCore α κ] in
theorem Retasked.count (h : Retasked t u n r s) :
    Matched Eq (Retasked t u (n + 1)) r.count s.count := by
  obtain ⟨rfl, rfl, rfl⟩ := h
  exact .bind_same fun _ => .pure ⟨rfl, rfl, rfl⟩

/-! ## The tick and the run -/

omit same [Scalar α] [Cell κ] [PerCore α κ] in
theorem Retasked.orHalt {β γ : Type} {R : β → γ → Prop} {x : Result α β} {y : Result α γ}
    (h : Retasked t u n r s) (hxy : Matched Eq R x y) :
    Matched (HaltRetasked t u) R (r.orHalt x) (s.orHalt y) := by
  cases x with
  | error e =>
    cases y with
    | error e' => exact ⟨hxy, n, h⟩
    | ok b => exact hxy.elim
  | ok a =>
    cases y with
    | error e' => exact hxy.elim
    | ok b => exact hxy

/-- **A tick does the same under both tasks**, wherever they agree on whether the
run is over. -/
theorem Retasked.step (h : Retasked t u n r s) (hdone : r.isDone = s.isDone) :
    Matched (HaltRetasked t u) (Retasked t u (n + 1)) (r.step exp) (s.step exp) := by
  unfold Run.step
  rw [hdone]
  refine (h.orHalt (.of_eq rfl)).bind fun isOver _ hover => ?_
  subst hover
  cases isOver with
  | true => exact ⟨rfl, n, h⟩
  | false =>
    refine (h.orHalt (h.work same)).bind fun worked worked' hw => ?_
    refine (hw.orHalt (.of_eq (hw.powerPerCore same))).bind fun power _ hpower => ?_
    subst hpower
    have hm := hw.moveHotspots same
    refine (hm.orHalt (hm.heat same power)).bind fun heated heated' hh => ?_
    refine (hh.orHalt (hh.notePeak same)).bind fun noted noted' hn => ?_
    refine (hn.orHalt (hn.regulate same)).bind fun regulated regulated' hg => ?_
    exact hg.orHalt hg.count

omit same [Cell κ] [PerCore α κ] in
theorem Retasked.progress (h : Retasked t u n r s) (work : t.requiredOps = u.requiredOps) :
    r.progress = s.progress := by
  obtain ⟨rfl, rfl, rfl⟩ := h
  simp only [Run.progress, isDegenerate, under, ← work]
  rfl

omit same in
theorem Retasked.snapshot (h : Retasked t u n r s) (work : t.requiredOps = u.requiredOps) :
    r.snapshot = s.snapshot := by
  have hprogress := h.progress work
  obtain ⟨rfl, rfl, rfl⟩ := h
  unfold Run.snapshot
  rw [← hprogress]
  rfl

theorem Retasked.tickOnce (h : Retasked t u n r s) (work : t.requiredOps = u.requiredOps)
    (hdone : r.isDone = s.isDone) :
    Matched (HaltRetasked t u) (fun x y => x.1 = y.1 ∧ Retasked t u (n + 1) x.2 y.2)
      (r.tickOnce exp) (s.tickOnce exp) := by
  refine (h.step same hdone).bind fun next next' hnext => ?_
  refine (hnext.orHalt (.of_eq (hnext.snapshot work))).bind fun seen _ hseen => ?_
  exact .pure ⟨hseen, hnext⟩

/-- A fold over the ticks to come comes to the same under both tasks, if they agree
on whether the run is over before each of these ticks. -/
theorem Retasked.foldTicks {f : σ → Snapshot α κ → Run α κ → Result α σ} {bound fuel : Nat}
    (work : t.requiredOps = u.requiredOps)
    (hdone : ∀ k < bound, ∀ r s : Run α κ, Retasked t u k r s → r.isDone = s.isDone)
    (hf : ∀ acc seen k (r s : Run α κ), Retasked t u k r s → f acc seen r = f acc seen s)
    (h : Retasked t u n r s) (hfuel : n + fuel ≤ bound) (acc : σ) :
    Matched (HaltRetasked t u) (fun x y => x.1 = y.1 ∧ ∃ k, Retasked t u k x.2 y.2)
      (r.foldTicks exp f fuel acc) (s.foldTicks exp f fuel acc) := by
  induction fuel generalizing n r s acc with
  | zero => exact ⟨rfl, n, h⟩
  | succ fuel ih =>
    have hover := hdone n (by omega) r s h
    have htick : Matched (HaltRetasked t u) (fun x y => x.1 = y.1 ∧ Retasked t u (n + 1) x.2 y.2)
        (r.tickOnce exp) (s.tickOnce exp) := h.tickOnce same work hover
    rw [foldTicks_succ, foldTicks_succ]
    rw [hover]
    cases hs : s.isDone with
    | error fault => exact ⟨rfl, n, h⟩
    | ok isOver =>
      cases isOver with
      | true => exact ⟨rfl, n, h⟩
      | false =>
        cases hr' : r.tickOnce exp with
        | error halt =>
          obtain ⟨halt', hs', hhalt⟩ := htick.exists_of_error hr'
          simp only [hs']
          exact hhalt
        | ok shown =>
          obtain ⟨shown', hs', hseen, hnext⟩ := htick.exists_of_ok hr'
          simp only [hs']
          rw [hseen, hf acc shown'.1 _ shown.2 shown'.2 hnext]
          cases f acc shown'.1 shown'.2 with
          | error fault => exact ⟨rfl, n + 1, hnext⟩
          | ok acc => exact ih hnext (by omega) acc

end Phases

end Run

end SiliconBench.Gpu
