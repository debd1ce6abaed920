import SiliconBench.Gpu.Step
import SiliconBench.Proofs.Answer

/-!
# Reachable — the states of a run, and what all of them share

A host drives a run by asking for ticks, as many as it likes and for as long as
it likes. A tick that faults leaves a state behind as well, so `Reachable` counts
it: nothing is assumed about how a call ends. What a run was prepared with is its
TASK, and no call changes it. All of this holds in any arithmetic, for doubles as
for rationals.
-/

namespace SiliconBench.Gpu

open Scalar

/-- What a run was prepared with. -/
structure Task (α : Type) where
  config : Config α
  workload : Kernel.Workload α
  pattern : Pattern
  maxTicks : α
  requiredOps : α
  grid : Grid

namespace Run

variable {α κ : Type}

/-- The task of a run. -/
def task (r : Run α κ) : Task α :=
  ⟨r.config, r.workload, r.pattern, r.maxTicks, r.requiredOps, r.grid⟩

/-- What is known of a run that was prepared, before its first tick. -/
structure Prepared [Scalar α] [PerCore α κ] (workload : Kernel.Workload α) (maxTicks : α)
    (r : Run α κ) : Prop where
  workload : r.workload = workload
  maxTicks : r.maxTicks = maxTicks
  grid : ∃ cores, r.grid = Grid.ofCores cores
  tick : r.tick = 0
  ops : r.ops = real α 0
  throttleTime : r.throttleTime = real α 0
  ambient : toReal r.config.ambient = .ok r.peak
  /-- every core has the ambient temperature -/
  temperatures : ∃ cell, PerCore.toCell r.peak = .ok cell ∧
    r.temperatures = List.replicate r.grid.cells cell

theorem prepare_prepared [Scalar α] [PerCore α κ] (config : Config α)
    (workload : Kernel.Workload α) (pattern : Value) (maxTicks : α)
    (draw : Grid → Result α (List (Hotspot κ))) :
    Answers (Prepared workload maxTicks) (prepare config workload pattern maxTicks draw) := by
  unfold prepare
  -- the ambient temperature, its cell and the clock are the last to be worked out
  repeat refine .bind fun _ _ => ?_
  rename_i ambient hambient cell hcell _ _
  exact .pure ⟨rfl, rfl, ⟨_, rfl⟩, rfl, rfl, rfl, hambient, cell, hcell, rfl⟩

variable [Scalar α] [Cell κ] [PerCore α κ]

/-! ## The phases of a tick keep the task -/

omit [Cell κ] [PerCore α κ] in
theorem work_task (r : Run α κ) : Answers (fun s => s.task = r.task) r.work :=
  .bind fun _ _ => .bind fun _ _ => .pure rfl

theorem heat_task (exp : κ → κ) (power : α) (r : Run α κ) :
    Answers (fun s => s.task = r.task) (r.heat exp power) := by
  unfold heat
  repeat refine .bind fun _ _ => ?_
  exact .pure rfl

theorem notePeak_task (r : Run α κ) : Answers (fun s => s.task = r.task) r.notePeak :=
  .bind fun _ _ => .pure rfl

theorem regulate_task (r : Run α κ) : Answers (fun s => s.task = r.task) r.regulate := by
  refine .bind fun hot _ => .ite ?_ ?_
  · exact .bind fun _ _ => .bind fun _ _ => .pure rfl
  · exact .bind fun _ _ => .pure rfl

omit [Cell κ] [PerCore α κ] in
theorem count_task (r : Run α κ) : Answers (fun s => s.task = r.task) r.count :=
  .bind fun _ _ => .pure rfl

/-! ## What no phase breaks -/

/-- However a call ends, the state that it leaves has a property. -/
def Leaves (P : Run α κ → Prop) : Except (Halt α κ) (Run α κ) → Prop
  | .ok next => P next
  | .error halt => P halt.run

/-- A property that no phase of a tick breaks. -/
structure Unbroken (exp : κ → κ) (P : Run α κ → Prop) : Prop where
  work : ∀ r, P r → Answers P r.work
  move : ∀ r, P r → P r.moveHotspots
  heat : ∀ power r, P r → Answers P (heat exp power r)
  notePeak : ∀ r, P r → Answers P r.notePeak
  regulate : ∀ r, P r → Answers P r.regulate
  count : ∀ r, P r → Answers P r.count

section

variable {P : Run α κ → Prop} {s : Run α κ}

omit [Scalar α] [Cell κ] [PerCore α κ] in
theorem leaves_orHalt {x : Result α (Run α κ)} (hs : P s) (hx : Answers P x) :
    Leaves P (s.orHalt x) := by
  cases x with
  | error fault => exact hs
  | ok next => exact hx next rfl

omit [Scalar α] [Cell κ] [PerCore α κ] in
/-- A phase that faults leaves the state before it, any other hands its answer on. -/
theorem leaves_orHalt_bind {β : Type} {x : Result α β} {f : β → Except (Halt α κ) (Run α κ)}
    (hs : P s) (hf : ∀ y, x = .ok y → Leaves P (f y)) : Leaves P (s.orHalt x >>= f) := by
  cases x with
  | error fault => exact hs
  | ok y => exact hf y rfl

/-- **A tick leaves what no phase breaks**, also one that faults half way. -/
theorem Unbroken.step {exp : κ → κ} (h : Unbroken exp P) (r : Run α κ) (hr : P r) :
    Leaves P (r.step exp) := by
  unfold Run.step
  refine leaves_orHalt_bind hr fun isOver _ => ?_
  cases isOver with
  | true => exact hr
  | false =>
    refine leaves_orHalt_bind hr fun worked hworked => ?_
    have hw := h.work r hr worked hworked
    refine leaves_orHalt_bind hw fun power _ => ?_
    have hm := h.move worked hw
    refine leaves_orHalt_bind hm fun heated hheated => ?_
    have hh := h.heat power _ hm heated hheated
    refine leaves_orHalt_bind hh fun noted hnoted => ?_
    have hn := h.notePeak heated hh noted hnoted
    refine leaves_orHalt_bind hn fun regulated hregulated => ?_
    have hg := h.regulate noted hn regulated hregulated
    exact leaves_orHalt hg (h.count regulated hg)

end

theorem task_unbroken (exp : κ → κ) (task : Task α) :
    Unbroken exp fun s : Run α κ => s.task = task where
  work r hr s hs := (r.work_task s hs).trans hr
  move _ hr := hr
  heat power r hr s hs := (r.heat_task exp power s hs).trans hr
  notePeak r hr s hs := (r.notePeak_task s hs).trans hr
  regulate r hr s hs := (r.regulate_task s hs).trans hr
  count r hr s hs := (r.count_task s hs).trans hr

/-- However a call ends, the state that it leaves has the task. -/
def Keeps (task : Task α) : Except (Halt α κ) (Run α κ) → Prop
  | .ok next => next.task = task
  | .error halt => halt.run.task = task

/-- A tick keeps the task. -/
theorem step_keeps (exp : κ → κ) (r : Run α κ) : Keeps r.task (r.step exp) := by
  have hleaves := (task_unbroken exp r.task).step r rfl
  cases hstep : r.step exp with
  | ok next => rwa [hstep] at hleaves
  | error halt => rwa [hstep] at hleaves

theorem task_of_step {exp : κ → κ} {r next : Run α κ} (h : r.step exp = .ok next) :
    next.task = r.task := by
  have hkeeps := step_keeps exp r
  rwa [h] at hkeeps

/-! ## Reachable states -/

/-- The states to which a host can bring a run by asking for ticks. -/
inductive Reachable (exp : κ → κ) (start : Run α κ) : Run α κ → Prop
  | start : Reachable exp start start
  | ticked {r next : Run α κ} :
      Reachable exp start r → r.step exp = .ok next → Reachable exp start next
  | halted {r : Run α κ} {halt : Halt α κ} :
      Reachable exp start r → r.step exp = .error halt → Reachable exp start halt.run

/-- What holds at the start and is broken by no phase holds in every reachable state. -/
theorem Unbroken.reachable {exp : κ → κ} {P : Run α κ → Prop} {start r : Run α κ}
    (h : Unbroken exp P) (hstart : P start) (reached : Reachable exp start r) : P r := by
  induction reached with
  | start => exact hstart
  | @ticked r _ _ hstep ih =>
    have hleaves := h.step r ih
    rwa [hstep] at hleaves
  | @halted r _ _ hstep ih =>
    have hleaves := h.step r ih
    rwa [hstep] at hleaves

namespace Reachable

variable {exp : κ → κ} {start r : Run α κ} (h : Reachable exp start r)

include h

/-- Every state of a run has the task that the run was prepared with. -/
theorem task_eq : r.task = start.task :=
  (task_unbroken exp start.task).reachable rfl h

theorem config_eq : r.config = start.config :=
  congrArg Task.config h.task_eq

theorem requiredOps_eq : r.requiredOps = start.requiredOps :=
  congrArg Task.requiredOps h.task_eq

theorem grid_eq : r.grid = start.grid :=
  congrArg Task.grid h.task_eq

end Reachable

end Run

end SiliconBench.Gpu
