import SiliconBench.Gpu.Config
import SiliconBench.Gpu.Hotspot
import SiliconBench.Gpu.Thermal
import SiliconBench.Kernel.Workload
import SiliconBench.Pattern
import SiliconBench.Status

/-! # Run — a kernel on its way

A run is the whole state of one kernel on one processor. Time goes in ticks of
20 ms. The run is DONE when its work is, or when its budget of ticks is spent;
with no work it is done before the first tick. What a run needs is settled when
it is prepared: settings that are changed afterwards act on the ticks to come,
but neither on the work that is required nor on the layout of the cores. -/

namespace SiliconBench.Gpu

open Scalar Kernel

/-- Milliseconds of a tick. -/
def tickMillis (α : Type) [Scalar α] : α := real α 20

/-- Seconds of a tick. -/
def tickSeconds (α : Type) [Scalar α] : α := real α 0.02

/-- Operations in a second per core and GHz. -/
def giga (α : Type) [Scalar α] : α := real α 1000000000

/-- How many ticks a run may take unless another budget is given. -/
def defaultBudget : Nat := 100000

/-- The state of a run. -/
structure Run (α κ : Type) where
  config : Config α
  workload : Workload α
  pattern : Pattern
  /-- the budget -/
  maxTicks : α
  requiredOps : α
  grid : Grid
  hotspots : List (Hotspot κ)
  temperatures : List κ
  /-- ticks so far -/
  tick : Nat
  /-- operations so far -/
  ops : α
  /-- GHz in the tick to come -/
  clock : α
  /-- whether the last tick was throttled -/
  throttling : Bool
  /-- the greatest temperature so far -/
  peak : α
  /-- the sum of the clocks after all ticks -/
  clockSum : α
  /-- milliseconds of throttled ticks -/
  throttleTime : α

variable {α κ : Type} [Scalar α] [PerCore α κ]

namespace Run

/-- Prepares a run. All settings are validated again; `draw` places the hotspots. -/
def prepare (config : Config α) (workload : Workload α) (pattern : Value) (maxTicks : α)
    (draw : Grid → Result α (List (Hotspot κ))) : Result α (Run α κ) := do
  requireOne "max_ticks" maxTicks
  let config ← config.validate
  workload.validate
  requireStable (← config.resistance) config.capacitance (tickSeconds α)
  let pattern ← Pattern.parse pattern
  let requiredOps ← workload.requiredOps config.intensity
  let grid := Grid.ofCores (← truncate config.cores)
  let hotspots ← draw grid
  let ambient ← toReal config.ambient
  let start ← PerCore.toCell ambient
  let clock ← toReal config.clock
  return { config, workload, pattern, maxTicks, requiredOps, grid, hotspots,
           temperatures := List.replicate grid.cells start, tick := 0, ops := real α 0, clock,
           throttling := false, peak := ambient, clockSum := real α 0,
           throttleTime := real α 0 }

omit [PerCore α κ]

/-- Milliseconds so far. -/
def elapsed (r : Run α κ) : Result α α :=
  whole α r.tick * tickMillis α

/-- Whether there is no work. -/
def isDegenerate (r : Run α κ) : Result α Bool :=
  le r.requiredOps (whole α 0)

/-- Whether the work is done. -/
def isComplete (r : Run α κ) : Result α Bool := do
  if ← r.isDegenerate then return true
  le r.requiredOps r.ops

/-- Whether the budget is spent. -/
def isSpent (r : Run α κ) : Result α Bool :=
  le r.maxTicks (whole α r.tick)

/-- Whether the run is over. -/
def isDone (r : Run α κ) : Result α Bool := do
  if ← r.isComplete then return true
  r.isSpent

/-- The fraction of the work that is done. -/
def progress (r : Run α κ) : Result α α := do
  if ← r.isDegenerate then return real α 1
  let share : α ← r.ops / r.requiredOps
  least (real α 1) share

/-- How the run stands. -/
def status (r : Run α κ) : Result α Status := do
  if ← r.isDegenerate then return .degenerate
  if ← r.isComplete then return .completed
  if ← r.isSpent then return .budgetExceeded
  return .completed

/-- The average clock after the ticks so far, in GHz. -/
def averageClock (r : Run α κ) : Result α α :=
  if r.tick = 0 then .ok (real α 0) else r.clockSum / whole α r.tick

end Run

end SiliconBench.Gpu
