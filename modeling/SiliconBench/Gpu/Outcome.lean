import SiliconBench.Gpu.Drive
import SiliconBench.Warning

/-! # Outcome — what a run comes to

The figures of a run can be asked for at any time; they are final when the run
is done. A run that was cut short is measured by the work it DID, any other by
the work it had to do. Memory time is what the bytes take at the bandwidth, plus
the latency of one miss; it has no part in how long the run takes. -/

namespace SiliconBench.Gpu

open Scalar

/-- How much better than strided a sequential walk hits. -/
def sequentialBoost (α : Type) [Scalar α] : α := real α 1.2

/-- The best hit rate of a sequential walk. -/
def sequentialCap (α : Type) [Scalar α] : α := real α 0.995

/-- How much of the hit rate is left to a random walk. -/
def randomScale (α : Type) [Scalar α] : α := real α 0.4

/-- Operations per core and cycle. -/
def opsPerCycle (α : Type) [Scalar α] : α := whole α 2

/-- The hit rate of a kernel of the given locality under a pattern. -/
def effectiveLocality {α : Type} [Scalar α] (locality : α) : Pattern → Result α α
  | .sequential => do least (sequentialCap α) (← mul locality (sequentialBoost α))
  | .random => locality * randomScale α
  | .strided => .ok locality

/-- The same for a pattern that is still to be read. -/
def effectiveLocalityFor {α : Type} [Scalar α] (locality : α) (pattern : Value) : Result α α := do
  effectiveLocality locality (← Pattern.parse pattern)

/-- Times and rates of a run. -/
structure Figures (α : Type) where
  status : Status
  averageClock : α
  hitRate : α
  /-- milliseconds -/
  kernelTime : α
  /-- milliseconds -/
  computeTime : α
  /-- milliseconds -/
  memoryTime : α
  /-- GB/s -/
  throughput : α
  utilization : α

/-- Everything that is known of a run. -/
structure Outcome (α κ : Type) where
  name : Value
  config : Config α
  pattern : Pattern
  figures : Figures α
  /-- TFLOPs at the base clock -/
  peakRate : α
  memoryBound : Bool
  peakTemp : α
  /-- milliseconds -/
  throttleTime : α
  /-- watts -/
  power : α
  temperatures : List κ
  cols : Nat
  rows : Nat
  ticks : Nat

variable {α κ : Type} [Scalar α]

namespace Run

/-- The work that a run is measured by. -/
def measuredOps (r : Run α κ) (status : Status) : α :=
  if status = .budgetExceeded then r.ops else r.requiredOps

/-- Milliseconds that the bytes and one miss take. -/
def memoryTime (r : Run α κ) (bytes averageClock hitRate : α) : Result α α := do
  let transfer : α ←
    (bytes / (r.config.bandwidth * giga α : Result α α) : Result α α) * real α 1000
  if ← lt (whole α 0) averageClock then
    let penalty : α ← r.config.cacheLatency * (real α 1 - hitRate)
    transfer + (penalty / (averageClock * giga α : Result α α) : Result α α) * real α 1000
  else return transfer

/-- Times and rates so far. -/
def figures (r : Run α κ) : Result α (Figures α) := do
  let status ← r.status
  let averageClock ← r.averageClock
  let bytes ← r.workload.totalBytes
  let hitRate ← effectiveLocality r.workload.locality r.pattern
  let ops := r.measuredOps status
  let rate : α ← r.config.cores * averageClock * giga α
  let computeTime : α ←
    if ← lt (whole α 0) rate then (ops / rate : Result α α) * real α 1000 else .ok (real α 0)
  let memoryTime ← r.memoryTime bytes averageClock hitRate
  let kernelTime ← r.elapsed
  let seconds : α ← kernelTime / real α 1000
  let throughput : α ←
    if ← lt (whole α 0) seconds then (bytes / seconds : Result α α) / giga α else .ok (real α 0)
  let most : α ← rate * seconds * opsPerCycle α
  let utilization : α ←
    if ← lt (whole α 0) most then do least (real α 1) (← div ops most) else .ok (real α 0)
  return { status, averageClock, hitRate, kernelTime, computeTime, memoryTime, throughput,
           utilization }

/-- The percentage of the work that is done. -/
def percentDone (r : Run α κ) : Result α α := do
  let progress ← r.progress
  progress * whole α 100

/-- Warnings that come with the outcome. -/
def warnings (r : Run α κ) : List (Warning α) :=
  let warned : Result α (List (Warning α)) := do
    let f ← r.figures
    if f.status = .budgetExceeded then
      return [.budgetSpent r.workload.name r.maxTicks (← r.percentDone)]
    else return []
  match warned with
  | .ok ws => ws
  | .error _ => []

/-- The outcome so far. -/
def outcome (r : Run α κ) : Result α (Outcome α κ) := do
  let f ← r.figures
  if f.status = .budgetExceeded then discard r.percentDone
  let peakRate : α ← r.config.cores * r.config.clock * opsPerCycle α / real α 1000
  let memoryBound ← lt f.computeTime f.memoryTime
  let power : α ← r.config.maxPower * f.averageClock / r.config.clock
  return { name := r.workload.name, config := r.config, pattern := r.pattern, figures := f,
           peakRate, memoryBound, peakTemp := r.peak, throttleTime := r.throttleTime, power,
           temperatures := r.temperatures, cols := r.grid.cols, rows := r.grid.rows,
           ticks := r.tick }

end Run

namespace Outcome

/-- The fraction of the time that was throttled. -/
def throttleFraction (o : Outcome α κ) : Result α α := do
  if ← le o.figures.kernelTime (whole α 0) then return real α 0
  o.throttleTime / o.figures.kernelTime

end Outcome

end SiliconBench.Gpu
