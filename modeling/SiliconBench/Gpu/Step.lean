import SiliconBench.Gpu.Run

/-! # Step — one tick of a run

A tick has five phases, in this order: the cores WORK at the clock in effect;
hotspots move; every core is HEATED by its power, which goes with the clock; the
clock is REGULATED, down in proportion to the excess over the throttling
temperature but not below a tenth of the base clock, or up by a fiftieth of it
when the cores are cool; and the tick is COUNTED, with the clock that follows
from it.

A fault in the middle of a tick leaves the phases before it done. `Halt` keeps
the state that is left together with the fault. -/

namespace SiliconBench.Gpu

open Scalar

/-- The least clock under throttling, as a fraction of the base clock. -/
def throttleFloor (α : Type) [Scalar α] : α := real α 0.1

/-- The fraction of the base clock that is lost per degree of excess. -/
def throttleSlope (α : Type) [Scalar α] : α := real α 0.05

/-- The fraction of the base clock that is regained in a cool tick. -/
def recovery (α : Type) [Scalar α] : α := real α 0.02

/-- A fault, and the state that it left. -/
structure Halt (α κ : Type) where
  fault : Fault α
  run : Run α κ

/-- What a caller sees of a run after a tick. -/
structure Snapshot (α κ : Type) where
  tick : Nat
  /-- milliseconds -/
  elapsed : α
  ops : α
  /-- from 0 to 1 -/
  progress : α
  /-- GHz -/
  clock : α
  throttling : Bool
  /-- degrees C -/
  maxTemp : α
  temperatures : List κ

variable {α κ : Type} [Scalar α] [Cell κ] [PerCore α κ]

namespace Run

/-- A phase of this run; its fault leaves the run as it is. -/
def orHalt {β : Type} (r : Run α κ) (x : Result α β) : Except (Halt α κ) β :=
  x.mapError fun fault => ⟨fault, r⟩

omit [Scalar α] [Cell κ] [PerCore α κ] in
@[simp] theorem orHalt_ok {β : Type} (r : Run α κ) (x : β) : r.orHalt (.ok x) = .ok x := rfl

omit [Scalar α] [Cell κ] [PerCore α κ] in
@[simp] theorem orHalt_error {β : Type} (r : Run α κ) (fault : Fault α) :
    r.orHalt (.error fault : Result α β) = .error ⟨fault, r⟩ := rfl

omit [Cell κ] [PerCore α κ] in
/-- Operations of one tick at the clock in effect. -/
def workPerTick (r : Run α κ) : Result α α :=
  r.config.cores * r.clock * giga α * tickSeconds α

omit [Cell κ] [PerCore α κ] in
/-- The cores work. -/
def work (r : Run α κ) : Result α (Run α κ) := do
  let done ← r.workPerTick
  return { r with ops := ← add r.ops done }

omit [Cell κ] [PerCore α κ] in
/-- Watts of one core before the hotspots. -/
def powerPerCore (r : Run α κ) : Result α α :=
  (r.config.maxPower / r.config.cores : Result α α) * (r.clock / r.config.clock : Result α α)

omit [Scalar α] [PerCore α κ] in
/-- The hotspots move. -/
def moveHotspots (r : Run α κ) : Run α κ :=
  { r with hotspots := r.hotspots.map (Hotspot.advance r.grid) }

/-- The cores are heated, each by `power` times its factor. -/
def heat (exp : κ → κ) (power : α) (r : Run α κ) : Result α (Run α κ) := do
  let factors ← powerFactors exp r.grid r.hotspots
  let power ← PerCore.toCell power
  let resistance ← r.config.resistance
  let capacitance ← PerCore.toCell r.config.capacitance
  let ambient ← PerCore.toCell r.config.ambient
  let resistance ← PerCore.toCell resistance
  let dt ← PerCore.toCell (tickSeconds α)
  let temperatures ← integrate ambient resistance capacitance dt r.temperatures
    (factors.map (power * ·))
  return { r with temperatures }

omit [Scalar α] in
/-- The greatest temperature of the cores. -/
def maxTemp (r : Run α κ) : α :=
  PerCore.ofCell (Cell.greatest r.temperatures)

/-- The greatest temperature so far is kept. -/
def notePeak (r : Run α κ) : Result α (Run α κ) := do
  return { r with peak := ← greatest r.peak r.maxTemp }

/-- The clock under throttling at a temperature. -/
def throttledClock (c : Config α) (maxTemp : α) : Result α α := do
  let excess : α ← maxTemp - c.throttleTemp
  let loss : α ← real α 1 - excess * throttleSlope α
  c.clock * (greatest (throttleFloor α) loss : Result α α)

/-- The clock after a cool tick. -/
def recoveredClock (c : Config α) (clock : α) : Result α α := do
  let next : α ← clock + c.clock * recovery α
  least c.clock next

/-- The clock is set for the next tick. -/
def regulate (r : Run α κ) : Result α (Run α κ) := do
  if ← lt r.config.throttleTemp r.maxTemp then
    let clock ← throttledClock r.config r.maxTemp
    let throttleTime : α ← r.throttleTime + tickMillis α
    return { r with clock, throttleTime, throttling := true }
  else
    let clock ← recoveredClock r.config r.clock
    return { r with clock, throttling := false }

omit [Cell κ] [PerCore α κ] in
/-- The tick is counted. -/
def count (r : Run α κ) : Result α (Run α κ) := do
  let clockSum : α ← r.clockSum + r.clock
  return { r with tick := r.tick + 1, clockSum }

/-- One tick. A finished run has none. -/
def step (exp : κ → κ) (r : Run α κ) : Except (Halt α κ) (Run α κ) := do
  if ← r.orHalt r.isDone then .error ⟨.finished, r⟩
  let worked ← r.orHalt r.work
  let power ← worked.orHalt worked.powerPerCore
  let moved := worked.moveHotspots
  let heated ← moved.orHalt (moved.heat exp power)
  let noted ← heated.orHalt heated.notePeak
  let regulated ← noted.orHalt noted.regulate
  regulated.orHalt regulated.count

/-- What a caller sees. -/
def snapshot (r : Run α κ) : Result α (Snapshot α κ) := do
  let elapsed ← r.elapsed
  let progress ← r.progress
  return { tick := r.tick, elapsed, ops := r.ops, progress, clock := r.clock,
           throttling := r.throttling, maxTemp := r.maxTemp, temperatures := r.temperatures }

/-- One tick, and what a caller sees after it. -/
def tickOnce (exp : κ → κ) (r : Run α κ) : Except (Halt α κ) (Snapshot α κ × Run α κ) := do
  let next ← r.step exp
  let seen ← next.orHalt next.snapshot
  return (seen, next)

end Run

end SiliconBench.Gpu
