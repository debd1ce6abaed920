import SiliconBench.Gpu.Cell

/-! # Thermal — the heating of a core

A core is one thermal mass behind one resistance. A step of length `dt` adds the
heat of its power and takes away the heat that flows to ambient, both at the
temperature at the START of the step. That is stable only while `dt` is less
than twice the time constant; a longer step would make every deviation grow, and
is refused. -/

namespace SiliconBench.Gpu

open Scalar Cell

variable {α κ : Type}

section Integration

variable [Cell κ]

/-- The temperature of a core after a step. -/
def heatStep (ambient resistance capacitance dt : κ) (t power : κ) : Result α κ := do
  let generated := (← quotient power capacitance) * dt
  let dissipated := (← quotient (← quotient (t - ambient) resistance) capacitance) * dt
  return t + generated - dissipated

/-- The temperatures of all cores after a step. -/
def integrate (ambient resistance capacitance dt : κ) (temperatures powers : List κ) :
    Result α (List κ) :=
  eachPair (heatStep ambient resistance capacitance dt) temperatures powers

end Integration

variable [Scalar α]

/-- The step over the time constant. -/
def stepRatio (resistance capacitance dt : α) : Result α α :=
  dt / (resistance * capacitance : Result α α)

/-- The bound below which a step is stable. -/
def stableRatio (α : Type) [Scalar α] : α := real α 2

/-- Refuses a step that is too long for the time constant. -/
def requireStable (resistance capacitance dt : α) : Result α Unit := do
  let ratio ← stepRatio resistance capacitance dt
  if ← le (stableRatio α) ratio then
    let constant ← (resistance * capacitance : Result α α) >>= toReal
    let milliseconds ← (dt * whole α 1000 : Result α α) >>= toReal
    let bound : α ← dt / stableRatio α
    refuse (.unstable constant milliseconds bound)

end SiliconBench.Gpu
