import SiliconBench.Machine.Config

/-! # Power — cycles, power and temperature of a system

An instruction that reaches memory takes the average access time, any other one
cycle; memory instructions also take far more energy, less on a stack than off
the chip. Power heats the die and heat feeds leakage, a loop that is cut after
two passes: leakage is taken at the temperature of the DYNAMIC power alone, and
the operating temperature then has both. Above its limit a system throttles and
pays with cycles. The growth of leakage, `1.08 ^ x`, is a parameter, so that a
statement can say what it needs of it. -/

namespace SiliconBench.Machine

open Scalar

/-- How memory is joined to the logic die. -/
inductive Integration where
  /-- off the die, over a bus -/
  | planar
  /-- dies stacked on each other -/
  | stacked
  deriving DecidableEq, Repr

namespace Integration

/-- The word for a way of integration. -/
def word : Integration → String
  | .planar => "2d"
  | .stacked => "3d"

/-- The way of integration with a given word. -/
def ofWord? (w : String) : Option Integration :=
  [planar, stacked].find? fun i => i.word == w

/-- The way of integration of a system. -/
def ofStacked (isStacked : Bool) : Integration :=
  if isStacked then stacked else planar

end Integration

/-- Energy of a memory instruction in pJ. -/
def memoryEnergy (α : Type) [Scalar α] : Integration → α
  | .planar => real α 500
  | .stacked => real α 50

/-- Energy of any other instruction in pJ. -/
def otherEnergy (α : Type) [Scalar α] : α := real α 10

/-- The clock in Hz. -/
def clockRate (α : Type) [Scalar α] : α := real α 2000000000

/-- Leakage at ambient, in watts. -/
def leakageBase (α : Type) [Scalar α] : α := real α 0.5

/-- Degrees above ambient from which on leakage does not grow. -/
def leakageRiseLimit (α : Type) [Scalar α] : α := real α 1000

/-- The most percent that throttling costs. -/
def throttleCap (α : Type) [Scalar α] : α := real α 50

/-- Percent that throttling costs per degree above the limit. -/
def throttleSlope (α : Type) [Scalar α] : α := real α 2

/-- The least cycle count that is divided by. -/
def cycleFloor (α : Type) [Scalar α] : α := real α 0.000000001

/-- Power in watts. -/
structure PowerSplit (α : Type) where
  dynamic : α
  static : α
  total : α

/-- What a system makes of an instruction stream. -/
structure Estimate (α : Type) where
  /-- with what throttling costs -/
  cycles : α
  /-- instructions per cycle, of the throttled cycles -/
  ipc : α
  power : PowerSplit α
  /-- degrees C -/
  temperature : α
  /-- percent of the cycles -/
  throttling : α

variable {α : Type} [Scalar α]

/-- Average energy of an instruction in joules. -/
def energyPerInstruction (ratio : α) (style : Integration) : Result α α := do
  let picojoules : α ← ratio * memoryEnergy α style + (real α 1 - ratio) * otherEnergy α
  picojoules * real α 0.000000000001

/-- Leakage power at a rise above ambient; `growth x` is `1.08 ^ x`. -/
def staticPower (growth : α → Result α α) (rise : α) : Result α α := do
  let r ← least rise (leakageRiseLimit α)
  (leakageBase α : Result α α) * ((r / real α 10 : Result α α) >>= growth)

/-- What throttling costs at a temperature, in percent. -/
def throttlePercent (temperature limit : α) : Result α α := do
  if ← le temperature limit then return real α 0
  least (throttleCap α) (← ((temperature - limit) * throttleSlope α : Result α α))

/-- Instructions per cycle; none for no instructions. -/
def perCycle (instructions cycles : α) : Result α α := do
  if ← le instructions (whole α 0) then return real α 0
  let divisor ← greatest cycles (cycleFloor α)
  instructions / divisor

/-- Cycles of `n` instructions before throttling. -/
def plainCycles (n ratio accessTime : α) : Result α α :=
  n * (real α 1 - ratio) + n * ratio * accessTime

/-- Cycles, power and temperature for a stream of `instructions`, of which the
fraction `ratio` reaches memory. -/
def estimate (growth : α → Result α α) (instructions ratio accessTime : α)
    (style : Integration) (thermal : Thermal α) : Result α (Estimate α) := do
  requireNonNegative "total_instructions" instructions
  requireFraction "memory_ratio" ratio
  requireNonNegative "amat" accessTime
  let n ← toReal instructions
  let plain ← plainCycles n ratio accessTime
  if (← lt (whole α 0) n) && (← le plain (whole α 0)) then
    refuse (.freeMemory accessTime ratio)
  let rate ← perCycle n plain
  let dynamic : α ← energyPerInstruction ratio style * rate * clockRate α
  let warm : α ← thermal.ambient + dynamic * thermal.resistance
  let rise : α ← warm - thermal.ambient
  let static ← staticPower growth rise
  let total : α ← dynamic + static
  let temperature : α ← thermal.ambient + total * thermal.resistance
  let throttling ← throttlePercent temperature thermal.limit
  let cycles : α ←
    if ← lt (whole α 0) throttling then plain * (real α 1 + throttling / real α 100) else .ok plain
  let ipc ← perCycle n cycles
  return { cycles, ipc, power := { dynamic, static, total }, temperature, throttling }

end SiliconBench.Machine
