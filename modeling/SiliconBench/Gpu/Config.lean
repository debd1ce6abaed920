import SiliconBench.Scalar.Basic

/-! # Config — a graphics processor

The machine under a kernel: cores at a clock, a memory and a second-level cache,
and a thermal path from each core to ambient. Its settings are kept as given but
for the number of cores, which becomes a whole number when the settings are
validated. -/

namespace SiliconBench.Gpu

open Scalar

/-- Settings of a graphics processor. -/
structure Config (α : Type) where
  cores : α
  /-- GHz -/
  clock : α
  /-- GB/s -/
  bandwidth : α
  /-- KB -/
  cacheSize : α
  /-- cycles of a miss -/
  cacheLatency : α
  /-- ways; for information only -/
  cacheWays : α
  /-- factor on the operations of every item -/
  intensity : α
  /-- watts at the base clock -/
  maxPower : α
  /-- degrees per watt -/
  junctionToCase : α
  /-- degrees per watt -/
  caseToAmbient : α
  /-- degrees C above which the clock goes down -/
  throttleTemp : α
  /-- degrees C -/
  ambient : α
  /-- joules per degree, of each core -/
  capacitance : α

variable {α : Type} [Scalar α]

namespace Config

/-- Degrees per watt from a core to ambient. -/
def resistance (c : Config α) : Result α α :=
  c.junctionToCase + c.caseToAmbient

/-- The number of cores as a whole number, which it must be. -/
def wholeCores (c : Config α) : Result α α := do
  let n ← truncate c.cores
  unless isWhole c.cores n do refuse (.coreCount c.cores)
  if ← lt c.cores (whole α 1) then refuse (.coreCount c.cores)
  return whole α n

/-- The settings with a whole number of cores, if all of them make sense. -/
def validate (c : Config α) : Result α (Config α) := do
  let c := { c with cores := ← c.wholeCores }
  requirePositive "clock_ghz" c.clock
  requirePositive "memory_bandwidth_gbps" c.bandwidth
  requirePositive "l2_size_kb" c.cacheSize
  requireNonNegative "l2_latency_cycles" c.cacheLatency
  requireOne "l2_associativity" c.cacheWays
  requireNonNegative "computational_intensity" c.intensity
  requireNonNegative "max_power_w" c.maxPower
  requireNonNegative "junction_to_case_r" c.junctionToCase
  requireNonNegative "case_to_ambient_r" c.caseToAmbient
  requirePositive "total thermal resistance" (← c.resistance)
  requirePositive "thermal_capacitance_j_per_c" c.capacitance
  return c

end Config

end SiliconBench.Gpu
