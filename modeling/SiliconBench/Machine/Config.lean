import SiliconBench.Scalar.Basic

/-! # Config — a processor system and what it is made of

A system is a main memory behind three levels of cache, the vias that join
stacked dies, and a thermal path to ambient. Settings are kept AS GIVEN, so that
they can be shown again; whether they make sense is a separate question, which
`validate` asks of each part. A system is STACKED when its vias are enabled:
every hop between dies then costs the latency of a via. -/

namespace SiliconBench.Machine

open Scalar

/-- The name of the planar side of a comparison. -/
def planarName : String := "2D Baseline"

/-- The name of the stacked side of a comparison. -/
def stackedName : String := "3D Stacked"

/-- One level of cache. A level that is not enabled is passed straight through. -/
structure Level (α : Type) where
  enabled : α
  /-- capacity in KB -/
  size : α
  /-- cycles of a hit -/
  latency : α
  /-- ways; for information only -/
  associativity : α

/-- Three levels of cache, from the core outward. -/
structure Caches (α : Type) where
  l1 : Level α
  l2 : Level α
  l3 : Level α

/-- Main memory, off the chip or stacked on it. -/
structure Memory (α : Type) where
  /-- cycles of an access -/
  latency : α
  /-- power in watts, for information only -/
  power : α
  /-- bandwidth in GB/s, for information only -/
  bandwidth : α

/-- The vias through the silicon that join stacked dies. -/
structure Vias (α : Type) where
  enabled : α
  /-- cycles of one hop between dies -/
  latency : α
  /-- energy in fJ per bit, for information only -/
  energy : α

/-- The lumped thermal path of a system. -/
structure Thermal (α : Type) where
  /-- degrees C -/
  ambient : α
  /-- design power of the logic die in watts, for information only -/
  logicPower : α
  /-- design power of the memory dies in watts, for information only -/
  memoryPower : α
  /-- from junction to ambient, in degrees per watt -/
  resistance : α
  /-- degrees C above which the system throttles -/
  limit : α

/-- One system of a comparison. -/
structure Config (α : Type) where
  name : Value
  memory : Memory α
  caches : Caches α
  vias : Vias α
  thermal : Thermal α

variable {α : Type} [Scalar α]

/-- A level must answer in no negative time; size and ways matter only when it is enabled. -/
def Level.validate (l : Level α) : Result α Unit := do
  requireNonNegative "latency_cycles" l.latency
  if isTrue l.enabled then
    requirePositive "size_kb" l.size
    requireOne "associativity" l.associativity

/-- The levels with their names, from the core outward. -/
def Caches.levels (c : Caches α) : List (String × Level α) :=
  [("l1", c.l1), ("l2", c.l2), ("l3", c.l3)]

/-- Every level is valid; the innermost is looked at first. -/
def Caches.validate (c : Caches α) : Result α Unit := do
  c.l1.validate
  c.l2.validate
  c.l3.validate

/-- No figure of the memory is negative. -/
def Memory.validate (m : Memory α) : Result α Unit := do
  requireNonNegative "latency_cycles" m.latency
  requireNonNegative "power_w" m.power
  requireNonNegative "bandwidth_gbps" m.bandwidth

/-- No figure of the vias is negative. -/
def Vias.validate (v : Vias α) : Result α Unit := do
  requireNonNegative "tsv.latency_cycles" v.latency
  requireNonNegative "tsv.power_per_bit_fj" v.energy

/-- Neither powers nor the resistance are negative; temperatures may be anything. -/
def Thermal.validate (t : Thermal α) : Result α Unit := do
  requireNonNegative "tdp_logic_w" t.logicPower
  requireNonNegative "tdp_memory_w" t.memoryPower
  requireNonNegative "thermal_resistance_c_per_w" t.resistance

namespace Config

/-- Every part is valid. -/
def validate (c : Config α) : Result α Unit := do
  c.memory.validate
  c.caches.validate
  c.vias.validate
  c.thermal.validate

/-- Whether the system's dies are stacked. -/
def isStacked (c : Config α) : Bool :=
  isTrue c.vias.enabled

/-- The cycles that one hop between dies adds. -/
def hopLatency (c : Config α) : α :=
  if c.isStacked then c.vias.latency else real α 0

end Config

end SiliconBench.Machine
