import SiliconBench.Pattern
import SiliconBench.Machine.Config

/-! # AccessTime — how long a memory access takes on average

A level of cache misses the less the larger it is, and the less the friendlier
the access pattern: `4 / size`, times a multiplier of the pattern, and never
more than always. From the memory outward to the core, a level costs its own
latency and, for the accesses it misses, the time of the next level plus the hop
to it; a level that is not enabled is not there. Main memory is reached from the
third level without a hop. -/

namespace SiliconBench.Machine

open Scalar

/-- KB of capacity per unit of inverse miss rate. -/
def capacityUnit (α : Type) [Scalar α] : α := real α 4

/-- How much a pattern scales every miss rate. -/
def missMultiplier (α : Type) [Scalar α] : Pattern → α
  | .sequential => real α 0.1
  | .strided => real α 0.5
  | .random => real α 1

/-- Rates of one level of cache. -/
structure LevelRates (α : Type) where
  hit : α
  miss : α

/-- Rates of all levels. -/
structure CacheRates (α : Type) where
  l1 : LevelRates α
  l2 : LevelRates α
  l3 : LevelRates α

/-- Average access time in cycles, and the rates it comes from. -/
structure AccessTime (α : Type) where
  cycles : α
  rates : CacheRates α

variable {α : Type} [Scalar α]

/-- Whether a level misses every access: it is not enabled, or has no capacity. -/
def Level.isBypassed (l : Level α) : Result α Bool :=
  if isTrue l.enabled then le l.size (whole α 0) else .ok true

/-- The rate at which a level misses. -/
def Level.missRate (l : Level α) (p : Pattern) : Result α α := do
  if ← l.isBypassed then return real α 1
  let base : α ← real α 1 / (l.size / capacityUnit α)
  least (real α 1) (← (base * missMultiplier α p : Result α α))

/-- The same for a pattern that is still to be read. Where the level misses every
access, the pattern is not even looked at. -/
def Level.missRateFor (l : Level α) (pattern : Value) : Result α α := do
  if ← l.isBypassed then return real α 1
  l.missRate (← Pattern.parse pattern)

/-- Cycles that an access costs from a level on. -/
def Level.time (l : Level α) (miss next hop : α) : Result α α :=
  if isTrue l.enabled then l.latency + miss * (next + hop) else .ok next

/-- The rates of a level with a given miss rate. -/
def LevelRates.ofMiss (miss : α) : Result α (LevelRates α) := do
  let hit : α ← real α 1 - miss
  return ⟨hit, miss⟩

namespace Config

/-- The average access time of a system. -/
def accessTime (c : Config α) (p : Pattern) : Result α (AccessTime α) := do
  let hop := c.hopLatency
  let m1 ← c.caches.l1.missRate p
  let m2 ← c.caches.l2.missRate p
  let m3 ← c.caches.l3.missRate p
  let t3 ← c.caches.l3.time m3 c.memory.latency (real α 0)
  let t2 ← c.caches.l2.time m2 t3 hop
  let t1 ← c.caches.l1.time m1 t2 hop
  let l1 ← LevelRates.ofMiss m1
  let l2 ← LevelRates.ofMiss m2
  let l3 ← LevelRates.ofMiss m3
  return ⟨t1, ⟨l1, l2, l3⟩⟩

end Config

end SiliconBench.Machine
