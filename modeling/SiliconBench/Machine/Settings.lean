import SiliconBench.Scalar.Setting
import SiliconBench.Machine.Config
import SiliconBench.Value.Display
import SiliconBench.Value.Fields

/-! # Settings — systems as tables

`ofValue` builds a part of a system from a table: unknown keys are refused,
missing ones take the defaults, and the part is validated as soon as it is
built. `toValue` writes every field back, so the two are inverse on whatever
`ofValue` accepts. `edit` changes one field and asks nothing. -/

namespace SiliconBench.Machine

open Value

/-! ## One level of cache -/

namespace Level

/-- The keys of a level. -/
def keys : List String := ["enabled", "size_kb", "latency_cycles", "associativity"]

/-- A level of the given figures. -/
def cached (size latency associativity : Int) : Level Value :=
  ⟨.bool true, .whole size, .whole latency, .whole associativity⟩

/-- What a level is when nothing is said of it. -/
def default : Level Value :=
  ⟨.bool true, .real 32.0, .real 4.0, .whole 8⟩

/-- Builds and validates a level. -/
def ofValue (v : Value) : Result Value (Level Value) := do
  let es ← knownEntries "CacheLevelConfig" keys v
  let l : Level Value :=
    { enabled := entryOr es "enabled" default.enabled
      size := entryOr es "size_kb" default.size
      latency := entryOr es "latency_cycles" default.latency
      associativity := entryOr es "associativity" default.associativity }
  l.validate
  return l

/-- Writes a level as a table. -/
def toValue (l : Level Value) : Value :=
  .table [("enabled", l.enabled), ("size_kb", l.size), ("latency_cycles", l.latency),
    ("associativity", l.associativity)]

/-- Changes one field. -/
def edit (key : String) (v : Value) (l : Level Value) : Level Value :=
  match key with
  | "enabled" => { l with enabled := v }
  | "size_kb" => { l with size := v }
  | "latency_cycles" => { l with latency := v }
  | "associativity" => { l with associativity := v }
  | _ => l

end Level

/-! ## The caches -/

namespace Caches

/-- The keys of the caches. -/
def keys : List String := ["l1", "l2", "l3"]

/-- What the caches are when nothing is said of them. -/
def default : Caches Value :=
  ⟨.cached 32 4 8, .cached 256 12 8, .cached 2048 35 16⟩

/-- Puts a level in its place. -/
def put (key : String) (l : Level Value) (c : Caches Value) : Caches Value :=
  match key with
  | "l1" => { c with l1 := l }
  | "l2" => { c with l2 := l }
  | "l3" => { c with l3 := l }
  | _ => c

/-- Builds the levels in the order in which the table gives them. -/
def build : List (String × Value) → Caches Value → Result Value (Caches Value)
  | [], c => .ok c
  | (key, v) :: rest, c => do build rest (put key (← Level.ofValue v) c)

/-- Builds and validates the caches. -/
def ofValue (v : Value) : Result Value (Caches Value) := do
  let es ← tableEntries "CacheHierarchyConfig" v
  let unknown := unknownKeys keys es
  if unknown.isEmpty then build es default
  else refuse (.unknownLevels (sortedNames unknown))

/-- Writes the caches as a table. -/
def toValue (c : Caches Value) : Value :=
  .table (c.levels.map fun (name, l) => (name, l.toValue))

/-- Changes one field of one level. -/
def edit (level key : String) (v : Value) (c : Caches Value) : Caches Value :=
  match level with
  | "l1" => { c with l1 := c.l1.edit key v }
  | "l2" => { c with l2 := c.l2.edit key v }
  | "l3" => { c with l3 := c.l3.edit key v }
  | _ => c

end Caches

/-! ## Main memory -/

namespace Memory

/-- The keys of the memory. -/
def keys : List String := ["latency_cycles", "power_w", "bandwidth_gbps"]

/-- What the memory is when nothing is said of it. -/
def default : Memory Value := ⟨.real 200.0, .real 10.5, .real 25.6⟩

/-- Builds and validates a memory. -/
def ofValue (v : Value) : Result Value (Memory Value) := do
  let es ← knownEntries "MainMemoryConfig" keys v
  let m : Memory Value :=
    { latency := entryOr es "latency_cycles" default.latency
      power := entryOr es "power_w" default.power
      bandwidth := entryOr es "bandwidth_gbps" default.bandwidth }
  m.validate
  return m

/-- Writes a memory as a table. -/
def toValue (m : Memory Value) : Value :=
  .table [("latency_cycles", m.latency), ("power_w", m.power), ("bandwidth_gbps", m.bandwidth)]

/-- Changes one field. -/
def edit (key : String) (v : Value) (m : Memory Value) : Memory Value :=
  match key with
  | "latency_cycles" => { m with latency := v }
  | "power_w" => { m with power := v }
  | "bandwidth_gbps" => { m with bandwidth := v }
  | _ => m

end Memory

/-! ## The vias -/

namespace Vias

/-- The keys of the vias. -/
def keys : List String := ["enabled", "latency_cycles", "power_per_bit_fj"]

/-- What the vias are when nothing is said of them: there are none. -/
def default : Vias Value := ⟨.bool false, .real 0.0, .real 0.0⟩

/-- Builds and validates the vias. -/
def ofValue (v : Value) : Result Value (Vias Value) := do
  let es ← knownEntries "TSVConfig" keys v
  let t : Vias Value :=
    { enabled := entryOr es "enabled" default.enabled
      latency := entryOr es "latency_cycles" default.latency
      energy := entryOr es "power_per_bit_fj" default.energy }
  t.validate
  return t

/-- Writes the vias as a table. -/
def toValue (t : Vias Value) : Value :=
  .table [("enabled", t.enabled), ("latency_cycles", t.latency), ("power_per_bit_fj", t.energy)]

/-- Changes one field. -/
def edit (key : String) (v : Value) (t : Vias Value) : Vias Value :=
  match key with
  | "enabled" => { t with enabled := v }
  | "latency_cycles" => { t with latency := v }
  | "power_per_bit_fj" => { t with energy := v }
  | _ => t

end Vias

/-! ## The thermal path -/

namespace Thermal

/-- The keys of the thermal path. -/
def keys : List String :=
  ["ambient_c", "tdp_logic_w", "tdp_memory_w", "thermal_resistance_c_per_w", "tdp_limit_c"]

/-- What the thermal path is when nothing is said of it. -/
def default : Thermal Value :=
  ⟨.real 25.0, .real 65.0, .real 0.0, .real 0.8, .real 95.0⟩

/-- Builds and validates a thermal path. -/
def ofValue (v : Value) : Result Value (Thermal Value) := do
  let es ← knownEntries "ThermalConfig" keys v
  let t : Thermal Value :=
    { ambient := entryOr es "ambient_c" default.ambient
      logicPower := entryOr es "tdp_logic_w" default.logicPower
      memoryPower := entryOr es "tdp_memory_w" default.memoryPower
      resistance := entryOr es "thermal_resistance_c_per_w" default.resistance
      limit := entryOr es "tdp_limit_c" default.limit }
  t.validate
  return t

/-- Writes a thermal path as a table. -/
def toValue (t : Thermal Value) : Value :=
  .table [("ambient_c", t.ambient), ("tdp_logic_w", t.logicPower),
    ("tdp_memory_w", t.memoryPower), ("thermal_resistance_c_per_w", t.resistance),
    ("tdp_limit_c", t.limit)]

/-- Changes one field. -/
def edit (key : String) (v : Value) (t : Thermal Value) : Thermal Value :=
  match key with
  | "ambient_c" => { t with ambient := v }
  | "tdp_logic_w" => { t with logicPower := v }
  | "tdp_memory_w" => { t with memoryPower := v }
  | "thermal_resistance_c_per_w" => { t with resistance := v }
  | "tdp_limit_c" => { t with limit := v }
  | _ => t

end Thermal

/-! ## The system -/

namespace Config

/-- The keys of a system. -/
def keys : List String := ["name", "main_memory", "cache", "tsv", "thermal"]

/-- What a system is when nothing is said of it. -/
def default : Config Value :=
  { name := .text "system", memory := .default, caches := .default, vias := .default,
    thermal := .default }

/-- The part under a key, or its default. -/
def part {β : Type} (es : List (String × Value)) (key : String)
    (read : Value → Result Value β) (default : β) : Result Value β :=
  match es.lookup key with
  | some v => read v
  | none => .ok default

/-- Builds and validates a system. Its name is whatever the given name is shown as. -/
def ofValue (v : Value) : Result Value (Config Value) := do
  let es ← knownEntries "SystemConfig" keys v
  let memory ← part es "main_memory" Memory.ofValue .default
  let caches ← part es "cache" Caches.ofValue .default
  let vias ← part es "tsv" Vias.ofValue .default
  let thermal ← part es "thermal" Thermal.ofValue .default
  let name := ((es.lookup "name").map fun v => Value.text v.display).getD default.name
  return { name, memory, caches, vias, thermal }

/-- Writes a system as a table. -/
def toValue (c : Config Value) : Value :=
  .table [("name", c.name), ("main_memory", c.memory.toValue), ("cache", c.caches.toValue),
    ("tsv", c.vias.toValue), ("thermal", c.thermal.toValue)]

/-- Changes the field at the end of a path. -/
def edit (path : List String) (v : Value) (c : Config Value) : Config Value :=
  match path with
  | ["name"] => { c with name := v }
  | ["main_memory", key] => { c with memory := c.memory.edit key v }
  | ["cache", level, key] => { c with caches := c.caches.edit level key v }
  | ["tsv", key] => { c with vias := c.vias.edit key v }
  | ["thermal", key] => { c with thermal := c.thermal.edit key v }
  | _ => c

end Config

end SiliconBench.Machine
