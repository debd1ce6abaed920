import SiliconBench.Gpu.Config
import SiliconBench.Scalar.Setting
import SiliconBench.Value.Fields

/-! # Settings — graphics processors as tables -/

namespace SiliconBench.Gpu.Config

open Value

/-- The keys of the settings. -/
def keys : List String :=
  ["cores", "clock_ghz", "memory_bandwidth_gbps", "l2_size_kb", "l2_latency_cycles",
    "l2_associativity", "computational_intensity", "max_power_w", "junction_to_case_r",
    "case_to_ambient_r", "throttle_temp_c", "ambient_temp_c", "thermal_capacitance_j_per_c"]

/-- What the settings are when nothing is said of them. -/
def default : Config Value :=
  { cores := .whole 1024, clock := .real 1.5, bandwidth := .real 512.0, cacheSize := .real 4096.0,
    cacheLatency := .real 20.0, cacheWays := .whole 16, intensity := .real 1.0,
    maxPower := .real 250.0, junctionToCase := .real 0.2, caseToAmbient := .real 0.15,
    throttleTemp := .real 90.0, ambient := .real 25.0, capacitance := .real 4.0 }

/-- The processor that is simulated when none is described. -/
def preset : Config Value :=
  { cores := .whole 1024, clock := .real 1.5, bandwidth := .whole 512, cacheSize := .whole 4096,
    cacheLatency := .whole 20, cacheWays := .whole 16, intensity := .real 1.0,
    maxPower := .whole 250, junctionToCase := .real 0.2, caseToAmbient := .real 0.15,
    throttleTemp := .whole 90, ambient := .whole 25, capacitance := .whole 4 }

/-- Settings with the given fields in place of those of others. -/
def overlay (es : List (String × Value)) (c : Config Value) : Config Value :=
  { cores := entryOr es "cores" c.cores
    clock := entryOr es "clock_ghz" c.clock
    bandwidth := entryOr es "memory_bandwidth_gbps" c.bandwidth
    cacheSize := entryOr es "l2_size_kb" c.cacheSize
    cacheLatency := entryOr es "l2_latency_cycles" c.cacheLatency
    cacheWays := entryOr es "l2_associativity" c.cacheWays
    intensity := entryOr es "computational_intensity" c.intensity
    maxPower := entryOr es "max_power_w" c.maxPower
    junctionToCase := entryOr es "junction_to_case_r" c.junctionToCase
    caseToAmbient := entryOr es "case_to_ambient_r" c.caseToAmbient
    throttleTemp := entryOr es "throttle_temp_c" c.throttleTemp
    ambient := entryOr es "ambient_temp_c" c.ambient
    capacitance := entryOr es "thermal_capacitance_j_per_c" c.capacitance }

/-- Builds and validates settings. -/
def ofValue (v : Value) : Result Value (Config Value) := do
  let es ← knownEntries "GpuConfig" keys v
  (overlay es default).validate

/-- Writes settings as a table. -/
def toValue (c : Config Value) : Value :=
  .table [("cores", c.cores), ("clock_ghz", c.clock), ("memory_bandwidth_gbps", c.bandwidth),
    ("l2_size_kb", c.cacheSize), ("l2_latency_cycles", c.cacheLatency),
    ("l2_associativity", c.cacheWays), ("computational_intensity", c.intensity),
    ("max_power_w", c.maxPower), ("junction_to_case_r", c.junctionToCase),
    ("case_to_ambient_r", c.caseToAmbient), ("throttle_temp_c", c.throttleTemp),
    ("ambient_temp_c", c.ambient), ("thermal_capacitance_j_per_c", c.capacitance)]

/-- A validated copy with some fields replaced; a field that does not exist is a fault. -/
def override (es : List (String × Value)) (c : Config Value) : Result Value (Config Value) :=
  match unknownKeys keys es with
  | [] => (overlay es c).validate
  | name :: _ => .error (.unknownArgument name)

/-- Changes one field and asks nothing. -/
def edit (key : String) (v : Value) (c : Config Value) : Config Value :=
  overlay [(key, v)] c

end SiliconBench.Gpu.Config
