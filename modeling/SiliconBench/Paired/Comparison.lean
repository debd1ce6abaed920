import SiliconBench.Paired.Benchmark

/-! # Comparison — the two systems metric by metric

Every metric has a direction in which it is better. The improvement of a row is
the relative change toward that direction, in percent of the baseline's
MAGNITUDE, so that its sign means the same for negative temperatures too; a row
whose baseline is zero improves by nothing. Changes of at most a hundredth of a
percent do not count. -/

namespace SiliconBench.Paired

open Scalar

/-- What is compared. -/
inductive Metric where
  | cycles
  | accessTime
  | ipc
  | power
  | temperature
  | throttling
  deriving DecidableEq, Repr

namespace Metric

/-- The metrics in the order of the table. -/
def all : List Metric := [.cycles, .accessTime, .ipc, .power, .temperature, .throttling]

/-- The key of a metric. -/
def key : Metric → String
  | .cycles => "total_cycles"
  | .accessTime => "amat"
  | .ipc => "ipc"
  | .power => "power_total"
  | .temperature => "operating_temp"
  | .throttling => "throttling_percent"

/-- The label of a metric. -/
def label : Metric → String
  | .cycles => "Total Cycles"
  | .accessTime => "AMAT (Cycles)"
  | .ipc => "IPC"
  | .power => "Total Power (Watts)"
  | .temperature => "Operating Temp (C)"
  | .throttling => "Throttling (%)"

/-- Whether more is better. -/
def higherIsBetter : Metric → Bool
  | .ipc => true
  | _ => false

/-- The value of a metric. -/
def value {α : Type} (m : Metrics α) : Metric → α
  | .cycles => m.cycles
  | .accessTime => m.accessTime
  | .ipc => m.ipc
  | .power => m.power.total
  | .temperature => m.temperature
  | .throttling => m.throttling

end Metric

/-- Who is better. -/
inductive Verdict where
  | better
  | worse
  | same
  deriving DecidableEq, Repr

namespace Verdict

/-- The word for a verdict. -/
def word : Verdict → String
  | .better => "better"
  | .worse => "worse"
  | .same => "same"

end Verdict

variable {α : Type} [Scalar α]

/-- The change from the baseline toward the better direction, in percent. -/
def relativeImprovement (baseline stacked : α) (higherIsBetter : Bool) : Result α α := do
  if isWhole baseline 0 then return real α 0
  let gain : α ← if higherIsBetter then stacked - baseline else baseline - stacked
  let scale ← abs baseline
  (gain / scale : Result α α) * real α 100

/-- One row of the table. -/
structure Row (α : Type) where
  metric : Metric
  baseline : α
  stacked : α
  /-- percent, positive when the stacked system is better -/
  improvement : α

namespace Row

/-- The row of a metric. -/
def of (o : Outcome α) (m : Metric) : Result α (Row α) := do
  let baseline := m.value o.baseline
  let stacked := m.value o.stacked
  return ⟨m, baseline, stacked, ← relativeImprovement baseline stacked m.higherIsBetter⟩

/-- Changes up to this many percent, in either direction, do not count. -/
def tolerance (α : Type) [Scalar α] : α := real α 0.01

/-- Who is better in this row. -/
def verdict (r : Row α) : Result α Verdict := do
  if ← lt (tolerance α) r.improvement then return .better
  if ← lt r.improvement (real α (-0.01)) then return .worse
  return .same

end Row

/-- The table and what it comes to. -/
structure Comparison (α : Type) where
  rows : List (Row α)
  cycleImprovement : α
  powerImprovement : α
  temperatureChange : α

/-- The percentage of power saved; none where the baseline has no power. -/
def powerImprovement (baseline stacked : Metrics α) : Result α α := do
  if ← le baseline.power.total (whole α 0) then return real α 0
  (baseline.power.total - stacked.power.total : Result α α) / baseline.power.total * real α 100

namespace Outcome

/-- Both systems metric by metric. -/
def compare (o : Outcome α) : Result α (Comparison α) := do
  let rows ← each (Row.of o) Metric.all
  let power ← powerImprovement o.baseline o.stacked
  let change : α ← o.stacked.temperature - o.baseline.temperature
  return ⟨rows, o.improvement, power, change⟩

end Outcome

namespace Comparison

/-- The row of the metric with a given key. -/
def row (c : Comparison α) (name : Value) : Result α (Row α) :=
  let found :=
    match name with
    | .text key => c.rows.find? fun r => r.metric.key == key
    | _ => none
  match found with
  | some r => .ok r
  | none => .error (.noRow name)

end Comparison

end SiliconBench.Paired
