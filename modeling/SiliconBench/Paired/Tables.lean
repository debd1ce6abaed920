import SiliconBench.Paired.Comparison
import SiliconBench.Scalar.Setting

/-! # Tables — results of a comparison as values

Each result is written as a table that holds all of its figures, so that it can
be kept as JSON. -/

namespace SiliconBench.Paired

open Machine Instructions

/-- Rates of one level. -/
def ratesTable (r : LevelRates Value) : Value :=
  .table [("hit_rate", r.hit), ("miss_rate", r.miss)]

/-- Rates of all levels. -/
def cacheTable (r : CacheRates Value) : Value :=
  .table [("l1", ratesTable r.l1), ("l2", ratesTable r.l2), ("l3", ratesTable r.l3)]

/-- A power split. -/
def powerTable (p : PowerSplit Value) : Value :=
  .table [("dynamic", p.dynamic), ("static", p.static), ("total", p.total)]

/-- A mix, with its total. -/
def mixTable (m : Mix Value) : Result Value Value := do
  return .table [("memory_ops", m.memory), ("non_memory_ops", m.other), ("total", ← m.total),
    ("truncated", m.truncated)]

/-- One side of a comparison. -/
def metricsTable (m : Metrics Value) : Value :=
  .table [("system_name", m.system), ("total_cycles", m.cycles), ("amat", m.accessTime),
    ("ipc", m.ipc), ("power", powerTable m.power), ("operating_temp_c", m.temperature),
    ("throttling_percent", m.throttling), ("cache", cacheTable m.rates),
    ("instruction_count", m.instructions), ("status", .text m.status.word)]

/-- Both sides of a comparison. -/
def outcomeTable (o : Outcome Value) : Result Value Value := do
  return .table [(planarName, metricsTable o.baseline), (stackedName, metricsTable o.stacked),
    ("improvement", o.improvement), ("instruction_mix", ← mixTable o.mix),
    ("access_pattern", .text o.pattern.word), ("instruction_mix_percent", o.mixPercent)]

/-- One row. -/
def rowTable (r : Row Value) : Result Value Value := do
  return .table [("metric", .text r.metric.key), ("label", .text r.metric.label),
    ("baseline", r.baseline), ("stacked", r.stacked), ("improvement_percent", r.improvement),
    ("higher_is_better", .bool r.metric.higherIsBetter), ("verdict", .text (← r.verdict).word)]

/-- The table of rows and its summary. -/
def comparisonTable (c : Comparison Value) : Result Value Value := do
  return .table [("metrics", .list (← each rowTable c.rows)),
    ("summary", .table [("cycle_improvement_percent", c.cycleImprovement),
      ("power_improvement_percent", c.powerImprovement),
      ("temperature_delta_c", c.temperatureChange)])]

end SiliconBench.Paired
