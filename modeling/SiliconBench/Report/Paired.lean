import SiliconBench.Paired.Comparison
import SiliconBench.Report.Machine
import SiliconBench.Text.Upper

/-! # Paired — a comparison in words -/

namespace SiliconBench.Report

open Scalar Machine Paired

/-- How the values of a metric are laid out. -/
def metricText (m : Metric) (v : Value) : Result Value String :=
  match m with
  | .cycles => v.fixedGrouped 0
  | .accessTime => v.fixed 2
  | .ipc => v.fixed 2
  | .power => v.fixed 3
  | .temperature => v.fixed 1
  | .throttling => v.fixed 1

/-- The mark of a verdict. -/
def mark : Verdict → String
  | .better => "+"
  | .worse => "-"
  | .same => " "

/-- The line of a row. -/
def rowLine (r : Row Value) : Result Value String := do
  let verdict ← r.verdict
  return "    " ++ Text.left 24 r.metric.label ++ " " ++
    Text.right 14 (← metricText r.metric r.baseline) ++ " " ++
    Text.right 14 (← metricText r.metric r.stacked) ++ " " ++
    Text.right 10 (← r.improvement.fixed 1) ++ "% " ++ mark verdict

/-- The table of a comparison. -/
def tableLines (c : Comparison Value) : Result Value (List String) := do
  let rule := "  " ++ Text.repeated '-' 76
  let head := "    " ++ Text.left 24 "Metric" ++ " " ++ Text.right 14 "2D Baseline" ++ " " ++
    Text.right 14 "3D Stacked" ++ " " ++ Text.right 12 "Improvement"
  return [rule, head, rule] ++ (← each rowLine c.rows) ++ [rule]

/-- The table of a comparison in words. -/
def table (c : Comparison Value) : Result Value String := do
  return page (← tableLines c)

/-- The line of a level's hit rates. -/
def hitLine (name : String) (b s : LevelRates Value) : Result Value String := do
  return "    " ++ Text.left 8 name ++ " " ++ Text.right 11 (← percentage 1 b.hit) ++ "% " ++
    Text.right 11 (← percentage 1 s.hit) ++ "%"

/-- The line of a system's cycles, with a bar. -/
def cycleLine (most : Value) (m : Metrics Value) : Result Value String := do
  let fraction ← if ← lt (.whole 0) most then div m.cycles most else .ok (.real 0.0)
  let name ← m.system.columnText
  return "    " ++ Text.left 12 name ++ " [" ++ (← bar fraction (.whole barWidth)) ++ "] " ++
    (← m.cycles.fixedGrouped 0)

/-- The title of the report on a program; the program may have no name. -/
def pairedTitle (program : Value) : Result Value String := do
  let title := "2D vs 3D CPU BENCHMARK"
  if program.isTrue then return title ++ ": " ++ Text.upper (← program.asText)
  else return title

/-- The lines on what was run. -/
def workloadLines (o : Outcome Value) : Result Value (List String) := do
  let counts := "    Instructions:          " ++ (← (← o.mix.total).grouped) ++ " (" ++
    (← o.mix.memory.grouped) ++ " memory, " ++ (← o.mix.other.grouped) ++ " other)"
  let measured := "    Measured Memory Mix:   " ++ (← percentage 1 (← o.mix.memoryRatio)) ++ "%"
  let modelled := "    Modeled Memory Mix:    " ++ (← o.mixPercent.fixed 1) ++ "%"
  return ["  Workload:", counts, measured, modelled,
    "    Access Pattern:        " ++ o.pattern.word,
    "    Status:                " ++ o.status.word] ++
    (if o.mix.truncated.isTrue then
      ["    ! Instruction cap reached, remaining lines were not counted"] else []) ++ [""]

/-- The lines that sum a comparison up. -/
def summaryLines (c : Comparison Value) : Result Value (List String) := do
  return ["  Summary:",
    "    Performance Gain:      " ++ (← signed c.cycleImprovement "%") ++ " (fewer cycles)",
    "    Power Efficiency:      " ++ (← signed c.powerImprovement "%") ++ " (lower total power)",
    "    Temperature Change:    " ++ (← signed c.temperatureChange "C") ++ " (3D vs 2D)", ""]

/-- The part of a report that shows the systems, if there are any. -/
def systemSection (systems : List (Config Value)) : Result Value (List String) := do
  if systems.isEmpty then return []
  else return ["  Systems:"] ++ (← each machineLines systems).flatten ++ [""]

/-- The report on a comparison; the systems themselves may be left out. -/
def paired (o : Outcome Value) (program : Value) (systems : List (Config Value)) :
    Result Value String := do
  let c ← o.compare
  let title ← pairedTitle program
  let systems ← systemSection systems
  let workload ← workloadLines o
  let summary ← summaryLines c
  let rows ← tableLines c
  let hits := [← hitLine "L1" o.baseline.rates.l1 o.stacked.rates.l1,
    ← hitLine "L2" o.baseline.rates.l2 o.stacked.rates.l2,
    ← hitLine "L3" o.baseline.rates.l3 o.stacked.rates.l3]
  let most ← greatest o.baseline.cycles o.stacked.cycles
  let cycles := [← cycleLine most o.baseline, ← cycleLine most o.stacked]
  return page (banner title ++ systems ++ workload ++ summary ++
    ["  Metric Comparison:"] ++ rows ++ [""] ++
    ["  Cache Hit Rates:", "    " ++ Text.left 8 "Level" ++ " " ++ Text.right 12 "2D Baseline" ++
      " " ++ Text.right 12 "3D Stacked"] ++ hits ++ [""] ++
    ["  Total Cycles:"] ++ cycles ++ [""])

end SiliconBench.Report
