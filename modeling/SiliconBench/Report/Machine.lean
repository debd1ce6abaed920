import SiliconBench.Machine.Settings
import SiliconBench.Report.Parts

/-! # Machine — a processor system in words -/

namespace SiliconBench.Report

open Machine

/-- The line of a level of cache. -/
def levelLine (name : String) (l : Level Value) : Result Value String := do
  let label := "    " ++ name ++ ":                "
  if l.enabled.isTrue then
    return label ++ (← l.size.fixed 0) ++ " KB, " ++ (← l.latency.fixed 0) ++ " cycles, " ++
      l.associativity.display ++ "-way"
  else return label ++ "disabled"

/-- The line of the vias. -/
def viasLine (v : Vias Value) : Result Value String := do
  if v.enabled.isTrue then
    return "    TSV:               " ++ (← v.latency.fixed 0) ++ " cycle hop, " ++
      (← v.energy.fixed 1) ++ " fJ/bit"
  else return "    TSV:               none"

/-- A system as an indented block. -/
def machineLines (c : Config Value) : Result Value (List String) := do
  let memory := "    Main Memory:       " ++ (← c.memory.latency.fixed 0) ++ " cycles, " ++
    (← c.memory.bandwidth.fixed 1) ++ " GB/s, " ++ (← c.memory.power.fixed 1) ++ " W"
  let l1 ← levelLine "L1" c.caches.l1
  let l2 ← levelLine "L2" c.caches.l2
  let l3 ← levelLine "L3" c.caches.l3
  let vias ← viasLine c.vias
  let thermal := "    Thermal:           " ++ (← c.thermal.ambient.fixed 0) ++ "C ambient, " ++
    (← c.thermal.resistance.fixed 2) ++ " C/W, limit " ++ (← c.thermal.limit.fixed 0) ++ "C"
  return ["  " ++ c.name.display ++ ":", memory, l1, l2, l3, vias, thermal]

/-- A system in words. -/
def machine (c : Config Value) : Result Value String := do
  return page (← machineLines c)

end SiliconBench.Report
