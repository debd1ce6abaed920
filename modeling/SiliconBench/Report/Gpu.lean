import SiliconBench.Gpu.Tables
import SiliconBench.Report.ThermalMap
import SiliconBench.Text.Upper

/-! # Gpu — a run in words -/

namespace SiliconBench.Report

open Scalar SiliconBench.Gpu

/-- A graphics processor as an indented block. -/
def processorLines (c : Config Value) : Result Value (List String) := do
  let cores := "    Cores:             " ++ (← c.cores.grouped) ++ " @ " ++ (← c.clock.fixed 2) ++
    " GHz"
  let bandwidth := "    Memory Bandwidth:  " ++ (← c.bandwidth.fixed 0) ++ " GB/s"
  let cache := "    L2 Cache:          " ++ (← c.cacheSize.fixed 0) ++ " KB, " ++
    (← c.cacheLatency.fixed 0) ++ " cycles, " ++ c.cacheWays.display ++ "-way"
  let power := "    Max Power:         " ++ (← c.maxPower.fixed 0) ++ " W"
  let thermal := "    Thermal:           " ++ (← c.ambient.fixed 0) ++ "C ambient, " ++
    (← (← c.resistance).fixed 2) ++ " C/W, throttle at " ++ (← c.throttleTemp.fixed 0) ++ "C"
  return ["  GPU Configuration:", cores, bandwidth, cache, power, thermal]

/-- A graphics processor in words. -/
def processor (c : Config Value) : Result Value String := do
  return page (← processorLines c)

/-- The greatest of some temperatures: the first of them, unless a later one is above it. -/
def hottest : List Float → Float
  | [] => 0.0
  | t :: rest => rest.foldl (fun most x => if most < x then x else most) t

/-- The picture of the cores in its frame, with a legend. -/
def mapLines (o : Outcome Value Float) : Result Value (List String) := do
  let low := o.config.ambient
  let high ← greatest (.real (hottest o.temperatures)) o.config.throttleTemp
  let legend := "  Core Temperatures (" ++ toString o.cols ++ "x" ++ toString o.rows ++
    " grid, '.' = " ++ (← low.fixed 0) ++ "C ... '@' = " ++ (← high.fixed 0) ++ "C):"
  let edge := "    +" ++ Text.repeated '-' o.cols ++ "+"
  let rows ← thermalMap (o.temperatures.map Value.real) o.cols low high
  return [legend, edge] ++ rows.map (fun row => "    |" ++ row ++ "|") ++ [edge, ""]

/-- The lines on heat and power. -/
def heatLines (o : Outcome Value Float) : Result Value (List String) := do
  let peak := "    Peak Temperature:      " ++ (← o.peakTemp.fixed 2) ++ "C"
  let share ← div o.figures.averageClock o.config.clock
  let clock := "    Average Clock:         " ++ (← o.figures.averageClock.fixed 3) ++ " GHz (" ++
    (← percentage 0 share) ++ "% of base)"
  let throttled := "    Throttled Time:        " ++ (← o.throttleTime.fixed 0) ++ " ms (" ++
    (← percentage 0 (← o.throttleFraction)) ++ "%)"
  let power := "    Estimated Power:       " ++ (← o.power.fixed 1) ++ " W"
  let load := "    Core Utilization:      [" ++ (← bar o.figures.utilization (.whole barWidth)) ++
    "] " ++ (← percentage 0 o.figures.utilization) ++ "%"
  return ["  Thermal / Power:", peak, clock, throttled, power, load, ""]

/-- The report on a run; the picture of the cores may be left out. -/
def run (o : Outcome Value Float) (withMap : Bool) : Result Value String := do
  let name ← o.name.asText
  let processor ← processorLines o.config
  let peak := "    Theoretical Peak:  " ++ (← o.peakRate.fixed 2) ++ " TFLOPs"
  let f := o.figures
  let timing := ["  Timing:",
    "    Kernel Time:           " ++ (← f.kernelTime.fixed 1) ++ " ms",
    "    Compute Time:          " ++ (← f.computeTime.fixed 3) ++ " ms",
    "    Memory Time:           " ++ (← f.memoryTime.fixed 3) ++ " ms",
    "    Bottleneck:            " ++ (if o.memoryBound then "memory" else "compute"), ""]
  let memory := ["  Memory:",
    "    L2 Hit Rate:           " ++ (← percentage 1 f.hitRate) ++ "%",
    "    Effective Throughput:  " ++ (← f.throughput.fixed 2) ++ " GB/s", ""]
  let heat ← heatLines o
  let map ← if withMap && !o.temperatures.isEmpty then mapLines o else .ok []
  return page (banner ("GPU KERNEL SIMULATION: " ++ Text.upper name) ++ processor ++ [peak, ""] ++
    ["  Run:", "    Access Pattern:        " ++ o.pattern.word,
      "    Ticks:                 " ++ Decimal.groupedNat o.ticks,
      "    Status:                " ++ f.status.word, ""] ++
    timing ++ memory ++ heat ++ map)

end SiliconBench.Report
