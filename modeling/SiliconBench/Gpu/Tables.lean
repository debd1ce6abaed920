import SiliconBench.Gpu.CellKinds
import SiliconBench.Gpu.Outcome
import SiliconBench.Gpu.Settings

/-! # Tables — runs as values -/

namespace SiliconBench.Gpu

/-- An array of doubles. -/
def cellList (xs : List Float) : Value :=
  .list (xs.map .real)

/-- A natural number. -/
def natural (n : Nat) : Value :=
  .whole n

/-- A snapshot; the temperatures of the cores may be left out. -/
def snapshotTable (withTemperatures : Bool) (s : Snapshot Value Float) : Value :=
  .table ([("tick", natural s.tick), ("elapsed_ms", s.elapsed), ("ops_completed", s.ops),
      ("progress", s.progress), ("clock_ghz", s.clock), ("is_throttling", .bool s.throttling),
      ("max_temp_c", s.maxTemp)] ++
    if withTemperatures then [("temperatures", cellList s.temperatures)] else [])

/-- An outcome. -/
def outcomeTable (o : Outcome Value Float) : Value :=
  .table [("benchmark", o.name), ("config", o.config.toValue),
    ("access_pattern", .text o.pattern.word), ("theoretical_tflops", o.peakRate),
    ("timing", .table [("kernel_time_ms", o.figures.kernelTime),
      ("compute_time_ms", o.figures.computeTime), ("memory_time_ms", o.figures.memoryTime),
      ("is_memory_bound", .bool o.memoryBound)]),
    ("memory", .table [("l2_hit_rate", o.figures.hitRate),
      ("throughput_gbps", o.figures.throughput)]),
    ("thermal", .table [("peak_temp_c", o.peakTemp), ("avg_clock_ghz", o.figures.averageClock),
      ("throttle_time_ms", o.throttleTime), ("estimated_power_w", o.power),
      ("utilization", o.figures.utilization),
      ("grid", .table [("cols", natural o.cols), ("rows", natural o.rows)]),
      ("core_temperatures", cellList o.temperatures)]),
    ("tick_count", natural o.ticks), ("status", .text o.figures.status.word)]

/-- The hotspots of a run, property by property. -/
def hotspotTable (hs : List (Hotspot Float)) : Value :=
  .table [("count", natural hs.length), ("x", cellList (hs.map (·.x))),
    ("y", cellList (hs.map (·.y))), ("vx", cellList (hs.map (·.vx))),
    ("vy", cellList (hs.map (·.vy))), ("intensity", cellList (hs.map (·.intensity)))]

end SiliconBench.Gpu
