import SiliconBench.Command.Options
import SiliconBench.Command.Script
import SiliconBench.Gpu.Draw
import SiliconBench.Gpu.Tables
import SiliconBench.Kernel.Catalog
import SiliconBench.Report.Gpu
import SiliconBench.Value.Writer

/-! # Graphics — the command that runs a kernel

The kernel comes from the catalog or from the arguments, the graphics processor
from a preset or a settings file, with any of its figures replaced by an
argument. The command shows a report or the same as JSON; it can write a line
for every so many ticks. -/

namespace SiliconBench.Command.Graphics

open Scalar SiliconBench.Gpu Script

/-! ## Arguments -/

/-- The forms of output. -/
def formats : List String := ["text", "json"]

/-- The options that replace a figure of the processor by a double, and the figure's key. -/
def figures : List (String × String) :=
  [("clock", "clock_ghz"), ("bandwidth", "memory_bandwidth_gbps"),
    ("intensity", "computational_intensity"), ("max-power", "max_power_w"),
    ("throttle-temp", "throttle_temp_c"), ("ambient", "ambient_temp_c")]

/-- The word for all categories. -/
def allCategories : String := "all"

/-- The options of the command. -/
def options : List Opt :=
  [.help,
    .text "workload" ["--workload", "-w"],
    .choice "pattern" ["--pattern"] (Pattern.all.map Pattern.word),
    .whole "seed" ["--seed"],
    .whole "max-ticks" ["--max-ticks"],
    .real "custom-ops" ["--custom-ops"],
    .real "custom-data" ["--custom-data"],
    .real "custom-items" ["--custom-items"],
    .real "custom-locality" ["--custom-locality"],
    .text "config" ["--config"],
    .whole "cores" ["--cores"],
    .real "clock" ["--clock"],
    .real "bandwidth" ["--bandwidth"],
    .real "intensity" ["--intensity"],
    .real "max-power" ["--max-power"],
    .real "throttle-temp" ["--throttle-temp"],
    .real "ambient" ["--ambient", "-a"],
    .whole "trace" ["--trace"],
    .flag "no-thermal-map" ["--no-thermal-map"],
    .choice "format" ["--format", "-f"] formats,
    ⟨"list-workloads", ["--list-workloads"], .optional allCategories, fun _ => true, []⟩,
    .flag "verbose" ["--verbose", "-v"]]

/-- The files that a command with these options reads. -/
def filesWanted (g : Given) : List String :=
  ["config"].filterMap g.present?

/-! ## What there is to choose from -/

/-- The line of a kernel. -/
def kernelLine (key : String) (w : Kernel.Workload Value) : String :=
  "    " ++ Text.left 30 key ++ " " ++ Text.left 38 w.name.display ++ " locality " ++
    w.locality.shown (Decimal.fixed 2)

/-- The lines of a category. -/
def categoryLines (category : String) (keys : List String) : List String :=
  ["", "  " ++ (Kernel.categoryNames.lookup category).getD category ++ ":"] ++
    keys.filterMap fun key => (Kernel.get? key).map (kernelLine key)

/-- The catalog of kernels, or one category of it. -/
def kernelList (category : String) : List String :=
  "Available GPU workloads:" :: Kernel.grouped.flatMap fun (name, keys) =>
    if category = allCategories ∨ category = name then categoryLines name keys else []

/-! ## The run -/

/-- The part of the log for the simulation. -/
def simulatorPart : String := "chipsim.gpu.simulator"

/-- The kernel of the arguments. -/
def customKernel (g : Given) : Result Value (Kernel.Workload Value) :=
  let fields := [("custom-ops", "ops_per_item"), ("custom-data", "data_per_item_bytes"),
    ("custom-items", "total_items"), ("custom-locality", "locality_factor")]
  Kernel.Workload.ofCustom
    (fields.filterMap fun (key, field) => (g.real? key).map fun x => (field, .real x))

/-- The kernel to run. -/
def loadKernel (g : Given) : Script (Kernel.Workload Value) :=
  let key := (g.last? "workload").getD Kernel.defaultKey
  if key = Kernel.Workload.customKey then lift (customKernel g)
  else
    match Kernel.get? key with
    | some w => return w
    | none => throw (.unknownKernel key)

/-- The figures of the processor that the arguments replace. -/
def replaced (g : Given) : List (String × Value) :=
  let cores := ((g.whole? "cores").map fun n => ("cores", Value.whole n)).toList
  cores ++ figures.filterMap fun (key, field) => (g.real? key).map fun x => (field, .real x)

/-- A processor with the figures of the arguments. -/
def withFigures (g : Given) (base : Config Value) : Result Value (Config Value) :=
  let changes := replaced g
  if changes.isEmpty then .ok base else base.override changes

/-- The processor to run on. -/
def loadProcessor (g : Given) (files : Files) : Script (Config Value) := do
  let base ← match g.present? "config" with
    | some path => do lift (Config.ofValue (← readJson files path))
    | none => pure Config.preset
  lift (withFigures g base)

/-- The line of a tick. -/
def tickLine (s : Snapshot Value Float) : String :=
  let percent := (mul s.progress (.whole 100)).toOption.getD s.progress
  "  tick " ++ Text.right 6 (toString s.tick) ++ " " ++
    Text.right 9 (s.elapsed.shown (Decimal.fixed 0)) ++ " ms " ++
    Text.right 6 (percent.shown (Decimal.fixed 1)) ++ "% " ++
    Text.right 6 (s.clock.shown (Decimal.fixed 3)) ++ " GHz " ++
    Text.right 7 (s.maxTemp.shown (Decimal.fixed 2)) ++ "C" ++ (if s.throttling then "!" else " ")

/-- Runs to the end and writes a line for every tick that is delivered, if any is
asked for. A fault in the middle leaves the lines before it. -/
def drive (trace : Int) (start : Run Value Float) : Script (Run Value Float) := do
  let every : Value := .whole (if trace = 0 then 1 else trace)
  let (lines, ending) := start.deliver Float.exp every (fun lines s => tickLine s :: lines) []
  if trace ≠ 0 then lines.reverse.forM write
  lift (ending.mapError Halt.fault)

/-- What is logged before the run. -/
def logStart (r : Run Value Float) : Script Unit := do
  let bytes ← lift r.workload.totalBytes
  let name := r.workload.name.display
  log .info simulatorPart ("Running GPU benchmark " ++ name ++ ": " ++
    r.requiredOps.shown (Decimal.general 3) ++ " ops, " ++ bytes.shown (Decimal.general 3) ++
    " bytes, " ++ r.pattern.word ++ " access on " ++ countText r.config.cores ++ " cores @ " ++
    r.config.clock.shown (Decimal.fixed 2) ++ " GHz")
  if ← lift r.isDegenerate then
    log .info simulatorPart (name ++ " requires no work, returning zero-time result")

/-- What is logged after the run. -/
def logEnd (o : Outcome Value Float) : Script Unit := do
  log .debug simulatorPart (o.name.display ++ ": " ++ toString o.ticks ++ " ticks, avg clock " ++
    o.figures.averageClock.shown (Decimal.fixed 3) ++ " GHz, peak " ++
    o.peakTemp.shown (Decimal.fixed 2) ++ "C, throttled " ++
    o.throttleTime.shown (Decimal.fixed 0) ++ " ms")
  log .info simulatorPart ("GPU benchmark complete: " ++
    o.figures.kernelTime.shown (Decimal.fixed 1) ++ " ms kernel time (" ++
    (if o.memoryBound then "memory bound" else "compute bound") ++ ")")

/-- Everything up to the outcome. -/
def run (g : Given) (entropy : Nat) (files : Files) : Script (Outcome Value Float) := do
  let kernel ← loadKernel g
  let processor ← loadProcessor g files
  let pattern := (g.last? "pattern").getD Pattern.strided.word
  let seed : Value := .whole ((g.whole? "seed").getD entropy)
  let budget : Value := .whole ((g.whole? "max-ticks").getD defaultBudget)
  let start ← lift (Run.prepare processor kernel (.text pattern) budget
    fun grid => hotspotsOfSeed grid seed)
  logStart start
  let last ← drive ((g.whole? "trace").getD 0) start
  last.warnings.forM fun w => log .warning simulatorPart w.message
  let o ← lift last.outcome
  logEnd o
  return o

/-- The outcome in the form that the arguments ask for. -/
def output (g : Given) (o : Outcome Value Float) : Result Value String := do
  if g.last? "format" = some "json" then return ended [(outcomeTable o).toJsonLines]
  else return ended [← Report.run o (!g.has "no-thermal-map")]

/-- The command; `entropy` is the seed where none is given. -/
def command (entropy : Nat) (args : List String) (files : Files) :
    Except (Fault Value) Ending :=
  match parse options args with
  | .rejected => .ok .rejected
  | .help => .ok .help
  | .accepted g =>
    match Given.present? g "list-workloads" with
    | some category => .ok (.finished (.shown (kernelList category)))
    | none => do
      return .finished (← Finish.ofScript (Given.has g "verbose") (run g entropy files) (output g))

end SiliconBench.Command.Graphics
