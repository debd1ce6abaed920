import SiliconBench.Command.Options
import SiliconBench.Command.Script
import SiliconBench.Instructions.Catalog
import SiliconBench.Instructions.Registers
import SiliconBench.Machine.Leakage
import SiliconBench.Machine.Preset
import SiliconBench.Paired.Tables
import SiliconBench.Report.Paired
import SiliconBench.Report.Registers
import SiliconBench.Value.Writer

/-! # Processor — the command that compares two systems on a program

The program comes from the catalog or from a file, each system from a preset or
from a settings file. The command shows a report or the same as JSON, and logs
what it does on the way. -/

namespace SiliconBench.Command.Processor

open Scalar Machine Paired Script

/-! ## Arguments -/

/-- The forms of output. -/
def formats : List String := ["text", "json"]

/-- The options of the command. -/
def options : List Opt :=
  [.help,
    (Opt.text "program" ["--program", "-p"]).against ["file"],
    (Opt.text "file" ["--file"]).against ["program"],
    .choice "pattern" ["--pattern"] (Pattern.all.map Pattern.word),
    (Opt.real "mix" ["--mix"]).against ["measured"],
    (Opt.flag "measured" ["--measured-mix"]).against ["mix"],
    .whole "cap" ["--max-instructions"],
    .text "planar" ["--config-2d"],
    .text "stacked" ["--config-3d"],
    .real "ambient" ["--ambient", "-a"],
    .real "limit" ["--tdp-limit"],
    .whole "seed" ["--seed"],
    .flag "no-registers" ["--no-registers"],
    .choice "format" ["--format", "-f"] formats,
    .flag "list-programs" ["--list-programs"],
    .flag "list-presets" ["--list-presets"],
    .flag "verbose" ["--verbose", "-v"]]

/-- The files that a command with these options reads. -/
def filesWanted (g : Given) : List String :=
  ["file", "planar", "stacked"].filterMap g.present?

/-! ## What there is to choose from -/

/-- The catalog of programs, category by category. -/
def programList : List String :=
  "Available programs:" :: Instructions.categories.flatMap fun category =>
    ["", "  " ++ category ++ ":"] ++
      (Instructions.catalog.filter fun p => p.category == category).map fun p =>
        "    " ++ Text.left 24 p.key ++ " " ++ p.name

/-- A preset under its key, in words. -/
def presetLines (preset : String × Config Value) : Result Value (List String) := do
  return ["", "  [" ++ preset.1 ++ "]", ← Report.machine preset.2]

/-- The presets, each of them in words. -/
def presetList : Result Value (List String) := do
  return "Available system presets:" :: (← each presetLines presets).flatten

/-! ## The run -/

/-- The part of the log for counting. -/
def mixPart : String := "chipsim.cpu.instruction_mix"

/-- The part of the log for the benchmark. -/
def benchmarkPart : String := "chipsim.cpu.benchmark"

/-- The part of the log for power. -/
def powerPart : String := "chipsim.cpu.power_thermal"

/-- The name and the text of the program. -/
def loadProgram (g : Given) (files : Files) : Script (String × String) :=
  match g.present? "file" with
  | some file => do return (lastPart file, ← read files file (String.ofList (plainPath file)))
  | none =>
    let key := (g.last? "program").getD Instructions.defaultProgram
    match Instructions.program? key with
    | some p => return (p.name, p.code)
    | none => throw (.unknownProgram key)

/-- A system from a settings file, under the given name unless it has one. -/
def readSystem (files : Files) (path name : String) : Script (Config Value) := do
  match ← readJson files path with
  | .table entries =>
    let named := if (entries.lookup "name").isSome then entries
      else entries ++ [("name", .text name)]
    lift (Config.ofValue (.table named))
  | v => throw (.notSystem path v.kindName)

/-- The system of an option, or a preset. -/
def loadSystem (g : Given) (files : Files) (key : String) (preset : Config Value) :
    Script (Config Value) :=
  match g.present? key with
  | some path => readSystem files path preset.name.display
  | none => return preset

/-- A system with the temperatures of the arguments. -/
def withTemperatures (g : Given) (c : Config Value) : Result Value (Config Value) := do
  let ambient := ((g.real? "ambient").map Value.real).getD c.thermal.ambient
  let limit := ((g.real? "limit").map Value.real).getD c.thermal.limit
  let thermal := { c.thermal with ambient, limit }
  if g.has "ambient" || g.has "limit" then thermal.validate
  return { c with thermal }

/-- One system evaluated. -/
def simulateLogged (c : Config Value) (mix : Instructions.Mix Value) (p : Pattern) (ratio : Value)
    (name : String) : Script (Metrics Value) := do
  let m ← lift (simulate leakageGrowth c mix p ratio (.text name))
  let degrees (v : Value) : String := v.shown (Decimal.fixed 1) ++ "C"
  if ← lift (lt (.whole 0) m.throttling) then
    log .debug powerPart ((Integration.ofStacked c.isStacked).word ++ " system at " ++
      degrees m.temperature ++ " exceeds " ++ degrees c.thermal.limit ++ " limit: throttling " ++
      m.throttling.shown (Decimal.fixed 1) ++ "%")
  log .debug benchmarkPart (name ++ ": AMAT=" ++ m.accessTime.shown (Decimal.fixed 3) ++
    " cycles=" ++ m.cycles.shown (Decimal.fixed 1) ++ " IPC=" ++ m.ipc.shown (Decimal.fixed 4) ++
    " T=" ++ degrees m.temperature)
  return m

/-- The access pattern that the arguments ask for. -/
def pattern (g : Given) : Result Value Pattern :=
  Pattern.parse (.text ((g.last? "pattern").getD Pattern.random.word))

/-- The percentage of memory instructions that the arguments give; none if it is to be
measured. -/
def mixGiven (g : Given) : Option Value :=
  if g.has "measured" then none else some (.real ((g.real? "mix").getD 50.0))

/-- How many instructions the arguments let be counted. -/
def cap (g : Given) : Value :=
  .whole ((g.whole? "cap").getD Instructions.defaultCap)

/-- Both systems evaluated and put together. -/
def joinLogged (a b : Config Value) (mix : Instructions.Mix Value) (p : Pattern)
    (percent ratio : Value) : Script (Outcome Value) := do
  let baseline ← simulateLogged a mix p ratio planarName
  let stacked ← simulateLogged b mix p ratio stackedName
  let o ← lift (join baseline stacked mix p percent)
  log .info benchmarkPart ("CPU benchmark complete: " ++ o.improvement.shown (Decimal.fixed 2) ++
    "% cycle improvement")
  return o

/-- The benchmark on a program that was counted. -/
def benchmarkOn (a b : Config Value) (counts : Instructions.Counts) (p : Pattern)
    (given : Option Value) : Script (Outcome Value) := do
  let mix : Instructions.Mix Value := counts.toMix
  let percent ← lift (modelledPercent mix given)
  let ratio ← lift (percent / real Value 100 : Result Value Value)
  let total := counts.memory + counts.other
  log .info benchmarkPart ("Running CPU benchmark: " ++ toString total ++ " instructions (" ++
    toString counts.memory ++ " memory), " ++ p.word ++ " access, " ++
    percent.shown (Decimal.fixed 0) ++ "% memory mix")
  if total = 0 then
    log .info benchmarkPart "Empty instruction stream, returning zero-cost result"
  joinLogged a b mix p percent ratio

/-- The benchmark, stage by stage. -/
def benchmark (a b : Config Value) (program : List Char) (p : Pattern) (given : Option Value)
    (cap : Value) : Script (Outcome Value) := do
  let counts ← lift (countProgram program cap)
  let mix : Instructions.Mix Value := counts.toMix
  (mix.warnings cap).forM fun w => log .warning mixPart w.message
  benchmarkOn a b counts p given

/-- What a run is shown from. -/
structure Shown where
  program : String
  planar : Config Value
  stacked : Config Value
  outcome : Outcome Value

/-- Everything up to the result. -/
def run (g : Given) (files : Files) : Script Shown := do
  let (name, text) ← loadProgram g files
  let a ← loadSystem g files "planar" planar
  let b ← loadSystem g files "stacked" stacked
  let a ← lift (withTemperatures g a)
  let b ← lift (withTemperatures g b)
  let p ← lift (pattern g)
  return ⟨name, a, b, ← benchmark a b text.toList p (mixGiven g) (cap g)⟩

/-! ## Output -/

/-- The result as a table. -/
def resultTable (s : Shown) : Result Value Value := do
  let result ← outcomeTable s.outcome
  let comparison ← s.outcome.compare
  return .table [("program", .text s.program),
    ("systems", .table [("2d", s.planar.toValue), ("3d", s.stacked.toValue)]),
    ("result", result), ("comparison", ← comparisonTable comparison)]

/-- The result in words, with a register file for a seed if there is one. -/
def resultText (s : Shown) (seed : Option Value) : Result Value String := do
  let report ← Report.paired s.outcome (.text s.program) [s.planar, s.stacked]
  match seed with
  | none => return ended [report]
  | some seed =>
    let file ← Instructions.registers seed
    let registers ← Report.registers (file.map fun (name, v) => (.text name, v)) (.whole 4)
    return ended [report, registers]

/-- The result in the form that the arguments ask for. -/
def output (g : Given) (entropy : Nat) (s : Shown) : Result Value String :=
  if g.last? "format" = some "json" then do return ended [(← resultTable s).toJsonLines]
  else
    let seed := .whole ((g.whole? "seed").getD entropy)
    resultText s (if g.has "no-registers" then none else some seed)

/-- The command; `entropy` is the seed where none is given. -/
def command (entropy : Nat) (args : List String) (files : Files) :
    Except (Fault Value) Ending :=
  match parse options args with
  | .rejected => .ok .rejected
  | .help => .ok .help
  | .accepted g => do
    if Given.has g "list-programs" then return .finished (.shown programList)
    else if Given.has g "list-presets" then return .finished (.shown (← presetList))
    else
      return .finished
        (← Finish.ofScript (Given.has g "verbose") (run g files) (output g entropy))

end SiliconBench.Command.Processor
