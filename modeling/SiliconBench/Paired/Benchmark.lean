import SiliconBench.Instructions.Mix
import SiliconBench.Status
import SiliconBench.Machine.AccessTime
import SiliconBench.Machine.Power

/-! # Benchmark — one program on two systems

The two systems of a comparison see the SAME instruction stream, the same access
pattern and the same share of memory instructions, so that whatever differs in
the results differs because the systems do. The benchmark goes by stages:
`countProgram` counts the program's instructions, `modelledPercent` settles the
share of memory instructions, `simulate` evaluates one system, and `join` puts
both sides together. `run` is all of them in a row. -/

namespace SiliconBench.Paired

open Scalar Instructions Machine

/-- What one system makes of a program. -/
structure Metrics (α : Type) where
  system : Value
  /-- cycles, with what throttling costs -/
  cycles : α
  /-- average cycles of a memory access -/
  accessTime : α
  /-- instructions per cycle -/
  ipc : α
  power : PowerSplit α
  /-- degrees C -/
  temperature : α
  /-- percent -/
  throttling : α
  rates : CacheRates α
  instructions : α
  status : Status

/-- Both sides of a comparison. -/
structure Outcome (α : Type) where
  baseline : Metrics α
  stacked : Metrics α
  /-- percent of the baseline's cycles that the stacked system saves -/
  improvement : α
  mix : Mix α
  pattern : Pattern
  /-- percent of instructions that were taken to reach memory -/
  mixPercent : α

variable {α : Type} [Scalar α]

/-- How a run over a stream ends. -/
def statusOf (total : α) (mix : Mix α) : Status :=
  if isWhole total 0 then .degenerate
  else if isTrue mix.truncated then .budgetExceeded
  else .completed

/-- A system evaluated on a stream of which the fraction `ratio` is taken to reach memory. -/
def evaluate (growth : α → Result α α) (c : Config α) (mix : Mix α) (p : Pattern) (ratio : α)
    (name : Value) : Result α (Metrics α) := do
  let access ← c.accessTime p
  let total ← mix.total
  let e ← estimate growth total ratio access.cycles (.ofStacked c.isStacked) c.thermal
  return { system := name, cycles := e.cycles, accessTime := access.cycles, ipc := e.ipc,
           power := e.power, temperature := e.temperature, throttling := e.throttling,
           rates := access.rates, instructions := total, status := statusOf total mix }

/-- A system validated again, since its settings may have been changed, and evaluated. -/
def simulate (growth : α → Result α α) (c : Config α) (mix : Mix α) (p : Pattern) (ratio : α)
    (name : Value) : Result α (Metrics α) := do
  c.validate
  evaluate growth c mix p ratio name

/-- The same for a pattern that is still to be read, and under the system's own
name unless another is given. -/
def simulateNamed (growth : α → Result α α) (c : Config α) (mix : Mix α) (pattern : Value)
    (ratio : α) (name : Value) : Result α (Metrics α) := do
  c.validate
  let p ← Pattern.parse pattern
  simulate growth c mix p ratio (if name.isTrue then name else c.name)

/-- Counts the instructions of a program up to a cap. -/
def countProgram (program : List Char) (cap : α) : Result α Counts :=
  count cap (parse program)

/-- The percentage of memory instructions to go by: the given one, or the one measured. -/
def modelledPercent (mix : Mix α) (given : Option α) : Result α α :=
  match given with
  | none => do
    let measured ← mix.memoryRatio
    measured * real α 100
  | some m => do
    let x ← toReal m
    unless (← le (real α 0) x) && (← le x (real α 100)) do refuse (.mixPercent m)
    return x

/-- The percentage of cycles saved; none where the baseline has no cycles. -/
def cycleImprovement (baseline stacked : α) : Result α α := do
  if ← le baseline (whole α 0) then return real α 0
  (baseline - stacked : Result α α) / baseline * real α 100

/-- Both sides put together. -/
def join (baseline stacked : Metrics α) (mix : Mix α) (p : Pattern) (percent : α) :
    Result α (Outcome α) := do
  let improvement ← cycleImprovement baseline.cycles stacked.cycles
  return ⟨baseline, stacked, improvement, mix, p, percent⟩

/-- The whole benchmark: systems `a` and `b` on one program. -/
def run (growth : α → Result α α) (a b : Config α) (program : List Char) (p : Pattern)
    (given : Option α) (cap : α) : Result α (Outcome α) := do
  let counts ← countProgram program cap
  let mix : Mix α := counts.toMix
  let percent ← modelledPercent mix given
  let ratio : α ← percent / real α 100
  let baseline ← simulate growth a mix p ratio (.text planarName)
  let stacked ← simulate growth b mix p ratio (.text stackedName)
  join baseline stacked mix p percent

namespace Outcome

/-- How the comparison ended: as its baseline did. -/
def status (o : Outcome α) : Status := o.baseline.status

end Outcome

end SiliconBench.Paired
