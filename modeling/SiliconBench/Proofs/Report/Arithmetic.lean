import SiliconBench.Instructions.Registers
import SiliconBench.Proofs.Paired.Arithmetic
import SiliconBench.Report.Gpu
import SiliconBench.Report.Paired
import SiliconBench.Report.Registers

/-!
# Arithmetic — what a report can run into

A report lays numbers out and draws bars. It asks for no settings to make sense, so
all it faults with is arithmetic, as long as what it shows as a name is a text.
-/

namespace SiliconBench

open Scalar

variable {P : Fault Value → Prop} [AdmitsArithmetic P]

namespace Report

variable {v w : Value} {places : Nat}

/-! ## Parts -/

@[simp] theorem clamp_faults : Faults P (clamp v) := by
  simp [clamp]

@[simp] theorem bar_faults : Faults P (bar v w) := by
  simp only [bar, Faults.bind_iff, clamp_faults, Value.scalar_mul_faults, Value.truncate_faults,
    Value.repeatCount_faults, Value.number_faults, true_and]
  intro _ _ _ _ _ _ _ _ width _
  split <;> simp

@[simp] theorem signed_faults {suffix : String} : Faults P (signed v suffix) := by
  simp [signed]

@[simp] theorem percentage_faults : Faults P (percentage places v) := by
  simp [percentage]

/-! ## Systems and comparisons -/

section Paired

open Machine Paired

@[simp] theorem levelLine_faults {name : String} {l : Level Value} :
    Faults P (levelLine name l) := by
  simp [levelLine]

@[simp] theorem viasLine_faults {t : Vias Value} : Faults P (viasLine t) := by
  simp [viasLine]

@[simp] theorem machineLines_faults {c : Config Value} : Faults P (machineLines c) := by
  simp [machineLines]

@[simp] theorem metricText_faults {m : Metric} : Faults P (metricText m v) := by
  cases m <;> simp [metricText]

@[simp] theorem rowLine_faults {r : Row Value} : Faults P (rowLine r) := by
  simp [rowLine]

@[simp] theorem tableLines_faults {c : Comparison Value} : Faults P (tableLines c) := by
  simp [tableLines]

@[simp] theorem hitLine_faults {name : String} {a b : LevelRates Value} :
    Faults P (hitLine name a b) := by
  simp [hitLine]

@[simp] theorem cycleLine_faults {m : Metrics Value} : Faults P (cycleLine v m) := by
  simp [cycleLine]

omit [AdmitsArithmetic P] in
@[simp] theorem pairedTitle_faults {title : String} : Faults P (pairedTitle (.text title)) := by
  simp [pairedTitle, Value.asText]

@[simp] theorem workloadLines_faults {o : Outcome Value} : Faults P (workloadLines o) := by
  simp [workloadLines]

@[simp] theorem summaryLines_faults {c : Comparison Value} : Faults P (summaryLines c) := by
  simp [summaryLines]

@[simp] theorem systemSection_faults {systems : List (Config Value)} :
    Faults P (systemSection systems) := by
  simp [systemSection]

@[simp] theorem paired_faults {o : Outcome Value} {title : String}
    {systems : List (Config Value)} : Faults P (paired o (.text title) systems) := by
  simp [paired]

end Paired

/-! ## Registers -/

section Registers

variable {register : Value × Value} {row : List (Value × Value)}

@[simp] theorem registerText_faults : Faults P (registerText register) := by
  simp [registerText]

@[simp] theorem registerRow_faults : Faults P (registerRow row) := by
  simp [registerRow]

@[simp] theorem chunks_faults {β : Type} {xs : List β} : Faults P (chunks w xs) := by
  rw [chunks.eq_def]
  split
  · split
    · simp
    · split <;> simp
  · simp

@[simp] theorem registers_faults {file : List (Value × Value)} : Faults P (registers file w) := by
  simp [registers]

end Registers

/-! ## Processors -/

section Gpu

open Gpu

variable {o : Gpu.Outcome Value Float}

@[simp] theorem processorLines_faults {c : Gpu.Config Value} : Faults P (processorLines c) := by
  simp [processorLines, Gpu.Config.resistance]

@[simp] theorem rampIndex_faults {x : Value} : Faults P (rampIndex v w x) := by
  simp [rampIndex]

@[simp] theorem rampChar_faults {x : Value} : Faults P (rampChar v w x) := by
  simp [rampChar]

@[simp] theorem rampRow_faults {cols : Nat} {xs : List Value} : Faults P (rampRow v w cols xs) := by
  simp [rampRow, rampText]

@[simp] theorem thermalMap_faults {ts : List Value} {cols : Nat} :
    Faults P (thermalMap ts cols v w) := by
  simp [thermalMap]

@[simp] theorem mapLines_faults : Faults P (mapLines o) := by
  simp [mapLines]

@[simp] theorem heatLines_faults : Faults P (heatLines o) := by
  simp [heatLines, Gpu.Outcome.throttleFraction]

/-- The report shows the name of the kernel, which must be a text for that. -/
theorem run_faults {name : String} (hname : o.name = .text name) {withMap : Bool} :
    Faults P (run o withMap) := by
  simp [run, hname, Value.asText]

end Gpu

end Report

/-! ## Random numbers -/

@[simp] theorem Random.ofSeed_faults {n : Int} : Faults P (Random.Stream.ofSeed (.whole n)) := by
  simp [Random.Stream.ofSeed, Random.seedWords]

@[simp] theorem Instructions.registers_faults {n : Int} :
    Faults P (Instructions.registers (.whole n)) := by
  simp [registers, registerValues]

end SiliconBench
