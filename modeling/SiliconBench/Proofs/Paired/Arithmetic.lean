import SiliconBench.Machine.Leakage
import SiliconBench.Machine.Settings
import SiliconBench.Paired.Tables
import SiliconBench.Proofs.Setting.Arithmetic

/-!
# Arithmetic — what a comparison of two systems can run into

On the way from settings to a result there are requirements and arithmetic, so a
comparison is refused or faults with the arithmetic. Once there is a result nothing is
required any more: its tables fault with the arithmetic only.
-/

namespace SiliconBench

open Scalar

variable {P : Fault Value → Prop}

theorem Machine.Config.part_faults {β : Type} {es : List (String × Value)} {key : String}
    {read : Value → Result Value β} {default : β} (h : ∀ w, Faults P (read w)) :
    Faults P (Config.part es key read default) := by
  rw [Config.part]
  split
  · exact h _
  · exact .ok _

variable [AdmitsArithmetic P]

/-! ## Systems -/

namespace Machine

section Systems

variable [AdmitsRefusals P] {v : Value}

@[simp] theorem Level.validate_faults {l : Level Value} : Faults P l.validate := by
  simp [validate]

@[simp] theorem Memory.validate_faults {m : Memory Value} : Faults P m.validate := by
  simp [validate]

@[simp] theorem Caches.validate_faults {c : Caches Value} : Faults P c.validate := by
  simp [validate]

@[simp] theorem Vias.validate_faults {t : Vias Value} : Faults P t.validate := by
  simp [validate]

@[simp] theorem Thermal.validate_faults {t : Thermal Value} : Faults P t.validate := by
  simp [validate]

@[simp] theorem Config.validate_faults {c : Config Value} : Faults P c.validate := by
  simp [validate]

@[simp] theorem Level.ofValue_faults : Faults P (Level.ofValue v) := by
  simp [ofValue]

@[simp] theorem Memory.ofValue_faults : Faults P (Memory.ofValue v) := by
  simp [ofValue]

@[simp] theorem Vias.ofValue_faults : Faults P (Vias.ofValue v) := by
  simp [ofValue]

@[simp] theorem Thermal.ofValue_faults : Faults P (Thermal.ofValue v) := by
  simp [ofValue]

@[simp] theorem Caches.build_faults {es : List (String × Value)} {c : Caches Value} :
    Faults P (Caches.build es c) := by
  induction es generalizing c with
  | nil => exact .ok c
  | cons e rest ih => simp [build, ih]

@[simp] theorem Caches.ofValue_faults : Faults P (Caches.ofValue v) := by
  simp [ofValue]

@[simp] theorem Config.ofValue_faults : Faults P (Config.ofValue v) := by
  simp [ofValue, part_faults]

end Systems

/-! ## Access times and power -/

variable {p : Pattern} {x y z : Value}

@[simp] theorem Level.missRate_faults {l : Level Value} : Faults P (l.missRate p) := by
  simp [missRate, isBypassed]

@[simp] theorem Level.time_faults {l : Level Value} : Faults P (l.time x y z) := by
  simp [time]

@[simp] theorem LevelRates.ofMiss_faults : Faults P (LevelRates.ofMiss x) := by
  simp [ofMiss]

@[simp] theorem Config.accessTime_faults {c : Config Value} : Faults P (c.accessTime p) := by
  simp [accessTime]

@[simp] theorem leakageGrowth_faults : Faults P (leakageGrowth x) := by
  simp [leakageGrowth]

@[simp] theorem energyPerInstruction_faults {style : Integration} :
    Faults P (energyPerInstruction x style) := by
  simp [energyPerInstruction]

@[simp] theorem staticPower_faults : Faults P (staticPower leakageGrowth x) := by
  simp [staticPower]

@[simp] theorem throttlePercent_faults : Faults P (throttlePercent x y) := by
  simp [throttlePercent]

@[simp] theorem perCycle_faults : Faults P (perCycle x y) := by
  simp [perCycle]

@[simp] theorem plainCycles_faults : Faults P (plainCycles x y z) := by
  simp [plainCycles]

@[simp] theorem estimate_faults [AdmitsRefusals P] {style : Integration} {t : Thermal Value} :
    Faults P (estimate leakageGrowth x y z style t) := by
  simp [estimate]

end Machine

/-! ## Comparisons -/

section Comparisons

open Machine Instructions

variable {x y : Value} {p : Pattern}

@[simp] theorem Instructions.countFrom_faults {cap : Value} {lines : List (List Char)}
    {memory other : Nat} : Faults P (countFrom cap lines memory other) := by
  induction lines generalizing memory other with
  | nil => exact .ok _
  | cons line rest ih =>
    rw [countFrom]
    cases h : Scalar.le cap (whole Value (memory + other : Nat)) with
    | error e =>
      rintro _ ⟨⟩
      exact Value.scalar_le_faults e h
    | ok reached => cases reached <;> simp [ih]

@[simp] theorem Instructions.Mix.total_faults {m : Mix Value} : Faults P m.total := by
  simp [total]

@[simp] theorem Instructions.Mix.memoryRatio_faults {m : Mix Value} : Faults P m.memoryRatio := by
  simp [memoryRatio]

namespace Paired

variable {m : Mix Value} {o : Outcome Value}

@[simp] theorem countProgram_faults {program : List Char} {cap : Value} :
    Faults P (countProgram program cap) :=
  countFrom_faults

@[simp] theorem modelledPercent_faults [AdmitsRefusals P] {given : Option Value} :
    Faults P (modelledPercent m given) := by
  rw [modelledPercent.eq_def]
  split <;> simp

@[simp] theorem simulate_faults [AdmitsRefusals P] {c : Config Value} {name : Value} :
    Faults P (simulate leakageGrowth c m p x name) := by
  simp [simulate, evaluate]

@[simp] theorem join_faults {a b : Metrics Value} : Faults P (join a b m p x) := by
  simp [join, cycleImprovement]

/-! ## Results -/

@[simp] theorem relativeImprovement_faults {higher : Bool} :
    Faults P (relativeImprovement x y higher) := by
  simp [relativeImprovement]

@[simp] theorem Row.of_faults {metric : Metric} : Faults P (Row.of o metric) := by
  simp [Row.of]

@[simp] theorem Row.verdict_faults {r : Row Value} : Faults P r.verdict := by
  simp [verdict]

@[simp] theorem Outcome.compare_faults : Faults P o.compare := by
  simp [Outcome.compare, powerImprovement]

@[simp] theorem outcomeTable_faults : Faults P (outcomeTable o) := by
  simp [outcomeTable, mixTable]

@[simp] theorem rowTable_faults {r : Row Value} : Faults P (rowTable r) := by
  simp [rowTable]

@[simp] theorem comparisonTable_faults {c : Comparison Value} : Faults P (comparisonTable c) := by
  simp [comparisonTable]

end Paired

end Comparisons

end SiliconBench
