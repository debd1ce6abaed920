import SiliconBench.Gpu.CellKinds
import SiliconBench.Gpu.Draw
import SiliconBench.Gpu.Outcome
import SiliconBench.Gpu.Settings
import SiliconBench.Kernel.Settings
import SiliconBench.Proofs.Setting.Arithmetic

/-!
# Arithmetic — what a run of a kernel can run into

A run is refused before its first tick or not at all; from then on only arithmetic can
fail it. In particular a run that is driven to its end is never asked for a tick after
it (`finish_haltsWith`).
-/

namespace SiliconBench

open Scalar

variable {P : Fault Value → Prop} [AdmitsArithmetic P]

/-! ## Settings -/

namespace Gpu.Config

variable {c : Config Value} {v : Value}

@[simp] theorem resistance_faults : Faults P c.resistance := by
  simp [resistance]

variable [AdmitsRefusals P]

@[simp] theorem wholeCores_faults : Faults P c.wholeCores := by
  simp [wholeCores]

@[simp] theorem validate_faults : Faults P c.validate := by
  simp [validate]

@[simp] theorem ofValue_faults : Faults P (ofValue v) := by
  simp [ofValue]

/-- Figures that a processor has are no unknown arguments. -/
theorem override_faults {es : List (String × Value)} (h : Value.unknownKeys keys es = []) :
    Faults P (c.override es) := by
  simp [override, h]

end Gpu.Config

namespace Kernel.Workload

variable {w : Workload Value} {v : Value}

@[simp] theorem requiredOps_faults : Faults P (w.requiredOps v) := by
  simp [requiredOps]

@[simp] theorem totalBytes_faults : Faults P w.totalBytes := by
  simp [totalBytes]

variable [AdmitsRefusals P]

@[simp] theorem validate_faults : Faults P w.validate := by
  simp [validate]

/-- Arguments that a custom kernel has are no unknown arguments. -/
theorem ofCustom_faults {es : List (String × Value)}
    (h : Value.unknownKeys customKeys es = []) : Faults P (ofCustom es) := by
  simp [ofCustom, requireKnown, h]

end Kernel.Workload

/-! ## A run -/

namespace Gpu

variable {r : Run Value Float}

@[simp] theorem requireStable_faults [AdmitsRefusals P] {x y z : Value} :
    Faults P (requireStable x y z) := by
  simp [requireStable, stepRatio]

@[simp] theorem toCell_faults {v : Value} : Faults P (PerCore.toCell v : Result Value Float) :=
  Value.double_faults

section Cells

variable {exp : Float → Float} {hs : List (Hotspot Float)}

omit [AdmitsArithmetic P]

@[simp] theorem quotient_faults {x y : Float} :
    Faults P (Cell.quotient x y : Result Value Float) :=
  .ok _

@[simp] theorem contribution_faults {falloff x y : Float} {h : Hotspot Float} :
    Faults P (h.contribution exp falloff x y : Result Value Float) := by
  simp [Hotspot.contribution]

@[simp] theorem powerFactor_faults {falloff x y : Float} :
    Faults P (powerFactor exp falloff hs x y : Result Value Float) := by
  simp [powerFactor]

@[simp] theorem powerFactors_faults {g : Grid} :
    Faults P (powerFactors exp g hs : Result Value (List Float)) := by
  simp [powerFactors]

@[simp] theorem heatStep_faults {ambient resistance capacitance dt t power : Float} :
    Faults P (heatStep ambient resistance capacitance dt t power : Result Value Float) := by
  simp [heatStep]

end Cells

namespace Run

@[simp] theorem prepare_faults [AdmitsRefusals P] {c : Config Value} {w : Kernel.Workload Value}
    {pattern budget : Value} {draw : Grid → Result Value (List (Hotspot Float))}
    (h : ∀ g, Faults P (draw g)) : Faults P (prepare c w pattern budget draw) := by
  simp [prepare, h]

@[simp] theorem elapsed_faults : Faults P r.elapsed := by
  simp [elapsed]

@[simp] theorem isDegenerate_faults : Faults P r.isDegenerate := by
  simp [isDegenerate]

@[simp] theorem isComplete_faults : Faults P r.isComplete := by
  simp [isComplete]

@[simp] theorem isSpent_faults : Faults P r.isSpent := by
  simp [isSpent]

@[simp] theorem isDone_faults : Faults P r.isDone := by
  simp [isDone]

@[simp] theorem progress_faults : Faults P r.progress := by
  simp [progress]

@[simp] theorem status_faults : Faults P r.status := by
  simp [status]

/-! ## Ticks -/

@[simp] theorem work_faults : Faults P r.work := by
  simp [work, workPerTick]

@[simp] theorem powerPerCore_faults : Faults P r.powerPerCore := by
  simp [powerPerCore]

@[simp] theorem heat_faults {exp : Float → Float} {power : Value} :
    Faults P (r.heat exp power) := by
  simp [heat, integrate]

@[simp] theorem notePeak_faults : Faults P r.notePeak := by
  simp [notePeak]

@[simp] theorem regulate_faults : Faults P r.regulate := by
  simp [regulate, throttledClock, recoveredClock]

@[simp] theorem count_faults : Faults P r.count := by
  simp [count]

@[simp] theorem snapshot_faults : Faults P r.snapshot := by
  simp [snapshot]

/-- What an action halts with has a property. -/
abbrev HaltsWith (P : Fault Value → Prop) {β : Type} (x : Except (Halt Value Float) β) : Prop :=
  Faults (fun halt => P halt.fault) x

omit [AdmitsArithmetic P] in
@[simp] theorem haltsWith_orHalt {β : Type} {x : Result Value β} :
    HaltsWith P (r.orHalt x) ↔ Faults P x := by
  cases x with
  | ok y => simp [HaltsWith]
  | error fault =>
    constructor
    · intro h fault' hfault
      cases hfault
      exact h ⟨fault, r⟩ rfl
    · intro h halt hhalt
      cases hhalt
      exact h fault rfl

/-- A tick of a run that is not done is no tick too many. -/
theorem step_haltsWith {exp : Float → Float} (h : r.isDone = .ok false) :
    HaltsWith P (r.step exp) := by
  simp [step, h]

theorem tickOnce_haltsWith {exp : Float → Float} (h : r.isDone = .ok false) :
    HaltsWith P (r.tickOnce exp) := by
  simp [tickOnce, step_haltsWith h]

/-- Before each tick it is asked whether the run is done. -/
theorem foldTicks_haltsWith {σ : Type} {exp : Float → Float}
    {f : σ → Snapshot Value Float → Run Value Float → Result Value σ} (fuel : Nat) (acc : σ)
    (hf : ∀ acc s after, Faults P (f acc s after)) :
    HaltsWith P (r.foldTicks exp f fuel acc) := by
  induction fuel generalizing r acc with
  | zero => exact .ok _
  | succ fuel ih =>
    rw [foldTicks_succ]
    split
    case h_1 fault hdone =>
      -- asking is itself arithmetic
      rintro _ ⟨⟩
      exact isDone_faults fault hdone
    case h_2 => exact .ok _
    case h_3 hdone =>
      split
      case h_1 halt htick =>
        rintro _ ⟨⟩
        exact tickOnce_haltsWith hdone halt htick
      case h_2 seen next htick =>
        split
        case h_1 fault hfault =>
          rintro _ ⟨⟩
          exact hf _ _ _ fault hfault
        case h_2 => exact ih _

@[simp] theorem isDelivered_faults {every : Value} {s : Snapshot Value Float} :
    Faults P (isDelivered every s r) := by
  simp [isDelivered]

/-- A run that is driven to its end is never asked for a tick after it. -/
theorem finish_haltsWith [AdmitsRefusals P] {σ : Type} {exp : Float → Float} {every : Value}
    {f : σ → Snapshot Value Float → σ} {acc : σ} : HaltsWith P (r.finish exp every f acc) := by
  simp only [finish_eq, Faults.bind_iff, haltsWith_orHalt, Value.requireOne_faults, true_and]
  intro _ _
  exact foldTicks_haltsWith _ _ fun _ _ _ => by simp

/-! ## Outcomes -/

@[simp] theorem memoryTime_faults {x y z : Value} : Faults P (r.memoryTime x y z) := by
  simp [memoryTime]

@[simp] theorem effectiveLocality_faults {x : Value} {p : Pattern} :
    Faults P (effectiveLocality x p) := by
  cases p <;> simp [effectiveLocality]

@[simp] theorem averageClock_faults : Faults P r.averageClock := by
  simp [averageClock]

@[simp] theorem figures_faults : Faults P r.figures := by
  simp [figures]

@[simp] theorem percentDone_faults : Faults P r.percentDone := by
  simp [percentDone]

@[simp] theorem outcome_faults : Faults P r.outcome := by
  simp [outcome]

end Run

end Gpu

end SiliconBench
