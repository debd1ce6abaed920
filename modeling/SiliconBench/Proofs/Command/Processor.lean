import SiliconBench.Proofs.Command.Benchmark
import SiliconBench.Proofs.Report.Arithmetic

/-!
# Processor — what the comparison of two systems can run into

Every stage that leads to the result is sound (`run_sound`), so its faults are refusals or
arithmetic. Once there is a result nothing is required any more (`output_faults`).
-/

namespace SiliconBench.Command.Processor

open Scalar Machine Paired Script

theorem loadProgram_sound (g : Given) (files : Files) :
    Sound (fun _ => True) (loadProgram g files) := by
  rw [loadProgram]
  split
  · exact .bind (.read _ _ _) fun _ _ => .pure trivial
  · simp only
    split
    · exact .pure trivial
    · exact .throw fun f => Trouble.noConfusion

theorem readSystem_sound (files : Files) (path name : String) :
    Sound (fun _ => True) (readSystem files path name) := by
  refine .bind (.readJson files path) fun v _ => ?_
  split
  · exact .compute (by simp)
  · exact .throw fun f => Trouble.noConfusion

theorem loadSystem_sound (g : Given) (files : Files) (key : String) (preset : Config Value) :
    Sound (fun _ => True) (loadSystem g files key preset) := by
  rw [loadSystem]
  split
  · exact readSystem_sound _ _ _
  · exact .pure trivial

theorem withTemperatures_faults (g : Given) (c : Config Value) :
    Faults Fault.IsChecked (withTemperatures g c) := by
  simp [withTemperatures]

/-- The log has no part in how the benchmark ends. -/
theorem benchmark_sound (a b : Config Value) (program : List Char) (p : Pattern)
    (given : Option Value) (cap : Int) :
    Sound (fun _ => True) (benchmark a b program p given (.whole cap)) :=
  (benchmark_warns a b program p given cap).sound (by simp [Paired.run])

theorem run_sound (g : Given) (files : Files) : Sound (fun _ => True) (run g files) := by
  refine .bind (loadProgram_sound g files) fun program _ => ?_
  refine .bind (loadSystem_sound g files _ _) fun a _ => ?_
  refine .bind (loadSystem_sound g files _ _) fun b _ => ?_
  refine .bind (.compute (withTemperatures_faults g a)) fun a _ => ?_
  refine .bind (.compute (withTemperatures_faults g b)) fun b _ => ?_
  refine .bind (.compute (by simp [pattern])) fun p _ => ?_
  exact .bind (benchmark_sound a b _ p _ _) fun _ _ => .pure trivial

/-- Once there is a result, only arithmetic keeps it from being shown. -/
theorem output_faults (g : Given) (entropy : Nat) (s : Shown) :
    Faults Fault.IsArithmetic (output g entropy s) := by
  rw [output]
  split
  · simp [resultTable]
  · simp only
    split <;> simp [resultText]

end SiliconBench.Command.Processor
