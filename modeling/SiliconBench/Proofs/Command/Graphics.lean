import SiliconBench.Command.Graphics
import SiliconBench.Proofs.Command.Script
import SiliconBench.Proofs.Gpu.Arithmetic
import SiliconBench.Proofs.Gpu.Named
import SiliconBench.Proofs.Report.Arithmetic
import SiliconBench.Proofs.Setting.Overlay

/-!
# Graphics — what the run of a kernel can run into

Besides being sound, a run is of a kernel that is called by a TEXT (`run_sound`): the
name is from the catalog or stands for a custom kernel, and nothing changes it on the
way. The report cannot do without that (`output_faults`).
-/

namespace SiliconBench.Command.Graphics

open Scalar SiliconBench.Gpu Script

/-- Figures read from the arguments are called by the names of their fields. -/
theorem mem_figures {fields : List (String × String)} {read : String → Option Float}
    {e : String × Value}
    (he : e ∈ fields.filterMap fun (key, field) => (read key).map fun x => (field, .real x)) :
    e.1 ∈ fields.map Prod.snd := by
  obtain ⟨field, hfield, hx⟩ := List.mem_filterMap.mp he
  obtain ⟨x, -, rfl⟩ := Option.map_eq_some_iff.mp hx
  exact List.mem_map_of_mem hfield

theorem customKernel_faults (g : Given) : Faults Fault.IsChecked (customKernel g) := by
  refine Kernel.Workload.ofCustom_faults (Value.unknownKeys_eq_nil.mpr fun e he => ?_)
  exact List.mem_of_mem_take (i := 4) (mem_figures he)

/-- Every figure that an argument replaces is a figure of a processor. -/
theorem unknownKeys_replaced (g : Given) : Value.unknownKeys Config.keys (replaced g) = [] := by
  refine Value.unknownKeys_eq_nil.mpr fun e he => ?_
  rcases List.mem_append.mp he with hcores | hfigure
  · obtain ⟨n, -, rfl⟩ := Option.map_eq_some_iff.mp (Option.mem_toList.mp hcores)
    exact List.mem_cons_self
  · have hfields : figures.map Prod.snd ⊆ Config.keys := by decide
    exact hfields (mem_figures hfigure)

theorem withFigures_faults (g : Given) (c : Config Value) : Faults Fault.IsChecked (withFigures g c) := by
  simp only [withFigures]
  split
  · exact .ok _
  · exact Config.override_faults (unknownKeys_replaced g)

/-- Whether a value is a text. -/
def isText : Value → Bool
  | .text _ => true
  | _ => false

theorem exists_text {v : Value} (h : isText v = true) : ∃ s, v = .text s := by
  cases v with
  | text s => exact ⟨s, rfl⟩
  | null | bool | whole | real | list | table => cases h

/-- A custom kernel has its own name unless it is given another. -/
theorem ofCustom_name {es : List (String × Value)} {w : Kernel.Workload Value}
    (h : Kernel.Workload.ofCustom es = .ok w) (hname : es.lookup "name" = none) :
    w.name = .text "Custom Benchmark" := by
  obtain ⟨_, _, h⟩ := bind_eq_ok.mp h
  obtain ⟨_, _, h⟩ := bind_eq_ok.mp h
  cases h
  rw [Kernel.Workload.overlay, Value.entryOr, hname]
  rfl

/-- A kernel is called by a text, whether it is custom or of the catalog. -/
theorem loadKernel_sound (g : Given) :
    Sound (fun w => ∃ name, w.name = .text name) (loadKernel g) := by
  simp only [loadKernel]
  split
  · refine .lift (customKernel_faults g) fun w hw => ⟨_, ofCustom_name hw ?_⟩
    refine List.lookup_eq_none_iff.mpr fun e he => ?_
    have hfield := mem_figures he
    have hname : "name" ≠ e.1 := by
      rintro heq
      rw [← heq] at hfield
      revert hfield
      decide
    simpa using hname
  · split
    case h_1 w hget =>
      have htexts : Kernel.catalog.all (fun e => isText e.2.name) = true := rfl
      exact .pure (exists_text (List.all_eq_true.mp htexts _ (Value.mem_of_lookup hget)))
    case h_2 => exact .throw fun f => Trouble.noConfusion

/-- The processor is read from a file or preset, and is never asked for a figure that it has not. -/
theorem loadProcessor_sound (g : Given) (files : Files) :
    Sound (fun _ => True) (loadProcessor g files) := by
  rw [loadProcessor]
  split
  · refine .bind (.readJson _ _) fun v _ => ?_
    exact .bind (.compute (by simp)) fun base _ => .compute (withFigures_faults g base)
  · exact .bind (.pure (Q := fun _ => True) trivial) fun base _ =>
      .compute (withFigures_faults g base)

theorem logStart_sound (r : Run Value Float) : Sound (fun _ => True) (logStart r) := by
  refine .bind (.compute (by simp)) fun bytes _ => ?_
  refine .bind (.log _ _ _) fun _ _ => ?_
  refine .bind (.compute (by simp)) fun idle _ => ?_
  exact .ite (.log _ _ _) (.pure trivial)

theorem drive_sound (trace : Int) (r : Run Value Float) :
    Sound (fun last => last.workload = r.workload) (drive trace r) := by
  simp only [drive]
  set every : Value := .whole (if trace = 0 then 1 else trace)
  rcases hdeliver : r.deliver Float.exp every (fun lines s => tickLine s :: lines) []
    with ⟨lines, ending⟩
  have hfinish : r.finish Float.exp every (fun lines s => tickLine s :: lines) [] =
      Run.unlessHalted (lines, ending) := congrArg Run.unlessHalted hdeliver
  -- a whole run that answers kept its kernel, and one that halts was not asked for too much
  have hending : Sound (fun last => last.workload = r.workload)
      (lift (ending.mapError Halt.fault)) := by
    cases ending with
    | error halt =>
      refine .lift (fun f hf => ?_) fun x hx => by cases hx
      cases hf
      exact Run.finish_haltsWith halt hfinish
    | ok last =>
      refine .lift (.ok last) fun x hx => ?_
      cases hx
      exact Run.finish_workload hfinish
  exact .ite (.bind (.forM .write _) fun _ _ => hending) hending

theorem logEnd_sound (o : Outcome Value Float) : Sound (fun _ => True) (logEnd o) :=
  .bind (.log _ _ _) fun _ _ => .log _ _ _

theorem run_sound (g : Given) (entropy : Nat) (files : Files) :
    Sound (fun o => ∃ name, o.name = .text name) (run g entropy files) := by
  refine .bind (loadKernel_sound g) fun kernel hkernel => ?_
  refine .bind (loadProcessor_sound g files) fun processor _ => ?_
  refine .bind (Q := fun start => start.workload = kernel)
    (.lift (by simp [hotspotsOfSeed]) fun _ => Run.prepare_workload) fun start hstart => ?_
  refine .bind (logStart_sound start) fun _ _ => ?_
  refine .bind (drive_sound _ start) fun last hlast => ?_
  refine .bind (.forM (fun _ => .log _ _ _) _) fun _ _ => ?_
  refine .bind (Q := fun o => ∃ name, o.name = .text name) (.lift (by simp) fun o ho => ?_) fun o ho => ?_
  · obtain ⟨name, hname⟩ := hkernel
    exact ⟨name, by rw [Run.outcome_name ho, hlast, hstart, hname]⟩
  · exact .bind (logEnd_sound o) fun _ _ => .pure ho

/-- Once there is an outcome, only arithmetic keeps it from being shown. -/
theorem output_faults (g : Given) {o : Outcome Value Float} (h : ∃ name, o.name = .text name) :
    Faults Fault.IsArithmetic (output g o) := by
  obtain ⟨name, hname⟩ := h
  rw [output]
  split
  · simp
  · simp [Report.run_faults hname]

end SiliconBench.Command.Graphics
