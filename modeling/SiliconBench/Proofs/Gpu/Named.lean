import SiliconBench.Gpu.Drive
import SiliconBench.Gpu.Outcome
import SiliconBench.Proofs.Gpu.Reachable

/-!
# Named — what a run is called

A run is of one kernel from its preparation to its outcome: no phase of a tick touches
the workload (`step_workload`), so neither does a run that is driven to its end
(`finish_workload`), and the outcome bears the name of the kernel (`outcome_name`).
-/

namespace SiliconBench.Gpu.Run

variable {α κ : Type} [Scalar α] {r r' : Run α κ}

theorem outcome_name {o : Outcome α κ} (h : r.outcome = .ok o) :
    o.name = r.workload.name := by
  obtain ⟨f, _, h⟩ := bind_eq_ok.mp h
  simp only at h
  split at h
  · simp only [bind_eq_ok] at h
    obtain ⟨_, _, _, _, _, _, _, _, h⟩ := h
    cases h
    rfl
  · simp only [bind_eq_ok] at h
    obtain ⟨_, _, _, _, _, _, h⟩ := h
    cases h
    rfl

variable [PerCore α κ]

theorem prepare_workload {c : Config α} {w : Kernel.Workload α} {pattern : Value} {budget : α}
    {draw : Grid → Result α (List (Hotspot κ))}
    (h : prepare c w pattern budget draw = .ok r) : r.workload = w :=
  (prepare_prepared c w pattern budget draw r h).workload

variable [Cell κ]

/-- No tick changes what is run. -/
theorem step_workload {exp : κ → κ} (h : r.step exp = .ok r') : r'.workload = r.workload :=
  congrArg Task.workload (task_of_step h)

theorem foldTicks_workload {σ : Type} {exp : κ → κ}
    {f : σ → Snapshot α κ → Run α κ → Result α σ} {fuel : Nat} {acc acc' : σ}
    (h : r.foldTicks exp f fuel acc = .ok (acc', r')) : r'.workload = r.workload := by
  induction fuel generalizing r acc with
  | zero =>
    cases h
    rfl
  | succ fuel ih =>
    rw [foldTicks_succ] at h
    split at h
    · cases h
    · cases h
      rfl
    · split at h
      · cases h
      case h_2 seen next htick =>
        obtain ⟨stepped, hstep, htick⟩ := bind_eq_ok.mp htick
        obtain ⟨_, _, htick⟩ := bind_eq_ok.mp htick
        cases htick
        split at h
        · cases h
        · exact (ih h).trans (step_workload hstep)

/-- A run that came to its end is still a run of its kernel. -/
theorem finish_workload {σ : Type} {exp : κ → κ} {every : α}
    {f : σ → Snapshot α κ → σ} {acc acc' : σ}
    (h : r.finish exp every f acc = .ok (acc', r')) : r'.workload = r.workload := by
  rw [finish_eq] at h
  obtain ⟨_, _, h⟩ := bind_eq_ok.mp h
  exact foldTicks_workload h

end SiliconBench.Gpu.Run
