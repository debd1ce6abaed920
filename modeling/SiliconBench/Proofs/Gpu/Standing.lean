import SiliconBench.Proofs.Gpu.Course

/-!
# Standing — what the status of a run tells

The status is not stored: it is worked out whenever a host asks for it, and a
host may ask between any two ticks. It tells how a run ENDED, and has no word
for a run that is still going; such a run answers with the word for a completed
one. All of this holds in any arithmetic, also where a comparison faults.
-/

namespace SiliconBench.Gpu.Run

open Scalar

variable {α κ : Type} [Scalar α]

/-- There was work, and it is done. -/
def RanToEnd (r : Run α κ) : Prop :=
  le r.requiredOps (whole α 0) = .ok false ∧ le r.requiredOps r.ops = .ok true

/-- **The three ways in which a host finds a run**: over, still going, or in a
state of which not even that can be told. -/
theorem standing_cases (r : Run α κ) :
    (r.isDone = .ok true ∧ (r.status = .ok .completed ↔ r.RanToEnd)) ∨
      (r.isDone = .ok false ∧ r.status = .ok .completed ∧ ¬ r.RanToEnd) ∨
      (∃ fault, r.isDone = .error fault ∧ r.status = .error fault ∧ ¬ r.RanToEnd) := by
  -- the comparisons in the order in which both ask them; each may fault
  cases hnone : (le r.requiredOps (whole α 0) : Result α Bool) with
  | error fault =>
    refine .inr (.inr ⟨fault, ?_⟩)
    simp [isDone, isComplete, isDegenerate, status, RanToEnd, hnone]
  | ok none =>
    cases none with
    | true => simp [isDone, isComplete, isDegenerate, status, RanToEnd, hnone]
    | false =>
      cases henough : (le r.requiredOps r.ops : Result α Bool) with
      | error fault =>
        refine .inr (.inr ⟨fault, ?_⟩)
        simp [isDone, isComplete, isDegenerate, status, RanToEnd, hnone, henough]
      | ok enough =>
        cases enough with
        | true => simp [isDone, isComplete, isDegenerate, status, RanToEnd, hnone, henough]
        | false =>
          cases hspent : r.isSpent with
          | error fault =>
            refine .inr (.inr ⟨fault, ?_⟩)
            simp [isDone, isComplete, isDegenerate, status, RanToEnd, hnone, henough, hspent]
          | ok spent =>
            cases spent <;>
              simp [isDone, isComplete, isDegenerate, status, RanToEnd, hnone, henough, hspent]

/-! ## The status in an outcome -/

theorem figures_status (r : Run α κ) :
    Answers (fun f => r.status = .ok f.status) r.figures := by
  refine .bind fun status hstatus => ?_
  -- no figure after the first touches the status
  repeat' first
    | refine .bind fun _ _ => ?_
    | refine .ite ?_ ?_
  all_goals exact .pure hstatus

theorem outcome_status (r : Run α κ) :
    Answers (fun o => r.status = .ok o.figures.status) r.outcome := by
  refine .bind fun f hf => ?_
  have hstatus := r.figures_status f hf
  repeat' first
    | refine .bind fun _ _ => ?_
    | refine .ite ?_ ?_
  all_goals exact .pure hstatus

/-! ## Every reachable state -/

/-- **Completed means done, but only when it is over**: in a reachable state the
word for a completed run tells that there was work and that it is done EXACTLY
when the run is not still going. While it is going it is called completed as
well, and an outcome that is asked for says the same as the run. -/
theorem completed_tells_end_iff [Cell κ] [PerCore α κ] {exp : κ → κ} {start r : Run α κ}
    (reached : Reachable exp start r) :
    ((r.status = .ok .completed →
        le start.requiredOps (whole α 0) = .ok false ∧ le start.requiredOps r.ops = .ok true) ↔
      r.isDone ≠ .ok false) ∧
    (le start.requiredOps (whole α 0) = .ok false ∧ le start.requiredOps r.ops = .ok true →
      r.status = .ok .completed) ∧
    (r.isDone = .ok false → r.status = .ok .completed) ∧
    (∀ o, r.outcome = .ok o → r.status = .ok o.figures.status) := by
  rw [← reached.requiredOps_eq]
  rcases r.standing_cases with ⟨hdone, hstatus⟩ | ⟨hdone, hstatus, hran⟩ |
    ⟨fault, hdone, hstatus, hran⟩
  · refine ⟨iff_of_true hstatus.mp ?_, hstatus.mpr, ?_, r.outcome_status⟩ <;> simp [hdone]
  · exact ⟨iff_of_false (fun h => hran (h hstatus)) fun h => h hdone, fun _ => hstatus,
      fun _ => hstatus, r.outcome_status⟩
  · refine ⟨iff_of_true (fun h => ?_) ?_, fun h => absurd h hran, ?_, r.outcome_status⟩
    · rw [hstatus] at h
      cases h
    all_goals simp [hdone]

/-- After its first tick the run has two more to go. -/
theorem completed_tells_end_iff_hotRun :
    Reachable decay hotRun (hotRun.next decay) ∧ (hotRun.next decay).isDone = .ok false ∧
      (hotRun.next decay).status = .ok .completed := by
  have reached : Reachable decay hotRun (hotRun.next decay) := .ticked .start hotRun_step
  have hgoing : (hotRun.next decay).isDone = .ok false :=
    (isDone_rat _).trans (congrArg Except.ok (by decide +kernel))
  exact ⟨reached, hgoing, (completed_tells_end_iff reached).2.2.1 hgoing⟩

/-- A run may be called completed with less than its work done. -/
theorem completed_before_end :
    ¬ ∀ (config : Config Rat) (workload : Kernel.Workload Rat) (pattern : Value) (maxTicks : Rat)
        (draw : Grid → Result Rat (List (Hotspot Rat))) (exp : Rat → Rat) (start r : Run Rat Rat),
      prepare config workload pattern maxTicks draw = .ok start → Reachable exp start r →
        r.status = .ok .completed → 0 < start.requiredOps ∧ start.requiredOps ≤ r.ops := by
  intro hclaim
  have hstatus : (hotRun.next decay).status = .ok .completed :=
    (status_rat _).trans (congrArg Except.ok (by decide +kernel))
  have hdone := (hclaim _ _ _ _ _ decay _ _ prepare_hotRun (.ticked .start hotRun_step) hstatus).2
  exact absurd hdone (by decide +kernel)

end SiliconBench.Gpu.Run
