import SiliconBench.Proofs.Gpu.Driving

/-!
# Faults — what can still go wrong with an accepted run

Over the rationals the checks at the start leave two faults, and both are the
host's: another tick of a run that is over, and a period of snapshots below one.
Both are found before anything is done, so the state that they leave is the state
that was there; nothing else that a host may ask of a run can fail.
-/

namespace SiliconBench.Gpu.Run

open Scalar

variable {exp : Rat → Rat} {start r : Run Rat Rat} {halt : Halt Rat Rat}

/-! ## Ticks -/

theorem Checked.step_eq_error (h : r.Checked) :
    r.step exp = .error halt ↔ r.isDone = .ok true ∧ halt = ⟨.finished, r⟩ := by
  rw [h.step_rat, isDone_eq_true_iff]
  by_cases hover : r.Over
  · simp [hover, eq_comm]
  · simp [hover]

/-- What is shown after a tick is no cause of a fault. -/
theorem Checked.tickOnce_eq_error (h : r.Checked) :
    r.tickOnce exp = .error halt ↔ r.isDone = .ok true ∧ halt = ⟨.finished, r⟩ := by
  rw [isDone_eq_true_iff]
  by_cases hover : r.Over
  · simp [tickOnce, h.step_rat, hover, eq_comm]
  · simp [h.tickOnce_rat hover, hover]

/-! ## Finishing -/

/-- Whatever its period, a run that is finished comes to an end. -/
theorem Checked.finish_ok {σ : Type} (h : r.Checked) (exp : Rat → Rat) {every : Rat}
    (hevery : 1 ≤ every) (f : σ → Snapshot Rat Rat → σ) (acc : σ) : ∃ x, r.finish exp every f acc = .ok x := by
  obtain ⟨n, hl⟩ := exists_lasts exp r
  have hne : every ≠ 0 := (lt_of_lt_of_le one_pos hevery).ne'
  have hfold := h.foldTicks_rat
    (f := fun acc s after => do return if ← isDelivered every s after then f acc s else acc)
    (g := fun acc s => if ((s.tick : Rat) / every).den = 1 ∨ s.Over then f acc s.seen else acc)
    (fun acc s => by simp [isDelivered_of_divides (divides_rat hne s.tick)]) hl r.remaining acc
  have haccepted : requireOne "snapshot_every" every = .ok () := requireOne_rat.mpr hevery
  rw [finish_eq, haccepted, orHalt_ok, ok_bind]
  exact ⟨_, hfold⟩

theorem Checked.finish_eq_error {σ : Type} (h : r.Checked) {every : Rat}
    {f : σ → Snapshot Rat Rat → σ} {acc : σ} :
    r.finish exp every f acc = .error halt ↔
      every < 1 ∧ halt = ⟨.refused (.belowOne "snapshot_every" every), r⟩ := by
  rcases lt_or_ge every 1 with hbelow | hevery
  · have hrefused : requireOne "snapshot_every" every = _ := requireOne_eq_error.mpr ⟨hbelow, rfl⟩
    simp [finish_eq, hrefused, hbelow, eq_comm]
  · obtain ⟨x, hx⟩ := h.finish_ok exp hevery f acc
    simp [hx, hevery.not_gt]

/-! ## Every reachable state -/

/-- As long as the run is not over a host may go on. -/
theorem Checked.reachable_after {n : Nat} (h : start.Checked)
    (hgoing : ∀ k < n, ¬ (start.after exp k).Over) : Reachable exp start (start.after exp n) := by
  induction n with
  | zero => exact .start
  | succ n ih =>
    have hn : ¬ (start.after exp n).Over := hgoing n (Nat.lt_succ_self n)
    exact .ticked (ih fun k hk => hgoing k (Nat.lt_succ_of_lt hk))
      ((h.after exp n).step_next hn exp)

section

variable {config : Config Rat} {workload : Kernel.Workload Rat} {pattern : Value} {maxTicks : Rat}
  {draw : Grid → Result Rat (List (Hotspot Rat))}

/-- **Faults come from the host, not from the run.** In every reachable state of an
accepted run it can be told whether the run is over, what is to be seen of it and
what it came to. A tick faults exactly when the run is over, and finishing it
exactly when the period is below one; there is no other fault, a division by zero
least of all, and either of them leaves the state as it was. -/
theorem faults_only_at_entry
    (accepted : prepare config workload pattern maxTicks draw = .ok start)
    (reached : Reachable exp start r) :
    (∃ isOver, r.isDone = .ok isOver) ∧ (∃ seen, r.snapshot = .ok seen) ∧
    (∃ o, r.outcome = .ok o) ∧
    (∀ halt, r.step exp = .error halt ↔ r.isDone = .ok true ∧ halt = ⟨.finished, r⟩) ∧
    (∀ halt, r.tickOnce exp = .error halt ↔ r.isDone = .ok true ∧ halt = ⟨.finished, r⟩) ∧
    ∀ {σ : Type} (every : Rat) (f : σ → Snapshot Rat Rat → σ) (acc : σ) (halt : Halt Rat Rat),
      r.finish exp every f acc = .error halt ↔
        every < 1 ∧ halt = ⟨.refused (.belowOne "snapshot_every" every), r⟩ := by
  have hstart : start.Checked := (accepted_fresh accepted).checked
  have h : r.Checked := hstart.congr reached.task_eq
  exact ⟨⟨_, isDone_rat r⟩, ⟨_, snapshot_rat r⟩, ⟨_, h.outcome_rat⟩, fun _ => h.step_eq_error,
    fun _ => h.tickOnce_eq_error, fun _ _ _ _ => h.finish_eq_error⟩

/-- Over after its third tick, the run refuses a fourth, and it refuses a period of zero. -/
theorem faults_only_at_entry_hotRun :
    prepare hotConfig shortKernel (.text "strided") 3 (fun _ => .ok [stillSpot]) = .ok hotRun ∧
      Reachable decay hotRun (hotRun.after decay 3) ∧
      (∃ o, (hotRun.after decay 3).outcome = .ok o) ∧
      (hotRun.after decay 3).tickOnce decay = .error ⟨.finished, hotRun.after decay 3⟩ ∧
      (hotRun.after decay 3).finish decay 0 (fun n _ => n + 1) 0 =
        .error ⟨.refused (.belowOne "snapshot_every" 0), hotRun.after decay 3⟩ := by
  have reached : Reachable decay hotRun (hotRun.after decay 3) :=
    hotRun_checked.reachable_after hotRun_lasts.going
  obtain ⟨-, -, houtcome, -, htick, hfinish⟩ := faults_only_at_entry prepare_hotRun reached
  have hdone : (hotRun.after decay 3).isDone = .ok true :=
    isDone_eq_true_iff.mpr hotRun_lasts.ended
  exact ⟨prepare_hotRun, reached, houtcome, (htick _).mpr ⟨hdone, rfl⟩,
    (hfinish _ _ _ _).mpr ⟨zero_lt_one, rfl⟩⟩

end

end SiliconBench.Gpu.Run
