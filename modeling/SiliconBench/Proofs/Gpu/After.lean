import SiliconBench.Proofs.Gpu.Tick

/-!
# After — the run after so many ticks

Over the rationals nothing can fault, so the states of a run form ONE sequence:
`r.after exp n` is the run after `n` more ticks. A reachable state is a member of
that sequence with no member before it over (`exists_after`), so what `next`
preserves holds of every reachable state.
-/

namespace SiliconBench.Gpu.Run

variable {exp : Rat → Rat} {start r : Run Rat Rat}

/-- The run after `n` more ticks that nothing stops. -/
def after (exp : Rat → Rat) (r : Run Rat Rat) : Nat → Run Rat Rat
  | 0 => r
  | n + 1 => (r.after exp n).next exp

theorem after_succ (exp : Rat → Rat) (r : Run Rat Rat) (n : Nat) :
    r.after exp (n + 1) = (r.next exp).after exp n := by
  induction n with
  | zero => rfl
  | succ n ih => rw [after, ih, after]

theorem after_task (exp : Rat → Rat) (r : Run Rat Rat) (n : Nat) :
    (r.after exp n).task = r.task := by
  induction n with
  | zero => rfl
  | succ n ih => exact ih

theorem after_config (exp : Rat → Rat) (r : Run Rat Rat) (n : Nat) :
    (r.after exp n).config = r.config :=
  congrArg Task.config (after_task exp r n)

theorem after_maxTicks (exp : Rat → Rat) (r : Run Rat Rat) (n : Nat) :
    (r.after exp n).maxTicks = r.maxTicks :=
  congrArg Task.maxTicks (after_task exp r n)

theorem after_requiredOps (exp : Rat → Rat) (r : Run Rat Rat) (n : Nat) :
    (r.after exp n).requiredOps = r.requiredOps :=
  congrArg Task.requiredOps (after_task exp r n)

theorem after_tick (exp : Rat → Rat) (r : Run Rat Rat) (n : Nat) :
    (r.after exp n).tick = r.tick + n := by
  induction n with
  | zero => rfl
  | succ n ih =>
    show (r.after exp n).tick + 1 = r.tick + (n + 1)
    rw [ih, Nat.add_assoc]

/-- Before its first tick a run has taken none. -/
theorem after_tick_of_fresh (htick : r.tick = 0) (n : Nat) : (r.after exp n).tick = n := by
  rw [after_tick, htick, Nat.zero_add]

theorem Checked.after (h : r.Checked) (exp : Rat → Rat) (n : Nat) : (r.after exp n).Checked :=
  h.congr (after_task exp r n)

/-- What holds now and is preserved by a tick holds after every tick. -/
theorem Checked.after_of_next {P : Run Rat Rat → Prop} (h : r.Checked) (hr : P r)
    (hnext : ∀ s : Run Rat Rat, s.Checked → P s → P (s.next exp)) (n : Nat) :
    P (r.after exp n) := by
  induction n with
  | zero => exact hr
  | succ n ih => exact hnext _ (h.after exp n) ih

/-- A reachable state comes after so many ticks, and no state before it was over. -/
theorem Checked.exists_after (h : start.Checked) (hr : Reachable exp start r) :
    ∃ n, r = start.after exp n ∧ ∀ k < n, ¬ (start.after exp k).Over := by
  induction hr with
  | start => exact ⟨0, rfl, fun k hk => absurd hk (Nat.not_lt_zero k)⟩
  | ticked _ hstep ih =>
    obtain ⟨n, rfl, hn⟩ := ih
    rw [(h.after exp n).step_rat] at hstep
    split at hstep
    · cases hstep
    · rename_i hover
      cases hstep
      refine ⟨n + 1, rfl, fun k hk => ?_⟩
      rcases Nat.lt_succ_iff_lt_or_eq.mp hk with hlt | rfl
      · exact hn k hlt
      · exact hover
  | halted _ hstep ih =>
    obtain ⟨n, rfl, hn⟩ := ih
    rw [(h.after exp n).step_rat] at hstep
    split at hstep
    · -- a tick that is refused leaves the run as it is
      cases hstep
      exact ⟨n, rfl, hn⟩
    · cases hstep

/-- **The induction over a run**: what holds at the start and is preserved by a
tick holds in every reachable state. -/
theorem Checked.of_reachable {P : Run Rat Rat → Prop} (h : start.Checked) (hstart : P start)
    (hnext : ∀ s : Run Rat Rat, s.Checked → P s → P (s.next exp))
    (hr : Reachable exp start r) : P r := by
  obtain ⟨n, rfl, -⟩ := h.exists_after hr
  exact h.after_of_next hstart hnext n

end SiliconBench.Gpu.Run
