import SiliconBench.Proofs.Gpu.Driving
import SiliconBench.Proofs.Whole

/-!
# Budget — the budget only cuts a run short

The budget is asked for in two places: whether the run is over, and what to call
its end. As long as fewer ticks were taken than the lesser of two budgets has,
both answer the same; so the run with the lesser one takes the first ticks of the
run with the greater one, and where it completes the two are never told apart.
All of this holds in any arithmetic in which whole numbers are compared exactly.
-/

namespace SiliconBench.Gpu

open Scalar

variable {α κ σ : Type}

/-- The task with another budget. -/
def Task.withBudget (maxTicks : α) (t : Task α) : Task α := { t with maxTicks }

namespace Run

/-- The run with another budget. -/
def withBudget (maxTicks : α) (r : Run α κ) : Run α κ := { r with maxTicks }

variable [Scalar α]

/-- A tick cannot tell two budgets apart. -/
theorem sameTicks_withBudget (t : Task α) (maxTicks : α) : t.SameTicks (t.withBudget maxTicks) :=
  ⟨.refl t.config, rfl⟩

omit [Scalar α] in
theorem Retasked.eq_withBudget {t : Task α} {maxTicks : α} {n : Nat} {r s : Run α κ}
    (h : Retasked t (t.withBudget maxTicks) n r s) : s = r.withBudget maxTicks := by
  obtain ⟨rfl, rfl, rfl⟩ := h
  rfl

/-! ## Where the budget is asked for -/

section

variable (maxTicks : α) {r : Run α κ}

theorem isComplete_withBudget : (r.withBudget maxTicks).isComplete = r.isComplete := rfl

/-- Only a run with work left to do asks for its budget to say how it stands. -/
theorem status_withBudget (h : r.isComplete ≠ .ok false) :
    (r.withBudget maxTicks).status = r.status := by
  unfold status
  rw [isComplete_withBudget]
  refine bind_congr fun none => ?_
  cases none with
  | true => rfl
  | false =>
    cases hcomplete : r.isComplete with
    | error fault => rfl
    | ok complete =>
      cases complete with
      | true => rfl
      | false => exact absurd hcomplete h

theorem figures_withBudget (h : r.isComplete ≠ .ok false) :
    (r.withBudget maxTicks).figures = r.figures := by
  unfold figures
  rw [status_withBudget maxTicks h]
  rfl

theorem outcome_withBudget (h : r.isComplete ≠ .ok false) :
    (r.withBudget maxTicks).outcome = r.outcome := by
  unfold outcome
  rw [figures_withBudget maxTicks h]
  rfl

end

/-! ## Folds over the ticks to come -/

section

variable [Cell κ] [PerCore α κ] {exp : κ → κ} {f : σ → Snapshot α κ → Run α κ → Result α σ}
  {r last : Run α κ}

/-- The next ticks, at most `limit` of them: their snapshots, and the run after them. -/
def someTicks (exp : κ → κ) (limit : Nat) (r : Run α κ) :
    Except (Halt α κ) (Array (Snapshot α κ) × Run α κ) :=
  r.foldTicks exp (fun shown s _ => .ok (shown.push s)) limit #[]

/-- A fold over further ticks leaves a run with no work left to do as it was. -/
theorem eq_of_foldTicks {fuel : Nat} {acc acc' : σ} (hcomplete : r.isComplete ≠ .ok false)
    (h : r.foldTicks exp f fuel acc = .ok (acc', last)) : acc' = acc ∧ last = r := by
  cases hc : r.isComplete with
  | error fault =>
    have hdone : r.isDone = .error fault := by
      rw [isDone, hc]
      rfl
    cases fuel with
    | zero =>
      cases h
      exact ⟨rfl, rfl⟩
    | succ fuel => simp [foldTicks_succ, hdone] at h
  | ok complete =>
    cases complete with
    | true =>
      have hdone : r.isDone = .ok true := by
        rw [isDone, hc]
        rfl
      rw [foldTicks_of_isDone hdone] at h
      cases h
      exact ⟨rfl, rfl⟩
    | false => exact absurd hc hcomplete

/-- A fold that collects the snapshots collects one for each tick, and stops early
only when the run is over. -/
theorem foldTicks_collect {fuel : Nat} {shown all : Array (Snapshot α κ)}
    (h : r.foldTicks exp (fun shown s _ => .ok (shown.push s)) fuel shown = .ok (all, last)) :
    ∃ more : List (Snapshot α κ), all.toList = shown.toList ++ more ∧
      last.tick = r.tick + more.length ∧ last.task = r.task ∧ more.length ≤ fuel ∧
      (more.length < fuel → last.isDone = .ok true) := by
  rw [foldTicks_eq_ok, follow_push] at h
  obtain ⟨rfl, hlast⟩ := Prod.mk.inj h
  have hwatch : r.watch exp fuel = ((r.watch exp fuel).1, .ok last) := Prod.ext rfl hlast
  obtain ⟨htick, htask, hle, hstop⟩ := watch_ok hwatch
  exact ⟨_, Array.toList_append, htick, htask, hle, hstop⟩

end

/-! ## Two budgets -/

section

variable [PerCore α κ] {config : Config α} {workload : Kernel.Workload α} {pattern : Value}
  {draw : Grid → Result α (List (Hotspot κ))} {start r : Run α κ}

theorem prepare_fresh (maxTicks : α) :
    Answers (fun r : Run α κ => r.maxTicks = maxTicks ∧ r.tick = 0)
      (prepare config workload pattern maxTicks draw) := by
  intro r accepted
  have hr := prepare_prepared config workload pattern maxTicks draw r accepted
  exact ⟨hr.maxTicks, hr.tick⟩

variable [LawfulWhole α] {m M : Nat}

/-- Nothing that is checked or set up depends on the budget, as long as there is one. -/
theorem prepare_withBudget (hm : 1 ≤ m) (hM : 1 ≤ M) :
    prepare config workload pattern (whole α M) draw =
      withBudget (whole α M) <$> prepare config workload pattern (whole α m) draw := by
  simp only [prepare, requireOne_whole _ hm, requireOne_whole _ hM, ok_bind, map_bind, map_pure]
  rfl

omit [PerCore α κ] in
theorem isSpent_whole (hbudget : r.maxTicks = whole α m) :
    r.isSpent = .ok (decide (m ≤ r.tick)) := by
  rw [isSpent, hbudget, le_whole]
  simp

omit [PerCore α κ] in
/-- Before the lesser of two budgets is spent, both say the same of whether it is over. -/
theorem isDone_withBudget (hbudget : r.maxTicks = whole α m) (hlt : r.tick < m) (hmM : m ≤ M) :
    r.isDone = (r.withBudget (whole α M)).isDone := by
  have hr : r.isSpent = .ok false := by
    simp [isSpent_whole hbudget, hlt]
  have hs : (r.withBudget (whole α M)).isSpent = .ok false := by
    have htick : (r.withBudget (whole α M)).tick < M := lt_of_lt_of_le hlt hmM
    simp [isSpent_whole (r := r.withBudget (whole α M)) rfl, htick]
  rw [isDone, isDone, isComplete_withBudget, hr, hs]

omit [PerCore α κ] in
/-- Out of ticks with work left to do, a run was cut short. -/
theorem status_of_incomplete (hbudget : r.maxTicks = whole α m) (htick : m ≤ r.tick)
    (hcomplete : r.isComplete = .ok false) : r.status = .ok .budgetExceeded := by
  have hnone : r.isDegenerate = .ok false := by
    cases h : r.isDegenerate with
    | error fault => simp [isComplete, h] at hcomplete
    | ok none =>
      cases none with
      | true => simp [isComplete, h] at hcomplete
      | false => rfl
  simp [status, hnone, hcomplete, isSpent_whole hbudget, htick]

omit [PerCore α κ] in
theorem remaining_whole (hbudget : r.maxTicks = whole α m) (htick : r.tick = 0) :
    r.remaining = m := by
  rw [remaining, hbudget, htick, ceiling_whole, Nat.sub_zero]

variable [Cell κ]

/-- **As far as the lesser budget goes** a run takes the same ticks with both. -/
theorem ticks_withBudget (hbudget : start.maxTicks = whole α m) (htick : start.tick = 0)
    (hmM : m ≤ M) (exp : κ → κ) :
    Matched (fun g h => h.fault = g.fault ∧ h.run = g.run.withBudget (whole α M))
      (fun x y => y.1 = x.1 ∧ y.2 = x.2.withBudget (whole α M))
      (start.ticks exp) ((start.withBudget (whole α M)).someTicks exp m) := by
  have same := sameTicks_withBudget start.task (whole α M)
  have hdone (k : Nat) (hk : k < m) (r s : Run α κ)
      (hrs : Retasked start.task (start.task.withBudget (whole α M)) k r s) :
      r.isDone = s.isDone := by
    have hr : r.maxTicks = whole α m := (congrArg Task.maxTicks hrs.task).trans hbudget
    rw [hrs.eq_withBudget]
    exact isDone_withBudget hr (hrs.tick ▸ hk) hmM
  have hstart : Retasked start.task (start.task.withBudget (whole α M)) 0 start
      (start.withBudget (whole α M)) := ⟨rfl, htick, rfl⟩
  rw [ticks, remaining_whole hbudget htick]
  refine (Retasked.foldTicks same rfl hdone (fun _ _ _ _ _ _ => rfl) hstart
    (Nat.zero_add m).le #[]).mono ?_ ?_
  · rintro g h ⟨hfault, n, hrun⟩
    exact ⟨hfault.symm, hrun.eq_withBudget⟩
  · rintro x y ⟨hshown, n, hrun⟩
    exact ⟨hshown.symm, hrun.eq_withBudget⟩

/-- The longer run is the shorter one, taken up again with the ticks that are left to it. -/
theorem ticks_taken_up (hbudget : start.maxTicks = whole α m) (htick : start.tick = 0)
    (hmM : m ≤ M) {all : Array (Snapshot α κ)} {last : Run α κ}
    (h : (start.withBudget (whole α M)).ticks exp = .ok (all, last)) :
    ∃ shown final, start.ticks exp = .ok (shown, final) ∧
      (final.withBudget (whole α M)).foldTicks exp (fun shown s _ => .ok (shown.push s)) (M - m)
        shown = .ok (all, last) := by
  have hfuel : (start.withBudget (whole α M)).remaining = m + (M - m) := by
    rw [remaining_whole (r := start.withBudget (whole α M)) rfl htick]
    omega
  rw [ticks, hfuel, foldTicks_add, bind_eq_ok] at h
  obtain ⟨⟨shown, s⟩, hfirst, hrest⟩ := h
  obtain ⟨⟨shown', final⟩, hticks, hshown, hs⟩ :=
    (ticks_withBudget hbudget htick hmM exp).exists_of_ok_right hfirst
  obtain rfl : shown = shown' := hshown
  obtain rfl : s = final.withBudget (whole α M) := hs
  exact ⟨shown, final, hticks, hrest⟩

/-- A run that ends with work left to do has taken all of its ticks, and was cut short. -/
theorem ticks_cut {shown : Array (Snapshot α κ)} {final : Run α κ}
    (hbudget : start.maxTicks = whole α m) (htick : start.tick = 0)
    (h : start.ticks exp = .ok (shown, final)) :
    shown.size ≤ m ∧
      (final.isComplete = .ok false → shown.size = m ∧ final.status = .ok .budgetExceeded) := by
  obtain ⟨first, hfirst, hticks, htask, hle, hstop⟩ := foldTicks_collect h
  have hsize : shown.size = first.length := by
    rw [← Array.length_toList, hfirst]
    rfl
  have hfinal : final.maxTicks = whole α m := (congrArg Task.maxTicks htask).trans hbudget
  rw [htick, Nat.zero_add] at hticks
  rw [remaining_whole hbudget htick] at hle hstop
  refine ⟨by omega, fun hcomplete => ?_⟩
  have hspent : m ≤ final.tick := by
    by_contra hlt
    have hdone := hstop (by omega)
    simp [isDone, hcomplete, isSpent_whole hfinal, hlt] at hdone
  exact ⟨by omega, status_of_incomplete hfinal hspent hcomplete⟩

/-- **The budget only cuts a run short.** A run is accepted with one budget exactly
when it is with another. With the lesser one it takes the same ticks as with the
greater one, as many of them as it may; so its snapshots are the first of those of
the longer run. If it was not cut short, there are no others, and the outcome is
the same. -/
theorem budget_only_cuts (hm : 1 ≤ m) (hmM : m ≤ M) (exp : κ → κ) :
    prepare config workload pattern (whole α M) draw =
      withBudget (whole α M) <$> prepare config workload pattern (whole α m) draw ∧
    ∀ start, prepare config workload pattern (whole α m) draw = .ok start →
      Matched (fun g h => h.fault = g.fault ∧ h.run = g.run.withBudget (whole α M))
        (fun x y => y.1 = x.1 ∧ y.2 = x.2.withBudget (whole α M))
        (start.ticks exp) ((start.withBudget (whole α M)).someTicks exp m) ∧
      ∀ all last, (start.withBudget (whole α M)).ticks exp = .ok (all, last) →
        ∃ shown final, start.ticks exp = .ok (shown, final) ∧
          shown.size = min m all.size ∧ shown.toList = all.toList.take (min m all.size) ∧
          (final.status ≠ .ok .budgetExceeded → last.outcome = final.outcome) := by
  refine ⟨prepare_withBudget hm (hm.trans hmM), fun start accepted => ?_⟩
  obtain ⟨hbudget, htick⟩ := prepare_fresh _ start accepted
  refine ⟨ticks_withBudget hbudget htick hmM exp, fun all last hlong => ?_⟩
  obtain ⟨shown, final, hticks, hrest⟩ := ticks_taken_up hbudget htick hmM hlong
  obtain ⟨hle, hcut⟩ := ticks_cut hbudget htick hticks
  by_cases hcomplete : final.isComplete = .ok false
  · -- the rest may show more, but only after all ticks of the lesser budget
    obtain ⟨hsize, hstatus⟩ := hcut hcomplete
    obtain ⟨more, hall, -⟩ := foldTicks_collect hrest
    have hmin : min m all.size = m := by
      rw [← Array.length_toList, hall, List.length_append, Array.length_toList]
      omega
    refine ⟨shown, final, hticks, by rw [hsize, hmin], ?_, fun h => absurd hstatus h⟩
    rw [hmin, hall, ← hsize, ← Array.length_toList, List.take_left]
  · -- there is no rest
    obtain ⟨rfl, rfl⟩ := eq_of_foldTicks (r := final.withBudget (whole α M)) hcomplete hrest
    have hmin : min m all.size = all.size := min_eq_right hle
    refine ⟨all, final, hticks, hmin.symm, ?_, fun _ => outcome_withBudget _ hcomplete⟩
    rw [hmin, ← Array.length_toList, List.take_length]

/-- A kernel that completes on the last tick of its budget comes to the same with more. -/
theorem budget_only_cuts_hotRun :
    prepare hotConfig shortKernel (.text "strided") (whole Rat 3) (fun _ => .ok [stillSpot]) =
        .ok hotRun ∧
      ∃ all last shown final, (hotRun.withBudget (whole Rat 5)).ticks decay = .ok (all, last) ∧
        hotRun.ticks decay = .ok (shown, final) ∧ final.status = .ok .completed ∧
        shown.toList = all.toList.take (min 3 all.size) ∧ last.outcome = final.outcome := by
  have accepted : prepare hotConfig shortKernel (.text "strided") (whole Rat (3 : Nat))
      (fun _ => .ok [stillSpot]) = .ok hotRun := prepare_hotRun
  have hlonger : (hotRun.withBudget (whole Rat (5 : Nat))).Checked :=
    .initial hotConfig_valid shortKernel_valid (by norm_num) hotRun_checked.stable
  obtain ⟨n, hl⟩ := exists_lasts decay (hotRun.withBudget (whole Rat (5 : Nat)))
  have hthree : 1 ≤ 3 := by norm_num
  have hfive : 3 ≤ 5 := by norm_num
  obtain ⟨shown, final, hticks, -, hfirst, hsame⟩ :=
    ((budget_only_cuts hthree hfive decay).2 hotRun accepted).2 _ _ (hlonger.ticks_rat hl)
  have hfinal : final = hotRun.after decay 3 :=
    (Prod.mk.inj (Except.ok.inj (hticks.symm.trans (hotRun_checked.ticks_rat hotRun_lasts)))).2
  have hstatus : final.status = .ok .completed := by
    rw [hfinal, status_rat]
    exact congrArg Except.ok (by decide +kernel)
  refine ⟨accepted, _, _, shown, final, hlonger.ticks_rat hl, hticks, hstatus, hfirst, hsame ?_⟩
  simp [hstatus]

end

end Run

end SiliconBench.Gpu
