import SiliconBench.Gpu.Drive
import SiliconBench.Proofs.Gpu.ClockBand

/-!
# Course — how long a run takes, and what is seen on the way

A run goes on until it is over, and the clock band makes sure that it will be:
every tick does at least the work of the floor. How many ticks that takes
(`Lasts`) is the LESSER of two numbers, the budget and the first tick whose
accumulated work is enough; neither depends on which of the two stops the run.
-/

namespace SiliconBench.Gpu.Run

open Scalar

variable {exp : Rat → Rat} {start r : Run Rat Rat} {n : Nat}

/-! ## The ticks to come -/

/-- The run has `n` ticks to come. -/
structure Lasts (exp : Rat → Rat) (r : Run Rat Rat) (n : Nat) : Prop where
  going : ∀ k < n, ¬ (r.after exp k).Over
  ended : (r.after exp n).Over

theorem Lasts.next (h : Lasts exp r (n + 1)) : Lasts exp (r.next exp) n where
  going := fun k hk => by
    rw [← after_succ]
    exact h.going (k + 1) (Nat.succ_lt_succ hk)
  ended := by
    rw [← after_succ]
    exact h.ended

/-- No run outlasts its budget. -/
theorem over_of_spent (exp : Rat → Rat) (r : Run Rat Rat) :
    (r.after exp (⌈r.maxTicks⌉₊ - r.tick)).Over := by
  have hle : ⌈r.maxTicks⌉₊ ≤ r.tick + (⌈r.maxTicks⌉₊ - r.tick) := by omega
  refine .inr (.inr ?_)
  rw [after_maxTicks, after_tick]
  exact Nat.ceil_le.mp hle

theorem exists_lasts (exp : Rat → Rat) (r : Run Rat Rat) : ∃ n, Lasts exp r n := by
  have hover : ∃ n, (r.after exp n).Over := ⟨_, over_of_spent exp r⟩
  exact ⟨Nat.find hover, fun _ hk => Nat.find_min hover hk, Nat.find_spec hover⟩

theorem Lasts.le_of_over (h : Lasts exp r n) {m : Nat} (hm : (r.after exp m).Over) : n ≤ m := by
  by_contra hlt
  exact h.going m (by omega) hm

/-- The budget rounded up is fuel enough. -/
theorem Lasts.le_remaining (h : Lasts exp r n) : n ≤ r.remaining := by
  rw [remaining, ceiling_rat]
  exact h.le_of_over (over_of_spent exp r)

/-! ## Folds over the ticks to come -/

/-- The runs after each of the next `n` ticks. -/
def trail (exp : Rat → Rat) (r : Run Rat Rat) (n : Nat) : List (Run Rat Rat) :=
  (List.range' 1 n).map (r.after exp)

theorem trail_succ (exp : Rat → Rat) (r : Run Rat Rat) (n : Nat) :
    r.trail exp (n + 1) = r.next exp :: (r.next exp).trail exp n := by
  have hrest : List.range' 2 n = (List.range' 1 n).map (1 + ·) := (List.map_add_range' 1 n 1).symm
  rw [trail, List.range'_succ, List.map_cons, hrest, List.map_map]
  congr 1
  refine List.map_congr_left fun k _ => ?_
  rw [Function.comp_apply, Nat.add_comm, after_succ]

theorem trail_append (exp : Rat → Rat) (r : Run Rat Rat) (m n : Nat) :
    r.trail exp (m + n) = r.trail exp m ++ (r.after exp m).trail exp n := by
  induction m generalizing r with
  | zero => rw [Nat.zero_add]; rfl
  | succ m ih =>
    rw [Nat.add_right_comm, trail_succ, trail_succ, ih, List.cons_append, after_succ]

theorem Checked.tickOnce_rat (h : r.Checked) (hover : ¬ r.Over) (exp : Rat → Rat) :
    r.tickOnce exp = .ok ((r.next exp).seen, r.next exp) := by
  simp [tickOnce, h.step_next hover exp, snapshot_rat]

/-- **A fold over the ticks to come is a fold over the runs after them**, as far as
the fuel lasts or until the run is over. -/
theorem Checked.foldTicks_rat {σ : Type} (h : r.Checked)
    {f : σ → Snapshot Rat Rat → Run Rat Rat → Result Rat σ} {g : σ → Run Rat Rat → σ}
    (hf : ∀ acc s, f acc s.seen s = .ok (g acc s)) (hl : Lasts exp r n) (fuel : Nat) (acc : σ) :
    r.foldTicks exp f fuel acc =
      .ok ((r.trail exp (min fuel n)).foldl g acc, r.after exp (min fuel n)) := by
  induction fuel generalizing r n acc with
  | zero =>
    rw [Nat.zero_min]
    rfl
  | succ fuel ih =>
    cases n with
    | zero =>
      have hdone : r.isDone = .ok true := isDone_eq_true_iff.mpr hl.ended
      simp only [foldTicks_succ, hdone]
      rfl
    | succ n =>
      have hover : ¬ r.Over := hl.going 0 (Nat.succ_pos n)
      simp only [foldTicks_succ, isDone_rat, hover, decide_false, h.tickOnce_rat hover, hf,
        Nat.add_min_add_right, trail_succ, List.foldl_cons, after_succ]
      exact ih (h.next exp) hl.next _

/-- What a fold that collects the snapshots has collected. -/
theorem Checked.foldTicks_push (h : r.Checked) (hl : Lasts exp r n) (fuel : Nat) :
    r.foldTicks exp (fun acc s _ => .ok (acc.push s)) fuel #[] =
      .ok (((r.trail exp (min fuel n)).map seen).toArray, r.after exp (min fuel n)) := by
  rw [h.foldTicks_rat (g := fun acc s => acc.push s.seen) (fun _ _ => rfl) hl,
    List.foldl_push_eq_append, Array.empty_append]

/-- All ticks to come are seen, and the run is over after them. -/
theorem Checked.ticks_rat (h : r.Checked) (hl : Lasts exp r n) :
    r.ticks exp = .ok (((r.trail exp n).map seen).toArray, r.after exp n) := by
  rw [ticks, h.foldTicks_push hl, min_eq_right hl.le_remaining]

/-! ## How many ticks there are -/

/-- Every tick does the work of the floor, so there is a first tick that has done
enough. -/
theorem Checked.exists_needed (h : r.Checked) (hr : r.InBand) (exp : Rat → Rat) :
    ∃ needed, IsLeast {t : Nat | r.requiredOps ≤ (r.after exp t).ops} needed := by
  have hpos := h.config.workAt_pos h.config.floor_pos
  -- as many ticks as the work needs at the floor; a tick does at least as much
  set n := ⌈r.requiredOps / r.config.workAt (r.config.clock / 10)⌉₊
  have henough : r.requiredOps ≤ (r.after exp n).ops := by
    have hfloor := (h.after_inBand hr exp n).floor_le_ops
    rw [after_config, after_tick] at hfloor
    have hticks : (n : Rat) ≤ (r.tick + n : Nat) := by exact_mod_cast Nat.le_add_left n r.tick
    calc r.requiredOps ≤ n * r.config.workAt (r.config.clock / 10) :=
        (div_le_iff₀ hpos).mp (Nat.le_ceil _)
      _ ≤ (r.tick + n : Nat) * r.config.workAt (r.config.clock / 10) :=
        mul_le_mul_of_nonneg_right hticks hpos.le
      _ ≤ (r.after exp n).ops := hfloor
  have hex : ∃ t, r.requiredOps ≤ (r.after exp t).ops := ⟨n, henough⟩
  exact ⟨Nat.find hex, Nat.find_spec hex, fun _ ht => Nat.find_min' hex ht⟩

theorem after_over_iff (hwork : 0 < r.requiredOps) (htick : r.tick = 0) (t : Nat) :
    (r.after exp t).Over ↔ r.requiredOps ≤ (r.after exp t).ops ∨ ⌈r.maxTicks⌉₊ ≤ t := by
  rw [Over, after_requiredOps, after_maxTicks, after_tick_of_fresh htick, Nat.ceil_le]
  simp only [hwork.not_ge, false_or]

theorem Lasts.le_budget (hl : Lasts exp r n) (hwork : 0 < r.requiredOps) (htick : r.tick = 0) :
    n ≤ ⌈r.maxTicks⌉₊ :=
  hl.le_of_over ((after_over_iff hwork htick _).mpr (.inr le_rfl))

/-- **The lesser of two numbers**: the budget and the ticks that the work needs. -/
theorem Lasts.eq_min (hl : Lasts exp r n) (hwork : 0 < r.requiredOps) (htick : r.tick = 0)
    {needed : Nat} (hn : IsLeast {t : Nat | r.requiredOps ≤ (r.after exp t).ops} needed) :
    n = min ⌈r.maxTicks⌉₊ needed := by
  refine le_antisymm (le_min (hl.le_budget hwork htick) ?_) ?_
  · exact hl.le_of_over ((after_over_iff hwork htick _).mpr (.inl hn.1))
  · rcases (after_over_iff hwork htick _).mp hl.ended with hdone | hspent
    · exact min_le_of_right_le (hn.2 hdone)
    · exact min_le_of_left_le hspent

/-! ## What is seen of them -/

theorem doneShare_mono {s : Run Rat Rat} (hwork : 0 ≤ r.requiredOps)
    (hs : s.requiredOps = r.requiredOps) (hops : r.ops ≤ s.ops) : r.doneShare ≤ s.doneShare := by
  unfold doneShare
  rw [hs]
  split
  · exact le_rfl
  · exact min_le_min_left 1 (div_le_div_of_nonneg_right hops hwork)

theorem doneShare_le_one (r : Run Rat Rat) : r.doneShare ≤ 1 := by
  unfold doneShare
  split
  · exact le_rfl
  · exact min_le_left _ _

theorem doneShare_nonneg (hwork : 0 ≤ r.requiredOps) (hops : 0 ≤ r.ops) : 0 ≤ r.doneShare := by
  unfold doneShare
  split
  · exact zero_le_one
  · exact le_min zero_le_one (div_nonneg hops hwork)

theorem doneShare_eq_one_iff (hwork : 0 < r.requiredOps) :
    r.doneShare = 1 ↔ r.requiredOps ≤ r.ops := by
  rw [doneShare, if_neg hwork.not_ge, min_eq_left_iff, le_div_iff₀ hwork, one_mul]

/-- Snapshots of consecutive ticks, with the work and the progress they show. -/
structure InOrder (seen : List (Snapshot Rat Rat)) : Prop where
  ticks : seen.map Snapshot.tick = List.range' 1 seen.length
  ops : seen.Pairwise fun s t => s.ops < t.ops
  progress : seen.Pairwise fun s t => s.progress ≤ t.progress
  progress_mem : ∀ s ∈ seen, 0 ≤ s.progress ∧ s.progress ≤ 1

theorem Checked.ops_strictMono (h : r.Checked) (hr : r.InBand) (exp : Rat → Rat) :
    StrictMono fun t => (r.after exp t).ops :=
  strictMono_nat_of_lt_succ fun t => (h.after exp t).ops_lt_next (h.after_inBand hr exp t) exp

theorem Checked.trail_inOrder (h : r.Checked) (hr : r.InBand) (htick : r.tick = 0)
    (exp : Rat → Rat) (n : Nat) : InOrder ((r.trail exp n).map seen) := by
  have hmono := h.ops_strictMono hr exp
  have hops (t : Nat) : (r.after exp t).requiredOps = r.requiredOps := after_requiredOps exp r t
  rw [trail, List.map_map]
  refine ⟨?_, ?_, ?_, ?_⟩
  · rw [List.map_map, List.length_map, List.length_range']
    refine (List.map_congr_left fun t _ => ?_).trans (List.map_id _)
    exact after_tick_of_fresh htick t
  · exact List.pairwise_map.mpr ((List.pairwise_lt_range' ..).imp fun hlt => hmono hlt)
  · refine List.pairwise_map.mpr ((List.pairwise_lt_range' ..).imp fun {s t} hlt => ?_)
    exact doneShare_mono (hops s ▸ h.requiredOps_nonneg) ((hops t).trans (hops s).symm)
      (hmono hlt).le
  · intro s hs
    obtain ⟨t, -, rfl⟩ := List.mem_map.mp hs
    exact ⟨doneShare_nonneg (hops t ▸ h.requiredOps_nonneg)
      ((h.after exp t).ops_nonneg (h.after_inBand hr exp t)), doneShare_le_one _⟩

/-- The last snapshot shows the run at its end. -/
theorem trail_back {s : Snapshot Rat Rat}
    (hs : ((r.trail exp n).map seen).toArray.back? = some s) : s = (r.after exp n).seen := by
  cases n with
  | zero => simp [trail] at hs
  | succ n => simpa [trail, List.range'_concat, Nat.add_comm, eq_comm] using hs

/-! ## How a run ends -/

theorem standing_eq_degenerate (hwork : r.requiredOps ≤ 0) : r.standing = .degenerate :=
  if_pos hwork

theorem standing_eq_completed_iff (hwork : 0 < r.requiredOps) (hover : r.Over) :
    r.standing = .completed ↔ r.requiredOps ≤ r.ops := by
  rcases hover with hnone | hdone | hspent
  · exact absurd hnone hwork.not_ge
  · simp [standing, hwork.not_ge, hdone]
  · simp [standing, hwork.not_ge, hspent]

theorem standing_eq_budgetExceeded_iff (hwork : 0 < r.requiredOps) :
    r.standing = .budgetExceeded ↔ r.maxTicks ≤ r.tick ∧ r.ops < r.requiredOps := by
  by_cases hdone : r.requiredOps ≤ r.ops
  · simp [standing, hwork.not_ge, hdone, hdone.not_gt]
  · simp [standing, hwork.not_ge, hdone, not_le.mp hdone]

theorem Lasts.completed_iff (hl : Lasts exp r n) (hwork : 0 < r.requiredOps) :
    (r.after exp n).standing = .completed ↔ r.requiredOps ≤ (r.after exp n).ops := by
  rw [← after_requiredOps exp r n] at hwork ⊢
  exact standing_eq_completed_iff hwork hl.ended

/-- Only a run that has taken every tick of its budget can have exceeded it. -/
theorem Lasts.budgetExceeded_iff (hl : Lasts exp r n) (hwork : 0 < r.requiredOps)
    (htick : r.tick = 0) :
    (r.after exp n).standing = .budgetExceeded ↔
      n = ⌈r.maxTicks⌉₊ ∧ (r.after exp n).ops < r.requiredOps := by
  have hle := hl.le_budget hwork htick
  rw [← after_requiredOps exp r n] at hwork
  rw [standing_eq_budgetExceeded_iff hwork, after_requiredOps, after_maxTicks,
    after_tick_of_fresh htick, ← Nat.ceil_le]
  exact and_congr_left fun _ => ⟨hle.antisymm, Eq.ge⟩

theorem Lasts.doneShare_eq_one_iff (hl : Lasts exp r n) (hwork : 0 < r.requiredOps) :
    (r.after exp n).doneShare = 1 ↔ (r.after exp n).standing = .completed := by
  rw [← after_requiredOps exp r n] at hwork
  rw [standing_eq_completed_iff hwork hl.ended]
  exact Run.doneShare_eq_one_iff hwork

/-- The work of a run that took `n` ticks is at most `n` times that of the base
clock, and one tick less was not enough even at the floor. -/
theorem Lasts.work_mem (hl : Lasts exp r n) (h : r.Checked) (hr : r.InBand) (htick : r.tick = 0)
    (hwork : 0 < r.requiredOps) :
    (r.after exp n).ops ≤ n * r.config.workAt r.config.clock ∧
      ((n : Rat) - 1) * r.config.workAt (r.config.clock / 10) < r.requiredOps := by
  constructor
  · have hbase := (h.after_inBand hr exp n).ops_le_base
    rwa [after_config, after_tick_of_fresh htick] at hbase
  · have hpos := h.config.workAt_pos h.config.floor_pos
    cases n with
    | zero =>
      push_cast
      linarith
    | succ k =>
      have hfloor := (h.after_inBand hr exp k).floor_le_ops
      rw [after_config, after_tick_of_fresh htick] at hfloor
      have hgoing := hl.going k (Nat.lt_succ_self k)
      rw [after_over_iff hwork htick, not_or, not_le] at hgoing
      rw [Nat.cast_succ, add_sub_cancel_right]
      exact lt_of_le_of_lt hfloor hgoing.1

section

variable {config : Config Rat} {workload : Kernel.Workload Rat} {pattern : Value} {maxTicks : Rat}
  {draw : Grid → Result Rat (List (Hotspot Rat))}

/-- **The course of an accepted run** from its start to its end. Without work it
ends at once. With work it takes the lesser of the budget, rounded up, and of the
number of ticks that the work needs, and which of the two it was decides how the
run ends; a tick that is the last of both completes it. -/
theorem ticks_course (accepted : prepare config workload pattern maxTicks draw = .ok start)
    (exp : Rat → Rat) :
    ∃ snapshots last, start.ticks exp = .ok (snapshots, last) ∧ last.isDone = .ok true ∧
      last = start.after exp snapshots.size ∧ last.tick = snapshots.size ∧
      (∀ t < snapshots.size, (start.after exp t).step exp = .ok (start.after exp (t + 1))) ∧
      (start.requiredOps ≤ 0 → snapshots = #[] ∧ last.status = .ok .degenerate) ∧
      (0 < start.requiredOps →
        (∃ needed, IsLeast {t : Nat | start.requiredOps ≤ (start.after exp t).ops} needed ∧
          snapshots.size = min ⌈maxTicks⌉₊ needed) ∧
        (last.status = .ok .completed ↔ start.requiredOps ≤ last.ops) ∧
        (last.status = .ok .budgetExceeded ↔
          last.tick = ⌈maxTicks⌉₊ ∧ last.ops < start.requiredOps) ∧
        (last.status = .ok .completed →
          start.requiredOps ≤ snapshots.size * (config.cores * config.clock * 20000000) ∧
          ((snapshots.size : Rat) - 1) * (config.cores * (config.clock / 10) * 20000000) <
            start.requiredOps)) ∧
      InOrder snapshots.toList ∧
      (∀ s, snapshots.back? = some s → (s.progress = 1 ↔ last.status = .ok .completed)) := by
  obtain ⟨h, hr, rfl, rfl, htick⟩ := accepted_fresh accepted
  obtain ⟨n, hl⟩ := exists_lasts exp start
  have hsize : ((start.trail exp n).map seen).toArray.size = n := by simp [trail]
  refine ⟨_, _, h.ticks_rat hl, isDone_eq_true_iff.mpr hl.ended, ?_⟩
  simp only [hsize, status_rat, Except.ok.injEq, after_tick_of_fresh htick]
  refine ⟨trivial, trivial, fun t ht => (h.after exp t).step_next (hl.going t ht) exp, ?_, ?_,
    h.trail_inOrder hr htick exp n, ?_⟩
  · intro hnone
    obtain rfl : n = 0 := Nat.le_zero.mp (hl.le_of_over (.inl hnone))
    exact ⟨rfl, standing_eq_degenerate hnone⟩
  · intro hwork
    obtain ⟨needed, hneeded⟩ := h.exists_needed hr exp
    obtain ⟨hbase, hfloor⟩ := hl.work_mem h hr htick hwork
    have hcompleted := hl.completed_iff hwork
    exact ⟨⟨needed, hneeded, hl.eq_min hwork htick hneeded⟩, hcompleted,
      hl.budgetExceeded_iff hwork htick, fun hend => ⟨(hcompleted.mp hend).trans hbase, hfloor⟩⟩
  · intro s hs
    rcases le_or_gt start.requiredOps 0 with hnone | hwork
    · -- without work nothing is seen, so there is no last snapshot
      obtain rfl : n = 0 := Nat.le_zero.mp (hl.le_of_over (.inl hnone))
      simp [trail] at hs
    · obtain rfl := trail_back hs
      exact hl.doneShare_eq_one_iff hwork

/-- The budget and the work of a run end on the same tick, and the run is completed. -/
theorem ticks_course_hotRun :
    prepare hotConfig shortKernel (.text "strided") 3 (fun _ => .ok [stillSpot]) = .ok hotRun ∧
      ∃ snapshots last, hotRun.ticks decay = .ok (snapshots, last) ∧ snapshots.size = 3 ∧
        last.status = .ok .completed ∧ InOrder snapshots.toList := by
  obtain ⟨snapshots, last, hrun, -, hlast, -, -, -, hwork, horder, -⟩ :=
    ticks_course prepare_hotRun decay
  obtain ⟨⟨needed, hneeded, hsize⟩, hcompleted, -⟩ := hwork (by decide +kernel)
  have hthree : IsLeast {t : Nat | hotRun.requiredOps ≤ (hotRun.after decay t).ops} 3 := by
    refine ⟨by decide +kernel, fun t (ht : hotRun.requiredOps ≤ (hotRun.after decay t).ops) => ?_⟩
    by_contra hlt
    obtain rfl | rfl | rfl : t = 0 ∨ t = 1 ∨ t = 2 := by omega
    all_goals exact absurd ht (by decide +kernel)
  have hbudget : ⌈(3 : Rat)⌉₊ = 3 := Nat.ceil_ofNat 3
  rw [hneeded.unique hthree, hbudget, min_self] at hsize
  refine ⟨prepare_hotRun, snapshots, last, hrun, hsize, hcompleted.mpr ?_, horder⟩
  rw [hlast, hsize]
  decide +kernel

end

end SiliconBench.Gpu.Run
