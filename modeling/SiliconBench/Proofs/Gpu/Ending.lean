import SiliconBench.Proofs.Gpu.Follow
import SiliconBench.Proofs.Setting.Bound

/-!
# Ending — a run of a settings file comes to its end

The values of a settings file are compared without a fault where both are numbers, and what
is counted by adding to a number stays one. So once it could be told that a run is not over,
that can be told after every tick (`exists_isComplete`), and a budget that some number of ticks
spends is spent when the fuel is (`ended_of_accepted`).
-/

namespace SiliconBench

open Scalar

/-! ## Numbers -/

namespace Value

variable {v w : Value} {n : Nat}

/-- Two numbers are compared without a fault. -/
theorem exists_le (hv : v.number? ≠ none) (hw : w.number? ≠ none) : ∃ b, le v w = .ok b := by
  obtain ⟨a, ha⟩ := Option.ne_none_iff_exists'.mp hv
  obtain ⟨b, hb⟩ := Option.ne_none_iff_exists'.mp hw
  exact ⟨_, by rw [le, number_of_number? ha, number_of_number? hb]; rfl⟩

theorem number?_ne_of_le {b : Bool} (h : le v w = .ok b) : v.number? ≠ none := by
  intro hv
  simp [le, number_of_none hv] at h

/-- What is added to a number, if it can be, makes a number. -/
theorem number?_ne_of_add {sum : Value} (hv : v.number? ≠ none) (h : add v w = .ok sum) :
    sum.number? ≠ none := by
  obtain ⟨a, ha⟩ := Option.ne_none_iff_exists'.mp hv
  rw [add_of_number? ha] at h
  cases hw : w.number? with
  | none => simp [combine, number_of_number? ha, number_of_none hw] at h
  | some b =>
    rcases combine_eq_ok ha hw h with ⟨c, d, rfl⟩ | ⟨x, y, -, -, rfl⟩
    · exact Option.some_ne_none _
    · exact Option.some_ne_none _

theorem le_whole {m : Number} (hm : v.number? = some m) (n : Nat) :
    le v (.whole n) = .ok (m.compare (.whole n) == some .lt || m.compare (.whole n) == some .eq) := by
  have hn : (Value.whole n).number = .ok (.whole n) := rfl
  rw [le, number_of_number? hm, hn]
  rfl

/-- **At its ceiling a number is spent**, if any number of ticks spends it. -/
theorem le_whole_of_ceiling {k : Nat} (hk : le v (.whole k) = .ok true) (hn : ceiling v ≤ n) :
    le v (.whole n) = .ok true := by
  obtain ⟨m, hm⟩ := Option.ne_none_iff_exists'.mp (number?_ne_of_le hk)
  rw [le_whole hm] at hk ⊢
  rw [ceiling, hm] at hn
  cases m with
  | whole a =>
    have hle : a ≤ n := Int.toNat_le.mp hn
    rcases hle.lt_or_eq with hlt | rfl
    · simp [Number.compare, Int.compare_eq_lt.mpr hlt]
    · simp [Number.compare]
  | real x =>
    simp only at hn
    simp only [Number.compare, Decimal.compareWhole] at hk ⊢
    cases hx : Decimal.Reading.of x with
    | undefined => simp [hx] at hk
    | infinite negative => cases negative <;> simp [hx] at hk ⊢
    | finite negative sig e =>
      have hden := magnitude_pos sig e
      simp only [hx] at hn ⊢
      generalize Decimal.magnitude sig e = share at hn hden ⊢
      -- both sides of the comparison are taken over the denominator of the double
      have hle : (if negative then -(share.1 : Int) else share.1) ≤ n * share.2 := by
        cases negative with
        | true =>
          have hnonneg : (0 : Int) ≤ n * share.2 := by positivity
          simp only [if_true]
          omega
        | false =>
          have hceil : share.1 ≤ n * share.2 := by
            have hlt : share.1 + share.2 - 1 < (n + 1) * share.2 :=
              (Nat.div_lt_iff_lt_mul hden).mp (Nat.lt_succ_of_le (by simpa using hn))
            rw [Nat.add_mul, Nat.one_mul] at hlt
            omega
          simp only [Bool.false_eq_true, if_false]
          exact_mod_cast hceil
      rcases hle.lt_or_eq with hlt | heq
      · simp [Int.compare_eq_gt.mpr hlt]
      · simp [heq]

/-- A budget that is accepted lasts for a tick. -/
theorem ceiling_pos {name : String} (h : requireOne name v = .ok ()) : 0 < ceiling v := by
  have hnumber : v.number? ≠ none := by
    rcases requireOne_eq_ok.mp h with hv | hv
    · exact hv.number?_ne
    · exact hv.number?_ne
  obtain ⟨m, hm⟩ := Option.ne_none_iff_exists'.mp hnumber
  rw [requireOne_eq_ok, atLeast_iff hm, ← compare_eq_none (n := 1) hm] at h
  rw [ceiling, hm]
  cases m with
  | whole a =>
    simp only [Number.compare, Option.some.injEq, Int.compare_eq_lt, Int.compare_eq_eq,
      reduceCtorEq, or_false] at h
    simp only
    omega
  | real x =>
    simp only [Number.compare, Decimal.compareWhole] at h ⊢
    cases hx : Decimal.Reading.of x with
    | undefined => simp [endless]
    | infinite negative => cases negative <;> simp [hx, endless] at h ⊢
    | finite negative sig e =>
      have hden := magnitude_pos sig e
      simp only [hx, Option.some.injEq, Int.compare_eq_lt, Int.compare_eq_eq, reduceCtorEq,
        or_false] at h ⊢
      generalize Decimal.magnitude sig e = share at h hden ⊢
      cases negative with
      | true =>
        simp only [if_true] at h
        omega
      | false =>
        simp only [Bool.false_eq_true, if_false] at h ⊢
        refine Nat.div_pos ?_ hden
        omega

end Value

/-! ## Runs -/

namespace Gpu.Run

variable {κ : Type} {start r : Run Value κ}

/-- The operations so far are counted by a number. -/
def Counts (r : Run Value κ) : Prop :=
  r.ops.number? ≠ none

/-- Where all that is compared are numbers, it can be told whether the work is done. -/
theorem exists_isComplete (hwork : r.requiredOps.number? ≠ none) (hr : r.Counts) :
    ∃ b, r.isComplete = .ok b := by
  obtain ⟨none, hnone⟩ := Value.exists_le (w := .whole 0) hwork (Option.some_ne_none _)
  have hdegenerate : r.isDegenerate = .ok none := hnone
  rw [isComplete, hdegenerate]
  cases none with
  | true => exact ⟨true, rfl⟩
  | false => exact Value.exists_le hwork hr

/-- Who could be told that a run is not over was told so of a number. -/
theorem number?_ne_of_isDone {isOver : Bool} (h : r.isDone = .ok isOver) :
    r.requiredOps.number? ≠ none := by
  obtain ⟨_, hcomplete, -⟩ := bind_eq_ok.mp h
  obtain ⟨_, hdegenerate, -⟩ := bind_eq_ok.mp hcomplete
  exact Value.number?_ne_of_le hdegenerate

variable [Cell κ] [PerCore Value κ] {exp : κ → κ}

/-- No phase of a tick makes of the count anything but a number. -/
theorem counts_unbroken (exp : κ → κ) : Unbroken exp (Counts (κ := κ)) where
  work _ hr := .bind fun _ _ => .bind fun _ hops => .pure (Value.number?_ne_of_add hr hops)
  move _ hr := hr
  heat power r hr := by
    unfold heat
    repeat refine .bind fun _ _ => ?_
    exact .pure hr
  notePeak _ hr := .bind fun _ _ => .pure hr
  regulate _ hr := by
    refine .bind fun hot _ => .ite ?_ ?_
    · exact .bind fun _ _ => .bind fun _ _ => .pure hr
    · exact .bind fun _ _ => .pure hr
  count _ hr := .bind fun _ _ => .pure hr

theorem Watched.reachable {seen : List (Snapshot Value κ)} (hw : Watched exp start seen r) :
    Reachable exp start r := by
  induction hw with
  | start => exact .start
  | ticked _ htick ih =>
    obtain ⟨_, hstep, hsnapshot⟩ := bind_eq_ok.mp htick
    obtain ⟨_, _, hseen⟩ := bind_eq_ok.mp hsnapshot
    cases hseen
    exact .ticked ih hstep

variable {config : Config Value} {workload : Kernel.Workload Value} {pattern maxTicks : Value}
  {draw : Grid → Result Value (List (Hotspot κ))}

/-- **An accepted run comes to its end**, by being over or by a fault, if any number of ticks
spends its budget. -/
theorem ended_of_accepted (accepted : prepare config workload pattern maxTicks draw = .ok start)
    {n : Nat} (spent : le maxTicks (whole Value n) = .ok true) (exp : κ → κ) :
    Ended (start.watch exp start.remaining).2 := by
  intro last hlast
  have hwatch : start.watch exp start.remaining = ((start.watch exp start.remaining).1, .ok last) :=
    Prod.ext rfl hlast
  have hprepared := prepare_prepared config workload pattern maxTicks draw start accepted
  obtain ⟨htick, htask, hle, hstop⟩ := watch_ok hwatch
  rcases hle.lt_or_eq with hearly | hsize
  · exact hstop hearly
  · have hbudget : start.remaining = ceiling maxTicks := by
      rw [remaining, hprepared.maxTicks, hprepared.tick, Nat.sub_zero]
    obtain ⟨_, haccepted, -⟩ := bind_eq_ok.mp accepted
    -- a first tick was taken, so it was asked before it whether the run is over
    have hfirst : start.isDone = .ok false := by
      cases hstart : start.tickOnce exp with
      | error halt =>
        have hnone := (watch_of_no_tick hstart hwatch).1
        rw [hnone, hbudget] at hsize
        exact absurd hsize (Value.ceiling_pos haccepted).ne
      | ok x => exact isDone_of_tickOnce hstart
    have hwork : last.requiredOps.number? ≠ none := by
      rw [show last.requiredOps = start.requiredOps from congrArg Task.requiredOps htask]
      exact number?_ne_of_isDone hfirst
    have hcounts : last.Counts := by
      refine (counts_unbroken exp).reachable ?_ (watched_of_watch hwatch).reachable
      rw [Counts, hprepared.ops]
      exact Option.some_ne_none _
    have hspent : last.isSpent = .ok true := by
      have hlimit : last.maxTicks = maxTicks :=
        (congrArg Task.maxTicks htask).trans hprepared.maxTicks
      rw [isSpent, hlimit, htick, hprepared.tick, Nat.zero_add, hsize, hbudget]
      exact Value.le_whole_of_ceiling spent le_rfl
    obtain ⟨isComplete, hcomplete⟩ := exists_isComplete hwork hcounts
    rw [isDone, hcomplete]
    cases isComplete with
    | true => rfl
    | false => exact hspent

end Gpu.Run

end SiliconBench
