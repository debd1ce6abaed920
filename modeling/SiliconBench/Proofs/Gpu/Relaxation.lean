import SiliconBench.Gpu.Thermal
import SiliconBench.Proofs.Answer
import SiliconBench.Proofs.Rational
import Mathlib.Algebra.BigOperators.Ring.Finset
import Mathlib.Algebra.Order.Ring.Abs
import Mathlib.Tactic.FieldSimp
import Mathlib.Tactic.Ring

/-!
# Relaxation — what becomes of a deviation from ambient

A step keeps the share `1 - ρ` of every core's deviation from ambient, with `ρ` the ratio
of the step to the time constant, and adds the heat of the power that the core draws. So
a deviation is a SUM, of what is left of where it started and of what is left of every
power so far, each core for itself. What is kept of a deviation is less than all of it
exactly for the ratios that are accepted; for any other ratio a core never gets back to
where it started, or nearer to ambient (`deviations_relax`).
-/

namespace SiliconBench.Gpu

open Scalar

/-- The temperatures after a step for each of the powers in turn. -/
def integrateAll (ambient resistance capacitance dt : Rat) (temperatures : List Rat)
    (powers : List (List Rat)) : Result Rat (List Rat) :=
  powers.foldlM (integrate ambient resistance capacitance dt) temperatures

/-- Without power a step brings every core that deviates from ambient closer to it. -/
def Settles (ambient resistance capacitance dt : Rat) : Prop :=
  ∀ (m : Nat) (t : Fin m → Rat), ∃ t' : Fin m → Rat,
    integrate ambient resistance capacitance dt (List.ofFn t) (List.ofFn fun _ : Fin m => 0) =
      (.ok (List.ofFn t') : Result Rat (List Rat)) ∧
    ∀ i, t i ≠ ambient → |t' i - ambient| < |t i - ambient|

/-- Without power no core ever gets closer to ambient than it started. -/
def Persists (ambient resistance capacitance dt : Rat) : Prop :=
  ∀ (m n : Nat) (t : Fin m → Rat), ∃ t' : Fin m → Rat,
    integrateAll ambient resistance capacitance dt (List.ofFn t)
      (List.replicate n (List.ofFn fun _ : Fin m => 0)) = .ok (List.ofFn t') ∧
    ∀ i, |t i - ambient| ≤ |t' i - ambient|

/-! ## A step -/

/-- The temperature of a core after a step in which it draws `power`. -/
def heatedBy (ambient resistance capacitance dt t power : Rat) : Rat :=
  t + power / capacitance * dt - (t - ambient) / resistance / capacitance * dt

section

variable {resistance capacitance : Rat} (hR : resistance ≠ 0) (hC : capacitance ≠ 0)

include hR hC

theorem heatStep_rat (ambient dt t power : Rat) :
    heatStep ambient resistance capacitance dt t power =
      (.ok (heatedBy ambient resistance capacitance dt t power) : Result Rat Rat) := by
  simp [heatStep, heatedBy, quotient_rat hR, quotient_rat hC]

theorem integrate_rat (ambient dt : Rat) (ts powers : List Rat) :
    integrate ambient resistance capacitance dt ts powers =
      (.ok (List.zipWith (heatedBy ambient resistance capacitance dt) ts powers) :
        Result Rat (List Rat)) :=
  eachPair_eq_zipWith (heatStep_rat hR hC ambient dt) ts powers

/-- A step keeps a share of a deviation and adds to it. -/
theorem heatedBy_sub_ambient (ambient dt t power : Rat) :
    heatedBy ambient resistance capacitance dt t power - ambient =
      (1 - dt / (resistance * capacitance)) * (t - ambient) + dt / capacitance * power := by
  unfold heatedBy
  field_simp
  ring

theorem integrate_ofFn {m : Nat} (ambient dt : Rat) (t power : Fin m → Rat) :
    integrate ambient resistance capacitance dt (List.ofFn t) (List.ofFn power) =
      (.ok (List.ofFn fun i => heatedBy ambient resistance capacitance dt (t i) (power i)) :
        Result Rat (List Rat)) := by
  rw [integrate_rat hR hC]
  congr 1
  apply List.ext_getElem
  · simp
  · simp

end

/-! ## All steps -/

/-- A deviation after `n` steps: what is left of it, and of the powers so far. -/
def deviationAfter (keep gain deviation : Rat) (power : Nat → Rat) (n : Nat) : Rat :=
  keep ^ n * deviation + gain * ∑ k ∈ Finset.range n, keep ^ (n - 1 - k) * power k

theorem deviationAfter_succ (keep gain deviation : Rat) (power : Nat → Rat) (n : Nat) :
    deviationAfter keep gain deviation power (n + 1) =
      keep * deviationAfter keep gain deviation power n + gain * power n := by
  have hearlier : ∑ k ∈ Finset.range n, keep ^ (n - k) * power k =
      keep * ∑ k ∈ Finset.range n, keep ^ (n - 1 - k) * power k := by
    rw [Finset.mul_sum]
    refine Finset.sum_congr rfl fun k hk => ?_
    -- a power that was drawn before this step has been kept once more
    have hone : n - k = n - 1 - k + 1 := by
      have := Finset.mem_range.mp hk
      omega
    rw [hone, pow_succ']
    ring
  rw [deviationAfter, Finset.sum_range_succ, Nat.add_sub_cancel, hearlier, Nat.sub_self, pow_zero,
    deviationAfter, pow_succ']
  ring

section

variable {resistance capacitance dt : Rat} (hR : 0 < resistance) (hC : 0 < capacitance)

include hR hC

theorem integrateAll_ofFn {m : Nat} (ambient : Rat) (t : Fin m → Rat) (power : Nat → Fin m → Rat)
    (n : Nat) :
    integrateAll ambient resistance capacitance dt (List.ofFn t)
        ((List.range n).map fun k => List.ofFn (power k)) =
      .ok (List.ofFn fun i => ambient +
        deviationAfter (1 - dt / (resistance * capacitance)) (dt / capacitance) (t i - ambient)
          (fun k => power k i) n) := by
  induction n with
  | zero => simp [integrateAll, deviationAfter]
  | succ n ih =>
    rw [integrateAll] at ih ⊢
    rw [List.range_succ, List.map_append, List.foldlM_append, ih, ok_bind, List.map_singleton,
      List.foldlM_cons, integrate_ofFn hR.ne' hC.ne', ok_bind, List.foldlM_nil, pure_eq_ok]
    congr 2
    funext i
    rw [deviationAfter_succ, ← sub_eq_iff_eq_add', heatedBy_sub_ambient hR.ne' hC.ne',
      add_sub_cancel_left]

theorem integrateAll_unpowered {m : Nat} (ambient : Rat) (t : Fin m → Rat) (n : Nat) :
    integrateAll ambient resistance capacitance dt (List.ofFn t)
        (List.replicate n (List.ofFn fun _ : Fin m => 0)) =
      .ok (List.ofFn fun i => ambient +
        (1 - dt / (resistance * capacitance)) ^ n * (t i - ambient)) := by
  have hrange : List.replicate n (List.ofFn fun _ : Fin m => (0 : Rat)) =
      (List.range n).map fun _ => List.ofFn fun _ : Fin m => 0 := by
    rw [List.map_const', List.length_range]
  rw [hrange, integrateAll_ofFn hR hC ambient t fun _ _ => 0]
  simp [deviationAfter]

/-! ## The bound on the ratio -/

theorem stepRatio_rat :
    stepRatio resistance capacitance dt = .ok (dt / (resistance * capacitance)) := by
  have hRC : resistance * capacitance ≠ 0 := (mul_pos hR hC).ne'
  simp [stepRatio, div_rat hRC]

theorem requireStable_rat :
    requireStable resistance capacitance dt =
      if 2 ≤ dt / (resistance * capacitance) then
        refuse (.unstable (resistance * capacitance) (dt * 1000) (dt / 2))
      else .ok () := by
  simp [requireStable, stepRatio_rat hR hC, stableRatio, div_rat two_ne_zero]

/-- The bound on the ratio is that on the share that a step keeps. -/
theorem abs_keep_lt_one_iff (hdt : 0 < dt) :
    |1 - dt / (resistance * capacitance)| < 1 ↔ dt / (resistance * capacitance) < 2 := by
  have hratio : 0 < dt / (resistance * capacitance) := div_pos hdt (mul_pos hR hC)
  rw [abs_lt]
  constructor
  · rintro ⟨hlow, -⟩
    linarith
  · intro h
    constructor
    · linarith
    · linarith

theorem settles_iff (hdt : 0 < dt) (ambient : Rat) :
    Settles ambient resistance capacitance dt ↔ dt / (resistance * capacitance) < 2 := by
  rw [← abs_keep_lt_one_iff hR hC hdt]
  constructor
  · intro h
    -- one core, one degree above ambient
    obtain ⟨t', ht', hcloser⟩ := h 1 fun _ => ambient + 1
    rw [integrate_ofFn hR.ne' hC.ne', Except.ok.injEq] at ht'
    have hvalue := congrFun (List.ofFn_injective ht') 0
    have hone := hcloser 0 (by simp)
    rw [← hvalue, heatedBy_sub_ambient hR.ne' hC.ne'] at hone
    simpa using hone
  · intro hkeep m t
    refine ⟨_, integrate_ofFn hR.ne' hC.ne' ambient dt t fun _ => 0, fun i hi => ?_⟩
    have hsome : 0 < |t i - ambient| := abs_pos.mpr (sub_ne_zero.mpr hi)
    rw [heatedBy_sub_ambient hR.ne' hC.ne', mul_zero, add_zero, abs_mul]
    exact mul_lt_of_lt_one_left hsome hkeep

theorem persists_of_ratio (hdt : 0 < dt) (hratio : 2 ≤ dt / (resistance * capacitance))
    (ambient : Rat) : Persists ambient resistance capacitance dt := by
  intro m n t
  refine ⟨_, integrateAll_unpowered hR hC ambient t n, fun i => ?_⟩
  have hkeep : 1 ≤ |1 - dt / (resistance * capacitance)| :=
    not_lt.mp fun h => ((abs_keep_lt_one_iff hR hC hdt).mp h).not_ge hratio
  rw [add_sub_cancel_left, abs_mul, abs_pow]
  exact le_mul_of_one_le_left (abs_nonneg _) (one_le_pow₀ hkeep)

/-- **Deviations are superposed, and they relax exactly at the ratios that are accepted.**
After any number of steps a core's deviation from ambient is what is left of where it
started and of every power that IT has drawn. A ratio is accepted if and only if a step
without power brings every core that deviates closer to ambient; at any other no core ever
gets closer than it started. -/
theorem deviations_relax (hdt : 0 < dt) (ambient : Rat) :
    ∃ ratio, stepRatio resistance capacitance dt = .ok ratio ∧
      ratio = dt / (resistance * capacitance) ∧
      (∀ (m n : Nat) (t : Fin m → Rat) (power : Nat → Fin m → Rat), ∃ t' : Fin m → Rat,
        integrateAll ambient resistance capacitance dt (List.ofFn t)
          ((List.range n).map fun k => List.ofFn (power k)) = .ok (List.ofFn t') ∧
        ∀ i, t' i - ambient = (1 - ratio) ^ n * (t i - ambient) +
          dt / capacitance * ∑ k ∈ Finset.range n, (1 - ratio) ^ (n - 1 - k) * power k i) ∧
      (requireStable resistance capacitance dt = .ok () ↔
        Settles ambient resistance capacitance dt) ∧
      (∀ fault, requireStable resistance capacitance dt = .error fault →
        Persists ambient resistance capacitance dt) := by
  refine ⟨_, stepRatio_rat hR hC, rfl, fun m n t power => ?_, ?_, fun fault hfault => ?_⟩
  · exact ⟨_, integrateAll_ofFn hR hC ambient t power n, fun i => add_sub_cancel_left _ _⟩
  · rw [settles_iff hR hC hdt, requireStable_rat hR hC, ← not_le]
    by_cases hratio : 2 ≤ dt / (resistance * capacitance)
    · simp [hratio, refuse]
    · simp [hratio]
  · refine persists_of_ratio hR hC hdt (not_lt.mp fun hratio => ?_) ambient
    rw [requireStable_rat hR hC, if_neg (not_le.mpr hratio)] at hfault
    cases hfault

end

/-- At a ratio of three halves deviations change their sign and still get smaller; at a
ratio of two they only change their sign. -/
theorem deviations_relax_overshooting :
    requireStable (1 : Rat) 1 (3 / 2) = .ok () ∧ Settles 25 1 1 (3 / 2) ∧
      integrateAll 25 1 1 (3 / 2) [125] [[0], [8]] = .ok [62] ∧ Persists 25 1 1 2 := by
  have hstable : requireStable (1 : Rat) 1 (3 / 2) = .ok () := by
    rw [requireStable_rat one_pos one_pos, if_neg (by norm_num)]
  have hrefused : requireStable (1 : Rat) 1 2 = .error (.refused (.unstable 1 2000 1)) := by
    rw [requireStable_rat one_pos one_pos, if_pos (by norm_num)]
    norm_num [refuse]
  have hshort : (0 : Rat) < 3 / 2 := by norm_num
  have hlong : (0 : Rat) < 2 := by norm_num
  obtain ⟨ratio, -, rfl, hsum, hsettles, -⟩ := deviations_relax one_pos one_pos hshort 25
  obtain ⟨_, -, -, -, -, hpersists⟩ := deviations_relax one_pos one_pos hlong 25
  refine ⟨hstable, hsettles.mp hstable, ?_, hpersists _ hrefused⟩
  obtain ⟨t', ht', hvalue⟩ := hsum 1 2 (fun _ => 125) fun k _ => if k = 0 then 0 else 8
  have hlast : t' 0 = 62 := by
    have hzero := hvalue 0
    norm_num [Finset.sum_range_succ] at hzero
    linarith
  calc integrateAll 25 1 1 (3 / 2) [125] [[0], [8]]
    _ = .ok (List.ofFn t') := ht'
    _ = .ok [62] := by rw [List.ofFn_succ, List.ofFn_zero, hlast]

end SiliconBench.Gpu
