import SiliconBench.Proofs.Machine.Scale
import SiliconBench.Proofs.Matched
import SiliconBench.Proofs.Paired.Run

/-!
# Proportion — at a given share of memory instructions the program does not matter

Two programs on the same systems differ in nothing but the number of instructions
that are counted, once the share of memory instructions is given. The cycles are
then in proportion to these numbers, and whatever else is compared is the SAME, the
percentage of cycles saved included (`run_inProportion`). That takes instructions
that are no shorter than the floor of the cycles.
-/

namespace SiliconBench.Paired

open Scalar Instructions Machine

/-- Metrics of a system on `n` and on `n'` instructions: the cycles are as `n` to `n'`,
and whatever else was measured is the same. -/
structure Metrics.InProportion (n n' : Nat) (m m' : Metrics Rat) : Prop where
  accessTime : m.accessTime = m'.accessTime
  rates : m.rates = m'.rates
  ipc : m.ipc = m'.ipc
  power : m.power = m'.power
  temperature : m.temperature = m'.temperature
  throttling : m.throttling = m'.throttling
  cycles_pos : 0 < m.cycles
  cycles_pos' : 0 < m'.cycles
  cycles : m.cycles / m'.cycles = n / n'

/-- Outcomes of `n` and of `n'` instructions, with the same percentage of cycles saved. -/
structure Outcome.InProportion (n n' : Nat) (o o' : Outcome Rat) : Prop where
  baseline : o.baseline.InProportion n n' o'.baseline
  stacked : o.stacked.InProportion n n' o'.stacked
  improvement : o.improvement = o'.improvement

/-- What is saved of the cycles is the same at the same scale. -/
theorem improvementOf_eq_of_div_eq {x y x' y' : Rat} (hx : 0 < x) (hx' : 0 < x') (hy' : 0 < y')
    (h : x / x' = y / y') : improvementOf x y = improvementOf x' y' := by
  have hcross : x * y' = y * x' := (div_eq_div_iff hx'.ne' hy'.ne').mp h
  have hshare : (x - y) / x = (x' - y') / x' := by
    rw [div_eq_div_iff hx.ne' hx'.ne']
    linarith
  rw [improvementOf, if_neg (not_le.mpr hx), hshare, improvementOf, if_neg (not_le.mpr hx')]

section

variable {growth : Rat → Result Rat Rat} {g : Rat → Rat} (hg : Grows growth g) {c : Config Rat}
  {p : Pattern} {percent : Rat} (hcost : cycleFloor Rat ≤ costOf (percent / 100) (c.meanTime p))
  {counts counts' : Counts} (hsome : 1 ≤ counts.total) (hsome' : 1 ≤ counts'.total)

include hcost in
/-- Instructions that take some cycles do not all reach a memory that takes no time. -/
theorem not_free_of_cost : ¬ (percent = 100 ∧ c.meanTime p = 0) := by
  rintro ⟨rfl, hnone⟩
  rw [hnone, costOf] at hcost
  norm_num [cycleFloor] at hcost

include hcost hsome hsome' in
theorem metricsOf_inProportion (name : Value) :
    (metricsOf g c counts.toMix p (percent / 100) name).InProportion counts.total counts'.total
      (metricsOf g c counts'.toMix p (percent / 100) name) := by
  have hone : (1 : Rat) ≤ counts.total := Nat.one_le_cast.mpr hsome
  have hone' : (1 : Rat) ≤ counts'.total := Nat.one_le_cast.mpr hsome'
  have hunit := estimateOf_cycles_pos hcost g (.ofStacked c.isStacked) c.thermal
  simp only [metricsOf, memory_add_other_toMix, estimateOf_scale hone hcost,
    estimateOf_scale hone' hcost]
  -- everything but the cycles is that of a single instruction on either side
  constructor <;> dsimp only
  case cycles_pos => exact mul_pos (one_pos.trans_le hone) hunit
  case cycles_pos' => exact mul_pos (one_pos.trans_le hone') hunit
  case cycles => exact mul_div_mul_right _ _ hunit.ne'

include hg hcost hsome hsome' in
/-- A system is refused on both streams for the same reason, or on neither. -/
theorem simulate_inProportion (hlow : 0 ≤ percent) (hhigh : percent ≤ 100) (name : Value) :
    Matched Eq (Metrics.InProportion counts.total counts'.total)
      (simulate growth c counts.toMix p (percent / 100) name)
      (simulate growth c counts'.toMix p (percent / 100) name) := by
  cases hvalid : c.validate with
  | error fault =>
    rw [simulate, simulate, hvalid]
    rfl
  | ok _ =>
    have hc : c.Valid := Config.validate_eq_ok.mp hvalid
    have hfree := not_free_of_cost hcost
    rw [simulate_toMix hg hc hlow hhigh counts p fun h => hfree h.2,
      simulate_toMix hg hc hlow hhigh counts' p fun h => hfree h.2]
    exact metricsOf_inProportion hcost hsome hsome' name

end

theorem join_inProportion {n n' : Nat} {x x' y y' : Metrics Rat} (hx : x.InProportion n n' x')
    (hy : y.InProportion n n' y') (mix mix' : Mix Rat) (p : Pattern) (percent : Rat) :
    Matched Eq (Outcome.InProportion n n') (join x y mix p percent)
      (join x' y' mix' p percent) := by
  rw [join, join, cycleImprovement_rat, cycleImprovement_rat]
  refine ⟨hx, hy, improvementOf_eq_of_div_eq hx.cycles_pos hx.cycles_pos' hy.cycles_pos' ?_⟩
  rw [hx.cycles, hy.cycles]

/-- **At a given share of memory instructions the verdict does not depend on the
program.** Of two programs at least one instruction is counted, and on both systems an
instruction takes no fewer cycles on average than the floor. Then either both are
refused, for the same reason, or their outcomes are in proportion; and systems and a
share that make sense are not refused. -/
theorem run_inProportion {growth : Rat → Result Rat Rat}
    (hgrowth : ∀ x, 0 ≤ x → x ≤ 100 → ∃ y, growth x = .ok y) {a b : Config Rat} {p : Pattern}
    {percent : Rat}
    (hcost : ∀ c ∈ [a, b], ∀ access, c.accessTime p = .ok access →
      cycleFloor Rat ≤ 1 - percent / 100 + percent / 100 * access.cycles)
    (program program' : List Char) (cap cap' : Int)
    (hsome : 1 ≤ min (parse program).length cap.toNat)
    (hsome' : 1 ≤ min (parse program').length cap'.toNat) :
    Matched Eq
      (Outcome.InProportion (min (parse program).length cap.toNat)
        (min (parse program').length cap'.toNat))
      (run growth a b program p (some percent) (whole Rat cap))
      (run growth a b program' p (some percent) (whole Rat cap')) ∧
    (a.validate = .ok () → b.validate = .ok () → 0 ≤ percent → percent ≤ 100 →
      ∃ o, run growth a b program p (some percent) (whole Rat cap) = .ok o) := by
  obtain ⟨g, hg⟩ := exists_grows hgrowth
  have hcost' (c) (hc : c ∈ [a, b]) : cycleFloor Rat ≤ costOf (percent / 100) (c.meanTime p) :=
    hcost c hc ⟨c.meanTime p, c.ratesOf p⟩ (c.accessTime_rat p)
  rw [← total_countsOf] at hsome hsome' ⊢
  rw [← total_countsOf, run_eq_runOn, run_eq_runOn]
  constructor
  · rw [runOn, runOn, modelledPercent_given, modelledPercent_given]
    by_cases hgiven : 0 ≤ percent ∧ percent ≤ 100
    · obtain ⟨hlow, hhigh⟩ := hgiven
      have hhundred : (100 : Rat) ≠ 0 := by norm_num
      have hbaseline := simulate_inProportion hg (hcost' a (by simp)) hsome hsome' hlow hhigh
      have hstacked := simulate_inProportion hg (hcost' b (by simp)) hsome hsome' hlow hhigh
      simp only [if_pos (And.intro hlow hhigh), ok_bind, ok_div, real_rat, div_rat hhundred]
      refine .bind (hbaseline _) fun x x' hx => .bind (hstacked _) fun y y' hy => ?_
      exact join_inProportion hx hy _ _ p percent
    · rw [if_neg hgiven]
      rfl
  · intro ha hb hlow hhigh
    refine ⟨_, runOn_rat hg (Config.validate_eq_ok.mp ha) (Config.validate_eq_ok.mp hb) ?_ _ p ?_⟩
    · rintro m ⟨rfl⟩
      exact ⟨hlow, hhigh⟩
    · intro c hc hfree
      exact not_free_of_cost (hcost' c hc) hfree.2

/-- Three instructions, two of which reach memory, and one that does not: where half of
them are taken to reach it, the three take three times the cycles of the one. -/
theorem run_inProportion_shortProgram :
    ∃ o o', run wholeGrowth coolSystem freeSystem shortProgram .random (some 50)
        (whole Rat 10) = .ok o ∧
      run wholeGrowth coolSystem freeSystem ['a', 'd', 'd'] .random (some 50)
        (whole Rat 10) = .ok o' ∧
      o.InProportion 3 1 o' := by
  have hcost {c : Config Rat} (hc : c.Valid) (access)
      (haccess : c.accessTime .random = .ok access) :
      cycleFloor Rat ≤ 1 - 50 / 100 + 50 / 100 * access.cycles := by
    rw [c.accessTime_rat, Except.ok.injEq] at haccess
    have hnonneg : 0 ≤ access.cycles := haccess ▸ hc.meanTime_nonneg .random
    norm_num [cycleFloor]
    linarith
  have hcosts : ∀ c ∈ [coolSystem, freeSystem], ∀ access, c.accessTime .random = .ok access →
      cycleFloor Rat ≤ 1 - 50 / 100 + 50 / 100 * access.cycles := by
    simp only [List.forall_mem_cons]
    exact ⟨hcost coolSystem_valid, hcost freeSystem_valid, by simp⟩
  obtain ⟨hmatched, hanswer⟩ := run_inProportion wholeGrowth_answers hcosts shortProgram
    ['a', 'd', 'd'] 10 10 (by decide) (by decide)
  obtain ⟨o, ho⟩ := hanswer coolSystem_validates freeSystem_validates (by norm_num) (by norm_num)
  obtain ⟨o', ho', hproportion⟩ := hmatched.exists_of_ok ho
  exact ⟨o, o', ho, ho', hproportion⟩

end SiliconBench.Paired
