import SiliconBench.Proofs.Machine.WorkedOut
import SiliconBench.Proofs.Paired.Run

/-!
# PerLine — the cycles of a program are those of its lines

With the measured share of memory instructions the cycles come from the counts by way
of a ratio, a percentage and back. Nothing is lost on that way: the cycles are those
of the counted lines, one by one, and what throttling costs (`run_paysPerLine`). So
lines that are not counted cost nothing, and a program of none has no cycles.
-/

namespace SiliconBench.Paired

open Scalar Instructions Machine

/-- Cycles of a line, where an access to memory takes `access`. -/
def lineCost (access : Rat) (line : List Char) : Rat :=
  if ReachesMemory line then access else 1

/-- The cycles of a system on a program are those of its lines, and what throttling costs. -/
structure Metrics.PaysPerLine (lines : List (List Char)) (c : Config Rat) (p : Pattern)
    (m : Metrics Rat) : Prop where
  accessTime : c.accessTime p = .ok ⟨m.accessTime, m.rates⟩
  cycles : m.cycles = (1 + m.throttling / 100) * (lines.map (lineCost m.accessTime)).sum

/-- Lines cost what they are counted for. -/
theorem sum_lineCost (access : Rat) (lines : List (List Char)) :
    (lines.map (lineCost access)).sum =
      lines.countP isMemory * access + lines.countP fun line => !isMemory line := by
  induction lines with
  | nil => simp
  | cons line rest ih =>
    rw [List.map_cons, List.sum_cons, ih, List.countP_cons, List.countP_cons, isMemory_eq, lineCost]
    by_cases hline : ReachesMemory line
    · simp only [hline, decide_true, Bool.not_true, Bool.false_eq_true, if_true, if_false,
        Nat.cast_add, Nat.cast_one]
      ring
    · simp only [hline, decide_false, Bool.not_false, Bool.false_eq_true, if_true, if_false,
        Nat.cast_add, Nat.cast_one]
      ring

/-- The measured percentage leads back to the counts. -/
theorem cyclesOf_measured (c : Counts) (access : Rat) :
    cyclesOf (c.total : Rat) (percentOf c none / 100) access = c.memory * access + c.other := by
  have hhundred : (100 : Rat) ≠ 0 := by norm_num
  have htotal : (c.total : Rat) = c.memory + c.other := Nat.cast_add _ _
  rw [percentOf, mul_div_cancel_right₀ _ hhundred, cyclesOf]
  by_cases hnone : c.total = 0
  · obtain ⟨hmemory, hother⟩ := Nat.add_eq_zero_iff.mp hnone
    simp [hnone, hmemory, hother]
  · have hsome : (c.total : Rat) ≠ 0 := Nat.cast_ne_zero.mpr hnone
    have hmemory : (c.total : Rat) * (c.memory / c.total) = c.memory := mul_div_cancel₀ _ hsome
    rw [mul_sub, mul_one, hmemory, htotal]
    ring

/-- Whatever a system makes of a stream: where its access time is from, and its cycles. -/
theorem simulate_cycles (growth : Rat → Result Rat Rat) (c : Config Rat) (mix : Mix Rat)
    (p : Pattern) (ratio : Rat) (name : Value) :
    Answers (fun m => c.accessTime p = .ok ⟨m.accessTime, m.rates⟩ ∧
        m.cycles = cyclesOf (mix.memory + mix.other) ratio m.accessTime * (1 + m.throttling / 100))
      (simulate growth c mix p ratio name) := by
  refine .bind fun _ _ => .bind fun access haccess => .bind fun total htotal => .bind fun e he => ?_
  cases htotal
  exact .pure ⟨haccess, (estimate_workedOut growth _ _ _ _ _ e he).cycles_eq⟩

theorem simulate_paysPerLine (growth : Rat → Result Rat Rat) (c : Config Rat) (cap : Int)
    (lines : List (List Char)) (p : Pattern) (name : Value) :
    Answers (Metrics.PaysPerLine (lines.take cap.toNat) c p)
      (simulate growth c (countsOf cap lines).toMix p (percentOf (countsOf cap lines) none / 100)
        name) := by
  intro m hm
  obtain ⟨haccess, hcycles⟩ := simulate_cycles growth c _ p _ name m hm
  refine ⟨haccess, ?_⟩
  rw [hcycles, memory_add_other_toMix, cyclesOf_measured, sum_lineCost, mul_comm]
  rfl

/-- **With the measured share of memory instructions the cycles of a program are those
of its counted lines**, an access for each that reaches memory and one cycle for any
other, and the percentage that throttling costs. -/
theorem run_paysPerLine {growth : Rat → Result Rat Rat} {a b : Config Rat} {program : List Char}
    {p : Pattern} {cap : Int} {o : Outcome Rat}
    (h : run growth a b program p none (whole Rat cap) = .ok o) :
    o.baseline.PaysPerLine ((parse program).take cap.toNat) a p ∧
      o.stacked.PaysPerLine ((parse program).take cap.toNat) b p := by
  have hhundred : (100 : Rat) ≠ 0 := by norm_num
  rw [run_eq_runOn, runOn, modelledPercent_measured, ok_bind, ok_div, real_rat, div_rat hhundred,
    ok_bind] at h
  obtain ⟨baseline, hbaseline, h⟩ := bind_eq_ok.mp h
  obtain ⟨stacked, hstacked, h⟩ := bind_eq_ok.mp h
  obtain ⟨improvement, -, h⟩ := bind_eq_ok.mp h
  cases h
  exact ⟨simulate_paysPerLine growth a cap _ p _ _ hbaseline,
    simulate_paysPerLine growth b cap _ p _ _ hstacked⟩

/-- Two lines are counted, the first of which reaches memory. -/
theorem run_paysPerLine_shortProgram :
    ∃ o, run wholeGrowth coolSystem freeSystem shortProgram .random none (whole Rat 2) = .ok o ∧
      o.baseline.cycles =
        (1 + o.baseline.throttling / 100) * (o.baseline.accessTime + 1) ∧
      o.stacked.cycles = (1 + o.stacked.throttling / 100) * (o.stacked.accessTime + 1) := by
  obtain ⟨g, hg⟩ := exists_grows wholeGrowth_answers
  have hcounts : countsOf 2 (parse shortProgram) = ⟨1, 1, true⟩ := by decide
  have hlines : (parse shortProgram).take 2 = [['l', 'w', ' ', 'a'], ['a', 'd', 'd']] := rfl
  have hmemory : ReachesMemory ['l', 'w', ' ', 'a'] := by decide
  have hother : ¬ ReachesMemory ['a', 'd', 'd'] := by decide
  have hnot : percentOf (countsOf 2 (parse shortProgram)) none ≠ 100 := by
    rw [hcounts]
    norm_num [percentOf, Counts.total]
  have hsum (access : Rat) :
      (((parse shortProgram).take 2).map (lineCost access)).sum = access + 1 := by
    simp [hlines, lineCost, hmemory, hother]
  have hmeasured : IsPercentage none := by
    rintro m ⟨⟩
  have hanswer := (run_eq_runOn ..).trans (runOn_rat hg coolSystem_valid freeSystem_valid hmeasured
    (countsOf 2 (parse shortProgram)) .random fun _ _ h => hnot h.2.1)
  obtain ⟨hbaseline, hstacked⟩ := run_paysPerLine hanswer
  refine ⟨_, hanswer, ?_, ?_⟩
  · rw [← hsum]
    exact hbaseline.cycles
  · rw [← hsum]
    exact hstacked.cycles

end SiliconBench.Paired
