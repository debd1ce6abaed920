import SiliconBench.Proofs.Instructions.Count
import SiliconBench.Proofs.Machine.Monotone
import SiliconBench.Proofs.Paired.Simulate

/-!
# Run — the whole benchmark, over the rationals

Every stage of the benchmark has an answer over the rationals, for systems that make
sense and a percentage that is one. The only refusal that is left is that of
instructions that take no cycles; without it a run comes to `outcomeOf` (`runOn_rat`).
-/

namespace SiliconBench.Paired

open Scalar Instructions Machine

/-! ## A counted program -/

section Counted

variable {α : Type} [Scalar α]

/-- The benchmark on a program that was counted. -/
def runOn (growth : α → Result α α) (a b : Config α) (mix : Mix α) (p : Pattern)
    (given : Option α) : Result α (Outcome α) := do
  let percent ← modelledPercent mix given
  let ratio : α ← percent / real α 100
  let baseline ← simulate growth a mix p ratio (.text planarName)
  let stacked ← simulate growth b mix p ratio (.text stackedName)
  join baseline stacked mix p percent

/-- Of a program nothing is left but its counts. -/
theorem run_eq_runOn [LawfulCount α] (growth : α → Result α α) (a b : Config α)
    (program : List Char) (p : Pattern) (given : Option α) (cap : Int) :
    run growth a b program p given (whole α cap) =
      runOn growth a b (countsOf cap (parse program)).toMix p given := by
  rw [run, countProgram, count_whole]
  rfl

end Counted

/-! ## The share of memory instructions -/

/-- A percentage, if any is given. -/
def IsPercentage (given : Option Rat) : Prop :=
  ∀ m, given = some m → 0 ≤ m ∧ m ≤ 100

/-- The percentage of memory instructions to go by: the given one, or the one measured.
Of no instructions at all none reach memory. -/
def percentOf (c : Counts) : Option Rat → Rat
  | none => c.memory / c.total * 100
  | some m => m

theorem memory_add_other_toMix (c : Counts) :
    (c.toMix : Mix Rat).memory + (c.toMix : Mix Rat).other = c.total :=
  (Nat.cast_add _ _).symm

theorem memoryRatio_rat (c : Counts) :
    (c.toMix : Mix Rat).memoryRatio = .ok ((c.memory : Rat) / c.total) := by
  rw [Mix.memoryRatio, Counts.total_toMix, ok_bind, lt_rat, ok_bind]
  by_cases hnone : c.total = 0
  · simp [hnone]
  · have hsome : (c.total : Rat) ≠ 0 := Nat.cast_ne_zero.mpr hnone
    have hpos : 0 < c.total := Nat.pos_of_ne_zero hnone
    simp [Counts.toMix, hpos, div_rat hsome]

theorem modelledPercent_measured (c : Counts) :
    modelledPercent (c.toMix : Mix Rat) none = .ok (percentOf c none) := by
  rw [modelledPercent, memoryRatio_rat]
  rfl

theorem modelledPercent_given (mix : Mix Rat) (m : Rat) :
    modelledPercent mix (some m) =
      if 0 ≤ m ∧ m ≤ 100 then .ok m else refuse (.mixPercent m) := by
  by_cases h : 0 ≤ m ∧ m ≤ 100
  · simp [modelledPercent, h]
  · rw [if_neg h]
    simp [modelledPercent, h, refuse]

variable {given : Option Rat}

theorem modelledPercent_rat (c : Counts) (h : IsPercentage given) :
    modelledPercent (c.toMix : Mix Rat) given = .ok (percentOf c given) := by
  cases given with
  | none => exact modelledPercent_measured c
  | some m => rw [modelledPercent_given, if_pos (h m rfl), percentOf]

theorem percentOf_mem (c : Counts) (h : IsPercentage given) :
    0 ≤ percentOf c given ∧ percentOf c given ≤ 100 := by
  cases given with
  | some m => exact h m rfl
  | none =>
    have hle : (c.memory : Rat) ≤ c.total := Nat.cast_le.mpr (Nat.le_add_right _ _)
    have hshare : 0 ≤ (c.memory : Rat) / c.total := by positivity
    have hshare' : (c.memory : Rat) / c.total ≤ 1 := div_le_one_of_le₀ hle (Nat.cast_nonneg _)
    constructor
    · rw [percentOf]
      positivity
    · rw [percentOf]
      linarith

/-! ## Both sides -/

/-- The percentage of cycles saved; none where the baseline has no cycles. -/
def improvementOf (baseline stacked : Rat) : Rat :=
  if baseline ≤ 0 then 0 else (baseline - stacked) / baseline * 100

theorem cycleImprovement_rat (baseline stacked : Rat) :
    cycleImprovement baseline stacked = .ok (improvementOf baseline stacked) := by
  by_cases h : baseline ≤ 0
  · simp [cycleImprovement, improvementOf, h]
  · have hne : baseline ≠ 0 := fun heq => h heq.le
    simp [cycleImprovement, improvementOf, h, div_rat hne]

/-- What both systems make of a program. -/
def outcomeOf (g : Rat → Rat) (a b : Config Rat) (mix : Mix Rat) (p : Pattern) (percent : Rat) :
    Outcome Rat :=
  let baseline := metricsOf g a mix p (percent / 100) (.text planarName)
  let stacked := metricsOf g b mix p (percent / 100) (.text stackedName)
  ⟨baseline, stacked, improvementOf baseline.cycles stacked.cycles, mix, p, percent⟩

section

variable {growth : Rat → Result Rat Rat} {g : Rat → Rat} (hg : Grows growth g)

include hg

theorem simulate_toMix {c : Config Rat} (hc : c.Valid) {percent : Rat} (hlow : 0 ≤ percent)
    (hhigh : percent ≤ 100) (counts : Counts) (p : Pattern)
    (hfree : ¬ (0 < counts.total ∧ percent = 100 ∧ c.meanTime p = 0)) (name : Value) :
    simulate growth c counts.toMix p (percent / 100) name =
      .ok (metricsOf g c counts.toMix p (percent / 100) name) := by
  have hhundred : (100 : Rat) ≠ 0 := by norm_num
  have hratio : 0 ≤ percent / 100 := div_nonneg hlow (by norm_num)
  have hratio' : percent / 100 ≤ 1 := div_le_one_of_le₀ hhigh (by norm_num)
  have hmemory : 0 ≤ (counts.toMix : Mix Rat).memory := Nat.cast_nonneg counts.memory
  have hother : 0 ≤ (counts.toMix : Mix Rat).other := Nat.cast_nonneg counts.other
  rw [simulate_of_valid hg hmemory hother hratio hratio' hc, if_neg]
  rintro ⟨hsome, hall, hnone⟩
  rw [memory_add_other_toMix] at hsome
  exact hfree ⟨Nat.cast_pos.mp hsome, (div_eq_one_iff_eq hhundred).mp hall, hnone⟩

/-- A run has an outcome unless all of the instructions, of which there are some, reach
a memory that takes no time. -/
theorem runOn_rat {a b : Config Rat} (ha : a.Valid) (hb : b.Valid) (hgiven : IsPercentage given)
    (counts : Counts) (p : Pattern)
    (hfree : ∀ c ∈ [a, b], ¬ (0 < counts.total ∧ percentOf counts given = 100 ∧ c.meanTime p = 0)) :
    runOn growth a b counts.toMix p given =
      .ok (outcomeOf g a b counts.toMix p (percentOf counts given)) := by
  obtain ⟨hlow, hhigh⟩ := percentOf_mem counts hgiven
  have hhundred : (100 : Rat) ≠ 0 := by norm_num
  have hbaseline := simulate_toMix hg ha hlow hhigh counts p (hfree a (by simp))
  have hstacked := simulate_toMix hg hb hlow hhigh counts p (hfree b (by simp))
  rw [runOn, modelledPercent_rat _ hgiven, ok_bind, ok_div, real_rat, div_rat hhundred, ok_bind,
    hbaseline, ok_bind, hstacked, ok_bind, join, cycleImprovement_rat]
  rfl

end

/-! ## A program and a system to try statements on -/

/-- Three instructions and a comment; the first and the last reach memory. -/
def shortProgram : List Char :=
  ['l', 'w', ' ', 'a', '\n', '#', 'l', 'w', '\n', 'a', 'd', 'd', '\n', 's', 'w', ' ', 'b']

/-- A flat system that does not warm up. -/
def coolSystem : Config Rat :=
  { Config.flatSystem with thermal := { Config.flatSystem.thermal with resistance := 0 } }

theorem coolSystem_validates : coolSystem.validate = .ok () := rfl

theorem coolSystem_valid : coolSystem.Valid := Config.validate_eq_ok.mp coolSystem_validates

theorem freeSystem_valid : freeSystem.Valid := Config.validate_eq_ok.mp freeSystem_validates

/-- All three instructions are counted, and half of them are taken to reach memory. -/
theorem run_shortProgram :
    ∃ g, run wholeGrowth coolSystem freeSystem shortProgram .random (some 50) (whole Rat 10) =
      .ok (outcomeOf g coolSystem freeSystem (⟨2, 1, false⟩ : Counts).toMix .random 50) := by
  obtain ⟨g, hg⟩ := exists_grows wholeGrowth_answers
  have hcounts : countsOf 10 (parse shortProgram) = ⟨2, 1, false⟩ := by decide
  have hhalf : IsPercentage (some 50) := by
    rintro m ⟨rfl⟩
    norm_num
  have hanswer := runOn_rat hg coolSystem_valid freeSystem_valid hhalf ⟨2, 1, false⟩ .random
    (by simp [percentOf])
  refine ⟨g, ?_⟩
  rw [run_eq_runOn, hcounts]
  exact hanswer

end SiliconBench.Paired
