import SiliconBench.Proofs.Paired.Run
import SiliconBench.Proofs.Paired.Sides

/-!
# Swap — neither side of a comparison is special

What a system is comes from its settings, and from nothing that it has been called or
compared with. So with the systems the other way round a benchmark gives the same metrics
the other way round, and the two improvements cancel (`run_swap`).
-/

namespace SiliconBench.Paired

open Scalar Instructions Machine

variable {α : Type} [Field α] [LinearOrder α] [Scalar α]

/-- Two outcomes with their sides the other way round. -/
structure Outcome.Mirrors (o o' : Outcome α) : Prop where
  baseline_eq : o'.baseline = { o.stacked with system := o'.baseline.system }
  stacked_eq : o'.stacked = { o.baseline with system := o'.stacked.system }
  mix_eq : o'.mix = o.mix
  pattern_eq : o'.pattern = o.pattern
  mixPercent_eq : o'.mixPercent = o.mixPercent
  /-- what one side is left with of the other's cycles is the other way round as well -/
  reciprocal : ∀ n, o.mix.total = .ok n → n ≠ 0 →
    (1 - o.improvement / 100) * (1 - o'.improvement / 100) = 1

variable [IsStrictOrderedRing α] [LawfulField α] {growth : α → Result α α} {a b : Config α}
  {program : List Char} {p : Pattern} {given : Option α} {cap : α} {o : Outcome α}

/-- A system that is compared with itself improves nothing. -/
theorem run_self (h : run growth a a program p given cap = .ok o) : o.improvement = 0 := by
  obtain ⟨ratio, hstages⟩ := run_stages h
  obtain ⟨hbaseline, hstacked, -⟩ := sides_eq_ok.mp ((hstages a a).symm.trans h)
  obtain ⟨-, -, -, -, himprovement⟩ := run_sound h
  have hsame : o.stacked.cycles = o.baseline.cycles := by
    rw [simulate_renamed hbaseline, Except.ok.injEq] at hstacked
    rw [← hstacked]
  rw [himprovement, hsame, changeOf_self]

/-- **A comparison is fair.** Whenever a benchmark of two systems has an outcome, so has
that of the same two the other way round, on the same stream. It has the same metrics but
for the names; of a stream with instructions the improvements cancel, and a system that is
compared with itself improves nothing. -/
theorem run_swap (h : run growth a b program p given cap = .ok o) :
    ∃ o', run growth b a program p given cap = .ok o' ∧ o.Mirrors o' ∧
      (a = b → o.improvement = 0) := by
  obtain ⟨ratio, hstages⟩ := run_stages h
  obtain ⟨ha, hb, -, -, hpattern, -⟩ := sides_eq_ok.mp ((hstages a b).symm.trans h)
  obtain ⟨n, htotal, hbaseline, hstacked, himprovement⟩ := run_sound h
  have hswapped : run growth b a program p given cap =
      .ok { baseline := { o.stacked with system := .text planarName }
            stacked := { o.baseline with system := .text stackedName }
            improvement := changeOf o.stacked.cycles o.baseline.cycles false
            mix := o.mix
            pattern := p
            mixPercent := o.mixPercent } := by
    rw [hstages, sides_eq_ok]
    exact ⟨simulate_renamed hb _, simulate_renamed ha _,
      cycleImprovement_eq hstacked.cycles_nonneg _, rfl, rfl, rfl⟩
  refine ⟨_, hswapped, ⟨rfl, rfl, rfl, hpattern.symm, rfl, fun k hk hsome => ?_⟩, ?_⟩
  · rw [htotal, Except.ok.injEq] at hk
    subst hk
    rw [himprovement]
    exact one_sub_changeOf_mul (hbaseline.cycles_pos hsome) (hstacked.cycles_pos hsome)
  · rintro rfl
    exact run_self h

theorem run_swap_shortProgram :
    ∃ o o', run wholeGrowth coolSystem freeSystem shortProgram .random (some 50) (whole Rat 10) =
        .ok o ∧
      run wholeGrowth freeSystem coolSystem shortProgram .random (some 50) (whole Rat 10) =
        .ok o' ∧
      (1 - o.improvement / 100) * (1 - o'.improvement / 100) = 1 := by
  obtain ⟨g, hanswer⟩ := run_shortProgram
  obtain ⟨o', hswapped, hmirrors, -⟩ := run_swap hanswer
  have htotal : ((⟨2, 1, false⟩ : Counts).toMix : Mix Rat).total = .ok (3 : Nat) :=
    Counts.total_toMix _
  exact ⟨_, o', hanswer, hswapped, hmirrors.reciprocal _ htotal (by norm_num)⟩

end SiliconBench.Paired
