import SiliconBench.Command.Processor
import SiliconBench.Proofs.Command.Script
import SiliconBench.Proofs.Paired.Sides
import SiliconBench.Proofs.Paired.Stream

/-!
# Benchmark — what a command's benchmark comes to, and what it warns of

A command benchmarks two systems stage by stage and logs what it does. The log only looks
on: the benchmark comes to what `Paired.run` comes to, be it an outcome or a fault, and the
line that warns of the cap is the only warning of it (`benchmark_warns`). That line is
written before anything can go wrong, so it is there whatever the benchmark comes to.
-/

namespace SiliconBench

open Scalar Instructions Machine Paired

/-! ## What the log looks at -/

section Hot

variable {α : Type} [Scalar α] (growth : α → Result α α)

/-- Once there is an estimate, its throttling can be compared with none. -/
theorem Machine.estimate_isHot (n ratio access : α) (style : Integration) (thermal : Thermal α) :
    Answers (fun e => ∃ isHot, lt (whole α 0) e.throttling = .ok isHot)
      (estimate growth n ratio access style thermal) := by
  refine .bind fun _ _ => .bind fun _ _ => .bind fun _ _ => .bind fun n _ => .bind fun plain _ =>
    .bind fun _ _ => .bind fun _ _ => .ite .refuse_bind ?_
  refine .bind fun rate _ => .bind fun dynamic _ => .bind fun warm _ => .bind fun rise _ =>
    .bind fun static _ => .bind fun total _ => .bind fun temperature _ => .bind fun throttling _ =>
    .bind fun isHot hhot => ?_
  exact .ite (.bind fun _ _ => .bind fun _ _ => .pure ⟨isHot, hhot⟩)
    (.bind fun _ _ => .bind fun _ _ => .pure ⟨isHot, hhot⟩)

theorem Paired.simulate_isHot (c : Config α) (mix : Mix α) (p : Pattern) (ratio : α)
    (name : Value) :
    Answers (fun m => ∃ isHot, lt (whole α 0) m.throttling = .ok isHot)
      (simulate growth c mix p ratio name) :=
  .bind fun _ _ => .bind fun _ _ => .bind fun _ _ => .bind fun e he =>
    .pure (estimate_isHot growth _ _ _ _ _ e he)

end Hot

namespace Command.Processor

open Script

/-! ## Stage by stage -/

theorem simulateLogged_warns (c : Config Value) (mix : Mix Value) (p : Pattern) (ratio : Value)
    (name : String) :
    Warns [] (simulateLogged c mix p ratio name)
      ((simulate leakageGrowth c mix p ratio (.text name)).mapError .fault) := by
  refine .look fun m hm => ?_
  obtain ⟨isHot, hhot⟩ := simulate_isHot leakageGrowth c mix p ratio (.text name) m hm
  change lt (.whole 0) m.throttling = _ at hhot
  rw [hhot]
  refine .after (.quiet (.lift (.ok isHot))) (.ite ?_ ?_)
  · exact .note (by decide) (.note (by decide) (.pure m))
  · exact .note (by decide) (.pure m)

theorem joinLogged_warns (a b : Config Value) (mix : Mix Value) (p : Pattern)
    (percent ratio : Value) :
    Warns [] (joinLogged a b mix p percent ratio)
      ((sides leakageGrowth a b mix p ratio percent).mapError .fault) := by
  refine .follow (simulateLogged_warns a mix p ratio _) fun baseline _ => ?_
  refine .follow (simulateLogged_warns b mix p ratio _) fun stacked _ => ?_
  refine .look fun o _ => ?_
  exact .note (by decide) (.pure o)

theorem benchmarkOn_warns (a b : Config Value) (c : Counts) (p : Pattern)
    (given : Option Value) :
    Warns [] (benchmarkOn a b c p given)
      ((runOn leakageGrowth a b c.toMix p given).mapError .fault) := by
  refine .compute fun percent _ => .compute fun ratio _ => .note (by decide) (.ite ?_ ?_)
  · exact .note (by decide) (joinLogged_warns a b _ p percent ratio)
  · exact joinLogged_warns a b _ p percent ratio

/-- The line that warns of a cap. -/
def capLine (cap : Int) : String :=
  logLine .warning "chipsim.cpu.instruction_mix" ("Instruction stream exceeds cap of " ++
    toString cap ++ " instructions; remaining lines ignored")

/-- Counting warns once of lines that are left out, and not at all if there are none. -/
theorem warnings_warns (c : Counts) (cap : Int) :
    Warns (if c.truncated then [capLine cap] else [])
      (((c.toMix : Mix Value).warnings (.whole cap)).forM fun w => log .warning mixPart w.message)
      (.ok ()) := by
  rw [Counts.warnings_toMix]
  cases c.truncated with
  | true =>
    have hlog := Warns.log .warning mixPart (Warning.capReached (Value.whole cap)).message
    exact hlog.bind (.pure ())
  | false => exact .pure ()

/-- **The log only looks on.** The benchmark comes to what it comes to without a log, and
warns of the cap once if lines are left out. -/
theorem benchmark_warns (a b : Config Value) (program : List Char) (p : Pattern)
    (given : Option Value) (cap : Int) :
    Warns (if cap.toNat < (Instructions.parse program).length then [capLine cap] else [])
      (benchmark a b program p given (.whole cap))
      ((Paired.run leakageGrowth a b program p given (.whole cap)).mapError .fault) := by
  set counts := countsOf cap (Instructions.parse program) with hcounts
  have hcount : countProgram program (Value.whole cap) = .ok counts := count_whole (α := Value) ..
  have hrun : Paired.run leakageGrowth a b program p given (Value.whole cap) =
      runOn leakageGrowth a b counts.toMix p given := run_eq_runOn (α := Value) ..
  have hcut : counts.truncated = true ↔ cap.toNat < (Instructions.parse program).length :=
    (countsOf_ofFirst _ _).truncated
  rw [hrun, benchmark, hcount]
  refine .after (.quiet (.lift (.ok counts))) ?_
  have hwarn := (warnings_warns counts cap).bind (f := fun _ => benchmarkOn a b counts p given)
    (benchmarkOn_warns a b counts p given)
  simp only [hcut] at hwarn
  exact hwarn

/-! ## What is said of a program -/

/-- **What a benchmark says of its program.** Whatever the arithmetic, counting answers the
counts of the first lines, the result shows these counts, and each side's status tells of
them. The command's benchmark comes to the same result, and of the lines that it adds to
any transcript one warns of the cap if there are more lines, and none if there are not; it
adds no other warning. Over the rationals a program of which nothing is counted has a
result, and it costs nothing. -/
theorem benchmark_tells_program (program : List Char) (cap : Int) (p : Pattern) :
    (∀ {α : Type} [Scalar α] [LawfulCount α], ∃ c : Counts,
      countProgram program (whole α cap) = .ok c ∧ c.OfFirst (Instructions.parse program) cap ∧
      ∀ growth a b given o, Paired.run growth a b program p given (whole α cap) = .ok o →
        o.mix = c.toMix ∧ o.baseline.status.Tells (Instructions.parse program) cap ∧
          o.stacked.status.Tells (Instructions.parse program) cap) ∧
    (∀ (a b : Config Value) (given : Option Value) (t : Transcript), ∃ written,
      (benchmark a b program p given (whole Value cap)).run.run t =
        ((Paired.run leakageGrowth a b program p given (whole Value cap)).mapError .fault,
          { t with lines := written ++ t.lines }) ∧
      written.filter isWarning =
        if cap.toNat < (Instructions.parse program).length then [capLine cap] else []) ∧
    (min (Instructions.parse program).length cap.toNat = 0 →
      ∀ growth : Rat → Result Rat Rat, (∀ x, 0 ≤ x → x ≤ 100 → ∃ y, growth x = .ok y) →
      ∀ (a b : Config Rat) (given : Option Rat), a.validate = .ok () → b.validate = .ok () →
        IsPercentage given →
        ∃ o, Paired.run growth a b program p given (whole Rat cap) = .ok o ∧
          o.baseline.Costless ∧ o.stacked.Costless ∧ o.improvement = 0) := by
  refine ⟨fun {α} _ _ => ⟨countsOf cap (Instructions.parse program), ?_, ?_, ?_⟩, ?_, ?_⟩
  · exact count_whole _ _
  · exact countsOf_ofFirst _ _
  · intro growth a b given
    exact run_tells growth a b program p given cap
  · intro a b given
    exact (benchmark_warns a b program p given cap).run
  · intro hnone growth hgrowth a b given ha hb hgiven
    exact run_costless hgrowth ha hb hgiven p hnone

/-- Of three instructions two are counted, and the command warns of it once; or none is
counted, and even a memory that takes no time is not refused. -/
theorem benchmark_tells_program_shortProgram :
    (∃ o, Paired.run wholeGrowth coolSystem freeSystem shortProgram .random (some 50)
        (whole Rat 2) = .ok o ∧
      o.baseline.status = .budgetExceeded ∧ o.stacked.status = .budgetExceeded) ∧
    (∃ result written, (benchmark planar stacked shortProgram .random none
        (whole Value 2)).run.run ⟨false, []⟩ = (result, ⟨false, written⟩) ∧
      written.filter isWarning = [capLine 2]) ∧
    (∃ o, Paired.run wholeGrowth freeSystem freeSystem shortProgram .random (some 100)
        (whole Rat (-1)) = .ok o ∧
      o.baseline.Costless ∧ o.stacked.Costless ∧ o.improvement = 0) := by
  obtain ⟨g, hg⟩ := exists_grows wholeGrowth_answers
  have hhalf : IsPercentage (some 50) := by
    rintro m ⟨rfl⟩
    norm_num
  have hall : IsPercentage (some 100) := by
    rintro m ⟨rfl⟩
    norm_num
  obtain ⟨hcounts, hlogs, -⟩ := benchmark_tells_program shortProgram 2 .random
  refine ⟨?_, ?_, ?_⟩
  · have hanswer := (run_eq_runOn ..).trans (runOn_rat hg coolSystem_valid freeSystem_valid hhalf
      (countsOf 2 (Instructions.parse shortProgram)) .random (by simp [percentOf]))
    obtain ⟨c, -, -, htells⟩ := hcounts (α := Rat)
    obtain ⟨-, hbaseline, hstacked⟩ := htells _ _ _ _ _ hanswer
    refine ⟨_, hanswer, hbaseline.budgetExceeded_iff.mpr ?_, hstacked.budgetExceeded_iff.mpr ?_⟩
    · decide
    · decide
  · obtain ⟨written, hwritten, hwarned⟩ := hlogs planar stacked none ⟨false, []⟩
    rw [List.append_nil] at hwritten
    exact ⟨_, written, hwritten, hwarned⟩
  · exact (benchmark_tells_program shortProgram (-1) .random).2.2 (by decide) wholeGrowth
      wholeGrowth_answers freeSystem freeSystem (some 100) freeSystem_validates
      freeSystem_validates hall

end Command.Processor

end SiliconBench
