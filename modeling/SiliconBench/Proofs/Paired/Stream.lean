import SiliconBench.Proofs.Paired.Run

/-!
# Stream — a result tells how much of its program it has seen

What is counted of a program depends on its lines and the cap alone, so everything
that a result says of it can be read off these two: the mix, and the status, which is
the same on BOTH sides (`run_tells`). A result of no instructions costs nothing, on
systems of any access time, and is never refused (`run_costless`).
-/

namespace SiliconBench

open Scalar Instructions Machine

/-- Counts of the first lines, up to the cap. -/
structure Instructions.Counts.OfFirst (lines : List (List Char)) (cap : Int) (c : Counts) :
    Prop where
  memory : c.memory = (lines.take cap.toNat).countP fun line => decide (ReachesMemory line)
  total : c.memory + c.other = min lines.length cap.toNat
  truncated : c.truncated = true ↔ cap.toNat < lines.length

/-- A status that tells how many of the lines were counted. -/
structure Status.Tells (lines : List (List Char)) (cap : Int) (s : Status) : Prop where
  degenerate_iff : s = .degenerate ↔ min lines.length cap.toNat = 0
  budgetExceeded_iff : s = .budgetExceeded ↔
    0 < min lines.length cap.toNat ∧ cap.toNat < lines.length
  completed_iff : s = .completed ↔
    0 < min lines.length cap.toNat ∧ ¬ cap.toNat < lines.length

/-- Metrics of a system that had nothing to do. -/
structure Paired.Metrics.Costless (m : Paired.Metrics Rat) : Prop where
  cycles : m.cycles = 0
  ipc : m.ipc = 0
  dynamic : m.power.dynamic = 0

namespace Instructions

theorem countsOf_ofFirst (cap : Int) (lines : List (List Char)) :
    (countsOf cap lines).OfFirst lines cap where
  memory := by simp only [countsOf, counted, ← isMemory_eq]
  total := total_countsOf cap lines
  truncated := decide_eq_true_iff

end Instructions

namespace Paired

/-! ## Statuses -/

section Statuses

variable {α : Type} [Scalar α]

theorem simulate_status [LawfulCount α] (growth : α → Result α α) (config : Config α) (c : Counts)
    (p : Pattern) (ratio : α) (name : Value) :
    Answers (fun m => m.status = statusOf (whole α c.total) (c.toMix : Mix α))
      (simulate growth config c.toMix p ratio name) := by
  refine .bind fun _ _ => .bind fun _ _ => .bind fun total htotal => .bind fun _ _ => .pure ?_
  rw [Counts.total_toMix, Except.ok.injEq] at htotal
  rw [← htotal]

/-- The status of counts goes by the lines they were taken from. -/
theorem statusOf_tells [LawfulCount α] (cap : Int) (lines : List (List Char)) :
    (statusOf (whole α (countsOf cap lines).total) ((countsOf cap lines).toMix : Mix α)).Tells
      lines cap := by
  have hwhole : isWhole (whole α (countsOf cap lines).total) 0 =
      decide (min lines.length cap.toNat = 0) := by
    rw [isWhole_whole, total_countsOf]
    simp only [Nat.cast_eq_zero]
  have htruncated : isTrue ((countsOf cap lines).toMix : Mix α).truncated =
      decide (cap.toNat < lines.length) := Counts.isTrue_toMix _
  rw [statusOf, hwhole, htruncated]
  by_cases hnone : min lines.length cap.toNat = 0
  · constructor <;> simp [hnone]
  · have hsome : 0 < min lines.length cap.toNat := Nat.pos_of_ne_zero hnone
    by_cases hcut : cap.toNat < lines.length
    · constructor <;> simp [hnone, hsome, hcut]
    · constructor <;> simp [hnone, hsome, hcut]

/-- Whatever a run answers, it shows the counts of the first lines, and the statuses of
both sides tell of them. -/
theorem run_tells [LawfulCount α] (growth : α → Result α α) (a b : Config α)
    (program : List Char) (p : Pattern) (given : Option α) (cap : Int) :
    Answers (fun o => o.mix = (countsOf cap (parse program)).toMix ∧
        o.baseline.status.Tells (parse program) cap ∧ o.stacked.status.Tells (parse program) cap)
      (run growth a b program p given (whole α cap)) := by
  have htells := statusOf_tells (α := α) cap (parse program)
  rw [run_eq_runOn]
  refine .bind fun _ _ => .bind fun _ _ => .bind fun m hm => .bind fun k hk => .bind fun _ _ =>
    .pure ⟨rfl, ?_, ?_⟩
  · rw [simulate_status growth a _ p _ _ m hm]
    exact htells
  · rw [simulate_status growth b _ p _ _ k hk]
    exact htells

end Statuses

/-! ## Nothing to do -/

theorem metricsOf_costless (g : Rat → Rat) (config : Config Rat) {c : Counts} (hc : c.total = 0)
    (p : Pattern) (ratio : Rat) (name : Value) :
    (metricsOf g config c.toMix p ratio name).Costless := by
  have htotal : (c.toMix : Mix Rat).memory + (c.toMix : Mix Rat).other = 0 := by
    rw [memory_add_other_toMix, hc, Nat.cast_zero]
  -- no instructions take no cycles, and throttling is a share of them
  constructor <;> simp [metricsOf, htotal, estimateOf, cyclesOf, rateOf, dynamicOf]

/-- A program of which nothing is counted has a result, and it costs nothing. -/
theorem run_costless {growth : Rat → Result Rat Rat}
    (hgrowth : ∀ x, 0 ≤ x → x ≤ 100 → ∃ y, growth x = .ok y) {a b : Config Rat}
    {given : Option Rat} (ha : a.validate = .ok ()) (hb : b.validate = .ok ())
    (hgiven : IsPercentage given) {program : List Char} {cap : Int} (p : Pattern)
    (hnone : min (parse program).length cap.toNat = 0) :
    ∃ o, run growth a b program p given (whole Rat cap) = .ok o ∧ o.baseline.Costless ∧
      o.stacked.Costless ∧ o.improvement = 0 := by
  obtain ⟨g, hg⟩ := exists_grows hgrowth
  have hzero : (countsOf cap (parse program)).total = 0 := (total_countsOf _ _).trans hnone
  have hanswer := runOn_rat hg (Config.validate_eq_ok.mp ha) (Config.validate_eq_ok.mp hb) hgiven
    (countsOf cap (parse program)) p (by simp [hzero])
  have hbaseline := metricsOf_costless g a hzero p
  have hstacked := metricsOf_costless g b hzero p
  refine ⟨_, (run_eq_runOn ..).trans hanswer, hbaseline _ _, hstacked _ _, ?_⟩
  simp [outcomeOf, improvementOf, (hbaseline _ _).cycles]

end Paired

end SiliconBench
