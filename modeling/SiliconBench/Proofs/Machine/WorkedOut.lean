import SiliconBench.Proofs.Machine.Estimate

/-!
# WorkedOut — how the figures of an estimate come about

An estimate checks its arguments before it works anything out, so whatever it answers is
of a stream that can be accepted. What is relied on in an answer does not go by how
leakage grows: cycles are lengthened by throttling, the rate is of these cycles, and
leakage is half of SOMETHING that the growth has answered (`estimate_workedOut`). So
nothing needs to be known of the growth where only cycles matter.
-/

namespace SiliconBench.Machine

open Scalar

variable {α : Type} [Field α] [LinearOrder α] [IsStrictOrderedRing α] [Scalar α] [LawfulField α]

theorem staticPower_answers (growth : α → Result α α) (rise : α) :
    Answers (fun s => ∃ x y, growth x = .ok y ∧ s = 0.5 * y) (staticPower growth rise) := by
  have hhalf : leakageBase α = 0.5 := by norm_num [leakageBase, real_eq]
  have hten : real α 10 ≠ 0 := by norm_num [real_eq]
  refine .bind fun r _ => ?_
  intro s hs
  rw [ok_div, div_eq hten, ok_bind] at hs
  obtain ⟨_, hbase, hs⟩ := bind_eq_ok.mp hs
  obtain ⟨y, hy, hs⟩ := bind_eq_ok.mp hs
  cases hbase
  rw [mul_eq, hhalf, Except.ok.injEq] at hs
  exact ⟨_, y, hy, hs.symm⟩

/-- How the figures of an estimate were worked out, however leakage grows. -/
structure Estimate.WorkedOut (growth : α → Result α α) (n ratio access : α) (style : Integration)
    (e : Estimate α) : Prop where
  accepted : Accepted n ratio access
  throttling_nonneg : 0 ≤ e.throttling
  cycles_eq : e.cycles = cyclesOf n ratio access * (1 + e.throttling / 100)
  ipc_eq : e.ipc = rateOf n e.cycles
  dynamic_eq : e.power.dynamic = dynamicOf n ratio access style
  static_eq : ∃ x y, growth x = .ok y ∧ e.power.static = 0.5 * y
  total_eq : e.power.total = e.power.dynamic + e.power.static

theorem estimate_workedOut (growth : α → Result α α) (n ratio access : α) (style : Integration)
    (thermal : Thermal α) :
    Answers (Estimate.WorkedOut growth n ratio access style)
      (estimate growth n ratio access style thermal) := by
  simp only [estimate, toReal_eq, plainCycles_eq, perCycle_eq, energyPerInstruction_eq,
    throttlePercent_eq, lt_eq, le_eq, ok_add, add_eq, ok_sub, sub_eq, ok_mul, mul_eq,
    lengthened_eq, whole_eq, Int.cast_zero, ok_bind, decide_eq_true_eq, ← Bool.decide_and]
  refine .bind fun _ hn => .bind fun _ hratio => .bind fun _ haccess => ?_
  rw [requireNonNegative_ok_iff] at hn haccess
  rw [requireFraction_ok_iff] at hratio
  split
  case isTrue => exact .refuse_bind
  case isFalse hfree =>
    have haccepted : Accepted n ratio access :=
      ⟨hn, hratio.1, hratio.2, haccess, fun h => hfree ⟨h.1,
        (cyclesOf_nonpos_iff h.1 hratio.1 hratio.2 haccess).mpr h.2⟩⟩
    refine .bind fun static hstatic => ?_
    have hleakage := staticPower_answers growth _ static hstatic
    generalize hthrottling : throttleOf _ thermal.limit = throttling
    have hnonneg : 0 ≤ throttling := hthrottling ▸ throttleOf_nonneg _ _
    split
    case isTrue => exact .pure ⟨haccepted, hnonneg, rfl, rfl, rfl, hleakage, rfl⟩
    case isFalse hcool =>
      have hnone : throttling = 0 := le_antisymm (not_lt.mp hcool) hnonneg
      exact .pure ⟨haccepted, hnonneg, by simp [hnone], rfl, rfl, hleakage, rfl⟩

end SiliconBench.Machine
