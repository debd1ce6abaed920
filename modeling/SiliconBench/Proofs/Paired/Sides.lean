import SiliconBench.Paired.Benchmark
import SiliconBench.Proofs.Machine.WorkedOut
import SiliconBench.Proofs.Paired.Change

/-!
# Sides — what can be relied on in both sides of a result

Up to the two systems a benchmark settles what both of them see: the mix, the pattern and
the share of memory instructions. What comes after that is the same for any two systems
(`run_stages`), and treats one side as it treats the other. Where arithmetic is exact,
each side has cycles as soon as it has instructions, and never less than none, so that the
improvement is the relative change of the cycles (`run_sound`).
-/

namespace SiliconBench.Paired

open Scalar Instructions Machine

/-! ## Both sides of any result -/

section Stages

variable {α : Type} [Scalar α]

/-- Two systems on a stream, put together. -/
def sides (growth : α → Result α α) (a b : Config α) (mix : Mix α) (p : Pattern)
    (ratio percent : α) : Result α (Outcome α) := do
  let baseline ← simulate growth a mix p ratio (.text planarName)
  let stacked ← simulate growth b mix p ratio (.text stackedName)
  join baseline stacked mix p percent

variable {growth : α → Result α α} {a b : Config α} {mix : Mix α} {p : Pattern}
  {ratio percent : α} {o : Outcome α}

theorem sides_eq_ok :
    sides growth a b mix p ratio percent = .ok o ↔
      simulate growth a mix p ratio (.text planarName) = .ok o.baseline ∧
      simulate growth b mix p ratio (.text stackedName) = .ok o.stacked ∧
      cycleImprovement o.baseline.cycles o.stacked.cycles = .ok o.improvement ∧
      o.mix = mix ∧ o.pattern = p ∧ o.mixPercent = percent := by
  simp only [sides, join, bind_eq_ok, pure_eq_ok, Except.ok.injEq]
  constructor
  · rintro ⟨x, hx, y, hy, i, hi, rfl⟩
    exact ⟨hx, hy, hi, rfl, rfl, rfl⟩
  · rintro ⟨hx, hy, hi, rfl, rfl, rfl⟩
    exact ⟨_, hx, _, hy, _, hi, rfl⟩

/-- Once there is a result, a run of ANY two systems on the same program comes down to
these two on the stream that the result shows. -/
theorem run_stages {program : List Char} {given : Option α} {cap : α}
    (h : run growth a b program p given cap = .ok o) :
    ∃ ratio, ∀ a' b' : Config α, run growth a' b' program p given cap =
      sides growth a' b' o.mix p ratio o.mixPercent := by
  obtain ⟨counts, hcounts, hmix⟩ := bind_eq_ok.mp h
  obtain ⟨percent, hpercent, hshare⟩ := bind_eq_ok.mp hmix
  obtain ⟨ratio, hratio, hsides⟩ := bind_eq_ok.mp hshare
  obtain ⟨-, -, -, hmix, -, hpercent'⟩ := sides_eq_ok.mp hsides
  refine ⟨ratio, fun a' b' => ?_⟩
  simp only [run, hcounts, ok_bind, hpercent, hratio, hmix, hpercent']
  rfl

/-- The name of a system shows in its metrics and nowhere else. -/
theorem simulate_renamed {c : Config α} {name : Value} {m : Metrics α}
    (h : simulate growth c mix p ratio name = .ok m) (name' : Value) :
    simulate growth c mix p ratio name' = .ok { m with system := name' } := by
  obtain ⟨_, hvalid, h⟩ := bind_eq_ok.mp h
  obtain ⟨access, haccess, h⟩ := bind_eq_ok.mp h
  obtain ⟨total, htotal, h⟩ := bind_eq_ok.mp h
  obtain ⟨e, he, h⟩ := bind_eq_ok.mp h
  cases h
  rw [simulate, hvalid, ok_bind, evaluate, haccess, ok_bind, htotal, ok_bind, he]
  rfl

end Stages

/-! ## Metrics -/

variable {α : Type} [Field α] [LinearOrder α] [IsStrictOrderedRing α] [Scalar α]

/-- What can be relied on in the metrics of `n` instructions. -/
structure Metrics.Sound (n : α) (m : Metrics α) : Prop where
  instructions_nonneg : 0 ≤ n
  cycles_nonneg : 0 ≤ m.cycles
  cycles_pos : n ≠ 0 → 0 < m.cycles
  ipc_eq : m.ipc = rateOf n m.cycles

section

variable [LawfulField α] (growth : α → Result α α) (c : Config α) (mix : Mix α) (p : Pattern)
  (ratio : α) (name : Value)

/-- Whatever metrics a system has, its cycles are positive unless there are no instructions. -/
theorem simulate_sound :
    Answers (fun m => ∀ n, mix.total = .ok n → m.Sound n) (simulate growth c mix p ratio name) := by
  refine .bind fun _ _ => .bind fun access _ => .bind fun total htotal => .bind fun e he =>
    .pure fun n hn => ?_
  rw [htotal, Except.ok.injEq] at hn
  subst hn
  have h := estimate_workedOut growth total ratio access.cycles _ c.thermal e he
  have hlonger : 0 < 1 + e.throttling / 100 :=
    add_pos_of_pos_of_nonneg one_pos (div_nonneg h.throttling_nonneg (by norm_num))
  have hplain := h.accepted.cyclesOf_nonneg
  refine ⟨h.accepted.instructions_nonneg, ?_, fun hsome => ?_, h.ipc_eq⟩
  · show 0 ≤ e.cycles
    rw [h.cycles_eq]
    exact mul_nonneg hplain hlonger.le
  · show 0 < e.cycles
    rw [h.cycles_eq]
    exact mul_pos (h.accepted.cyclesOf_pos hsome) hlonger

/-- Power is not negative unless leakage can be. -/
theorem simulate_power_nonneg (hgrowth : ∀ x y, growth x = .ok y → 0 ≤ y) :
    Answers (fun m => 0 ≤ m.power.total) (simulate growth c mix p ratio name) := by
  refine .bind fun _ _ => .bind fun access _ => .bind fun total _ => .bind fun e he => .pure ?_
  have h := estimate_workedOut growth total ratio access.cycles _ c.thermal e he
  obtain ⟨x, y, hy, hstatic⟩ := h.static_eq
  show 0 ≤ e.power.total
  rw [h.total_eq, h.dynamic_eq, hstatic]
  exact add_nonneg (h.accepted.dynamicOf_nonneg _) (mul_nonneg (by norm_num) (hgrowth x y hy))

end

section

variable [LawfulField α] {growth : α → Result α α} {a b : Config α} {program : List Char}
  {p : Pattern} {given : Option α} {cap : α} {o : Outcome α}
  (h : run growth a b program p given cap = .ok o)

include h

/-- The metrics of both sides can be relied on, and the improvement is their change. -/
theorem run_sound :
    ∃ n, o.mix.total = .ok n ∧ o.baseline.Sound n ∧ o.stacked.Sound n ∧
      o.improvement = changeOf o.baseline.cycles o.stacked.cycles false := by
  obtain ⟨ratio, hstages⟩ := run_stages h
  obtain ⟨ha, hb, himprovement, -⟩ := sides_eq_ok.mp ((hstages a b).symm.trans h)
  have htotal : o.mix.total = .ok (o.mix.memory + o.mix.other) := add_eq _ _
  have hbaseline := simulate_sound growth a o.mix p ratio _ _ ha _ htotal
  have hstacked := simulate_sound growth b o.mix p ratio _ _ hb _ htotal
  rw [cycleImprovement_eq hbaseline.cycles_nonneg, Except.ok.injEq] at himprovement
  exact ⟨_, htotal, hbaseline, hstacked, himprovement.symm⟩

theorem run_power_nonneg (hgrowth : ∀ x y, growth x = .ok y → 0 ≤ y) :
    0 ≤ o.baseline.power.total := by
  obtain ⟨ratio, hstages⟩ := run_stages h
  obtain ⟨ha, -⟩ := sides_eq_ok.mp ((hstages a b).symm.trans h)
  exact simulate_power_nonneg growth a o.mix p ratio _ hgrowth _ ha

end

end SiliconBench.Paired
