import SiliconBench.Paired.Comparison
import SiliconBench.Proofs.Machine.Consistent
import SiliconBench.Proofs.Paired.Run
import SiliconBench.Proofs.Paired.Sides

/-!
# Table — the comparison says what the headline says

The table is worked out again from the metrics, with formulas of its own, and still its
rows show the very improvements that stand above it. A row's improvement is positive where
the stacked system is better and negative where it is worse, also for temperatures below
zero. And cycles and instructions per cycle tell the same story: as long as no side has
hardly any cycles, one is the other's reciprocal (`compare_agrees`).
-/

namespace SiliconBench.Paired

open Scalar Instructions Machine

/-! ## Rows and tables -/

section

variable {α : Type} [LinearOrder α]

/-- The stacked system is strictly better in this row. -/
def Row.StackedBetter (r : Row α) : Prop :=
  if r.metric.higherIsBetter then r.baseline < r.stacked else r.stacked < r.baseline

/-- The stacked system is strictly worse in this row. -/
def Row.StackedWorse (r : Row α) : Prop :=
  if r.metric.higherIsBetter then r.stacked < r.baseline else r.baseline < r.stacked

end

variable {α : Type} [Field α] [LinearOrder α] [Scalar α]

/-- The row of a metric. -/
def rowOf (o : Outcome α) (m : Metric) : Row α where
  metric := m
  baseline := m.value o.baseline
  stacked := m.value o.stacked
  improvement := changeOf (m.value o.baseline) (m.value o.stacked) m.higherIsBetter

/-- The table of an outcome whose baseline does not draw negative power. -/
def tableOf (o : Outcome α) : Comparison α where
  rows := Metric.all.map (rowOf o)
  cycleImprovement := o.improvement
  powerImprovement := changeOf o.baseline.power.total o.stacked.power.total false
  temperatureChange := o.stacked.temperature - o.baseline.temperature

/-- A row is found under the key of its metric. -/
theorem row_tableOf (o : Outcome α) (m : Metric) :
    (tableOf o).row (.text m.key) = .ok (rowOf o m) := by
  cases m <;> rfl

/-- A table goes with the outcome that it is made of. -/
structure Outcome.ShownBy (o : Outcome α) (c : Comparison α) : Prop where
  /-- every metric has a row, in the order of the table -/
  metrics_eq : c.rows.map Row.metric = Metric.all
  baseline_eq : ∀ r ∈ c.rows, r.baseline = r.metric.value o.baseline
  stacked_eq : ∀ r ∈ c.rows, r.stacked = r.metric.value o.stacked
  /-- improvements have the sign of what happened, in the direction of the row -/
  pos_iff : ∀ r ∈ c.rows, r.baseline ≠ 0 → (0 < r.improvement ↔ r.StackedBetter)
  neg_iff : ∀ r ∈ c.rows, r.baseline ≠ 0 → (r.improvement < 0 ↔ r.StackedWorse)
  /-- the headline of the cycles -/
  cycles_row : ∃ r, c.row (.text "total_cycles") = .ok r ∧ r.improvement = o.improvement
  /-- the headline of the power -/
  power_row : ∃ r, c.row (.text "power_total") = .ok r ∧ r.improvement = c.powerImprovement ∧
    powerImprovement o.baseline o.stacked = .ok r.improvement
  /-- what is left of the cycles is the reciprocal of what became of the rate -/
  reciprocal : ∀ n, o.mix.total = .ok n → n ≠ 0 →
    cycleFloor α ≤ o.baseline.cycles → cycleFloor α ≤ o.stacked.cycles →
    ∃ cycles ipc, c.row (.text "total_cycles") = .ok cycles ∧ c.row (.text "ipc") = .ok ipc ∧
      (1 - cycles.improvement / 100) * (1 + ipc.improvement / 100) = 1

variable [IsStrictOrderedRing α] [LawfulMagnitude α]

theorem of_eq_rowOf (o : Outcome α) (m : Metric) : Row.of o m = .ok (rowOf o m) := by
  rw [Row.of, relativeImprovement_eq]
  rfl

theorem compare_eq_tableOf {o : Outcome α} (h : 0 ≤ o.baseline.power.total) :
    o.compare = .ok (tableOf o) := by
  rw [Outcome.compare, each_eq_map fun m _ => of_eq_rowOf o m, ok_bind, powerImprovement_eq h,
    ok_bind, ok_sub, sub_eq, ok_bind]
  rfl

/-- Of the same instructions, a side takes as many times the cycles as the other side gets
done in a cycle. -/
theorem Metrics.Sound.reciprocal {n : α} {x y : Metrics α} (hx : x.Sound n) (hy : y.Sound n)
    (hn : n ≠ 0) (hxfloor : cycleFloor α ≤ x.cycles) (hyfloor : cycleFloor α ≤ y.cycles) :
    (1 - changeOf x.cycles y.cycles false / 100) * (1 + changeOf x.ipc y.ipc true / 100) = 1 := by
  have hxrate : x.ipc * x.cycles = n := by
    rw [hx.ipc_eq]
    exact rateOf_mul_cycles hx.instructions_nonneg (.inr hxfloor)
  have hyrate : y.ipc * y.cycles = n := by
    rw [hy.ipc_eq]
    exact rateOf_mul_cycles hy.instructions_nonneg (.inr hyfloor)
  have hxcycles : 0 < x.cycles := hx.cycles_pos hn
  have hxipc : 0 < x.ipc := by
    have hsome : 0 < n := hx.instructions_nonneg.lt_of_ne' hn
    rw [← hxrate] at hsome
    exact pos_of_mul_pos_left hsome hxcycles.le
  calc (1 - changeOf x.cycles y.cycles false / 100) * (1 + changeOf x.ipc y.ipc true / 100)
    _ = y.cycles / x.cycles * (y.ipc / x.ipc) := by
      rw [one_sub_changeOf hxcycles, one_add_changeOf hxipc]
    _ = y.ipc * y.cycles / (x.ipc * x.cycles) := by
      rw [div_mul_div_comm, mul_comm y.cycles, mul_comm x.cycles]
    _ = 1 := by rw [hxrate, hyrate, div_self hn]

/-- **The table agrees with the headline.** Every outcome of a benchmark can be compared,
and its table goes with it, unless leakage could be negative. -/
theorem compare_agrees {growth : α → Result α α} (hgrowth : ∀ x y, growth x = .ok y → 0 ≤ y)
    {a b : Config α} {program : List Char} {p : Pattern} {given : Option α} {cap : α}
    {o : Outcome α} (h : run growth a b program p given cap = .ok o) :
    ∃ c, o.compare = .ok c ∧ o.ShownBy c := by
  have hpower : 0 ≤ o.baseline.power.total := run_power_nonneg h hgrowth
  obtain ⟨n, htotal, hbaseline, hstacked, himprovement⟩ := run_sound h
  refine ⟨tableOf o, compare_eq_tableOf hpower, ?_⟩
  constructor
  case metrics_eq => rfl
  case baseline_eq =>
    intro r hr
    obtain ⟨m, -, rfl⟩ := List.mem_map.mp hr
    rfl
  case stacked_eq =>
    intro r hr
    obtain ⟨m, -, rfl⟩ := List.mem_map.mp hr
    rfl
  case pos_iff =>
    intro r hr hsome
    obtain ⟨m, -, rfl⟩ := List.mem_map.mp hr
    exact changeOf_pos_iff hsome m.higherIsBetter
  case neg_iff =>
    intro r hr hsome
    obtain ⟨m, -, rfl⟩ := List.mem_map.mp hr
    exact changeOf_neg_iff hsome m.higherIsBetter
  case cycles_row => exact ⟨_, row_tableOf o .cycles, himprovement.symm⟩
  case power_row => exact ⟨_, row_tableOf o .power, rfl, powerImprovement_eq hpower _⟩
  case reciprocal =>
    intro k hk hsome hlow hlow'
    rw [htotal, Except.ok.injEq] at hk
    subst hk
    exact ⟨_, _, row_tableOf o .cycles, row_tableOf o .ipc,
      hbaseline.reciprocal hstacked hsome hlow hlow'⟩

/-- Three instructions take more than a cycle on both systems. -/
theorem compare_agrees_shortProgram :
    ∃ o c, run wholeGrowth coolSystem freeSystem shortProgram .random (some 50) (whole Rat 10) =
        .ok o ∧
      o.compare = .ok c ∧ o.ShownBy c ∧
      ∃ cycles ipc, c.row (.text "total_cycles") = .ok cycles ∧ c.row (.text "ipc") = .ok ipc ∧
        (1 - cycles.improvement / 100) * (1 + ipc.improvement / 100) = 1 := by
  obtain ⟨g, hanswer⟩ := run_shortProgram
  have hgrowth (x y : Rat) (h : wholeGrowth x = .ok y) : 0 ≤ y := by
    cases h
    positivity
  obtain ⟨c, hc, hshown⟩ := compare_agrees hgrowth hanswer
  have hthree : (((⟨2, 1, false⟩ : Counts).total : Nat) : Rat) = 3 := by norm_num [Counts.total]
  have htotal : ((⟨2, 1, false⟩ : Counts).toMix : Mix Rat).total = .ok 3 := by
    rw [Counts.total_toMix]
    exact congrArg Except.ok hthree
  have hfloor (s : Config Rat) (hs : s.Valid) (name : Value) :
      cycleFloor Rat ≤
        (metricsOf g s (⟨2, 1, false⟩ : Counts).toMix .random (50 / 100) name).cycles := by
    have haccess : 0 ≤ s.meanTime .random := hs.meanTime_nonneg _
    have haccepted : Accepted 3 (50 / 100) (s.meanTime .random) :=
      ⟨by norm_num, by norm_num, by norm_num, haccess, by norm_num⟩
    calc cycleFloor Rat
      _ ≤ cyclesOf 3 (50 / 100) (s.meanTime .random) := by
        norm_num [cycleFloor, cyclesOf]
        linarith
      _ ≤ (estimateOf g 3 (50 / 100) (s.meanTime .random) (.ofStacked s.isStacked) s.thermal).cycles :=
        haccepted.plain_le g (.ofStacked s.isStacked) s.thermal
      _ = (metricsOf g s (⟨2, 1, false⟩ : Counts).toMix .random (50 / 100) name).cycles := by
        rw [metricsOf, memory_add_other_toMix, hthree]
  exact ⟨_, c, hanswer, hc, hshown, hshown.reciprocal 3 htotal (by norm_num)
    (hfloor _ coolSystem_valid _) (hfloor _ freeSystem_valid _)⟩

end SiliconBench.Paired
