import SiliconBench.Proofs.Machine.AccessTime

/-!
# Monotone — a better system is never slower to reach memory

The access time is nested products and sums, in which every number may change at
once: levels grow, latencies and hops shrink, and the pattern gets friendlier. A
level's time grows with the time behind it only because NOTHING in it is negative,
so that is what is carried from the memory up to the core along with the inequality.
-/

namespace SiliconBench.Machine

open Scalar

/-! ## One level -/

/-- `a` is there exactly if `b` is, and then it is no smaller and no slower. -/
structure Level.NoWorse (a b : Level Rat) : Prop where
  enabled_eq : isTrue a.enabled = isTrue b.enabled
  size_le : isTrue b.enabled → b.size ≤ a.size
  latency_le : isTrue b.enabled → a.latency ≤ b.latency

/-- Rates of which those of `a` miss no more; each of the two levels misses some of
its accesses and hits all the others. -/
structure LevelRates.NoWorse (a b : LevelRates Rat) : Prop where
  miss_pos : 0 < a.miss
  miss_le : a.miss ≤ b.miss
  miss_le_one : b.miss ≤ 1
  hit_left : a.hit = 1 - a.miss
  hit_right : b.hit = 1 - b.miss

theorem missMultiplier_mono {p q : Pattern} (hpq : p.harshness ≤ q.harshness) :
    missMultiplier Rat p ≤ missMultiplier Rat q := by
  -- the multipliers stand in the order of the patterns, so the nine pairs decide it
  revert hpq
  cases p <;> cases q <;> norm_num [missMultiplier, Pattern.harshness]

namespace Level.NoWorse

variable {a b : Level Rat} (hab : a.NoWorse b) {p q : Pattern} (hpq : p.harshness ≤ q.harshness)

include hab

section

include hpq

theorem missOf_le (hb : b.Valid) : a.missOf p ≤ b.missOf q := by
  cases henabled : isTrue b.enabled with
  | true =>
    have hsize : 0 < b.size := hb.size_pos henabled
    have hsize' : b.size ≤ a.size := hab.size_le henabled
    have hbase : 1 / (a.size / 4) ≤ 1 / (b.size / 4) :=
      one_div_le_one_div_of_le (by positivity) (by linarith)
    have hmultiplier : 0 ≤ missMultiplier Rat p := (missMultiplier_pos p).le
    rw [missOf, if_pos ⟨hab.enabled_eq.trans henabled, hsize.trans_le hsize'⟩, missOf,
      if_pos ⟨henabled, hsize⟩]
    -- both shares may be cut off at one, which keeps their order
    apply min_le_min_left
    exact mul_le_mul hbase (missMultiplier_mono hpq) hmultiplier (by positivity)
  | false =>
    have henabled' : isTrue a.enabled = false := hab.enabled_eq.trans henabled
    simp [missOf, henabled, henabled']

theorem ratesOf_noWorse (hb : b.Valid) : (a.ratesOf p).NoWorse (b.ratesOf q) where
  miss_pos := (a.missOf_mem p).1
  miss_le := hab.missOf_le hpq hb
  miss_le_one := (b.missOf_mem q).2
  hit_left := rfl
  hit_right := rfl

end

theorem timeOf_le {miss miss' next next' hop hop' : Rat} (hmiss : miss ≤ miss')
    (hmiss' : 0 ≤ miss') (hnext : 0 ≤ next) (hnext' : next ≤ next') (hhop : 0 ≤ hop)
    (hhop' : hop ≤ hop') : a.timeOf miss next hop ≤ b.timeOf miss' next' hop' := by
  cases henabled : isTrue b.enabled with
  | true =>
    rw [timeOf, if_pos (hab.enabled_eq.trans henabled), timeOf, if_pos henabled]
    have hbehind : miss * (next + hop) ≤ miss' * (next' + hop') :=
      mul_le_mul hmiss (add_le_add hnext' hhop') (add_nonneg hnext hhop) hmiss'
    exact add_le_add (hab.latency_le henabled) hbehind
  | false =>
    have henabled' : isTrue a.enabled = false := hab.enabled_eq.trans henabled
    -- a level that is not there only passes on what comes from behind
    simpa [timeOf, henabled, henabled'] using hnext'

end Level.NoWorse

/-! ## All levels -/

namespace Config

/-- `a` has the same levels as `b`, none of them worse, and neither its memory nor
its hops are slower. -/
structure NoWorse (a b : Config Rat) : Prop where
  l1 : a.caches.l1.NoWorse b.caches.l1
  l2 : a.caches.l2.NoWorse b.caches.l2
  l3 : a.caches.l3.NoWorse b.caches.l3
  memory_le : a.memory.latency ≤ b.memory.latency
  hop_le : a.hopLatency ≤ b.hopLatency

namespace NoWorse

variable {a b : Config Rat} (hab : a.NoWorse b) (ha : a.Valid) (hb : b.Valid) {p q : Pattern}
  (hpq : p.harshness ≤ q.harshness)

include hab ha hb hpq

theorem timeFromL3_le : a.timeFromL3 p ≤ b.timeFromL3 q :=
  hab.l3.timeOf_le (hab.l3.missOf_le hpq hb.l3) (b.caches.l3.missOf_mem q).1.le
    ha.memoryLatency_nonneg hab.memory_le le_rfl le_rfl

theorem timeFromL2_le : a.timeFromL2 p ≤ b.timeFromL2 q :=
  hab.l2.timeOf_le (hab.l2.missOf_le hpq hb.l2) (b.caches.l2.missOf_mem q).1.le
    (ha.timeFromL3_nonneg p) (hab.timeFromL3_le ha hb hpq) ha.hopLatency_nonneg hab.hop_le

theorem meanTime_le : a.meanTime p ≤ b.meanTime q :=
  hab.l1.timeOf_le (hab.l1.missOf_le hpq hb.l1) (b.caches.l1.missOf_mem q).1.le
    (ha.timeFromL2_nonneg p) (hab.timeFromL2_le ha hb hpq) ha.hopLatency_nonneg hab.hop_le

end NoWorse

/-- **A better system under a friendlier pattern reaches memory no later**, and no
level of it misses more. Both systems have an access time. -/
theorem accessTime_mono {a b : Config Rat} {p q : Pattern} (ha : a.validate = .ok ())
    (hb : b.validate = .ok ()) (hab : a.NoWorse b) (hpq : p.harshness ≤ q.harshness) :
    ∃ x y, a.accessTime p = .ok x ∧ b.accessTime q = .ok y ∧ x.cycles ≤ y.cycles ∧
      x.rates.l1.NoWorse y.rates.l1 ∧ x.rates.l2.NoWorse y.rates.l2 ∧
      x.rates.l3.NoWorse y.rates.l3 := by
  have hvalid : a.Valid := validate_eq_ok.mp ha
  have hvalid' : b.Valid := validate_eq_ok.mp hb
  refine ⟨_, _, a.accessTime_rat p, b.accessTime_rat q, ?_, ?_, ?_, ?_⟩
  · exact hab.meanTime_le hvalid hvalid' hpq
  · exact hab.l1.ratesOf_noWorse hpq hvalid'.l1
  · exact hab.l2.ratesOf_noWorse hpq hvalid'.l2
  · exact hab.l3.ratesOf_noWorse hpq hvalid'.l3

/-- A system on one die. Its second level is not enabled, and not much of a level;
its vias are not enabled either, however slow they are. -/
def flatSystem : Config Rat :=
  { name := .text "flat"
    memory := { latency := 60, power := 1, bandwidth := 1 }
    caches :=
      { l1 := { enabled := 1, size := 64, latency := 3, associativity := 8 }
        l2 := { enabled := 0, size := 0, latency := 99, associativity := 0 }
        l3 := { enabled := 1, size := 4096, latency := 20, associativity := 16 } }
    vias := { enabled := 0, latency := 9, energy := 1 }
    thermal := { ambient := 25, logicPower := 1, memoryPower := 1, resistance := 1, limit := 95 } }

/-- A system with the same levels on several dies, whose first level is too small to
hit anything at random. -/
def tallSystem : Config Rat :=
  { name := .text "tall"
    memory := { latency := 200, power := 1, bandwidth := 1 }
    caches :=
      { l1 := { enabled := 1, size := 2, latency := 4, associativity := 1 }
        l2 := { enabled := 0, size := 256, latency := 12, associativity := 8 }
        l3 := { enabled := 2, size := 2048, latency := 35, associativity := 16 } }
    vias := { enabled := 1, latency := 3, energy := 1 }
    thermal := { ambient := 25, logicPower := 1, memoryPower := 1, resistance := 1, limit := 95 } }

theorem flatSystem_noWorse : flatSystem.NoWorse tallSystem where
  l1 := by constructor <;> norm_num [flatSystem, tallSystem]
  l2 := by constructor <;> norm_num [flatSystem, tallSystem]
  l3 := by constructor <;> norm_num [flatSystem, tallSystem]
  memory_le := by norm_num [flatSystem, tallSystem]
  hop_le := by norm_num [hopLatency, isStacked, flatSystem, tallSystem]

theorem accessTime_mono_flatSystem :
    flatSystem.validate = .ok () ∧ tallSystem.validate = .ok () ∧ flatSystem.NoWorse tallSystem ∧
      ∃ x y, flatSystem.accessTime .sequential = .ok x ∧ tallSystem.accessTime .random = .ok y ∧
        x.cycles ≤ y.cycles ∧ x.rates.l1.miss ≤ y.rates.l1.miss := by
  have hflat : flatSystem.validate = .ok () := rfl
  have htall : tallSystem.validate = .ok () := rfl
  obtain ⟨x, y, hx, hy, hcycles, hrates, -, -⟩ :=
    accessTime_mono hflat htall flatSystem_noWorse (p := .sequential) (q := .random) (by decide)
  exact ⟨hflat, htall, flatSystem_noWorse, x, y, hx, hy, hcycles, hrates.miss_le⟩

end Config

end SiliconBench.Machine
