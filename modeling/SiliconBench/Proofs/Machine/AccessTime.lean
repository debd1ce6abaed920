import SiliconBench.Machine.AccessTime
import SiliconBench.Proofs.Machine.Valid
import Mathlib.Tactic.Positivity

/-!
# AccessTime — the average access time, over the rationals

A miss rate divides by the size of a level, but only where there is one; so every
system has an access time, whether it was validated or not (`accessTime_rat`). A
level misses at least some of its accesses, however large it is. That is why an
access takes no time only where NOTHING on its way takes any: a level's latency,
the hops that it makes, and the memory behind all of them.
-/

namespace SiliconBench.Machine

open Scalar

/-! ## One level -/

/-- The rate at which a level misses: always where it is not enabled or has no
capacity, and never not at all. -/
def Level.missOf (l : Level Rat) (p : Pattern) : Rat :=
  if isTrue l.enabled ∧ 0 < l.size then min 1 (1 / (l.size / 4) * missMultiplier Rat p) else 1

theorem missMultiplier_pos (p : Pattern) : 0 < missMultiplier Rat p := by
  cases p <;> norm_num [missMultiplier]

theorem Level.isBypassed_rat (l : Level Rat) :
    l.isBypassed = .ok (decide ¬ (isTrue l.enabled ∧ 0 < l.size)) := by
  cases henabled : isTrue l.enabled with
  | true => simp [isBypassed, henabled]
  | false => simp [isBypassed, henabled]

theorem Level.missRate_rat (l : Level Rat) (p : Pattern) :
    l.missRate p = .ok (l.missOf p) := by
  rw [missRate, isBypassed_rat, missOf]
  by_cases h : isTrue l.enabled ∧ 0 < l.size
  · have hunit : (4 : Rat) ≠ 0 := by norm_num
    have hsize : l.size / 4 ≠ 0 := div_ne_zero h.2.ne' hunit
    rw [if_pos h, decide_eq_false (not_not_intro h)]
    simp [capacityUnit, div_rat hunit, div_rat hsize]
  · rw [if_neg h, decide_eq_true h]
    rfl

theorem Level.missOf_mem (l : Level Rat) (p : Pattern) : 0 < l.missOf p ∧ l.missOf p ≤ 1 := by
  unfold missOf
  split
  · rename_i h
    have hsize := h.2
    have hmultiplier := missMultiplier_pos p
    exact ⟨lt_min one_pos (by positivity), min_le_left _ _⟩
  · exact ⟨one_pos, le_rfl⟩

/-- The rates of a level. -/
def Level.ratesOf (l : Level Rat) (p : Pattern) : LevelRates Rat := ⟨1 - l.missOf p, l.missOf p⟩

/-- Cycles that an access costs from a level on. -/
def Level.timeOf (l : Level Rat) (miss next hop : Rat) : Rat :=
  if isTrue l.enabled then l.latency + miss * (next + hop) else next

theorem Level.time_rat (l : Level Rat) (miss next hop : Rat) :
    l.time miss next hop = .ok (l.timeOf miss next hop) := by
  unfold Level.time timeOf
  split <;> rfl

section

variable {l : Level Rat} {miss next hop : Rat} (hl : 0 ≤ l.latency) (hmiss : 0 < miss)
  (hnext : 0 ≤ next) (hhop : 0 ≤ hop)

include hl hmiss hnext hhop

theorem Level.timeOf_nonneg : 0 ≤ l.timeOf miss next hop := by
  unfold timeOf
  split
  · exact add_nonneg hl (mul_nonneg hmiss.le (add_nonneg hnext hhop))
  · exact hnext

/-- From a level on an access takes no time exactly when it takes none behind it
and, if the level is enabled, neither the level nor the hop takes any. -/
theorem Level.timeOf_eq_zero_iff :
    l.timeOf miss next hop = 0 ↔
      next = 0 ∧ (isTrue l.enabled → l.latency = 0 ∧ hop = 0) := by
  cases henabled : isTrue l.enabled with
  | true =>
    have hrest : miss * (next + hop) = 0 ↔ next = 0 ∧ hop = 0 := by
      rw [mul_eq_zero, or_iff_right hmiss.ne', add_eq_zero_iff_of_nonneg hnext hhop]
    rw [timeOf, if_pos henabled, add_eq_zero_iff_of_nonneg hl
      (mul_nonneg hmiss.le (add_nonneg hnext hhop)), hrest]
    constructor
    · rintro ⟨hlatency, hnone, hhop⟩
      exact ⟨hnone, fun _ => ⟨hlatency, hhop⟩⟩
    · rintro ⟨hnone, hlevel⟩
      exact ⟨(hlevel rfl).1, hnone, (hlevel rfl).2⟩
  | false => simp [timeOf, henabled]

end

/-! ## All levels -/

namespace Config

variable (c : Config Rat) (p : Pattern)

/-- Cycles that an access costs from the third level on; there is no hop behind it. -/
def timeFromL3 : Rat := c.caches.l3.timeOf (c.caches.l3.missOf p) c.memory.latency 0

/-- Cycles that an access costs from the second level on. -/
def timeFromL2 : Rat := c.caches.l2.timeOf (c.caches.l2.missOf p) (c.timeFromL3 p) c.hopLatency

/-- Cycles that an access costs on average. -/
def meanTime : Rat := c.caches.l1.timeOf (c.caches.l1.missOf p) (c.timeFromL2 p) c.hopLatency

/-- The rates of all levels. -/
def ratesOf : CacheRates Rat :=
  ⟨c.caches.l1.ratesOf p, c.caches.l2.ratesOf p, c.caches.l3.ratesOf p⟩

/-- **Every system has an access time.** -/
theorem accessTime_rat : c.accessTime p = .ok ⟨c.meanTime p, c.ratesOf p⟩ := by
  simp only [accessTime, Level.missRate_rat, Level.time_rat, LevelRates.ofMiss, ok_bind, ok_sub,
    sub_rat, real_rat, pure_eq_ok]
  rfl

variable {c}

theorem Valid.timeFromL3_nonneg (h : c.Valid) : 0 ≤ c.timeFromL3 p :=
  Level.timeOf_nonneg h.l3.latency_nonneg (Level.missOf_mem _ p).1 h.memoryLatency_nonneg le_rfl

theorem Valid.timeFromL2_nonneg (h : c.Valid) : 0 ≤ c.timeFromL2 p :=
  Level.timeOf_nonneg h.l2.latency_nonneg (Level.missOf_mem _ p).1 (h.timeFromL3_nonneg p)
    h.hopLatency_nonneg

theorem Valid.meanTime_nonneg (h : c.Valid) : 0 ≤ c.meanTime p :=
  Level.timeOf_nonneg h.l1.latency_nonneg (Level.missOf_mem _ p).1 (h.timeFromL2_nonneg p)
    h.hopLatency_nonneg

/-- Nothing on the way of an access takes any time. -/
structure Instant (c : Config Rat) : Prop where
  memory : c.memory.latency = 0
  l1 : isTrue c.caches.l1.enabled → c.caches.l1.latency = 0
  l2 : isTrue c.caches.l2.enabled → c.caches.l2.latency = 0
  l3 : isTrue c.caches.l3.enabled → c.caches.l3.latency = 0
  hop : c.hopLatency = 0 ∨ isTrue c.caches.l1.enabled = false ∧ isTrue c.caches.l2.enabled = false

/-- **An access takes no time exactly when nothing on its way takes any.** -/
theorem Valid.meanTime_eq_zero_iff (h : c.Valid) : c.meanTime p = 0 ↔ c.Instant := by
  have hhop := h.hopLatency_nonneg
  rw [meanTime, Level.timeOf_eq_zero_iff h.l1.latency_nonneg (Level.missOf_mem _ p).1
      (h.timeFromL2_nonneg p) hhop,
    timeFromL2, Level.timeOf_eq_zero_iff h.l2.latency_nonneg (Level.missOf_mem _ p).1
      (h.timeFromL3_nonneg p) hhop,
    timeFromL3, Level.timeOf_eq_zero_iff h.l3.latency_nonneg (Level.missOf_mem _ p).1
      h.memoryLatency_nonneg le_rfl]
  constructor
  · rintro ⟨⟨⟨hmemory, h3⟩, h2⟩, h1⟩
    refine ⟨hmemory, fun he => (h1 he).1, fun he => (h2 he).1, fun he => (h3 he).1, ?_⟩
    cases he1 : isTrue c.caches.l1.enabled with
    | true => exact .inl (h1 he1).2
    | false =>
      cases he2 : isTrue c.caches.l2.enabled with
      | true => exact .inl (h2 he2).2
      | false => exact .inr ⟨rfl, rfl⟩
  · rintro ⟨hmemory, h1, h2, h3, hnone | ⟨he1, he2⟩⟩
    · exact ⟨⟨⟨hmemory, fun he => ⟨h3 he, rfl⟩⟩, fun he => ⟨h2 he, hnone⟩⟩,
        fun he => ⟨h1 he, hnone⟩⟩
    · exact ⟨⟨⟨hmemory, fun he => ⟨h3 he, rfl⟩⟩, by simp [he2]⟩, by simp [he1]⟩

end Config

end SiliconBench.Machine
