import SiliconBench.Proofs.Machine.Monotone
import Mathlib.Algebra.BigOperators.Fin

/-!
# Passage — the way to memory leads through the enabled levels only

The access time is worked out from the memory outward to the core, and a level that is
not enabled hands on what comes from behind it. Seen from the core an access passes the
ENABLED levels in order, and reaches each of them with the share of accesses that all
levels before it missed. So it takes what the levels passed cost, each times that share,
and the memory times the share that is left (`accessTime_passes`).
-/

namespace SiliconBench.Machine

open Scalar

/-- A level on the way to memory. -/
structure Stage where
  latency : Rat
  /-- the share of accesses that go on -/
  miss : Rat
  /-- cycles to the next level -/
  hop : Rat
  deriving DecidableEq

/-- An enabled level as a stage, with the hop behind it. -/
def Level.stage (p : Pattern) (l : Level Rat) (hop : Rat) : Result Rat Stage := do
  return ⟨l.latency, ← l.missRate p, hop⟩

namespace Config

/-- All levels from the core outward, each with the hop behind it. There is none behind
the third. -/
def hierarchy (c : Config Rat) : List (Level Rat × Rat) :=
  [(c.caches.l1, c.hopLatency), (c.caches.l2, c.hopLatency), (c.caches.l3, 0)]

/-- The levels that an access passes. -/
def passed (c : Config Rat) : List (Level Rat × Rat) :=
  c.hierarchy.filter fun e => isTrue e.1.enabled

end Config

/-! ## Stages -/

/-- Cycles of an access that passes the stages in order, with the memory behind them. -/
def timeThrough (memory : Rat) : List Stage → Rat
  | [] => memory
  | s :: rest => s.latency + s.miss * (timeThrough memory rest + s.hop)

/-- Every stage counts as often as it is reached. -/
theorem timeThrough_eq_sum (memory : Rat) (ss : List Stage) :
    timeThrough memory ss =
      ∑ i : Fin ss.length,
          ((ss.take i).map Stage.miss).prod * (ss[i].latency + ss[i].miss * ss[i].hop) +
        (ss.map Stage.miss).prod * memory := by
  induction ss with
  | nil => simp [timeThrough]
  | cons s rest ih =>
    -- whatever is behind the first stage is reached by its misses only
    have hbehind : s.miss * timeThrough memory rest =
        ∑ i : Fin rest.length, s.miss * ((rest.take i).map Stage.miss).prod *
            (rest[i].latency + rest[i].miss * rest[i].hop) +
          s.miss * (rest.map Stage.miss).prod * memory := by
      rw [ih, mul_add, Finset.mul_sum]
      simp only [mul_assoc]
    rw [timeThrough, mul_add, hbehind]
    simp [Fin.sum_univ_succ]
    ring

/-- A stage that takes no negative time, and misses a share of its accesses. -/
structure Stage.Sensible (s : Stage) : Prop where
  latency_nonneg : 0 ≤ s.latency
  miss_nonneg : 0 ≤ s.miss
  miss_le_one : s.miss ≤ 1
  hop_nonneg : 0 ≤ s.hop

section

variable {memory : Rat} (hmemory : 0 ≤ memory)

include hmemory

theorem timeThrough_nonneg {ss : List Stage} (h : ∀ s ∈ ss, s.Sensible) :
    0 ≤ timeThrough memory ss := by
  induction ss with
  | nil => exact hmemory
  | cons s rest ih =>
    obtain ⟨hs, hrest⟩ := List.forall_mem_cons.mp h
    exact add_nonneg hs.latency_nonneg
      (mul_nonneg hs.miss_nonneg (add_nonneg (ih hrest) hs.hop_nonneg))

/-- An access takes no less than the first stage does. -/
theorem latency_le_timeThrough {s : Stage} {rest : List Stage}
    (h : ∀ t ∈ s :: rest, t.Sensible) : s.latency ≤ timeThrough memory (s :: rest) := by
  obtain ⟨hs, hrest⟩ := List.forall_mem_cons.mp h
  have hbehind := timeThrough_nonneg hmemory hrest
  exact le_add_of_nonneg_right (mul_nonneg hs.miss_nonneg (add_nonneg hbehind hs.hop_nonneg))

/-- An access takes no more than all stages, their hops and the memory together. -/
theorem timeThrough_le {ss : List Stage} (h : ∀ s ∈ ss, s.Sensible) :
    timeThrough memory ss ≤ (ss.map fun s => s.latency + s.hop).sum + memory := by
  induction ss with
  | nil => simp [timeThrough]
  | cons s rest ih =>
    obtain ⟨hs, hrest⟩ := List.forall_mem_cons.mp h
    have hbehind : 0 ≤ timeThrough memory rest + s.hop :=
      add_nonneg (timeThrough_nonneg hmemory hrest) hs.hop_nonneg
    calc timeThrough memory (s :: rest)
        ≤ s.latency + (timeThrough memory rest + s.hop) :=
          add_le_add_right (mul_le_of_le_one_left hbehind hs.miss_le_one) s.latency
      _ ≤ s.latency + ((rest.map fun s => s.latency + s.hop).sum + memory + s.hop) :=
          add_le_add_right (add_le_add_left (ih hrest) s.hop) s.latency
      _ = ((s :: rest).map fun s => s.latency + s.hop).sum + memory := by
          rw [List.map_cons, List.sum_cons]
          ring

end

/-! ## Levels -/

/-- A level as a stage, with the rate at which it misses. -/
def Level.stageOf (p : Pattern) (l : Level Rat) (hop : Rat) : Stage :=
  ⟨l.latency, l.missOf p, hop⟩

theorem Level.stage_rat (p : Pattern) (l : Level Rat) (hop : Rat) :
    l.stage p hop = .ok (l.stageOf p hop) := by
  rw [stage, missRate_rat]
  rfl

theorem Level.Valid.stageOf_sensible {l : Level Rat} (h : l.Valid) (p : Pattern) {hop : Rat}
    (hhop : 0 ≤ hop) : (l.stageOf p hop).Sensible where
  latency_nonneg := h.latency_nonneg
  miss_nonneg := (l.missOf_mem p).1.le
  miss_le_one := (l.missOf_mem p).2
  hop_nonneg := hhop

/-- The stages that enabled levels make. -/
def stagesOf (p : Pattern) (ls : List (Level Rat × Rat)) : List Stage :=
  (ls.filter fun e => isTrue e.1.enabled).map fun e => e.1.stageOf p e.2

/-- A level makes a stage in front of the others, or none if it is not enabled. -/
theorem timeThrough_stagesOf_cons (memory : Rat) (p : Pattern) (l : Level Rat) (hop : Rat)
    (ls : List (Level Rat × Rat)) :
    timeThrough memory (stagesOf p ((l, hop) :: ls)) =
      l.timeOf (l.missOf p) (timeThrough memory (stagesOf p ls)) hop := by
  cases henabled : isTrue l.enabled with
  | true =>
    simp only [stagesOf, List.filter_cons, henabled, if_true, List.map_cons, timeThrough,
      Level.timeOf]
    rfl
  | false =>
    simp only [stagesOf, List.filter_cons, henabled, Bool.false_eq_true, if_false, Level.timeOf]

namespace Config

variable {c : Config Rat}

theorem each_stage (c : Config Rat) (p : Pattern) :
    each (fun e => e.1.stage p e.2) c.passed = .ok (stagesOf p c.hierarchy) :=
  each_eq_map fun e _ => e.1.stage_rat p e.2

theorem meanTime_eq_timeThrough (c : Config Rat) (p : Pattern) :
    c.meanTime p = timeThrough c.memory.latency (stagesOf p c.hierarchy) := by
  rw [hierarchy, timeThrough_stagesOf_cons, timeThrough_stagesOf_cons, timeThrough_stagesOf_cons]
  rfl

theorem Valid.stagesOf_sensible (h : c.Valid) (p : Pattern) :
    ∀ s ∈ stagesOf p c.hierarchy, s.Sensible := by
  have hlevels : ∀ e ∈ c.hierarchy, e.1.Valid ∧ 0 ≤ e.2 := by
    simp only [hierarchy, List.forall_mem_cons]
    exact ⟨⟨h.l1, h.hopLatency_nonneg⟩, ⟨h.l2, h.hopLatency_nonneg⟩, ⟨h.l3, le_rfl⟩, by simp⟩
  intro s hs
  obtain ⟨⟨l, hop⟩, hmem, rfl⟩ := List.mem_map.mp hs
  obtain ⟨hl, hhop⟩ := hlevels _ (List.mem_of_mem_filter hmem)
  exact hl.stageOf_sensible p hhop

/-- **A level that is not enabled is as if it were not there.** The levels that an access
passes, as stages from the core outward, give its time: each counts with the share of
accesses that all stages before it missed, and so does the memory behind them. Where none
is passed that is the memory's latency; otherwise an access takes no less than the first
stage, and no more than all of them, their hops and the memory together. -/
theorem accessTime_passes (h : c.validate = .ok ()) (p : Pattern) :
    ∃ ss access, each (fun e => e.1.stage p e.2) c.passed = .ok ss ∧
      c.accessTime p = .ok access ∧
      access.cycles =
        ∑ i : Fin ss.length,
            ((ss.take i).map Stage.miss).prod * (ss[i].latency + ss[i].miss * ss[i].hop) +
          (ss.map Stage.miss).prod * c.memory.latency ∧
      ((∀ e ∈ c.caches.levels, isTrue e.2.enabled = false) →
        access.cycles = c.memory.latency) ∧
      (∀ first, ss.head? = some first → first.latency ≤ access.cycles ∧
        access.cycles ≤ (ss.map fun s => s.latency + s.hop).sum + c.memory.latency) := by
  have hvalid : c.Valid := validate_eq_ok.mp h
  have hsensible := hvalid.stagesOf_sensible p
  have hmemory := hvalid.memoryLatency_nonneg
  refine ⟨_, _, c.each_stage p, c.accessTime_rat p, ?_, ?_, ?_⟩
  · exact (c.meanTime_eq_timeThrough p).trans (timeThrough_eq_sum _ _)
  · intro hnone
    have hempty : stagesOf p c.hierarchy = [] := by
      simp only [Caches.levels, List.forall_mem_cons] at hnone
      obtain ⟨h1, h2, h3, -⟩ := hnone
      simp [stagesOf, hierarchy, h1, h2, h3, -isTrue_rat]
    show c.meanTime p = c.memory.latency
    rw [meanTime_eq_timeThrough, hempty, timeThrough]
  · intro first hfirst
    obtain ⟨rest, hcons⟩ := List.head?_eq_some_iff.mp hfirst
    show first.latency ≤ c.meanTime p ∧ c.meanTime p ≤ _
    rw [meanTime_eq_timeThrough]
    refine ⟨?_, timeThrough_le hmemory hsensible⟩
    rw [hcons] at hsensible ⊢
    exact latency_le_timeThrough hmemory hsensible

/-- The first level of a tall system misses everything, and its second is not there; so
an access always goes on to the third level, over one hop, and seldom further. -/
theorem accessTime_passes_tallSystem :
    tallSystem.validate = .ok () ∧
      ∃ access, tallSystem.accessTime .random = .ok access ∧
        access.cycles = (4 + 1 * 3) + 1 * (35 + 1 / 512 * 0) + 1 * (1 / 512) * 200 ∧
        4 ≤ access.cycles ∧ access.cycles ≤ (4 + 3) + (35 + 0) + 200 := by
  have hvalid : tallSystem.validate = .ok () := rfl
  obtain ⟨ss, access, hss, haccess, hcycles, -, hbounds⟩ := accessTime_passes hvalid .random
  have hstages : stagesOf .random tallSystem.hierarchy = [⟨4, 1, 3⟩, ⟨35, 1 / 512, 0⟩] := by
    decide +kernel
  rw [each_stage, hstages, Except.ok.injEq] at hss
  subst hss
  obtain ⟨hlow, hhigh⟩ := hbounds _ rfl
  refine ⟨hvalid, access, haccess, ?_, hlow, ?_⟩
  · rw [hcycles]
    simp [Fin.sum_univ_succ, tallSystem]
  · simpa [tallSystem, add_assoc] using hhigh

end Config

end SiliconBench.Machine
