import SiliconBench.Paired.Benchmark
import SiliconBench.Proofs.Machine.AccessTime
import SiliconBench.Proofs.Machine.Estimate

/-!
# Simulate — when a system is refused

A system is validated again before it is evaluated, because its settings may have
been changed. What is left after that can be refused for one reason only: all of
the instructions reach a memory that takes no time. The two refusals are looked
for in four places, in the settings, in the miss rates, in the access time and in
the estimate; together they leave no division by zero behind.
-/

namespace SiliconBench.Paired

open Scalar Instructions Machine

variable {growth : Rat → Result Rat Rat} {g : Rat → Rat} {c : Config Rat} {mix : Mix Rat}
  {pattern : Value} {p : Pattern} {ratio : Rat}

/-- What a system makes of a stream. -/
def metricsOf (g : Rat → Rat) (c : Config Rat) (mix : Mix Rat) (p : Pattern) (ratio : Rat)
    (name : Value) : Metrics Rat :=
  let e := estimateOf g (mix.memory + mix.other) ratio (c.meanTime p) (.ofStacked c.isStacked)
    c.thermal
  { system := name, cycles := e.cycles, accessTime := c.meanTime p, ipc := e.ipc, power := e.power,
    temperature := e.temperature, throttling := e.throttling, rates := c.ratesOf p,
    instructions := mix.memory + mix.other, status := statusOf (mix.memory + mix.other) mix }

section

variable (hg : Grows growth g) (hmemory : 0 ≤ mix.memory) (hother : 0 ≤ mix.other)
  (hratio : 0 ≤ ratio) (hratio' : ratio ≤ 1)

include hg hmemory hother hratio hratio'

/-- A system that makes sense is refused where instructions take no cycles, and has
its metrics everywhere else. -/
theorem evaluate_rat (h : c.Valid) (p : Pattern) (name : Value) :
    evaluate growth c mix p ratio name =
      if 0 < mix.memory + mix.other ∧ ratio = 1 ∧ c.meanTime p = 0 then
        refuse (.freeMemory (c.meanTime p) ratio)
      else .ok (metricsOf g c mix p ratio name) := by
  have htotal : mix.total = .ok (mix.memory + mix.other) := rfl
  have hestimate := hg.estimate_eq (.ofStacked c.isStacked) h.resistance_nonneg
    (add_nonneg hmemory hother) hratio hratio' (h.meanTime_nonneg p)
  rw [evaluate, c.accessTime_rat, ok_bind, htotal, ok_bind, hestimate]
  split <;> rfl

theorem simulate_of_valid (h : c.Valid) (p : Pattern) (name : Value) :
    simulate growth c mix p ratio name =
      if 0 < mix.memory + mix.other ∧ ratio = 1 ∧ c.meanTime p = 0 then
        refuse (.freeMemory (c.meanTime p) ratio)
      else .ok (metricsOf g c mix p ratio name) := by
  have hvalid : c.validate = .ok () := Config.validate_eq_ok.mpr h
  rw [simulate, hvalid, ok_bind, evaluate_rat hg hmemory hother hratio hratio' h]

theorem simulateNamed_of_valid (h : c.Valid) (hp : Pattern.parse (α := Rat) pattern = .ok p)
    (name : Value) :
    simulateNamed growth c mix pattern ratio name =
      if 0 < mix.memory + mix.other ∧ ratio = 1 ∧ c.meanTime p = 0 then
        refuse (.freeMemory (c.meanTime p) ratio)
      else .ok (metricsOf g c mix p ratio (if name.isTrue then name else c.name)) := by
  have hvalid : c.validate = .ok () := Config.validate_eq_ok.mpr h
  rw [simulateNamed, hvalid, ok_bind, hp, ok_bind,
    simulate_of_valid hg hmemory hother hratio hratio' h]

end

theorem simulateNamed_of_invalid {fault : Fault Rat} (h : c.validate = .error fault)
    (name : Value) : simulateNamed growth c mix pattern ratio name = .error fault := by
  rw [simulateNamed, h, error_bind]

/-- **A system is refused exactly when its settings are, or when all of the
instructions, of which there are some, reach a memory that takes no time.** Such a
memory is one with nothing on the way to it that takes any. In every other case
the system has its metrics; so there is no division by zero, whatever was done to
the settings after they were checked. -/
theorem simulateNamed_faults_iff (hgrowth : ∀ x, 0 ≤ x → x ≤ 100 → ∃ y, growth x = .ok y)
    (hpattern : Pattern.parse (α := Rat) pattern = .ok p) (hmemory : 0 ≤ mix.memory)
    (hother : 0 ≤ mix.other) (hratio : 0 ≤ ratio) (hratio' : ratio ≤ 1) (name : Value) :
    ∃ access, c.accessTime p = .ok access ∧
      (∀ fault, simulateNamed growth c mix pattern ratio name = .error fault ↔
        c.validate = .error fault ∨
          c.validate = .ok () ∧ 0 < mix.memory + mix.other ∧ ratio = 1 ∧ access.cycles = 0 ∧
            fault = .refused (.freeMemory access.cycles ratio)) ∧
      (∀ fault, c.validate = .error fault → fault.IsRefusal) ∧
      (c.validate = .ok () → (access.cycles = 0 ↔ c.Instant)) ∧
      (c.validate = .ok () → ¬ (0 < mix.memory + mix.other ∧ ratio = 1 ∧ access.cycles = 0) →
        ∃ m, simulateNamed growth c mix pattern ratio name = .ok m ∧
          m.accessTime = access.cycles ∧ m.rates = access.rates ∧
          m.instructions = mix.memory + mix.other) := by
  obtain ⟨g, hg⟩ := exists_grows hgrowth
  refine ⟨_, c.accessTime_rat p, ?_⟩
  cases hvalid : c.validate with
  | error fault =>
    rw [simulateNamed_of_invalid hvalid]
    refine ⟨fun fault' => ?_, ?_, nofun, nofun⟩
    · simp
    · intro fault' hfault
      cases hfault
      exact c.validate_refuses fault hvalid
  | ok u =>
    have h : c.Valid := Config.validate_eq_ok.mp hvalid
    rw [simulateNamed_of_valid hg hmemory hother hratio hratio' h hpattern]
    refine ⟨fun fault => ?_, nofun, fun _ => h.meanTime_eq_zero_iff p, fun _ hfree => ?_⟩
    · by_cases hfree : 0 < mix.memory + mix.other ∧ ratio = 1 ∧ c.meanTime p = 0
      · rw [if_pos hfree]
        simp [refuse, hfree, eq_comm]
      · rw [if_neg hfree]
        constructor
        · intro hfault
          cases hfault
        · rintro (hfault | ⟨-, hn, hr, ha, -⟩)
          · cases hfault
          · exact absurd ⟨hn, hr, ha⟩ hfree
    · rw [if_neg hfree]
      exact ⟨_, rfl, rfl, rfl, rfl⟩

/-- A memory that takes no time behind a third level that takes none. The vias take
some, but the two levels that would hop over them are not enabled. -/
def freeSystem : Config Rat :=
  { name := .text "free"
    memory := { latency := 0, power := 1, bandwidth := 1 }
    caches :=
      { l1 := { enabled := 0, size := 32, latency := 4, associativity := 8 }
        l2 := { enabled := 0, size := 256, latency := 12, associativity := 8 }
        l3 := { enabled := 1, size := 1024, latency := 0, associativity := 16 } }
    vias := { enabled := 1, latency := 3, energy := 1 }
    thermal := { ambient := 25, logicPower := 1, memoryPower := 1, resistance := 0, limit := 95 } }

/-- Five instructions, two of which reach memory. -/
def fewInstructions : Mix Rat := { memory := 2, other := 3, truncated := 0 }

/-- The growth of leakage by whole steps of ten degrees, which is all that a system
without a thermal resistance asks for. -/
def wholeGrowth (x : Rat) : Result Rat Rat := .ok (1.08 ^ ⌊x⌋₊)

theorem wholeGrowth_answers (x : Rat) (_ : 0 ≤ x) (_ : x ≤ 100) : ∃ y, wholeGrowth x = .ok y :=
  ⟨_, rfl⟩

theorem freeSystem_validates : freeSystem.validate = .ok () := rfl

/-- Every instruction is taken to reach memory, and the system is refused; half of
them, and it is not. -/
theorem simulateNamed_faults_iff_freeSystem :
    freeSystem.Instant ∧
      simulateNamed wholeGrowth freeSystem fewInstructions (.text "random") 1 .null =
        .error (.refused (.freeMemory 0 1)) ∧
      ∃ m, simulateNamed wholeGrowth freeSystem fewInstructions (.text "random") (1 / 2) .null =
          .ok m ∧ m.accessTime = 0 := by
  have hgrowth (x : Rat) (_ : 0 ≤ x) (_ : x ≤ 100) : ∃ y, wholeGrowth x = .ok y := ⟨_, rfl⟩
  have hinstant : freeSystem.Instant :=
    ⟨rfl, by simp [freeSystem], by simp [freeSystem], fun _ => rfl,
      .inr ⟨by simp [freeSystem], by simp [freeSystem]⟩⟩
  have hmemory : 0 ≤ fewInstructions.memory := by norm_num [fewInstructions]
  have hother : 0 ≤ fewInstructions.other := by norm_num [fewInstructions]
  have hsome : 0 < fewInstructions.memory + fewInstructions.other := by norm_num [fewInstructions]
  have hrandom : Pattern.parse (α := Rat) (.text "random") = .ok .random := rfl
  obtain ⟨a, ha, hfaults, -, hzero, -⟩ := simulateNamed_faults_iff (c := freeSystem) hgrowth hrandom
    hmemory hother zero_le_one le_rfl .null
  have hnone : a.cycles = 0 := (hzero freeSystem_validates).mpr hinstant
  have hhalf : (0 : Rat) ≤ 1 / 2 := by norm_num
  have hhalf' : (1 / 2 : Rat) ≤ 1 := by norm_num
  obtain ⟨b, hb, -, -, -, hmetrics⟩ := simulateNamed_faults_iff (c := freeSystem) hgrowth hrandom
    hmemory hother hhalf hhalf' .null
  obtain rfl : a = b := Except.ok.inj (ha.symm.trans hb)
  obtain ⟨m, hm, haccess, -⟩ := hmetrics freeSystem_validates (by norm_num)
  refine ⟨hinstant, (hfaults _).mpr (.inr ⟨freeSystem_validates, hsome, rfl, hnone, ?_⟩), m, hm,
    haccess.trans hnone⟩
  rw [hnone]

end SiliconBench.Paired
