import SiliconBench.Machine.Config
import SiliconBench.Proofs.Rational

/-!
# Valid — what validation makes sure of

Over the rationals every check of a system is an inequality, and a level's size
and ways are only checked where the level is enabled. A system that validates is
one for which all of them hold (`validate_eq_ok`); one that does not is refused,
and validation has no other way to fail.
-/

namespace SiliconBench.Machine

open Scalar

/-- A level of cache that makes sense. -/
structure Level.Valid (l : Level Rat) : Prop where
  latency_nonneg : 0 ≤ l.latency
  size_pos : isTrue l.enabled → 0 < l.size
  one_le_associativity : isTrue l.enabled → 1 ≤ l.associativity

theorem Level.validate_eq_ok {l : Level Rat} {u : Unit} : l.validate = .ok u ↔ l.Valid := by
  cases henabled : isTrue l.enabled with
  | true =>
    simp only [validate, henabled, if_true, bind_eq_ok, requireNonNegative_rat,
      requirePositive_rat, requireOne_rat, exists_const]
    constructor
    · rintro ⟨hlatency, hsize, hways⟩
      exact ⟨hlatency, fun _ => hsize, fun _ => hways⟩
    · intro h
      exact ⟨h.latency_nonneg, h.size_pos henabled, h.one_le_associativity henabled⟩
  | false =>
    simp only [validate, henabled, Bool.false_eq_true, if_false, bind_eq_ok,
      requireNonNegative_rat, exists_const, pure_eq_ok, and_true]
    constructor
    · intro hlatency
      refine ⟨hlatency, ?_, ?_⟩ <;> simp [henabled]
    · intro h
      exact h.latency_nonneg

theorem Level.validate_refuses (l : Level Rat) : Faults Fault.IsRefusal l.validate := by
  refine .bind (requireNonNegative_refuses _ _) fun _ _ => .ite ?_ (.ok ())
  exact .bind (requirePositive_refuses _ _) fun _ _ => requireOne_refuses _ _

namespace Config

/-- A system that makes sense. -/
structure Valid (c : Config Rat) : Prop where
  memoryLatency_nonneg : 0 ≤ c.memory.latency
  memoryPower_nonneg : 0 ≤ c.memory.power
  memoryBandwidth_nonneg : 0 ≤ c.memory.bandwidth
  l1 : c.caches.l1.Valid
  l2 : c.caches.l2.Valid
  l3 : c.caches.l3.Valid
  viaLatency_nonneg : 0 ≤ c.vias.latency
  viaEnergy_nonneg : 0 ≤ c.vias.energy
  logicPower_nonneg : 0 ≤ c.thermal.logicPower
  thermalMemoryPower_nonneg : 0 ≤ c.thermal.memoryPower
  resistance_nonneg : 0 ≤ c.thermal.resistance

/-- Validation accepts exactly the systems that make sense. -/
theorem validate_eq_ok {c : Config Rat} {u : Unit} : c.validate = .ok u ↔ c.Valid := by
  simp only [validate, Memory.validate, Caches.validate, Vias.validate, Thermal.validate,
    bind_eq_ok, Level.validate_eq_ok, requireNonNegative_rat, exists_const]
  constructor
  · rintro ⟨⟨hlatency, hpower, hbandwidth⟩, ⟨h1, h2, h3⟩, ⟨hvia, henergy⟩, hlogic, hmemory, hR⟩
    exact ⟨hlatency, hpower, hbandwidth, h1, h2, h3, hvia, henergy, hlogic, hmemory, hR⟩
  · intro h
    exact ⟨⟨h.memoryLatency_nonneg, h.memoryPower_nonneg, h.memoryBandwidth_nonneg⟩,
      ⟨h.l1, h.l2, h.l3⟩, ⟨h.viaLatency_nonneg, h.viaEnergy_nonneg⟩, h.logicPower_nonneg,
      h.thermalMemoryPower_nonneg, h.resistance_nonneg⟩

/-- A system that does not validate is refused; there is no other fault. -/
theorem validate_refuses (c : Config Rat) : Faults Fault.IsRefusal c.validate := by
  have nonneg := requireNonNegative_refuses
  refine .bind ?_ fun _ _ => .bind ?_ fun _ _ => .bind ?_ fun _ _ => ?_
  · exact .bind (nonneg _ _) fun _ _ => .bind (nonneg _ _) fun _ _ => nonneg _ _
  · exact .bind (Level.validate_refuses _) fun _ _ =>
      .bind (Level.validate_refuses _) fun _ _ => Level.validate_refuses _
  · exact .bind (nonneg _ _) fun _ _ => nonneg _ _
  · exact .bind (nonneg _ _) fun _ _ => .bind (nonneg _ _) fun _ _ => nonneg _ _

/-- The hop of a system that makes sense takes no negative time. -/
theorem Valid.hopLatency_nonneg {c : Config Rat} (h : c.Valid) : 0 ≤ c.hopLatency := by
  unfold hopLatency
  split
  · exact h.viaLatency_nonneg
  · exact le_rfl

end Config

end SiliconBench.Machine
