import SiliconBench.Machine.Settings
import SiliconBench.Proofs.Setting.Bound

/-!
# Bounded — the figures of a system within their bounds

Each figure of a system that is checked has a bound. `Bounded` says of all of them
that they are within it, but for the figures that are EXEMPT: with nothing exempt it
says what the documentation promises, and with the undefined number exempt it is
exactly what validation makes sure of (`validate_eq_ok_iff_bounded`).
-/

namespace SiliconBench.Machine

open Value

/-- A level of cache that is within its bounds. -/
structure Level.Bounded (exempt : Value → Prop) (l : Level Value) : Prop where
  latency : l.latency.AtLeast 0 ∨ exempt l.latency
  size : l.enabled.isTrue = true → l.size.Above 0 ∨ exempt l.size
  associativity : l.enabled.isTrue = true → l.associativity.AtLeast 1 ∨ exempt l.associativity

theorem Level.validate_eq_ok_iff_bounded {l : Level Value} {u : Unit} :
    l.validate = .ok u ↔ l.Bounded IsUndefined := by
  have henabled : Scalar.isTrue l.enabled = l.enabled.isTrue := rfl
  cases he : l.enabled.isTrue with
  | true =>
    simp only [validate, henabled, he, if_true, bind_eq_ok, requireNonNegative_eq_ok,
      requirePositive_eq_ok, requireOne_eq_ok, exists_const]
    constructor
    · rintro ⟨hlatency, hsize, hways⟩
      exact ⟨hlatency, fun _ => hsize, fun _ => hways⟩
    · intro h
      exact ⟨h.latency, h.size he, h.associativity he⟩
  | false =>
    simp only [validate, henabled, he, Bool.false_eq_true, if_false, bind_eq_ok,
      requireNonNegative_eq_ok, exists_const, pure_eq_ok, and_true]
    constructor
    · intro hlatency
      refine ⟨hlatency, ?_, ?_⟩ <;> simp [he]
    · intro h
      exact h.latency

namespace Config

/-- A system that is within its bounds. -/
structure Bounded (exempt : Value → Prop) (c : Config Value) : Prop where
  memoryLatency : c.memory.latency.AtLeast 0 ∨ exempt c.memory.latency
  memoryPower : c.memory.power.AtLeast 0 ∨ exempt c.memory.power
  memoryBandwidth : c.memory.bandwidth.AtLeast 0 ∨ exempt c.memory.bandwidth
  l1 : c.caches.l1.Bounded exempt
  l2 : c.caches.l2.Bounded exempt
  l3 : c.caches.l3.Bounded exempt
  viaLatency : c.vias.latency.AtLeast 0 ∨ exempt c.vias.latency
  viaEnergy : c.vias.energy.AtLeast 0 ∨ exempt c.vias.energy
  logicPower : c.thermal.logicPower.AtLeast 0 ∨ exempt c.thermal.logicPower
  thermalMemoryPower : c.thermal.memoryPower.AtLeast 0 ∨ exempt c.thermal.memoryPower
  resistance : c.thermal.resistance.AtLeast 0 ∨ exempt c.thermal.resistance

/-- Validation accepts exactly the systems that are within their bounds wherever a
figure is defined. -/
theorem validate_eq_ok_iff_bounded {c : Config Value} {u : Unit} :
    c.validate = .ok u ↔ c.Bounded IsUndefined := by
  simp only [validate, Memory.validate, Caches.validate, Vias.validate, Thermal.validate,
    bind_eq_ok, Level.validate_eq_ok_iff_bounded, requireNonNegative_eq_ok, exists_const]
  constructor
  · rintro ⟨⟨hlatency, hpower, hbandwidth⟩, ⟨h1, h2, h3⟩, ⟨hvia, henergy⟩, hlogic, hmemory, hR⟩
    exact ⟨hlatency, hpower, hbandwidth, h1, h2, h3, hvia, henergy, hlogic, hmemory, hR⟩
  · intro h
    exact ⟨⟨h.memoryLatency, h.memoryPower, h.memoryBandwidth⟩, ⟨h.l1, h.l2, h.l3⟩,
      ⟨h.viaLatency, h.viaEnergy⟩, h.logicPower, h.thermalMemoryPower, h.resistance⟩

end Config

end SiliconBench.Machine
