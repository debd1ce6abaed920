import SiliconBench.Proofs.Machine.Monotone
import SiliconBench.Proofs.Paired.Simulate

/-!
# Alike — what the metrics of a system do not depend on

A system has settings that nothing is worked out from: some are for information only,
and those of a level or of vias that are not enabled are masked. Two systems that have
all the OTHER settings in common are alike, and go the same way through every stage, in
any arithmetic: each stage reads nothing else, and asks whether a level is enabled
before it reads what is masked. A system may also be disguised as another one, with
every setting taken from there that it can be without a difference.
-/

namespace SiliconBench

open Scalar Instructions

namespace Machine

variable {α : Type} [Scalar α]

/-! ## One level -/

/-- Two levels that are not enabled, or have size and latency in common. -/
structure Level.Alike (l m : Level α) : Prop where
  enabled_eq : isTrue l.enabled = isTrue m.enabled
  size_eq : isTrue l.enabled → l.size = m.size
  latency_eq : isTrue l.enabled → l.latency = m.latency

namespace Level

/-- A level with what is masked and what is for information only taken from another. -/
def disguisedAs (l m : Level α) : Level α :=
  if isTrue l.enabled then { l with associativity := m.associativity }
  else { m with enabled := l.enabled }

theorem alike_disguisedAs (l m : Level α) : l.Alike (l.disguisedAs m) := by
  unfold disguisedAs
  split
  · exact ⟨rfl, fun _ => rfl, fun _ => rfl⟩
  · rename_i hmasked
    exact ⟨rfl, fun henabled => absurd henabled hmasked, fun henabled => absurd henabled hmasked⟩

namespace Alike

variable {l m : Level α} (h : l.Alike m)

include h

theorem isBypassed_eq : l.isBypassed = m.isBypassed := by
  rw [isBypassed, isBypassed, ← h.enabled_eq]
  split
  · rename_i henabled
    rw [h.size_eq henabled]
  · rfl

theorem missRate_eq (p : Pattern) : l.missRate p = m.missRate p := by
  cases henabled : isTrue l.enabled with
  | true => rw [missRate, missRate, h.isBypassed_eq, h.size_eq henabled]
  | false =>
    -- a level that is not enabled misses everything before its size is asked for
    have henabled' : isTrue m.enabled = false := h.enabled_eq ▸ henabled
    simp [missRate, isBypassed, henabled, henabled']

theorem time_eq (miss next hop : α) : l.time miss next hop = m.time miss next hop := by
  rw [Level.time, Level.time, ← h.enabled_eq]
  split
  · rename_i henabled
    rw [h.latency_eq henabled]
  · rfl

end Alike

end Level

/-! ## All levels -/

namespace Config

/-- Two systems that have everything in common that metrics are worked out from. -/
structure Alike (c d : Config α) : Prop where
  name_eq : c.name = d.name
  memoryLatency_eq : c.memory.latency = d.memory.latency
  l1 : c.caches.l1.Alike d.caches.l1
  l2 : c.caches.l2.Alike d.caches.l2
  l3 : c.caches.l3.Alike d.caches.l3
  isStacked_eq : c.isStacked = d.isStacked
  viaLatency_eq : c.isStacked → c.vias.latency = d.vias.latency
  ambient_eq : c.thermal.ambient = d.thermal.ambient
  resistance_eq : c.thermal.resistance = d.thermal.resistance
  limit_eq : c.thermal.limit = d.thermal.limit

/-- A system with what is masked and what is for information only taken from another. -/
def disguisedAs (c d : Config α) : Config α where
  name := c.name
  memory := { d.memory with latency := c.memory.latency }
  caches :=
    { l1 := c.caches.l1.disguisedAs d.caches.l1
      l2 := c.caches.l2.disguisedAs d.caches.l2
      l3 := c.caches.l3.disguisedAs d.caches.l3 }
  vias :=
    if c.isStacked then { c.vias with energy := d.vias.energy }
    else { d.vias with enabled := c.vias.enabled }
  thermal :=
    { c.thermal with
      logicPower := d.thermal.logicPower
      memoryPower := d.thermal.memoryPower }

theorem alike_disguisedAs (c d : Config α) : c.Alike (c.disguisedAs d) where
  name_eq := rfl
  memoryLatency_eq := rfl
  l1 := c.caches.l1.alike_disguisedAs d.caches.l1
  l2 := c.caches.l2.alike_disguisedAs d.caches.l2
  l3 := c.caches.l3.alike_disguisedAs d.caches.l3
  isStacked_eq := by
    unfold isStacked disguisedAs
    dsimp only
    split <;> rfl
  viaLatency_eq := fun hstacked => by simp [disguisedAs, hstacked]
  ambient_eq := rfl
  resistance_eq := rfl
  limit_eq := rfl

namespace Alike

variable {c d : Config α} (h : c.Alike d)

include h

theorem hopLatency_eq : c.hopLatency = d.hopLatency := by
  rw [hopLatency, hopLatency, ← h.isStacked_eq]
  split
  · rename_i hstacked
    exact h.viaLatency_eq hstacked
  · rfl

theorem accessTime_eq (p : Pattern) : c.accessTime p = d.accessTime p := by
  simp only [accessTime, h.hopLatency_eq, h.memoryLatency_eq, h.l1.missRate_eq, h.l2.missRate_eq,
    h.l3.missRate_eq, h.l1.time_eq, h.l2.time_eq, h.l3.time_eq]

theorem estimate_eq (growth : α → Result α α) (n ratio access : α) (style : Integration) :
    estimate growth n ratio access style c.thermal =
      estimate growth n ratio access style d.thermal := by
  rw [estimate, estimate, h.ambient_eq, h.resistance_eq, h.limit_eq]

end Alike

end Config

end Machine

/-! ## The whole -/

namespace Paired

open Machine

variable {α : Type} [Scalar α]

section

variable {c d : Config α} (h : c.Alike d) (growth : α → Result α α) (mix : Mix α) (p : Pattern)
  (ratio : α) (name : Value)

include h

theorem evaluate_of_alike :
    evaluate growth c mix p ratio name = evaluate growth d mix p ratio name := by
  simp only [evaluate, h.accessTime_eq, h.isStacked_eq, h.estimate_eq]

theorem simulate_of_alike (hc : c.validate = .ok ()) (hd : d.validate = .ok ()) :
    simulate growth c mix p ratio name = simulate growth d mix p ratio name := by
  rw [simulate, simulate, hc, hd, evaluate_of_alike h]

end

/-- **Metrics depend on nothing but what they are worked out from.** Two systems that
validate and are alike have the same metrics, or are refused for the same reason; so no
disguise that validates makes a difference either. -/
theorem simulateNamed_of_alike {c d : Config α} (hc : c.validate = .ok ())
    (hd : d.validate = .ok ()) (h : c.Alike d) (growth : α → Result α α) (mix : Mix α)
    (pattern : Value) (ratio : α) (name : Value) :
    simulateNamed growth c mix pattern ratio name =
        simulateNamed growth d mix pattern ratio name ∧
      ∀ e : Config α, (c.disguisedAs e).validate = .ok () →
        simulateNamed growth (c.disguisedAs e) mix pattern ratio name =
          simulateNamed growth c mix pattern ratio name := by
  have hsame {e : Config α} (he : e.validate = .ok ()) (hce : c.Alike e) :
      simulateNamed growth c mix pattern ratio name =
        simulateNamed growth e mix pattern ratio name := by
    simp only [simulateNamed, hc, he, hce.name_eq, simulate_of_alike hce growth _ _ _ _ hc he]
  exact ⟨hsame hd h, fun e he => (hsame he (c.alike_disguisedAs e)).symm⟩

/-- A flat system that looks like a tall one still has the metrics of a flat one. -/
theorem simulateNamed_of_alike_flatSystem :
    (Config.flatSystem.disguisedAs Config.tallSystem).validate = .ok () ∧
      ∃ m, simulateNamed wholeGrowth Config.flatSystem fewInstructions (.text "random") (1 / 2)
          .null = .ok m ∧
        simulateNamed wholeGrowth (Config.flatSystem.disguisedAs Config.tallSystem)
          fewInstructions (.text "random") (1 / 2) .null = .ok m := by
  have hflat : Config.flatSystem.validate = .ok () := rfl
  have hdisguised : (Config.flatSystem.disguisedAs Config.tallSystem).validate = .ok () := rfl
  obtain ⟨hsame, -⟩ := simulateNamed_of_alike hflat hdisguised (Config.alike_disguisedAs _ _)
    wholeGrowth fewInstructions (.text "random") (1 / 2) .null
  obtain ⟨g, hg⟩ := exists_grows wholeGrowth_answers
  have hmemory : 0 ≤ fewInstructions.memory := by norm_num [fewInstructions]
  have hother : 0 ≤ fewInstructions.other := by norm_num [fewInstructions]
  have hhalf : (0 : Rat) ≤ 1 / 2 := by norm_num
  have hhalf' : (1 / 2 : Rat) ≤ 1 := by norm_num
  have hrandom : Pattern.parse (α := Rat) (.text "random") = .ok .random := rfl
  have hmetrics := simulateNamed_of_valid hg hmemory hother hhalf hhalf'
    (Config.validate_eq_ok.mp hflat) hrandom .null
  rw [if_neg (by norm_num)] at hmetrics
  exact ⟨hdisguised, _, hmetrics, hsame ▸ hmetrics⟩

end Paired

end SiliconBench
