import SiliconBench.Proofs.Machine.Consistent

/-!
# Cooler — a better way for heat is never hotter, and never slower

Heat goes from stage to stage: energy makes dynamic power, power makes a rise, a rise
makes leakage, both powers make a temperature, and a temperature makes throttling. Each
stage keeps the order of what it is given, its clamps included, because nothing that
it multiplies with is negative. So a core that spends less, or gets rid of its heat
better, or may get hotter, is ahead at the end of every stage.
-/

namespace SiliconBench.Machine

open Scalar

variable {α : Type} [LinearOrder α]

/-- `t` gets rid of heat no worse than `u`, and may get no less hot. -/
structure Thermal.NoWorse (t u : Thermal α) : Prop where
  ambient_le : t.ambient ≤ u.ambient
  resistance_le : t.resistance ≤ u.resistance
  limit_ge : u.limit ≤ t.limit

theorem Thermal.NoWorse.refl (t : Thermal α) : t.NoWorse t := ⟨le_rfl, le_rfl, le_rfl⟩

/-- No figure of `e` is worse than the same of `f`. -/
structure Estimate.NoWorse (e f : Estimate α) : Prop where
  dynamic_le : e.power.dynamic ≤ f.power.dynamic
  static_le : e.power.static ≤ f.power.static
  total_le : e.power.total ≤ f.power.total
  temperature_le : e.temperature ≤ f.temperature
  throttling_le : e.throttling ≤ f.throttling
  cycles_le : e.cycles ≤ f.cycles
  ipc_ge : f.ipc ≤ e.ipc

variable [Field α]

/-- Watts of a core that works at so much dynamic power. -/
def totalOf (g : α → α) (dynamic : α) (t : Thermal α) : α :=
  dynamic + leakageOf g (dynamic * t.resistance)

/-- Degrees of a core that works at so much dynamic power. -/
def temperatureOf (g : α → α) (dynamic : α) (t : Thermal α) : α :=
  t.ambient + totalOf g dynamic t * t.resistance

variable [IsStrictOrderedRing α]

/-! ## Heat -/

section

variable {growth : α → Result α α} {g : α → α} (hg : Rises growth g) {t u : Thermal α}
  (htu : t.NoWorse u) (hR : 0 ≤ t.resistance) {dynamic dynamic' : α} (hdynamic : 0 ≤ dynamic)
  (hle : dynamic ≤ dynamic')

include hg htu hR hdynamic hle

theorem Rises.leakage_le :
    leakageOf g (dynamic * t.resistance) ≤ leakageOf g (dynamic' * u.resistance) :=
  hg.leakageOf_mono (mul_nonneg hdynamic hR)
    (mul_le_mul hle htu.resistance_le hR (hdynamic.trans hle))

theorem Rises.totalOf_le : totalOf g dynamic t ≤ totalOf g dynamic' u :=
  add_le_add hle (hg.leakage_le htu hR hdynamic hle)

theorem Rises.temperatureOf_le : temperatureOf g dynamic t ≤ temperatureOf g dynamic' u := by
  have hleakage := hg.leakageOf_pos (mul_nonneg hdynamic hR)
  have htotal : 0 ≤ totalOf g dynamic t := add_nonneg hdynamic hleakage.le
  have hmore := hg.totalOf_le htu hR hdynamic hle
  exact add_le_add htu.ambient_le (mul_le_mul hmore htu.resistance_le hR (htotal.trans hmore))

end

theorem throttleOf_mono {temperature temperature' limit limit' : α}
    (htemperature : temperature ≤ temperature') (hlimit : limit' ≤ limit) :
    throttleOf temperature limit ≤ throttleOf temperature' limit' := by
  have hexcess : (temperature - limit) * 2 ≤ (temperature' - limit') * 2 := by linarith
  rw [throttleOf_eq_clamp, throttleOf_eq_clamp]
  exact max_le_max_left _ (min_le_min_left _ hexcess)

/-! ## Instructions -/

theorem Accepted.cyclesOf_le {n ratio a b : α} (h : Accepted n ratio a) (hab : a ≤ b) :
    cyclesOf n ratio a ≤ cyclesOf n ratio b :=
  add_le_add_right (mul_le_mul_of_nonneg_left hab
    (mul_nonneg h.instructions_nonneg h.ratio_nonneg)) _

variable [Scalar α]

theorem Accepted.cycles_le_of_throttling_le {n ratio a b : α} (h : Accepted n ratio a)
    (hab : a ≤ b) {g : α → α} {i j : Integration} {t u : Thermal α}
    (hthrottling : (estimateOf g n ratio a i t).throttling ≤
      (estimateOf g n ratio b j u).throttling) :
    (estimateOf g n ratio a i t).cycles ≤ (estimateOf g n ratio b j u).cycles := by
  have hplain := h.cyclesOf_le hab
  have hlonger := one_le_throttled (estimateOf g n ratio a i t).temperature t.limit
  rw [estimateOf_cycles, estimateOf_cycles]
  refine mul_le_mul hplain ?_ (zero_le_one.trans hlonger) (h.cyclesOf_nonneg.trans hplain)
  linarith

variable [LawfulField α] {n ratio access : α}

theorem energyOf_le (hratio : 0 ≤ ratio) {i j : Integration} (hij : i = .stacked ∨ i = j) :
    energyOf ratio i ≤ energyOf ratio j := by
  have hmemory : memoryEnergy α i ≤ memoryEnergy α j := by
    obtain rfl | rfl := hij
    · cases j <;> norm_num [memoryEnergy, real_eq]
    · exact le_rfl
  have hsum : ratio * memoryEnergy α i + (1 - ratio) * otherEnergy α ≤
      ratio * memoryEnergy α j + (1 - ratio) * otherEnergy α :=
    add_le_add_left (mul_le_mul_of_nonneg_left hmemory hratio) _
  exact mul_le_mul_of_nonneg_right hsum (by norm_num)

theorem rateOf_anti (hn : 0 ≤ n) {cycles cycles' : α} (h : cycles ≤ cycles') :
    rateOf n cycles' ≤ rateOf n cycles := by
  unfold rateOf
  split
  · exact le_rfl
  · exact div_le_div_of_nonneg_left hn (lt_max_of_lt_right cycleFloor_pos) (max_le_max_right _ h)

theorem Accepted.dynamicOf_le {a b : α} (h : Accepted n ratio a) {i j : Integration}
    (hij : i = .stacked ∨ i = j) (hab : a ≤ b) :
    dynamicOf n ratio b i ≤ dynamicOf n ratio a j := by
  have henergy := energyOf_le h.ratio_nonneg hij
  have henergy' := energyOf_nonneg h.ratio_nonneg h.ratio_le_one j
  have hrate := rateOf_anti h.instructions_nonneg (h.cyclesOf_le hab)
  have hrate' := rateOf_nonneg h.instructions_nonneg (cyclesOf n ratio b)
  exact mul_le_mul_of_nonneg_right (mul_le_mul henergy hrate hrate' henergy') clockRate_pos.le

/-! ## The whole -/

theorem Rises.estimateOf_noWorse {growth : α → Result α α} {g : α → α} (hg : Rises growth g)
    (h : Accepted n ratio access) {t u : Thermal α} (htu : t.NoWorse u) (hR : 0 ≤ t.resistance)
    {i j : Integration} (hij : i = .stacked ∨ i = j) :
    (estimateOf g n ratio access i t).NoWorse (estimateOf g n ratio access j u) := by
  have hdynamic := h.dynamicOf_nonneg i
  have hless := h.dynamicOf_le hij le_rfl
  have hthrottling : (estimateOf g n ratio access i t).throttling ≤
      (estimateOf g n ratio access j u).throttling :=
    throttleOf_mono (hg.temperatureOf_le htu hR hdynamic hless) htu.limit_ge
  have hcycles : (estimateOf g n ratio access i t).cycles ≤
      (estimateOf g n ratio access j u).cycles :=
    h.cycles_le_of_throttling_le le_rfl hthrottling
  constructor
  case dynamic_le => exact hless
  case static_le => exact hg.leakage_le htu hR hdynamic hless
  case total_le => exact hg.totalOf_le htu hR hdynamic hless
  case temperature_le => exact hg.temperatureOf_le htu hR hdynamic hless
  case throttling_le => exact hthrottling
  case cycles_le => exact hcycles
  case ipc_ge => exact rateOf_anti h.instructions_nonneg hcycles

/-- **A better way for heat is never hotter, and never slower.** Under two thermal paths
and two ways of integration the same streams can be accepted; and where neither the
path nor the integration is worse, no figure of the estimate is. -/
theorem estimate_noWorse {growth : α → Result α α} {g : α → α} (hg : Rises growth g)
    {t u : Thermal α} (ht : t.validate = .ok ()) (htu : t.NoWorse u) {i j : Integration}
    (hij : i = .stacked ∨ i = j) (n ratio access : α) :
    ((∃ e, estimate growth n ratio access i t = .ok e) ↔ Accepted n ratio access) ∧
      ((∃ f, estimate growth n ratio access j u = .ok f) ↔ Accepted n ratio access) ∧
      ∀ e f, estimate growth n ratio access i t = .ok e →
        estimate growth n ratio access j u = .ok f → e.NoWorse f := by
  have hR := t.resistance_nonneg ht
  have hR' : 0 ≤ u.resistance := hR.trans htu.resistance_le
  refine ⟨hg.grows.estimate_answers_iff i hR, hg.grows.estimate_answers_iff j hR', ?_⟩
  intro e f he hf
  obtain ⟨haccepted, rfl⟩ := (hg.grows.estimate_eq_ok_iff i hR).mp he
  obtain ⟨-, rfl⟩ := (hg.grows.estimate_eq_ok_iff j hR').mp hf
  exact hg.estimateOf_noWorse haccepted htu hR hij

/-- A thermal path that is better than the narrow one in everything. -/
noncomputable def widePath : Thermal ℝ := realPath 20 10 80

theorem widePath_validates : widePath.validate = .ok () :=
  realPath_validates (by norm_num) _ _

theorem widePath_noWorse : widePath.NoWorse narrowPath := by
  constructor <;> norm_num [widePath, narrowPath, realPath, real_eq]

theorem estimate_noWorse_widePath :
    widePath.NoWorse narrowPath ∧
      ∃ e f, estimate powerGrowth 100 (1 / 2) 2 .stacked widePath = .ok e ∧
        estimate powerGrowth 100 (1 / 2) 2 .planar narrowPath = .ok f ∧ e.NoWorse f := by
  have haccepted : Accepted (100 : ℝ) (1 / 2) 2 := by constructor <;> norm_num
  obtain ⟨hwide, hnarrow, horder⟩ := estimate_noWorse powerGrowth_rises widePath_validates
    widePath_noWorse (i := .stacked) (j := .planar) (.inl rfl) 100 (1 / 2) 2
  obtain ⟨e, he⟩ := hwide.mpr haccepted
  obtain ⟨f, hf⟩ := hnarrow.mpr haccepted
  exact ⟨widePath_noWorse, e, f, he, hf, horder e f he hf⟩

end SiliconBench.Machine
