import SiliconBench.Proofs.Gpu.Layout
import Mathlib.Algebra.Order.BigOperators.Group.List
import Mathlib.Analysis.Complex.Exponential

/-!
# Factor — how much more the cores draw

Every hotspot adds to the power of every core, and what it adds has nothing to do with
the other hotspots: the factor on a core is one and a SUM over the hotspots. So their
order does not matter, and one more of them never takes anything away. What a single
hotspot adds is between nothing and its intensity, and it is no less where the hotspot
comes nearer (`hotspots_add_up`).

All of this is said for ANY ordered field, because hardly any exponential of a rational
is a rational. Over the reals it holds of the exponential itself.
-/

namespace SiliconBench.Gpu

open Cell

section

variable {κ : Type} [Field κ] [LinearOrder κ]

/-- Arrays over an ordered field: the operations are those of the field, and only a
quotient by zero has no value. -/
@[reducible] def Cell.exact (κ : Type) [Field κ] [LinearOrder κ] : Cell κ where
  ofRational q := q
  div x y := if y = 0 then none else some (x / y)
  lt x y := decide (x < y)
  greater x y := if x < y then y else x

/-- The arrays of rationals are such arrays. -/
example : Cell.exact Rat = (inferInstance : Cell Rat) := rfl

attribute [local instance] Cell.exact

/-- What is assumed of the exponential, from zero down: it is not negative, it is at most
one, and it never falls on the way up. -/
structure Decays (exp : κ → κ) : Prop where
  nonneg : ∀ x ≤ 0, 0 ≤ exp x
  le_one : ∀ x ≤ 0, exp x ≤ 1
  mono : MonotoneOn exp (Set.Iic 0)

/-- A number is the factor on the power of a core under some hotspots. -/
def IsFactor (α : Type) (exp : κ → κ) (g : Grid) (hs : List (Hotspot κ)) (core : Nat) (f : κ) :
    Prop :=
  ∃ factors, (powerFactors exp g hs : Result α (List κ)) = .ok factors ∧
    factors[core]? = some f

namespace Hotspot

/-- A hotspot is at most as far from a cell as another one. -/
def AsNear (cell : Nat × Nat) (h' h : Hotspot κ) : Prop :=
  (cell.1 - h'.x) ^ 2 + (cell.2 - h'.y) ^ 2 ≤ (cell.1 - h.x) ^ 2 + (cell.2 - h.y) ^ 2

/-- What a hotspot adds to the power of a core in a cell. -/
def warmth (exp : κ → κ) (falloff : κ) (cell : Nat × Nat) (h : Hotspot κ) : κ :=
  h.intensity * exp (-h.distanceSquared cell.1 cell.2 / falloff)

end Hotspot

/-- The factor on the power of a core in a cell. -/
def warmthAt (exp : κ → κ) (g : Grid) (hs : List (Hotspot κ)) (cell : Nat × Nat) : κ :=
  1 + (hs.map (Hotspot.warmth exp g.falloff cell)).sum

/-! ## The answer -/

theorem quotient_exact {α : Type} {x y : κ} (hy : y ≠ 0) :
    (quotient x y : Result α κ) = .ok (x / y) := by
  simp [quotient, Cell.div, hy]

theorem lit_natCast (n : Nat) : lit κ n = n :=
  Rat.cast_natCast n

theorem sum_exact (xs : List κ) : Cell.sum xs = xs.sum := by
  have hzero : lit κ 0 = 0 := Rat.cast_zero
  rw [List.sum_eq_foldl, Cell.sum, hzero]

variable {exp : κ → κ} {g : Grid} {hs : List (Hotspot κ)} {cell : Nat × Nat}

/-- The order of the hotspots does not matter. -/
theorem warmthAt_perm {hs' : List (Hotspot κ)} (same : hs'.Perm hs) :
    warmthAt exp g hs' cell = warmthAt exp g hs cell := by
  rw [warmthAt, warmthAt, (same.map _).sum_eq]

/-- Wherever a hotspot stands among the others, what it adds is its own. -/
theorem warmthAt_insert (before after : List (Hotspot κ)) (h : Hotspot κ) :
    warmthAt exp g (before ++ h :: after) cell =
      warmthAt exp g (before ++ after) cell + h.warmth exp g.falloff cell := by
  rw [warmthAt_perm List.perm_middle, warmthAt, List.map_cons, List.sum_cons, warmthAt]
  ring

variable [IsStrictOrderedRing κ]

theorem Grid.falloff_exact_pos (room : 0 < g.side) : (0 : κ) < g.falloff := by
  have hside : (0 : κ) < lit κ g.side := Rat.cast_pos.mpr (Nat.cast_pos.mpr room)
  have hhalf : (0 : κ) < lit κ 0.5 := Rat.cast_pos.mpr (by norm_num)
  exact mul_pos hside hhalf

/-- On a grid with room every core has a factor, whatever the hotspots. -/
theorem powerFactors_exact {α : Type} (room : 0 < g.side) (exp : κ → κ) (hs : List (Hotspot κ)) :
    (powerFactors exp g hs : Result α (List κ)) = .ok (g.positions.map (warmthAt exp g hs)) := by
  refine each_eq_map fun cell _ => ?_
  show powerFactor exp g.falloff hs (lit κ cell.1) (lit κ cell.2) = _
  have hparts : each (Hotspot.contribution exp g.falloff (lit κ cell.1) (lit κ cell.2)) hs =
      (.ok (hs.map (Hotspot.warmth exp g.falloff cell)) : Result α (List κ)) := by
    refine each_eq_map fun h _ => ?_
    rw [Hotspot.contribution, quotient_exact (Grid.falloff_exact_pos room).ne', lit_natCast,
      lit_natCast]
    rfl
  have hone : lit κ 1 = 1 := Rat.cast_one
  rw [powerFactor, hparts, ok_bind, sum_exact, hone]
  rfl

theorem isFactor_iff {α : Type} {core : Nat} {f : κ} (room : 0 < g.side) (here : core < g.cells) :
    IsFactor α exp g hs core f ↔ f = warmthAt exp g hs (g.position core) := by
  simp [IsFactor, powerFactors_exact room, Grid.getElem?_positions here, eq_comm]

/-! ## One hotspot -/

namespace Hotspot

variable {falloff : κ} {h h' : Hotspot κ}

theorem exponent_nonpos (falls : 0 < falloff) (h : Hotspot κ) (cell : Nat × Nat) :
    -h.distanceSquared cell.1 cell.2 / falloff ≤ 0 :=
  div_nonpos_of_nonpos_of_nonneg
    (neg_nonpos.mpr (add_nonneg (mul_self_nonneg _) (mul_self_nonneg _))) falls.le

/-- A hotspot adds at most its intensity, and takes nothing away. -/
theorem warmth_mem (damps : Decays exp) (falls : 0 < falloff) (hot : 0 ≤ h.intensity)
    (cell : Nat × Nat) : 0 ≤ h.warmth exp falloff cell ∧ h.warmth exp falloff cell ≤ h.intensity := by
  have hexponent := h.exponent_nonpos falls cell
  exact ⟨mul_nonneg hot (damps.nonneg _ hexponent),
    mul_le_of_le_one_right hot (damps.le_one _ hexponent)⟩

/-- Of two hotspots of one intensity the nearer one adds no less. -/
theorem warmth_le_of_asNear (damps : Decays exp) (falls : 0 < falloff) (hot : 0 ≤ h.intensity)
    (same : h'.intensity = h.intensity) (near : AsNear cell h' h) :
    h.warmth exp falloff cell ≤ h'.warmth exp falloff cell := by
  have hdistance : h'.distanceSquared (cell.1 : κ) cell.2 ≤ h.distanceSquared cell.1 cell.2 := by
    simpa only [AsNear, distanceSquared, pow_two] using near
  have hexponent : -h.distanceSquared cell.1 cell.2 / falloff ≤
      -h'.distanceSquared cell.1 cell.2 / falloff :=
    div_le_div_of_nonneg_right (neg_le_neg hdistance) falls.le
  rw [warmth, warmth, same]
  exact mul_le_mul_of_nonneg_left
    (damps.mono (h.exponent_nonpos falls cell) (h'.exponent_nonpos falls cell) hexponent) hot

end Hotspot

/-! ## All hotspots -/

theorem warmthAt_mem (damps : Decays exp) (room : 0 < g.side) (hot : ∀ h ∈ hs, 0 ≤ h.intensity)
    (cell : Nat × Nat) :
    1 ≤ warmthAt exp g hs cell ∧
      warmthAt exp g hs cell ≤ 1 + (hs.map Hotspot.intensity).sum := by
  have hwarmth (h : Hotspot κ) (hh : h ∈ hs) :=
    h.warmth_mem damps (Grid.falloff_exact_pos room) (hot h hh) cell
  constructor
  · refine le_add_of_nonneg_right (List.sum_nonneg fun w hw => ?_)
    obtain ⟨h, hh, rfl⟩ := List.mem_map.mp hw
    exact (hwarmth h hh).1
  · exact add_le_add_right (List.sum_le_sum fun h hh => (hwarmth h hh).2) 1

/-- **Hotspots add up.** On a grid with room, and every layout of cores has room, each core
has a factor. It is between one and one more than all intensities together, and is the same
in whatever order the hotspots come. One more hotspot never lowers it, and neither does a
hotspot that moves nearer to the core. -/
theorem hotspots_add_up {α : Type} (damps : Decays exp) (hot : ∀ h ∈ hs, 0 ≤ h.intensity) :
    (∀ cores, 0 < (Grid.ofCores cores).side) ∧
    ∀ g : Grid, 0 < g.side → ∀ core < g.cells, ∃ f, IsFactor α exp g hs core f ∧
      1 ≤ f ∧ f ≤ 1 + (hs.map Hotspot.intensity).sum ∧
      (∀ hs', hs'.Perm hs → IsFactor α exp g hs' core f) ∧
      (∀ before after, hs = before ++ after → ∀ h, 0 ≤ h.intensity →
        ∃ more, IsFactor α exp g (before ++ h :: after) core more ∧ f ≤ more) ∧
      ∀ before h after, hs = before ++ h :: after → ∀ h', h'.intensity = h.intensity →
        h'.AsNear (g.position core) h →
          ∃ more, IsFactor α exp g (before ++ h' :: after) core more ∧ f ≤ more := by
  refine ⟨Grid.side_ofCores_pos, fun g room core here => ?_⟩
  have hfactor (hs : List (Hotspot κ)) :
      IsFactor α exp g hs core (warmthAt exp g hs (g.position core)) :=
    (isFactor_iff room here).mpr rfl
  have falls : (0 : κ) < g.falloff := Grid.falloff_exact_pos room
  obtain ⟨hlow, hhigh⟩ := warmthAt_mem damps room hot (g.position core)
  refine ⟨_, hfactor hs, hlow, hhigh, fun hs' same => ?_, fun before after hsplit h hh => ?_,
    fun before h after hsplit h' same near => ?_⟩
  · exact (isFactor_iff room here).mpr (warmthAt_perm same).symm
  · refine ⟨_, hfactor _, ?_⟩
    rw [hsplit, warmthAt_insert]
    exact le_add_of_nonneg_right (h.warmth_mem damps falls hh _).1
  · refine ⟨_, hfactor _, ?_⟩
    have hh : 0 ≤ h.intensity := hot h (by simp [hsplit])
    rw [hsplit, warmthAt_insert, warmthAt_insert]
    exact add_le_add_right (h.warmth_le_of_asNear damps falls hh same near) _

/-! ## The exponential -/

theorem decays_realExp : Decays Real.exp where
  nonneg x _ := (Real.exp_pos x).le
  le_one _ hx := Real.exp_le_one_iff.mpr hx
  mono := Real.exp_monotone.monotoneOn _

/-- A hotspot in the first corner of a grid. -/
noncomputable def cornerSpot : Hotspot ℝ := ⟨0, 0, 0, 0, 1⟩

/-- A weaker one, above the first row. -/
noncomputable def outerSpot : Hotspot ℝ := ⟨0, -1, 0, 1, (1 / 2 : ℚ)⟩

/-- Ten cores between two hotspots; the second one comes nearer to the sixth core. -/
theorem hotspots_add_up_realExp :
    (∀ h ∈ [cornerSpot, outerSpot], 0 ≤ h.intensity) ∧ (Grid.ofCores 10).position 5 = (1, 1) ∧
      ∃ f, IsFactor ℝ Real.exp (Grid.ofCores 10) [cornerSpot, outerSpot] 5 f ∧
        1 ≤ f ∧ f ≤ 1 + (1 + 1 / 2) ∧
        IsFactor ℝ Real.exp (Grid.ofCores 10) [outerSpot, cornerSpot] 5 f ∧
        ∃ more, IsFactor ℝ Real.exp (Grid.ofCores 10)
          [cornerSpot, { outerSpot with x := 2, y := 1 }] 5 more ∧ f ≤ more := by
  have hot : ∀ h ∈ [cornerSpot, outerSpot], 0 ≤ h.intensity := by
    simp [cornerSpot, outerSpot]
  have hposition : (Grid.ofCores 10).position 5 = (1, 1) := by decide
  obtain ⟨hroom, hcores⟩ := hotspots_add_up (α := ℝ) decays_realExp hot
  obtain ⟨f, hf, hlow, hhigh, hperm, -, hmove⟩ := hcores (Grid.ofCores 10) (hroom 10) 5 (by decide)
  refine ⟨hot, hposition, f, hf, hlow, by simpa [cornerSpot, outerSpot] using hhigh,
    hperm _ (.swap _ _ _), hmove [cornerSpot] outerSpot [] rfl _ rfl ?_⟩
  rw [hposition]
  norm_num [Hotspot.AsNear, outerSpot]

end

end SiliconBench.Gpu
