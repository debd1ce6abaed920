import SiliconBench.Proofs.Rational
import SiliconBench.Proofs.Report.Picture

/-!
# ThermalMap — a map of temperatures

A thermal map shows each temperature where the grid has its core, as a character
that tells how warm it is. WHERE it is shown holds in any arithmetic, of every map
that there is (`thermalMap_shows`). HOW it is shown is said over the rationals:
the place in the ramp is always one of the ramp, and never falls with the
temperature; at the lower bound and below it is the first, and at the upper bound
and above it is the last, unless the bounds leave no room between them.
-/

namespace SiliconBench.Report

open Scalar

/-! ## Where a temperature is shown -/

/-- `rows` shows temperatures, `cols` to a row: number `i` in row `i / cols` and column
`i % cols`, and blanks in what is left of the last row. -/
structure Shows {α : Type} [Scalar α] (rows : List String) (ts : List α) (cols : Nat)
    (low high : α) : Prop where
  height : rows.length = ts.length ⌈/⌉ cols
  width : ∀ row ∈ rows, row.length = cols
  drawn : ∀ i t, ts[i]? = some t → ∃ span c, sub high low = .ok span ∧
    rampChar low span t = .ok c ∧ charAt rows (i / cols) (i % cols) = some c
  blank : ∀ row col, row < rows.length → col < cols → ts.length ≤ row * cols + col →
    charAt rows row col = some ' '

theorem thermalMap_shows {α : Type} [Scalar α] {ts : List α} {cols : Nat} {low high : α}
    {rows : List String} (hcols : 0 < cols) (h : thermalMap ts cols low high = .ok rows) :
    Shows rows ts cols low high := by
  rw [thermalMap_eq ts hcols] at h
  obtain ⟨span, hspan, h⟩ := bind_eq_ok.mp h
  obtain ⟨cs, hcs, h⟩ := bind_eq_ok.mp h
  cases h
  have hdraws : Draws (picture cols cs) cols cs := picture_draws hcols
  have hlength := length_of_each hcs
  refine ⟨hlength ▸ hdraws.height, hdraws.width, fun i t ht => ?_, hlength ▸ hdraws.blank⟩
  obtain ⟨c, hc, hi⟩ := getElem?_of_each hcs ht
  exact ⟨span, c, hspan, hc, hdraws.drawn i c hi⟩

/-! ## How a temperature is shown -/

/-- Where a temperature lies between two bounds, from zero to one. -/
def shareOf (low high t : Rat) : Rat :=
  min 1 (max 0 (if low < high then (t - low) / (high - low) else 0))

/-- The place of a temperature in the ramp. -/
def placeOf (low high t : Rat) : Nat :=
  ⌊shareOf low high t * (thermalRamp.length - 1 : Nat)⌋₊

/-- The character of a temperature. -/
def charOf (low high t : Rat) : Char :=
  thermalRamp.getD (placeOf low high t) ' '

section

variable {low high t u : Rat}

theorem shareOf_nonneg : 0 ≤ shareOf low high t :=
  le_min zero_le_one (le_max_left _ _)

theorem shareOf_le_one : shareOf low high t ≤ 1 :=
  min_le_left _ _

theorem shareOf_mono (h : t ≤ u) : shareOf low high t ≤ shareOf low high u := by
  refine min_le_min_left 1 (max_le_max_left 0 ?_)
  split
  case isTrue hroom =>
    exact div_le_div_of_nonneg_right (sub_le_sub_right h low) (sub_pos.mpr hroom).le
  case isFalse => exact le_rfl

theorem shareOf_eq_zero (h : t ≤ low ∨ high ≤ low) : shareOf low high t = 0 := by
  have hnone : (if low < high then (t - low) / (high - low) else 0) ≤ 0 := by
    split
    case isTrue hroom =>
      have ht : t ≤ low := h.resolve_right hroom.not_ge
      exact div_nonpos_of_nonpos_of_nonneg (sub_nonpos.mpr ht) (sub_pos.mpr hroom).le
    case isFalse => exact le_rfl
  rw [shareOf, max_eq_left hnone, min_eq_right zero_le_one]

theorem shareOf_eq_one (hroom : low < high) (h : high ≤ t) : shareOf low high t = 1 := by
  have hall : 1 ≤ (t - low) / (high - low) :=
    (one_le_div (sub_pos.mpr hroom)).mpr (sub_le_sub_right h low)
  rw [shareOf, if_pos hroom]
  exact min_eq_left (hall.trans (le_max_right _ _))

theorem clamp_rat (x : Rat) : (clamp x : Result Rat Rat) = .ok (min 1 (max 0 x)) := by
  simp [clamp]

/-- Over the rationals every temperature has its place. -/
theorem rampIndex_rat (low high t : Rat) :
    (rampIndex low (high - low) t : Result Rat Int) = .ok (placeOf low high t) := by
  have hplace : 0 ≤ shareOf low high t * (thermalRamp.length - 1 : Nat) :=
    mul_nonneg shareOf_nonneg (Nat.cast_nonneg _)
  rw [placeOf, ← truncate_rat_of_nonneg hplace, shareOf]
  by_cases hroom : low < high
  · simp [rampIndex, clamp_rat, hroom, div_rat_of_pos (sub_pos.mpr hroom)]
  · simp [rampIndex, clamp_rat, hroom]

theorem placeOf_lt : placeOf low high t < thermalRamp.length := by
  have hlast : shareOf low high t * (thermalRamp.length - 1 : Nat) ≤
      (thermalRamp.length - 1 : Nat) :=
    mul_le_of_le_one_left (Nat.cast_nonneg _) shareOf_le_one
  exact Nat.lt_of_le_pred (by decide) (Nat.floor_le_of_le hlast)

theorem placeOf_mono (h : t ≤ u) : placeOf low high t ≤ placeOf low high u :=
  Nat.floor_mono (mul_le_mul_of_nonneg_right (shareOf_mono h) (Nat.cast_nonneg _))

theorem placeOf_eq_zero (h : t ≤ low ∨ high ≤ low) : placeOf low high t = 0 := by
  rw [placeOf, shareOf_eq_zero h, zero_mul, Nat.floor_zero]

theorem placeOf_eq_last (hroom : low < high) (h : high ≤ t) :
    placeOf low high t = thermalRamp.length - 1 := by
  rw [placeOf, shareOf_eq_one hroom h, one_mul, Nat.floor_natCast]

/-- The place is one of the ramp, so that its character is never a default. -/
theorem getElem?_placeOf : thermalRamp[placeOf low high t]? = some (charOf low high t) := by
  simp [charOf, placeOf_lt]

end

theorem rampChar_rat (low high t : Rat) :
    (rampChar low (high - low) t : Result Rat Char) = .ok (charOf low high t) := by
  simp [rampChar, rampIndex_rat, charOf]

/-- Over the rationals there is always a map. -/
theorem thermalMap_rat (ts : List Rat) {cols : Nat} (hcols : 0 < cols) (low high : Rat) :
    thermalMap ts cols low high = .ok (picture cols (ts.map (charOf low high))) := by
  rw [thermalMap_eq ts hcols, ok_sub, sub_rat, ok_bind,
    each_eq_map fun t _ => rampChar_rat low high t]
  rfl

end SiliconBench.Report
