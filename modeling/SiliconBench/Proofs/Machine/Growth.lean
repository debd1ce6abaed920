import SiliconBench.Proofs.Machine.Estimate
import SiliconBench.Proofs.Real
import Mathlib.Analysis.SpecialFunctions.Pow.Real

/-!
# Growth — what is needed of the growth of leakage

Leakage grows by the same factor with every ten degrees. Little of that matters: growth
is positive and never falls (`Rises`), and where one figure is weighed against another
it must also not outrun the rise that it is for (`Moderate`). A power of 1.08 does both
(`powerGrowth_rises`, `moderate_power`), as long as the rise is no more than fifty
degrees.
-/

namespace SiliconBench.Machine

open Scalar

variable {α : Type} [Field α] [LinearOrder α]

/-- `g` is the growth of leakage, as far as the cap on the rise goes: it is positive and
never falls. -/
structure Rises (growth : α → Result α α) (g : α → α) : Prop where
  grows : Grows growth g
  pos : ∀ x, 0 ≤ x → x ≤ 100 → 0 < g x
  mono : ∀ x y, 0 ≤ x → x ≤ y → y ≤ 100 → g x ≤ g y

/-- Over the first fifty degrees growth in proportion to the rise does not increase:
`g y / y ≤ g x / x`, without the quotients. -/
def Moderate (g : α → α) : Prop :=
  ∀ x y, 0 ≤ x → x ≤ y → y ≤ 5 → x * g y ≤ y * g x

/-! ## Leakage -/

section

variable [IsStrictOrderedRing α] {growth : α → Result α α} {g : α → α} (hg : Rises growth g)
  {rise rise' : α}

include hg

theorem Rises.leakageOf_mono (hrise : 0 ≤ rise) (hle : rise ≤ rise') :
    leakageOf g rise ≤ leakageOf g rise' := by
  have htens : min rise 1000 / 10 ≤ min rise' 1000 / 10 :=
    div_le_div_of_nonneg_right (min_le_min_right _ hle) (by norm_num)
  have hgrowth := hg.mono _ _ (tens_mem hrise).1 htens (tens_mem (hrise.trans hle)).2
  exact mul_le_mul_of_nonneg_left hgrowth (by norm_num)

theorem Rises.leakageOf_pos (hrise : 0 ≤ rise) : 0 < leakageOf g rise :=
  mul_pos (by norm_num) (hg.pos _ (tens_mem hrise).1 (tens_mem hrise).2)

/-- Leakage lies between that at ambient and that at the cap on the rise. -/
theorem Rises.leakageOf_mem (hrise : 0 ≤ rise) :
    0.5 * g 0 ≤ leakageOf g rise ∧ leakageOf g rise ≤ 0.5 * g 100 := by
  obtain ⟨hlow, hhigh⟩ := tens_mem hrise
  constructor
  · exact mul_le_mul_of_nonneg_left (hg.mono _ _ le_rfl hlow hhigh) (by norm_num)
  · exact mul_le_mul_of_nonneg_left (hg.mono _ _ hlow hhigh le_rfl) (by norm_num)

end

/-! ## A power -/

/-- The growth of leakage after `x` times ten degrees. -/
noncomputable def powerGrowth (x : ℝ) : Result ℝ ℝ := .ok (1.08 ^ x)

theorem powerGrowth_rises : Rises powerGrowth fun x => 1.08 ^ x where
  grows _ _ _ := rfl
  pos _ _ _ := Real.rpow_pos_of_pos (by norm_num) _
  mono _ _ _ hxy _ := Real.rpow_le_rpow_of_exponent_le (by norm_num) hxy

/-- `1.08 ^ x / x` decreases up to `1 / log 1.08`, which is well above five. -/
theorem moderate_power : Moderate fun x : ℝ => (1.08 : ℝ) ^ x := by
  intro x y hx hxy hy
  rcases hx.eq_or_lt with rfl | hpos
  · have hpower : 0 ≤ (1.08 : ℝ) ^ (0 : ℝ) := Real.rpow_nonneg (by norm_num) _
    rw [zero_mul]
    exact mul_nonneg hxy hpower
  have hy' : 0 < y := hpos.trans_le hxy
  have hlog : Real.log 1.08 ≤ 1 / y := by
    have hbase : Real.log 1.08 ≤ 1.08 - 1 := Real.log_le_sub_one_of_pos (by norm_num)
    have hfifth : 1 / 5 ≤ 1 / y := one_div_le_one_div_of_le hy' hy
    linarith
  have hfactor : (1.08 : ℝ) ^ (y - x) ≤ y / x := by
    rw [Real.rpow_def_of_pos (by norm_num), ← Real.le_log_iff_exp_le (div_pos hy' hpos)]
    calc Real.log 1.08 * (y - x)
      _ ≤ 1 / y * (y - x) := mul_le_mul_of_nonneg_right hlog (sub_nonneg.mpr hxy)
      _ = 1 - (y / x)⁻¹ := by field_simp
      _ ≤ Real.log (y / x) := Real.one_sub_inv_le_log_of_pos (div_pos hy' hpos)
  have hsplit : (1.08 : ℝ) ^ y = (1.08 : ℝ) ^ x * (1.08 : ℝ) ^ (y - x) := by
    rw [← Real.rpow_add (by norm_num), add_sub_cancel]
  calc x * (1.08 : ℝ) ^ y
    _ = x * (1.08 : ℝ) ^ (y - x) * (1.08 : ℝ) ^ x := by rw [hsplit]; ring
    _ ≤ y * (1.08 : ℝ) ^ x := by
      refine mul_le_mul_of_nonneg_right ?_ (Real.rpow_nonneg (by norm_num) _)
      rw [mul_comm]
      exact (le_div_iff₀ hpos).mp hfactor

end SiliconBench.Machine
