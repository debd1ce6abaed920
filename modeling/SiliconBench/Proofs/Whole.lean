import SiliconBench.Proofs.Rational

/-!
# Whole — whole literals mean what they say

Budgets and periods are whole numbers, and the arithmetic of a settings file
keeps these exact whatever their size. An arithmetic in which whole literals are
compared as the numbers they stand for is all that a statement about such a
budget needs; the values of a settings file are one, and the rationals are another.
What is counted is added up as well (`LawfulCount`), and a period must tell its
multiples (`LawfulPeriod`).
-/

namespace SiliconBench.Scalar

/-- Whole literals are compared, and rounded, as the numbers they stand for. -/
class LawfulWhole (α : Type) [Scalar α] : Prop where
  lt_whole (m n : Int) : (lt (whole α m) (whole α n) : Result α Bool) = .ok (decide (m < n))
  le_whole (m n : Int) : (le (whole α m) (whole α n) : Result α Bool) = .ok (decide (m ≤ n))
  ceiling_whole (n : Nat) : ceiling (whole α n) = n

export LawfulWhole (lt_whole le_whole ceiling_whole)

instance : LawfulWhole Rat where
  lt_whole m n := by simp
  le_whole m n := by simp
  ceiling_whole n := by simp [ceiling_rat]

instance : LawfulWhole Value where
  lt_whole m n := by
    show Except.ok (some (compare m n) == some .lt) = _
    rcases lt_trichotomy m n with h | h | h
    · simp [compare_lt_iff_lt.mpr h, h]
    · simp [h]
    · simp [compare_gt_iff_gt.mpr h, h.not_gt]
  le_whole m n := by
    show Except.ok (some (compare m n) == some .lt || some (compare m n) == some .eq) = _
    rcases lt_trichotomy m n with h | h | h
    · simp [compare_lt_iff_lt.mpr h, h.le]
    · simp [h]
    · simp [compare_gt_iff_gt.mpr h, h.not_ge]
  ceiling_whole n := rfl

/-- Whole literals are added as the numbers they stand for, and are found to be them;
a flag is as true as it was raised. -/
class LawfulCount (α : Type) [Scalar α] : Prop extends LawfulWhole α where
  add_whole (m n : Int) : (add (whole α m) (whole α n) : Result α α) = .ok (whole α (m + n))
  isWhole_whole (m n : Int) : isWhole (whole α m) n = decide (m = n)
  isTrue_flag (b : Bool) : isTrue (flag b : α) = b

export LawfulCount (add_whole isWhole_whole isTrue_flag)

instance : LawfulCount Rat where
  add_whole m n := by simp
  isWhole_whole m n := by simp
  isTrue_flag b := by cases b <;> rfl

instance : LawfulCount Value where
  add_whole m n := rfl
  isWhole_whole m n := by
    show (some (compare m n) == some .eq) = _
    by_cases h : m = n
    · simp [h]
    · simp [h]
  isTrue_flag b := rfl

/-- A whole period goes into a number of ticks as the number that it stands for does. -/
class LawfulPeriod (α : Type) [Scalar α] : Prop extends LawfulWhole α where
  divides_whole {k : Nat} (hk : 1 ≤ k) (n : Nat) :
    (divides (whole α k) n : Result α Bool) = .ok (decide (k ∣ n))

export LawfulPeriod (divides_whole)

instance : LawfulPeriod Rat where
  divides_whole hk n := divides_natCast hk n

instance : LawfulPeriod Value where
  divides_whole {k} hk n := by
    have hk0 : (k : Int) ≠ 0 := by omega
    show (if (k : Int) = 0 then _ else Except.ok (decide ((n : Int) % k = 0))) = _
    rw [if_neg hk0]
    simp only [← Int.dvd_iff_emod_eq_zero, Int.natCast_dvd_natCast]

/-- A budget of at least one is accepted in every such arithmetic. -/
theorem requireOne_whole {α : Type} [Scalar α] [LawfulWhole α] (name : String) {n : Nat}
    (hn : 1 ≤ n) : requireOne name (whole α n) = .ok () := by
  have h : ¬ (n : Int) < 1 := by omega
  simp [requireOne, lt_whole, h]

end SiliconBench.Scalar
