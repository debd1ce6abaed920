import SiliconBench.Proofs.Answer
import SiliconBench.Proofs.Setting.Double
import SiliconBench.Scalar.Setting

/-!
# Bound — what a requirement on a setting makes sure of

A requirement of the model REFUSES what is below a bound. A number that stands
nowhere is below nothing, so it meets every such requirement: what passes is a
number within the bound or the undefined number (`requireNonNegative_eq_ok` and
its siblings), and nothing else is.
-/

namespace SiliconBench

namespace Value

/-- A number that is the whole number `n` or above it. -/
def AtLeast (n : Int) (v : Value) : Prop :=
  le (.whole n) v = .ok true

/-- A number above the whole number `n`. -/
def Above (n : Int) (v : Value) : Prop :=
  lt (.whole n) v = .ok true

/-- The undefined number. -/
def IsUndefined : Value → Prop
  | .real x => x.isNaN = true
  | _ => False

/-! ## Comparison with a whole number -/

section Comparison

variable {n : Int} {v : Value} {m : Number}

theorem number_of_number? (h : v.number? = some m) : v.number = .ok m := by
  rw [number, h]

theorem number_of_none (h : v.number? = none) : v.number = .error .wrongKind := by
  rw [number, h]

theorem compare_whole_swap (m : Number) (n : Int) :
    m.compare (.whole n) = ((Number.whole n).compare m).map Ordering.swap := by
  cases m with
  | whole k => simp [Number.compare, Int.compare_swap]
  | real x => rfl

/-- A whole number stands somewhere to every number but the undefined one. -/
theorem compare_eq_none (h : v.number? = some m) :
    (Number.whole n).compare m = none ↔ v.IsUndefined := by
  cases v with
  | bool | whole =>
    cases h
    simp [Number.compare, IsUndefined]
  | real x =>
    cases h
    rw [IsUndefined, ← Decimal.Reading.of_eq_undefined_iff_isNaN, Number.compare,
      Decimal.compareWhole]
    cases Decimal.Reading.of x <;> simp
  | null | text | list | table => cases h

theorem IsUndefined.number?_ne (h : v.IsUndefined) : v.number? ≠ none := by
  cases v with
  | real x => exact Option.some_ne_none _
  | null | bool | whole | text | list | table => exact h.elim

theorem atLeast_iff (h : v.number? = some m) :
    v.AtLeast n ↔ (Number.whole n).compare m = some .lt ∨ (Number.whole n).compare m = some .eq := by
  have hn : (Value.whole n).number = .ok (.whole n) := rfl
  simp [AtLeast, le, hn, number_of_number? h]

theorem above_iff (h : v.number? = some m) :
    v.Above n ↔ (Number.whole n).compare m = some .lt := by
  have hn : (Value.whole n).number = .ok (.whole n) := rfl
  simp [Above, lt, hn, number_of_number? h]

theorem AtLeast.number?_ne (h : v.AtLeast n) : v.number? ≠ none := by
  have hn : (Value.whole n).number = .ok (.whole n) := rfl
  intro hv
  simp [AtLeast, le, hn, number_of_none hv] at h

theorem Above.number?_ne (h : v.Above n) : v.number? ≠ none := by
  have hn : (Value.whole n).number = .ok (.whole n) := rfl
  intro hv
  simp [Above, lt, hn, number_of_none hv] at h

/-- The undefined number is within no bound. -/
theorem IsUndefined.not_atLeast (h : v.IsUndefined) : ¬ v.AtLeast n := by
  intro hat
  obtain ⟨m, hm⟩ := Option.ne_none_iff_exists'.mp h.number?_ne
  simp [atLeast_iff hm, (compare_eq_none hm).mpr h] at hat

theorem IsUndefined.not_above (h : v.IsUndefined) : ¬ v.Above n := by
  intro hab
  obtain ⟨m, hm⟩ := Option.ne_none_iff_exists'.mp h.number?_ne
  simp [above_iff hm, (compare_eq_none hm).mpr h] at hab

/-- What is not below a bound is at the bound, above it or nowhere. -/
theorem lt_whole_eq_false : lt v (.whole n) = .ok false ↔ v.AtLeast n ∨ v.IsUndefined := by
  have hn : (Value.whole n).number = .ok (.whole n) := rfl
  cases h : v.number? with
  | none =>
    have hat : ¬ v.AtLeast n := fun hat => hat.number?_ne h
    have hun : ¬ v.IsUndefined := fun hun => hun.number?_ne h
    simp [lt, number_of_none h, hat, hun]
  | some m =>
    rw [atLeast_iff h, ← compare_eq_none h (n := n)]
    simp only [lt, number_of_number? h, hn, ok_bind, compare_whole_swap]
    cases (Number.whole n).compare m with
    | none => simp
    | some o => cases o <;> simp

theorem le_whole_eq_false : le v (.whole n) = .ok false ↔ v.Above n ∨ v.IsUndefined := by
  have hn : (Value.whole n).number = .ok (.whole n) := rfl
  cases h : v.number? with
  | none =>
    have hab : ¬ v.Above n := fun hab => hab.number?_ne h
    have hun : ¬ v.IsUndefined := fun hun => hun.number?_ne h
    simp [le, number_of_none h, hab, hun]
  | some m =>
    rw [above_iff h, ← compare_eq_none h (n := n)]
    simp only [le, number_of_number? h, hn, ok_bind, compare_whole_swap]
    cases (Number.whole n).compare m with
    | none => simp
    | some o => cases o <;> simp

theorem magnitude_pos (m : Nat) (e : Int) : 0 < (Decimal.magnitude m e).2 := by
  cases e with
  | ofNat k => exact Nat.one_pos
  | negSucc k => exact Nat.two_pow_pos (k + 1)

/-- A bound below a double is below the whole number that the double is. -/
theorem le_of_compareWhole {k : Int} {x : Float} (hn : Decimal.compareWhole n x = some .eq)
    (hk : Decimal.compareWhole k x = some .lt ∨ Decimal.compareWhole k x = some .eq) : k ≤ n := by
  rw [Decimal.compareWhole] at hn hk
  cases hx : Decimal.Reading.of x with
  | undefined => simp [hx] at hn
  | infinite negative => cases negative <;> simp [hx] at hn
  | finite negative m e =>
    have hden : (0 : Int) < (Decimal.magnitude m e).2 :=
      Int.natCast_pos.mpr (magnitude_pos m e)
    simp only [hx, Option.some.injEq, Int.compare_eq_eq, Int.compare_eq_lt] at hn hk
    -- both whole numbers are compared over the denominator of the double
    have hle : k * (Decimal.magnitude m e).2 ≤ n * (Decimal.magnitude m e).2 := by omega
    exact Int.le_of_mul_le_mul_right hle hden

theorem AtLeast.le_of_isWhole {k : Int} (hv : v.AtLeast k) (hn : v.isWhole n = true) : k ≤ n := by
  obtain ⟨m, hm⟩ := Option.ne_none_iff_exists'.mp hv.number?_ne
  rw [atLeast_iff hm] at hv
  simp only [isWhole, hm, beq_iff_eq, compare_whole_swap] at hn
  cases m with
  | whole a =>
    simp [Number.compare, Int.compare_eq_lt] at hv hn
    omega
  | real x =>
    refine le_of_compareWhole ?_ hv
    rw [Number.compare] at hn
    cases h : Decimal.compareWhole n x with
    | none => simp [h] at hn
    | some o => cases o <;> simp [h] at hn ⊢

theorem not_isUndefined_of_isWhole (hn : v.isWhole n = true) : ¬ v.IsUndefined := by
  intro hv
  obtain ⟨m, hm⟩ := Option.ne_none_iff_exists'.mp hv.number?_ne
  simp [isWhole, hm, compare_whole_swap, (compare_eq_none hm).mpr hv] at hn

end Comparison

/-! ## Requirements -/

section Requirements

open Scalar

variable {name : String} {v : Value} {u : Unit}

/-- An action that refuses under a condition has an answer where the condition is false. -/
theorem refuseIf_eq_ok {x : Result Value Bool} {cause : Refusal Value} :
    (do if ← x then refuse cause : Result Value Unit) = .ok u ↔ x = .ok false := by
  cases x with
  | error e => simp
  | ok b => cases b <;> simp [refuse]

theorem requireNonNegative_eq_ok :
    requireNonNegative name v = .ok u ↔ v.AtLeast 0 ∨ v.IsUndefined := by
  rw [requireNonNegative, refuseIf_eq_ok]
  exact lt_whole_eq_false

theorem requireOne_eq_ok : requireOne name v = .ok u ↔ v.AtLeast 1 ∨ v.IsUndefined := by
  rw [requireOne, refuseIf_eq_ok]
  exact lt_whole_eq_false

theorem requirePositive_eq_ok : requirePositive name v = .ok u ↔ v.Above 0 ∨ v.IsUndefined := by
  rw [requirePositive, refuseIf_eq_ok]
  exact le_whole_eq_false

end Requirements

/-! ## Sums -/

section Sums

variable {v w t : Value} {m : Number}

theorem hasSums_of_atLeast {x : Float} (hm : v.number? = some m) (hv : v.AtLeast 0)
    (hx : m.double = .ok x) : (Decimal.Reading.of x).HasSums := by
  rw [atLeast_iff hm] at hv
  cases m with
  | whole k =>
    have hk : 0 ≤ k := by
      have hcases : 0 < k ∨ 0 = k := by
        simpa [Number.compare, Int.compare_eq_lt, Int.compare_eq_eq] using hv
      omega
    rw [Number.double] at hx
    split at hx
    · cases hx
      exact Decimal.hasSums_of_ofWhole hk ‹_›
    · cases hx
  | real y =>
    cases hx
    rw [Number.compare, Decimal.compareWhole] at hv
    constructor
    · intro hy
      simp [hy] at hv
    · intro hy
      simp [hy] at hv

theorem add_of_number? (hm : v.number? = some m) : add v w = combine (· + ·) (· + ·) v w := by
  cases v with
  | bool | whole | real => rfl
  | null | text | list | table => cases hm

/-- What combines two numbers is whole where both are, and goes by their doubles otherwise. -/
theorem combine_eq_ok {onWhole : Int → Int → Int} {onReal : Float → Float → Float} {k : Number}
    (hm : v.number? = some m) (hk : w.number? = some k) (h : combine onWhole onReal v w = .ok t) :
    (∃ a b, t = .whole (onWhole a b)) ∨
      ∃ x y, m.double = .ok x ∧ k.double = .ok y ∧ t = .real (onReal x y) := by
  rw [combine, number_of_number? hm, number_of_number? hk] at h
  simp only [ok_bind] at h
  split at h
  · cases h
    exact .inl ⟨_, _, rfl⟩
  · obtain ⟨x, hx, h⟩ := bind_eq_ok.mp h
    obtain ⟨y, hy, h⟩ := bind_eq_ok.mp h
    cases h
    exact .inr ⟨x, y, hx, hy, rfl⟩

/-- A sum of numbers that are not negative is defined. -/
theorem AtLeast.not_isUndefined_add (hv : v.AtLeast 0) (hw : w.AtLeast 0)
    (ht : add v w = .ok t) : ¬ t.IsUndefined := by
  obtain ⟨m, hm⟩ := Option.ne_none_iff_exists'.mp hv.number?_ne
  obtain ⟨k, hk⟩ := Option.ne_none_iff_exists'.mp hw.number?_ne
  rw [add_of_number? hm] at ht
  rcases combine_eq_ok hm hk ht with ⟨a, b, rfl⟩ | ⟨x, y, hx, hy, rfl⟩
  · exact id
  · rw [IsUndefined, ← Decimal.Reading.of_eq_undefined_iff_isNaN]
    exact Decimal.Reading.of_add_ne_undefined (hasSums_of_atLeast hm hv hx)
      (hasSums_of_atLeast hk hw hy)

end Sums

end Value

end SiliconBench
