import SiliconBench.Proofs.Answer

/-!
# Matched — two actions seen side by side

A statement about two runs is proved along both of them at once: actions that
end alike may be followed by actions that end alike. `Matched` is about faults
too, so neither side can go on where the other cannot. `Agree` is about answers
only, for actions one of which may fault where the other has an answer.
-/

namespace SiliconBench

/-- Two actions end alike, with related faults or with related answers. -/
def Matched {ε ζ β γ : Type} (E : ε → ζ → Prop) (R : β → γ → Prop) :
    Except ε β → Except ζ γ → Prop
  | .error e, .error e' => E e e'
  | .ok x, .ok y => R x y
  | _, _ => False

namespace Matched

variable {ε ζ β γ δ η : Type} {E : ε → ζ → Prop} {R : β → γ → Prop} {S : δ → η → Prop}

theorem pure {x : β} {y : γ} (h : R x y) :
    Matched E R (Pure.pure x : Except ε β) (Pure.pure y : Except ζ γ) := h

theorem bind {x : Except ε β} {y : Except ζ γ} {f : β → Except ε δ} {g : γ → Except ζ η}
    (hxy : Matched E R x y) (hfg : ∀ a b, R a b → Matched E S (f a) (g b)) :
    Matched E S (x >>= f) (y >>= g) := by
  cases x with
  | error e =>
    cases y with
    | error e' => exact hxy
    | ok b => exact hxy.elim
  | ok a =>
    cases y with
    | error e' => exact hxy.elim
    | ok b => exact hfg a b hxy

theorem of_eq {x y : Except ε β} (h : x = y) : Matched Eq Eq x y := by
  subst h
  cases x <;> rfl

/-- The same action on both sides. -/
theorem bind_same {R : β → η → Prop} {x : Except ε δ} {f : δ → Except ε β} {g : δ → Except ε η}
    (h : ∀ a, Matched Eq R (f a) (g a)) : Matched Eq R (x >>= f) (x >>= g) := by
  cases x with
  | error e => rfl
  | ok a => exact h a

theorem mono {F : ε → ζ → Prop} {S : β → γ → Prop} {x : Except ε β} {y : Except ζ γ}
    (h : Matched E R x y) (hE : ∀ e e', E e e' → F e e') (hR : ∀ a b, R a b → S a b) :
    Matched F S x y := by
  cases x <;> cases y <;> first | exact hE _ _ h | exact hR _ _ h | exact h.elim

/-- An answer on one side is an answer on the other. -/
theorem exists_of_ok {x : Except ε β} {y : Except ζ γ} (h : Matched E R x y) {a : β}
    (hx : x = .ok a) : ∃ b, y = .ok b ∧ R a b := by
  subst hx
  cases y with
  | error e' => exact h.elim
  | ok b => exact ⟨b, rfl, h⟩

theorem exists_of_ok_right {x : Except ε β} {y : Except ζ γ} (h : Matched E R x y) {b : γ}
    (hy : y = .ok b) : ∃ a, x = .ok a ∧ R a b := by
  subst hy
  cases x with
  | error e => exact h.elim
  | ok a => exact ⟨a, rfl, h⟩

/-- A fault on one side is a fault on the other. -/
theorem exists_of_error {x : Except ε β} {y : Except ζ γ} (h : Matched E R x y) {e : ε}
    (hx : x = .error e) : ∃ e', y = .error e' ∧ E e e' := by
  subst hx
  cases y with
  | error e' => exact ⟨e', rfl, h⟩
  | ok b => exact h.elim

end Matched

/-- Whenever both actions have an answer, the answers are related. -/
def Agree {ε ζ β γ : Type} (R : β → γ → Prop) (x : Except ε β) (y : Except ζ γ) : Prop :=
  ∀ a b, x = .ok a → y = .ok b → R a b

namespace Agree

variable {ε ζ β γ δ η : Type} {R : β → γ → Prop}

theorem pure {x : β} {y : γ} (h : R x y) :
    Agree R (Pure.pure x : Except ε β) (Pure.pure y : Except ζ γ) := by
  intro a b ha hb
  cases ha
  cases hb
  exact h

theorem bind {x : Except ε δ} {y : Except ζ η} {f : δ → Except ε β} {g : η → Except ζ γ}
    (h : ∀ a b, x = .ok a → y = .ok b → Agree R (f a) (g b)) : Agree R (x >>= f) (y >>= g) := by
  intro a b ha hb
  obtain ⟨c, hx, hf⟩ := bind_eq_ok.mp ha
  obtain ⟨d, hy, hg⟩ := bind_eq_ok.mp hb
  exact h c d hx hy a b hf hg

/-- The same action on both sides. -/
theorem bind_same {x y : Except ε δ} {f : δ → Except ε β} {g : δ → Except ε γ} (hxy : x = y)
    (h : ∀ a, y = .ok a → Agree R (f a) (g a)) : Agree R (x >>= f) (y >>= g) := by
  refine bind fun a b ha hb => ?_
  rw [hxy, hb] at ha
  cases ha
  exact h _ hb

end Agree

end SiliconBench
