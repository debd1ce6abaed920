import SiliconBench.Fault

/-!
# Answer — actions that may fault, seen from their answers

An action of the model has an answer or a fault. A statement about the answer of
a long sequence of actions is proved step by step, from the FIRST action on, and
faults need no case of their own: an action that faults has no answer.
-/

namespace SiliconBench

/-- A sequence of actions has an answer exactly when each of them has. -/
theorem bind_eq_ok {ε β γ : Type} {x : Except ε β} {f : β → Except ε γ} {z : γ} :
    (x >>= f) = .ok z ↔ ∃ y, x = .ok y ∧ f y = .ok z := by
  cases x <;> simp

/-- That there is an answer: this form can be decided. -/
theorem exists_ok_of_toBool {ε β : Type} {x : Except ε β} (h : x.toBool = true) :
    ∃ y, x = .ok y := by
  cases x with
  | error e => cases h
  | ok y => exact ⟨y, rfl⟩

/-- A check that passes has nothing to answer. -/
theorem eq_ok_of_toBool {ε : Type} {x : Except ε Unit} (h : x.toBool = true) : x = .ok () :=
  (exists_ok_of_toBool h).choose_spec

/-- An answer for each item is the answer for that item. -/
theorem getElem?_of_each {α β γ : Type} {f : β → Result α γ} {xs : List β} {ys : List γ}
    (h : each f xs = .ok ys) {i : Nat} {x : β} (hx : xs[i]? = some x) :
    ∃ y, f x = .ok y ∧ ys[i]? = some y := by
  induction xs generalizing ys i with
  | nil => simp at hx
  | cons z xs ih =>
    rw [each_cons] at h
    obtain ⟨y, hy, h⟩ := bind_eq_ok.mp h
    obtain ⟨rest, hrest, h⟩ := bind_eq_ok.mp h
    cases h
    cases i with
    | zero =>
      cases hx
      exact ⟨y, hy, rfl⟩
    | succ i => exact ih hrest hx

/-- Without a fault `eachPair` is `zipWith`. -/
theorem eachPair_eq_zipWith {α β γ δ : Type} {f : β → γ → Result α δ} {g : β → γ → δ}
    (h : ∀ x y, f x y = .ok (g x y)) (xs : List β) (ys : List γ) :
    eachPair f xs ys = .ok (List.zipWith g xs ys) := by
  induction xs generalizing ys with
  | nil => rfl
  | cons x xs ih =>
    cases ys with
    | nil => rfl
    | cons y ys => simp [eachPair, h, ih]

/-- What `eachPair` answers is as long as the shorter of what it was given. -/
theorem length_of_eachPair {α β γ δ : Type} {f : β → γ → Result α δ} {xs : List β} {ys : List γ}
    {zs : List δ} (h : eachPair f xs ys = .ok zs) : zs.length = min xs.length ys.length := by
  induction xs generalizing ys zs with
  | nil =>
    cases h
    rw [List.length_nil, List.length_nil, Nat.zero_min]
  | cons x xs ih =>
    cases ys with
    | nil =>
      cases h
      rw [List.length_nil, List.length_nil, Nat.min_zero]
    | cons y ys =>
      obtain ⟨z, _, h⟩ := bind_eq_ok.mp h
      obtain ⟨rest, hrest, h⟩ := bind_eq_ok.mp h
      cases h
      rw [List.length_cons, ih hrest, List.length_cons, List.length_cons, Nat.add_min_add_right]

/-- Whatever an action answers has a property. -/
def Answers {ε β : Type} (P : β → Prop) (x : Except ε β) : Prop :=
  ∀ y, x = .ok y → P y

namespace Answers

variable {ε β γ : Type} {P : γ → Prop}

theorem pure {z : γ} (h : P z) : Answers P (Pure.pure z : Except ε γ) := by
  intro _ hz
  cases hz
  exact h

theorem bind {x : Except ε β} {f : β → Except ε γ} (h : ∀ y, x = .ok y → Answers P (f y)) :
    Answers P (x >>= f) := by
  intro z hz
  obtain ⟨y, hx, hf⟩ := bind_eq_ok.mp hz
  exact h y hx z hf

theorem ite {c : Prop} [Decidable c] {x y : Except ε γ} (hx : Answers P x) (hy : Answers P y) :
    Answers P (if c then x else y) := by
  split
  · exact hx
  · exact hy

/-- There is no answer after a refusal. -/
theorem refuse_bind {α : Type} {cause : Refusal α} {f : β → Result α γ} :
    Answers P ((refuse cause : Result α β) >>= f) := by
  intro z hz
  cases hz

end Answers

/-! ## Faults -/

/-- Whatever an action faults with has a property. -/
def Faults {ε β : Type} (P : ε → Prop) (x : Except ε β) : Prop :=
  ∀ e, x = .error e → P e

namespace Faults

variable {ε β γ : Type} {P : ε → Prop}

theorem ok (y : β) : Faults P (.ok y : Except ε β) := by
  intro _ he
  cases he

/-- The first fault of a sequence of actions is a fault of one of them. -/
theorem bind {x : Except ε β} {f : β → Except ε γ} (hx : Faults P x)
    (hf : ∀ y, x = .ok y → Faults P (f y)) : Faults P (x >>= f) := by
  cases x with
  | error e =>
    intro _ he
    cases he
    exact hx e rfl
  | ok y => exact hf y rfl

theorem ite {c : Prop} [Decidable c] {x y : Except ε γ} (hx : Faults P x) (hy : Faults P y) :
    Faults P (if c then x else y) := by
  split
  · exact hx
  · exact hy

end Faults

/-- A fault that is a refusal: for settings or requests that have no meaning. -/
def Fault.IsRefusal {α : Type} (fault : Fault α) : Prop :=
  ∃ cause, fault = .refused cause

end SiliconBench
