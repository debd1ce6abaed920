import SiliconBench.Command.Script
import SiliconBench.Proofs.Setting.Arithmetic
import SiliconBench.Proofs.Setting.Distinct

/-!
# Script — what a script comes to, whatever was written before

A script is SOUND for a property of answers: run from any transcript it answers with
the property, or is refused or faults with arithmetic, or runs into a trouble that is no
fault. Soundness goes along a script step by step, and the transcript has no part in it.

A script that writes nothing is QUIET. It leaves the transcript as it was and comes to one
end from all of them, so it can be spoken of as if it were a plain computation.

A script that does nothing but log comes to one end too, and to the same WARNINGS from every
transcript, for these are logged whether the log is verbose or not. What it warns of adds up
along its steps as far as it gets (`Warns`).
-/

namespace SiliconBench.Command

/-- What is said of the way a script ends. -/
def Script.EndsWith {β : Type} (Q : β → Prop) : Except Trouble β → Prop
  | .ok x => Q x
  | .error (.fault f) => f.IsChecked
  | .error _ => True

/-- From every transcript the script ends with the property. -/
structure Script.Sound {β : Type} (Q : β → Prop) (s : Script β) : Prop where
  ends : ∀ t, Script.EndsWith Q (s.run.run t).1

namespace Script.Sound

variable {β γ : Type} {Q : β → Prop} {R : γ → Prop}

theorem pure {x : β} (h : Q x) : Sound Q (Pure.pure x) where
  ends _ := h

theorem bind {s : Script β} {f : β → Script γ} (hs : Sound Q s)
    (hf : ∀ x, Q x → Sound R (f x)) : Sound R (s >>= f) := by
  constructor
  intro t
  have hstart := hs.ends t
  rw [ExceptT.run_bind, StateT.run_bind]
  rcases hend : s.run.run t with ⟨trouble | x, t'⟩
  · -- a trouble ends the script, whatever its answers would have led to
    rw [hend] at hstart
    cases trouble <;> exact hstart
  · rw [hend] at hstart
    exact (hf x hstart).ends t'

theorem ite {c : Prop} [Decidable c] {s s' : Script β} (hs : Sound Q s) (hs' : Sound Q s') :
    Sound Q (if c then s else s') := by
  split
  · exact hs
  · exact hs'

/-- What is computed has the faults and the answers of the computation. -/
theorem lift {x : Result Value β} (hf : Faults Fault.IsChecked x) (ha : Answers Q x) :
    Sound Q (Script.lift x) := by
  constructor
  intro t
  cases x with
  | ok y => exact ha y rfl
  | error f => exact hf f rfl

/-- A computation whose answer does not matter. -/
theorem compute {x : Result Value β} (hf : Faults Fault.IsChecked x) :
    Sound (fun _ => True) (Script.lift x) :=
  .lift hf fun _ _ => trivial

/-- A trouble that is no fault may be run into at any time. -/
theorem throw {trouble : Trouble} (h : ∀ f, trouble ≠ .fault f) :
    Sound Q (MonadExcept.throw trouble) := by
  constructor
  intro t
  cases trouble with
  | fault f => exact absurd rfl (h f)
  | noFile | directory | noJson | notSystem | unknownProgram | unknownKernel => trivial

theorem write (line : String) : Sound (fun _ => True) (Script.write line) where
  ends _ := trivial

theorem log (severity : Severity) (part message : String) :
    Sound (fun _ => True) (Script.log severity part message) := by
  refine .bind (Q := fun _ => True) ⟨fun _ => trivial⟩ fun t _ => ?_
  exact .ite (.write _) (.pure trivial)

theorem forM {δ : Type} {f : δ → Script PUnit} (hf : ∀ x, Sound (fun _ => True) (f x))
    (xs : List δ) : Sound (fun _ => True) (xs.forM f) := by
  induction xs with
  | nil => exact .pure trivial
  | cons x xs ih => exact .bind (hf x) fun _ _ => ih

theorem read (files : Files) (name shown : String) :
    Sound (fun _ => True) (Script.read files name shown) := by
  rw [Script.read]
  split
  · exact .pure trivial
  · refine .throw fun f => ?_
    split <;> exact Trouble.noConfusion

theorem readJson (files : Files) (name : String) :
    Sound (fun _ => True) (Script.readJson files name) := by
  refine .bind (.read files name name) fun text _ => ?_
  split
  · exact .pure trivial
  · exact .throw fun f => Trouble.noConfusion

end Script.Sound

/-! ## Scripts that write nothing -/

/-- What a script comes to that writes nothing, whatever was written before. -/
structure Script.ComesTo {β : Type} (s : Script β) (x : Except Trouble β) : Prop where
  run : ∀ t, s.run.run t = (x, t)

/-- A script that writes nothing, and whose answer has a property if there is one. -/
def Script.Quiet {β : Type} (Q : β → Prop) (s : Script β) : Prop :=
  ∃ x, ComesTo s x ∧ Answers Q x

namespace Script.ComesTo

variable {β γ : Type} {s : Script β} {f : β → Script γ}

theorem lift (x : Result Value β) : ComesTo (Script.lift x) (x.mapError .fault) where
  run _ := by cases x <;> rfl

/-- What follows an answer goes on from the same transcript. -/
theorem bind {x : β} {y : Except Trouble γ} (hs : ComesTo s (.ok x)) (hf : ComesTo (f x) y) :
    ComesTo (s >>= f) y where
  run t := by
    rw [ExceptT.run_bind, StateT.run_bind, hs.run t]
    exact hf.run t

/-- Nothing follows a trouble. -/
theorem bind_trouble {trouble : Trouble} (hs : ComesTo s (.error trouble)) :
    ComesTo (s >>= f) (.error trouble) where
  run t := by
    rw [ExceptT.run_bind, StateT.run_bind, hs.run t]
    rfl

/-- A script that was seen to answer comes to that answer. -/
theorem exists_ok {x : Except Trouble β} (hs : ComesTo s x)
    (h : (s.run.run ⟨false, []⟩).1.toBool = true) : ∃ y, x = .ok y := by
  rw [hs.run] at h
  exact exists_ok_of_toBool h

end Script.ComesTo

namespace Script.Quiet

variable {β γ : Type} {Q : β → Prop} {R : γ → Prop}

theorem pure {x : β} (h : Q x) : Quiet Q (Pure.pure x) :=
  ⟨.ok x, ⟨fun _ => rfl⟩, .pure h⟩

theorem throw (trouble : Trouble) : Quiet Q (MonadExcept.throw trouble) :=
  ⟨.error trouble, ⟨fun _ => rfl⟩, fun _ hy => by cases hy⟩

theorem lift {x : Result Value β} (h : Answers Q x) : Quiet Q (Script.lift x) := by
  refine ⟨_, .lift x, fun y hy => ?_⟩
  cases x with
  | ok z =>
    cases hy
    exact h _ rfl
  | error fault => cases hy

theorem bind {s : Script β} {f : β → Script γ} (hs : Quiet Q s) (hf : ∀ x, Q x → Quiet R (f x)) :
    Quiet R (s >>= f) := by
  obtain ⟨x, hx, hQ⟩ := hs
  cases x with
  | error trouble => exact ⟨_, hx.bind_trouble, fun _ hy => by cases hy⟩
  | ok x =>
    obtain ⟨y, hy, hR⟩ := hf x (hQ x rfl)
    exact ⟨y, hx.bind hy, hR⟩

theorem read (files : Files) (name shown : String) :
    Quiet (fun _ => True) (Script.read files name shown) := by
  rw [Script.read]
  split
  · exact .pure trivial
  · exact .throw _

/-- The keys of every table in a settings file are distinct. -/
theorem readJson (files : Files) (name : String) :
    Quiet Value.Distinct (Script.readJson files name) := by
  refine .bind (.read files name name) fun text _ => ?_
  split
  case h_1 v hread => exact .pure (Value.ofJson_distinct hread)
  case h_2 => exact .throw _

end Script.Quiet

/-! ## Warnings -/

/-- Whether a line begins as warnings do. -/
def isWarning (line : String) : Bool :=
  "WARNING ".toList.isPrefixOf line.toList

/-- What a script comes to, and which warnings it writes on the way, the last first,
whatever was written before. -/
structure Script.Warns {β : Type} (warnings : List String) (s : Script β)
    (x : Except Trouble β) : Prop where
  run : ∀ t, ∃ written, s.run.run t = (x, { t with lines := written ++ t.lines }) ∧
    written.filter isWarning = warnings

theorem isWarning_logLine (severity : Severity) (part message : String) :
    isWarning (Script.logLine severity part message) = decide (severity = .warning) := by
  cases severity <;> simp [isWarning, Script.logLine, Severity.word] <;> rfl

namespace Script.Warns

variable {β γ : Type} {s : Script β} {f : β → Script γ} {earlier later : List String}

/-- A script that writes nothing does not warn either. -/
theorem quiet {x : Except Trouble β} (hs : ComesTo s x) : Warns [] s x where
  run t := ⟨[], hs.run t, rfl⟩

/-- How a script ends is told by what it comes to, whatever it warns of. -/
theorem sound {x : Result Value β} (hs : Warns later s (x.mapError .fault))
    (hx : Faults Fault.IsChecked x) : Sound (fun _ => True) s where
  ends t := by
    obtain ⟨_, hrun, -⟩ := hs.run t
    rw [hrun]
    cases x with
    | ok y => trivial
    | error fault => exact hx fault rfl

theorem pure (x : β) : Warns [] (Pure.pure x) (.ok x) :=
  quiet ⟨fun _ => rfl⟩

/-- What follows an answer writes above what there is. -/
theorem bind {x : β} {y : Except Trouble γ} (hs : Warns earlier s (.ok x))
    (hf : Warns later (f x) y) : Warns (later ++ earlier) (s >>= f) y where
  run t := by
    obtain ⟨below, hbelow, rfl⟩ := hs.run t
    obtain ⟨above, habove, rfl⟩ := hf.run { t with lines := below ++ t.lines }
    refine ⟨above ++ below, ?_, List.filter_append ..⟩
    rw [ExceptT.run_bind, StateT.run_bind, hbelow, List.append_assoc]
    exact habove

/-- What follows an answer without a warning gives all the warnings there are. -/
theorem after {x : β} {y : Except Trouble γ} (hs : Warns [] s (.ok x))
    (hf : Warns later (f x) y) : Warns later (s >>= f) y := by
  have hboth := bind hs hf
  rwa [List.append_nil] at hboth

/-- Nothing follows a trouble. -/
theorem bind_trouble {trouble : Trouble} (hs : Warns earlier s (.error trouble)) :
    Warns earlier (s >>= f) (.error trouble) where
  run t := by
    obtain ⟨written, hwritten, hearlier⟩ := hs.run t
    refine ⟨written, ?_, hearlier⟩
    rw [ExceptT.run_bind, StateT.run_bind, hwritten]
    rfl

/-- Scripts that come to what computations come to, one after the other, come to what
these come to one after the other. -/
theorem follow {x : Result Value β} {g : β → Result Value γ}
    (hs : Warns [] s (x.mapError .fault))
    (hf : ∀ y, x = .ok y → Warns [] (f y) ((g y).mapError .fault)) :
    Warns [] (s >>= f) ((x >>= g).mapError .fault) := by
  cases x with
  | ok y => exact after hs (hf y rfl)
  | error fault => exact bind_trouble hs

theorem compute {x : Result Value β} {g : β → Result Value γ}
    (hf : ∀ y, x = .ok y → Warns [] (f y) ((g y).mapError .fault)) :
    Warns [] (Script.lift x >>= f) ((x >>= g).mapError .fault) :=
  follow (quiet (.lift x)) hf

/-- A script that looks at something computed and answers it in the end. -/
theorem look {x : Result Value β} {f : β → Script β}
    (hf : ∀ y, x = .ok y → Warns [] (f y) (.ok y)) :
    Warns [] (Script.lift x >>= f) (x.mapError .fault) := by
  have hseen := compute (g := Pure.pure) hf
  rwa [bind_pure] at hseen

theorem ite {c : Prop} [Decidable c] {x : Except Trouble β} {s' : Script β}
    (hs : Warns later s x) (hs' : Warns later s' x) : Warns later (if c then s else s') x := by
  split
  · exact hs
  · exact hs'

theorem log (severity : Severity) (part message : String) :
    Warns (if severity = .warning then [logLine severity part message] else [])
      (Script.log severity part message) (.ok ()) where
  run t := by
    have hlog : (Script.log severity part message).run.run t = StateT.run (ExceptT.run
        (if t.verbose || severity = .warning then write (logLine severity part message)
          else Pure.pure ())) t := rfl
    rw [hlog]
    split
    case isTrue =>
      exact ⟨[logLine severity part message], rfl, by
        simp [List.filter_cons, isWarning_logLine]⟩
    case isFalse hhidden =>
      have hwarning : severity ≠ .warning := by simp_all
      exact ⟨[], rfl, by simp [hwarning]⟩

/-- Lines of less weight are no warnings. -/
theorem note {severity : Severity} {part message : String} {x : Except Trouble β}
    (hnote : severity ≠ .warning) (hs : Warns later s x) :
    Warns later (Script.log severity part message >>= fun _ => s) x := by
  have hlog := log severity part message
  rw [if_neg hnote] at hlog
  exact after hlog hs

end Script.Warns

end SiliconBench.Command
