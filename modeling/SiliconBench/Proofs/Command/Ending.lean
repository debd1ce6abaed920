import SiliconBench.Proofs.Command.Graphics
import SiliconBench.Proofs.Command.Processor

/-!
# Ending — how the commands end

A command that is understood ends in one of two ways. Either it FINISHES, with a code of
zero, or with a code of one, nothing shown and its trouble explained; or a fault of
arithmetic ESCAPES it (`commands_end`). Refusals never escape: they are met while the
script runs, where they are explained, and nothing that is shown requires anything. A bad
value is explained too, but only there; one that is met while a result is being shown
escapes like any other fault.
-/

namespace SiliconBench.Command

/-- A command finished as it should: it has shown something, or it has explained on a line
of its own why it shows nothing. -/
def Finish.Explained (f : Finish) : Prop :=
  f.exit = 0 ∨
    f.exit = 1 ∧ f.out = "" ∧
      ∃ before message after, f.err = ended (before ++ ("Error: " ++ message) :: after)

/-- How a command ends that runs a script and shows its answer: it finishes, or a fault of
arithmetic escapes, and a bad value only where there was an answer to be shown. -/
def Ends {β : Type} (verbose : Bool) (script : Script β) (out : β → Result Value String)
    (x : Except (Fault Value) Ending) : Prop :=
  (∃ f, x = .ok (.finished f) ∧ f.Explained) ∨
    ∃ fault, x = .error fault ∧ fault.IsArithmetic ∧
      ∀ cause, fault = .badValue cause →
        ∃ y t, script.run.run ⟨verbose, []⟩ = (.ok y, t) ∧ out y = .error fault

theorem explanation_of_ok {trouble : Trouble} {lines : List String}
    (h : trouble.explanation = .ok lines) :
    ∃ message after, lines = ("Error: " ++ message) :: after := by
  -- `start` begins a line that goes on with what the trouble is about.
  have hline {start about : String} {after : List String} (message : String)
      (hstart : start = "Error: " ++ message) :
      ∃ message' after', (start ++ about) :: after = ("Error: " ++ message') :: after' :=
    ⟨message ++ about, after, by rw [hstart, String.append_assoc]⟩
  cases trouble with
  | fault f =>
    cases f with
    | refused cause | badValue cause =>
      cases h
      exact ⟨_, _, rfl⟩
    | finished | noRow | wrongKind | notText | overflow | zeroDivision | unknownArgument
      | missingArgument => cases h
  | noFile name =>
    cases h
    exact hline "[Errno 2] No such file or directory: " rfl
  | directory name =>
    cases h
    exact hline "[Errno 21] Is a directory: " rfl
  | noJson text defect =>
    cases h
    exact ⟨_, _, rfl⟩
  | notSystem path kind =>
    cases h
    exact hline (path ++ ": expected a JSON object describing a system, got ")
      (by simp only [String.append_assoc])
  | unknownProgram key =>
    cases h
    exact hline "Unknown program: " rfl
  | unknownKernel key =>
    cases h
    exact hline "Unknown workload: " rfl

/-- A trouble that nothing explains is a fault, and neither a refusal nor a bad value. -/
theorem explanation_of_error {trouble : Trouble} {fault : Fault Value}
    (h : trouble.explanation = .error fault) :
    trouble = .fault fault ∧ ¬ fault.IsRefusal ∧ ∀ cause, fault ≠ .badValue cause := by
  cases trouble with
  | fault f =>
    cases f with
    | refused cause | badValue cause => cases h
    | finished | noRow | wrongKind | notText | overflow | zeroDivision | unknownArgument
      | missingArgument =>
      cases h
      refine ⟨rfl, ?_, fun cause hcause => ?_⟩
      · rintro ⟨cause, hcause⟩
        cases hcause
      · cases hcause
  | noFile | directory | noJson | notSystem | unknownProgram | unknownKernel => cases h

theorem ofScript_ends {β : Type} {verbose : Bool} {script : Script β}
    {out : β → Result Value String} {Q : β → Prop} (hscript : Script.Sound Q script)
    (hout : ∀ x, Q x → Faults Fault.IsArithmetic (out x)) :
    Ends verbose script out (Ending.finished <$> Finish.ofScript verbose script out) := by
  have hend := hscript.ends ⟨verbose, []⟩
  rw [Finish.ofScript]
  rcases hrun : script.run.run ⟨verbose, []⟩ with ⟨trouble | x, t⟩
  · rw [hrun] at hend
    dsimp only
    cases hlines : trouble.explanation with
    | ok lines =>
      obtain ⟨message, after, rfl⟩ := explanation_of_ok hlines
      exact .inl ⟨_, rfl, .inr ⟨rfl, rfl, _, _, _, rfl⟩⟩
    | error fault =>
      obtain ⟨rfl, hrefusal, hbad⟩ := explanation_of_error hlines
      -- refusals are explained, so a checked fault that is not was met in arithmetic
      have harithmetic := (show fault.IsChecked from hend).resolve_left hrefusal
      exact .inr ⟨fault, rfl, harithmetic, fun cause hcause => absurd hcause (hbad cause)⟩
  · rw [hrun] at hend
    dsimp only
    cases hshown : out x with
    | ok text => exact .inl ⟨_, rfl, .inl rfl⟩
    | error fault =>
      exact .inr ⟨fault, rfl, hout x hend fault hshown, fun _ _ => ⟨x, t, hrun, hshown⟩⟩

/-- A command that only shows something ends well. -/
theorem shown_ends {β : Type} {verbose : Bool} {script : Script β} {out : β → Result Value String}
    (lines : List String) : Ends verbose script out (.ok (.finished (.shown lines))) :=
  .inl ⟨_, rfl, .inl rfl⟩

/-- Every preset can be put in words. -/
theorem Processor.presetList_ok : ∃ lines, presetList = .ok lines :=
  exists_ok_of_toBool (by decide +kernel)

/-- Whatever the arguments and the files are: a command rejects its arguments, or helps,
or ends by finishing or with a fault of arithmetic. Files are read by `Value.ofJson` and
shown by `Value.display`, so nothing is said of a runtime that limits how deep they are
nested or how long a whole number may be that is written. -/
theorem commands_end (entropy : Nat) (args : List String) (files : Files) :
    (match parse Processor.options args with
      | .rejected => Processor.command entropy args files = .ok .rejected
      | .help => Processor.command entropy args files = .ok .help
      | .accepted g =>
        Ends (Given.has g "verbose") (Processor.run g files) (Processor.output g entropy)
          (Processor.command entropy args files)) ∧
      match parse Graphics.options args with
      | .rejected => Graphics.command entropy args files = .ok .rejected
      | .help => Graphics.command entropy args files = .ok .help
      | .accepted g =>
        Ends (Given.has g "verbose") (Graphics.run g entropy files) (Graphics.output g)
          (Graphics.command entropy args files) := by
  constructor
  · rw [Processor.command]
    cases parse Processor.options args with
    | rejected | help => rfl
    | accepted g =>
      obtain ⟨presets, hpresets⟩ := Processor.presetList_ok
      dsimp only
      split
      · exact shown_ends _
      · split
        · rw [hpresets]
          exact shown_ends _
        · exact ofScript_ends (Processor.run_sound g files) fun s _ =>
            Processor.output_faults g entropy s
  · rw [Graphics.command]
    cases parse Graphics.options args with
    | rejected | help => rfl
    | accepted g =>
      dsimp only
      split
      · exact shown_ends _
      · exact ofScript_ends (Graphics.run_sound g entropy files) fun _ =>
          Graphics.output_faults g

theorem eq_wrongKind_of_match {β : Type} {x : Except (Fault Value) β}
    (h : (match x with | .error .wrongKind => true | _ => false) = true) :
    x = .error .wrongKind := by
  split at h
  · rfl
  · cases h

/-- A text where a figure belongs is accepted as JSON, and no command explains it. -/
theorem text_for_figure_escapes :
    Processor.command 0 ["--config-2d", "a.json"]
        [("a.json", "\x7b\"main_memory\": \x7b\"latency_cycles\": \"fast\"\x7d\x7d")] =
        .error .wrongKind ∧
      Graphics.command 0 ["--config", "g.json"] [("g.json", "\x7b\"clock_ghz\": \"fast\"\x7d")] =
        .error .wrongKind :=
  ⟨eq_wrongKind_of_match (by decide +kernel), eq_wrongKind_of_match (by decide +kernel)⟩

end SiliconBench.Command
