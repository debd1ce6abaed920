import SiliconBench.Instructions.Mix
import SiliconBench.Proofs.Text.Blank
import SiliconBench.Proofs.Text.Lines

/-!
# Parse — the instructions of a program

The instructions of a program are lines of it, and no line has a break mark on it. So a line
feed after each of them brings back the lines as they were, without fusing with anything, and
what was an instruction still is one: a parsed program is in NORMAL FORM (`parse_normal`).

A line feed between two programs may stand on a line of its own, but such a line is no
instruction (`parse_lineFeed`).
-/

namespace SiliconBench.Instructions

open Text

/-- A line with something on it, other than a comment. -/
def Instructs (line : List Char) : Prop :=
  stripChars line ≠ [] ∧ ¬ ['#'] <+: stripChars line

instance : DecidablePred Instructs := fun line =>
  inferInstanceAs (Decidable (stripChars line ≠ [] ∧ ¬ ['#'] <+: stripChars line))

theorem isInstruction_eq (line : List Char) : isInstruction line = decide (Instructs line) := by
  rw [Bool.eq_iff_iff, decide_eq_true_iff, Instructs, isInstruction]
  cases stripChars line with
  | nil => simp
  | cons c rest => simp [commentMark, List.cons_prefix_cons, eq_comm (a := '#')]

theorem not_instructs_nil : ¬ Instructs [] := fun h => h.1 rfl

theorem parse_eq (t : List Char) :
    parse t = (lines t).filter fun line => decide (Instructs line) := by
  rw [parse]
  exact List.filter_congr fun line _ => isInstruction_eq line

theorem unbroken_of_mem_parse {t line : List Char} (h : line ∈ parse t) : Unbroken line :=
  (madeOf_lines t).unbroken line (List.mem_of_mem_filter h)

theorem instructs_of_mem_parse {t line : List Char} (h : line ∈ parse t) : Instructs line := by
  rw [parse_eq] at h
  exact of_decide_eq_true (List.mem_filter.mp h).2

/-! ## Programs one after the other -/

/-- **Programs are parsed one by one**, a line feed between them, whatever the first ends in. -/
theorem parse_lineFeed (a b : List Char) : parse (a ++ '\n' :: b) = parse a ++ parse b := by
  simp only [parse_eq]
  rcases (madeOf_lines a).lines_lineFeed b with h | h
  · rw [h, List.filter_append]
  · rw [h, List.filter_append, List.filter_cons_of_neg (by simp [not_instructs_nil])]

example : parse (['a', '\r'] ++ '\n' :: [' ', '\u2028', '#', '\n', 'b', '#']) =
    [['a'], ['b', '#']] := by decide

theorem parse_line {line : List Char} (hline : Unbroken line) (h : Instructs line) :
    parse line = [line] := by
  have hsome : line ≠ [] := by
    rintro rfl
    exact not_instructs_nil h
  rw [parse_eq, lines_last hsome hline]
  exact List.filter_cons_of_pos (decide_eq_true h)

theorem parse_intercalate {ls : List (List Char)}
    (hls : ∀ line ∈ ls, Unbroken line ∧ Instructs line) : parse (['\n'].intercalate ls) = ls := by
  induction ls with
  | nil => rfl
  | cons line rest ih =>
    obtain ⟨⟨hline, hinstructs⟩, hrest⟩ := List.forall_mem_cons.mp hls
    have hfirst := parse_line hline hinstructs
    cases rest with
    | nil => simpa using hfirst
    | cons next rest =>
      rw [List.intercalate_cons_cons, List.append_assoc, List.singleton_append, parse_lineFeed,
        hfirst, ih hrest, List.singleton_append]

/-- **A parsed program is in normal form**: its lines, joined and parsed again, are the same
lines; no break mark is on any of them; and they are, in order and as they stand, those lines
of the text on which there is something other than a comment once the blanks at their ends
are taken away. -/
theorem parse_normal (t : List Char) :
    parse (['\n'].intercalate (parse t)) = parse t ∧
      (∀ line ∈ parse t, ∀ c ∈ line, c ∉ breakMarks) ∧
      (∀ line middle, Stripped line middle ↔ middle = stripChars line) ∧
      ∃ ls, (∀ ls', MadeOf t ls' ↔ ls' = ls) ∧
        parse t =
          ls.filter fun line => decide (stripChars line ≠ [] ∧ ¬ ['#'] <+: stripChars line) := by
  have hlines (line : List Char) (h : line ∈ parse t) : Unbroken line ∧ Instructs line :=
    ⟨unbroken_of_mem_parse h, instructs_of_mem_parse h⟩
  refine ⟨parse_intercalate hlines, fun line h => (hlines line h).1, ?_, lines t, ?_, ?_⟩
  · exact fun line middle => stripped_iff
  · exact fun ls' => madeOf_iff
  · exact parse_eq t

end SiliconBench.Instructions
