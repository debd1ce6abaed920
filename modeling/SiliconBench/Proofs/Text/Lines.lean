import SiliconBench.Text.Lines
import Mathlib.Data.List.Basic

/-!
# Lines — a text is made of lines

What the lines of a text are is said without reading it from the left: a text is made of
lines WITHOUT break marks, each of which is ended, and only the last one may lack an end, if
there is anything on it (`MadeOf`). There is one way to see a text so, and it is the one that
`lines` finds (`madeOf_iff`). A line feed put between two texts may end the last line of the
first, fuse with the carriage return that ended it, or stand on a line of its own; in any case
no line of either text is changed (`MadeOf.lines_lineFeed`).
-/

namespace SiliconBench.Text

/-- The characters that break a line. -/
def breakMarks : List Char :=
  ['\n', '\x0b', '\x0c', '\r', '\x1c', '\x1d', '\x1e', '\x85', '\u2028', '\u2029']

theorem isBreak_iff {c : Char} : isBreak c = true ↔ c ∈ breakMarks := by
  simp only [breakMarks, List.mem_cons, List.not_mem_nil, or_false, ← Char.toNat_inj, isBreak,
    Bool.or_eq_true, decide_eq_true_eq, beq_iff_eq, Char.reduceToNat]
  omega

theorem isBreak_eq_false {c : Char} : isBreak c = false ↔ c ∉ breakMarks := by
  rw [← isBreak_iff, Bool.not_eq_true]

/-- A line has no break marks on it. -/
def Unbroken (line : List Char) : Prop :=
  ∀ c ∈ line, c ∉ breakMarks

/-- What ends a line before the rest of a text: a break mark, with the line feed that may
follow a carriage return. -/
inductive Ends : List Char → List Char → Prop
  | fused {rest : List Char} : Ends ['\r', '\n'] rest
  | mark {c : Char} {rest : List Char} :
      c ∈ breakMarks → (c = '\r' → rest.head? ≠ some '\n') → Ends [c] rest

/-- A text and its lines. -/
inductive MadeOf : List Char → List (List Char) → Prop
  | nothing : MadeOf [] []
  | last {line : List Char} : line ≠ [] → Unbroken line → MadeOf line [line]
  | line {line mark rest : List Char} {ls : List (List Char)} :
      Unbroken line → Ends mark rest → MadeOf rest ls → MadeOf (line ++ mark ++ rest) (line :: ls)

/-! ## Reading from the left -/

theorem linesFrom_cons {c : Char} (hc : c ∉ breakMarks) (rest line : List Char)
    (done : List (List Char)) :
    linesFrom (c :: rest) line done = linesFrom rest (c :: line) done := by
  have hreturn : c ≠ '\r' := by
    rintro rfl
    exact hc (by decide)
  rw [linesFrom, if_neg (by rw [isBreak_eq_false.mpr hc]; decide)]
  rintro _ rfl
  exact absurd rfl hreturn

theorem linesFrom_unbroken {text : List Char} (h : Unbroken text) (rest line : List Char)
    (done : List (List Char)) :
    linesFrom (text ++ rest) line done = linesFrom rest (text.reverse ++ line) done := by
  induction text generalizing line with
  | nil => rfl
  | cons c text ih =>
    obtain ⟨hc, htext⟩ := List.forall_mem_cons.mp h
    rw [List.cons_append, linesFrom_cons hc, ih htext, List.reverse_cons, List.append_assoc]
    rfl

theorem Ends.linesFrom {mark rest : List Char} (h : Ends mark rest) (line : List Char)
    (done : List (List Char)) :
    linesFrom (mark ++ rest) line done = linesFrom rest [] (line.reverse :: done) := by
  cases h with
  | fused => rfl
  | @mark c _ hc hreturn =>
    rw [List.singleton_append, Text.linesFrom, if_pos (isBreak_iff.mpr hc)]
    rintro after rfl rfl
    exact hreturn rfl rfl

/-- The lines that are finished stay as they are. -/
theorem linesFrom_append (cs line : List Char) (done earlier : List (List Char)) :
    linesFrom cs line (done ++ earlier) = earlier.reverse ++ linesFrom cs line done := by
  fun_induction linesFrom cs line done with
  | case1 done => rw [linesFrom, List.reverse_append]
  | case2 c line done => rw [linesFrom, ← List.cons_append, List.reverse_append]
  | case3 rest line done ih => rw [linesFrom, ← List.cons_append, ih]
  | case4 c rest line done hfused hc ih =>
    rw [linesFrom, if_pos hc, ← List.cons_append, ih]
    exact hfused
  | case5 c rest line done hfused hc ih =>
    rw [linesFrom, if_neg hc, ih]
    exact hfused

theorem lines_line {line mark rest : List Char} (hline : Unbroken line) (hmark : Ends mark rest) :
    lines (line ++ mark ++ rest) = line :: lines rest := by
  rw [lines, List.append_assoc, linesFrom_unbroken hline, List.append_nil, hmark.linesFrom,
    List.reverse_reverse]
  exact linesFrom_append rest [] [] [line]

theorem lines_last {line : List Char} (hsome : line ≠ []) (hline : Unbroken line) :
    lines line = [line] := by
  obtain ⟨c, rest, hrest⟩ := List.exists_cons_of_ne_nil (List.reverse_ne_nil_iff.mpr hsome)
  have hread := linesFrom_unbroken hline [] [] []
  rw [List.append_nil, List.append_nil, hrest] at hread
  rw [lines, hread, linesFrom, ← hrest, List.reverse_reverse]
  rfl

/-! ## One way to see a text -/

theorem MadeOf.lines_eq {t : List Char} {ls : List (List Char)} (h : MadeOf t ls) :
    lines t = ls := by
  induction h with
  | nothing => rfl
  | last hsome hline => exact lines_last hsome hline
  | line hline hmark _ ih => rw [lines_line hline hmark, ih]

/-- Wherever the reading of a text stands: what it still finds is what the open line and
the rest of the text are made of. -/
theorem linesFrom_madeOf (cs line : List Char) (done : List (List Char))
    (hline : Unbroken line.reverse) :
    ∃ ls, linesFrom cs line done = done.reverse ++ ls ∧ MadeOf (line.reverse ++ cs) ls := by
  fun_induction linesFrom cs line done with
  | case1 done => exact ⟨[], (List.append_nil _).symm, .nothing⟩
  | case2 c line done =>
    have hsome : (c :: line).reverse ≠ [] := by simp
    refine ⟨[(c :: line).reverse], List.reverse_cons, ?_⟩
    rw [List.append_nil]
    exact .last hsome hline
  | case3 rest line done ih =>
    obtain ⟨ls, hls, hmade⟩ := ih (List.forall_mem_nil _)
    refine ⟨line.reverse :: ls, by simpa using hls, ?_⟩
    have hends : Ends ['\r', '\n'] rest := .fused
    simpa using MadeOf.line hline hends hmade
  | case4 c rest line done hfused hc ih =>
    obtain ⟨ls, hls, hmade⟩ := ih (List.forall_mem_nil _)
    refine ⟨line.reverse :: ls, by simpa using hls, ?_⟩
    have hends : Ends [c] rest := by
      refine .mark (isBreak_iff.mp hc) fun hreturn hfeed => ?_
      obtain ⟨after, rfl⟩ := List.head?_eq_some_iff.mp hfeed
      exact hfused after hreturn rfl
    simpa using MadeOf.line hline hends hmade
  | case5 c rest line done _ hc ih =>
    have hopen : Unbroken (c :: line).reverse := by
      rw [List.reverse_cons]
      exact List.forall_mem_append.mpr
        ⟨hline, List.forall_mem_singleton.mpr (mt isBreak_iff.mpr hc)⟩
    obtain ⟨ls, hls, hmade⟩ := ih hopen
    exact ⟨ls, hls, by simpa using hmade⟩

theorem madeOf_lines (t : List Char) : MadeOf t (lines t) := by
  obtain ⟨ls, hls, hmade⟩ := linesFrom_madeOf t [] [] (List.forall_mem_nil _)
  rw [lines, hls]
  exact hmade

/-- **A text is made of the lines that are found in it, and of no others.** -/
theorem madeOf_iff {t : List Char} {ls : List (List Char)} : MadeOf t ls ↔ ls = lines t := by
  constructor
  · exact fun h => h.lines_eq.symm
  · rintro rfl
    exact madeOf_lines t

theorem MadeOf.unbroken {t : List Char} {ls : List (List Char)} (h : MadeOf t ls) :
    ∀ line ∈ ls, Unbroken line := by
  induction h with
  | nothing => exact List.forall_mem_nil _
  | last _ hline => exact List.forall_mem_singleton.mpr hline
  | line hline _ _ ih => exact List.forall_mem_cons.mpr ⟨hline, ih⟩

/-! ## Two texts -/

theorem ends_lineFeed (rest : List Char) : Ends ['\n'] rest :=
  .mark (by decide) fun h => absurd h (by decide)

/-- A line feed after a text ends no line of it that was ended already, unless it fuses with
a carriage return at its end. -/
theorem Ends.lineFeed {mark rest : List Char} (h : Ends mark rest) (b : List Char) :
    Ends mark (rest ++ '\n' :: b) ∨ mark = ['\r'] ∧ rest = [] := by
  cases h with
  | fused => exact .inl .fused
  | @mark c _ hc hreturn =>
    by_cases hnone : rest = []
    · by_cases hc' : c = '\r'
      · exact .inr ⟨by rw [hc'], hnone⟩
      · exact .inl (.mark hc fun h => absurd h hc')
    · refine .inl (.mark hc fun h => ?_)
      rw [List.head?_append_of_ne_nil _ hnone]
      exact hreturn h

/-- **A line feed between two texts changes no line of either.** It may stand on an empty
line of its own. -/
theorem MadeOf.lines_lineFeed {a : List Char} {ls : List (List Char)} (h : MadeOf a ls)
    (b : List Char) :
    lines (a ++ '\n' :: b) = ls ++ lines b ∨ lines (a ++ '\n' :: b) = ls ++ [] :: lines b := by
  induction h with
  | nothing =>
    have hempty : Unbroken [] := List.forall_mem_nil _
    exact .inr (lines_line hempty (ends_lineFeed b))
  | @last line _ hline =>
    left
    simpa using lines_line hline (ends_lineFeed b)
  | @line line mark rest ls hline hmark hrest ih =>
    rcases hmark.lineFeed b with hstill | ⟨rfl, rfl⟩
    · have hfirst := lines_line hline hstill
      rw [List.append_assoc, hfirst]
      exact ih.imp (congrArg (line :: ·)) (congrArg (line :: ·))
    · -- the carriage return at the end takes the line feed along
      left
      have hfused : Ends ['\r', '\n'] b := .fused
      have hnone : ls = [] := hrest.lines_eq.symm
      rw [hnone]
      simpa using lines_line hline hfused

end SiliconBench.Text
