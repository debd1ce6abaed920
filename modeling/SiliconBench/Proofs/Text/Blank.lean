import SiliconBench.Text.Blank
import Mathlib.Data.List.DropRight

/-!
# Blank — what stripping a text takes away

What is left of a text without the blanks at its ends is said without dropping anything: a
middle part that has a character other than a blank at either end, if it has any, with
nothing but blanks before it and after it (`Stripped`). There is one such part, and it is the
one that `stripChars` finds (`stripped_iff`).
-/

namespace SiliconBench.Text

/-- A text and what is left of it without the blanks at both ends. -/
structure Stripped (text middle : List Char) : Prop where
  cut : ∃ before after, text = before ++ middle ++ after ∧
    (∀ c ∈ before, isBlank c = true) ∧ ∀ c ∈ after, isBlank c = true
  first : ∀ c, middle.head? = some c → isBlank c = false
  last : ∀ c, middle.getLast? = some c → isBlank c = false

/-- Blanks are dropped as far as they go. -/
theorem dropWhile_blanks {blanks rest : List Char} (hblanks : ∀ c ∈ blanks, isBlank c = true)
    (hrest : ∀ c, rest.head? = some c → isBlank c = false) :
    (blanks ++ rest).dropWhile isBlank = rest := by
  rw [List.dropWhile_append_of_pos hblanks]
  cases rest with
  | nil => rfl
  | cons c rest => exact List.dropWhile_cons_of_neg (by simp [hrest c rfl])

theorem stripped_stripChars (text : List Char) : Stripped text (stripChars text) := by
  set rest := text.dropWhile isBlank with hrest
  have hmiddle : stripChars text = rest.rdropWhile isBlank := rfl
  have hafter : rest.rdropWhile isBlank ++ rest.rtakeWhile isBlank = rest :=
    List.rdropWhile_append_rtakeWhile ..
  rw [hmiddle]
  constructor
  case cut =>
    refine ⟨text.takeWhile isBlank, rest.rtakeWhile isBlank, ?_, ?_, ?_⟩
    · rw [List.append_assoc, hafter, List.takeWhile_append_dropWhile]
    · exact fun c hc => List.mem_takeWhile_imp hc
    · exact fun c hc => List.mem_rtakeWhile_imp hc
  case first =>
    -- what comes first in the middle came first in the rest already
    intro c hc
    have hhead : rest.head? = some c := by rw [← hafter, List.head?_append, hc, Option.some_or]
    have hnot := List.head?_dropWhile_not isBlank text
    rw [← hrest, hhead] at hnot
    exact hnot
  case last =>
    intro c hc
    have hsome : rest.rdropWhile isBlank ≠ [] := by
      rintro hnone
      simp [hnone] at hc
    have hnot := List.rdropWhile_last_not isBlank rest hsome
    rw [List.getLast?_eq_some_getLast hsome, Option.some.injEq] at hc
    rw [← hc]
    exact eq_false_of_ne_true hnot

theorem Stripped.eq {text middle : List Char} (h : Stripped text middle) :
    middle = stripChars text := by
  obtain ⟨before, after, rfl, hbefore, hafter⟩ := h.cut
  cases middle with
  | nil =>
    have hall : (before ++ [] ++ after).dropWhile isBlank = [] := by
      rw [List.append_nil, List.dropWhile_append_of_pos hbefore]
      exact List.dropWhile_eq_nil_iff.mpr hafter
    rw [stripChars, hall]
    rfl
  | cons c rest =>
    have hfirst : (before ++ (c :: rest ++ after)).dropWhile isBlank = c :: rest ++ after :=
      dropWhile_blanks hbefore h.first
    have hlast : (after.reverse ++ (c :: rest).reverse).dropWhile isBlank = (c :: rest).reverse :=
      dropWhile_blanks (by simpa using hafter) (by simpa only [List.head?_reverse] using h.last)
    rw [stripChars, List.append_assoc, hfirst, List.reverse_append, hlast, List.reverse_reverse]

/-- **Stripping finds the middle of a text**, and there is no other. -/
theorem stripped_iff {text middle : List Char} :
    Stripped text middle ↔ middle = stripChars text :=
  ⟨Stripped.eq, fun h => h ▸ stripped_stripChars text⟩

end SiliconBench.Text
