import SiliconBench.Paired.Benchmark
import SiliconBench.Proofs.Instructions.Count
import SiliconBench.Proofs.Instructions.Parse

/-!
# Joined — programs that are counted one by one

A cap is compared with how many lines were counted before, and with nothing else. So a cap
that lets all lines of a program through lets those of its parts through as well, whatever
kind of number it is (`LetsThrough`), and a program of two parts has the counts of both
(`countProgram_join`).
-/

namespace SiliconBench.Instructions

open Scalar

variable {α : Type} [Scalar α]

/-- A cap that none of `n` lines reaches, with so many lines counted before them. -/
def LetsThrough (cap : α) (before n : Nat) : Prop :=
  ∀ k : Nat, before ≤ k → k < before + n → le cap (whole α k) = .ok false

theorem letsThrough_zero (cap : α) (before : Nat) : LetsThrough cap before 0 := by
  intro k hle hlt
  omega

theorem letsThrough_succ {cap : α} {before n : Nat} :
    LetsThrough cap before (n + 1) ↔
      le cap (whole α before) = .ok false ∧ LetsThrough cap (before + 1) n := by
  constructor
  · exact fun h => ⟨h before le_rfl (by omega), fun k hle hlt => h k (by omega) (by omega)⟩
  · rintro ⟨hfirst, hrest⟩ k hle hlt
    rcases hle.eq_or_lt with rfl | hlater
    · exact hfirst
    · exact hrest k hlater (by omega)

theorem LetsThrough.mono {cap : α} {m n : Nat} (h : LetsThrough cap 0 n) (hmn : m ≤ n) :
    LetsThrough cap 0 m :=
  fun k hle hlt => h k hle (by omega)

/-- The counts of lines none of which is left out. -/
def countsOfAll (lines : List (List Char)) : Counts :=
  { memory := lines.countP isMemory
    other := lines.countP fun line => !isMemory line
    truncated := false }

/-- No line is left out of a count exactly when the cap lets all of them through. Which
lines were counted before matters by their number alone. -/
theorem countFrom_uncut_iff {cap : α} {lines : List (List Char)} {memory other : Nat}
    {c : Counts} :
    countFrom cap lines memory other = .ok c ∧ c.truncated = false ↔
      LetsThrough cap (memory + other) lines.length ∧
        c = { memory := memory + (countsOfAll lines).memory
              other := other + (countsOfAll lines).other
              truncated := false } := by
  induction lines generalizing memory other with
  | nil =>
    have hcounts : countFrom cap [] memory other = .ok ⟨memory, other, false⟩ := rfl
    rw [hcounts, Except.ok.injEq]
    constructor
    · rintro ⟨rfl, -⟩
      exact ⟨letsThrough_zero cap _, rfl⟩
    · rintro ⟨-, rfl⟩
      exact ⟨rfl, rfl⟩
  | cons line rest ih =>
    rw [countFrom, List.length_cons, letsThrough_succ]
    cases hreached : le cap (whole α (memory + other : Nat)) with
    | error e => simp
    | ok reached =>
      cases reached with
      | true =>
        constructor
        · rintro ⟨⟨⟩, ⟨⟩⟩
        · rintro ⟨⟨⟨⟩, -⟩, -⟩
      | false =>
        -- the line is counted on one side, and either way one more was counted before the rest
        cases hline : isMemory line with
        | true => simp [hline, ih, countsOfAll, Nat.add_assoc, Nat.add_comm 1]
        | false => simp [hline, ih, countsOfAll, Nat.add_assoc, Nat.add_comm 1]

theorem count_uncut_iff {cap : α} {lines : List (List Char)} {c : Counts} :
    count cap lines = .ok c ∧ c.truncated = false ↔
      LetsThrough cap 0 lines.length ∧ c = countsOfAll lines := by
  rw [count, countFrom_uncut_iff]
  simp [countsOfAll]

theorem countsOfAll_append (lines more : List (List Char)) :
    countsOfAll (lines ++ more) =
      { memory := (countsOfAll lines).memory + (countsOfAll more).memory
        other := (countsOfAll lines).other + (countsOfAll more).other
        truncated := false } := by
  simp only [countsOfAll, List.countP_append]

/-- Where no line of a stream is left out, none is left out of its parts, and the counts of
the parts add up. -/
theorem count_append {cap : α} {lines more : List (List Char)} {c : Counts}
    (h : count cap (lines ++ more) = .ok c) (hc : c.truncated = false) :
    ∃ first second, count cap lines = .ok first ∧ count cap more = .ok second ∧
      first.truncated = false ∧ second.truncated = false ∧
      c.memory = first.memory + second.memory ∧ c.other = first.other + second.other := by
  obtain ⟨hcap, rfl⟩ := count_uncut_iff.mp ⟨h, hc⟩
  rw [List.length_append] at hcap
  have hfirst := count_uncut_iff.mpr ⟨hcap.mono (Nat.le_add_right _ _), rfl⟩
  have hsecond := count_uncut_iff.mpr ⟨hcap.mono (Nat.le_add_left _ _), rfl⟩
  rw [countsOfAll_append]
  exact ⟨_, _, hfirst.1, hsecond.1, rfl, rfl, rfl, rfl⟩

end SiliconBench.Instructions

namespace SiliconBench.Paired

open Scalar Instructions

/-- **Programs are parsed one by one, and counted one by one** where the cap is not reached:
a line feed between two programs, whatever the first ends in, makes one program with the
instructions of both and, whatever kind of number the cap is, with the counts of both. A
whole cap is not reached when it is at least the number of their instructions. -/
theorem countProgram_join (a b : List Char) :
    parse (a ++ '\n' :: b) = parse a ++ parse b ∧
      (∀ (α : Type) [Scalar α] (cap : α) (c : Counts),
        countProgram (a ++ '\n' :: b) cap = .ok c → c.truncated = false →
          ∃ first second, countProgram a cap = .ok first ∧ countProgram b cap = .ok second ∧
            first.truncated = false ∧ second.truncated = false ∧
            c.memory = first.memory + second.memory ∧ c.other = first.other + second.other) ∧
      ∀ (α : Type) [Scalar α] [LawfulCount α] (cap : Int),
        ∃ c, countProgram (a ++ '\n' :: b) (whole α cap) = .ok c ∧
          (c.truncated = false ↔ (parse a).length + (parse b).length ≤ cap.toNat) := by
  have hparse := parse_lineFeed a b
  refine ⟨hparse, fun α _ cap c h hc => ?_, fun α _ _ cap => ?_⟩
  · rw [countProgram, hparse] at h
    exact count_append h hc
  · refine ⟨countsOf cap (parse a ++ parse b), ?_, ?_⟩
    · rw [countProgram, hparse]
      exact count_whole cap _
    · rw [countsOf, List.length_append, decide_eq_false_iff_not, not_lt]

/-- The carriage return of the first program and the line feed are one break. -/
theorem countProgram_join_fused :
    parse (['l', 'w', '\r'] ++ '\n' :: ['a']) = [['l', 'w'], ['a']] ∧
      ∃ c, countProgram (['l', 'w', '\r'] ++ '\n' :: ['a']) (whole Rat 2) = .ok c ∧
        c.truncated = false ∧ c.memory = 1 ∧ c.other = 1 := by
  obtain ⟨hparse, hadds, hcapped⟩ := countProgram_join ['l', 'w', '\r'] ['a']
  obtain ⟨c, hc, huncut_iff⟩ := hcapped Rat 2
  have huncut : c.truncated = false := huncut_iff.mpr (by decide)
  obtain ⟨first, second, hfirst, hsecond, -, -, hmemory, hother⟩ := hadds Rat _ c hc huncut
  have hfirst' : countProgram ['l', 'w', '\r'] (whole Rat 2) = .ok ⟨1, 0, false⟩ :=
    (count_whole 2 _).trans (congrArg Except.ok (by decide))
  have hsecond' : countProgram ['a'] (whole Rat 2) = .ok ⟨0, 1, false⟩ :=
    (count_whole 2 _).trans (congrArg Except.ok (by decide))
  obtain rfl := Except.ok.inj (hfirst.symm.trans hfirst')
  obtain rfl := Except.ok.inj (hsecond.symm.trans hsecond')
  exact ⟨hparse.trans (by decide), c, hc, huncut, hmemory, hother⟩

end SiliconBench.Paired
