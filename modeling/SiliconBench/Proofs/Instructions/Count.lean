import SiliconBench.Instructions.Mix
import SiliconBench.Proofs.Whole
import Mathlib.Data.List.Infix

/-!
# Count — what is counted of a program

Counting goes line by line and stops AT the cap, before the line that would exceed
it. So it has seen the first lines of the program, as many as the cap allows, and
it has left some out exactly when there are more (`count_whole`). A cap of zero or
below lets none through.
-/

namespace SiliconBench.Instructions

open Scalar

/-! ## Memory instructions -/

/-- A line that a load or a store mnemonic occurs in, anywhere. -/
def ReachesMemory (line : List Char) : Prop :=
  ['l', 'w'] <:+: line ∨ ['s', 'w'] <:+: line

instance : DecidablePred ReachesMemory := fun line =>
  inferInstanceAs (Decidable (['l', 'w'] <:+: line ∨ ['s', 'w'] <:+: line))

theorem occursIn_iff {word text : List Char} : occursIn word text = true ↔ word <:+: text := by
  induction text with
  | nil => rw [occursIn, List.isEmpty_iff, List.infix_nil]
  | cons c rest ih =>
    rw [occursIn, Bool.or_eq_true, List.isPrefixOf_iff_prefix, ih, List.infix_cons_iff]

theorem isMemory_eq (line : List Char) : isMemory line = decide (ReachesMemory line) := by
  rw [Bool.eq_iff_iff, decide_eq_true_iff, isMemory, memoryMnemonics, List.any_cons, List.any_cons,
    List.any_nil, Bool.or_false, Bool.or_eq_true, occursIn_iff, occursIn_iff, ReachesMemory]

/-! ## Up to the cap -/

/-- The lines that a cap lets through: the first ones. -/
def counted (cap : Int) (lines : List (List Char)) : List (List Char) :=
  lines.take cap.toNat

theorem length_counted (cap : Int) (lines : List (List Char)) :
    (counted cap lines).length = min lines.length cap.toNat := by
  rw [counted, List.length_take, Nat.min_comm]

/-- The counts of the lines that a cap lets through. -/
def countsOf (cap : Int) (lines : List (List Char)) : Counts :=
  { memory := (counted cap lines).countP isMemory
    other := (counted cap lines).countP fun line => !isMemory line
    truncated := decide (cap.toNat < lines.length) }

/-- All counted instructions. -/
def Counts.total (c : Counts) : Nat := c.memory + c.other

theorem total_countsOf (cap : Int) (lines : List (List Char)) :
    (countsOf cap lines).total = min lines.length cap.toNat := by
  rw [← length_counted, List.length_eq_countP_add_countP isMemory]
  simp only [Counts.total, countsOf, Bool.not_eq_true, Bool.decide_eq_false]

variable {α : Type} [Scalar α] [LawfulCount α]

/-- What is still counted after `memory + other` lines: the lines that are left, up to
what the cap still allows. -/
theorem countFrom_whole (cap : Int) (lines : List (List Char)) (memory other : Nat) :
    countFrom (whole α cap) lines memory other =
      .ok { memory := memory + (lines.take (cap.toNat - (memory + other))).countP isMemory
            other := other +
              (lines.take (cap.toNat - (memory + other))).countP fun line => !isMemory line
            truncated := decide (cap.toNat - (memory + other) < lines.length) } := by
  induction lines generalizing memory other with
  | nil => simp [countFrom]
  | cons line rest ih =>
    rw [countFrom, le_whole]
    by_cases hfull : cap ≤ (memory + other : Nat)
    · have hnone : cap.toNat - (memory + other) = 0 := by omega
      rw [decide_eq_true hfull, hnone]
      simp
    · obtain ⟨left, hleft⟩ : ∃ left, cap.toNat - (memory + other) = left + 1 :=
        ⟨cap.toNat - (memory + other) - 1, by omega⟩
      rw [decide_eq_false hfull, hleft, List.take_succ_cons]
      -- one more line is counted on either side, so the cap allows one line less
      cases hline : isMemory line with
      | true =>
        have hrest : cap.toNat - (memory + 1 + other) = left := by omega
        have hcounted := ih (memory + 1) other
        rw [hrest] at hcounted
        simp [hline, hcounted, Nat.add_assoc, Nat.add_comm 1]
      | false =>
        have hrest : cap.toNat - (memory + (other + 1)) = left := by omega
        have hcounted := ih memory (other + 1)
        rw [hrest] at hcounted
        simp [hline, hcounted, Nat.add_assoc, Nat.add_comm 1]

/-- **Counting up to a cap counts the first lines**, in every arithmetic in which
whole numbers are what they are. -/
theorem count_whole (cap : Int) (lines : List (List Char)) :
    count (whole α cap) lines = .ok (countsOf cap lines) := by
  rw [count, countFrom_whole]
  simp [countsOf, counted]

namespace Counts

theorem total_toMix (c : Counts) : (c.toMix : Mix α).total = .ok (whole α c.total) := by
  show add (whole α c.memory) (whole α c.other) = _
  rw [add_whole, total, Nat.cast_add]

theorem isTrue_toMix (c : Counts) : isTrue (c.toMix : Mix α).truncated = c.truncated :=
  isTrue_flag _

/-- A cut stream is warned of once, any other not at all. -/
theorem warnings_toMix (c : Counts) (cap : α) :
    (c.toMix : Mix α).warnings cap = if c.truncated then [.capReached cap] else [] := by
  rw [Mix.warnings, isTrue_toMix]

end Counts

end SiliconBench.Instructions
