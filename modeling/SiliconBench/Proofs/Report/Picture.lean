import Mathlib.Algebra.Order.Floor.Div
import SiliconBench.Proofs.Answer
import SiliconBench.Report.ThermalMap

/-!
# Picture — characters in rows

A thermal map is cut into rows FIRST, and each row is worked out and filled up by
itself. It comes to the same as working out all characters and then laying them
out (`thermalMap_eq`), and what is laid out is told cell by cell (`charAt_picture`):
the character number `i` stands in row `i / cols` and column `i % cols`, and what is
left of the last row is blank. All of this holds in any arithmetic.
-/

namespace SiliconBench

/-! ## Actions on parts of a list -/

section Each

variable {α β γ δ : Type}

theorem each_append (f : β → Result α γ) (xs ys : List β) :
    each f (xs ++ ys) = (do return (← each f xs) ++ (← each f ys)) := by
  induction xs with
  | nil => exact (bind_pure (each f ys)).symm
  | cons x xs ih => simp [ih]

/-- What is made of each answer can be made of all of them in the end. -/
theorem each_map_answer (f : β → Result α γ) (g : γ → δ) (xs : List β) :
    each (fun x => do return g (← f x)) xs = (do return (← each f xs).map g) := by
  induction xs with
  | nil => rfl
  | cons x xs ih =>
    rw [each_cons, ih]
    simp

end Each

namespace Report

open Scalar

/-! ## Rows -/

section Rows

variable {β : Type} {width fuel : Nat} {xs : List β}

theorem ceilDiv_eq_succ {n : Nat} (hn : 0 < n) (hwidth : 0 < width) :
    n ⌈/⌉ width = (n - width) ⌈/⌉ width + 1 := by
  refine eq_of_forall_ge_iff fun c => ?_
  cases c with
  | zero => simp [ceilDiv_le_iff_le_mul hwidth, hn.ne']
  | succ c =>
    rw [ceilDiv_le_iff_le_mul hwidth, Nat.succ_le_succ_iff, ceilDiv_le_iff_le_mul hwidth,
      Nat.mul_succ, Nat.sub_le_iff_le_add]

theorem div_lt_ceilDiv {i n : Nat} (hwidth : 0 < width) (h : i < n) : i / width < n ⌈/⌉ width := by
  refine lt_of_not_ge fun hle => ?_
  have hn : n ≤ width * (i / width) := (ceilDiv_le_iff_le_mul hwidth).mp hle
  exact absurd (hn.trans (Nat.mul_div_le i width)) h.not_ge

theorem chunksFrom_of_pos (h : 0 < xs.length) :
    chunksFrom width (fuel + 1) xs = xs.take width :: chunksFrom width fuel (xs.drop width) := by
  cases xs with
  | nil => exact absurd h (Nat.lt_irrefl 0)
  | cons x xs => rfl

theorem length_drop_le (hwidth : 0 < width) (hfuel : xs.length ≤ fuel + 1) :
    (xs.drop width).length ≤ fuel := by
  rw [List.length_drop]
  omega

/-- With enough fuel, row number `k` has the items from `k * width` on. -/
theorem chunksFrom_eq (hwidth : 0 < width) (hfuel : xs.length ≤ fuel) :
    chunksFrom width fuel xs =
      (List.range (xs.length ⌈/⌉ width)).map fun k => (xs.drop (k * width)).take width := by
  induction fuel generalizing xs with
  | zero =>
    obtain rfl := List.eq_nil_of_length_eq_zero (Nat.le_zero.mp hfuel)
    simp [chunksFrom]
  | succ fuel ih =>
    rcases xs.length.eq_zero_or_pos with h | h
    · obtain rfl := List.eq_nil_of_length_eq_zero h
      simp [chunksFrom]
    · rw [chunksFrom_of_pos h, ih (length_drop_le hwidth hfuel), ceilDiv_eq_succ h hwidth,
        List.length_drop, List.range_succ_eq_map, List.map_cons, List.map_map]
      congr 1
      · rw [Nat.zero_mul, List.drop_zero]
      · refine List.map_congr_left fun k _ => ?_
        rw [Function.comp_apply, List.drop_drop, Nat.succ_mul, Nat.add_comm]

/-- Two parts as long as those of a list that is cut at `width` are cut apart there. -/
theorem cut_append {n : Nat} {ys zs : List β} (hys : ys.length = min width n)
    (hzs : zs.length = n - width) :
    (ys ++ zs).take width = ys ∧ (ys ++ zs).drop width = zs := by
  rcases le_total width n with h | h
  · have hlength : ys.length = width := hys.trans (min_eq_left h)
    exact ⟨List.take_left' hlength, List.drop_left' hlength⟩
  · obtain rfl : zs = [] := List.eq_nil_of_length_eq_zero (hzs.trans (Nat.sub_eq_zero_of_le h))
    have hlength : ys.length ≤ width := (hys.trans (min_eq_right h)).trans_le h
    rw [List.append_nil]
    exact ⟨List.take_of_length_le hlength, List.drop_of_length_le hlength⟩

/-- Working out all items row by row is working out all items, and cutting them then. -/
theorem each_chunksFrom {α γ : Type} (f : β → Result α γ) (hwidth : 0 < width)
    (hfuel : xs.length ≤ fuel) :
    each (each f) (chunksFrom width fuel xs) = (do
      return chunksFrom width fuel (← each f xs)) := by
  induction fuel generalizing xs with
  | zero =>
    obtain rfl := List.eq_nil_of_length_eq_zero (Nat.le_zero.mp hfuel)
    simp [chunksFrom]
  | succ fuel ih =>
    rcases xs.length.eq_zero_or_pos with h | h
    · obtain rfl := List.eq_nil_of_length_eq_zero h
      simp [chunksFrom]
    · have hall : each f xs = (do
          return (← each f (xs.take width)) ++ (← each f (xs.drop width))) := by
        rw [← each_append, List.take_append_drop]
      rw [chunksFrom_of_pos h, each_cons, ih (length_drop_le hwidth hfuel), hall]
      cases hys : each f (xs.take width) with
      | error fault => rfl
      | ok ys =>
        cases hzs : each f (xs.drop width) with
        | error fault => rfl
        | ok zs =>
          have hlength : ys.length = min width xs.length :=
            (length_of_each hys).trans List.length_take
          have hrest : zs.length = xs.length - width :=
            (length_of_each hzs).trans List.length_drop
          obtain ⟨htake, hdrop⟩ := cut_append hlength hrest
          have hpos : 0 < (ys ++ zs).length := by
            rw [List.length_append]
            omega
          simp [chunksFrom_of_pos hpos, htake, hdrop]

end Rows

/-! ## Pictures -/

/-- Characters laid out in rows of a width, the last of them filled up with blanks. -/
def picture (cols : Nat) (cs : List Char) : List String :=
  (chunksFrom cols cs.length cs).map fun row => Text.left cols (String.ofList row)

/-- The character in a row and a column of a picture. -/
def charAt (rows : List String) (row col : Nat) : Option Char :=
  rows[row]?.bind fun text => text.toList[col]?

/-- A thermal map is the picture of the characters of all temperatures. -/
theorem thermalMap_eq {α : Type} [Scalar α] (ts : List α) {cols : Nat} (hcols : 0 < cols)
    (low high : α) :
    thermalMap ts cols low high = (do
      let span : α ← high - low
      return picture cols (← each (rampChar low span) ts)) := by
  unfold thermalMap
  refine bind_congr fun span => ?_
  have hrow : rampRow low span cols = fun row => (do
      return Text.left cols (String.ofList (← each (rampChar low span) row))) := by
    funext row
    simp [rampRow, rampText]
  rw [hrow, each_map_answer (each (rampChar low span)), each_chunksFrom _ hcols le_rfl]
  cases hcs : each (rampChar low span) ts with
  | error fault => rfl
  | ok cs => simp [picture, length_of_each hcs]

/-- `rows` draws the characters `cs`, `cols` to a row: number `i` in row `i / cols` and
column `i % cols`, and blanks in what is left of the last row. -/
structure Draws (rows : List String) (cols : Nat) (cs : List Char) : Prop where
  height : rows.length = cs.length ⌈/⌉ cols
  width : ∀ row ∈ rows, row.length = cols
  drawn : ∀ i c, cs[i]? = some c → charAt rows (i / cols) (i % cols) = some c
  blank : ∀ row col, row < rows.length → col < cols → cs.length ≤ row * cols + col →
    charAt rows row col = some ' '

theorem toList_left (width : Nat) (cs : List Char) :
    (Text.left width (String.ofList cs)).toList =
      cs ++ List.replicate (width - cs.length) ' ' := by
  simp [Text.left, Text.repeated]

/-- A row that is filled up has the characters it had, and blanks after them. -/
theorem getElem?_filled {width col : Nat} (hcol : col < width) (cs : List Char) :
    (Text.left width (String.ofList (cs.take width))).toList[col]? = some (cs.getD col ' ') := by
  rw [toList_left]
  by_cases h : col < cs.length
  · have hkept : col < (cs.take width).length := by simp [h, hcol]
    rw [List.getElem?_append_left hkept, List.getElem?_take_of_lt hcol]
    simp [h]
  · have hafter : (cs.take width).length ≤ col := by
      rw [List.length_take]
      omega
    rw [List.getElem?_append_right hafter, List.getElem?_replicate, if_pos (by omega)]
    simp [h]

section

variable {cols : Nat} {cs : List Char}

theorem picture_eq (hcols : 0 < cols) :
    picture cols cs = (List.range (cs.length ⌈/⌉ cols)).map fun row =>
      Text.left cols (String.ofList ((cs.drop (row * cols)).take cols)) := by
  rw [picture, chunksFrom_eq hcols le_rfl, List.map_map]
  rfl

theorem length_picture (hcols : 0 < cols) : (picture cols cs).length = cs.length ⌈/⌉ cols := by
  rw [picture_eq hcols, List.length_map, List.length_range]

/-- **A picture, cell by cell**: the characters in order, row after row, then blanks. -/
theorem charAt_picture {row col : Nat} (hrow : row < (picture cols cs).length) (hcol : col < cols) :
    charAt (picture cols cs) row col = some (cs.getD (row * cols + col) ' ') := by
  have hcols : 0 < cols := Nat.zero_lt_of_lt hcol
  rw [length_picture hcols] at hrow
  have hline : (picture cols cs)[row]? =
      some (Text.left cols (String.ofList ((cs.drop (row * cols)).take cols))) := by
    simp [picture_eq hcols, hrow]
  rw [charAt, hline, Option.bind_some, getElem?_filled hcol]
  simp

theorem length_of_mem_picture (hcols : 0 < cols) {row : String} (hrow : row ∈ picture cols cs) :
    row.length = cols := by
  rw [picture_eq hcols] at hrow
  obtain ⟨k, -, rfl⟩ := List.mem_map.mp hrow
  rw [← String.length_toList, toList_left, List.length_append, List.length_replicate]
  exact Nat.add_sub_cancel' (List.length_take_le ..)

/-- A picture draws what it is made of. -/
theorem picture_draws (hcols : 0 < cols) : Draws (picture cols cs) cols cs where
  height := length_picture hcols
  width _ := length_of_mem_picture hcols
  drawn i c hi := by
    have hlt : i < cs.length := (List.getElem?_eq_some_iff.mp hi).1
    have hrow : i / cols < (picture cols cs).length := by
      rw [length_picture hcols]
      exact div_lt_ceilDiv hcols hlt
    rw [charAt_picture hrow (Nat.mod_lt i hcols), Nat.div_add_mod', List.getD_eq_getElem?_getD, hi,
      Option.getD_some]
  blank row col hrow hcol hi := by
    rw [charAt_picture hrow hcol, List.getD_eq_getElem?_getD, List.getElem?_eq_none hi,
      Option.getD_none]

end

end Report

end SiliconBench
