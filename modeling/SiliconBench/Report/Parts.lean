import SiliconBench.Value.Format

/-! # Parts — what all reports are made of -/

namespace SiliconBench.Report

open Scalar

/-- The width of a report. -/
def bannerWidth : Nat := 80

/-- The width of a bar unless another is given. -/
def barWidth : Int := 40

/-- The lines that a report begins with. -/
def banner (title : String) : List String :=
  let rule := Text.repeated '=' bannerWidth
  [rule, "  " ++ title, rule, ""]

/-- Lines as one text. -/
def page (lines : List String) : String :=
  "\n".intercalate lines

/-- A number brought between zero and one. An undefined one becomes zero. -/
def clamp {α : Type} [Scalar α] (x : α) : Result α α := do
  let low ← greatest (real α 0) x
  least (real α 1) low

/-- A bar that is filled up to a fraction. -/
def bar (fraction : Value) (width : Value) : Result Value String := do
  let f ← clamp fraction
  let filled ← (← mul f width).truncate
  let full ← Value.repeatCount filled
  match ← width.number with
  | .whole w =>
    let empty ← Value.repeatCount (w - filled)
    return Text.repeated '#' full ++ Text.repeated '.' empty
  | .real _ => .error .wrongKind

/-- A number with its sign, and a suffix. -/
def signed (v : Value) (suffix : String) : Result Value String := do
  let sign := if ← lt (.whole 0) v then "+" else ""
  return sign ++ (← v.fixed 1) ++ suffix

/-- The percentage that a fraction is, with `places` digits after the point. -/
def percentage (places : Nat) (fraction : Value) : Result Value String := do
  (← mul fraction (.whole 100)).fixed places

end SiliconBench.Report
