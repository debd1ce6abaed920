import SiliconBench.Report.Parts

/-! # Registers — a register file in words -/

namespace SiliconBench.Report

/-- One register. -/
def registerText (register : Value × Value) : Result Value String := do
  return Text.right 3 (← register.1.columnText) ++ " = " ++ Text.right 4 (← register.2.columnText)

/-- One row of registers. -/
def registerRow (row : List (Value × Value)) : Result Value String := do
  return "    " ++ "   ".intercalate (← each registerText row)

/-- Items in rows of `width`, at most `fuel` of them. -/
def chunksFrom {β : Type} (width : Nat) : Nat → List β → List (List β)
  | 0, _ => []
  | _, [] => []
  | fuel + 1, x :: xs =>
    (x :: xs).take width :: chunksFrom width fuel ((x :: xs).drop width)

/-- Items in rows of `width`; the last row may be shorter. There are no rows of
negative width, and rows of no width are a bad request. -/
def chunks {β : Type} (width : Value) (xs : List β) : Result Value (List (List β)) :=
  match width.number? with
  | some (.whole w) =>
    if w = 0 then .error (.badValue .noWidth)
    else if w < 0 then .ok []
    else .ok (chunksFrom w.toNat xs.length xs)
  | _ => .error .wrongKind

/-- A register file, so many to a row. -/
def registers (file : List (Value × Value)) (perRow : Value) : Result Value String := do
  let rows ← chunks perRow file
  return page ("  Register File (illustrative):" :: (← each registerRow rows))

end SiliconBench.Report
