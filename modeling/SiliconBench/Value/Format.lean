import SiliconBench.Decimal.Layout
import SiliconBench.Scalar.Setting
import SiliconBench.Text.Pad
import SiliconBench.Value.Display

/-! # Format — values in the layouts of a report

A report lays numbers out; a value that is no number has no layout. A text where
a number belongs is a bad value, and anything else is of the wrong kind. -/

namespace SiliconBench.Value

/-- A number laid out by `layout`. -/
def laidOut (layout : Float → String) (v : Value) : Result Value String :=
  match v with
  | .text _ => .error (.badValue .textLayout)
  | v => do return layout (← v.double)

/-- So many digits after the point. -/
def fixed (places : Nat) : Value → Result Value String :=
  laidOut (Decimal.fixed places)

/-- The same with a comma between thousands. -/
def fixedGrouped (places : Nat) : Value → Result Value String :=
  laidOut (Decimal.fixedGrouped places)

/-- A whole number with a comma between thousands. -/
def groupedWhole (n : Int) : String :=
  (if n < 0 then "-" else "") ++ Decimal.groupedNat n.natAbs

/-- A number of either kind with a comma between thousands. -/
def grouped (v : Value) : Result Value String :=
  match v with
  | .text _ => .error (.badValue .textLayout)
  | v => do
    match ← v.number with
    | .whole n => return groupedWhole n
    | .real x => return Decimal.shortGrouped x

/-- The text of a value that can stand in a column: a text or a number. -/
def columnText (v : Value) : Result Value String :=
  match v with
  | .text s => .ok s
  | v => do
    match ← v.number with
    | .whole n => return toString n
    | .real x => return Decimal.short x

/-- A text, where one is needed. -/
def asText : Value → Result Value String
  | .text s => .ok s
  | _ => .error .notText

/-- A number laid out where one is surely there; anything else is shown as it is. -/
def shown (layout : Float → String) (v : Value) : String :=
  match v.double with
  | .ok x => layout x
  | .error _ => v.display

end SiliconBench.Value
