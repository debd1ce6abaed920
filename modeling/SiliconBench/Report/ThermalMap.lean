import SiliconBench.Report.Parts
import SiliconBench.Report.Registers

/-! # ThermalMap — the temperatures of the cores as a picture

Every core is one character, in the row and column where the grid has it, taken
from a ramp of ten by where its temperature lies between two bounds. -/

namespace SiliconBench.Report

open Scalar

/-- Characters from the coldest to the hottest. -/
def thermalRamp : List Char := [' ', '.', ':', '-', '=', '+', '*', '#', '%', '@']

variable {α : Type} [Scalar α]

/-- Where a temperature lies in the ramp that begins at `low` and is `span` long.
With no room in the ramp everything is cold. -/
def rampIndex (low span t : α) : Result α Int := do
  let fraction : α ←
    if ← lt (whole α 0) span then (t - low : Result α α) / span else .ok (real α 0)
  let place : α ← clamp fraction * whole α (thermalRamp.length - 1 : Nat)
  truncate place

/-- The character of a temperature. -/
def rampChar (low span t : α) : Result α Char := do
  let i ← rampIndex low span t
  return thermalRamp.getD i.toNat ' '

/-- The characters of a row. -/
def rampText (low span : α) (row : List α) : Result α String := do
  let cs ← each (rampChar low span) row
  return String.ofList cs

/-- The characters of a row, filled up with blanks to the width. -/
def rampRow (low span : α) (cols : Nat) (row : List α) : Result α String := do
  let text ← rampText low span row
  return Text.left cols text

/-- The picture of temperatures on a grid `cols` wide, between `low` and `high`. -/
def thermalMap (temperatures : List α) (cols : Nat) (low high : α) : Result α (List String) := do
  let span : α ← high - low
  each (rampRow low span cols) (chunksFrom cols temperatures.length temperatures)

/-- The same for a width that is still to be read, and may be too great. -/
def thermalMapFor (temperatures : List Value) (cols low high : Value) :
    Result Value (List String) := do
  let span : Value ← (high - low : Result Value Value)
  let rows ← chunks cols temperatures
  let width ← cols.truncate
  each (fun row => do
    let text ← rampText low span row
    return Text.left (← Value.repeatCount width) text) rows

end SiliconBench.Report
