import SiliconBench.Random.Stream

/-! # Registers — a register file to look at

The register file is for display only: nothing in the model reads it. The first
register is always zero; the others hold numbers below a thousand. -/

namespace SiliconBench.Instructions

/-- How many registers there are. -/
def registerCount : Nat := 32

/-- The values of the registers for a seed, the first of them zero. -/
def registerValues (seed : Value) : Result Value (List Nat) := do
  let stream ← Random.Stream.ofSeed seed
  return 0 :: (stream.integers 1000 (registerCount - 1)).1

/-- The register file for a seed: names and values. -/
def registers (seed : Value) : Result Value (List (String × Value)) := do
  let values ← registerValues seed
  return (List.range registerCount).zip values |>.map fun (i, n) => ("x" ++ toString i, .whole n)

end SiliconBench.Instructions
