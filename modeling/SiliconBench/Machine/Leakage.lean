import SiliconBench.Machine.Power
import SiliconBench.Scalar.Setting

/-! # Leakage — how leakage grows with temperature

The power model takes the growth of leakage as a parameter. On settings it is
the power function of doubles. -/

namespace SiliconBench.Machine

/-- How much leakage grows with every ten degrees. -/
def leakageFactor : Float := 1.08

/-- The growth of leakage after `x` times ten degrees: `1.08 ^ x`. -/
def leakageGrowth (x : Value) : Result Value Value := do
  return .real (Float.pow leakageFactor (← x.double))

end SiliconBench.Machine
