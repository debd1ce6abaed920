import SiliconBench.Decimal.Binary64
import SiliconBench.Gpu.Cell
import SiliconBench.Scalar.Exact
import SiliconBench.Scalar.Setting

/-! # CellKinds — arrays of doubles and arrays of rationals -/

namespace SiliconBench.Gpu

instance : Cell Float where
  ofRational := Decimal.ofRational
  div x y := some (x / y)
  lt x y := decide (x < y)
  greater x y := if x.isNaN then x else if y.isNaN then y else if x < y then y else x

instance : PerCore Value Float where
  toCell := Value.double
  ofCell := .real

instance : Cell Rat where
  ofRational q := q
  div x y := if y = 0 then none else some (x / y)
  lt x y := decide (x < y)
  greater x y := if x < y then y else x

instance : PerCore Rat Rat where
  toCell := .ok
  ofCell := id

end SiliconBench.Gpu
