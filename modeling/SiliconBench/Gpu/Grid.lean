/-! # Grid — where the cores lie

At most 256 cores are simulated, however many there are. They are laid out row
by row on the narrowest grid that is at least as wide as it is high; only the
last row may be ragged. -/

namespace SiliconBench.Gpu

/-- The most cores that are simulated. -/
def maxCells : Nat := 256

/-- The least number whose square is not below `n`. -/
def ceilSqrt (n : Nat) : Nat :=
  match (List.range (n + 1)).find? fun k => n ≤ k * k with
  | some k => k
  | none => n

/-- A layout of cores. -/
structure Grid where
  /-- cores that are simulated -/
  cells : Nat
  cols : Nat
  rows : Nat
  deriving DecidableEq, Repr

namespace Grid

/-- The layout for a number of cores. -/
def ofCores (cores : Int) : Grid :=
  let cells := max 1 (min cores.toNat maxCells)
  let cols := ceilSqrt cells
  ⟨cells, cols, (cells + cols - 1) / cols⟩

/-- Column and row of a core. -/
def position (g : Grid) (core : Nat) : Nat × Nat :=
  (core % g.cols, core / g.cols)

/-- Column and row of every core. -/
def positions (g : Grid) : List (Nat × Nat) :=
  (List.range g.cells).map g.position

/-- The shorter side. -/
def side (g : Grid) : Nat := min g.cols g.rows

end Grid

end SiliconBench.Gpu
