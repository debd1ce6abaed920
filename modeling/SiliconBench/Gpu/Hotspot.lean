import SiliconBench.Gpu.Cell
import SiliconBench.Gpu.Grid

/-! # Hotspot — moving sources of heat

Hotspots drift over the grid and make the cores around them draw more power,
the more the closer they are: a hotspot at distance `d` adds its intensity times
`exp (-d² / falloff)`. One that leaves the grid turns round on that axis. Its
position is NOT put back, so it is outside for a moment. The exponential is a
parameter, so that a statement can say what it needs of it. -/

namespace SiliconBench.Gpu

open Cell

/-- One source of heat. -/
structure Hotspot (κ : Type) where
  x : κ
  y : κ
  /-- cells per tick -/
  vx : κ
  /-- cells per tick -/
  vy : κ
  intensity : κ

/-- How many cores there are for each hotspot. -/
def coresPerHotspot : Nat := 16

/-- How many hotspots a grid has. -/
def Grid.hotspotCount (g : Grid) : Nat :=
  max 1 (g.cells / coresPerHotspot)

variable {κ : Type} [Cell κ]

/-- How fast heat falls off with the square of the distance. -/
def Grid.falloff (g : Grid) : κ :=
  lit κ g.side * lit κ 0.5

namespace Hotspot

/-- The velocity after a step that led to `p` on an axis of length `size`. -/
def reflect (size p v : κ) : κ :=
  if lt p (lit κ 0) || lt size p then -v else v

/-- One tick of a hotspot. -/
def advance (g : Grid) (h : Hotspot κ) : Hotspot κ :=
  let x := h.x + h.vx
  let y := h.y + h.vy
  { h with x, y, vx := reflect (lit κ g.cols) x h.vx, vy := reflect (lit κ g.rows) y h.vy }

/-- The square of the distance to a core. -/
def distanceSquared (h : Hotspot κ) (x y : κ) : κ :=
  (x - h.x) * (x - h.x) + (y - h.y) * (y - h.y)

/-- What a hotspot adds to the power of a core. -/
def contribution {α : Type} (exp : κ → κ) (falloff x y : κ) (h : Hotspot κ) : Result α κ := do
  let e ← quotient (-(h.distanceSquared x y)) falloff
  return h.intensity * exp e

end Hotspot

/-- The factor on the power of a core at `(x, y)`. -/
def powerFactor {α : Type} (exp : κ → κ) (falloff : κ) (hs : List (Hotspot κ)) (x y : κ) :
    Result α κ := do
  let parts ← each (Hotspot.contribution exp falloff x y) hs
  return lit κ 1 + sum parts

/-- The factors on the power of all cores of a grid. -/
def powerFactors {α : Type} (exp : κ → κ) (g : Grid) (hs : List (Hotspot κ)) :
    Result α (List κ) :=
  each (fun (col, row) => powerFactor exp g.falloff hs (lit κ col) (lit κ row)) g.positions

end SiliconBench.Gpu
