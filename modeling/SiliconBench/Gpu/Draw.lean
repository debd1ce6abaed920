import SiliconBench.Gpu.Hotspot
import SiliconBench.Random.Stream

/-! # Draw — hotspots at random

A seed fixes where the hotspots of a grid start, how they move and how hot they
are. The numbers are drawn property by property: all abscissas first, then all
ordinates, both velocities and the intensities. -/

namespace SiliconBench.Gpu

/-- The greatest velocity of a drawn hotspot on an axis. -/
def maxSpeed : Float := 0.25

/-- The least intensity of a drawn hotspot. -/
def minIntensity : Float := 0.5

/-- The bound on the intensities of drawn hotspots. -/
def maxIntensity : Float := 1.0

/-- Hotspots of given properties; there are as many as the shortest list has. -/
def Hotspot.zip : List Float → List Float → List Float → List Float → List Float →
    List (Hotspot Float)
  | x :: xs, y :: ys, vx :: vxs, vy :: vys, i :: is => ⟨x, y, vx, vy, i⟩ :: zip xs ys vxs vys is
  | _, _, _, _, _ => []

/-- Draws the hotspots of a grid. -/
def drawHotspots (g : Grid) (s : Random.Stream) : List (Hotspot Float) :=
  let n := g.hotspotCount
  let (xs, s) := s.uniform 0.0 g.cols.toFloat n
  let (ys, s) := s.uniform 0.0 g.rows.toFloat n
  let (vxs, s) := s.uniform (-maxSpeed) maxSpeed n
  let (vys, s) := s.uniform (-maxSpeed) maxSpeed n
  let (is, _) := s.uniform minIntensity maxIntensity n
  Hotspot.zip xs ys vxs vys is

/-- The hotspots of a grid for a seed. -/
def hotspotsOfSeed (g : Grid) (seed : Value) : Result Value (List (Hotspot Float)) := do
  return drawHotspots g (← Random.Stream.ofSeed seed)

end SiliconBench.Gpu
