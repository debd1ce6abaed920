import Mathlib.Algebra.Order.Floor.Div
import SiliconBench.Gpu.Outcome
import SiliconBench.Proofs.Gpu.Accepted
import SiliconBench.Proofs.Gpu.Reachable

/-!
# Layout — every core has a place, and a temperature

The grid gives each core a cell of its own, row by row, and has as many rows as
it takes (`Grid.Proper`). A run has a temperature for each of its cores, from its
start on: the cores are heated side by side with their factors, and there is a
factor for each core. So an outcome has one too, whatever the arithmetic.
-/

namespace SiliconBench

namespace Gpu

/-! ## The grid -/

namespace Grid

/-- A grid that has room for its cores, and no row to spare. -/
structure Proper (g : Grid) : Prop where
  cols_pos : 0 < g.cols
  rows_eq : g.rows = g.cells ⌈/⌉ g.cols

theorem ofCores_proper (cores : Int) : (ofCores cores).Proper where
  cols_pos := (Nat.lt_min.mp (side_ofCores_pos cores)).1
  rows_eq := rfl

theorem length_positions (g : Grid) : g.positions.length = g.cells := by
  rw [positions, List.length_map, List.length_range]

theorem getElem?_positions {g : Grid} {core : Nat} (h : core < g.cells) :
    g.positions[core]? = some (g.position core) := by
  rw [positions, List.getElem?_map, List.getElem?_range h, Option.map_some]

/-- No two cores lie in the same cell. -/
theorem positions_nodup (g : Grid) : g.positions.Nodup := by
  refine List.nodup_range.map fun i j hij => ?_
  obtain ⟨hcol, hrow⟩ := Prod.mk.inj hij
  rw [← Nat.div_add_mod' i g.cols, ← Nat.div_add_mod' j g.cols, hcol, hrow]

end Grid

/-- An outcome tells the shape of a grid, and a temperature for each core of it. -/
structure Outcome.LaidOut {α κ : Type} (g : Grid) (o : Outcome α κ) : Prop where
  cells : o.temperatures.length = g.cells
  cols : o.cols = g.cols
  rows : o.rows = g.rows

/-! ## A temperature for each core -/

namespace Run

variable {α κ : Type}

/-- Each core of the grid has a temperature. -/
def Filled (r : Run α κ) : Prop :=
  r.temperatures.length = r.grid.cells

variable [Scalar α]

theorem Filled.outcome {r : Run α κ} (hr : r.Filled) :
    Answers (Outcome.LaidOut r.grid) r.outcome := by
  refine .bind fun f _ => ?_
  repeat' first
    | refine .bind fun _ _ => ?_
    | refine .ite ?_ ?_
  all_goals exact .pure ⟨hr, rfl, rfl⟩

theorem Prepared.filled [PerCore α κ] {workload : Kernel.Workload α} {maxTicks : α}
    {r : Run α κ} (h : r.Prepared workload maxTicks) : r.Filled := by
  obtain ⟨cell, -, htemperatures⟩ := h.temperatures
  rw [Filled, htemperatures, List.length_replicate]

theorem Prepared.proper [PerCore α κ] {workload : Kernel.Workload α} {maxTicks : α}
    {r : Run α κ} (h : r.Prepared workload maxTicks) : r.grid.Proper := by
  obtain ⟨cores, hgrid⟩ := h.grid
  exact hgrid ▸ Grid.ofCores_proper cores

variable [Cell κ]

omit [Scalar α] in
theorem length_powerFactors {exp : κ → κ} {g : Grid} {hs : List (Hotspot κ)} {factors : List κ}
    (h : powerFactors (α := α) exp g hs = .ok factors) : factors.length = g.cells :=
  (length_of_each h).trans g.length_positions

variable [PerCore α κ]

theorem heat_filled (exp : κ → κ) (power : α) (r : Run α κ) (hr : r.Filled) :
    Answers Filled (r.heat exp power) := by
  refine .bind fun factors hfactors => ?_
  repeat refine .bind fun _ _ => ?_
  rename_i temperatures hheated
  have hlength : temperatures.length = r.grid.cells := by
    rw [length_of_eachPair hheated, List.length_map, length_powerFactors hfactors, hr, min_self]
  exact .pure hlength

theorem filled_unbroken (exp : κ → κ) : Unbroken exp (Filled : Run α κ → Prop) where
  work _ hr := .bind fun _ _ => .bind fun _ _ => .pure hr
  move _ hr := hr
  heat power r hr := heat_filled exp power r hr
  notePeak _ hr := .bind fun _ _ => .pure hr
  regulate r hr := by
    refine .bind fun hot _ => .ite ?_ ?_
    · exact .bind fun _ _ => .bind fun _ _ => .pure hr
    · exact .bind fun _ _ => .pure hr
  count _ hr := .bind fun _ _ => .pure hr

/-- **The outcome of a run is laid out on its grid**, in every state of the run. -/
theorem accepted_laidOut {config : Config α} {workload : Kernel.Workload α} {pattern : Value}
    {maxTicks : α} {draw : Grid → Result α (List (Hotspot κ))} {start r : Run α κ} {exp : κ → κ}
    (accepted : prepare config workload pattern maxTicks draw = .ok start)
    (reached : Reachable exp start r) :
    start.grid.Proper ∧ Answers (Outcome.LaidOut start.grid) r.outcome := by
  have hstart := prepare_prepared config workload pattern maxTicks draw start accepted
  have hr := (filled_unbroken exp).reachable hstart.filled reached
  exact ⟨hstart.proper, reached.grid_eq ▸ hr.outcome⟩

end Run

end Gpu

end SiliconBench
