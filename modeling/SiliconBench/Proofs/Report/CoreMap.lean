import SiliconBench.Proofs.Gpu.ClockBand
import SiliconBench.Proofs.Gpu.Layout
import SiliconBench.Proofs.Gpu.Summary
import SiliconBench.Proofs.Report.ThermalMap
import SiliconBench.Report.Gpu

/-!
# CoreMap — the map of a run

The layout of the cores is worked out twice: by the grid, which places them, and by
the map, which cuts their temperatures into rows. The two AGREE whatever the number
of cores (`showsCores_of_laidOut`): the map has the rows of the grid, and each core
stands where the grid has it, so that no two of them are drawn in one place.
-/

namespace SiliconBench.Report

open Scalar SiliconBench.Gpu

/-! ## The grid and the map -/

/-- A map has the shape of a grid, and shows each core where the grid has it. -/
structure ShowsCores {α κ : Type} [Scalar α] [PerCore α κ] (g : Grid) (temperatures : List κ)
    (low high : α) (rows : List String) : Prop where
  height : rows.length = g.rows
  width : ∀ line ∈ rows, line.length = g.cols
  apart : g.positions.Nodup
  drawn : ∀ core col row : Nat, g.positions[core]? = some (col, row) →
    ∃ t span c, temperatures[core]? = some t ∧ sub high low = .ok span ∧
      rampChar low span (PerCore.ofCell t) = .ok c ∧ charAt rows row col = some c
  blank : ∀ col row : Nat, col < g.cols → row < g.rows → (col, row) ∉ g.positions →
    charAt rows row col = some ' '

/-- Where no core lies, the cores have come to an end. -/
theorem cells_le_of_free {g : Grid} {col row : Nat} (hcol : col < g.cols)
    (hfree : (col, row) ∉ g.positions) : g.cells ≤ row * g.cols + col := by
  refine le_of_not_gt fun hlt => hfree ?_
  have hcols : 0 < g.cols := Nat.zero_lt_of_lt hcol
  have hplace : g.position (row * g.cols + col) = (col, row) := by
    have hmod : (row * g.cols + col) % g.cols = col := by
      rw [Nat.mul_add_mod', Nat.mod_eq_of_lt hcol]
    have hdiv : (row * g.cols + col) / g.cols = row := by
      rw [Nat.mul_comm, Nat.mul_add_div hcols, Nat.div_eq_of_lt hcol, Nat.add_zero]
    rw [Grid.position, hmod, hdiv]
  exact hplace ▸ List.mem_of_getElem? (Grid.getElem?_positions hlt)

section

variable {α κ : Type} [Scalar α] [PerCore α κ]

theorem showsCores_of_laidOut {g : Grid} {o : Outcome α κ} {low high : α} {rows : List String}
    (hg : g.Proper) (ho : o.LaidOut g)
    (h : thermalMap (o.temperatures.map PerCore.ofCell) o.cols low high = .ok rows) :
    ShowsCores g o.temperatures low high rows := by
  rw [ho.cols] at h
  have hshows := thermalMap_shows hg.cols_pos h
  have hlength : (o.temperatures.map (PerCore.ofCell (α := α))).length = g.cells :=
    (List.length_map _).trans ho.cells
  have hheight : rows.length = g.rows := by rw [hshows.height, hlength, hg.rows_eq]
  refine ⟨hheight, hshows.width, g.positions_nodup, fun core col row hplace => ?_,
    fun col row hcol hrow hfree => ?_⟩
  · have hcore : core < g.cells :=
      g.length_positions ▸ (List.getElem?_eq_some_iff.mp hplace).1
    rw [Grid.getElem?_positions hcore] at hplace
    cases hplace
    have hlt : core < o.temperatures.length := ho.cells ▸ hcore
    have ht := List.getElem?_eq_getElem hlt
    have hcell : (o.temperatures.map (PerCore.ofCell (α := α)))[core]? =
        some (PerCore.ofCell o.temperatures[core]) := by
      rw [List.getElem?_map, ht, Option.map_some]
    obtain ⟨span, c, hspan, hc, hat⟩ := hshows.drawn core _ hcell
    exact ⟨_, span, c, ht, hspan, hc, hat⟩
  · exact hshows.blank row col (hheight ▸ hrow) hcol
      (hlength.trans_le (cells_le_of_free hcol hfree))

end

/-- The map of a report is the map of the temperatures, in a frame and with a legend. -/
theorem mapLines_eq_ok {o : Outcome Value Float} {lines : List String}
    (h : mapLines o = .ok lines) :
    ∃ legend edge high rows,
      thermalMap (o.temperatures.map Value.real) o.cols o.config.ambient high = .ok rows ∧
      lines = [legend, edge] ++ rows.map (fun row => "    |" ++ row ++ "|") ++ [edge, ""] := by
  obtain ⟨high, _, h⟩ := bind_eq_ok.mp h
  obtain ⟨lowText, _, h⟩ := bind_eq_ok.mp h
  obtain ⟨highText, _, h⟩ := bind_eq_ok.mp h
  obtain ⟨rows, hrows, h⟩ := bind_eq_ok.mp h
  cases h
  exact ⟨_, _, high, rows, hrows, rfl⟩

/-! ## Every map -/

/-- In any state of a run, and in any arithmetic, the map of its outcome shows its cores. -/
theorem accepted_showsCores {α κ : Type} [Scalar α] [Cell κ] [PerCore α κ] {config : Config α}
    {workload : Kernel.Workload α} {pattern : Value} {maxTicks : α}
    {draw : Grid → Result α (List (Hotspot κ))} {exp : κ → κ} {start r : Run α κ}
    {o : Outcome α κ} (accepted : Run.prepare config workload pattern maxTicks draw = .ok start)
    (reached : Run.Reachable exp start r) (ho : r.outcome = .ok o) {low high : α}
    {rows : List String}
    (h : thermalMap (o.temperatures.map PerCore.ofCell) o.cols low high = .ok rows) :
    rows.length = o.rows ∧ ShowsCores start.grid o.temperatures low high rows := by
  obtain ⟨hproper, hlaid⟩ := Run.accepted_laidOut accepted reached
  have hlaid := hlaid o ho
  have hshows := showsCores_of_laidOut hproper hlaid h
  exact ⟨hshows.height.trans hlaid.rows.symm, hshows⟩

/-- **Every core is drawn once, where the grid puts it.** Over the rationals every list of
temperatures has a map of every width, which shows them row by row; the place of a
temperature is one of the ramp, does not fall as it rises, and is the first or the last
where it should be. The outcome of a run, in whatever state and arithmetic, has a map of
the shape of its grid, with each core where the grid has it; over the rationals there is
always one, and the map of a report is such a map. -/
theorem every_core_drawn :
    (∀ (ts : List Rat) (cols : Nat) (low high : Rat), 1 ≤ cols →
      ∃ rows, thermalMap ts cols low high = .ok rows ∧ Shows rows ts cols low high) ∧
    (∀ low high t : Rat, ∃ (place : Nat) (c : Char),
      rampIndex low (high - low) t = .ok (place : Int) ∧ thermalRamp[place]? = some c ∧
      rampChar low (high - low) t = .ok c ∧
      (∀ u, t ≤ u → ∃ above : Nat,
        rampIndex low (high - low) u = .ok (above : Int) ∧ place ≤ above) ∧
      (t ≤ low ∨ high ≤ low → place = 0) ∧
      (low < high → high ≤ t → place + 1 = thermalRamp.length)) ∧
    (∀ {α κ : Type} [Scalar α] [Cell κ] [PerCore α κ] {config : Config α}
        {workload : Kernel.Workload α} {pattern : Value} {maxTicks : α}
        {draw : Grid → Result α (List (Hotspot κ))} {exp : κ → κ} {start r : Run α κ}
        {o : Outcome α κ},
      Run.prepare config workload pattern maxTicks draw = .ok start →
      Run.Reachable exp start r → r.outcome = .ok o →
      ∀ (low high : α) (rows : List String),
        thermalMap (o.temperatures.map PerCore.ofCell) o.cols low high = .ok rows →
        rows.length = o.rows ∧ ShowsCores start.grid o.temperatures low high rows) ∧
    (∀ {config : Config Rat} {workload : Kernel.Workload Rat} {pattern : Value} {maxTicks : Rat}
        {draw : Grid → Result Rat (List (Hotspot Rat))} {exp : Rat → Rat} {start r : Run Rat Rat},
      Run.prepare config workload pattern maxTicks draw = .ok start →
      Run.Reachable exp start r →
      ∃ o, r.outcome = .ok o ∧ ∀ low high : Rat, ∃ rows,
        thermalMap (o.temperatures.map PerCore.ofCell) o.cols low high = .ok rows) ∧
    ∀ {config : Config Value} {workload : Kernel.Workload Value} {pattern : Value}
        {maxTicks : Value} {draw : Grid → Result Value (List (Hotspot Float))}
        {exp : Float → Float} {start r : Run Value Float} {o : Outcome Value Float}
        {lines : List String},
      Run.prepare config workload pattern maxTicks draw = .ok start →
      Run.Reachable exp start r → r.outcome = .ok o → mapLines o = .ok lines →
      ∃ (legend edge : String) (high : Value) (rows : List String),
        lines = [legend, edge] ++ rows.map (fun row => "    |" ++ row ++ "|") ++ [edge, ""] ∧
        rows.length = o.rows ∧
        ShowsCores start.grid o.temperatures o.config.ambient high rows := by
  refine ⟨fun ts cols low high hcols => ?_, fun low high t => ?_, ?_, ?_, ?_⟩
  · have hmap := thermalMap_rat ts hcols low high
    exact ⟨_, hmap, thermalMap_shows hcols hmap⟩
  · refine ⟨placeOf low high t, charOf low high t, rampIndex_rat .., getElem?_placeOf,
      rampChar_rat .., fun u h => ⟨_, rampIndex_rat .., placeOf_mono h⟩, placeOf_eq_zero,
      fun hroom h => ?_⟩
    rw [placeOf_eq_last hroom h]
    rfl
  · intro α κ _ _ _ config workload pattern maxTicks draw exp start r o accepted reached ho
    exact fun low high rows h => accepted_showsCores accepted reached ho h
  · intro config workload pattern maxTicks draw exp start r accepted reached
    obtain ⟨hchecked, -, -⟩ := (Run.accepted_fresh accepted).of_reachable reached
    obtain ⟨hproper, hlaid⟩ := Run.accepted_laidOut accepted reached
    have hcols : 0 < r.report.cols := (hlaid _ hchecked.outcome_rat).cols ▸ hproper.cols_pos
    exact ⟨r.report, hchecked.outcome_rat, fun low high => ⟨_, thermalMap_rat _ hcols low high⟩⟩
  · intro config workload pattern maxTicks draw exp start r o lines accepted reached ho h
    obtain ⟨legend, edge, high, rows, hrows, hlines⟩ := mapLines_eq_ok h
    exact ⟨legend, edge, high, rows, hlines, accepted_showsCores accepted reached ho hrows⟩

/-- Three cores, which a grid of two columns leaves a place beside. -/
def threeCores : Config Value :=
  { Config.preset with cores := .whole 3 }

/-- A kernel of seventy million operations, in whole numbers. -/
def wholeKernel : Kernel.Workload Value :=
  { name := .text "whole", ops := .whole 1, data := .whole 8, items := .whole 70000000,
    locality := .whole 1, category := .text "custom", intensity := .text "", access := .text "",
    applications := .text "" }

/-- The kernel on the three cores, with nothing to heat them. -/
def threeRun : Result Value (Run Value Float) :=
  Run.prepare threeCores wholeKernel (.text "strided") (.whole 3) fun _ => .ok []

/-- The third of three temperatures is the first of the second row, and has a blank beside
it; the one core that always throttles has a map, and so has a report on three cores. -/
theorem every_core_drawn_threeRun :
    (∃ rows, thermalMap ([20, 30, 40] : List Rat) 2 25 35 = .ok rows ∧ rows.length = 2 ∧
      charAt rows 1 0 = some '@' ∧ charAt rows 1 1 = some ' ') ∧
    (Run.prepare hotConfig shortKernel (.text "strided") 3 (fun _ => .ok [stillSpot]) =
        .ok hotRun ∧
      ∃ o rows, hotRun.outcome = .ok o ∧
        thermalMap (o.temperatures.map PerCore.ofCell) o.cols (20 : Rat) 25 = .ok rows ∧
        rows.length = o.rows ∧ ShowsCores hotRun.grid o.temperatures (20 : Rat) 25 rows) ∧
    ∃ start o lines, threeRun = .ok start ∧ start.outcome = .ok o ∧ mapLines o = .ok lines ∧
      ∃ high rows, rows.length = o.rows ∧
        ShowsCores start.grid o.temperatures o.config.ambient high rows := by
  obtain ⟨hmap, -, hruns, hexact, hreport⟩ := every_core_drawn
  refine ⟨?_, ⟨prepare_hotRun, ?_⟩, ?_⟩
  · obtain ⟨rows, hrows, hshows⟩ := hmap [20, 30, 40] 2 25 35 (by decide)
    have hheight : rows.length = 2 := hshows.height
    obtain ⟨span, c, hspan, hc, hat⟩ := hshows.drawn 2 40 rfl
    cases hspan
    have hhot : charOf 25 35 40 = '@' := by
      rw [charOf, placeOf_eq_last (by norm_num) (by norm_num)]
      rfl
    have hchar : c = '@' := (Except.ok.inj (hc.symm.trans (rampChar_rat 25 35 40))).trans hhot
    exact ⟨rows, hrows, hheight, hchar ▸ hat,
      hshows.blank 1 1 (by omega) (by decide) (by decide)⟩
  · have reached : Run.Reachable decay hotRun hotRun := .start
    obtain ⟨o, ho, hall⟩ := hexact prepare_hotRun reached
    obtain ⟨rows, hrows⟩ := hall 20 25
    obtain ⟨hheight, hshows⟩ := hruns prepare_hotRun reached ho _ _ _ hrows
    exact ⟨o, rows, ho, hrows, hheight, hshows⟩
  · obtain ⟨lines, hlines⟩ : ∃ lines, (threeRun >>= fun start => start.outcome >>= mapLines) =
        .ok lines := exists_ok_of_toBool (by decide +kernel)
    obtain ⟨start, hstart, h⟩ := bind_eq_ok.mp hlines
    obtain ⟨o, ho, hlines⟩ := bind_eq_ok.mp h
    have reached : Run.Reachable id start start := .start
    obtain ⟨-, -, high, rows, -, hheight, hshows⟩ := hreport hstart reached ho hlines
    exact ⟨start, o, lines, hstart, ho, hlines, high, rows, hheight, hshows⟩

end SiliconBench.Report
