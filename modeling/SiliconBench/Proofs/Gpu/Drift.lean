import SiliconBench.Proofs.Gpu.ClockBand
import Mathlib.Data.List.Forall2
import Mathlib.Order.Interval.Set.Basic

/-!
# Drift — how far a hotspot gets

A hotspot that has left the grid is NOT put back. It turns round where it is, and would
turn round again and again if the next step did not lead inside. It does: that step goes
back over the way of the one before, which had started inside. So on each axis a hotspot
is inside or ONE step away from it, whatever its speed. This is what a tick preserves
(`Track.Kept.advance`), and how far out a hotspot gets, for how long, and where it is
heading then all follow from it.
-/

namespace SiliconBench.Gpu

/-! ## One axis -/

/-- Where a hotspot is on an axis, and how it moves there. -/
structure Track where
  position : Rat
  velocity : Rat
  deriving DecidableEq

namespace Track

variable {size speed : Rat} {t : Track}

/-- One tick on an axis of length `size`. -/
def advance (size : Rat) (t : Track) : Track :=
  ⟨t.position + t.velocity, Hotspot.reflect size (t.position + t.velocity) t.velocity⟩

/-- The hotspot is inside, or the step to come leads inside. -/
structure Kept (size speed : Rat) (t : Track) : Prop where
  speed_eq : |t.velocity| = speed
  inside : t.position ∈ Set.Icc 0 size ∨ (t.advance size).position ∈ Set.Icc 0 size

/-- Where a hotspot of a given speed can be on an axis: at most one step outside, and
then on its way back. -/
structure Stays (size speed : Rat) (t : Track) : Prop where
  speed_eq : |t.velocity| = speed
  position_mem : t.position ∈ Set.Icc (-speed) (size + speed)
  forward_of_before : t.position < 0 → 0 < t.velocity
  back_of_beyond : size < t.position → t.velocity < 0

theorem reflect_rat (size p v : Rat) :
    Hotspot.reflect size p v = if p ∈ Set.Icc 0 size then v else -v := by
  by_cases hp : p ∈ Set.Icc 0 size
  · simp [Hotspot.reflect, Cell.lt, hp, hp.1.not_gt, hp.2.not_gt]
  · have hout : p < 0 ∨ size < p := by
      by_contra hin
      rw [not_or, not_lt, not_lt] at hin
      exact hp hin
    rw [if_neg hp]
    rcases hout with hbefore | hbeyond
    · simp [Hotspot.reflect, Cell.lt, hbefore]
    · simp [Hotspot.reflect, Cell.lt, hbeyond]

/-- **A tick keeps a hotspot within one step of the axis.** -/
theorem Kept.advance (h : t.Kept size speed) : (t.advance size).Kept size speed := by
  have hvelocity : (t.advance size).velocity =
      if (t.advance size).position ∈ Set.Icc 0 size then t.velocity else -t.velocity :=
    reflect_rat ..
  by_cases hin : (t.advance size).position ∈ Set.Icc 0 size
  · rw [if_pos hin] at hvelocity
    exact ⟨hvelocity ▸ h.speed_eq, .inl hin⟩
  · -- it was inside before, and goes back there
    rw [if_neg hin] at hvelocity
    have hback : ((t.advance size).advance size).position = t.position := by
      show t.position + t.velocity + (t.advance size).velocity = t.position
      rw [hvelocity, add_neg_cancel_right]
    refine ⟨by rw [hvelocity, abs_neg, h.speed_eq], .inr ?_⟩
    rw [hback]
    exact h.inside.resolve_right hin

theorem Kept.stays (h : t.Kept size speed) : t.Stays size speed := by
  have hspeed : -speed ≤ t.velocity ∧ t.velocity ≤ speed := abs_le.mp h.speed_eq.le
  have hnonneg : 0 ≤ speed := h.speed_eq ▸ abs_nonneg _
  rcases h.inside with ⟨hlow, hhigh⟩ | ⟨hlow, hhigh⟩
  · refine ⟨h.speed_eq, ⟨by linarith, by linarith⟩, fun hbefore => ?_, fun hbeyond => ?_⟩
    · exact absurd hlow hbefore.not_ge
    · exact absurd hhigh hbeyond.not_ge
  · change 0 ≤ t.position + t.velocity at hlow
    change t.position + t.velocity ≤ size at hhigh
    refine ⟨h.speed_eq, ⟨by linarith, by linarith⟩, fun hbefore => ?_, fun hbeyond => ?_⟩
    · linarith
    · linarith

end Track

/-! ## A hotspot -/

namespace Hotspot

/-- The hotspot on the axis of the columns. -/
def alongX (h : Hotspot Rat) : Track := ⟨h.x, h.vx⟩

/-- The hotspot on the axis of the rows. -/
def alongY (h : Hotspot Rat) : Track := ⟨h.y, h.vy⟩

theorem advance_alongX (g : Grid) (h : Hotspot Rat) :
    (h.advance g).alongX = h.alongX.advance g.cols := rfl

theorem advance_alongY (g : Grid) (h : Hotspot Rat) :
    (h.advance g).alongY = h.alongY.advance g.rows := rfl

/-- The hotspot is on the grid. -/
structure Within (g : Grid) (h : Hotspot Rat) : Prop where
  x : h.x ∈ Set.Icc (0 : Rat) g.cols
  y : h.y ∈ Set.Icc (0 : Rat) g.rows

/-- On each axis the hotspot is within one step of the grid, as fast as at the start,
and it is as hot as at the start. -/
structure Kept (g : Grid) (start h : Hotspot Rat) : Prop where
  x : h.alongX.Kept g.cols |start.vx|
  y : h.alongY.Kept g.rows |start.vy|
  intensity_eq : h.intensity = start.intensity

/-- Where a hotspot that started on the grid can be, and what it has kept. -/
structure Stays (g : Grid) (start h : Hotspot Rat) : Prop where
  x : h.alongX.Stays g.cols |start.vx|
  y : h.alongY.Stays g.rows |start.vy|
  intensity_eq : h.intensity = start.intensity

/-- A hotspot before and after a tick: on no axis is it outside both times. -/
structure Returns (g : Grid) (h next : Hotspot Rat) : Prop where
  x : h.x ∈ Set.Icc (0 : Rat) g.cols ∨ next.x ∈ Set.Icc (0 : Rat) g.cols
  y : h.y ∈ Set.Icc (0 : Rat) g.rows ∨ next.y ∈ Set.Icc (0 : Rat) g.rows

variable {g : Grid} {start h : Hotspot Rat}

theorem Within.kept (hin : h.Within g) : Kept g h h :=
  ⟨⟨rfl, .inl hin.x⟩, ⟨rfl, .inl hin.y⟩, rfl⟩

theorem Kept.advance (hk : Kept g start h) : Kept g start (h.advance g) where
  x := by
    rw [advance_alongX]
    exact hk.x.advance
  y := by
    rw [advance_alongY]
    exact hk.y.advance
  intensity_eq := hk.intensity_eq

theorem Kept.stays (hk : Kept g start h) : Stays g start h :=
  ⟨hk.x.stays, hk.y.stays, hk.intensity_eq⟩

theorem Kept.returns (hk : Kept g start h) : Returns g h (h.advance g) :=
  ⟨hk.x.inside, hk.y.inside⟩

end Hotspot

/-! ## All hotspots of a grid -/

open Hotspot

/-- The hotspots of a grid after `n` ticks. -/
def drifted (g : Grid) (hs : List (Hotspot Rat)) (n : Nat) : List (Hotspot Rat) :=
  (List.map (Hotspot.advance g))^[n] hs

variable {g : Grid} {hs moved : List (Hotspot Rat)}

theorem drifted_succ (g : Grid) (hs : List (Hotspot Rat)) (n : Nat) :
    drifted g hs (n + 1) = (drifted g hs n).map (Hotspot.advance g) :=
  Function.iterate_succ_apply' ..

theorem kept_of_within (inside : ∀ h ∈ hs, h.Within g) : List.Forall₂ (Kept g) hs hs :=
  List.forall₂_same.mpr fun h hh => (inside h hh).kept

theorem kept_advance (h : List.Forall₂ (Kept g) hs moved) :
    List.Forall₂ (Kept g) hs (moved.map (Hotspot.advance g)) :=
  List.forall₂_map_right_iff.mpr (h.imp fun _ _ hk => hk.advance)

theorem kept_drifted (inside : ∀ h ∈ hs, h.Within g) (n : Nat) :
    List.Forall₂ (Kept g) hs (drifted g hs n) := by
  induction n with
  | zero => exact kept_of_within inside
  | succ n ih =>
    rw [drifted_succ]
    exact kept_advance ih

theorem returns_of_kept (h : List.Forall₂ (Kept g) hs moved) :
    List.Forall₂ (Returns g) moved (moved.map (Hotspot.advance g)) := by
  induction h with
  | nil => exact .nil
  | cons hk _ ih => exact .cons hk.returns ih

theorem stays_drifted (inside : ∀ h ∈ hs, h.Within g) (n : Nat) :
    List.Forall₂ (Stays g) hs (drifted g hs n) :=
  (kept_drifted inside n).imp fun _ _ hk => hk.stays

theorem returns_drifted (inside : ∀ h ∈ hs, h.Within g) (n : Nat) :
    List.Forall₂ (Returns g) (drifted g hs n) (drifted g hs (n + 1)) := by
  rw [drifted_succ]
  exact returns_of_kept (kept_drifted inside n)

/-! ## Every state of an accepted run -/

/-- Ticks move the hotspots of a run over its grid, and do nothing else to them. -/
theorem Run.after_hotspots (exp : Rat → Rat) (r : Run Rat Rat) (n : Nat) :
    (r.after exp n).hotspots = drifted r.grid r.hotspots n := by
  induction n with
  | zero => rfl
  | succ n ih =>
    have hgrid : (r.after exp n).grid = r.grid := congrArg Task.grid (Run.after_task exp r n)
    show (r.after exp n).hotspots.map (Hotspot.advance (r.after exp n).grid) = _
    rw [ih, hgrid, drifted_succ]

/-- **Hotspots stay within one step of the grid.** On any grid, after any number of ticks,
a hotspot that started inside is as hot and on each axis as fast as it was; it is at most
one step outside on an axis, is heading back then, and was and will be inside on that axis
a tick before and after. So it is in every state of an accepted run. -/
theorem hotspots_stay :
    (∀ (g : Grid) (hs : List (Hotspot Rat)), (∀ h ∈ hs, h.Within g) → ∀ n,
      List.Forall₂ (Stays g) hs (drifted g hs n) ∧
        List.Forall₂ (Returns g) (drifted g hs n) (drifted g hs (n + 1))) ∧
    ∀ (config : Config Rat) (workload : Kernel.Workload Rat) (pattern : Value) (maxTicks : Rat)
        (draw : Grid → Result Rat (List (Hotspot Rat))) (exp : Rat → Rat) (start r : Run Rat Rat),
      Run.prepare config workload pattern maxTicks draw = .ok start →
      (∀ h ∈ start.hotspots, h.Within start.grid) → Run.Reachable exp start r →
        List.Forall₂ (Stays start.grid) start.hotspots r.hotspots ∧
          ∀ next, r.step exp = .ok next →
            List.Forall₂ (Returns start.grid) r.hotspots next.hotspots := by
  constructor
  · exact fun g hs inside n => ⟨stays_drifted inside n, returns_drifted inside n⟩
  · intro config workload pattern maxTicks draw exp start r accepted inside reached
    have hchecked := (Run.accepted_fresh accepted).checked
    obtain ⟨n, rfl, -⟩ := hchecked.exists_after reached
    rw [Run.after_hotspots]
    refine ⟨stays_drifted inside n, fun next hstep => ?_⟩
    rw [(hchecked.after exp n).step_rat] at hstep
    split at hstep
    · cases hstep
    · cases hstep
      show List.Forall₂ _ _ (start.after exp (n + 1)).hotspots
      rw [Run.after_hotspots]
      exact returns_drifted inside n

/-- A hotspot that is about to leave the grid of one core at a corner. -/
def leavingSpot : Hotspot Rat := ⟨9 / 10, 1 / 10, 1 / 4, -1 / 4, 1⟩

/-- The hot core with that hotspot. -/
def leavingRun : Run Rat Rat :=
  Run.initial hotConfig shortKernel .strided 3 [leavingSpot]

/-- It leaves on both axes at once, turns round on both, and is inside after that. -/
theorem hotspots_stay_leavingRun :
    (drifted leavingRun.grid [leavingSpot] 1).map alongX = [⟨23 / 20, -1 / 4⟩] ∧
      (drifted leavingRun.grid [leavingSpot] 1).map alongY = [⟨-3 / 20, 1 / 4⟩] ∧
      List.Forall₂ (Returns leavingRun.grid) (drifted leavingRun.grid [leavingSpot] 1)
        (drifted leavingRun.grid [leavingSpot] 2) ∧
      Run.Reachable decay leavingRun (leavingRun.next decay) ∧
      List.Forall₂ (Stays leavingRun.grid) [leavingSpot] (leavingRun.next decay).hotspots := by
  have accepted : Run.prepare hotConfig shortKernel (.text "strided") 3
      (fun _ => .ok [leavingSpot]) = .ok leavingRun :=
    Run.prepare_eq_ok.mpr ⟨by norm_num, hotConfig_valid, shortKernel_valid,
      Run.hotRun_checked.stable, .strided, _, rfl, rfl, rfl⟩
  have inside : ∀ h ∈ [leavingSpot], h.Within leavingRun.grid := by
    intro h hh
    obtain rfl : h = leavingSpot := List.mem_singleton.mp hh
    constructor <;> decide +kernel
  have reached : Run.Reachable decay leavingRun (leavingRun.next decay) :=
    .ticked .start ((Run.accepted_fresh accepted).checked.step_next (by decide +kernel) decay)
  exact ⟨by decide +kernel, by decide +kernel, (hotspots_stay.1 _ _ inside 1).2, reached,
    (hotspots_stay.2 _ _ _ _ _ _ _ _ accepted inside reached).1⟩

end SiliconBench.Gpu
