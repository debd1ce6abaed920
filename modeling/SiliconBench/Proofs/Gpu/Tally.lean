import SiliconBench.Proofs.Gpu.Driving

/-!
# Tally — the outcome of a run is the summary of its snapshots

A run keeps four running figures, and a tick changes them at different places:
the peak and the throttled time before the clock is set for the next tick, the
number of ticks and the sum of the clocks after it. A host that keeps no figures
but only looks at the snapshots can work all of them out, at any time: what a
snapshot shows is what its own tick put into each figure. One invariant holds all
of them together, because none of them is about the run alone.
-/

namespace SiliconBench.Gpu

open Scalar

/-- What a snapshot shows is consistent in itself: the greatest temperature is
that of a core, and the tick was throttled exactly if that was above the limit. -/
structure Snapshot.Consistent (config : Config Rat) (s : Snapshot Rat Rat) : Prop where
  maxTemp_greatest : IsGreatest {t | t ∈ s.temperatures} s.maxTemp
  throttling_iff : s.throttling = true ↔ config.throttleTemp < s.maxTemp

/-- The temperatures that were shown last; ambient everywhere before the first tick. -/
def lastTemperatures (config : Config Rat) (grid : Grid) (shown : List (Snapshot Rat Rat)) :
    List Rat :=
  match shown.getLast? with
  | some s => s.temperatures
  | none => List.replicate grid.cells config.ambient

/-- An outcome is the summary of snapshots. -/
structure Outcome.Summarizes (config : Config Rat) (grid : Grid)
    (shown : List (Snapshot Rat Rat)) (o : Outcome Rat Rat) : Prop where
  ticks : o.ticks = shown.length
  kernelTime : o.figures.kernelTime = 20 * shown.length
  peakTemp : o.peakTemp = (shown.map Snapshot.maxTemp).foldl max config.ambient
  throttleTime : o.throttleTime = 20 * shown.countP Snapshot.throttling
  averageClock : o.figures.averageClock =
    if shown = [] then 0 else (shown.map Snapshot.clock).sum / shown.length
  temperatures : o.temperatures = lastTemperatures config grid shown

namespace Run

variable {exp : Rat → Rat} {start r : Run Rat Rat} {shown : List (Snapshot Rat Rat)}

/-! ## The invariant -/

/-- What a run keeps is what can be told from the snapshots shown so far. -/
structure Tallied (shown : List (Snapshot Rat Rat)) (r : Run Rat Rat) : Prop where
  tick_eq : r.tick = shown.length
  peak_eq : r.peak = (shown.map Snapshot.maxTemp).foldl max r.config.ambient
  throttleTime_eq : r.throttleTime = 20 * shown.countP Snapshot.throttling
  clockSum_eq : r.clockSum = (shown.map Snapshot.clock).sum
  temperatures_eq : r.temperatures = lastTemperatures r.config r.grid shown
  cells_eq : r.temperatures.length = r.grid.cells
  cells_pos : 0 < r.grid.cells
  consistent : ∀ s ∈ shown, s.Consistent r.config

theorem initial_tallied (config : Config Rat) (workload : Kernel.Workload Rat)
    (pattern : Pattern) (maxTicks : Rat) (hotspots : List (Hotspot Rat)) :
    Tallied [] (initial config workload pattern maxTicks hotspots) where
  tick_eq := rfl
  peak_eq := rfl
  throttleTime_eq := by simp [initial]
  clockSum_eq := rfl
  temperatures_eq := rfl
  cells_eq := List.length_replicate
  cells_pos := lt_of_lt_of_le one_pos (le_max_left _ _)
  consistent := fun s hs => absurd hs List.not_mem_nil

/-- The snapshot after a tick is consistent wherever there is a core to be hot. -/
theorem seen_next_consistent (exp : Rat → Rat) (r : Run Rat Rat)
    (hcells : r.temperatures.length = r.grid.cells) (hpos : 0 < r.grid.cells) :
    (r.next exp).seen.Consistent r.config where
  maxTemp_greatest := by
    have hlength := length_heated hcells exp
    have hne : r.heated exp ≠ [] := List.ne_nil_of_length_pos (hlength ▸ hpos)
    exact isGreatest_greatest hne
  throttling_iff := decide_eq_true_iff

/-- **A tick adds to every figure what its snapshot shows.** -/
theorem Tallied.next (hr : Tallied shown r) (exp : Rat → Rat) :
    Tallied (shown ++ [(r.next exp).seen]) (r.next exp) where
  tick_eq := by
    rw [List.length_append, ← hr.tick_eq]
    rfl
  peak_eq := by
    rw [List.map_append, List.foldl_append]
    show max r.peak _ = max (List.foldl max r.config.ambient _) _
    rw [hr.peak_eq]
    rfl
  throttleTime_eq := by
    rw [List.countP_append, List.countP_singleton, Nat.cast_add, mul_add, ← hr.throttleTime_eq]
    by_cases hot : r.config.throttleTemp < Cell.greatest (r.heated exp)
    · simp [Run.next, seen, hot]
    · simp [Run.next, seen, hot]
  clockSum_eq := by
    rw [List.map_append, List.sum_append, ← hr.clockSum_eq, List.map_singleton, List.sum_singleton]
    rfl
  temperatures_eq := by
    rw [lastTemperatures, List.getLast?_concat]
    rfl
  cells_eq := length_heated hr.cells_eq exp
  cells_pos := hr.cells_pos
  consistent := fun s hs => by
    rcases List.mem_append.mp hs with hold | hnew
    · exact hr.consistent s hold
    · obtain rfl := List.mem_singleton.mp hnew
      exact seen_next_consistent exp r hr.cells_eq hr.cells_pos

/-- After so many ticks every figure is what their snapshots show. -/
theorem Tallied.after (hstart : Tallied [] start) (exp : Rat → Rat) (n : Nat) :
    Tallied (start.shows exp n) (start.after exp n) := by
  induction n with
  | zero => exact hstart
  | succ n ih =>
    rw [shows_concat]
    exact ih.next exp

theorem Tallied.summarizes (hr : Tallied shown r) :
    r.report.Summarizes r.config r.grid shown where
  ticks := hr.tick_eq
  kernelTime := by
    show (r.tick : Rat) * 20 = _
    rw [hr.tick_eq, mul_comm]
  peakTemp := hr.peak_eq
  throttleTime := hr.throttleTime_eq
  averageClock := by
    show r.meanClock = _
    rw [meanClock, hr.tick_eq, hr.clockSum_eq]
    simp only [List.length_eq_zero_iff]
  temperatures := hr.temperatures_eq

/-! ## Every accepted run -/

section

variable {config : Config Rat} {workload : Kernel.Workload Rat} {pattern : Value} {maxTicks : Rat}
  {draw : Grid → Result Rat (List (Hotspot Rat))}

/-- **The outcome of an accepted run is the summary of its snapshots**, when it is
driven to its end and at any time before, and every snapshot is consistent. -/
theorem outcome_summarizes (accepted : prepare config workload pattern maxTicks draw = .ok start)
    (exp : Rat → Rat) :
    (∃ shown last, start.ticks exp = .ok (shown, last) ∧ last.isDone = .ok true ∧
      Watched exp start shown.toList last) ∧
    ∀ shown r, Watched exp start shown r →
      ∃ o, r.outcome = .ok o ∧ o.Summarizes config start.grid shown ∧
        ∀ s ∈ shown, s.Consistent config := by
  have hstart := accepted_fresh accepted
  have h := hstart.checked
  constructor
  · obtain ⟨n, hl⟩ := exists_lasts exp start
    exact ⟨_, _, h.ticks_rat hl, isDone_eq_true_iff.mpr hl.ended, h.watched_shows hl.going⟩
  · intro shown r hw
    have hempty : Tallied [] start := by
      obtain ⟨-, -, -, -, p, hotspots, -, -, rfl⟩ := prepare_eq_ok.mp accepted
      exact initial_tallied ..
    obtain ⟨hshown, hafter, -⟩ := h.eq_shows_of_watched hw
    have hr := hempty.after exp shown.length
    have htask := after_task exp start shown.length
    rw [← hshown, ← hafter] at hr
    rw [← hafter] at htask
    have hconfig : r.config = config := (congrArg Task.config htask).trans hstart.config_eq
    have hgrid : r.grid = start.grid := congrArg Task.grid htask
    rw [← hconfig, ← hgrid]
    exact ⟨r.report, (h.congr htask).outcome_rat, hr.summarizes, hr.consistent⟩

/-- A run all of whose three ticks are throttled. -/
theorem outcome_summarizes_hotRun :
    prepare hotConfig shortKernel (.text "strided") 3 (fun _ => .ok [stillSpot]) = .ok hotRun ∧
      Watched decay hotRun (hotRun.shows decay 3) (hotRun.after decay 3) ∧
      ∃ o, (hotRun.after decay 3).outcome = .ok o ∧ o.ticks = 3 ∧ o.figures.kernelTime = 60 ∧
        o.throttleTime = 60 ∧ ∀ s ∈ hotRun.shows decay 3, s.Consistent hotConfig := by
  have watched : Watched decay hotRun (hotRun.shows decay 3) (hotRun.after decay 3) :=
    hotRun_checked.watched_shows hotRun_lasts.going
  obtain ⟨o, ho, hsum, hconsistent⟩ := (outcome_summarizes prepare_hotRun decay).2 _ _ watched
  have hthrottled : (hotRun.shows decay 3).countP Snapshot.throttling = 3 := by decide +kernel
  refine ⟨prepare_hotRun, watched, o, ho, hsum.ticks, ?_, ?_, hconsistent⟩
  · rw [hsum.kernelTime, length_shows]
    norm_num
  · rw [hsum.throttleTime, hthrottled]
    norm_num

end

end Run

end SiliconBench.Gpu
