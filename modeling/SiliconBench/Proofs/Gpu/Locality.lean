import SiliconBench.Proofs.Gpu.Faults
import SiliconBench.Proofs.Gpu.WorkTime

/-!
# Locality — friendlier access, up to the cap

A random walk never hits more often than a regular one. Between the regular walks there is
a CAP: a sequential walk hits up to a fifth more often than a strided one, but never more
often than 995 times in a thousand. A strided walk has no cap. So a kernel of a locality above
the cap is BETTER OFF strided, by half a percent at most (`rated_hitRateOf`).

The pattern of a run is looked at when the run is summed up, and nowhere else. Runs that
differ in their pattern alone go through the same states, and their memory times are ordered
as their hit rates are, the other way round (`Checked.memoryMillis_le_iff`): a miss is the only
thing they may have to wait for longer.
-/

namespace SiliconBench

open Scalar

/-- The word for a pattern names it. -/
theorem Pattern.parse_word {α : Type} (p : Pattern) :
    (Pattern.parse (.text p.word) : Result α Pattern) = .ok p := by
  cases p <;> rfl

namespace Gpu

/-! ## Hit rates -/

/-- How the three walks compare in how often they hit, for a kernel of the given locality. -/
structure Rated (locality : Rat) (rate : Pattern → Rat) : Prop where
  random_nonneg : 0 ≤ rate .random
  random_le_strided : rate .random ≤ rate .strided
  random_le_sequential : rate .random ≤ rate .sequential
  strided_le_one : rate .strided ≤ 1
  sequential_le_cap : rate .sequential ≤ 0.995
  strided_le_sequential_iff : rate .strided ≤ rate .sequential ↔ locality ≤ 0.995
  strided_sub_sequential_le : rate .strided - rate .sequential ≤ 0.005

theorem rated_hitRateOf {locality : Rat} (hlow : 0 ≤ locality) (hhigh : locality ≤ 1) :
    Rated locality (hitRateOf locality) where
  random_nonneg := by
    show 0 ≤ locality * 0.4
    linarith
  random_le_strided := by
    show locality * 0.4 ≤ locality
    linarith
  random_le_sequential := by
    show locality * 0.4 ≤ min 0.995 (locality * 1.2)
    exact le_min (by linarith) (by linarith)
  strided_le_one := hhigh
  sequential_le_cap := min_le_left _ _
  strided_le_sequential_iff := by
    show locality ≤ min 0.995 (locality * 1.2) ↔ locality ≤ 0.995
    have hboost : locality ≤ locality * 1.2 := by linarith
    rw [le_min_iff, and_iff_left hboost]
  strided_sub_sequential_le := by
    show locality - min 0.995 (locality * 1.2) ≤ 0.005
    have hloss : locality - 0.005 ≤ min 0.995 (locality * 1.2) :=
      le_min (by linarith) (by linarith)
    linarith

namespace Run

/-! ## One run under several patterns -/

/-- The run, with its memory walked in another way. -/
def walking (p : Pattern) (r : Run Rat Rat) : Run Rat Rat :=
  { r with pattern := p }

variable {exp : Rat → Rat} {r : Run Rat Rat} {n : Nat}

theorem after_walking (exp : Rat → Rat) (p : Pattern) (r : Run Rat Rat) (n : Nat) :
    (r.walking p).after exp n = (r.after exp n).walking p := by
  induction n with
  | zero => rfl
  | succ n ih =>
    rw [after, ih]
    rfl

theorem Checked.walking (h : r.Checked) (p : Pattern) : (r.walking p).Checked :=
  ⟨h.config, h.workload, h.budget, h.stable, h.requiredOps, h.side_pos⟩

theorem Lasts.walking (h : Lasts exp r n) (p : Pattern) : Lasts exp (r.walking p) n where
  going := fun k hk => by
    rw [after_walking]
    exact h.going k hk
  ended := by
    rw [after_walking]
    exact h.ended

/-- No pattern is seen in a snapshot. -/
theorem shows_walking (exp : Rat → Rat) (p : Pattern) (r : Run Rat Rat) (n : Nat) :
    (r.walking p).shows exp n = r.shows exp n := by
  rw [shows, shows, trail, trail, List.map_map, List.map_map]
  refine List.map_congr_left fun k _ => ?_
  rw [Function.comp_apply, Function.comp_apply, after_walking]
  rfl

/-! ## Memory time -/

/-- Milliseconds that the bytes take. -/
def transferMillis (r : Run Rat Rat) : Rat :=
  r.bytes / (r.config.bandwidth * 1000000000) * 1000

/-- What a miss costs more than a hit is the latency of the cache, so the order of the hit
rates decides, where there is a latency and a clock to wait at. -/
theorem Checked.memoryMillis_le_iff (h : r.Checked) (hr : r.InBand) (p q : Pattern) :
    (r.walking p).memoryMillis ≤ (r.walking q).memoryMillis ↔
      hitRateOf r.workload.locality q ≤ hitRateOf r.workload.locality p ∨
        r.config.cacheLatency = 0 ∨ r.tick = 0 := by
  by_cases htick : r.tick = 0
  · -- without a tick there is no clock, and no miss is waited for
    have hmean : r.meanClock = 0 := if_pos htick
    have hmillis (p : Pattern) : (r.walking p).memoryMillis = r.transferMillis := by
      show r.transferMillis + (if 0 < r.meanClock then _ else 0) = _
      rw [hmean, if_neg (lt_irrefl 0), add_zero]
    rw [hmillis, hmillis]
    exact iff_of_true le_rfl (.inr (.inr htick))
  · have hmean : 0 < r.meanClock := h.meanClock_pos hr (Nat.one_le_iff_ne_zero.mpr htick)
    have hgiga : 0 < r.meanClock * 1000000000 := mul_pos hmean (by norm_num)
    have hmillis (p : Pattern) : (r.walking p).memoryMillis = r.transferMillis +
        r.config.cacheLatency * (1 - hitRateOf r.workload.locality p) /
          (r.meanClock * 1000000000) * 1000 := by
      show r.transferMillis + (if 0 < r.meanClock then _ else 0) = _
      rw [if_pos hmean]
      rfl
    rw [hmillis, hmillis, add_le_add_iff_left, mul_le_mul_iff_left₀ (by norm_num),
      div_le_div_iff_of_pos_right hgiga]
    rcases h.config.cacheLatency_nonneg.eq_or_lt with hnone | hsome
    · simp [← hnone]
    · rw [mul_le_mul_iff_right₀ hsome, sub_le_sub_iff_left]
      simp [hsome.ne', htick]

/-- How the three walks of a kernel compare in what they wait for memory, after so many ticks. -/
structure Waits (locality latency : Rat) (tick : Nat) (time : Pattern → Rat) : Prop where
  sequential_le_random : time .sequential ≤ time .random
  strided_le_random : time .strided ≤ time .random
  sequential_le_strided_iff :
    time .sequential ≤ time .strided ↔ locality ≤ 0.995 ∨ latency = 0 ∨ tick = 0

theorem Checked.waits (h : r.Checked) (hr : r.InBand) :
    Waits r.workload.locality r.config.cacheLatency r.tick fun p => (r.walking p).memoryMillis := by
  have hrated := rated_hitRateOf h.workload.locality_nonneg h.workload.locality_le_one
  refine ⟨?_, ?_, ?_⟩
  · exact (h.memoryMillis_le_iff hr _ _).mpr (.inl hrated.random_le_sequential)
  · exact (h.memoryMillis_le_iff hr _ _).mpr (.inl hrated.random_le_strided)
  · rw [h.memoryMillis_le_iff hr, hrated.strided_le_sequential_iff]

/-! ## Accepted runs -/

section

variable {config : Config Rat} {workload : Kernel.Workload Rat} {pattern : Value} {maxTicks : Rat}
  {draw : Grid → Result Rat (List (Hotspot Rat))} {start : Run Rat Rat}

/-- No pattern is refused where another was accepted. -/
theorem prepare_walking (accepted : prepare config workload pattern maxTicks draw = .ok start)
    {named : Value} {p : Pattern} (hnamed : Pattern.parse (α := Rat) named = .ok p) :
    prepare config workload named maxTicks draw = .ok (start.walking p) := by
  obtain ⟨hbudget, hc, hw, hratio, -, hotspots, -, hdraw, rfl⟩ := prepare_eq_ok.mp accepted
  exact prepare_eq_ok.mpr ⟨hbudget, hc, hw, hratio, p, hotspots, hnamed, hdraw, rfl⟩

/-- The states of one run under several patterns, after so many ticks. -/
theorem Fresh.waits (h : start.Fresh config maxTicks) {state : Pattern → Run Rat Rat}
    (reached : ∀ p, Reachable exp (start.walking p) (state p)) (htick : ∀ p, (state p).tick = n) :
    ∃ time, (∀ p, ∃ o, (state p).outcome = .ok o ∧ o.figures.memoryTime = time p) ∧
      Waits start.workload.locality config.cacheLatency n time := by
  have hstate (p : Pattern) : state p = (start.after exp n).walking p := by
    obtain ⟨m, hm, -⟩ := (h.checked.walking p).exists_after (reached p)
    have hcount : m = n := by
      rw [← htick p, hm, after_tick_of_fresh (r := start.walking p) h.tick_eq]
    rw [hm, hcount, after_walking]
  have hchecked := h.checked.after exp n
  have hwaits := hchecked.waits (h.checked.after_inBand h.inBand exp n)
  have hworkload : (start.after exp n).workload = start.workload :=
    congrArg Task.workload (after_task exp start n)
  rw [hworkload, after_config, h.config_eq, after_tick_of_fresh h.tick_eq] at hwaits
  refine ⟨_, fun p => ⟨((start.after exp n).walking p).report, ?_, rfl⟩, hwaits⟩
  rw [hstate p]
  exact (hchecked.walking p).outcome_rat

end

/-- **Friendlier access never hurts, up to the cap.** For every locality a random walk hits at
most as often as a strided or a sequential one, and a sequential one at least as often as a
strided one exactly when the locality is within the cap. However the patterns are named, none
of them is refused where another is accepted, and all of them see the same ticks. After as many
ticks, and so at the end, a random walk has waited longest for memory; a sequential one has
waited longer than a strided one only beyond the cap, and there it has, unless there is no
latency or was no tick. -/
theorem friendlier_access :
    (∀ locality : Rat, 0 ≤ locality → locality ≤ 1 →
      ∃ rate : Pattern → Rat,
        (∀ p, effectiveLocality locality p = .ok (rate p)) ∧ Rated locality rate) ∧
    ∀ (config : Config Rat) (workload : Kernel.Workload Rat) (pattern : Value) (maxTicks : Rat)
        (draw : Grid → Result Rat (List (Hotspot Rat))) (exp : Rat → Rat) (start : Run Rat Rat),
      prepare config workload pattern maxTicks draw = .ok start →
      ∃ runs : Pattern → Run Rat Rat,
        (∀ named p, Pattern.parse (α := Rat) named = .ok p →
          prepare config workload named maxTicks draw = .ok (runs p)) ∧
        (∀ (state : Pattern → Run Rat Rat) (n : Nat),
          (∀ p, Reachable exp (runs p) (state p)) → (∀ p, (state p).tick = n) →
            ∃ time : Pattern → Rat,
              (∀ p, ∃ o, (state p).outcome = .ok o ∧ o.figures.memoryTime = time p) ∧
              Waits workload.locality config.cacheLatency n time) ∧
        ∃ shown, ∃ ends : Pattern → Run Rat Rat, ∀ p, (runs p).ticks exp = .ok (shown, ends p) ∧
          Reachable exp (runs p) (ends p) ∧ (ends p).tick = shown.size := by
  constructor
  · intro locality hlow hhigh
    exact ⟨hitRateOf locality, effectiveLocality_rat locality, rated_hitRateOf hlow hhigh⟩
  · intro config workload pattern maxTicks draw exp start accepted
    have hfresh := accepted_fresh accepted
    have hworkload : start.workload = workload := by
      obtain ⟨-, -, -, -, p, hotspots, -, -, rfl⟩ := prepare_eq_ok.mp accepted
      rfl
    refine ⟨fun p => start.walking p, fun _ _ => prepare_walking accepted, ?_, ?_⟩
    · intro state n reached htick
      rw [← hworkload]
      exact hfresh.waits reached htick
    · obtain ⟨n, hl⟩ := exists_lasts exp start
      refine ⟨(start.shows exp n).toArray, fun p => (start.walking p).after exp n, fun p => ?_⟩
      have hchecked := hfresh.checked.walking p
      refine ⟨?_, hchecked.reachable_after (hl.walking p).going, ?_⟩
      · rw [hchecked.ticks_rat (hl.walking p), ← shows_walking exp p start n]
        rfl
      · rw [List.size_toArray, length_shows, after_tick_of_fresh (r := start.walking p)]
        exact hfresh.tick_eq

/-- A kernel that takes one tick, of a locality beyond the cap. -/
def nearKernel : Kernel.Workload Rat :=
  { shortKernel with items := 40000000, locality := 1 }

/-- That kernel on the hot core. -/
def nearRun (p : Pattern) : Run Rat Rat :=
  Run.initial hotConfig nearKernel p 3 [stillSpot]

theorem prepare_nearRun (p : Pattern) :
    prepare hotConfig nearKernel (.text p.word) 3 (fun _ => .ok [stillSpot]) =
      .ok (nearRun p) := by
  refine prepare_eq_ok.mpr ⟨by norm_num, hotConfig_valid, ?_, hotRun_checked.stable, p, _,
    p.parse_word, rfl, rfl⟩
  constructor <;> norm_num [nearKernel, shortKernel]

theorem nearRun_lasts (p : Pattern) : Lasts decay (nearRun p) 1 where
  going := fun k hk => by
    obtain rfl : k = 0 := by omega
    cases p <;> decide +kernel
  ended := by cases p <;> decide +kernel

/-- After its one tick that kernel has waited longest at random, and longer in sequence than
strided. -/
theorem friendlier_access_nearRun :
    ∃ time : Pattern → Rat,
      (∀ p, Reachable decay (nearRun p) ((nearRun p).next decay) ∧
        ∃ o, ((nearRun p).next decay).outcome = .ok o ∧ o.figures.memoryTime = time p) ∧
      time .sequential ≤ time .random ∧ time .strided ≤ time .random ∧
      time .strided < time .sequential := by
  obtain ⟨runs, haccepted, hwaits, -⟩ :=
    friendlier_access.2 _ _ _ _ _ decay _ (prepare_nearRun .strided)
  have hruns (p : Pattern) : runs p = nearRun p :=
    Except.ok.inj ((haccepted _ p p.parse_word).symm.trans (prepare_nearRun p))
  have reached (p : Pattern) : Reachable decay (nearRun p) ((nearRun p).next decay) :=
    (accepted_fresh (prepare_nearRun p)).checked.reachable_after (nearRun_lasts p).going
  obtain ⟨time, htime, horder⟩ := hwaits (fun p => (nearRun p).next decay) 1
    (fun p => (hruns p).symm ▸ reached p) fun p => rfl
  refine ⟨time, fun p => ⟨reached p, htime p⟩, horder.sequential_le_random,
    horder.strided_le_random, lt_of_not_ge ?_⟩
  rw [horder.sequential_le_strided_iff]
  norm_num [nearKernel, hotConfig]

/-- Beyond the cap a sequential walk hits less often than a strided one, and its run waits
longer for memory. -/
theorem sequential_behind_strided :
    (¬ ∀ (locality : Rat) (rate : Pattern → Rat), 0 ≤ locality → locality ≤ 1 →
      (∀ p, effectiveLocality locality p = .ok (rate p)) →
        0 ≤ rate .random ∧ rate .random ≤ rate .strided ∧ rate .strided ≤ rate .sequential ∧
          rate .sequential ≤ 1) ∧
    ¬ ∀ (config : Config Rat) (workload : Kernel.Workload Rat) (maxTicks : Rat)
        (draw : Grid → Result Rat (List (Hotspot Rat))) (exp : Rat → Rat)
        (runs ends : Pattern → Run Rat Rat) (shown : Pattern → Array (Snapshot Rat Rat))
        (o : Pattern → Outcome Rat Rat),
      (∀ p, prepare config workload (.text p.word) maxTicks draw = .ok (runs p)) →
      (∀ p, (runs p).ticks exp = .ok (shown p, ends p)) →
      (∀ p, (ends p).outcome = .ok (o p)) →
        (o .sequential).figures.memoryTime ≤ (o .strided).figures.memoryTime ∧
          (o .strided).figures.memoryTime ≤ (o .random).figures.memoryTime := by
  constructor
  · intro hclaim
    have hrates := hclaim 1 (hitRateOf 1) zero_le_one le_rfl (effectiveLocality_rat 1)
    exact absurd hrates.2.2.1 (by decide +kernel)
  · intro hclaim
    have hchecked (p : Pattern) : (nearRun p).Checked :=
      (accepted_fresh (prepare_nearRun p)).checked
    have htimes := hclaim _ _ _ _ decay nearRun _ _ _ prepare_nearRun
      (fun p => (hchecked p).ticks_rat (nearRun_lasts p))
      (fun p => ((hchecked p).after decay 1).outcome_rat)
    exact absurd htimes.1 (by decide +kernel)

end Run

end Gpu

end SiliconBench
