import SiliconBench.Proofs.Gpu.Settings
import SiliconBench.Proofs.Machine.Bounded
import SiliconBench.Proofs.Machine.Settings

/-!
# Accepted — what is known of settings that were accepted

Settings that are accepted have LOST NOTHING: what they write is what was given, laid
over what holds when nothing is said, and it is read back as the same settings
(`accepted_lossless`). Only a name and a number of cores are written in another form
than they were given. And they are within their bounds wherever a figure is defined
(`accepted_bounded`); an undefined figure is below no bound, and is accepted.
-/

namespace SiliconBench

open Value

/-- Accepted settings are read back from what they write, they fit what they were laid
over, and what they write is that with the given fields in place. -/
theorem accepted_lossless {d : Value} (hd : d.Distinct) :
    (∀ c, Machine.Config.ofValue d = .ok c →
      Machine.Config.ofValue c.toValue = .ok c ∧
      (Machine.Config.baseFor d).toValue.fits d = true ∧
      c.toValue = ((Machine.Config.baseFor d).toValue.overlaid d).mapEntry "name"
        Machine.Config.shownName) ∧
    (∀ p, Gpu.Config.ofValue d = .ok p →
      Gpu.Config.ofValue p.toValue = .ok p ∧
      Gpu.Config.default.toValue.fits d = true ∧
      p.toValue = (Gpu.Config.default.toValue.overlaid d).mapEntry "cores"
        Gpu.Config.wholePart) := by
  constructor
  · intro c hc
    obtain ⟨⟨w, ⟨hfits, rfl⟩, hwritten⟩, hvalid⟩ := Machine.Config.laidOver_of_ofValue hd hc
    refine ⟨?_, hfits, hwritten⟩
    rw [Machine.Config.ofValue_toValue, hvalid, ok_bind, Machine.Config.named_of_ofValue hc]
  · intro p hp
    obtain ⟨⟨w, ⟨hfits, rfl⟩, hwritten⟩, hbounded⟩ := Gpu.Config.laidOver_of_ofValue hd hp
    refine ⟨?_, hfits, hwritten⟩
    rw [Gpu.Config.ofValue_toValue, Gpu.Config.validate_of_bounded hbounded]

section Lossless

/-- Settings that say one thing of one level of cache. -/
def smallCache : Value :=
  .table [("cache", .table [("l2", .table [("size_kb", .whole 512)])])]

/-- The system of these settings: the level is no longer that of the hierarchy. -/
def smallCacheSystem : Machine.Config Value :=
  { Machine.Config.default with
    caches := { Machine.Caches.default with
      l2 := { Machine.Level.default with size := .whole 512 } } }

/-- Settings with a number of cores that is not written as a whole number. -/
def fewCores : Value :=
  .table [("cores", .real 16.0)]

theorem distinct_smallCache : smallCache.Distinct := by
  simp [smallCache, Distinct, DistinctEntries]

theorem ofValue_smallCache : Machine.Config.ofValue smallCache = .ok smallCacheSystem := rfl

theorem ofValue_fewCores : Gpu.Config.ofValue fewCores =
    .ok { Gpu.Config.default with cores := .whole 16 } := rfl

theorem accepted_lossless_smallCache_fewCores :
    Machine.Config.ofValue smallCacheSystem.toValue = .ok smallCacheSystem ∧
      Gpu.Config.ofValue ({ Gpu.Config.default with cores := .whole 16 } : Gpu.Config Value).toValue =
        .ok { Gpu.Config.default with cores := .whole 16 } :=
  ⟨((accepted_lossless distinct_smallCache).1 _ ofValue_smallCache).1,
    ((accepted_lossless (by simp [fewCores, Distinct, DistinctEntries])).2 _ ofValue_fewCores).1⟩

/-- A level that settings name does NOT start from the level of the hierarchy: its
latency is written back as that of a level on its own. -/
theorem smallCache_not_over_default : smallCache.Distinct ∧
    Machine.Config.ofValue smallCache = .ok smallCacheSystem ∧
    smallCacheSystem.toValue ≠
      (Machine.Config.default.toValue.overlaid smallCache).mapEntry "name"
        Machine.Config.shownName := by
  refine ⟨distinct_smallCache, ofValue_smallCache, fun heq => ?_⟩
  have hlatency := congrArg (at? ["cache", "l2", "latency_cycles"]) heq
  have hwritten : smallCacheSystem.toValue.at? ["cache", "l2", "latency_cycles"] =
    some (.real 4.0) := rfl
  have hlaid : ((Machine.Config.default.toValue.overlaid smallCache).mapEntry "name"
      Machine.Config.shownName).at? ["cache", "l2", "latency_cycles"] = some (.whole 12) := rfl
  rw [hwritten, hlaid] at hlatency
  cases hlatency

end Lossless

/-! ## Bounds -/

/-- Accepted settings are within their bounds, but for figures that are undefined. -/
theorem accepted_bounded {d : Value} (hd : d.Distinct) :
    (∀ c, Machine.Config.ofValue d = .ok c → c.Bounded IsUndefined) ∧
    (∀ p, Gpu.Config.ofValue d = .ok p → p.Bounded IsUndefined) := by
  constructor
  · intro c hc
    exact Machine.Config.validate_eq_ok_iff_bounded.mp (Machine.Config.laidOver_of_ofValue hd hc).2
  · intro p hp
    exact (Gpu.Config.laidOver_of_ofValue hd hp).2

section Undefined

/-- The undefined number. -/
def undefined : Value :=
  .real (0.0 / 0.0)

/-- Settings of a memory whose latency is undefined. -/
def undefinedLatency : Value :=
  .table [("main_memory", .table [("latency_cycles", undefined)])]

/-- The system of these settings. -/
def undefinedSystem : Machine.Config Value :=
  { Machine.Config.default with
    memory := { Machine.Memory.default with latency := undefined } }

/-- Settings of a processor whose clock is undefined. -/
def undefinedClock : Value :=
  .table [("clock_ghz", undefined)]

/-- The processor of these settings. -/
def undefinedProcessor : Gpu.Config Value :=
  { Gpu.Config.default with clock := undefined }

theorem isUndefined_undefined : undefined.IsUndefined := by
  show (0.0 / 0.0 : Float).isNaN = true
  decide +kernel

theorem distinct_undefinedLatency : undefinedLatency.Distinct := by
  simp [undefinedLatency, undefined, Distinct, DistinctEntries]

theorem distinct_undefinedClock : undefinedClock.Distinct := by
  simp [undefinedClock, undefined, Distinct, DistinctEntries]

theorem ofValue_undefinedLatency :
    Machine.Config.ofValue undefinedLatency = .ok undefinedSystem := rfl

theorem ofValue_undefinedClock : Gpu.Config.ofValue undefinedClock = .ok undefinedProcessor := rfl

theorem accepted_bounded_undefined :
    undefinedSystem.Bounded IsUndefined ∧ undefinedProcessor.Bounded IsUndefined :=
  ⟨(accepted_bounded distinct_undefinedLatency).1 _ ofValue_undefinedLatency,
    (accepted_bounded distinct_undefinedClock).2 _ ofValue_undefinedClock⟩

/-- Nothing refuses an undefined figure, and it is within no bound. -/
theorem undefined_accepted_unbounded :
    (undefinedLatency.Distinct ∧ Machine.Config.ofValue undefinedLatency = .ok undefinedSystem ∧
      ¬ undefinedSystem.Bounded fun _ => False) ∧
    (undefinedClock.Distinct ∧ Gpu.Config.ofValue undefinedClock = .ok undefinedProcessor ∧
      ¬ undefinedProcessor.Bounded fun _ => False) := by
  refine ⟨⟨distinct_undefinedLatency, ofValue_undefinedLatency, fun h => ?_⟩,
    distinct_undefinedClock, ofValue_undefinedClock, fun h => ?_⟩
  · exact isUndefined_undefined.not_atLeast (h.memoryLatency.resolve_right id)
  · exact isUndefined_undefined.not_above (h.clock.resolve_right id)

end Undefined

end SiliconBench
