import SiliconBench.Proofs.Gpu.Driving

/-!
# MemorySide — memory has no part in how a run goes

The bytes of a kernel, its locality, the access pattern, the bandwidth and the
second-level cache decide how long memory would take, and that is ALL they
decide. Two runs that agree in the rest go through the same states and show the
same snapshots; of their outcomes only the figures that are about memory differ.
The kernel itself enters through one product, the operations that are required.
-/

namespace SiliconBench.Gpu

open Scalar

variable {α κ : Type}

/-- Figures that agree in all that is not about memory. -/
structure Figures.SameCourse (f g : Figures α) : Prop where
  status : f.status = g.status
  averageClock : f.averageClock = g.averageClock
  kernelTime : f.kernelTime = g.kernelTime
  computeTime : f.computeTime = g.computeTime
  utilization : f.utilization = g.utilization

/-- Outcomes that agree in all that is not about memory, and not an echo of what
was asked for. -/
structure Outcome.SameCourse (o p : Outcome α κ) : Prop where
  figures : o.figures.SameCourse p.figures
  peakRate : o.peakRate = p.peakRate
  peakTemp : o.peakTemp = p.peakTemp
  throttleTime : o.throttleTime = p.throttleTime
  power : o.power = p.power
  temperatures : o.temperatures = p.temperatures
  cols : o.cols = p.cols
  rows : o.rows = p.rows
  ticks : o.ticks = p.ticks

namespace Run

variable [Scalar α] {t u : Task α} {n : Nat} {r s : Run α κ}

/-! ## The figures in a row

Some figures are quotients behind a guard. Taken apart by the guards the figures
of two runs would have to be compared eight times over. -/

/-- A quotient where its divisor is above zero, and zero where it is not. -/
def guarded (divisor : α) (quotient : Result α α) : Result α α := do
  if ← lt (whole α 0) divisor then quotient else .ok (real α 0)

theorem guarded_bind {β : Type} (divisor : α) (quotient : Result α α) (f : α → Result α β) :
    guarded divisor quotient >>= f = (do
      if ← lt (whole α 0) divisor then quotient >>= f else f (real α 0)) := by
  rw [guarded, bind_assoc]
  refine bind_congr fun above => ?_
  cases above <;> rfl

/-- The figures, in a row. -/
theorem figures_eq (r : Run α κ) : r.figures = (do
    let status ← r.status
    let averageClock ← r.averageClock
    let bytes ← r.workload.totalBytes
    let hitRate ← effectiveLocality r.workload.locality r.pattern
    let rate : α ← r.config.cores * averageClock * giga α
    let computeTime ←
      guarded rate ((r.measuredOps status / rate : Result α α) * real α 1000)
    let memoryTime ← r.memoryTime bytes averageClock hitRate
    let kernelTime ← r.elapsed
    let seconds : α ← kernelTime / real α 1000
    let throughput ← guarded seconds ((bytes / seconds : Result α α) / giga α)
    let most : α ← rate * seconds * opsPerCycle α
    let utilization ← guarded most (div (r.measuredOps status) most >>= least (real α 1))
    return { status, averageClock, hitRate, kernelTime, computeTime, memoryTime, throughput,
             utilization }) := by
  simp only [guarded_bind, bind_assoc]
  rfl

/-! ## What is asked of a state -/

/-- Tasks that a run cannot tell apart, whatever its state. -/
structure SameRun (t u : Task α) : Prop where
  ticks : t.SameTicks u
  maxTicks : t.maxTicks = u.maxTicks
  requiredOps : t.requiredOps = u.requiredOps

section

variable (same : SameRun t u) (h : Retasked t u n r s)

include same h

theorem Retasked.isDone : r.isDone = s.isDone := by
  obtain ⟨rfl, rfl, rfl⟩ := h
  simp only [Run.isDone, isComplete, isDegenerate, isSpent, under, ← same.requiredOps,
    ← same.maxTicks]
  rfl

theorem Retasked.status : r.status = s.status := by
  obtain ⟨rfl, rfl, rfl⟩ := h
  simp only [Run.status, isComplete, isDegenerate, isSpent, under, ← same.requiredOps,
    ← same.maxTicks]
  rfl

/-- The figures that are not about memory are worked out from what both runs share. -/
theorem Retasked.figures : Agree Figures.SameCourse r.figures s.figures := by
  have hstatus := h.status same
  have hwork := same.requiredOps
  obtain ⟨rfl, rfl, rfl⟩ := h
  have hcores : r.config.cores = (r.under u).config.cores := same.ticks.config.cores
  have hops (status : Status) : r.measuredOps status = (r.under u).measuredOps status := by
    simp only [measuredOps, under, ← hwork]
    rfl
  rw [figures_eq, figures_eq]
  refine .bind_same hstatus fun status _ => ?_
  refine .bind_same rfl fun averageClock _ => ?_
  -- what is about memory may differ, and is not looked at again
  refine .bind fun bytes bytes' _ _ => .bind fun hitRate hitRate' _ _ => ?_
  rw [hcores, hops]
  refine .bind_same rfl fun rate _ => .bind_same rfl fun computeTime _ => ?_
  refine .bind fun memoryTime memoryTime' _ _ => ?_
  refine .bind_same rfl fun kernelTime _ => .bind_same rfl fun seconds _ => ?_
  refine .bind fun throughput throughput' _ _ => ?_
  refine .bind_same rfl fun most _ => .bind_same rfl fun utilization _ => ?_
  exact .pure ⟨rfl, rfl, rfl, rfl, rfl⟩

/-- Outcomes that can be asked for agree in all that is not about memory. -/
theorem Retasked.outcome : Agree Outcome.SameCourse r.outcome s.outcome := by
  have hfigures := h.figures same
  obtain ⟨rfl, rfl, rfl⟩ := h
  have hcores : r.config.cores = (r.under u).config.cores := same.ticks.config.cores
  have hclock : r.config.clock = (r.under u).config.clock := same.ticks.config.clock
  have hpower : r.config.maxPower = (r.under u).config.maxPower := same.ticks.config.maxPower
  have hcols : r.grid.cols = (r.under u).grid.cols := congrArg Grid.cols same.ticks.grid
  have hrows : r.grid.rows = (r.under u).grid.rows := congrArg Grid.rows same.ticks.grid
  unfold Run.outcome
  refine .bind fun f g hf hg => ?_
  have hfg := hfigures f g hf hg
  rw [hfg.status, hfg.averageClock, hcores, hclock, hpower]
  split
  -- a run that was cut short asks for its progress first, and has no use for it
  on_goal 1 => refine .bind fun _ _ _ _ => ?_
  all_goals
    refine .bind_same rfl fun peakRate _ => ?_
    refine .bind fun bound bound' _ _ => ?_
    refine .bind_same rfl fun power _ => ?_
    exact .pure ⟨hfg, rfl, rfl, rfl, rfl, rfl, hcols, hrows, rfl⟩

end

end Run

/-! ## Accepted runs -/

/-- Validation may give the number of cores another form, and changes nothing else. -/
theorem Config.validate_answers [Scalar α] (c : Config α) :
    Answers (fun d => ∃ cores, c.wholeCores = .ok cores ∧ d = { c with cores }) c.validate := by
  refine .bind fun cores hcores => ?_
  repeat refine .bind fun _ _ => ?_
  exact .pure ⟨cores, hcores, rfl⟩

theorem Config.SameTicks.wholeCores [Scalar α] {c d : Config α} (same : c.SameTicks d) :
    c.wholeCores = d.wholeCores := by
  unfold Config.wholeCores
  rw [same.cores]

namespace Run

variable [Scalar α] [PerCore α κ]

/-- With the same budget and the same draws, runs on processors that a tick cannot
tell apart start in the same state, if the work to do is the same. -/
theorem prepare_retasked {config config' : Config α} {workload workload' : Kernel.Workload α}
    (pattern pattern' : Value) (maxTicks : α) (draw : Grid → Result α (List (Hotspot κ)))
    (same : config.SameTicks config')
    (work : workload.requiredOps config.intensity = workload'.requiredOps config'.intensity) :
    Agree (fun a b : Run α κ => SameRun a.task b.task ∧ Retasked a.task b.task 0 a b)
      (prepare config workload pattern maxTicks draw)
      (prepare config' workload' pattern' maxTicks draw) := by
  unfold prepare
  refine .bind fun _ _ _ _ => .bind fun c d hc hd => ?_
  obtain ⟨cores, hcores, rfl⟩ := config.validate_answers c hc
  obtain ⟨cores', hcores', rfl⟩ := config'.validate_answers d hd
  obtain rfl : cores = cores' :=
    Except.ok.inj (hcores.symm.trans (same.wholeCores.trans hcores'))
  -- the checks of the kernel, of the step and of the pattern leave nothing behind
  refine .bind fun _ _ _ _ => .bind fun _ _ _ _ => .bind fun _ _ _ _ => .bind fun p p' _ _ => ?_
  refine .bind_same work fun ops _ => ?_
  refine .bind_same rfl fun n _ => .bind_same rfl fun spots _ => ?_
  refine .bind_same (congrArg toReal same.ambient) fun ambient _ => ?_
  refine .bind_same rfl fun start _ => .bind_same (congrArg toReal same.clock) fun clock _ => ?_
  have hconfig : Config.SameTicks { config with cores } { config' with cores } :=
    ⟨rfl, same.clock, same.maxPower, same.resistance, same.throttleTemp, same.ambient,
      same.capacitance⟩
  exact .pure ⟨⟨⟨hconfig, rfl⟩, rfl, rfl⟩, rfl, rfl, rfl⟩

/-- Two runs that were accepted with the same budget and the same draws, on
processors that a tick cannot tell apart, with the same work to do. Their kernels
and processors may differ in all that is about memory. -/
inductive Twins : Run α κ → Run α κ → Prop
  | mk {config config' : Config α} {workload workload' : Kernel.Workload α}
      {pattern pattern' : Value} {maxTicks : α} {draw : Grid → Result α (List (Hotspot κ))}
      {a b : Run α κ} (first : prepare config workload pattern maxTicks draw = .ok a)
      (second : prepare config' workload' pattern' maxTicks draw = .ok b)
      (same : config.SameTicks config')
      (work : workload.requiredOps config.intensity = workload'.requiredOps config'.intensity) :
      Twins a b

variable {a b r : Run α κ}

theorem Twins.retasked (h : Twins a b) :
    SameRun a.task b.task ∧ Retasked a.task b.task 0 a b := by
  obtain ⟨first, second, same, work⟩ := h
  exact prepare_retasked _ _ _ _ same work a b first second

variable [Cell κ] {exp : κ → κ} {shown : List (Snapshot α κ)}

/-- A host sees the same of both. -/
theorem Watched.retasked {t u : Task α} (same : SameRun t u) (h : Retasked t u 0 a b)
    (hw : Watched exp a shown r) :
    ∃ s, Watched exp b shown s ∧ ∃ n, Retasked t u n r s := by
  induction hw with
  | start => exact ⟨b, .start, 0, h⟩
  | ticked _ htick ih =>
    obtain ⟨s, hs, n, hrs⟩ := ih
    have hmatched : Matched _ _ (Run.tickOnce exp _) (s.tickOnce exp) :=
      hrs.tickOnce same.ticks same.requiredOps (hrs.isDone same)
    obtain ⟨⟨seen, next⟩, htick', hseen, hnext⟩ := hmatched.exists_of_ok htick
    cases hseen
    exact ⟨next, .ticked hs htick', n + 1, hnext⟩

/-- What two drivers answer: the same was handed over, and the runs that are left
are as far, and come to the same but for memory. -/
def SameEnd {σ : Type} (x y : σ × Run α κ) : Prop :=
  x.1 = y.1 ∧ x.2.isDone = y.2.isDone ∧ Agree Outcome.SameCourse x.2.outcome y.2.outcome

theorem Twins.foldTicks {σ : Type} (h : Twins a b) {f : σ → Snapshot α κ → Run α κ → Result α σ}
    (hf : ∀ acc seen k (r s : Run α κ), Retasked a.task b.task k r s →
      f acc seen r = f acc seen s) (fuel : Nat) (acc : σ) :
    Matched (fun g h => g.fault = h.fault) SameEnd
      (a.foldTicks exp f fuel acc) (b.foldTicks exp f fuel acc) := by
  obtain ⟨same, hab⟩ := h.retasked
  refine (Retasked.foldTicks same.ticks same.requiredOps
    (fun k _ r s hrs => hrs.isDone same) hf hab le_rfl acc).mono (fun _ _ hh => hh.fault) ?_
  rintro x y ⟨hseen, k, hk⟩
  exact ⟨hseen, hk.isDone same, hk.outcome same⟩

omit [Cell κ] in
theorem Twins.remaining (h : Twins a b) : a.remaining = b.remaining := by
  obtain ⟨same, hab⟩ := h.retasked
  have hbudget : a.maxTicks = b.maxTicks := same.maxTicks
  have htick : a.tick = b.tick := (congrArg Run.tick hab.state).symm
  rw [Run.remaining, Run.remaining, hbudget, htick]

theorem Twins.ticks (h : Twins a b) (exp : κ → κ) :
    Matched (fun g h => g.fault = h.fault) SameEnd (a.ticks exp) (b.ticks exp) := by
  unfold Run.ticks
  rw [h.remaining]
  exact h.foldTicks (fun _ _ _ _ _ _ => rfl) _ _

theorem Twins.finish {σ : Type} (h : Twins a b) (exp : κ → κ) (every : α)
    (f : σ → Snapshot α κ → σ) (acc : σ) :
    Matched (fun g h => g.fault = h.fault) SameEnd
      (a.finish exp every f acc) (b.finish exp every f acc) := by
  obtain ⟨same, hab⟩ := h.retasked
  rw [finish_eq, finish_eq]
  rw [h.remaining]
  have hevery : Matched (HaltRetasked a.task b.task) Eq
      (a.orHalt (requireOne "snapshot_every" every))
      (b.orHalt (requireOne "snapshot_every" every)) := hab.orHalt (.of_eq rfl)
  refine (hevery.mono (fun _ _ hh => hh.fault) fun _ _ hu => hu).bind fun _ _ _ => ?_
  refine h.foldTicks (fun acc seen k r s hrs => ?_) _ _
  simp only [isDelivered, hrs.isDone same]

theorem Twins.checked {a b : Run Rat Rat} (h : Twins a b) : a.Checked ∧ b.Checked := by
  obtain ⟨first, second, -, -⟩ := h
  exact ⟨(accepted_fresh first).checked, (accepted_fresh second).checked⟩

/-- **Memory is not seen in how a run goes.** Twins show the same snapshots to any
host, one tick at a time, all at once or some of them; they stop or fault at the
same point, stand the same there, and come to outcomes that agree in all that is
not about memory. Over the rationals none of these is without an answer. -/
theorem memory_unseen :
    (∀ {α κ : Type} [Scalar α] [Cell κ] [PerCore α κ] {a b : Run α κ}, Twins a b →
      ∀ exp : κ → κ,
        (∀ shown r, Watched exp a shown r → ∃ s, Watched exp b shown s ∧
          r.isDone = s.isDone ∧ r.status = s.status ∧
          Agree Outcome.SameCourse r.outcome s.outcome) ∧
        Matched (fun g h => g.fault = h.fault) SameEnd (a.ticks exp) (b.ticks exp) ∧
        ∀ {σ : Type} (every : α) (f : σ → Snapshot α κ → σ) (acc : σ),
          Matched (fun g h => g.fault = h.fault) SameEnd
            (a.finish exp every f acc) (b.finish exp every f acc)) ∧
    ∀ {a b : Run Rat Rat}, Twins a b → ∀ exp : Rat → Rat, ∃ shown r s o p,
      a.ticks exp = .ok (shown, r) ∧ b.ticks exp = .ok (shown, s) ∧
      r.isDone = .ok true ∧ s.isDone = .ok true ∧
      r.outcome = .ok o ∧ s.outcome = .ok p ∧ o.SameCourse p := by
  constructor
  · intro α κ _ _ _ a b h exp
    obtain ⟨same, hab⟩ := h.retasked
    refine ⟨fun shown r hw => ?_, h.ticks exp, fun every f acc => h.finish exp every f acc⟩
    obtain ⟨s, hs, n, hrs⟩ := hw.retasked same hab
    exact ⟨s, hs, hrs.isDone same, hrs.status same, hrs.outcome same⟩
  · intro a b h exp
    obtain ⟨ha, hb⟩ := h.checked
    obtain ⟨n, hl⟩ := exists_lasts exp a
    have hended := ha.ticks_rat hl
    obtain ⟨⟨shown, s⟩, hends, hshown, hdone, hagree⟩ := (h.ticks exp).exists_of_ok hended
    cases hshown
    have hsdone : s.isDone = .ok true := hdone.symm.trans (isDone_eq_true_iff.mpr hl.ended)
    obtain ⟨m, hm⟩ := exists_lasts exp b
    obtain ⟨-, rfl⟩ := Prod.mk.inj (Except.ok.inj (hends.symm.trans (hb.ticks_rat hm)))
    have ho := (ha.after exp n).outcome_rat
    have hp := (hb.after exp m).outcome_rat
    exact ⟨_, _, _, _, _, hended, hends, isDone_eq_true_iff.mpr hl.ended, hsdone, ho, hp,
      hagree _ _ ho hp⟩

/-- A kernel of as many operations that walks fewer bytes at random. -/
def farKernel : Kernel.Workload Rat :=
  { shortKernel with name := .text "far", ops := 10, data := 3, items := 1000000, locality := 1 }

/-- The core that always throttles, behind another memory and another cache. -/
def farConfig : Config Rat :=
  { hotConfig with
    bandwidth := 100, cacheSize := 7, cacheLatency := 3, cacheWays := 2, intensity := 7,
    junctionToCase := 1 / 200, caseToAmbient := 1 / 100 }

/-- That kernel on that core. -/
def farRun : Run Rat Rat :=
  Run.initial farConfig farKernel .random 3 [stillSpot]

theorem prepare_farRun :
    prepare farConfig farKernel (.text "random") 3 (fun _ => .ok [stillSpot]) = .ok farRun := by
  refine prepare_eq_ok.mpr ⟨by norm_num, ?_, ?_, ?_, .random, _, rfl, rfl, rfl⟩
  · constructor <;> norm_num [farConfig, hotConfig]
  · constructor <;> norm_num [farKernel, shortKernel]
  · norm_num [Config.ratio, farConfig, hotConfig]

/-- Two kernels that differ in all that is about memory end after the same ticks,
and nothing but what is about memory tells their outcomes apart. -/
theorem memory_unseen_farRun :
    Twins hotRun farRun ∧ hotRun.memoryMillis ≠ farRun.memoryMillis ∧
      ∃ shown r s o p, hotRun.ticks decay = .ok (shown, r) ∧ farRun.ticks decay = .ok (shown, s) ∧
        r.outcome = .ok o ∧ s.outcome = .ok p ∧ o.SameCourse p := by
  have hresistance : hotConfig.resistance = farConfig.resistance := by
    rw [Config.resistance_rat, Config.resistance_rat]
    norm_num [hotConfig, farConfig]
  have hwork : shortKernel.requiredOps hotConfig.intensity =
      farKernel.requiredOps farConfig.intensity := by
    rw [Kernel.Workload.requiredOps_rat, Kernel.Workload.requiredOps_rat]
    norm_num [shortKernel, farKernel, hotConfig, farConfig]
  have twins : Twins hotRun farRun :=
    .mk prepare_hotRun prepare_farRun ⟨rfl, rfl, rfl, hresistance, rfl, rfl, rfl⟩ hwork
  obtain ⟨shown, r, s, o, p, hr, hs, -, -, ho, hp, hop⟩ := memory_unseen.2 twins decay
  exact ⟨twins, by decide +kernel, shown, r, s, o, p, hr, hs, ho, hp, hop⟩

end Run

end SiliconBench.Gpu
