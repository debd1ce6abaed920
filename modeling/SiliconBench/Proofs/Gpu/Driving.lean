import SiliconBench.Gpu.Settings
import SiliconBench.Kernel.Settings
import SiliconBench.Proofs.Gpu.Course
import SiliconBench.Proofs.Gpu.Ending
import SiliconBench.Proofs.Whole

/-!
# Driving — all ways of driving a run agree

A host may ask for ticks one by one, take some of the ticks to come, or have a
run finished and be handed some of its snapshots; and it may go over from one to
the other on the way. All of these walk along ONE sequence of runs, and none of
them looks back: what is seen is the same, and so is the run that is left, or the
fault that stops it. What a finishing run delivers is a part of what it sees, told
apart by two questions that are asked anew after each tick, whether its number is a
multiple and whether the run is over now; the second is answered with yes once,
after the last tick. This holds in any arithmetic in which a period tells its multiples.
-/

namespace SiliconBench.Gpu.Run

open Scalar

/-! ## What a finishing run delivers -/

section

variable {α κ σ : Type} [Scalar α] [Cell κ] [PerCore α κ] {exp : κ → κ} {r last : Run α κ}
  {ending : Except (Halt α κ) (Run α κ)} {k n : Nat} {s : Snapshot α κ}
  {rest : List (Snapshot α κ)}

omit [Scalar α] [Cell κ] [PerCore α κ] in
/-- Of the snapshots that a finishing run sees, those that it delivers when it
takes every `k`-th: the multiples, and where the run ends by being over, the last
one in any case. -/
def delivered (k : Nat) : Except (Halt α κ) (Run α κ) → List (Snapshot α κ) → List (Snapshot α κ)
  | .ok _, shown => shown.dropLast.filter (fun s => k ∣ s.tick) ++ shown.getLast?.toList
  | .error _, shown => shown.filter fun s => k ∣ s.tick

omit [Scalar α] [Cell κ] [PerCore α κ] in
theorem delivered_nil (k : Nat) (ending : Except (Halt α κ) (Run α κ)) :
    delivered k ending [] = [] := by
  cases ending <;> rfl

omit [Scalar α] [Cell κ] [PerCore α κ] in
theorem delivered_last (k : Nat) (last : Run α κ) (s : Snapshot α κ) :
    delivered k (.ok last) [s] = [s] := rfl

omit [Scalar α] [Cell κ] [PerCore α κ] in
/-- A multiple is delivered, whatever comes after it. -/
theorem delivered_of_dvd (h : k ∣ s.tick) :
    delivered k ending (s :: rest) = s :: delivered k ending rest := by
  cases ending with
  | error halt => simp [delivered, h]
  | ok last =>
    cases rest with
    | nil => rfl
    | cons t rest => simp [delivered, h, List.getLast?_cons_cons]

omit [Scalar α] [Cell κ] [PerCore α κ] in
/-- Another snapshot is not delivered unless it is the last one. -/
theorem delivered_of_not_dvd (h : ¬ k ∣ s.tick)
    (hmore : ∀ last, ending = .ok last → rest ≠ []) :
    delivered k ending (s :: rest) = delivered k ending rest := by
  cases ending with
  | error halt => simp [delivered, h]
  | ok last =>
    cases rest with
    | nil => exact absurd rfl (hmore last rfl)
    | cons t rest => simp [delivered, h, List.getLast?_cons_cons]

section

variable [LawfulPeriod α]

omit [Cell κ] [PerCore α κ] in
theorem isDelivered_of_dvd (hk : 1 ≤ k) (h : k ∣ s.tick) (after : Run α κ) :
    isDelivered (whole α k) s after = .ok true := by
  simp [isDelivered, divides_whole hk, h]

omit [Cell κ] [PerCore α κ] in
theorem isDelivered_of_not_dvd (hk : 1 ≤ k) (h : ¬ k ∣ s.tick) (after : Run α κ) :
    isDelivered (whole α k) s after = after.isDone := by
  simp [isDelivered, divides_whole hk, h]

/-- **What is delivered of the ticks to come** is told by what there is to see of them and
by how they end. -/
theorem follow_delivered (hk : 1 ≤ k) (f : σ → Snapshot α κ → σ) {shown : Array (Snapshot α κ)}
    (h : r.watch exp n = (shown, ending)) (ended : Ended ending) (acc : σ) :
    r.follow exp
        (fun acc s after => do return if ← isDelivered (whole α k) s after then f acc s else acc)
        n acc =
      ((delivered k ending shown.toList).foldl f acc, ending) := by
  induction n generalizing r shown acc with
  | zero =>
    cases h
    rfl
  | succ n ih =>
    cases htick : r.tickOnce exp with
    | error halt =>
      obtain ⟨rfl, -⟩ := watch_of_no_tick htick h
      rw [follow_of_no_tick htick, h]
      simp [delivered_nil]
    | ok x =>
      obtain ⟨first, next⟩ := x
      rw [watch_tick htick] at h
      obtain ⟨rfl, hnext⟩ := Prod.mk.inj h
      have hrest : next.watch exp n = ((next.watch exp n).1, ending) := Prod.ext rfl hnext
      rw [Array.toList_append, List.singleton_append]
      by_cases hdvd : k ∣ first.tick
      · rw [follow_tick htick (a := f acc first) (by simp [isDelivered_of_dvd hk hdvd]),
          ih hrest, delivered_of_dvd hdvd]
        rfl
      · -- whether it is delivered is whether the run is over after it
        have hask := isDelivered_of_not_dvd hk hdvd next
        cases hdone : next.isDone with
        | error fault =>
          obtain ⟨hfuel, hnone, rfl⟩ := watch_of_fault hdone hrest ended
          obtain ⟨n, rfl⟩ := Nat.exists_eq_succ_of_ne_zero hfuel.ne'
          rw [hnone]
          simp [follow, isDone_of_tickOnce htick, htick, hask, hdone, delivered, hdvd]
        | ok isOver =>
          cases isOver with
          | true =>
            rw [watch_of_isDone hdone] at hrest ⊢
            obtain ⟨-, rfl⟩ := Prod.mk.inj hrest
            rw [follow_tick htick (a := f acc first) (by simp [hask, hdone]),
              follow_of_isDone hdone, delivered_last]
            rfl
          | false =>
            have hmore : ∀ last, ending = .ok last → (next.watch exp n).1.toList ≠ [] := by
              rintro last rfl
              exact ne_nil_of_watch hdone hrest (ended last rfl)
            rw [follow_tick htick (a := acc) (by simp [hask, hdone]), ih hrest,
              delivered_of_not_dvd hdvd hmore]

theorem deliver_of_watch (hk : 1 ≤ k) (f : σ → Snapshot α κ → σ) {shown : Array (Snapshot α κ)}
    (h : r.watch exp r.remaining = (shown, ending)) (ended : Ended ending) (acc : σ) :
    r.deliver exp (whole α k) f acc = ((delivered k ending shown.toList).foldl f acc, ending) := by
  rw [deliver, requireOne_whole _ hk]
  exact follow_delivered hk f h ended acc

end

end

/-! ## Over the rationals -/

section

variable {exp : Rat → Rat} {start r : Run Rat Rat} {n : Nat} {shown : List (Snapshot Rat Rat)}

/-- The snapshots of the next `n` ticks. -/
def shows (exp : Rat → Rat) (r : Run Rat Rat) (n : Nat) : List (Snapshot Rat Rat) :=
  (r.trail exp n).map seen

theorem length_shows (exp : Rat → Rat) (r : Run Rat Rat) (n : Nat) :
    (r.shows exp n).length = n := by
  simp [shows, trail]

theorem shows_append (exp : Rat → Rat) (r : Run Rat Rat) (m n : Nat) :
    r.shows exp (m + n) = r.shows exp m ++ (r.after exp m).shows exp n := by
  rw [shows, trail_append, List.map_append, shows, shows]

theorem shows_concat (exp : Rat → Rat) (r : Run Rat Rat) (n : Nat) :
    r.shows exp (n + 1) = r.shows exp n ++ [(r.after exp (n + 1)).seen] :=
  shows_append exp r n 1

/-- Ticks that are asked for one by one show the run after each of them. -/
theorem Checked.watched_shows (h : start.Checked) (hgoing : ∀ k < n, ¬ (start.after exp k).Over) :
    Watched exp start (start.shows exp n) (start.after exp n) := by
  induction n with
  | zero => exact .start
  | succ n ih =>
    rw [shows_concat]
    refine .ticked (ih fun k hk => hgoing k (Nat.lt_succ_of_lt hk)) ?_
    exact (h.after exp n).tickOnce_rat (hgoing n (Nat.lt_succ_self n)) exp

/-- A tick that is refused shows nothing, so a host has seen as many snapshots as
the run has ticked. -/
theorem Checked.eq_shows_of_watched (h : start.Checked) (hw : Watched exp start shown r) :
    shown = start.shows exp shown.length ∧ r = start.after exp shown.length ∧
      ∀ k < shown.length, ¬ (start.after exp k).Over := by
  induction hw with
  | start => exact ⟨rfl, rfl, fun k hk => absurd hk (Nat.not_lt_zero k)⟩
  | @ticked shown r next s _ htick ih =>
    obtain ⟨hshown, rfl, hgoing⟩ := ih
    have hr := h.after exp shown.length
    have hover : ¬ (start.after exp shown.length).Over := by
      intro hover
      simp [tickOnce, hr.step_rat, hover] at htick
    rw [hr.tickOnce_rat hover] at htick
    obtain ⟨rfl, rfl⟩ := Prod.mk.inj (Except.ok.inj htick)
    rw [List.length_append, List.length_singleton]
    refine ⟨?_, rfl, fun k hk => ?_⟩
    · rw [shows_concat, ← hshown]
      rfl
    · rcases Nat.lt_succ_iff_lt_or_eq.mp hk with hlt | rfl
      · exact hgoing k hlt
      · exact hover

/-- A snapshot is delivered as a multiple, or because the run is over after it. -/
theorem isDelivered_of_divides {every : Rat} {multiple : Prop} [Decidable multiple] {r : Run Rat Rat}
    (h : (divides every r.tick : Result Rat Bool) = .ok (decide multiple)) :
    isDelivered every r.seen r = .ok (decide (multiple ∨ r.Over)) := by
  have hseen : (divides every r.seen.tick : Result Rat Bool) = .ok (decide multiple) := h
  by_cases hmultiple : multiple
  · simp [isDelivered, hseen, hmultiple]
  · simp [isDelivered, hseen, hmultiple, isDone_rat]

/-- What there is to see of a run, and the run after it. -/
theorem Checked.watch_rat (h : r.Checked) (hl : Lasts exp r n) :
    r.watch exp r.remaining = ((r.shows exp n).toArray, .ok (r.after exp n)) :=
  foldTicks_eq_ok.mp (h.ticks_rat hl)

theorem hotRun_lasts : Lasts decay hotRun 3 where
  going := fun k hk => by
    obtain rfl | rfl | rfl : k = 0 ∨ k = 1 ∨ k = 2 := by omega
    all_goals decide +kernel
  ended := by decide +kernel

end

/-! ## Every way of driving a run -/

/-- **All ways of driving a run agree**, in any arithmetic. A run that is followed at once
shows `all` snapshots and comes to its end, which is a run that is over or the fault that
stopped it. A host may have asked for any number of these ticks one by one, and may take any
number more of them after that; what is left then shows the rest of `all` and comes to the SAME
end, and finishing it delivers, of that rest, the multiples and the last one. A fault on the
way is the end of the whole.

An accepted run of settings values comes to such an end if any number of ticks spends its
budget, and over the rationals every accepted run is over then and has an outcome. -/
theorem drivings_agree :
    (∀ {α κ : Type} [Scalar α] [Cell κ] [PerCore α κ] [LawfulPeriod α] (exp : κ → κ)
        (start : Run α κ) (all : Array (Snapshot α κ)) (ending : Except (Halt α κ) (Run α κ)),
      start.watch exp start.remaining = (all, ending) → Ended ending →
        (∀ m ≤ all.size, ∃ r, Watched exp start (all.toList.take m) r) ∧
        ∀ shown r, Watched exp start shown r → ∀ limit,
          match r.watch exp limit with
          | (more, .error halt) => ending = .error halt ∧ shown ++ more.toList = all.toList
          | (more, .ok s) => more.size = min limit (all.size - shown.length) ∧
            ∃ rest, s.watch exp s.remaining = (rest, ending) ∧
              shown ++ more.toList ++ rest.toList = all.toList ∧
              (s.isDone = .ok true → rest = #[]) ∧
              (∀ final last, rest.back? = some final → ending = .ok last →
                last.snapshot = .ok final) ∧
              ∀ k : Nat, 1 ≤ k → ∀ {σ : Type} (f : σ → Snapshot α κ → σ) (acc : σ),
                s.deliver exp (whole α k) f acc =
                  ((delivered k ending rest.toList).foldl f acc, ending)) ∧
    (∀ {κ : Type} [Cell κ] [PerCore Value κ] {config : Config Value}
        {workload : Kernel.Workload Value} {pattern maxTicks : Value}
        {draw : Grid → Result Value (List (Hotspot κ))} {start : Run Value κ},
      prepare config workload pattern maxTicks draw = .ok start →
        (∃ n : Nat, le maxTicks (whole Value n) = .ok true) →
          ∀ exp, Ended (start.watch exp start.remaining).2) ∧
    ∀ {config : Config Rat} {workload : Kernel.Workload Rat} {pattern : Value} {maxTicks : Rat}
        {draw : Grid → Result Rat (List (Hotspot Rat))} {start : Run Rat Rat},
      prepare config workload pattern maxTicks draw = .ok start → ∀ exp : Rat → Rat,
        ∃ all last o, start.watch exp start.remaining = (all, .ok last) ∧
          last.isDone = .ok true ∧ last.outcome = .ok o := by
  refine ⟨fun exp start all ending hall ended => ⟨fun m hm => exists_watched hall hm,
    fun shown r hw limit => ?_⟩, fun accepted ⟨n, spent⟩ exp => ended_of_accepted accepted spent exp,
    fun accepted exp => ?_⟩
  · obtain ⟨left, hleft, hall'⟩ := watch_rest hall ended hw.watch_eq
    have hshown : shown ++ left.toList = all.toList := by simp [← hall']
    rcases hmore : r.watch exp limit with ⟨more, halt | s⟩
    · obtain ⟨hending, rfl⟩ := watch_fault hleft ended hmore
      exact ⟨hending, hshown⟩
    · obtain ⟨rest, hrest, rfl⟩ := watch_rest hleft ended hmore
      obtain ⟨-, -, hle, hstop⟩ := watch_ok hmore
      have hdone (h : s.isDone = .ok true) : rest = #[] := by
        rw [watch_of_isDone h, Prod.mk.injEq] at hrest
        exact hrest.1.symm
      refine ⟨?_, rest, hrest, ?_, hdone, fun final last hfinal hlast => ?_,
        fun k hk _ f acc => deliver_of_watch hk f hrest ended acc⟩
      · -- fewer ticks than were asked for are all that there were
        have hsize : shown.length + (more.size + rest.size) = all.size := by
          simpa using congrArg List.length hshown
        rcases hle.lt_or_eq with hearly | hall
        · rw [hdone (hstop hearly), Array.size_empty] at hsize
          omega
        · omega
      · rw [← hshown, Array.toList_append, List.append_assoc]
      · subst hlast
        exact (watched_of_watch hrest).snapshot_last (by simpa using hfinal)
  · have h : Checked _ := (accepted_fresh accepted).checked
    obtain ⟨n, hl⟩ := exists_lasts exp _
    exact ⟨_, _, _, h.watch_rat hl, isDone_eq_true_iff.mpr hl.ended, (h.after exp n).outcome_rat⟩

/-- One tick asked for and one taken; what is finished from there delivers the
third tick, which is no multiple of two, because it is the last. The settings that a
processor and a kernel have by default are accepted too, and that run comes to its end. -/
theorem drivings_agree_hotRun :
    prepare hotConfig shortKernel (.text "strided") 3 (fun _ => .ok [stillSpot]) = .ok hotRun ∧
      Watched decay hotRun [(hotRun.next decay).seen] (hotRun.next decay) ∧
      ∃ all last more s, hotRun.watch decay hotRun.remaining = (all, .ok last) ∧
        (hotRun.next decay).watch decay 1 = (more, .ok s) ∧
        s.deliver decay (whole Rat (2 : Nat)) (fun ticks s => ticks ++ [s.tick]) [] =
          ([3], .ok last) ∧
        ∃ start : Run Value Float, prepare Config.default Kernel.Workload.custom
            (.text "strided") (.whole 3) (fun _ => .ok []) = .ok start ∧
          ∀ exp, Ended (start.watch exp start.remaining).2 := by
  have watched : Watched decay hotRun [(hotRun.next decay).seen] (hotRun.next decay) :=
    .ticked .start (hotRun_checked.tickOnce_rat (hotRun_lasts.going 0 (by omega)) decay)
  have hall := hotRun_checked.watch_rat hotRun_lasts
  have ended : Ended (.ok (hotRun.after decay 3)) := by
    rintro last ⟨rfl⟩
    exact isDone_eq_true_iff.mpr hotRun_lasts.ended
  have hsplit := (drivings_agree.1 decay hotRun _ _ hall ended).2 _ _ watched 1
  rcases hmore : (hotRun.next decay).watch decay 1 with ⟨more, halt | s⟩
  · rw [hmore] at hsplit
    cases hsplit.1
  · rw [hmore] at hsplit
    obtain ⟨hsize, rest, -, hstream, -, -, hdeliver⟩ := hsplit
    have hmore1 : more.toList.length = 1 := hsize
    have hrest : rest.toList = [(hotRun.after decay 3).seen] := by
      rw [shows_concat] at hstream
      refine (List.append_inj hstream ?_).2
      rw [List.length_append, hmore1, length_shows]
      rfl
    have htwo := hdeliver 2 (by norm_num) (fun ticks s => ticks ++ [s.tick]) []
    rw [hrest] at htwo
    have settings : ∃ start : Run Value Float, prepare Config.default Kernel.Workload.custom
        (.text "strided") (.whole 3) (fun _ => .ok []) = .ok start :=
      exists_ok_of_toBool (by decide +kernel)
    obtain ⟨start, accepted⟩ := settings
    exact ⟨prepare_hotRun, watched, _, _, more, s, hall, rfl, htwo, start, accepted,
      drivings_agree.2.1 accepted ⟨3, rfl⟩⟩

end SiliconBench.Gpu.Run
