import SiliconBench.Proofs.Gpu.Retask

/-!
# Follow — a run is the same however it is followed

A run that was followed for some ticks may be followed on from where it was left, and that
is what following it in one go comes to (`follow_add_of_ok`): no part of it is seen twice or
missed, and a fault stops the whole where it stops a part. Once a run has come to its end, by
being over or by a fault, more fuel changes nothing (`watch_of_ended`). All of this holds in
any arithmetic.
-/

namespace SiliconBench.Gpu.Run

variable {α κ σ : Type} [Scalar α] [Cell κ] [PerCore α κ] {exp : κ → κ}
  {f : σ → Snapshot α κ → Run α κ → Result α σ} {r s next : Run α κ} {m n : Nat}

/-! ## In two parts -/

/-- There is nothing to follow once the run is over. -/
theorem follow_of_isDone (hdone : r.isDone = .ok true) (fuel : Nat) (acc : σ) :
    r.follow exp f fuel acc = (acc, .ok r) := by
  cases fuel with
  | zero => rfl
  | succ fuel => simp only [follow, hdone]

/-- A run that is followed further is over, or a fault stops it, or it goes on after one more
tick. How much fuel is left has no part in that. -/
theorem follow_succ_cases (exp : κ → κ) (f : σ → Snapshot α κ → Run α κ → Result α σ) (r : Run α κ)
    (acc : σ) :
    r.isDone = .ok true ∨
      (∃ gathered halt, ∀ n, r.follow exp f (n + 1) acc = (gathered, .error halt)) ∨
      ∃ (next : Run α κ) (gathered : σ), ∀ n,
        r.follow exp f (n + 1) acc = next.follow exp f n gathered := by
  cases hdone : r.isDone with
  | error fault => exact .inr (.inl ⟨acc, ⟨fault, r⟩, fun n => by simp only [follow, hdone]⟩)
  | ok isOver =>
    cases isOver with
    | true => exact .inl rfl
    | false =>
      cases htick : r.tickOnce exp with
      | error halt => exact .inr (.inl ⟨acc, halt, fun n => by simp only [follow, hdone, htick]⟩)
      | ok x =>
        cases hf : f acc x.1 x.2 with
        | error fault =>
          exact .inr (.inl ⟨acc, ⟨fault, x.2⟩, fun n => by simp only [follow, hdone, htick, hf]⟩)
        | ok gathered =>
          exact .inr (.inr ⟨x.2, gathered, fun n => by simp only [follow, hdone, htick, hf]⟩)

/-- A run that was left somewhere is followed on from there. -/
theorem follow_add_of_ok {acc acc' : σ} (h : r.follow exp f m acc = (acc', .ok s)) (n : Nat) :
    r.follow exp f (m + n) acc = s.follow exp f n acc' := by
  induction m generalizing r acc with
  | zero =>
    cases h
    rw [Nat.zero_add]
  | succ m ih =>
    rcases follow_succ_cases exp f r acc with hdone | ⟨_, halt, hstop⟩ | ⟨next, gathered, hgo⟩
    · rw [follow_of_isDone hdone] at h ⊢
      cases h
      exact (follow_of_isDone hdone n _).symm
    · rw [hstop] at h
      cases h
    · rw [hgo] at h
      rw [Nat.add_right_comm, hgo]
      exact ih h

/-- Nothing follows a fault. -/
theorem follow_add_of_error {acc acc' : σ} {halt : Halt α κ}
    (h : r.follow exp f m acc = (acc', .error halt)) (n : Nat) :
    r.follow exp f (m + n) acc = (acc', .error halt) := by
  induction m generalizing r acc with
  | zero => cases h
  | succ m ih =>
    rw [Nat.add_right_comm]
    rcases follow_succ_cases exp f r acc with hdone | ⟨_, halt', hstop⟩ | ⟨next, gathered, hgo⟩
    · rw [follow_of_isDone hdone] at h
      cases h
    · rw [hstop] at h ⊢
      exact h
    · rw [hgo] at h ⊢
      exact ih h

/-- There is nothing to fold over once the run is over. -/
theorem foldTicks_of_isDone (hdone : r.isDone = .ok true) (fuel : Nat) (acc : σ) :
    r.foldTicks exp f fuel acc = .ok (acc, r) := by
  rw [foldTicks, follow_of_isDone hdone]
  rfl

/-- A fold may be stopped and taken up again: a run that was over then is over still. -/
theorem foldTicks_add (m n : Nat) (acc : σ) :
    r.foldTicks exp f (m + n) acc =
      r.foldTicks exp f m acc >>= fun x => x.2.foldTicks exp f n x.1 := by
  rcases h : r.follow exp f m acc with ⟨gathered, halt | last⟩
  · rw [foldTicks, follow_add_of_error h, foldTicks, h]
    rfl
  · rw [foldTicks, follow_add_of_ok h, foldTicks, h]
    rfl

theorem foldTicks_eq_ok {fuel : Nat} {acc acc' : σ} :
    r.foldTicks exp f fuel acc = .ok (acc', s) ↔ r.follow exp f fuel acc = (acc', .ok s) := by
  rw [foldTicks]
  rcases r.follow exp f fuel acc with ⟨gathered, halt | last⟩ <;> simp [unlessHalted]

/-! ## One tick -/

/-- Whatever the tick, it is counted, and the task stays. -/
theorem tickOnce_tick {seen : Snapshot α κ} (h : r.tickOnce exp = .ok (seen, next)) :
    next.tick = r.tick + 1 ∧ next.task = r.task := by
  have hself : Retasked r.task r.task r.tick r r := ⟨rfl, rfl, rfl⟩
  have hmatched : Matched _ _ (r.tickOnce exp) (r.tickOnce exp) :=
    hself.tickOnce ⟨.refl _, rfl⟩ rfl rfl
  rw [h] at hmatched
  exact ⟨hmatched.2.tick, hmatched.2.task⟩

/-- A run that is over, or of which that cannot be told, has no tick. -/
theorem isDone_of_tickOnce {seen : Snapshot α κ} (h : r.tickOnce exp = .ok (seen, next)) :
    r.isDone = .ok false := by
  obtain ⟨stepped, hstep, -⟩ := bind_eq_ok.mp h
  rw [step] at hstep
  cases hdone : r.isDone with
  | error fault => simp [hdone] at hstep
  | ok isOver =>
    cases isOver with
    | true => simp [hdone] at hstep
    | false => rfl

theorem snapshot_of_tickOnce {seen : Snapshot α κ} (h : r.tickOnce exp = .ok (seen, next)) :
    next.snapshot = .ok seen := by
  obtain ⟨stepped, -, h⟩ := bind_eq_ok.mp h
  cases hsnapshot : stepped.snapshot with
  | error fault => simp [hsnapshot] at h
  | ok shown =>
    rw [hsnapshot] at h
    cases h
    exact hsnapshot

/-- A tick that can be taken is gathered first. -/
theorem follow_tick {first : Snapshot α κ} {acc a : σ} (h : r.tickOnce exp = .ok (first, next))
    (hf : f acc first next = .ok a) (n : Nat) :
    r.follow exp f (n + 1) acc = next.follow exp f n a := by
  simp only [follow, isDone_of_tickOnce h, h, hf]

/-- Where there is no tick nothing is gathered, however a host follows the run. -/
theorem follow_of_no_tick {halt : Halt α κ} (h : r.tickOnce exp = .error halt) (n : Nat) (acc : σ) :
    r.follow exp f n acc = (acc, (r.watch exp n).2) := by
  cases n with
  | zero => rfl
  | succ n =>
    cases hdone : r.isDone with
    | error fault => simp [follow, watch, hdone]
    | ok isOver => cases isOver <;> simp [follow, watch, hdone, h]

/-! ## Snapshots -/

variable {shown all : Array (Snapshot α κ)} {ending : Except (Halt α κ) (Run α κ)}

theorem watch_of_isDone (hdone : r.isDone = .ok true) (n : Nat) : r.watch exp n = (#[], .ok r) :=
  follow_of_isDone hdone n _

/-- Where there is no tick nothing is seen, and only a run that is over is left as it was. -/
theorem watch_of_no_tick {halt : Halt α κ} (h : r.tickOnce exp = .error halt)
    (hw : r.watch exp n = (shown, ending)) :
    shown = #[] ∧ ∀ last, ending = .ok last → last = r ∧ (0 < n → r.isDone = .ok true) := by
  have hnone : (#[], (r.watch exp n).2) = (shown, ending) := (follow_of_no_tick h n #[]).symm.trans hw
  obtain ⟨rfl, rfl⟩ := Prod.mk.inj hnone
  refine ⟨rfl, fun last hlast => ?_⟩
  cases n with
  | zero =>
    cases hlast
    exact ⟨rfl, fun hn => absurd hn (Nat.lt_irrefl 0)⟩
  | succ n =>
    cases hdone : r.isDone with
    | error fault => simp [watch, follow, hdone] at hlast
    | ok isOver =>
      cases isOver with
      | true =>
        rw [watch_of_isDone hdone] at hlast
        cases hlast
        exact ⟨rfl, fun _ => rfl⟩
      | false => simp [watch, follow, hdone, h] at hlast

/-- Snapshots are gathered after those that there are already. -/
theorem follow_push (exp : κ → κ) (n : Nat) (r : Run α κ) (shown : Array (Snapshot α κ)) :
    r.follow exp (fun seen s _ => .ok (seen.push s)) n shown =
      (shown ++ (r.watch exp n).1, (r.watch exp n).2) := by
  induction n generalizing r shown with
  | zero => simp [follow, watch]
  | succ n ih =>
    cases htick : r.tickOnce exp with
    | error halt =>
      have hnone : (r.watch exp (n + 1)).1 = #[] := (watch_of_no_tick htick rfl).1
      rw [follow_of_no_tick htick, hnone, Array.append_empty]
    | ok x =>
      obtain ⟨first, next⟩ := x
      rw [watch, follow_tick htick rfl, follow_tick htick rfl, ih next, ih next]
      simp

/-- A tick that can be taken is seen first. -/
theorem watch_tick {first : Snapshot α κ} (h : r.tickOnce exp = .ok (first, next)) (n : Nat) :
    r.watch exp (n + 1) = (#[first] ++ (next.watch exp n).1, (next.watch exp n).2) := by
  rw [watch, follow_tick h rfl, follow_push]
  rfl

theorem watch_append (h : r.watch exp m = (shown, .ok s)) (n : Nat) :
    r.watch exp (m + n) = (shown ++ (s.watch exp n).1, (s.watch exp n).2) := by
  rw [watch, follow_add_of_ok h, follow_push]

theorem watch_halted {halt : Halt α κ} (h : r.watch exp m = (shown, .error halt)) (n : Nat) :
    r.watch exp (m + n) = (shown, .error halt) :=
  follow_add_of_error h n

/-- Each tick is counted and shows one snapshot, and only a run that is over stops early. -/
theorem watch_ok (h : r.watch exp n = (shown, .ok s)) :
    s.tick = r.tick + shown.size ∧ s.task = r.task ∧ shown.size ≤ n ∧
      (shown.size < n → s.isDone = .ok true) := by
  induction n generalizing r shown with
  | zero =>
    cases h
    exact ⟨rfl, rfl, Nat.le_refl 0, fun hlt => absurd hlt (Nat.not_lt_zero _)⟩
  | succ n ih =>
    cases htick : r.tickOnce exp with
    | error halt =>
      obtain ⟨rfl, hend⟩ := watch_of_no_tick htick h
      obtain ⟨rfl, hdone⟩ := hend s rfl
      exact ⟨rfl, rfl, Nat.zero_le _, fun _ => hdone (Nat.succ_pos n)⟩
    | ok x =>
      rw [watch_tick htick] at h
      obtain ⟨rfl, hnext⟩ := Prod.mk.inj h
      obtain ⟨htick', htask⟩ := tickOnce_tick htick
      have hrest : x.2.watch exp n = ((x.2.watch exp n).1, .ok s) := Prod.ext rfl hnext
      obtain ⟨hs, hstask, hle, hstop⟩ := ih hrest
      rw [Array.size_append, Array.size_singleton]
      exact ⟨by omega, hstask.trans htask, by omega, fun hlt => hstop (by omega)⟩

/-- What is left of the budget after ticks that were seen. -/
theorem remaining_of_watch (h : r.watch exp n = (shown, .ok s)) :
    s.remaining = r.remaining - shown.size := by
  obtain ⟨htick, htask, -⟩ := watch_ok h
  have hbudget : s.maxTicks = r.maxTicks := congrArg Task.maxTicks htask
  rw [remaining, remaining, hbudget, htick]
  omega

/-! ## The end -/

/-- A run has come to its end: it is over, or a fault has stopped it. -/
def Ended (ending : Except (Halt α κ) (Run α κ)) : Prop :=
  ∀ last, ending = .ok last → last.isDone = .ok true

/-- Fuel that a run does not need changes nothing. -/
theorem watch_of_ended (h : r.watch exp m = (shown, ending)) (ended : Ended ending) (hle : m ≤ n) :
    r.watch exp n = (shown, ending) := by
  obtain ⟨k, rfl⟩ := Nat.exists_eq_add_of_le hle
  cases ending with
  | error halt => exact watch_halted h k
  | ok last => rw [watch_append h, watch_of_isDone (ended last rfl), Array.append_empty]

/-- **A run that was left on the way** sees the rest, and comes to the end of the whole. -/
theorem watch_rest (hall : r.watch exp r.remaining = (all, ending)) (ended : Ended ending)
    (h : r.watch exp n = (shown, .ok s)) :
    ∃ rest, s.watch exp s.remaining = (rest, ending) ∧ shown ++ rest = all := by
  obtain ⟨-, -, hle, hstop⟩ := watch_ok h
  rcases Nat.lt_or_ge r.remaining n with hn | hn
  · rw [watch_of_ended hall ended (Nat.le_of_lt hn)] at h
    obtain ⟨rfl, rfl⟩ := Prod.mk.inj h
    exact ⟨#[], watch_of_isDone (ended s rfl) _, Array.append_empty⟩
  · obtain ⟨k, hk⟩ := Nat.exists_eq_add_of_le hn
    rw [hk, watch_append h] at hall
    obtain ⟨hshown, hending⟩ := Prod.mk.inj hall
    rcases Nat.lt_or_eq_of_le hle with hearly | hsize
    · -- the run was over before, so that neither fuel nor budget matters
      have hdone := hstop hearly
      rw [watch_of_isDone hdone] at hshown hending ⊢
      exact ⟨#[], by rw [← hending], hshown⟩
    · have hleft : s.remaining = k := by
        rw [remaining_of_watch h]
        omega
      rw [hleft]
      exact ⟨_, Prod.ext rfl hending, hshown⟩

/-- A fault on the way is the end of the whole. -/
theorem watch_fault {halt : Halt α κ} (hall : r.watch exp r.remaining = (all, ending))
    (ended : Ended ending) (h : r.watch exp n = (shown, .error halt)) :
    ending = .error halt ∧ shown = all := by
  rcases Nat.le_total n r.remaining with hn | hn
  · obtain ⟨k, hk⟩ := Nat.exists_eq_add_of_le hn
    rw [hk, watch_halted h] at hall
    obtain ⟨rfl, rfl⟩ := Prod.mk.inj hall
    exact ⟨rfl, rfl⟩
  · rw [watch_of_ended hall ended hn] at h
    obtain ⟨rfl, rfl⟩ := Prod.mk.inj h
    exact ⟨rfl, rfl⟩

/-- A run of which it cannot be told whether it is over comes to its end with that fault. -/
theorem watch_of_fault {fault : Fault α} (hfault : r.isDone = .error fault)
    (h : r.watch exp n = (shown, ending)) (ended : Ended ending) :
    0 < n ∧ shown = #[] ∧ ending = .error ⟨fault, r⟩ := by
  cases n with
  | zero =>
    cases h
    have hdone := ended r rfl
    rw [hfault] at hdone
    cases hdone
  | succ n =>
    simp only [watch, follow, hfault, Prod.mk.injEq] at h
    exact ⟨Nat.succ_pos n, h.1.symm, h.2.symm⟩

/-- A run that is not over yet shows something before it is. -/
theorem ne_nil_of_watch {last : Run α κ} (hgoing : r.isDone = .ok false)
    (h : r.watch exp n = (shown, .ok last)) (hlast : last.isDone = .ok true) :
    shown.toList ≠ [] := by
  intro hnone
  have hsize : shown.size = 0 := by rw [← Array.length_toList, hnone, List.length_nil]
  cases n with
  | zero =>
    cases h
    rw [hgoing] at hlast
    cases hlast
  | succ n =>
    cases htick : r.tickOnce exp with
    | error halt =>
      have hdone := ((watch_of_no_tick htick h).2 last rfl).2 (Nat.succ_pos n)
      rw [hgoing] at hdone
      cases hdone
    | ok x =>
      rw [watch_tick htick] at h
      obtain ⟨rfl, -⟩ := Prod.mk.inj h
      simp at hsize

/-! ## Ticks that are asked for one by one -/

/-- A host that asked for ticks one by one has seen these snapshots, and has
brought the run to this state. -/
inductive Watched (exp : κ → κ) (start : Run α κ) : List (Snapshot α κ) → Run α κ → Prop
  | start : Watched exp start [] start
  | ticked {shown : List (Snapshot α κ)} {r next : Run α κ} {s : Snapshot α κ} :
      Watched exp start shown r → r.tickOnce exp = .ok (s, next) →
        Watched exp start (shown ++ [s]) next

variable {start : Run α κ} {seen : List (Snapshot α κ)}

theorem Watched.trans {more : List (Snapshot α κ)} (hr : Watched exp start seen r)
    (hs : Watched exp r more s) : Watched exp start (seen ++ more) s := by
  induction hs with
  | start => rwa [List.append_nil]
  | ticked _ htick ih =>
    rw [← List.append_assoc]
    exact .ticked ih htick

/-- What was seen tick by tick is what is seen of as many ticks in one go. -/
theorem Watched.watch_eq (hw : Watched exp start seen r) :
    start.watch exp seen.length = (seen.toArray, .ok r) := by
  induction hw with
  | start => rfl
  | ticked _ htick ih =>
    rw [List.length_append, List.length_singleton, watch_append ih, watch_tick htick]
    simp [watch, follow]

/-- The last snapshot shows the run to which the host has brought it. -/
theorem Watched.snapshot_last (hw : Watched exp start seen r) {last : Snapshot α κ}
    (hlast : seen.getLast? = some last) : r.snapshot = .ok last := by
  cases hw with
  | start => simp at hlast
  | ticked _ htick =>
    rw [List.getLast?_concat, Option.some.injEq] at hlast
    exact hlast ▸ snapshot_of_tickOnce htick

/-- All ticks that were taken in one go can be asked for one by one. -/
theorem watched_of_watch (h : start.watch exp n = (all, .ok r)) :
    Watched exp start all.toList r := by
  induction n generalizing start all with
  | zero =>
    cases h
    exact .start
  | succ n ih =>
    cases htick : start.tickOnce exp with
    | error halt =>
      obtain ⟨rfl, hend⟩ := watch_of_no_tick htick h
      exact (hend r rfl).1 ▸ .start
    | ok x =>
      rw [watch_tick htick] at h
      obtain ⟨rfl, hnext⟩ := Prod.mk.inj h
      rw [Array.toList_append]
      exact (Watched.ticked .start htick).trans (ih (Prod.ext rfl hnext))

/-- However many of the ticks that can be seen are asked for one by one, all of them are taken. -/
theorem exists_watched (h : start.watch exp n = (all, ending)) {m : Nat} (hm : m ≤ all.size) :
    ∃ r, Watched exp start (all.toList.take m) r := by
  induction n generalizing start all m with
  | zero =>
    cases h
    exact ⟨start, by simpa using Watched.start⟩
  | succ n ih =>
    cases m with
    | zero => exact ⟨start, by simpa using Watched.start⟩
    | succ m =>
      cases htick : start.tickOnce exp with
      | error halt =>
        obtain ⟨rfl, -⟩ := watch_of_no_tick htick h
        exact absurd hm (Nat.not_succ_le_zero m)
      | ok x =>
        rw [watch_tick htick] at h
        obtain ⟨rfl, hnext⟩ := Prod.mk.inj h
        rw [Array.size_append, Array.size_singleton] at hm
        have hrest : x.2.watch exp n = ((x.2.watch exp n).1, ending) := Prod.ext rfl hnext
        obtain ⟨r, hr⟩ := ih hrest (m := m) (by omega)
        exact ⟨r, by simpa using (Watched.ticked .start htick).trans hr⟩

end SiliconBench.Gpu.Run
