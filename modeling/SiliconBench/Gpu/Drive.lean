import SiliconBench.Gpu.Step

/-! # Drive — running a kernel to its end

There are three ways to drive a run: single ticks, all remaining ticks one by
one, and a whole run that DELIVERS only some of its snapshots: every `k`-th, and
the last one. All of them follow the run through the same ticks. A run never takes
more ticks than its budget, so the budget rounded up is fuel enough.

A host that follows a run gathers something on the way. A fault stops the run, but
what was gathered before it is not lost. -/

namespace SiliconBench.Gpu

open Scalar

variable {α κ σ : Type} [Scalar α] [Cell κ] [PerCore α κ]

namespace Run

omit [Cell κ] [PerCore α κ] in
/-- A bound on the ticks to come. -/
def remaining (r : Run α κ) : Nat :=
  ceiling r.maxTicks - r.tick

/-- Follows a run through the ticks to come, at most `fuel` of them, and gathers with
`f`, which sees each snapshot and the run after it. Comes to what was gathered, and to
the run that is left or the fault that stopped it. -/
def follow (exp : κ → κ) (f : σ → Snapshot α κ → Run α κ → Result α σ) :
    Nat → Run α κ → σ → σ × Except (Halt α κ) (Run α κ)
  | 0, r, acc => (acc, .ok r)
  | fuel + 1, r, acc =>
    match r.isDone with
    | .error fault => (acc, .error ⟨fault, r⟩)
    | .ok true => (acc, .ok r)
    | .ok false =>
      match r.tickOnce exp with
      | .error halt => (acc, .error halt)
      | .ok (seen, next) =>
        match f acc seen next with
        | .error fault => (acc, .error ⟨fault, next⟩)
        | .ok acc => follow exp f fuel next acc

omit [Scalar α] [Cell κ] [PerCore α κ] in
/-- What was gathered, unless a fault stopped the run. -/
def unlessHalted : σ × Except (Halt α κ) (Run α κ) → Except (Halt α κ) (σ × Run α κ)
  | (acc, .ok last) => .ok (acc, last)
  | (_, .error halt) => .error halt

/-- Folds `f` over the ticks to come, at most `fuel` of them. -/
def foldTicks (exp : κ → κ) (f : σ → Snapshot α κ → Run α κ → Result α σ) (fuel : Nat)
    (r : Run α κ) (acc : σ) : Except (Halt α κ) (σ × Run α κ) :=
  unlessHalted (r.follow exp f fuel acc)

/-- A fold asks whether the run is over, and goes on after one more tick if it is not. -/
theorem foldTicks_succ (exp : κ → κ) (f : σ → Snapshot α κ → Run α κ → Result α σ) (fuel : Nat)
    (r : Run α κ) (acc : σ) :
    r.foldTicks exp f (fuel + 1) acc =
      match r.isDone with
      | .error fault => .error ⟨fault, r⟩
      | .ok true => .ok (acc, r)
      | .ok false =>
        match r.tickOnce exp with
        | .error halt => .error halt
        | .ok (seen, next) =>
          match f acc seen next with
          | .error fault => .error ⟨fault, next⟩
          | .ok acc => next.foldTicks exp f fuel acc := by
  rw [foldTicks, follow]
  split
  · rfl
  · rfl
  · split
    · rfl
    · split <;> rfl

/-- The next ticks, at most `limit` of them: their snapshots, and how they end. -/
def watch (exp : κ → κ) (limit : Nat) (r : Run α κ) :
    Array (Snapshot α κ) × Except (Halt α κ) (Run α κ) :=
  r.follow exp (fun seen s _ => .ok (seen.push s)) limit #[]

/-- All ticks to come: their snapshots, and the run after them. -/
def ticks (exp : κ → κ) (r : Run α κ) : Except (Halt α κ) (Array (Snapshot α κ) × Run α κ) :=
  r.foldTicks exp (fun seen s _ => .ok (seen.push s)) r.remaining #[]

/-- Whether a run that takes every `every`-th snapshot takes this one. -/
def isDelivered (every : α) (s : Snapshot α κ) (after : Run α κ) : Result α Bool := do
  if ← divides every s.tick then return true
  after.isDone

/-- Runs to the end and hands the delivered snapshots to `f` one after the other. Those
before a fault stay delivered. -/
def deliver (exp : κ → κ) (every : α) (f : σ → Snapshot α κ → σ) (r : Run α κ) (acc : σ) :
    σ × Except (Halt α κ) (Run α κ) :=
  match requireOne "snapshot_every" every with
  | .error fault => (acc, .error ⟨fault, r⟩)
  | .ok () =>
    r.follow exp
      (fun acc s after => do return if ← isDelivered every s after then f acc s else acc)
      r.remaining acc

/-- Runs to the end; what the delivered snapshots were made into, and the run after them. -/
def finish (exp : κ → κ) (every : α) (f : σ → Snapshot α κ → σ) (r : Run α κ) (acc : σ) :
    Except (Halt α κ) (σ × Run α κ) :=
  unlessHalted (r.deliver exp every f acc)

/-- A whole run is a fold, once its period is accepted. -/
theorem finish_eq (exp : κ → κ) (every : α) (f : σ → Snapshot α κ → σ) (r : Run α κ) (acc : σ) :
    r.finish exp every f acc = (do
      r.orHalt (requireOne "snapshot_every" every)
      r.foldTicks exp
        (fun acc s after => do return if ← isDelivered every s after then f acc s else acc)
        r.remaining acc) := by
  rw [finish, deliver]
  cases requireOne "snapshot_every" every with
  | error fault => rfl
  | ok => rfl

end Run

end SiliconBench.Gpu
