/-! # Status — how a run ended

A run that has nothing to do is not an error, and neither is one that is cut
short: both are told apart from a completed run by the status of the result. -/

namespace SiliconBench

/-- Outcome of a run. -/
inductive Status where
  /-- the work was done -/
  | completed
  /-- there was no work: the result costs nothing -/
  | degenerate
  /-- a cap on instructions or ticks was reached: the figures are best effort -/
  | budgetExceeded
  deriving DecidableEq, Repr

namespace Status

/-- The word for a status. -/
def word : Status → String
  | .completed => "completed"
  | .degenerate => "degenerate"
  | .budgetExceeded => "budget_exceeded"

/-- All of them. -/
def all : List Status := [.completed, .degenerate, .budgetExceeded]

/-- The status with a given word. -/
def ofWord? (w : String) : Option Status :=
  all.find? fun s => s.word == w

end Status

end SiliconBench
