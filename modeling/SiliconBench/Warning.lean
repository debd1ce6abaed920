import SiliconBench.Value.Basic

/-! # Warning — what a user should know about a result

A warning stands BESIDE a result and changes nothing about it. Its wording belongs
to `SiliconBench.Message`. -/

namespace SiliconBench

/-- What a user should know about a result. -/
inductive Warning (α : Type) where
  /-- the cap on instructions was reached -/
  | capReached (cap : α)
  /-- the budget of ticks was spent at that percentage of the work -/
  | budgetSpent (name : Value) (maxTicks percent : α)

end SiliconBench
