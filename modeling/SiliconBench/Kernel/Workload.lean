import SiliconBench.Scalar.Basic

/-! # Workload — what a kernel has to do

A kernel is described by what ONE item of it computes and moves, by how many
items there are, and by how well its accesses stay in the cache. From that come
the two sums that the time stepper needs: all operations, scaled by the
computational intensity of the machine, and all bytes. -/

namespace SiliconBench.Kernel

open Scalar

/-- A kernel. -/
structure Workload (α : Type) where
  name : Value
  /-- operations per item -/
  ops : α
  /-- bytes per item -/
  data : α
  items : α
  /-- hit rate of the cache when accesses are strided -/
  locality : α
  category : Value
  /-- computational intensity in words -/
  intensity : Value
  /-- access pattern in words -/
  access : Value
  applications : Value

variable {α : Type} [Scalar α]

namespace Workload

/-- Nothing is negative, and the hit rate is a fraction. -/
def validate (w : Workload α) : Result α Unit := do
  requireNonNegative "ops_per_item" w.ops
  requireNonNegative "data_per_item_bytes" w.data
  requireNonNegative "total_items" w.items
  requireFraction "locality_factor" w.locality

/-- All operations at a computational intensity. -/
def requiredOps (w : Workload α) (intensity : α) : Result α α :=
  w.ops * w.items * intensity

/-- All bytes. -/
def totalBytes (w : Workload α) : Result α α :=
  w.data * w.items

end Workload

end SiliconBench.Kernel
