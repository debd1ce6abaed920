import SiliconBench.Kernel.Workload
import SiliconBench.Scalar.Setting
import SiliconBench.Value.Display
import SiliconBench.Value.Fields

/-! # Settings — kernels as tables

A kernel of one's own is built from named arguments. An argument that does not
exist is a fault, and so is a missing one that has no default. -/

namespace SiliconBench.Kernel.Workload

open Value

/-- The arguments that describe a kernel in full; the first five have no default. -/
def keys : List String :=
  ["name", "ops_per_item", "data_per_item_bytes", "total_items", "locality_factor", "category",
    "intensity", "access_description", "applications"]

/-- The arguments without a default. -/
def requiredKeys : List String :=
  ["name", "ops_per_item", "data_per_item_bytes", "total_items", "locality_factor"]

/-- The arguments of a custom kernel. -/
def customKeys : List String :=
  ["ops_per_item", "data_per_item_bytes", "total_items", "locality_factor", "name"]

/-- The category of kernels that are not in the catalog. -/
def customKey : String := "custom"

/-- What a custom kernel is when nothing is said of it. -/
def custom : Workload Value :=
  { name := .text "Custom Benchmark", ops := .whole 100, data := .whole 50,
    items := .whole 1000000, locality := .real 0.5, category := .text customKey,
    intensity := .text "User-defined", access := .text "User-defined",
    applications := .text "Custom workload modeling" }

/-- Refuses arguments that are not among the known ones. -/
def requireKnown (known : List String) (entries : List (String × Value)) : Result Value Unit :=
  match unknownKeys known entries with
  | [] => .ok ()
  | name :: _ => .error (.unknownArgument name)

/-- Asks for arguments that have no default. -/
def requirePresent (entries : List (String × Value)) : List String → Result Value Unit
  | [] => .ok ()
  | key :: rest =>
    if (entries.lookup key).isSome then requirePresent entries rest
    else .error (.missingArgument key)

/-- A kernel with the given arguments in place of those of another. -/
def overlay (entries : List (String × Value)) (w : Workload Value) : Workload Value :=
  { name := entryOr entries "name" w.name
    ops := entryOr entries "ops_per_item" w.ops
    data := entryOr entries "data_per_item_bytes" w.data
    items := entryOr entries "total_items" w.items
    locality := entryOr entries "locality_factor" w.locality
    category := entryOr entries "category" w.category
    intensity := entryOr entries "intensity" w.intensity
    access := entryOr entries "access_description" w.access
    applications := entryOr entries "applications" w.applications }

/-- Builds and validates a custom kernel. -/
def ofCustom (entries : List (String × Value)) : Result Value (Workload Value) := do
  requireKnown customKeys entries
  let w := overlay entries custom
  w.validate
  return w

/-- Builds and validates a kernel that is described in full. -/
def ofFull (entries : List (String × Value)) : Result Value (Workload Value) := do
  requireKnown keys entries
  requirePresent entries requiredKeys
  let bare := { custom with intensity := .text "", access := .text "", applications := .text "" }
  let w := overlay entries bare
  w.validate
  return w

/-- Writes a kernel as a table. -/
def toValue (w : Workload Value) : Value :=
  .table [("name", w.name), ("ops_per_item", w.ops), ("data_per_item_bytes", w.data),
    ("total_items", w.items), ("locality_factor", w.locality), ("category", w.category),
    ("intensity", w.intensity), ("access_description", w.access),
    ("applications", w.applications)]

/-- Changes one field and asks nothing. -/
def edit (key : String) (v : Value) (w : Workload Value) : Workload Value :=
  overlay [(key, v)] w

end SiliconBench.Kernel.Workload
