import SiliconBench.Fault

/-! # Fields — reading a part of the settings

A part of the settings is a table whose keys are known beforehand. Whatever else
is there is refused by name, all names at once and in order; what is missing
keeps its default. -/

namespace SiliconBench.Value

/-- Texts in ascending order. -/
def sortedNames (names : List String) : List String :=
  names.mergeSort fun a b => decide (a ≤ b)

/-- The keys of a table that are not among the known ones. -/
def unknownKeys (known : List String) (entries : List (String × Value)) : List String :=
  (entries.map Prod.fst).filter fun k => !known.contains k

/-- The entries of a table, or a refusal that names the part. -/
def tableEntries (part : String) : Value → Result Value (List (String × Value))
  | .table entries => .ok entries
  | v => refuse (.notTable part v.kindName)

/-- The entries of a table that has known keys only. -/
def knownEntries (part : String) (known : List String) (v : Value) :
    Result Value (List (String × Value)) := do
  let entries ← tableEntries part v
  let unknown := unknownKeys known entries
  if unknown.isEmpty then return entries
  else refuse (.unknownFields part (sortedNames unknown))

/-- The entry under a key, or its default. -/
def entryOr (entries : List (String × Value)) (key : String) (default : Value) : Value :=
  (entries.lookup key).getD default

end SiliconBench.Value
