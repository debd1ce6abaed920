/-! # Value — settings as they are written

A setting is whatever a settings file or a caller puts there. Numbers come in
TWO KINDS that are never confused: whole numbers of any size, and doubles. The
entries of a table keep the order in which their keys first appeared. -/

namespace SiliconBench

/-- A value of a settings file. -/
inductive Value where
  | null
  | bool (b : Bool)
  | whole (n : Int)
  | real (x : Float)
  | text (s : String)
  | list (items : List Value)
  | table (entries : List (String × Value))
  deriving Inhabited

namespace Value

/-- The name of a value's kind, as error texts give it. -/
def kindName : Value → String
  | .null => "NoneType"
  | .bool _ => "bool"
  | .whole _ => "int"
  | .real _ => "float"
  | .text _ => "str"
  | .list _ => "list"
  | .table _ => "dict"

/-- Whether a value counts as true: everything does but nothing, zero and emptiness. -/
def isTrue : Value → Bool
  | .null => false
  | .bool b => b
  | .whole n => n != 0
  | .real x => x != 0.0
  | .text s => !s.isEmpty
  | .list items => !items.isEmpty
  | .table entries => !entries.isEmpty

/-- Writes an entry: in place where the key is there already, at the end where it is new. -/
def putEntry (key : String) (v : Value) : List (String × Value) → List (String × Value)
  | [] => [(key, v)]
  | (k, w) :: rest => if k = key then (k, v) :: rest else (k, w) :: putEntry key v rest

/-- The entry of a table under a key. -/
def field? (key : String) : Value → Option Value
  | .table entries => entries.lookup key
  | _ => none

end Value

end SiliconBench
