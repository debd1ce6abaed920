import SiliconBench.Proofs.Gpu.Settings
import SiliconBench.Proofs.Machine.Settings
import SiliconBench.Proofs.Matched

/-!
# Revalidated — a second validation finds what building would find

Settings can be changed after they were checked, one field after the other and to
any value. Validating them again goes through the parts of an object, building goes
through the parts of a table, and the two must not drift apart: they look at the
SAME fields in the same order, so they end alike, with the same fault if with any
(`revalidated_as_built`). What a processor's validation answers is settled.
-/

namespace SiliconBench

/-- A system after some of its fields were changed, without a check. -/
def Machine.Config.edited (c : Machine.Config Value) (edits : List (List String × Value)) :
    Machine.Config Value :=
  edits.foldl (fun c e => c.edit e.1 e.2) c

/-- A processor after some of its fields were changed, without a check. -/
def Gpu.Config.edited (c : Gpu.Config Value) (edits : List (String × Value)) :
    Gpu.Config Value :=
  edits.foldl (fun c e => c.edit e.1 e.2) c

/-- Whatever a system holds, to validate it and to build it from what it writes end alike. -/
theorem Machine.Config.validate_matched (c : Machine.Config Value) :
    Matched Eq (fun _ built => built = c.named) c.validate (ofValue c.toValue) := by
  rw [ofValue_toValue]
  cases c.validate with
  | error fault => rfl
  | ok _ => rfl

/-- Validation changes nothing but the form of the number of cores, and what it answers
is built and validated as it is. -/
theorem Gpu.Config.settled_of_validate {c c' : Gpu.Config Value} (h : c.validate = .ok c') :
    (∃ n, c' = { c with cores := .whole n }) ∧ ofValue c'.toValue = .ok c' ∧
      c'.validate = .ok c' := by
  obtain ⟨⟨n, -, hcores⟩, hbounded⟩ := of_validate h
  have hagain := validate_of_bounded hbounded
  exact ⟨⟨n, hcores⟩, (ofValue_toValue c').trans hagain, hagain⟩

/-- **After any changes validation ends as building does.** Both accept a system, and
what is built is that system, its name shown as a text; or both have the same fault, so
the same kind of it, and the same text where a fault carries one (refusals and bad
values do, arithmetic does not). For a processor both answer the same settings, and to
build or to validate these again changes nothing. -/
theorem revalidated_as_built :
    (∀ (start : Machine.Config Value) (edits : List (List String × Value)),
      Matched Eq (fun _ built => built = (start.edited edits).named)
        (start.edited edits).validate
        (Machine.Config.ofValue (start.edited edits).toValue)) ∧
    ∀ (start : Gpu.Config Value) (edits : List (String × Value)),
      Matched Eq Eq (start.edited edits).validate
        (Gpu.Config.ofValue (start.edited edits).toValue) ∧
      ∀ settled, (start.edited edits).validate = .ok settled →
        (∃ n, settled = { start.edited edits with cores := .whole n }) ∧
          Gpu.Config.ofValue settled.toValue = .ok settled ∧
          settled.validate = .ok settled := by
  constructor
  · intro start edits
    exact (start.edited edits).validate_matched
  · intro start edits
    refine ⟨.of_eq (start.edited edits).ofValue_toValue.symm, fun settled hsettled => ?_⟩
    exact Gpu.Config.settled_of_validate hsettled

/-- Changes of a system: a level that is not enabled may have any size, but the last
change is refused. -/
def levelEdits : List (List String × Value) :=
  [(["cache", "l2", "enabled"], .bool false), (["cache", "l2", "size_kb"], .whole 0),
    (["cache", "l3", "latency_cycles"], .whole (-2))]

/-- The system after these changes. -/
def editedSystem : Machine.Config Value :=
  { Machine.Config.default with
    caches := { Machine.Caches.default with
      l2 := { Machine.Caches.default.l2 with enabled := .bool false, size := .whole 0 }
      l3 := { Machine.Caches.default.l3 with latency := .whole (-2) } } }

theorem edited_levelEdits : Machine.Config.default.edited levelEdits = editedSystem := rfl

theorem edited_cores : Gpu.Config.default.edited [("cores", .real 16.0)] =
    { Gpu.Config.default with cores := .real 16.0 } := rfl

/-- The system is refused when it is built, and the processor is built as it is. -/
theorem revalidated_as_built_default :
    Machine.Config.ofValue editedSystem.toValue =
      .error (.refused (.belowZero "latency_cycles" (.whole (-2)))) ∧
    Gpu.Config.ofValue ({ Gpu.Config.default with cores := .whole 16 } : Gpu.Config Value).toValue =
      .ok { Gpu.Config.default with cores := .whole 16 } := by
  have hrefused : editedSystem.validate =
      .error (.refused (.belowZero "latency_cycles" (.whole (-2)))) := rfl
  have hcores : ({ Gpu.Config.default with cores := .real 16.0 } : Gpu.Config Value).validate =
      .ok { Gpu.Config.default with cores := .whole 16 } := rfl
  have hsystem := revalidated_as_built.1 Machine.Config.default levelEdits
  have hprocessor := revalidated_as_built.2 Gpu.Config.default [("cores", .real 16.0)]
  rw [edited_levelEdits] at hsystem
  rw [edited_cores] at hprocessor
  obtain ⟨fault, hbuilt, rfl⟩ := hsystem.exists_of_error hrefused
  exact ⟨hbuilt, (hprocessor.2 _ hcores).2.1⟩

end SiliconBench
