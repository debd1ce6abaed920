import SiliconBench.Proofs.Gpu.Bounded
import SiliconBench.Proofs.Setting.Overlay

/-!
# Settings — what is known of a processor that was built from a table

A processor is one table without parts, so all of its fields are laid over the
defaults at once. Only the number of cores is written back otherwise than it was
given: as the whole number that it was found to be.
-/

namespace SiliconBench.Gpu.Config

open Value

/-- What settings write is read back as those settings, validated again. -/
theorem ofValue_toValue (c : Config Value) : ofValue c.toValue = c.validate := by
  have hes : knownEntries "GpuConfig" keys c.toValue = .ok _ :=
    knownEntries_eq_ok.mpr ⟨rfl, rfl⟩
  rw [ofValue, hes]
  rfl

/-- The whole part of a value, where it has one. -/
def wholePart (v : Value) : Value :=
  match truncate v with
  | .ok n => .whole n
  | .error _ => v

/-- Settings that are accepted are written back as the table laid over the defaults,
but for the number of cores, which is a whole number. -/
theorem laidOver_of_ofValue {v : Value} {c : Config Value} (hv : v.Distinct)
    (h : ofValue v = .ok c) :
    (∃ w, LaidOver default.toValue v w ∧ c.toValue = w.mapEntry "cores" wholePart) ∧
      c.Bounded IsUndefined := by
  obtain ⟨es, hes, hvalidate⟩ := bind_eq_ok.mp h
  obtain ⟨rfl, hkeys⟩ := knownEntries_eq_ok.mp hes
  obtain ⟨⟨n, hn, rfl⟩, hbounded⟩ := of_validate hvalidate
  refine ⟨⟨(overlay es default).toValue, .leaves hv.1 hkeys rfl, ?_⟩, hbounded⟩
  have hcores : wholePart (overlay es default).cores = .whole n := by
    rw [wholePart, hn]
  simp [toValue, mapEntry, hcores]

end SiliconBench.Gpu.Config
