import SiliconBench.Gpu.Settings
import SiliconBench.Proofs.Setting.Bound

/-!
# Bounded — the figures of a graphics processor within their bounds

As for a system, but that the number of cores is rewritten: validation accepts
settings whose number of cores is a whole number in some form and answers them with
that number. Settings that were answered are settled, so a second validation answers
them again (`validate_of_bounded`).
-/

namespace SiliconBench.Gpu.Config

open Value

/-- Settings of a graphics processor that are within their bounds. -/
structure Bounded (exempt : Value → Prop) (c : Config Value) : Prop where
  cores : ∃ n : Int, 1 ≤ n ∧ c.cores = .whole n
  clock : c.clock.Above 0 ∨ exempt c.clock
  bandwidth : c.bandwidth.Above 0 ∨ exempt c.bandwidth
  cacheSize : c.cacheSize.Above 0 ∨ exempt c.cacheSize
  cacheLatency : c.cacheLatency.AtLeast 0 ∨ exempt c.cacheLatency
  cacheWays : c.cacheWays.AtLeast 1 ∨ exempt c.cacheWays
  intensity : c.intensity.AtLeast 0 ∨ exempt c.intensity
  maxPower : c.maxPower.AtLeast 0 ∨ exempt c.maxPower
  junctionToCase : c.junctionToCase.AtLeast 0 ∨ exempt c.junctionToCase
  caseToAmbient : c.caseToAmbient.AtLeast 0 ∨ exempt c.caseToAmbient
  /-- the whole resistance is exempt only where one of its parts is -/
  resistance : ∃ total, c.resistance = .ok total ∧
    (total.Above 0 ∨ exempt total ∧ (exempt c.junctionToCase ∨ exempt c.caseToAmbient))
  capacitance : c.capacitance.Above 0 ∨ exempt c.capacitance

variable {c c' : Config Value}

/-- The number of cores is answered as a positive whole number. -/
theorem of_wholeCores {v : Value} (h : c.wholeCores = .ok v) :
    ∃ n : Int, 1 ≤ n ∧ v = .whole n ∧ truncate c.cores = .ok n := by
  obtain ⟨n, hn, hcores⟩ := bind_eq_ok.mp h
  simp only at hcores
  split at hcores
  case isFalse => cases hcores
  case isTrue hwhole =>
    obtain ⟨below, hbelow, hcores⟩ := bind_eq_ok.mp hcores
    split at hcores
    case isTrue => cases hcores
    case isFalse hnot =>
      cases hcores
      have hlt : lt c.cores (.whole 1) = .ok false := hbelow.trans (by simp [hnot])
      have hone := (lt_whole_eq_false.mp hlt).resolve_right (not_isUndefined_of_isWhole hwhole)
      exact ⟨n, hone.le_of_isWhole hwhole, rfl, hn⟩

theorem wholeCores_of_whole {n : Int} (hn : 1 ≤ n) (h : c.cores = .whole n) :
    c.wholeCores = .ok (.whole n) := by
  have htruncate : Scalar.truncate c.cores = (.ok n : Result Value Int) := by rw [h]; rfl
  have hwhole : Scalar.isWhole c.cores n = true := by
    rw [h]
    simp [Scalar.isWhole, isWhole, number?, Number.compare]
  have hone : Scalar.lt c.cores (Scalar.whole Value 1) = .ok false := by
    rw [h]
    refine lt_whole_eq_false.mpr (.inl ((atLeast_iff (m := .whole n) rfl).mpr ?_))
    rw [Number.compare, Option.some.injEq, Option.some.injEq, Int.compare_eq_lt, Int.compare_eq_eq]
    omega
  simp [wholeCores, htruncate, hwhole, hone]
  rfl

/-- Settings that were answered are within their bounds wherever a figure is defined. -/
theorem of_validate (h : c.validate = .ok c') :
    (∃ n, truncate c.cores = .ok n ∧ c' = { c with cores := .whole n }) ∧
      c'.Bounded IsUndefined := by
  simp only [validate, bind_eq_ok, requirePositive_eq_ok, requireNonNegative_eq_ok,
    requireOne_eq_ok, exists_const] at h
  obtain ⟨cores, hcores, hclock, hbandwidth, hsize, hlatency, hways, hintensity, hpower,
    hjunction, hcase, total, htotal, hpositive, hcapacitance, h⟩ := h
  cases h
  obtain ⟨n, hn, rfl, htruncate⟩ := of_wholeCores hcores
  refine ⟨⟨n, htruncate, rfl⟩, ⟨n, hn, rfl⟩, hclock, hbandwidth, hsize, hlatency, hways,
    hintensity, hpower, hjunction, hcase, ⟨total, htotal, ?_⟩, hcapacitance⟩
  refine hpositive.imp_right fun hundefined => ⟨hundefined, ?_⟩
  rcases hjunction with hjunction | hjunction
  · rcases hcase with hcase | hcase
    · exact absurd hundefined (hjunction.not_isUndefined_add hcase htotal)
    · exact .inr hcase
  · exact .inl hjunction

/-- Settings within their bounds are settled: validation answers them as they are. -/
theorem validate_of_bounded (h : c.Bounded IsUndefined) : c.validate = .ok c := by
  obtain ⟨n, hn, hcores⟩ := h.cores
  obtain ⟨total, htotal, hpositive⟩ := h.resistance
  simp only [validate, bind_eq_ok, requirePositive_eq_ok, requireNonNegative_eq_ok,
    requireOne_eq_ok, exists_const]
  refine ⟨_, wholeCores_of_whole hn hcores, h.clock, h.bandwidth, h.cacheSize, h.cacheLatency,
    h.cacheWays, h.intensity, h.maxPower, h.junctionToCase, h.caseToAmbient, total, htotal,
    hpositive.imp_right And.left, h.capacitance, ?_⟩
  rw [← hcores]
  rfl

end SiliconBench.Gpu.Config
