import Mathlib
import SiliconBench.Decimal.Binary64

/-!
# Double — a reading is what the bits of a double stand for

Everything said about doubles is said about their `Reading`, while their sums are
those of the floating-point model of Lean, which unpacks the same bits by itself.
The two take a double apart ALIKE (`Reading.of_eq`), so a sum can be read: it is
undefined only where a summand is, or where two infinities cancel each other
(`Reading.of_add_ne_undefined`).
-/

namespace SiliconBench.Decimal

open Float.Model (UnpackedFloat Format)
open Float.Model.UnpackedFloat

/-! ## The fields of a double -/

theorem toNat_unpackExponent (b : UInt64) :
    (@unpackExponent .binary64 b.toBitVec).toNat = b.toNat / hiddenBit % fieldCount := by
  simp [unpackExponent, hiddenBit, fieldCount, BitVec.extractLsb_toNat, Nat.shiftRight_eq_div_pow]

theorem toNat_unpackMantissa (b : UInt64) :
    (@unpackMantissa .binary64 b.toBitVec).toNat = b.toNat % hiddenBit := by
  simp [unpackMantissa, hiddenBit, BitVec.extractLsb_toNat]

theorem toNat_unpackSign (b : UInt64) :
    (@unpackSign .binary64 b.toBitVec).toNat = b.toNat / signBit := by
  have hb : b.toNat / 9223372036854775808 < 2 := by
    have := b.toNat_lt
    omega
  simp [unpackSign, signBit, BitVec.extractLsb_toNat, Nat.shiftRight_eq_div_pow, Nat.mod_eq_of_lt hb]

/-- The mantissa together with the bit that is not stored. -/
theorem toNat_hidden_unpackMantissa (b : UInt64) :
    (1#1 ++ @unpackMantissa .binary64 b.toBitVec).toNat =
      hiddenBit + b.toNat % hiddenBit := by
  have hlt : b.toNat % hiddenBit < 2 ^ 52 := Nat.mod_lt _ (by decide)
  rw [BitVec.toNat_append, toNat_unpackMantissa, ← Nat.shiftLeft_add_eq_or_of_lt hlt]
  rfl

theorem sign_eq (b : UInt64) :
    (Sign.ofBitVec (@unpackSign .binary64 b.toBitVec) == .negative) =
      decide (signBit ≤ b.toNat) := by
  have hzero : @unpackSign .binary64 b.toBitVec = 0#1 ↔ b.toNat / signBit = 0 := by
    rw [← toNat_unpackSign, ← BitVec.toNat_inj]
    rfl
  have hlt : b.toNat / signBit = 0 ↔ ¬ signBit ≤ b.toNat := by
    rw [Nat.div_eq_zero_iff]
    simp [signBit]
  by_cases hs : signBit ≤ b.toNat
  · rw [Sign.ofBitVec, if_neg (fun h => hlt.mp (hzero.mp h) hs), decide_eq_true hs]
    rfl
  · rw [Sign.ofBitVec, if_pos (hzero.mpr (hlt.mpr hs)), decide_eq_false hs]
    rfl

/-! ## Packing

A packed double keeps whether it is defined: what is too large becomes an infinity,
never an undefined double. -/

section Packing

variable {spec : Format}

/-- Only a full exponent with a mantissa is undefined. -/
theorem unpack_eq_notANumber {b : BitVec spec.numBits} (h : unpack spec b = .notANumber) :
    unpackExponent b = -1#_ ∧ unpackMantissa b ≠ 0#_ := by
  rw [unpack] at h
  split at h
  case isTrue he =>
    split at h
    · cases h
    case isFalse hm => exact ⟨he, hm⟩
  case isFalse he =>
    split at h
    · split at h <;> cases h
    · cases h

/-- Only a full exponent is undefined or infinite. -/
theorem unpack_finite {b : BitVec spec.numBits} (he : unpackExponent b ≠ -1#_) :
    unpack spec b ≠ .notANumber ∧ ∀ s, unpack spec b ≠ .infinity s := by
  rw [unpack, if_neg he]
  split
  · split <;> exact ⟨UnpackedFloat.noConfusion, fun _ => UnpackedFloat.noConfusion⟩
  · exact ⟨UnpackedFloat.noConfusion, fun _ => UnpackedFloat.noConfusion⟩

theorem ofNat_ne_neg_one {w n : Nat} (h : n + 1 < 2 ^ w) : BitVec.ofNat w n ≠ -1#w := by
  intro he
  have hn : n % 2 ^ w = 2 ^ w - 1 := by
    have := congrArg BitVec.toNat he
    rwa [BitVec.toNat_ofNat, BitVec.neg_one_eq_allOnes, BitVec.toNat_allOnes] at this
  rw [Nat.mod_eq_of_lt (by omega)] at hn
  omega

/-- A double that is defined is not packed as an undefined one. -/
theorem pack_eq (spec : Format) {u : UnpackedFloat} (h : u ≠ .notANumber) :
    ∃ s e m, u.pack spec = packComponents spec s e m ∧ (e = -1#_ → m = 0#_) := by
  cases u with
  | notANumber => exact absurd rfl h
  | infinity s => exact ⟨_, _, _, rfl, fun _ => rfl⟩
  | zero s => exact ⟨_, _, _, rfl, fun _ => rfl⟩
  | finite s m e hm =>
    have hbits : 1 < 2 ^ spec.exponentBits := Nat.one_lt_two_pow (Nat.pos_iff_ne_zero.mp spec.he)
    rw [pack]
    split
    · exact ⟨_, _, _, rfl, fun _ => rfl⟩
    · -- neither a normal nor a subnormal double has a full exponent
      split
      · exact ⟨_, _, _, rfl, fun he => absurd he (ofNat_ne_neg_one (by omega))⟩
      · exact ⟨_, _, _, rfl, fun he => absurd he (ofNat_ne_neg_one hbits)⟩

theorem unpack_pack_ne_notANumber {u : UnpackedFloat} (h : u ≠ .notANumber) :
    unpack spec (u.pack spec) ≠ .notANumber := by
  intro hn
  obtain ⟨s, e, m, hpack, hdefined⟩ := pack_eq spec h
  obtain ⟨he, hm⟩ := unpack_eq_notANumber hn
  rw [hpack, unpackExponent_packComponents] at he
  rw [hpack, unpackMantissa_packComponents] at hm
  exact hm (hdefined he)

theorem roundWithAccuracy_ne_notANumber {s : Sign} {m : Nat} {e : Int} {a : Accuracy} :
    roundWithAccuracy spec s m e a ≠ .notANumber := by
  intro h
  simp only [roundWithAccuracy] at h
  split at h <;> cases h

theorem normalize_ne_notANumber {m e : Int} {s : Sign} :
    normalize spec m e s ≠ .notANumber := by
  rw [UnpackedFloat.normalize]
  split
  · exact roundWithAccuracy_ne_notANumber
  · exact UnpackedFloat.noConfusion
  · exact roundWithAccuracy_ne_notANumber

/-- Of two defined doubles only infinities of different signs have no sum. -/
theorem add_ne_notANumber {u v : UnpackedFloat} (hu : u ≠ .notANumber) (hv : v ≠ .notANumber)
    (hsign : ∀ s t, u = .infinity s → v = .infinity t → s = t) :
    add spec u v ≠ .notANumber := by
  cases u with
  | notANumber => exact absurd rfl hu
  | infinity s =>
    cases v with
    | notANumber => exact absurd rfl hv
    | infinity t =>
      cases hsign s t rfl rfl
      cases s <;> exact UnpackedFloat.noConfusion
    | zero | finite => exact UnpackedFloat.noConfusion
  | zero s =>
    cases v with
    | notANumber => exact absurd rfl hv
    | zero t => cases s <;> cases t <;> exact UnpackedFloat.noConfusion
    | infinity | finite => exact UnpackedFloat.noConfusion
  | finite s m e hm =>
    cases v with
    | notANumber => exact absurd rfl hv
    | finite => exact normalize_ne_notANumber
    | infinity | zero => exact UnpackedFloat.noConfusion

end Packing

/-! ## Readings -/

namespace Reading

/-- The reading of a double that was unpacked. -/
def ofUnpacked : UnpackedFloat → Reading
  | .notANumber => .undefined
  | .infinity s => .infinite (s == .negative)
  | .zero s => .finite (s == .negative) 0 leastExponent
  | .finite s m e _ => .finite (s == .negative) m e

/-- A double is read as the floating-point model unpacks it. -/
theorem of_eq (x : Float) : of x = ofUnpacked x.toModel.unpack := by
  have hfull : @unpackExponent .binary64 x.toBits.toBitVec = -1#11 ↔
      x.toBits.toNat / hiddenBit % fieldCount = fieldCount - 1 := by
    rw [← toNat_unpackExponent, ← BitVec.toNat_inj]
    rfl
  have hleast : @unpackExponent .binary64 x.toBits.toBitVec = 0#11 ↔
      x.toBits.toNat / hiddenBit % fieldCount = 0 := by
    rw [← toNat_unpackExponent, ← BitVec.toNat_inj]
    rfl
  have hmantissa : @unpackMantissa .binary64 x.toBits.toBitVec = 0#52 ↔
      x.toBits.toNat % hiddenBit = 0 := by
    rw [← toNat_unpackMantissa, ← BitVec.toNat_inj]
    rfl
  have hunpack : x.toModel.unpack = unpack .binary64 x.toBits.toBitVec := rfl
  rw [hunpack, unpack, of]
  by_cases h1 : x.toBits.toNat / hiddenBit % fieldCount = fieldCount - 1
  · rw [if_pos h1, if_pos (hfull.mpr h1)]
    by_cases h2 : x.toBits.toNat % hiddenBit = 0
    · rw [if_pos h2, if_pos (hmantissa.mpr h2), ofUnpacked, sign_eq]
    · rw [if_neg h2, if_neg (mt hmantissa.mp h2), ofUnpacked]
  · rw [if_neg h1, if_neg (mt hfull.mp h1)]
    by_cases h3 : x.toBits.toNat / hiddenBit % fieldCount = 0
    · rw [if_pos h3, if_pos (hleast.mpr h3)]
      by_cases h2 : x.toBits.toNat % hiddenBit = 0
      · rw [dif_pos (hmantissa.mpr h2), ofUnpacked, sign_eq, h2]
      · rw [dif_neg (mt hmantissa.mp h2), ofUnpacked, sign_eq, toNat_unpackMantissa,
          toNat_unpackExponent, h3]
        rfl
    · have hexponent : leastExponent + ((x.toBits.toNat / hiddenBit % fieldCount - 1 : Nat) : Int) =
          (x.toBits.toNat / hiddenBit % fieldCount : Nat) -
            ((Format.binary64.exponentBias : Int) + 52) := by
        have hbias : Format.binary64.exponentBias = 1023 := rfl
        rw [hbias, leastExponent]
        omega
      rw [if_neg h3, if_neg (mt hleast.mp h3), ofUnpacked, sign_eq, toNat_unpackExponent,
        toNat_hidden_unpackMantissa, hexponent]
      rfl

theorem of_eq_undefined (x : Float) : of x = .undefined ↔ x.toModel.unpack = .notANumber := by
  rw [of_eq]
  cases x.toModel.unpack <;> simp [ofUnpacked]

/-- A double is read as undefined exactly where it is not a number. -/
theorem of_eq_undefined_iff_isNaN (x : Float) : of x = .undefined ↔ x.isNaN = true := by
  rw [of_eq_undefined]
  exact isNaN_iff.symm

/-- A reading above the lower infinity, of which every sum is defined. -/
def HasSums (r : Reading) : Prop :=
  r ≠ .undefined ∧ r ≠ .infinite true

theorem hasSums_iff (x : Float) :
    (of x).HasSums ↔ x.toModel.unpack ≠ .notANumber ∧ x.toModel.unpack ≠ .infinity .negative := by
  rw [of_eq, HasSums]
  cases x.toModel.unpack <;> simp [ofUnpacked]

theorem of_add_ne_undefined {x y : Float} (hx : (of x).HasSums) (hy : (of y).HasSums) :
    of (x + y) ≠ .undefined := by
  obtain ⟨hx, hxn⟩ := (hasSums_iff x).mp hx
  obtain ⟨hy, hyn⟩ := (hasSums_iff y).mp hy
  have hsum : (x + y).toModel.unpack =
      unpack .binary64 ((add .binary64 x.toModel.unpack y.toModel.unpack).pack .binary64) := rfl
  rw [Ne, of_eq_undefined, hsum]
  apply unpack_pack_ne_notANumber
  apply add_ne_notANumber hx hy
  intro s t hs ht
  cases s with
  | negative => exact absurd hs hxn
  | positive =>
    cases t with
    | negative => exact absurd ht hyn
    | positive => rfl

/-- The bits below those of the upper infinity are finite doubles. -/
theorem hasSums_ofBits {b : UInt64} (h : b.toNat < infinityBits) :
    (of (Float.ofBits b)).HasSums := by
  have he : @unpackExponent .binary64 b.toBitVec ≠ -1#_ := by
    intro he
    have he := congrArg BitVec.toNat he
    rw [toNat_unpackExponent] at he
    have : b.toNat / hiddenBit % fieldCount = 2047 := he
    simp only [infinityBits, hiddenBit, fieldCount] at h this
    omega
  have hpack : (unpack .binary64 b.toBitVec).pack .binary64 = b.toBitVec := by
    have hnan : ¬ @isNaNBits .binary64 b.toBitVec = true := fun h => he (of_decide_eq_true h).1
    rw [@pack_unpack .binary64 b.toBitVec (by decide), if_neg hnan]
  have hunpack : (Float.ofBits b).toModel.unpack = unpack .binary64 b.toBitVec :=
    congrArg (unpack .binary64) hpack
  obtain ⟨hdefined, hinfinity⟩ := unpack_finite he
  rw [hasSums_iff, hunpack]
  exact ⟨hdefined, hinfinity _⟩

end Reading

theorem hasSums_of_ofRatio {num den : Nat} {x : Float} (h : ofRatio? num den = some x) :
    (Reading.of x).HasSums := by
  simp only [ofRatio?] at h
  split at h
  · have hzero : (0.0 : Float) = Float.ofBits 0 := by rfl
    cases h
    rw [hzero]
    exact Reading.hasSums_ofBits (by decide)
  · split at h
    case isTrue hb =>
      cases h
      apply Reading.hasSums_ofBits
      rwa [UInt64.toNat_ofNat_of_lt' (Nat.lt_trans hb (by decide))]
    · cases h

/-- The double nearest to a natural number is below no sum. -/
theorem hasSums_of_ofWhole {n : Int} {x : Float} (hn : 0 ≤ n) (h : ofWhole? n = some x) :
    (Reading.of x).HasSums := by
  rw [ofWhole?, Option.map_eq_some_iff] at h
  obtain ⟨y, hy, rfl⟩ := h
  rw [if_neg (by omega)]
  exact hasSums_of_ofRatio hy

end SiliconBench.Decimal
