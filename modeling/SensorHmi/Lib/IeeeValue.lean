import SensorHmi.Lib.Ieee

/-!
# Exact results in single precision

The rational number a single stands for. A natural number of at most 24 bits is a single
(`value_natural`), and dividing it by a power of two is exact (`value_div_two_pow`).
-/

namespace Ieee

open Float.Model (UnpackedFloat Format totalExponent)
open Float.Model.UnpackedFloat

/-- The number a float stands for; none for an infinity and for NaN. -/
def rational : UnpackedFloat → Option ℚ
  | .finite sign mantissa exponent _ => some (sign.apply mantissa * 2 ^ exponent)
  | .zero _ => some 0
  | .infinity _ | .notANumber => none

/-- The number a single stands for. -/
def singleValue (x : Float32) : Option ℚ :=
  rational x.toModel.unpack

section Exact

variable {spec : Format} {mantissa : Nat} {exponent : Int} {n : Nat}

/-- A number with a full mantissa divided by a power of two. -/
theorem div_two_pow {sign divisorSign : Sign} {divisorExponent : Int} {h : 0 < mantissa} {hdivisor}
    (hlow : 2 ^ spec.mantissaBitsWithoutImplicit ≤ mantissa)
    (hhigh : mantissa < 2 ^ (spec.mantissaBitsWithoutImplicit + 1))
    (hmin : spec.minExponent < exponent - divisorExponent - spec.mantissaBitsWithoutImplicit) :
    UnpackedFloat.div spec (.finite sign mantissa exponent h)
        (.finite divisorSign (2 ^ spec.mantissaBitsWithoutImplicit) divisorExponent hdivisor) =
      .finite (sign / divisorSign) mantissa
        (exponent - divisorExponent - spec.mantissaBitsWithoutImplicit) h := by
  have hlog : mantissa.log2 = spec.mantissaBitsWithoutImplicit :=
    (Nat.log2_eq_iff h.ne').mpr ⟨hlow, hhigh⟩
  have htarget : min (exponent - divisorExponent) (spec.targetExponent
      (totalExponent mantissa exponent -
        totalExponent (2 ^ spec.mantissaBitsWithoutImplicit) divisorExponent)) =
      exponent - divisorExponent - (spec.mantissaBitsWithoutImplicit + 1 : Nat) := by
    simp only [Format.targetExponent, totalExponent, hlog, Nat.log2_two_pow, Format.mantissaBits]
    omega
  have hshift : (exponent - divisorExponent -
      (exponent - divisorExponent - (spec.mantissaBitsWithoutImplicit + 1 : Nat))).toNat =
      spec.mantissaBitsWithoutImplicit + 1 := by
    omega
  have hproduct : mantissa <<< (spec.mantissaBitsWithoutImplicit + 1) =
      mantissa * 2 ^ 1 * 2 ^ spec.mantissaBitsWithoutImplicit := by
    rw [Nat.shiftLeft_eq, Nat.pow_add, Nat.mul_assoc, Nat.mul_comm (2 ^ 1)]
  have hexponent : exponent - divisorExponent - (spec.mantissaBitsWithoutImplicit + 1 : Nat) +
      (1 : Nat) = exponent - divisorExponent - spec.mantissaBitsWithoutImplicit := by
    push_cast
    ring
  have hround := @roundWithAccuracy_mul_pow spec (sign / divisorSign) mantissa 1
    (exponent - divisorExponent - (spec.mantissaBitsWithoutImplicit + 1 : Nat)) h hlow hhigh
    (by omega)
  rw [hexponent] at hround
  simp only [UnpackedFloat.div, divCore, htarget, hshift, hproduct,
    Nat.mul_div_cancel _ (Nat.two_pow_pos _), Nat.mul_mod_left, accuracyOfFraction, if_true]
  exact hround

/-- A natural number of at most 24 bits as the model converts it. -/
theorem unpack_ofNat (hpos : 0 < n) (hlt : n < 2 ^ 24) :
    ∃ h : 0 < n * 2 ^ (23 - n.log2), (Float32.Model.ofNat n).unpack =
      .finite .positive (n * 2 ^ (23 - n.log2)) (n.log2 - 23) h := by
  obtain ⟨hle, hlow, hhigh⟩ := fill_bounds 23 hpos hlt
  have htarget : Format.binary32.targetExponent (totalExponent n 0) = n.log2 - 23 := by
    simp [Format.targetExponent, totalExponent, Format.mantissaBits, Format.minExponent]
    omega
  have hamount : (0 - ((n.log2 : Int) - 23)).toNat = 23 - n.log2 := by omega
  have hexponent : (0 : Int) - (23 - n.log2 : Nat) = n.log2 - 23 := by omega
  have hcompare : compare (n : Int) 0 = .gt := Int.compare_eq_gt.mpr (by omega)
  have hround := @roundWithAccuracy_mul_pow Format.binary32 .positive (n * 2 ^ (23 - n.log2)) 0
    (n.log2 - 23) (by omega) hlow hhigh (by simp [Format.minExponent, Format.mantissaBits]; omega)
  rw [Nat.pow_zero, Nat.mul_one, Nat.cast_zero, Int.add_zero] at hround
  have hconvert : UnpackedFloat.ofNat Format.binary32 n =
      .finite .positive (n * 2 ^ (23 - n.log2)) (n.log2 - 23) (by omega) := by
    simp only [UnpackedFloat.ofNat, UnpackedFloat.ofInt, UnpackedFloat.normalize, hcompare,
      Int.toNat_natCast, UnpackedFloat.round, htarget, decreaseExponent, hamount, hexponent,
      Nat.shiftLeft_eq]
    exact hround
  refine ⟨by omega, ?_⟩
  show UnpackedFloat.unpack Format.binary32
    (UnpackedFloat.pack Format.binary32 (UnpackedFloat.ofNat Format.binary32 n)) = _
  rw [hconvert]
  refine unpack_pack_normal hlow hhigh ?_ ?_
  · simp [Format.minExponent, Format.mantissaBits]
    omega
  · simp [Format.exponentBias]
    omega

/-- Dividing such a number by a power of two is exact. -/
theorem value_div_two_pow {k : Nat} (hlt : n < 2 ^ 24) (hk : k < 24) :
    singleValue (.ofModel (.ofNat n) / .ofModel (.ofNat (2 ^ k))) = some ((n : ℚ) / 2 ^ k) := by
  obtain ⟨hpow, hdivisor⟩ := unpack_ofNat (Nat.two_pow_pos k) (Nat.pow_lt_pow_right (by decide) hk)
  have hfull : 2 ^ k * 2 ^ (23 - k) = 2 ^ 23 := by
    rw [← Nat.pow_add]
    congr 1
    omega
  simp only [Nat.log2_two_pow, hfull] at hpow hdivisor
  show rational (UnpackedFloat.unpack Format.binary32 (UnpackedFloat.pack Format.binary32
    (UnpackedFloat.div Format.binary32 (Float32.Model.ofNat n).unpack
      (Float32.Model.ofNat (2 ^ k)).unpack))) = _
  rw [hdivisor]
  rcases Nat.eq_zero_or_pos n with rfl | hpos
  · have hzero : (Float32.Model.ofNat 0).unpack = .zero .positive := rfl
    have hpacked : UnpackedFloat.unpack Format.binary32
        (UnpackedFloat.pack Format.binary32 (.zero .positive)) = .zero .positive := rfl
    rw [hzero, Nat.cast_zero, zero_div, UnpackedFloat.div, show Sign.positive / Sign.positive =
      Sign.positive from rfl, hpacked, rational]
  obtain ⟨hle, hlow, hhigh⟩ := fill_bounds 23 hpos hlt
  obtain ⟨hmantissa, hnumber⟩ := unpack_ofNat hpos hlt
  have hexponent : (n.log2 : Int) - 23 - (k - 23) - (23 : Nat) = n.log2 - k - 23 := by
    push_cast
    ring
  have hquotient := @div_two_pow Format.binary32 _ (n.log2 - 23) .positive .positive (k - 23)
    hmantissa hpow hlow hhigh (by simp [Format.minExponent, Format.mantissaBits]; omega)
  rw [hnumber, hquotient, hexponent]
  rw [unpack_pack_normal hlow hhigh (by simp [Format.minExponent, Format.mantissaBits]; omega)
    (by simp [Format.exponentBias]; omega)]
  have hsum : ((23 - n.log2 : Nat) : Int) + (n.log2 - k - 23) = -(k : Int) := by omega
  show some (((n * 2 ^ (23 - n.log2) : Nat) : Int) * (2 : ℚ) ^ ((n.log2 : Int) - k - 23)) = _
  congr 1
  push_cast
  rw [← zpow_natCast 2 (23 - n.log2), mul_assoc, ← zpow_add₀ (by norm_num), hsum, zpow_neg,
    zpow_natCast, div_eq_mul_inv]

end Exact

end Ieee
