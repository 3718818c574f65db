import Mathlib

/-!
# The order of floating-point numbers

Comparisons on the logical model of `Float32`. What is not NaN is ordered (`le_of_not_lt`), a
difference of finite numbers is not NaN (`isNaN_sub`), and so a distance of finite numbers that is
not above a bound is at most the bound (`abs_sub_le_of_not_lt`).
-/

namespace Ieee

open Float.Model (UnpackedFloat Format)
open Float.Model.UnpackedFloat

section Unpacked

variable {spec : Format} {a b : UnpackedFloat}

/-- Two floats compare the other way around as the reverse. -/
theorem compare_swap (a b : UnpackedFloat) : b.compare a = (a.compare b).map Ordering.swap := by
  cases a with
  | notANumber => cases b <;> rfl
  | infinity s =>
      cases b with
      | infinity t => cases s <;> cases t <;> rfl
      | _ => cases s <;> rfl
  | zero s =>
      cases b with
      | infinity t => cases t <;> rfl
      | finite t => cases t <;> rfl
      | _ => rfl
  | finite s m e hm =>
      cases b with
      | finite t n f hn =>
          -- numbers of one sign compare by their exponents, then by their mantissas
          have hswap : (compare f e).then (compare n m) =
              ((compare e f).then (compare m n)).swap := by
            rw [Ordering.swap_then, ← Std.OrientedCmp.eq_swap, ← Std.OrientedCmp.eq_swap]
          cases s <;> cases t
          · simp [UnpackedFloat.compare, hswap]
          · rfl
          · rfl
          · simp [UnpackedFloat.compare, hswap]
      | infinity t => cases s <;> cases t <;> rfl
      | _ => cases s <;> rfl

/-- Only NaN compares to nothing. -/
theorem compare_isSome (ha : a.isNaN = false) (hb : b.isNaN = false) :
    (a.compare b).isSome = true := by
  cases a with
  | notANumber => cases ha
  | infinity s =>
      cases b with
      | notANumber => cases hb
      | infinity t => rfl
      | _ => cases s <;> rfl
  | zero s =>
      cases b with
      | notANumber => cases hb
      | infinity t => cases t <;> rfl
      | finite t => cases t <;> rfl
      | zero t => rfl
  | finite s =>
      cases b with
      | notANumber => cases hb
      | infinity t => cases s <;> cases t <;> rfl
      | finite t => cases s <;> cases t <;> rfl
      | zero t => cases s <;> rfl

/-- What does not compare to NaN is not NaN. -/
theorem isNaN_of_le (h : a.le b = true) : b.isNaN = false := by
  cases b with
  | notANumber => cases a <;> cases h
  | _ => rfl

/-- A float is at most every other that is not below it. -/
theorem le_of_not_lt (ha : a.isNaN = false) (hb : b.isNaN = false) (h : b.lt a = false) :
    a.le b = true := by
  obtain ⟨order, horder⟩ := Option.isSome_iff_exists.mp (compare_isSome ha hb)
  rw [UnpackedFloat.lt, compare_swap, horder] at h
  rw [UnpackedFloat.le, horder]
  cases order with
  | gt => cases h
  | _ => rfl

theorem isNaN_abs (h : a.isNaN = false) : a.abs.isNaN = false := by
  cases a with
  | notANumber => cases h
  | _ => rfl

/-- Rounding ends at a zero or another finite number. -/
theorem isNaN_normalize {mantissa exponent : Int} {sign : Sign} :
    (normalize spec mantissa exponent sign).isNaN = false := by
  have hround : ∀ sign mantissa exponent, (UnpackedFloat.round spec sign mantissa exponent).isNaN =
    false := by
    intro sign mantissa exponent
    simp only [UnpackedFloat.round, roundWithAccuracy]
    split_ifs <;> rfl
  unfold UnpackedFloat.normalize
  split
  · exact hround _ _ _
  · rfl
  · exact hround _ _ _

theorem isNaN_sub (ha : a.isFinite = true) (hb : b.isFinite = true) :
    (sub spec a b).isNaN = false := by
  cases a with
  | notANumber => cases ha
  | infinity s => cases ha
  | zero s =>
      cases b with
      | notANumber => cases hb
      | infinity t => cases hb
      | zero t => cases s <;> cases t <;> rfl
      | finite => rfl
  | finite =>
      cases b with
      | notANumber => cases hb
      | infinity t => cases hb
      | zero t => rfl
      | finite => exact isNaN_normalize

/-- Packing turns into NaN only NaN. -/
theorem isNaN_unpack_pack (h : a.isNaN = false) : (unpack spec (pack spec a)).isNaN = false := by
  have hcomponents : ∀ (sign : Sign) (exponent : BitVec spec.exponentBits)
      (mantissa : BitVec spec.mantissaBitsWithoutImplicit), (exponent = -1#_ → mantissa = 0#_) →
        (unpack spec (packComponents spec sign exponent mantissa)).isNaN = false := by
    intro sign exponent mantissa hspecial
    simp only [unpack, unpackMantissa_packComponents, unpackExponent_packComponents]
    split_ifs with hones hzero
    · rfl
    · exact absurd (hspecial hones) hzero
    · rfl
    · rfl
    · rfl
  fun_cases pack spec a with
  | case1 => cases h
  | case2 sign => exact hcomponents sign _ _ fun _ => rfl
  | case3 sign => exact hcomponents sign _ _ fun _ => rfl
  | case4 sign mantissa exponent hpos biased hlarge => exact hcomponents sign _ _ fun _ => rfl
  | case5 sign mantissa exponent hpos bits biased hsmall hnormal =>
      -- the exponent field of a normal number is below the reserved one
      refine hcomponents sign _ _ fun hones => ?_
      have hvalue := congrArg BitVec.toNat hones
      rw [BitVec.neg_one_eq_allOnes, BitVec.toNat_allOnes, BitVec.toNat_ofNat,
        Nat.mod_eq_of_lt (by omega)] at hvalue
      omega
  | case6 sign mantissa exponent hpos bits biased hsmall hsubnormal =>
      refine hcomponents sign _ _ fun hones => ?_
      have hvalue := congrArg BitVec.toNat hones
      have hbits : 2 ^ 1 ≤ 2 ^ spec.exponentBits := Nat.pow_le_pow_right Nat.zero_lt_two spec.he
      rw [BitVec.neg_one_eq_allOnes, BitVec.toNat_allOnes, BitVec.toNat_zero] at hvalue
      omega

end Unpacked

section Single

variable {a b bound : Float32}

/-- A distance of finite numbers that is not above a bound is at most the bound. -/
theorem abs_sub_le_of_not_lt (ha : a.isFinite = true) (hb : b.isFinite = true)
    (hbound : bound.isNaN = false) (h : ¬ bound < (a - b).abs) :
    (a - b).abs ≤ bound := by
  have hdistance : ((a - b).abs).toModel.unpack.isNaN = false := by
    refine isNaN_unpack_pack (isNaN_abs (isNaN_unpack_pack ?_))
    exact isNaN_sub ha hb
  have hnotLt : bound.toModel.unpack.lt (a - b).abs.toModel.unpack = false :=
    Bool.eq_false_iff.mpr fun hlt => h (decide_eq_true hlt)
  exact decide_eq_true (le_of_not_lt hdistance hbound hnotLt)

/-- A float that is not NaN is at most every other that is not below it. -/
theorem single_le_of_not_lt (ha : a.isNaN = false) (hb : b.isNaN = false) (h : ¬ b < a) :
    a ≤ b := by
  have hnotLt : b.toModel.unpack.lt a.toModel.unpack = false :=
    Bool.eq_false_iff.mpr fun hlt => h (decide_eq_true hlt)
  exact decide_eq_true (le_of_not_lt ha hb hnotLt)

/-- A bound on another number is not NaN. -/
theorem isNaN_of_single_le (h : a ≤ bound) : bound.isNaN = false := by
  have hmodel : a.toModel.unpack.le bound.toModel.unpack = true := of_decide_eq_true h
  exact isNaN_of_le hmodel

end Single

end Ieee
