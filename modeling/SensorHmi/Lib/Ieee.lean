import SensorHmi.Lib.Numeral

/-!
# Floating-point numbers through their bit patterns

Conversions between decimals, doubles and singles on the logical model of `Float` and `Float32`:
the double nearest to a decimal, the single nearest to a double, the decimal with a given number
of places nearest to a single. A normal number survives being packed (`unpack_pack_normal`), and
a natural number of at most 53 bits is a double that truncates to itself (`truncate_ofNatural`).
-/

namespace Ieee

open Float.Model (UnpackedFloat Format totalExponent)
open Float.Model.UnpackedFloat

section Format

variable (spec : Format)

theorem pow_exponentBits : 2 ^ spec.exponentBits = 2 * spec.exponentBias + 2 := by
  obtain ⟨bits, hbits⟩ : ∃ bits, spec.exponentBits = bits + 1 :=
    ⟨spec.exponentBits - 1, by have := spec.he; omega⟩
  have hpos : 0 < 2 ^ bits := Nat.two_pow_pos bits
  simp only [Format.exponentBias, hbits, Nat.add_sub_cancel, Nat.pow_succ]
  omega

theorem minExponent_eq :
    spec.minExponent = 1 - (spec.exponentBias : Int) - spec.mantissaBitsWithoutImplicit := by
  have hpos : 0 < 2 ^ (spec.exponentBits - 1) := Nat.two_pow_pos _
  simp only [Format.minExponent, Format.exponentBias,
    Format.mantissaBits]
  push_cast [Nat.cast_sub (Nat.one_le_of_lt hpos)]
  ring

end Format

section Convert

open Numeral

/-- The double nearest to a decimal. -/
def ofDecimal (d : Decimal) : Float :=
  let magnitude := Float.ofModel (.ofScientific d.mantissa d.exponent)
  if d.negative then -magnitude else magnitude

/-- The double nearest to a natural number. -/
def ofNatural (n : Nat) : Float :=
  ofDecimal ⟨false, n, 0⟩

/-- The single nearest to a double. -/
def toSingle (x : Float) : Float32 :=
  .ofModel (.pack (match x.toModel.unpack with
    | .finite sign mantissa exponent _ => round Format.binary32 sign mantissa exponent
    | special => special))

/-- The integer nearest to `mantissa * 2 ^ exponent * factor`, the even one of two. -/
def scaled (mantissa : Nat) (exponent : Int) (factor : Nat) : Nat :=
  match exponent with
  | .ofNat e => mantissa * 2 ^ e * factor
  | .negSucc k => roundHalfEven (mantissa * factor) (2 ^ (k + 1))

/-- The decimal with `places` places nearest to a single; none for an infinity and for NaN. -/
def toDecimal (places : Nat) (x : Float32) : Option Decimal :=
  match x.toModel.unpack with
  | .finite sign mantissa exponent _ =>
      some ⟨sign == .negative, scaled mantissa exponent (10 ^ places), -places⟩
  | .zero sign => some ⟨sign == .negative, 0, -places⟩
  | .infinity _ => none
  | .notANumber => none

end Convert

section Pack

variable {spec : Format}

theorem unpackSign_packComponents (sign : Sign) (exponent : BitVec spec.exponentBits)
    (mantissa : BitVec spec.mantissaBitsWithoutImplicit) :
    unpackSign (packComponents spec sign exponent mantissa) = sign.toBitVec := by
  ext i hi
  obtain rfl : i = 0 := by omega
  simp [unpackSign, packComponents, BitVec.getLsbD_append, BitVec.getElem_append]

theorem ofBitVec_toBitVec (sign : Sign) : Sign.ofBitVec sign.toBitVec = sign := by
  cases sign <;> rfl

/-- A biased exponent strictly between the two reserved ones is neither of them. -/
theorem exponent_ne {biased : Nat} (hpos : 0 < biased)
    (hlt : biased + 1 < 2 ^ spec.exponentBits) :
    (BitVec.ofNat spec.exponentBits biased).toNat = biased ∧
      BitVec.ofNat spec.exponentBits biased ≠ 0#_ ∧
      BitVec.ofNat spec.exponentBits biased ≠ -1#_ := by
  have hvalue : (BitVec.ofNat spec.exponentBits biased).toNat = biased := by
    rw [BitVec.toNat_ofNat, Nat.mod_eq_of_lt (by omega)]
  refine ⟨hvalue, ?_, ?_⟩
  · intro hzero
    rw [hzero, BitVec.toNat_zero] at hvalue
    omega
  · intro hones
    rw [hones, BitVec.neg_one_eq_allOnes, BitVec.toNat_allOnes] at hvalue
    omega

/-- A normal number comes back from its bit pattern. -/
theorem unpack_pack_normal {sign : Sign} {mantissa : Nat} {exponent : Int} {h : 0 < mantissa}
    (hlow : 2 ^ spec.mantissaBitsWithoutImplicit ≤ mantissa)
    (hhigh : mantissa < 2 ^ (spec.mantissaBitsWithoutImplicit + 1))
    (hmin : spec.minExponent ≤ exponent)
    (hmax : exponent + spec.mantissaBitsWithoutImplicit ≤ spec.exponentBias) :
    unpack spec (pack spec (.finite sign mantissa exponent h)) =
      .finite sign mantissa exponent h := by
  rw [minExponent_eq] at hmin
  have hcapacity := pow_exponentBits spec
  obtain ⟨biased, hbiased⟩ : ∃ biased : Nat,
      (biased : Int) = exponent + spec.exponentBias + spec.mantissaBitsWithoutImplicit :=
    ⟨_, Int.toNat_of_nonneg (by omega)⟩
  have htoNat : (exponent + spec.exponentBias + spec.mantissaBitsWithoutImplicit).toNat =
    biased := by
    omega
  obtain ⟨hvalue, hzero, hones⟩ := @exponent_ne spec biased (by omega) (by omega)
  have hlog : mantissa.log2 + 1 = spec.mantissaBits := by
    have hle := (Nat.le_log2 h.ne').mpr hlow
    have hlt := (Nat.log2_lt h.ne').mpr hhigh
    simp only [Format.mantissaBits]
    omega
  have hmantissa : (1#1 ++ BitVec.ofNat spec.mantissaBitsWithoutImplicit mantissa).toNat =
      mantissa := by
    have hdiv : mantissa / 2 ^ spec.mantissaBitsWithoutImplicit = 1 := by
      rw [Nat.pow_succ] at hhigh
      exact Nat.div_eq_of_lt_le (by omega) (by omega)
    have hsplit := Nat.div_add_mod mantissa (2 ^ spec.mantissaBitsWithoutImplicit)
    rw [BitVec.toNat_append, ← Nat.shiftLeft_add_eq_or_of_lt (BitVec.isLt _), Nat.shiftLeft_eq,
      BitVec.toNat_ofNat]
    rw [hdiv] at hsplit
    simpa using hsplit
  simp only [pack, htoNat]
  rw [if_neg (by omega), if_pos hlog]
  simp only [unpack, unpackMantissa_packComponents, unpackExponent_packComponents,
    unpackSign_packComponents, ofBitVec_toBitVec, if_neg hones, if_neg hzero, hvalue, hmantissa]
  congr 1
  omega

/-- The mantissa and the exponent of an unpacked number are those of the format. -/
theorem unpack_bounds {bits : BitVec spec.numBits} {sign : Sign} {mantissa : Nat} {exponent : Int}
    {h : 0 < mantissa} (hbias : 0 < spec.exponentBias)
    (hunpack : unpack spec bits = .finite sign mantissa exponent h) :
    mantissa < 2 ^ (spec.mantissaBitsWithoutImplicit + 1) ∧
      exponent + spec.mantissaBitsWithoutImplicit ≤ spec.exponentBias := by
  have hcapacity := pow_exponentBits spec
  have hfraction := (unpackMantissa bits).isLt
  have hbiased := (unpackExponent bits).isLt
  simp only [unpack] at hunpack
  split at hunpack
  · split at hunpack <;> cases hunpack
  rename_i hones
  have hbelow : (unpackExponent bits).toNat + 1 < 2 ^ spec.exponentBits := by
    by_contra hlarge
    apply hones
    rw [← BitVec.toNat_inj, BitVec.neg_one_eq_allOnes, BitVec.toNat_allOnes]
    omega
  split at hunpack
  case isTrue hzero =>
    split at hunpack
    · cases hunpack
    · cases hunpack
      rw [Nat.pow_succ]
      refine ⟨by omega, ?_⟩
      simp only [hzero, BitVec.toNat_zero]
      omega
  case isFalse =>
    cases hunpack
    rw [BitVec.toNat_append, ← Nat.shiftLeft_add_eq_or_of_lt hfraction, Nat.shiftLeft_eq,
      Nat.pow_succ]
    refine ⟨?_, by omega⟩
    simp
    omega

end Pack

section Decimal

open Numeral

theorem roundHalfEven_le (numerator denominator : Nat) :
    roundHalfEven numerator denominator ≤ numerator / denominator + 1 := by
  unfold roundHalfEven
  dsimp only
  split <;> omega

/-- A finite single has a nearest decimal, and its integer part has at most 39 digits. -/
theorem toDecimal_of_isFinite {x : Float32} (h : x.isFinite = true) (places : Nat) :
    ∃ d, toDecimal places x = some d ∧ d.exponent = -places ∧
      d.mantissa < 10 ^ 39 * 10 ^ places := by
  have hfinite : x.toModel.unpack.isFinite = true := h
  have hscale : 0 < 10 ^ places := Nat.pow_pos (by decide)
  unfold toDecimal
  rcases hunpack : x.toModel.unpack with sign | _ | sign | ⟨sign, mantissa, exponent, hpos⟩
  · rw [hunpack] at hfinite
    cases hfinite
  · rw [hunpack] at hfinite
    cases hfinite
  · exact ⟨_, rfl, rfl, by dsimp only; positivity⟩
  · refine ⟨_, rfl, rfl, ?_⟩
    obtain ⟨hmantissa, hexponent⟩ := unpack_bounds (by decide) hunpack
    have hmantissa : mantissa < 2 ^ 24 := hmantissa
    have hexponent : exponent + 23 ≤ 127 := by simpa [Format.exponentBias] using hexponent
    cases exponent with
    | ofNat e =>
      have he : 2 ^ e ≤ 2 ^ 104 := Nat.pow_le_pow_right (by decide) (by
        simp only [Int.ofNat_eq_natCast] at hexponent
        omega)
      have hvalue : mantissa * 2 ^ e < 10 ^ 39 :=
        calc mantissa * 2 ^ e ≤ mantissa * 2 ^ 104 := Nat.mul_le_mul_left _ he
          _ < 2 ^ 24 * 2 ^ 104 := Nat.mul_lt_mul_of_pos_right hmantissa (by decide)
          _ < 10 ^ 39 := by norm_num
      exact Nat.mul_lt_mul_of_pos_right hvalue hscale
    | negSucc k =>
      have hround := roundHalfEven_le (mantissa * 10 ^ places) (2 ^ (k + 1))
      have hdiv := Nat.div_le_self (mantissa * 10 ^ places) (2 ^ (k + 1))
      have hbound : mantissa * 10 ^ places + 1 < 10 ^ 39 * 10 ^ places := by
        have hmul : mantissa * 10 ^ places < 2 ^ 24 * 10 ^ places :=
          Nat.mul_lt_mul_of_pos_right hmantissa hscale
        have hwide : 2 ^ 24 * 10 ^ places + 10 ^ places ≤ 10 ^ 39 * 10 ^ places := by
          rw [← Nat.succ_mul]
          exact Nat.mul_le_mul_right _ (by norm_num)
        omega
      dsimp only [scaled]
      omega

/-- An infinity and NaN have no nearest decimal. -/
theorem toDecimal_of_not_isFinite {x : Float32} (h : ¬ x.isFinite = true) (places : Nat) :
    toDecimal places x = none := by
  have hspecial : ¬ x.toModel.unpack.isFinite = true := h
  unfold toDecimal
  rcases hunpack : x.toModel.unpack with sign | _ | sign | ⟨sign, mantissa, exponent, hpos⟩
  · rfl
  · rfl
  · rw [hunpack] at hspecial
    exact absurd rfl hspecial
  · rw [hunpack] at hspecial
    exact absurd rfl hspecial

end Decimal

section Shift

/-- Shifting out zeros is exact. -/
theorem shiftRight_mul_pow (mantissa amount : Nat) :
    (⟨mantissa * 2 ^ amount, false, false⟩ : ExtendedMantissa) >>> amount =
      ⟨mantissa, false, false⟩ := by
  induction amount generalizing mantissa with
  | zero => simp [HShiftRight.hShiftRight, Nat.repeat]
  | succ amount ih =>
      have hsplit : mantissa * 2 ^ (amount + 1) = mantissa * 2 * 2 ^ amount := by ring
      have hrest := ih (mantissa * 2)
      simp only [HShiftRight.hShiftRight] at hrest ⊢
      rw [Nat.repeat, hsplit, hrest]
      simp [ExtendedMantissa.shiftRightOne]

/-- Shifting to a higher exponent is exact when the octets shifted out are zero. -/
theorem shiftToExponent_mul_pow (mantissa amount : Nat) (exponent : Int) :
    shiftToExponent (mantissa * 2 ^ amount) exponent .exact (exponent + amount) =
      (⟨mantissa, false, false⟩, exponent + amount) := by
  have hamount : (exponent + amount - exponent).toNat = amount := by omega
  simp only [shiftToExponent, hamount, ExtendedMantissa.ofMantissaAndAccuracy,
    shiftRight_mul_pow]

/-- The exponent the model rounds a number to that has a full mantissa and `amount` zeros. -/
theorem targetExponent_mul_pow {spec : Format} {mantissa amount : Nat} {exponent : Int}
    (hlow : 2 ^ spec.mantissaBitsWithoutImplicit ≤ mantissa)
    (hhigh : mantissa < 2 ^ (spec.mantissaBitsWithoutImplicit + 1))
    (hmin : spec.minExponent ≤ exponent + amount) :
    spec.targetExponent (totalExponent (mantissa * 2 ^ amount) exponent) = exponent + amount := by
  have hpos : mantissa ≠ 0 := by
    have := Nat.two_pow_pos spec.mantissaBitsWithoutImplicit
    omega
  have hlog : (mantissa * 2 ^ amount).log2 = spec.mantissaBitsWithoutImplicit + amount := by
    rw [Nat.log2_eq_iff (by positivity)]
    constructor
    · rw [Nat.pow_add]
      exact Nat.mul_le_mul_right _ hlow
    · rw [Nat.add_right_comm, Nat.pow_add]
      exact Nat.mul_lt_mul_of_pos_right hhigh (Nat.two_pow_pos amount)
  simp only [Format.targetExponent, totalExponent, hlog, Format.mantissaBits]
  omega

/-- A number with a full mantissa and zeros behind it is rounded to itself. -/
theorem roundWithAccuracy_mul_pow {spec : Format} {sign : Sign} {mantissa amount : Nat}
    {exponent : Int} (h : 0 < mantissa) (hlow : 2 ^ spec.mantissaBitsWithoutImplicit ≤ mantissa)
    (hhigh : mantissa < 2 ^ (spec.mantissaBitsWithoutImplicit + 1))
    (hmin : spec.minExponent ≤ exponent + amount) :
    roundWithAccuracy spec sign (mantissa * 2 ^ amount) exponent .exact =
      .finite sign mantissa (exponent + amount) h := by
  have hagain : shiftToTargetExponent spec mantissa (exponent + amount) .exact =
      (⟨mantissa, false, false⟩, exponent + amount) := by
    have htarget := @targetExponent_mul_pow spec mantissa 0 (exponent + amount) hlow hhigh
      (by simpa using hmin)
    have hshift := shiftToExponent_mul_pow mantissa 0 (exponent + amount)
    simp only [Nat.pow_zero, Nat.mul_one, Nat.cast_zero, Int.add_zero] at htarget hshift
    rw [shiftToTargetExponent, htarget, hshift]
  have hfirst : shiftToTargetExponent spec (mantissa * 2 ^ amount) exponent .exact =
      (⟨mantissa, false, false⟩, exponent + amount) := by
    rw [shiftToTargetExponent, targetExponent_mul_pow hlow hhigh hmin, shiftToExponent_mul_pow]
  have hrounded : (⟨mantissa, false, false⟩ : ExtendedMantissa).roundedMantissa = mantissa := rfl
  simp only [roundWithAccuracy, hfirst, hrounded, hagain]
  rw [dif_neg h.ne']

end Shift

section Natural

/-- The integer a double truncates to; none for an infinity and for NaN. -/
def truncate (x : Float) : Option Int :=
  match x.toModel.unpack with
  | .finite sign mantissa exponent _ => some (roundToInt sign mantissa exponent)
  | .zero _ => some 0
  | .infinity _ => none
  | .notANumber => none

/-- The double has no fraction. -/
def isIntegral (x : Float) : Bool :=
  match x.toModel.unpack with
  | .finite _ mantissa exponent _ => mantissa % 2 ^ (-exponent).toNat = 0
  | .zero _ => true
  | .infinity _ => false
  | .notANumber => false

/-- The double is a natural number of `bits` bits. -/
structure IsUnsigned (bits : Nat) (x : Float) (n : Nat) : Prop where
  integral : isIntegral x = true
  value : truncate x = some (n : Int)
  fits : n < 2 ^ bits

section Fill

variable {n : Nat}

/-- A nonzero number that fits into a mantissa, filled up with zeros, is a full one. -/
theorem fill_bounds (bits : Nat) (hpos : 0 < n) (hlt : n < 2 ^ (bits + 1)) :
    n.log2 ≤ bits ∧ 2 ^ bits ≤ n * 2 ^ (bits - n.log2) ∧
      n * 2 ^ (bits - n.log2) < 2 ^ (bits + 1) := by
  have hle : n.log2 ≤ bits := by
    have := (Nat.log2_lt hpos.ne').mpr hlt
    omega
  refine ⟨hle, ?_, ?_⟩
  · calc 2 ^ bits = 2 ^ n.log2 * 2 ^ (bits - n.log2) := by
          rw [← Nat.pow_add, Nat.add_sub_cancel' hle]
      _ ≤ n * 2 ^ (bits - n.log2) := Nat.mul_le_mul_right _ (Nat.log2_self_le hpos.ne')
  · calc n * 2 ^ (bits - n.log2) < 2 ^ (n.log2 + 1) * 2 ^ (bits - n.log2) :=
          Nat.mul_lt_mul_of_pos_right Nat.lt_log2_self (Nat.two_pow_pos _)
      _ = 2 ^ (bits + 1) := by
          rw [← Nat.pow_add]
          congr 1
          omega

/-- Such a number as the model rounds it. -/
theorem ofScientific_natural (hpos : 0 < n) (hlt : n < 2 ^ 53) :
    ∃ h, UnpackedFloat.ofScientific Format.binary64 n 0 =
      .finite .positive (n * 2 ^ (52 - n.log2)) (n.log2 - 52) h := by
  obtain ⟨hle, hlow, hhigh⟩ := fill_bounds 52 hpos hlt
  have hsplit : n <<< 53 * 10 ^ (0 : Int).toNat = n * 2 ^ (52 - n.log2) * 2 ^ (n.log2 + 1) := by
    have hsum : 52 - n.log2 + (n.log2 + 1) = 53 := by omega
    rw [Nat.shiftLeft_eq, Nat.mul_assoc n (2 ^ _) (2 ^ (n.log2 + 1)), ← Nat.pow_add, hsum]
    simp
  have hexponent : (-53 + 0 : Int) + (n.log2 + 1 : Nat) = n.log2 - 52 := by omega
  have hround := @roundWithAccuracy_mul_pow Format.binary64 .positive _ (n.log2 + 1) (-53 + 0)
    (by omega) hlow hhigh
    (by rw [hexponent]; simp [Format.minExponent, Format.mantissaBits]; omega)
  refine ⟨by omega, ?_⟩
  unfold UnpackedFloat.ofScientific
  have hsmall : ¬ (0 : Int) < -((2 : Int) ^ Format.binary64.exponentBits + n.log2) := by
    have : (0 : Int) ≤ 2 ^ Format.binary64.exponentBits := by positivity
    omega
  rw [dif_neg hpos.ne', if_neg (by norm_num), if_neg hsmall, if_pos le_rfl]
  simp only [hexponent] at hround
  rw [← hround, ← hsplit]
  rfl

/-- A natural number below `2 ^ 53` is exactly a double. -/
theorem truncate_ofNatural (hlt : n < 2 ^ 53) : truncate (ofNatural n) = some (n : Int) := by
  rcases Nat.eq_zero_or_pos n with rfl | hpos
  · rfl
  obtain ⟨hle, hlow, hhigh⟩ := fill_bounds 52 hpos hlt
  obtain ⟨h, hround⟩ := ofScientific_natural hpos hlt
  have hunpack : (ofNatural n).toModel.unpack =
      .finite .positive (n * 2 ^ (52 - n.log2)) (n.log2 - 52) h := by
    show UnpackedFloat.unpack Format.binary64
      (UnpackedFloat.pack Format.binary64 (UnpackedFloat.ofScientific Format.binary64 n 0)) = _
    rw [hround]
    refine unpack_pack_normal hlow hhigh ?_ ?_
    · simp [Format.minExponent, Format.mantissaBits]
      omega
    · simp [Format.exponentBias]
      omega
  have hshift := shiftToExponent_mul_pow n (52 - n.log2) (n.log2 - 52)
  have hzero : ((n.log2 : Int) - 52) + ((52 - n.log2 : Nat) : Int) = 0 := by omega
  have hstay : ((n.log2 : Int) - 52).toNat = 0 := by omega
  rw [hzero] at hshift
  simp only [truncate, hunpack, roundToInt, decreaseExponent, Int.sub_zero, hstay,
    Nat.shiftLeft_zero, Nat.cast_zero, hshift, Sign.apply]

end Fill

end Natural

end Ieee
