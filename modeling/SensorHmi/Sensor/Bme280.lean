import SensorHmi.Lib.IeeeValue
import SensorHmi.Lib.Signed
import SensorHmi.Platform

/-!
# The environment sensor

Calibration and compensation of `sensor_node/main/drivers/bme280.c`, next to the compensation
formulas of the sensor's datasheet, whose integers of 32 bits are checked for overflow. The driver
reads `dig_H4` and `dig_H5` without their sign. The first loses the difference when it is shifted
left by 20 (`int32_shifted`); the second does not (`digH5_eq_iff`). Where `dig_H5` is not negative,
the results are those of the datasheet: `compensates_like_datasheet`.
-/

namespace SensorHmi

open Ieee Signed

/-- `calib` of `bme280_device_t` -/
structure Bme280Calib where
  digT1 : UInt16 := 0
  digT2 : Int16 := 0
  digT3 : Int16 := 0
  digP1 : UInt16 := 0
  digP2 : Int16 := 0
  digP3 : Int16 := 0
  digP4 : Int16 := 0
  digP5 : Int16 := 0
  digP6 : Int16 := 0
  digP7 : Int16 := 0
  digP8 : Int16 := 0
  digP9 : Int16 := 0
  digH1 : UInt8 := 0
  digH2 : Int16 := 0
  digH3 : UInt8 := 0
  digH4 : Int16 := 0
  digH5 : Int16 := 0
  digH6 : Int8 := 0

/-- `bme280_device_t` in use; its address only goes to the bus. -/
structure Bme280Device where
  calibrated : Bool := false
  calib : Bme280Calib := {}

/-- Two octets of a register dump as they are put together: `b[i] | (b[i + 1] << 8)`. -/
def bme280Word (low high : UInt8) : UInt16 :=
  low.toUInt16 ||| (high.toUInt16 <<< 8)

/-- What `bme280_load_calibration` takes from its first read, `calib_tph`. -/
def bme280CalibTph (registers : UInt8 → UInt8) (calib : Bme280Calib) : Bme280Calib :=
  let word (low high : UInt8) : UInt16 := bme280Word (registers low) (registers high)
  { calib with
    digT1 := word 0x88 0x89
    digT2 := (word 0x8A 0x8B).toInt16
    digT3 := (word 0x8C 0x8D).toInt16
    digP1 := word 0x8E 0x8F
    digP2 := (word 0x90 0x91).toInt16
    digP3 := (word 0x92 0x93).toInt16
    digP4 := (word 0x94 0x95).toInt16
    digP5 := (word 0x96 0x97).toInt16
    digP6 := (word 0x98 0x99).toInt16
    digP7 := (word 0x9A 0x9B).toInt16
    digP8 := (word 0x9C 0x9D).toInt16
    digP9 := (word 0x9E 0x9F).toInt16
    digH1 := registers 0xA1 }

/-- What `bme280_load_calibration` takes from its last read, `calib_h`. -/
def bme280CalibH (registers : UInt8 → UInt8) (calib : Bme280Calib) : Bme280Calib :=
  { calib with
    digH2 := (bme280Word (registers 0xE1) (registers 0xE2)).toInt16
    digH3 := registers 0xE3
    digH4 := (((registers 0xE4).toUInt16 <<< 4) ||| ((registers 0xE5).toUInt16 &&& 0x0F)).toInt16
    digH5 := (((registers 0xE6).toUInt16 <<< 4) ||| ((registers 0xE5).toUInt16 >>> 4)).toInt16
    digH6 := (registers 0xE7).toInt8 }

/-- `bme280_load_calibration`; `reads` are what its three reads return, `registers` is the memory
of the sensor. -/
def bme280LoadCalibration (reads : Fin 3 → EspErr) (registers : UInt8 → UInt8)
    (dev : Bme280Device) : EspErr × Bme280Device :=
  if dev.calibrated then (.ok, dev)
  else if reads 0 ≠ .ok then (reads 0, dev)
  else
    let dev := { dev with calib := bme280CalibTph registers dev.calib }
    if reads 1 ≠ .ok then (reads 1, dev)
    else
      let dev := { dev with calib := { dev.calib with digH1 := registers 0xA1 } }
      if reads 2 ≠ .ok then (reads 2, dev)
      else (.ok, { calibrated := true, calib := bme280CalibH registers dev.calib })

/-- `adc_T` of `bme280_perform_measurement` -/
def bme280AdcT (registers : UInt8 → UInt8) : Int :=
  ((registers 0xFA).toUInt32 <<< 12 ||| (registers 0xFB).toUInt32 <<< 4 |||
    (registers 0xFC).toUInt32 >>> 4).toNat

/-- `adc_H` of `bme280_perform_measurement` -/
def bme280AdcH (registers : UInt8 → UInt8) : Int :=
  ((registers 0xFD).toUInt32 <<< 8 ||| (registers 0xFE).toUInt32).toNat

/-- A result in an `int32_t`. -/
def int32 (x : Int) : Int := wrap 32 x

/-- The conversion of an `int32_t` to `float`. -/
def floatOfInt (x : Int) : Float32 := .ofModel (.ofInt x)

/-- `bme280_compensate_temperature`: the temperature and `*t_fine`. -/
def bme280CompensateTemperature (calib : Bme280Calib) (adcT : Int) : Float32 × Int :=
  let digT1 : Int := calib.digT1.toNat
  let digT2 := calib.digT2.toInt
  let digT3 := calib.digT3.toInt
  let var1 := int32 (int32 ((adcT >>> 3) - int32 (digT1 * 2 ^ 1)) * digT2) >>> 11
  let diff := int32 ((adcT >>> 4) - digT1)
  let var2 := int32 ((int32 (diff * diff) >>> 12) * digT3) >>> 14
  let tFine := int32 (var1 + var2)
  let temp := int32 (int32 (tFine * 5) + 128) >>> 8
  (floatOfInt temp / 100, tFine)

/-- `bme280_compensate_humidity` -/
def bme280CompensateHumidity (calib : Bme280Calib) (adcH tFine : Int) : Float32 :=
  let digH1 : Int := calib.digH1.toNat
  let digH2 := calib.digH2.toInt
  let digH3 : Int := calib.digH3.toNat
  let digH4 := calib.digH4.toInt
  let digH5 := calib.digH5.toInt
  let digH6 := calib.digH6.toInt
  let vX1 := int32 (tFine - 76800)
  let offset := int32 (int32 (int32 (adcH * 2 ^ 14) - int32 (digH4 * 2 ^ 20)) - int32 (digH5 * vX1))
  let first := int32 (offset + 16384) >>> 15
  let slope := int32 ((int32 (vX1 * digH6) >>> 10) * int32 ((int32 (vX1 * digH3) >>> 11) + 32768))
  let second := int32 (int32 (int32 ((slope >>> 10) + 2097152) * digH2) + 8192) >>> 14
  let vX1 := int32 (first * second)
  let square := int32 ((vX1 >>> 15) * (vX1 >>> 15))
  let vX1 := int32 (vX1 - (int32 ((square >>> 7) * digH1) >>> 4))
  let vX1 := if vX1 < 0 then 0 else vX1
  let vX1 := if 419430400 < vX1 then 419430400 else vX1
  floatOfInt (vX1 >>> 12) / 1024

/-- The trimming parameters for temperature and humidity as the datasheet has them: `dig_H4` and
`dig_H5` are signed numbers of twelve bits. -/
structure BoschCalib where
  digT1 : Int
  digT2 : Int
  digT3 : Int
  digH1 : Int
  digH2 : Int
  digH3 : Int
  digH4 : Int
  digH5 : Int
  digH6 : Int

/-- The trimming parameters in the memory of the sensor. -/
def boschCalib (registers : UInt8 → UInt8) : BoschCalib :=
  let octet (reg : UInt8) : Int := (registers reg).toNat
  let word (low high : UInt8) : Int := octet low + 256 * octet high
  { digT1 := word 0x88 0x89
    digT2 := wrap 16 (word 0x8A 0x8B)
    digT3 := wrap 16 (word 0x8C 0x8D)
    digH1 := octet 0xA1
    digH2 := wrap 16 (word 0xE1 0xE2)
    digH3 := octet 0xE3
    digH4 := wrap 12 (16 * octet 0xE4 + octet 0xE5 % 16)
    digH5 := wrap 12 (16 * octet 0xE6 + octet 0xE5 / 16)
    digH6 := wrap 8 (octet 0xE7) }

/-- `BME280_compensate_T_int32` of the datasheet, in hundredths of a degree, and its `t_fine`. None
if a value of 32 bits overflows on the way. -/
def boschCompensateTemperature (calib : BoschCalib) (adcT : Int) : Option (Int × Int) := do
  let twice ← checked 32 (calib.digT1 * 2 ^ 1)
  let diff1 ← checked 32 ((adcT >>> 3) - twice)
  let product1 ← checked 32 (diff1 * calib.digT2)
  let diff2 ← checked 32 ((adcT >>> 4) - calib.digT1)
  let square ← checked 32 (diff2 * diff2)
  let product2 ← checked 32 ((square >>> 12) * calib.digT3)
  let tFine ← checked 32 ((product1 >>> 11) + (product2 >>> 14))
  let fivefold ← checked 32 (tFine * 5)
  let rounded ← checked 32 (fivefold + 128)
  return (rounded >>> 8, tFine)

/-- `bme280_compensate_H_int32` of the datasheet, in percent with ten binary places. None if a value
of 32 bits overflows on the way. -/
def boschCompensateHumidity (calib : BoschCalib) (adcH tFine : Int) : Option Int := do
  let vX1 ← checked 32 (tFine - 76800)
  let adc ← checked 32 (adcH * 2 ^ 14)
  let h4 ← checked 32 (calib.digH4 * 2 ^ 20)
  let h5 ← checked 32 (calib.digH5 * vX1)
  let diff ← checked 32 (adc - h4)
  let offset ← checked 32 (diff - h5)
  let first ← checked 32 (offset + 16384)
  let h6 ← checked 32 (vX1 * calib.digH6)
  let h3 ← checked 32 (vX1 * calib.digH3)
  let sum ← checked 32 ((h3 >>> 11) + 32768)
  let slope ← checked 32 ((h6 >>> 10) * sum)
  let scale ← checked 32 ((slope >>> 10) + 2097152)
  let h2 ← checked 32 (scale * calib.digH2)
  let second ← checked 32 (h2 + 8192)
  let product ← checked 32 ((first >>> 15) * (second >>> 14))
  let square ← checked 32 ((product >>> 15) * (product >>> 15))
  let h1 ← checked 32 ((square >>> 7) * calib.digH1)
  let humidity ← checked 32 (product - (h1 >>> 4))
  let humidity := if humidity < 0 then 0 else humidity
  let humidity := if 419430400 < humidity then 419430400 else humidity
  return humidity >>> 12

section Coefficients

variable {registers : UInt8 → UInt8} {dev : Bme280Device}

/-- What a complete load leaves, whatever was there. -/
def loadedCalib (registers : UInt8 → UInt8) : Bme280Calib :=
  bme280CalibH registers (bme280CalibTph registers {})

/-- A device that counts as calibrated has the complete calibration. -/
def Bme280Device.Loaded (registers : UInt8 → UInt8) (dev : Bme280Device) : Prop :=
  dev.calibrated = true → dev.calib = loadedCalib registers

theorem loaded_of_load (reads : Fin 3 → EspErr) (h : dev.Loaded registers) :
    (bme280LoadCalibration reads registers dev).2.Loaded registers ∧
      ((bme280LoadCalibration reads registers dev).1 = .ok →
        (bme280LoadCalibration reads registers dev).2.calibrated = true) := by
  unfold bme280LoadCalibration
  split_ifs with hcalibrated hfirst hsecond hthird
  · exact ⟨h, fun _ => hcalibrated⟩
  · exact ⟨h, fun hok => absurd hok hfirst⟩
  · exact ⟨fun hdone => absurd hdone hcalibrated, fun hok => absurd hok hsecond⟩
  · exact ⟨fun hdone => absurd hdone hcalibrated, fun hok => absurd hok hthird⟩
  · exact ⟨fun _ => rfl, fun _ => rfl⟩

/-- A device after these loads, some of which may have failed. -/
def bme280Loads (registers : UInt8 → UInt8) (attempts : List (Fin 3 → EspErr)) : Bme280Device :=
  attempts.foldl (fun dev reads => (bme280LoadCalibration reads registers dev).2) {}

theorem loaded_of_loads (registers : UInt8 → UInt8) (attempts : List (Fin 3 → EspErr)) :
    (bme280Loads registers attempts).Loaded registers := by
  induction attempts using List.reverseRecOn with
  | nil => exact fun hdone => absurd hdone Bool.false_ne_true
  | append_singleton attempts reads ih =>
    rw [bme280Loads, List.foldl_append]
    exact (loaded_of_load reads ih).1

/-- The calibration after a load that returns `ESP_OK`. -/
theorem calib_of_load {attempts : List (Fin 3 → EspErr)} {reads : Fin 3 → EspErr}
    (h : (bme280LoadCalibration reads registers (bme280Loads registers attempts)).1 = .ok) :
    (bme280LoadCalibration reads registers (bme280Loads registers attempts)).2.calib =
      loadedCalib registers := by
  obtain ⟨hloaded, hdone⟩ := loaded_of_load reads (loaded_of_loads registers attempts)
  exact hloaded (hdone h)

theorem toNat_bme280Word (low high : UInt8) :
    (bme280Word low high).toNat = low.toNat + 256 * high.toNat := by
  have hlow := low.toNat_lt
  have hhigh := high.toNat_lt
  have hsum := Nat.shiftLeft_add_eq_or_of_lt hlow high.toNat
  rw [Nat.shiftLeft_eq] at hsum
  rw [bme280Word, UInt16.toNat_or, UInt16.toNat_shiftLeft, UInt8.toNat_toUInt16,
    UInt8.toNat_toUInt16]
  show low.toNat ||| high.toNat <<< 8 % 2 ^ 16 = _
  rw [Nat.shiftLeft_eq, Nat.mod_eq_of_lt (by omega), Nat.or_comm, ← hsum]
  omega

/-- A conversion to a signed type of the same size reads the number with its sign. -/
theorem toInt_toInt16 (x : UInt16) : x.toInt16.toInt = wrap 16 x.toNat :=
  BitVec.toInt_eq_toNat_bmod x.toBitVec

theorem toInt_toInt8 (x : UInt8) : x.toInt8.toInt = wrap 8 x.toNat :=
  BitVec.toInt_eq_toNat_bmod x.toBitVec

/-- Twelve bits put together of an octet and half of another. -/
theorem toInt_twelve (high : UInt8) {low : UInt16} (hlow : low.toNat < 2 ^ 4) :
    ((high.toUInt16 <<< 4) ||| low).toInt16.toInt = 16 * high.toNat + low.toNat := by
  have hhigh := high.toNat_lt
  have hsum := Nat.shiftLeft_add_eq_or_of_lt hlow high.toNat
  rw [Nat.shiftLeft_eq] at hsum
  have hvalue : ((high.toUInt16 <<< 4) ||| low).toNat = 16 * high.toNat + low.toNat := by
    rw [UInt16.toNat_or, UInt16.toNat_shiftLeft, UInt8.toNat_toUInt16]
    show high.toNat <<< 4 % 2 ^ 16 ||| low.toNat = _
    rw [Nat.shiftLeft_eq, Nat.mod_eq_of_lt (by omega), ← hsum, Nat.mul_comm]
  rw [toInt_toInt16, hvalue, wrap_of_fits (by decide)]
  · push_cast
    rfl
  · constructor <;> push_cast <;> omega

/-- The calibration a load leaves has the parameters of the datasheet, but for `dig_H4` and
`dig_H5`. -/
structure Trimmed (calib : Bme280Calib) (bosch : BoschCalib) : Prop where
  digT1 : calib.digT1.toNat = bosch.digT1
  digT2 : calib.digT2.toInt = bosch.digT2
  digT3 : calib.digT3.toInt = bosch.digT3
  digH1 : calib.digH1.toNat = bosch.digH1
  digH2 : calib.digH2.toInt = bosch.digH2
  digH3 : calib.digH3.toNat = bosch.digH3
  digH6 : calib.digH6.toInt = bosch.digH6

/-- Two octets as a number with its sign. -/
theorem toInt_bme280Word (low high : UInt8) :
    (bme280Word low high).toInt16.toInt = wrap 16 ((low.toNat : Int) + 256 * high.toNat) := by
  rw [toInt_toInt16, toNat_bme280Word, Nat.cast_add, Nat.cast_mul, Nat.cast_ofNat]

theorem trimmed_of_load (registers : UInt8 → UInt8) :
    Trimmed (loadedCalib registers) (boschCalib registers) := by
  have hT1 : ((bme280Word (registers 0x88) (registers 0x89)).toNat : Int) =
      (registers 0x88).toNat + 256 * (registers 0x89).toNat := by
    rw [toNat_bme280Word, Nat.cast_add, Nat.cast_mul, Nat.cast_ofNat]
  constructor <;> simp only [boschCalib]
  case digT1 => exact hT1
  case digT2 => exact toInt_bme280Word (registers 0x8A) (registers 0x8B)
  case digT3 => exact toInt_bme280Word (registers 0x8C) (registers 0x8D)
  case digH1 => rfl
  case digH2 => exact toInt_bme280Word (registers 0xE1) (registers 0xE2)
  case digH3 => rfl
  case digH6 => exact toInt_toInt8 (registers 0xE7)

/-- The two parameters of twelve bits without their sign. -/
theorem twelve_of_load (registers : UInt8 → UInt8) :
    let calib := loadedCalib registers
    (boschCalib registers).digH4 = wrap 12 calib.digH4.toInt ∧
      (boschCalib registers).digH5 = wrap 12 calib.digH5.toInt ∧
      (0 ≤ calib.digH5.toInt ∧ calib.digH5.toInt < 2 ^ 12) ∧
      (calib.digH5.toInt < 2 ^ 11 ↔ registers 0xE6 < 0x80) := by
  intro calib
  have hnibble := (registers 0xE5).toNat_lt
  have hhigh := (registers 0xE6).toNat_lt
  have hlow : ((registers 0xE5).toUInt16 &&& 0x0F).toNat = (registers 0xE5).toNat % 16 := by
    rw [UInt16.toNat_and, UInt8.toNat_toUInt16]
    exact Nat.and_two_pow_sub_one_eq_mod (registers 0xE5).toNat 4
  have hrest : ((registers 0xE5).toUInt16 >>> 4).toNat = (registers 0xE5).toNat / 16 := by
    rw [UInt16.toNat_shiftRight, UInt8.toNat_toUInt16]
    exact Nat.shiftRight_eq_div_pow (registers 0xE5).toNat 4
  have hH4 : calib.digH4.toInt = 16 * (registers 0xE4).toNat + (registers 0xE5).toNat % 16 := by
    have hvalue := @toInt_twelve (registers 0xE4) ((registers 0xE5).toUInt16 &&& 0x0F) (by omega)
    rw [hlow] at hvalue
    exact hvalue
  have hH5 : calib.digH5.toInt = 16 * (registers 0xE6).toNat + (registers 0xE5).toNat / 16 := by
    have hvalue := @toInt_twelve (registers 0xE6) ((registers 0xE5).toUInt16 >>> 4) (by omega)
    rw [hrest] at hvalue
    exact hvalue
  have hsmall : registers 0xE6 < 0x80 ↔ (registers 0xE6).toNat < 128 := UInt8.lt_iff_toNat_lt
  rw [hsmall, hH4, hH5]
  simp only [boschCalib, true_and]
  constructor
  · omega
  · omega

/-- The driver's `dig_H5` has the sign of the datasheet's only where there is none. -/
theorem digH5_eq_iff (registers : UInt8 → UInt8) :
    (loadedCalib registers).digH5.toInt = (boschCalib registers).digH5 ↔
      registers 0xE6 < 0x80 := by
  obtain ⟨-, hH5, ⟨hlow, hhigh⟩, hsign⟩ := twelve_of_load registers
  rw [hH5, ← hsign]
  constructor
  · intro hsame
    have hfits := wrap_lt (loadedCalib registers).digH5.toInt (by decide : 0 < 12)
    omega
  · intro hsmall
    exact (wrap_of_fits (by decide) ⟨by omega, by omega⟩).symm

end Coefficients

section Compensation

variable {calib : Bme280Calib} {bosch : BoschCalib} {adcT adcH tFine : Int}

theorem int32_of_checked {x y : Int} (h : checked 32 x = some y) : int32 x = y :=
  wrap_of_checked (by decide) h

theorem temperature_of_checked (h : Trimmed calib bosch) {temp : Int}
    (hbosch : boschCompensateTemperature bosch adcT = some (temp, tFine)) :
    bme280CompensateTemperature calib adcT = (floatOfInt temp / 100, tFine) := by
  simp only [boschCompensateTemperature, Option.bind_eq_bind, Option.bind_eq_some_iff,
    Option.pure_def, Option.some.injEq, Prod.mk.injEq] at hbosch
  obtain ⟨twice, htwice, diff1, hdiff1, product1, hproduct1, diff2, hdiff2, square, hsquare,
    product2, hproduct2, fine, hfine, fivefold, hfivefold, rounded, hrounded, rfl, rfl⟩ := hbosch
  simp only [bme280CompensateTemperature, h.digT1, h.digT2, h.digT3, int32_of_checked htwice,
    int32_of_checked hdiff1, int32_of_checked hproduct1, int32_of_checked hdiff2,
    int32_of_checked hsquare, int32_of_checked hproduct2, int32_of_checked hfine,
    int32_of_checked hfivefold, int32_of_checked hrounded]

/-- Shifted left by 20, a number of twelve bits does not need its sign. -/
theorem int32_shifted (h : bosch.digH4 = wrap 12 calib.digH4.toInt) :
    int32 (calib.digH4.toInt * 2 ^ 20) = int32 (bosch.digH4 * 2 ^ 20) := by
  obtain ⟨k, hk⟩ := exists_wrap_eq 12 calib.digH4.toInt
  rw [← h] at hk
  have hrange : calib.digH4.toInt * 2 ^ 20 = bosch.digH4 * 2 ^ 20 + 2 ^ 32 * k := by
    rw [hk]
    ring
  rw [hrange, int32, wrap_add_mul, int32]

theorem humidity_of_checked (h : Trimmed calib bosch)
    (hH4 : bosch.digH4 = wrap 12 calib.digH4.toInt) (hH5 : calib.digH5.toInt = bosch.digH5)
    {humidity : Int} (hbosch : boschCompensateHumidity bosch adcH tFine = some humidity) :
    bme280CompensateHumidity calib adcH tFine = floatOfInt humidity / 1024 := by
  simp only [boschCompensateHumidity, Option.bind_eq_bind, Option.bind_eq_some_iff,
    Option.pure_def, Option.some.injEq] at hbosch
  obtain ⟨vX1, hvX1, adc, hadc, h4, hh4, h5, hh5, diff, hdiff, offset, hoffset, first, hfirst,
    h6, hh6, h3, hh3, sum, hsum, slope, hslope, scale, hscale, h2, hh2, second, hsecond,
    product, hproduct, square, hsquare, h1, hh1, final, hfinal, rfl⟩ := hbosch
  simp only [bme280CompensateHumidity, h.digH1, h.digH2, h.digH3, h.digH6, hH5,
    int32_shifted hH4, int32_of_checked hvX1, int32_of_checked hadc, int32_of_checked hh4,
    int32_of_checked hh5, int32_of_checked hdiff, int32_of_checked hoffset,
    int32_of_checked hfirst, int32_of_checked hh6, int32_of_checked hh3, int32_of_checked hsum,
    int32_of_checked hslope, int32_of_checked hscale, int32_of_checked hh2,
    int32_of_checked hsecond, int32_of_checked hproduct, int32_of_checked hsquare,
    int32_of_checked hh1, int32_of_checked hfinal]

/-- The humidity of the datasheet is at most 100 percent. -/
theorem humidity_bounds {humidity : Int}
    (h : boschCompensateHumidity bosch adcH tFine = some humidity) :
    0 ≤ humidity ∧ humidity ≤ 102400 := by
  simp only [boschCompensateHumidity, Option.bind_eq_bind, Option.bind_eq_some_iff,
    Option.pure_def, Option.some.injEq] at h
  obtain ⟨-, -, -, -, -, -, -, -, -, -, -, -, -, -, -, -, -, -, -, -, -, -, -, -, -, -, -, -, -, -,
    -, -, -, -, final, -, rfl⟩ := h
  have hshift (x : Int) : x >>> 12 = x / 4096 :=
    (Int.shiftRight_natCast_right x 12).trans (Int.shiftRight_eq_div_pow x 12)
  rw [hshift]
  split_ifs <;> omega

/-- It is a single. -/
theorem value_humidity {humidity : Int} (hlow : 0 ≤ humidity) (hhigh : humidity ≤ 102400) :
    singleValue (floatOfInt humidity / 1024) = some ((humidity : ℚ) / 1024) := by
  obtain ⟨n, rfl⟩ := Int.eq_ofNat_of_zero_le hlow
  have hthousand : (1024 : Float32) = .ofModel (.ofNat (2 ^ 10)) := by decide
  have hvalue := @value_div_two_pow n 10 (by omega) (by decide)
  have hpow : (2 : ℚ) ^ 10 = 1024 := by norm_num
  rw [hpow] at hvalue
  rw [hthousand, Int.cast_natCast]
  exact hvalue

end Compensation

/-- After a load that returns `ESP_OK` the driver computes the temperature of the datasheet.
Its `dig_H5` is that of the datasheet exactly when bit 7 of register 0xE6 is clear, and then its
humidity is too. -/
theorem compensates_like_datasheet (registers : UInt8 → UInt8)
    (attempts : List (Fin 3 → EspErr)) (reads : Fin 3 → EspErr)
    (hload : (bme280LoadCalibration reads registers (bme280Loads registers attempts)).1 = .ok)
    {temp tFine : Int}
    (htemp : boschCompensateTemperature (boschCalib registers) (bme280AdcT registers) =
      some (temp, tFine)) :
    let calib := (bme280LoadCalibration reads registers (bme280Loads registers attempts)).2.calib
    bme280CompensateTemperature calib (bme280AdcT registers) = (floatOfInt temp / 100, tFine) ∧
      (calib.digH5.toInt = (boschCalib registers).digH5 ↔ registers 0xE6 < 0x80) ∧
      (registers 0xE6 < 0x80 → ∀ humidity,
        boschCompensateHumidity (boschCalib registers) (bme280AdcH registers) tFine =
            some humidity →
          singleValue (bme280CompensateHumidity calib (bme280AdcH registers) tFine) =
            some ((humidity : ℚ) / 1024)) := by
  rw [calib_of_load hload]
  intro calib
  have htrimmed := trimmed_of_load registers
  refine ⟨temperature_of_checked htrimmed htemp, digH5_eq_iff registers, ?_⟩
  intro hclear humidity hhumidity
  obtain ⟨hlow, hhigh⟩ := humidity_bounds hhumidity
  rw [humidity_of_checked htrimmed (twelve_of_load registers).1
    ((digH5_eq_iff registers).mpr hclear) hhumidity]
  exact value_humidity hlow hhigh

/-- The memory of a sensor at 25 degrees, with these octets for the registers of `dig_H5`. -/
def roomSensor (h5Low h5High : UInt8) : UInt8 → UInt8
  | 0x88 => 0x70 | 0x89 => 0x6B | 0x8A => 0x43 | 0x8B => 0x67 | 0x8C => 0x18 | 0x8D => 0xFC
  | 0xA1 => 75 | 0xE1 => 0x72 | 0xE2 => 0x01 | 0xE4 => 0x13 | 0xE5 => h5Low | 0xE6 => h5High
  | 0xE7 => 30 | 0xFA => 0x7E | 0xFB => 0xED | 0xFC => 0x00 | 0xFD => 0x76 | 0xFE => 0x49
  | _ => 0

/-- With `dig_H5` 50 the humidity is 59.3 percent. -/
theorem positive_h5_compensated :
    let registers := roomSensor 0x25 0x03
    let calib :=
      (bme280LoadCalibration (fun _ => .ok) registers (bme280Loads registers [])).2.calib
    bme280CompensateTemperature calib (bme280AdcT registers) =
        (floatOfInt 2508 / 100, 128422) ∧
      singleValue (bme280CompensateHumidity calib (bme280AdcH registers) 128422) =
        some (((60681 : Int) : ℚ) / 1024) := by
  intro registers calib
  obtain ⟨htemp, -, hhumidity⟩ :=
    @compensates_like_datasheet registers [] (fun _ => .ok) rfl 2508 128422 (by decide)
  exact ⟨htemp, hhumidity (by decide) 60681 (by decide)⟩

/-- With `dig_H5` -1 the datasheet has 60.2 percent, and the driver 0. -/
theorem negative_h5_dry :
    let registers := roomSensor 0xF5 0xFF
    let calib :=
      (bme280LoadCalibration (fun _ => .ok) registers (bme280Loads registers [])).2.calib
    (bme280LoadCalibration (fun _ => .ok) registers (bme280Loads registers [])).1 = .ok ∧
      (boschCalib registers).digH5 = -1 ∧
      boschCompensateTemperature (boschCalib registers) (bme280AdcT registers) =
        some (2508, 128422) ∧
      boschCompensateHumidity (boschCalib registers) (bme280AdcH registers) 128422 = some 61611 ∧
      bme280CompensateTemperature calib (bme280AdcT registers) =
        (floatOfInt 2508 / 100, 128422) ∧
      singleValue (bme280CompensateHumidity calib (bme280AdcH registers) 128422) = some 0 := by
  intro registers calib
  have hH4 : (loadedCalib registers).digH4.toInt = 309 := by decide
  have hH5 : (loadedCalib registers).digH5.toInt = 4095 := by decide
  have htrimmed := trimmed_of_load registers
  have hadc : bme280AdcH registers = 30281 := by decide
  have hdry : bme280CompensateHumidity calib (bme280AdcH registers) 128422 =
      floatOfInt 0 / 1024 := by
    have hcalib : calib = loadedCalib registers := rfl
    rw [hcalib, hadc]
    simp only [bme280CompensateHumidity, hH4, hH5, htrimmed.digH1, htrimmed.digH2,
      htrimmed.digH3, htrimmed.digH6]
    simp only [boschCalib]
    exact congrArg (fun x => floatOfInt x / 1024) (by decide)
  have hvalue := value_humidity (le_refl 0) (by decide : (0 : Int) ≤ 102400)
  rw [Int.cast_zero, zero_div] at hvalue
  refine ⟨rfl, by decide, by decide, by decide, ?_, ?_⟩
  · exact temperature_of_checked htrimmed (by decide)
  · rw [hdry, hvalue]
end SensorHmi
