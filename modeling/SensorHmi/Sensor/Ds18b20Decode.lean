import SensorHmi.Lib.IeeeValue
import SensorHmi.Sensor.Ds18b20List

/-!
# Temperatures of the one-wire sensors

`ds18b20_read_temperature` of `sensor_node/main/drivers/ds18b20.c`. The scratchpad holds a signed
number of sixteenths, and the driver reads it as an unsigned one: `temperature_stored_iff`.
-/

namespace SensorHmi

open Ieee

/-- What the one-wire bus answers to a read of a device: the result of each transfer, and the
scratchpad. -/
structure OnewireRead where
  reset : EspErr := .ok
  matchRom : EspErr := .ok
  writeRomCode : EspErr := .ok
  readCmd : EspErr := .ok
  readBytes : EspErr := .ok
  scratch : Vector UInt8 9

/-- `ds18b20_select_device` -/
def ds18b20SelectDevice (bus : OnewireRead) : EspErr :=
  if bus.reset ≠ .ok then bus.reset
  else if bus.matchRom ≠ .ok then bus.matchRom
  else bus.writeRomCode

/-- `ds18b20_read_temperature` -/
def ds18b20ReadTemperature (bus : OnewireRead) : Except EspErr Float32 :=
  if ds18b20SelectDevice bus ≠ .ok then .error (ds18b20SelectDevice bus)
  else if bus.readCmd ≠ .ok then .error bus.readCmd
  else if bus.readBytes ≠ .ok then .error bus.readBytes
  else
    let raw : UInt16 := (bus.scratch[1].toUInt16 <<< 8) ||| bus.scratch[0].toUInt16
    .ok (raw.toFloat32 / 16)

/-- The temperature in a scratchpad: the two's complement number of its bytes 1 and 0, in
sixteenths of a degree. -/
def scratchTemperature (scratch : Vector UInt8 9) : ℚ :=
  ((256 * scratch[1].toNat + scratch[0].toNat : Nat) : Int).bmod (2 ^ 16) / 16

/-- Inputs of an iteration in which the devices have these scratchpads and the bus has no errors. -/
def SensorsInputs.withScratch (inputs : SensorsInputs) (scratch : Nat → Vector UInt8 9) :
    SensorsInputs :=
  { inputs with readTemperature := fun i => ds18b20ReadTemperature { scratch := scratch i } }

section Driver

variable {scratch : Vector UInt8 9}

/-- Without errors the driver returns the unsigned number of sixteenths. -/
theorem ds18b20ReadTemperature_value (scratch : Vector UInt8 9) :
    ∃ temp, ds18b20ReadTemperature { scratch } = .ok temp ∧
      singleValue temp = some (((256 * scratch[1].toNat + scratch[0].toNat : Nat) : ℚ) / 16) := by
  refine ⟨_, rfl, ?_⟩
  have hlow := scratch[0].toNat_lt
  have hhigh := scratch[1].toNat_lt
  have hraw : ((scratch[1].toUInt16 <<< 8) ||| scratch[0].toUInt16 : UInt16).toNat =
      256 * scratch[1].toNat + scratch[0].toNat := by
    have hshift := Nat.shiftLeft_add_eq_or_of_lt hlow scratch[1].toNat
    rw [Nat.shiftLeft_eq] at hshift
    rw [UInt16.toNat_or, UInt16.toNat_shiftLeft, UInt8.toNat_toUInt16, UInt8.toNat_toUInt16]
    show scratch[1].toNat <<< 8 % 2 ^ 16 ||| scratch[0].toNat = _
    rw [Nat.shiftLeft_eq, Nat.mod_eq_of_lt (by omega), ← hshift, Nat.mul_comm]
  have hsixteen : (16 : Float32) = .ofModel (.ofNat (2 ^ 4)) := by decide
  have hvalue := @value_div_two_pow (256 * scratch[1].toNat + scratch[0].toNat) 4 (by omega)
    (by decide)
  have hpow : (2 : ℚ) ^ 4 = 16 := by norm_num
  rw [← hraw, hpow] at hvalue
  rw [← hraw, hsixteen]
  exact hvalue

/-- The two readings of the two bytes differ by 4096 degrees where the sign bit is set. -/
theorem scratchTemperature_eq_iff :
    ((256 * scratch[1].toNat + scratch[0].toNat : Nat) : ℚ) / 16 = scratchTemperature scratch ↔
      scratch[1] < 0x80 := by
  have hlow := scratch[0].toNat_lt
  have hhigh := scratch[1].toNat_lt
  have hsmall : scratch[1] < 0x80 ↔ scratch[1].toNat < 128 := UInt8.lt_iff_toNat_lt
  rw [scratchTemperature, div_left_inj' (by norm_num), hsmall]
  constructor
  · intro h
    have hint : ((256 * scratch[1].toNat + scratch[0].toNat : Nat) : Int) =
        ((256 * scratch[1].toNat + scratch[0].toNat : Nat) : Int).bmod (2 ^ 16) := by
      exact_mod_cast h
    rw [Int.bmod_def] at hint
    split_ifs at hint <;> omega
  · intro h
    rw [Int.bmod_eq_of_le (by omega) (by omega)]
    norm_cast

end Driver

section Store

variable {build : SensorsBuild} {inputs : SensorsInputs} {model : SensorDataModel}

/-- One write to an entry, which needs the lock. -/
theorem dataModelSetDs18b20_get (hinit : model.initialized = true) (locked : Bool) (k : Nat)
    (device : RomCode) (temp : Float32) (i : Fin 4) :
    (dataModelSetDs18b20 locked k device temp model).current.ds18b20.get i =
      if locked = true ∧ i.val = k then ⟨device, temp⟩ else model.current.ds18b20.get i := by
  rw [dataModelSetDs18b20]
  have hi := i.isLt
  by_cases hk : 4 ≤ k
  · rw [if_pos hk, if_neg (by omega)]
  · rw [if_neg hk, SensorDataModel.update, hinit, Bool.true_and]
    cases locked with
    | false => simp
    | true =>
        simp only [if_true, true_and, Vector.get_eq_getElem, Vector.getElem_setIfInBounds]
        by_cases hsame : k = i.val
        · rw [if_pos hsame, if_pos hsame.symm]
        · rw [if_neg hsame, if_neg (Ne.symm hsame)]

/-- A device whose read succeeds and gets the lock has its temperature stored in its entry. -/
theorem entry_of_read (hinit : model.initialized = true) {devices : List RomCode} {i : Fin 4}
    {device : RomCode} {temp : Float32} (hdevice : devices[i.val]? = some device)
    (htemp : inputs.readTemperature i = .ok temp) (hlock : inputs.dsLock i = true) :
    (performAll model (devices.mapIdx fun i device =>
      readDs18b20Temperature build inputs device i)).current.ds18b20.get i = ⟨device, temp⟩ := by
  induction devices using List.reverseRecOn with
  | nil => cases hdevice
  | append_singleton devices last ih =>
      have hreached := @initialized_performAll model hinit
        (devices.mapIdx fun i device => readDs18b20Temperature build inputs device i)
      rw [List.mapIdx_concat, performAll_append]
      show ((readDs18b20Temperature build inputs last devices.length).perform _).current.ds18b20.get
        i = _
      by_cases hlast : i.val = devices.length
      · have hsame : last = device := by
          rw [hlast, List.getElem?_concat_length] at hdevice
          exact Option.some.inj hdevice
        have hread : readDs18b20Temperature build inputs last devices.length =
            .setDs18b20 true true devices.length device temp := by
          rw [readDs18b20Temperature, ← hlast, htemp, hlock, hsame]
        rw [hread]
        exact (dataModelSetDs18b20_get hreached true devices.length device temp i).trans
          (if_pos ⟨rfl, hlast⟩)
      · obtain ⟨other, hother⟩ := @perform_read build inputs last devices.length
        have hbefore : i.val < devices.length := by
          have hin := (List.getElem?_eq_some_iff.mp hdevice).1
          rw [List.length_append, List.length_singleton] at hin
          omega
        rw [List.getElem?_append_left hbefore] at hdevice
        rw [hother, dataModelSetDs18b20_get hreached, if_neg (by omega)]
        exact ih hdevice

end Store

/-- A read of a sensor without errors returns the temperature in its scratchpad, and the temperature
is stored if the data model is free, exactly when it is not negative. -/
theorem temperature_stored_iff (build : SensorsBuild) (inputs : SensorsInputs)
    (scratch : Nat → Vector UInt8 9) (ctx : SensorsTaskCtx) (model : SensorDataModel)
    (hcomplete : ds18b20ConversionComplete (inputs.withScratch scratch) ctx = true)
    (hinit : model.initialized = true) (i : Fin 4) (device : RomCode)
    (hdevice : ctx.dsDevices[i.val]? = some device) :
    (∃ temp, ds18b20ReadTemperature { scratch := scratch i } = .ok temp ∧
        singleValue temp = some (scratchTemperature (scratch i)) ∧
        (inputs.dsLock i = true →
          (performAll model (readDs18b20Temperatures build (inputs.withScratch scratch)
            ctx).2).current.ds18b20.get i = ⟨device, temp⟩)) ↔
      (scratch i)[1] < 0x80 := by
  obtain ⟨temp, hread, hvalue⟩ := ds18b20ReadTemperature_value (scratch i)
  have hstored : inputs.dsLock i = true →
      (performAll model (readDs18b20Temperatures build (inputs.withScratch scratch)
        ctx).2).current.ds18b20.get i = ⟨device, temp⟩ := by
    intro hlock
    have hfour : (ctx.dsDevices.take 4)[i.val]? = some device := by
      rw [List.getElem?_take_of_lt i.isLt, hdevice]
    rw [readDs18b20Temperatures_eq.1, if_pos hcomplete, performAll_append]
    exact entry_of_read hinit hfour hread hlock
  rw [← scratchTemperature_eq_iff]
  constructor
  · rintro ⟨other, hother, hsigned, -⟩
    rw [hread] at hother
    rw [← Except.ok.inj hother, hvalue] at hsigned
    exact Option.some.inj hsigned
  · intro hsame
    rw [hsame] at hvalue
    exact ⟨temp, hread, hvalue, hstored⟩

/-- The scratchpad of a sensor at 85 degrees. -/
def hotScratch : Vector UInt8 9 := #v[0x50, 0x05, 0, 0, 0, 0, 0, 0, 0]

/-- A sensor at 85 degrees whose conversion is complete. -/
theorem temperature_stored_hot :
    ∃ temp, ds18b20ReadTemperature { scratch := hotScratch } = .ok temp ∧
      singleValue temp = some (scratchTemperature hotScratch) ∧
      ((plugged 0 []).dsLock 0 = true →
        (performAll dataModelInit (readDs18b20Temperatures ⟨.none, 1000, id⟩
          ((plugged 0 []).withScratch fun _ => hotScratch)
          { dsDevices := [Vector.replicate 8 1], dsConversionPending := true
            }).2).current.ds18b20.get 0 = ⟨Vector.replicate 8 1, temp⟩) :=
  (temperature_stored_iff ⟨.none, 1000, id⟩ (plugged 0 []) (fun _ => hotScratch)
    { dsDevices := [Vector.replicate 8 1], dsConversionPending := true } dataModelInit rfl rfl 0
    (Vector.replicate 8 1) rfl).mpr (by decide)

/-- The scratchpad of a sensor at half a degree below zero. -/
def coldScratch : Vector UInt8 9 := #v[0xF8, 0xFF, 0, 0, 0, 0, 0, 0, 0]

/-- It is read as 4095.5 degrees. -/
theorem cold_read_as_hot :
    scratchTemperature coldScratch = -1 / 2 ∧
      ∃ temp, ds18b20ReadTemperature { scratch := coldScratch } = .ok temp ∧
        singleValue temp = some (8191 / 2) := by
  have hraw : 256 * coldScratch[1].toNat + coldScratch[0].toNat = 65528 := rfl
  have hsigned : ((65528 : Nat) : Int).bmod (2 ^ 16) = -8 := by decide
  constructor
  · rw [scratchTemperature, hraw, hsigned]
    norm_num
  · obtain ⟨temp, hread, hvalue⟩ := ds18b20ReadTemperature_value coldScratch
    refine ⟨temp, hread, ?_⟩
    rw [hvalue, hraw]
    norm_num

end SensorHmi
