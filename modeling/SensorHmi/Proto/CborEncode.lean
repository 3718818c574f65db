import SensorHmi.Lib.Cbor
import SensorHmi.Lib.Numeral
import SensorHmi.Proto.Messages

/-!
# Writing messages as CBOR

The CBOR encoders of `common/proto/messages.c`. The calls of an encoder make up one data item; as
tinycbor documents them, they write its encoding with the shortest heads, and succeed when that
fits the buffer.
-/

namespace SensorHmi

open Octets Numeral Cbor

/-- `cbor_encode_text_stringz` -/
def textStringz (text : String) : Item :=
  .text (ascii text)

/-- An encoder that writes this item: the octets and their CRC. -/
def cborInto (item : Item) (bufferLen : Nat) : Option (Bytes × UInt32) :=
  if bufferLen = 0 ∨ bufferLen < (encode item).length then none
  else some (encode item, protoCrc32 (encode item))

/-- What an encoder returns is the encoding of its item and the CRC of that. -/
theorem cborInto_eq_some {item : Item} {bufferLen : Nat} {payload : Bytes} {crc32 : UInt32}
    (h : cborInto item bufferLen = some (payload, crc32)) :
    payload = encode item ∧ crc32 = protoCrc32 payload := by
  unfold cborInto at h
  split_ifs at h
  cases h
  exact ⟨rfl, rfl⟩

section Command

variable (msg : ProtoCommand)

/-- The `set_pwm` section. -/
def setPwmItems : List Item :=
  [textStringz "set_pwm", .map false
    [textStringz "ch", .uint msg.pwmUpdate.channel.toUInt64,
      textStringz "duty", .uint msg.pwmUpdate.dutyCycle.toUInt64]]

/-- The `pwm_freq` section. -/
def pwmFreqItems : List Item :=
  [textStringz "pwm_freq", .map false [textStringz "freq", .uint msg.pwmFrequency.toUInt64]]

/-- The `write_gpio` section. -/
def writeGpioItems : List Item :=
  [textStringz "write_gpio", .map false
    [textStringz "dev",
      if msg.gpioWrite.deviceIndex = 0 then textStringz "mcp0" else textStringz "mcp1",
      textStringz "port", if msg.gpioWrite.port = 0 then textStringz "A" else textStringz "B",
      textStringz "mask", .uint msg.gpioWrite.mask.toUInt64,
      textStringz "value", .uint msg.gpioWrite.value.toUInt64]]

/-- The map `encode_command_cbor_into` writes. -/
def commandItem : Item :=
  .map true
    ([textStringz "v", .uint 1, textStringz "type", textStringz "cmd",
      textStringz "ts", .uint msg.timestampMs.toUInt64,
      textStringz "seq", .uint msg.sequenceId.toUInt64] ++
    (if msg.hasPwmUpdate then setPwmItems msg else []) ++
    (if msg.hasPwmFrequency then pwmFreqItems msg else []) ++
    (if msg.hasGpioWrite then writeGpioItems msg else []))

/-- `encode_command_cbor_into` -/
def encodeCommandCborInto (bufferLen : Nat) : Option (Bytes × UInt32) :=
  cborInto (commandItem msg) bufferLen

end Command

section SensorUpdate

/-- An element of `sht20`. -/
def sht20Item (entry : ProtoSht20Reading) : Item :=
  .map false
    [textStringz "id", .text (cString entry.id.toList),
      textStringz "t", .single entry.temperatureC,
      textStringz "rh", .single entry.humidityPercent,
      textStringz "ok", .bool entry.valid]

/-- An element of `ds18b20`. -/
def ds18b20Item (entry : ProtoDs18b20Reading) : Item :=
  .map false
    [textStringz "rom", .text (hexText entry.romCode.toList),
      textStringz "t", .single entry.temperatureC]

/-- A port expander in `gpio`. -/
def mcpItem (state : ProtoMcp23017State) : Item :=
  .map false
    [textStringz "A", .uint state.portA.toUInt64, textStringz "B", .uint state.portB.toUInt64]

/-- The map `encode_sensor_update_cbor_into` writes. -/
def sensorUpdateItem (msg : ProtoSensorUpdate) : Item :=
  .map true
    [textStringz "v", .uint 1, textStringz "type", textStringz "sensor_update",
      textStringz "ts", .uint msg.timestampMs.toUInt64,
      textStringz "seq", .uint msg.sequenceId.toUInt64,
      textStringz "sht20", .array (msg.sht20Entries.map sht20Item),
      textStringz "ds18b20", .array (msg.ds18b20Entries.map ds18b20Item),
      textStringz "gpio", .map false
        [textStringz "mcp0", mcpItem msg.mcp0, textStringz "mcp1", mcpItem msg.mcp1],
      textStringz "pwm", .map false
        [textStringz "pca9685", .map false
          [textStringz "freq", .uint msg.pwm.frequencyHz.toUInt64,
            textStringz "duty", .array (msg.pwm.dutyCycle.toList.map fun duty =>
              .uint duty.toUInt64)]]]

/-- `encode_sensor_update_cbor_into` -/
def encodeSensorUpdateCborInto (msg : ProtoSensorUpdate) (bufferLen : Nat) :
    Option (Bytes × UInt32) :=
  cborInto (sensorUpdateItem msg) bufferLen

theorem bound_textStringz (text : String) :
    bound (textStringz text) = 9 + text.toList.length := by
  rw [textStringz, bound, ascii, List.length_map]

theorem bound_sht20Item (entry : ProtoSht20Reading) : bound (sht20Item entry) ≤ 200 := by
  have hid : (cString entry.id.toList).length ≤ 16 :=
    (List.takeWhile_sublist _).length_le.trans (by simp)
  simp only [sht20Item, bound, boundAll, bound_textStringz]
  show 9 + (9 + 2 + (9 + (cString entry.id.toList).length +
    (9 + 1 + (9 + (9 + 2 + (9 + (9 + 2 + (9 + 0)))))))) ≤ 200
  omega

theorem bound_ds18b20Item (entry : ProtoDs18b20Reading) : bound (ds18b20Item entry) ≤ 100 := by
  have hrom : (hexText entry.romCode.toList).length = 16 := by simp [hexText]
  simp only [ds18b20Item, bound, boundAll, bound_textStringz, hrom]
  decide

theorem bound_sensorUpdateItem (msg : ProtoSensorUpdate) :
    bound (sensorUpdateItem msg) ≤
      boundAll (msg.sht20Entries.map sht20Item) + boundAll (msg.ds18b20Entries.map ds18b20Item) +
        boundAll (msg.pwm.dutyCycle.toList.map fun duty => Item.uint duty.toUInt64) + 600 := by
  have hmcp : ∀ state, bound (mcpItem state) = 47 := fun _ => rfl
  simp only [sensorUpdateItem, bound, boundAll, bound_textStringz, hmcp]
  generalize boundAll (msg.sht20Entries.map sht20Item) = first
  generalize boundAll (msg.ds18b20Entries.map ds18b20Item) = second
  generalize boundAll (msg.pwm.dutyCycle.toList.map fun duty => Item.uint duty.toUInt64) = third
  simp
  omega

/-- The CBOR encoding of telemetry fits a buffer of 2048 octets. -/
theorem length_sensorUpdateItem (msg : ProtoSensorUpdate) :
    (encode (sensorUpdateItem msg)).length ≤ 2048 := by
  have hsht : boundAll (msg.sht20Entries.map sht20Item) ≤ 2 * 200 := by
    have hcount : (msg.sht20Entries.map sht20Item).length ≤ 2 := by
      simp [ProtoSensorUpdate.sht20Entries]
    refine (boundAll_le 200 ?_).trans (Nat.mul_le_mul_right _ hcount)
    intro item hmem
    obtain ⟨entry, -, rfl⟩ := List.mem_map.mp hmem
    exact bound_sht20Item entry
  have hds : boundAll (msg.ds18b20Entries.map ds18b20Item) ≤ 4 * 100 := by
    have hcount : (msg.ds18b20Entries.map ds18b20Item).length ≤ 4 := by
      simp [ProtoSensorUpdate.ds18b20Entries]
    refine (boundAll_le 100 ?_).trans (Nat.mul_le_mul_right _ hcount)
    intro item hmem
    obtain ⟨entry, -, rfl⟩ := List.mem_map.mp hmem
    exact bound_ds18b20Item entry
  have hduty : boundAll (msg.pwm.dutyCycle.toList.map fun duty => Item.uint duty.toUInt64) ≤
      16 * 9 := by
    have hcount : (msg.pwm.dutyCycle.toList.map fun duty => Item.uint duty.toUInt64).length =
      16 := by
      simp
    refine (boundAll_le 9 ?_).trans (Nat.mul_le_mul_right _ hcount.le)
    intro item hmem
    obtain ⟨duty, -, rfl⟩ := List.mem_map.mp hmem
    exact le_rfl
  calc (encode (sensorUpdateItem msg)).length ≤ bound (sensorUpdateItem msg) := length_encode_le _
    _ ≤ boundAll (msg.sht20Entries.map sht20Item) + boundAll (msg.ds18b20Entries.map ds18b20Item) +
          boundAll (msg.pwm.dutyCycle.toList.map fun duty => Item.uint duty.toUInt64) + 600 :=
        bound_sensorUpdateItem msg
    _ ≤ 2 * 200 + 4 * 100 + 16 * 9 + 600 :=
        Nat.add_le_add_right (Nat.add_le_add (Nat.add_le_add hsht hds) hduty) 600
    _ ≤ 2048 := by decide

end SensorUpdate

end SensorHmi
