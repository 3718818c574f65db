import SensorHmi.Proto.Codec

/-!
# JSON round trips

What the JSON encoders write, the JSON decoders give back: commands exactly, telemetry with its
readings rounded to the two decimals they are printed with.
-/

namespace SensorHmi

open Octets Cbor Loop

variable {ι : Type}

/-- Every expressible command survives the JSON codec, with its own CRC, unchanged. -/
theorem command_json_round_trip (codec : Codec ι) (fuel : Nat) {isCbor : Bool}
    (hmode : (codec.configUseCbor && isCbor) = false) {msg : ProtoCommand} (h : msg.Expressible) :
    ∃ payload crc32,
      protoEncodeCommandInto codec msg isCbor protoMaxCommandSize = some (payload, crc32) ∧
        protoDecodeCommand codec fuel payload isCbor crc32 = .ok msg :=
  ⟨_, _, protoEncodeCommandInto_json msg hmode,
    protoDecodeCommand_render h hmode (crcAccepts_self _)⟩

/-- A command with all three sections. -/
def threeSections : ProtoCommand :=
  { timestampMs := 0xFFFFFFFF, sequenceId := 7
    hasPwmUpdate := true, pwmUpdate := { channel := 255, dutyCycle := 4095 }
    hasPwmFrequency := true, pwmFrequency := 500
    hasGpioWrite := true
    gpioWrite := { deviceIndex := 1, port := 1, mask := 0x80, value := 0x80 } }

theorem threeSections_expressible : threeSections.Expressible where
  deviceIndex := Or.inr rfl
  port := Or.inr rfl
  pwmUpdate := fun h => absurd h (by decide)
  pwmFrequency := fun h => absurd h (by decide)
  gpioWrite := fun h => absurd h (by decide)

theorem command_json_round_trip_full :
    ∃ payload crc32,
      protoEncodeCommandInto (Codec.plain false) threeSections false protoMaxCommandSize =
          some (payload, crc32) ∧
        protoDecodeCommand (Codec.plain false) 0 payload false crc32 = .ok threeSections :=
  command_json_round_trip (Codec.plain false) 0 rfl threeSections_expressible

/-- The identifiers in use end inside their arrays. -/
def ProtoSensorUpdate.Terminated (msg : ProtoSensorUpdate) : Prop :=
  ∀ entry ∈ msg.sht20Entries, (0 : UInt8) ∈ entry.id.toList

/-- An identifier that ends inside its array is copied in full. -/
theorem cString_idField {id : Vector UInt8 16} (h : (0 : UInt8) ∈ id.toList) :
    cString (idField (cString id.toList)).toList = cString id.toList := by
  have hnul : ∀ octet ∈ cString id.toList, octet ≠ 0 := by
    intro octet hmem
    simpa using List.mem_takeWhile_imp hmem
  have hshort : (cString id.toList).length ≤ 15 := by
    have hlength := length_cString_le id.toList
    rw [Vector.length_toList] at hlength
    by_contra hlong
    -- sixteen characters would leave no place for the NUL
    have hsame : (cString id.toList).length = id.toList.length := by
      rw [Vector.length_toList]
      omega
    have hall : cString id.toList = id.toList := (List.takeWhile_sublist _).eq_of_length hsame
    rw [hall] at hnul
    exact hnul 0 h rfl
  have htext : (idField (cString id.toList)).toList =
      cString id.toList ++ 0 :: List.replicate (15 - (cString id.toList).length) 0 := by
    apply List.ext_getElem
    · simp
      omega
    · intro i hi hi'
      have hlt : i < 16 := by simpa using hi
      simp only [idField, Vector.getElem_toList, Vector.getElem_ofFn,
        List.take_of_length_le hshort]
      by_cases hinside : i < (cString id.toList).length
      · rw [List.getD_eq_getElem _ _ hinside, List.getElem_append_left hinside]
      · rw [List.getD_eq_default _ _ (by omega), List.getElem_append_right (by omega)]
        simp only [← List.replicate_succ, List.getElem_replicate]
  rw [htext, cString_append_nul hnul]

/-- Telemetry survives the JSON codec, with its own CRC, up to the rounding of its readings: what
is decoded is `msg.rounded`, whose identifiers are the same strings. -/
theorem sensorUpdate_json_round_trip (codec : Codec ι) (fuel : Nat) {isCbor : Bool}
    (hmode : (codec.configUseCbor && isCbor) = false) {msg : ProtoSensorUpdate}
    (hsht : msg.sht20Count ≤ 2) (hds : msg.ds18b20Count ≤ 4) (hid : msg.Terminated)
    (h : msg.Printable) :
    ∃ payload crc32,
      protoEncodeSensorUpdateInto codec msg isCbor 2048 = some (payload, crc32) ∧
        protoDecodeSensorUpdate codec fuel payload isCbor crc32 = .ok msg.rounded ∧
          ∀ entry ∈ msg.sht20Entries, cString entry.rounded.id.toList =
            cString entry.id.toList := by
  have hencode : protoEncodeSensorUpdateInto codec msg isCbor 2048 =
      some (Json.render (sensorUpdateJson msg),
        protoCrc32 (Json.render (sensorUpdateJson msg))) := by
    rw [protoEncodeSensorUpdateInto, hmode]
    exact jsonInto_eq_some_iff.mpr
      ⟨length_sensorUpdateTexts msg, (sensorUpdateTexts_flatten h).symm, rfl⟩
  have hparse : codec.cjson.parse (Json.render (sensorUpdateJson msg)) =
      some (sensorUpdateJson msg) :=
    codec.cjson.parse_json (Json.parse_render _)
  refine ⟨_, _, hencode, ?_, fun entry hmem => cString_idField (hid entry hmem)⟩
  rw [protoDecodeSensorUpdate_json hmode (crcAccepts_self _),
    decodeSensorUpdateJson_of_parse codec.cjson codec.target h hsht hds hparse]
  rfl

/-- Telemetry of a node with one ambient sensor, at -0.125 °C and 50 %. -/
def ambientUpdate : ProtoSensorUpdate :=
  { sequenceId := 1, sht20Count := 1
    sht20 := #v[{ id := #v[83, 72, 84, 50, 48, 95, 48, 0, 0, 0, 0, 0, 0, 0, 0, 0]
                  temperatureC := .ofBits 0xBE000000, humidityPercent := .ofBits 0x42480000
                  valid := true }, {}] }

theorem sensorUpdate_json_round_trip_ambient :
    ∃ payload crc32,
      protoEncodeSensorUpdateInto (Codec.plain false) ambientUpdate false 2048 =
          some (payload, crc32) ∧
        protoDecodeSensorUpdate (Codec.plain false) 0 payload false crc32 =
          .ok ambientUpdate.rounded ∧
          ∀ entry ∈ ambientUpdate.sht20Entries,
            cString entry.rounded.id.toList = cString entry.id.toList := by
  refine sensorUpdate_json_round_trip (Codec.plain false) 0 rfl (by decide) (by decide) ?_ ?_
  · intro entry hmem
    obtain rfl := List.mem_singleton.mp hmem
    decide
  · refine { plain := ?_, sht20 := ?_, ds18b20 := ?_ }
    · intro entry hmem
      obtain rfl := List.mem_singleton.mp hmem
      show ∀ octet ∈ ([83, 72, 84, 50, 48, 95, 48] : Bytes), octet ≠ 34 ∧ octet ≠ 92 ∧ 32 ≤ octet
      simp
    · intro entry hmem
      obtain rfl := List.mem_singleton.mp hmem
      exact ⟨by decide, by decide⟩
    · intro entry hmem
      cases hmem

end SensorHmi
