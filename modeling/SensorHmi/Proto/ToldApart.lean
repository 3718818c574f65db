import SensorHmi.Proto.CborShape

/-!
# Telemetry and commands told apart

Neither decoder reads `type` or `v`, and neither of their lists of fields has them. So a payload is
told apart only by its shape: `told_apart_iff`.
-/

namespace SensorHmi

open Octets Cbor Loop

section ToldApart

variable {ι : Type}

/-- The value under the first key of the given name, as the decoders walk the entries. -/
inductive FieldAt (cbor : Tinycbor ι) (name : Bytes) : ι → ι → Prop
  | here {it value : ι} : cbor.atEnd it = false → copyChecked cbor it 15 = .ok (name, value) →
      FieldAt cbor name it value
  | later {it value next found : ι} {key : Bytes} : cbor.atEnd it = false →
      copyChecked cbor it 15 = .ok (key, value) → key ≠ name → cbor.advance value = some next →
      FieldAt cbor name next found → FieldAt cbor name it found

/-- The payload says that its type is `type` and its version 1. -/
def Declares (codec : Codec ι) (payload : Bytes) (isCbor : Bool) (type : Bytes) : Prop :=
  if codec.configUseCbor && isCbor then
    ∃ root map typeValue next version, codec.cbor.parserInit payload = some root ∧
      codec.cbor.isMap root = true ∧ codec.cbor.enterContainer root = some map ∧
      FieldAt codec.cbor (ascii "type") map typeValue ∧
      copyChecked codec.cbor typeValue 15 = .ok (type, next) ∧
      FieldAt codec.cbor (ascii "v") map version ∧ codec.cbor.getUint64 version = some 1
  else
    ∃ root, codec.cjson.parse payload = some root ∧
      cJsonValueString (cJsonGetObjectItem (some root) (ascii "type")) = some type ∧
      cJsonGetNumberValue (cJsonGetObjectItem (some root) (ascii "v")) = Ieee.ofNatural 1

/-- `proto_decode_command` returns true. -/
def AcceptsCommand (codec : Codec ι) (payload : Bytes) (isCbor : Bool) (expectedCrc32 : UInt32) :
    Prop :=
  ∃ fuel msg, protoDecodeCommand codec fuel payload isCbor expectedCrc32 = .ok msg

/-- `proto_decode_sensor_update` returns true. -/
def AcceptsSensorUpdate (codec : Codec ι) (payload : Bytes) (isCbor : Bool)
    (expectedCrc32 : UInt32) : Prop :=
  ∃ fuel msg, protoDecodeSensorUpdate codec fuel payload isCbor expectedCrc32 = .ok msg

/-- No payload is accepted by both decoders, and each accepts only what declares its type. -/
structure ToldApart (codec : Codec ι) (payload : Bytes) (isCbor : Bool) (expectedCrc32 : UInt32) :
    Prop where
  notBoth : ¬ (AcceptsCommand codec payload isCbor expectedCrc32 ∧
    AcceptsSensorUpdate codec payload isCbor expectedCrc32)
  command : AcceptsCommand codec payload isCbor expectedCrc32 →
    Declares codec payload isCbor (ascii "cmd")
  sensorUpdate : AcceptsSensorUpdate codec payload isCbor expectedCrc32 →
    Declares codec payload isCbor (ascii "sensor_update")

variable {codec : Codec ι} {payload : Bytes} {isCbor : Bool} {expectedCrc32 : UInt32}

/-- The JSON decoders refuse only what cJSON refuses. -/
theorem isSome_decodeCommandJson (cjson : CJson) (target : CTarget) :
    (decodeCommandJson cjson target payload).isSome = (cjson.parse payload).isSome := by
  unfold decodeCommandJson
  cases cjson.parse payload <;> rfl

theorem isSome_decodeSensorUpdateJson (cjson : CJson) (target : CTarget) :
    (decodeSensorUpdateJson cjson target payload).isSome = (cjson.parse payload).isSome := by
  unfold decodeSensorUpdateJson
  cases cjson.parse payload <;> rfl

/-- The command decoder accepts a payload with a good CRC that cJSON parses, or whose entries are
those of a command. -/
theorem acceptsCommand_iff :
    AcceptsCommand codec payload isCbor expectedCrc32 ↔
      crcAccepts payload expectedCrc32 = true ∧
        if codec.configUseCbor && isCbor then
          PayloadConforms codec.cbor commandFields payload
        else (codec.cjson.parse payload).isSome = true := by
  unfold AcceptsCommand protoDecodeCommand
  cases crcAccepts payload expectedCrc32
  · simp
  cases codec.configUseCbor && isCbor
  · have hjson := @isSome_decodeCommandJson payload codec.cjson codec.target
    simp [check_eq_ok_iff, ← hjson, Option.isSome_iff_exists]
  · simpa using accepts_command_iff

theorem acceptsSensorUpdate_iff :
    AcceptsSensorUpdate codec payload isCbor expectedCrc32 ↔
      crcAccepts payload expectedCrc32 = true ∧
        if codec.configUseCbor && isCbor then
          PayloadConforms codec.cbor sensorUpdateFields payload
        else (codec.cjson.parse payload).isSome = true := by
  unfold AcceptsSensorUpdate protoDecodeSensorUpdate
  cases crcAccepts payload expectedCrc32
  · simp
  cases codec.configUseCbor && isCbor
  · have hjson := @isSome_decodeSensorUpdateJson payload codec.cjson codec.target
    simp [check_eq_ok_iff, ← hjson, Option.isSome_iff_exists]
  · simpa using accepts_sensorUpdate_iff

end ToldApart

/-- The decoders tell a payload apart if and only if the CRC check refuses it, or cJSON does; or, in
CBOR, if neither decoder finds the shape it asks for, or one does whose type the payload declares
and the other does not. -/
theorem told_apart_iff {ι : Type} (codec : Codec ι) (payload : Bytes) (isCbor : Bool)
    (expectedCrc32 : UInt32) :
    ToldApart codec payload isCbor expectedCrc32 ↔
      crcAccepts payload expectedCrc32 = false ∨
      if codec.configUseCbor && isCbor then
        let commandShaped := PayloadConforms codec.cbor commandFields payload
        let telemetryShaped := PayloadConforms codec.cbor sensorUpdateFields payload
        (¬ commandShaped ∧ ¬ telemetryShaped) ∨
        (commandShaped ∧ ¬ telemetryShaped ∧ Declares codec payload isCbor (ascii "cmd")) ∨
        (¬ commandShaped ∧ telemetryShaped ∧
          Declares codec payload isCbor (ascii "sensor_update"))
      else codec.cjson.parse payload = none := by
  have hparts : ToldApart codec payload isCbor expectedCrc32 ↔
      ¬ (AcceptsCommand codec payload isCbor expectedCrc32 ∧
        AcceptsSensorUpdate codec payload isCbor expectedCrc32) ∧
      (AcceptsCommand codec payload isCbor expectedCrc32 →
        Declares codec payload isCbor (ascii "cmd")) ∧
      (AcceptsSensorUpdate codec payload isCbor expectedCrc32 →
        Declares codec payload isCbor (ascii "sensor_update")) :=
    ⟨fun h => ⟨h.notBoth, h.command, h.sensorUpdate⟩, fun h => ⟨h.1, h.2.1, h.2.2⟩⟩
  rw [hparts, acceptsCommand_iff, acceptsSensorUpdate_iff]
  cases hcrc : crcAccepts payload expectedCrc32
  · simp
  cases hmode : codec.configUseCbor && isCbor
  · -- what cJSON parses both accept
    cases hparse : codec.cjson.parse payload with
    | none => simp
    | some root => simp
  · dsimp only
    generalize PayloadConforms codec.cbor commandFields payload = commandShaped
    generalize PayloadConforms codec.cbor sensorUpdateFields payload = telemetryShaped
    generalize Declares codec payload isCbor (ascii "cmd") = isCommand
    generalize Declares codec payload isCbor (ascii "sensor_update") = isTelemetry
    simp only [if_true, true_and, Bool.true_eq_false, false_or]
    tauto

/-- A command of version 1 without sections, as JSON text. -/
def plainCommand : Bytes :=
  ascii "\x7b\"v\":1,\"type\":\"cmd\",\"ts\":0,\"seq\":0\x7d"

/-- The command is accepted as telemetry too, and so is the empty map in CBOR as both. -/
theorem command_taken_for_telemetry :
    ¬ ToldApart (Codec.plain false) plainCommand false 0 ∧
      ¬ ToldApart (Codec.plain true) [0xA0] true 0 := by
  have hparse : (Json.parse plainCommand).isSome = true := by decide +kernel
  refine ⟨fun h => h.notBoth ⟨?_, ?_⟩, fun h => h.notBoth ⟨?_, ?_⟩⟩
  · exact acceptsCommand_iff.mpr ⟨rfl, hparse⟩
  · exact acceptsSensorUpdate_iff.mpr ⟨rfl, hparse⟩
  · exact ⟨0, {}, rfl⟩
  · exact ⟨0, {}, rfl⟩

end SensorHmi
