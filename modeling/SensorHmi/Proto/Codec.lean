import SensorHmi.Proto.CborDecode
import SensorHmi.Proto.CborEncode

/-!
# The codec

The four functions of `common/proto/messages.h`. `Codec` is one build of them: the libraries, the
target and whether CBOR is compiled in. Decoding a JSON payload needs no fuel.
-/

namespace SensorHmi

open Octets Cbor Loop

/-- A build of `messages.c`. -/
structure Codec (ι : Type) where
  cbor : Tinycbor ι
  cjson : CJson
  target : CTarget
  /-- `CONFIG_USE_CBOR` -/
  configUseCbor : Bool

/-- The build whose libraries do what they must and nothing more. -/
def Codec.plain (configUseCbor : Bool) : Codec Cursor where
  cbor := Tinycbor.cursor
  cjson := CJson.strict
  target := { outOfRange := fun _ _ => 0, indeterminate := .ofBits 0 }
  configUseCbor := configUseCbor

variable {ι : Type} (codec : Codec ι)

/-- `proto_encode_sensor_update_into` -/
def protoEncodeSensorUpdateInto (msg : ProtoSensorUpdate) (useCbor : Bool) (bufferLen : Nat) :
    Option (Bytes × UInt32) :=
  if codec.configUseCbor && useCbor then encodeSensorUpdateCborInto msg bufferLen
  else encodeSensorUpdateJsonInto msg bufferLen

/-- `proto_encode_command_into` -/
def protoEncodeCommandInto (msg : ProtoCommand) (useCbor : Bool) (bufferLen : Nat) :
    Option (Bytes × UInt32) :=
  if codec.configUseCbor && useCbor then encodeCommandCborInto msg bufferLen
  else encodeCommandJsonInto msg bufferLen

/-- The CRC check both decoders start with; a CRC of zero checks nothing. -/
def crcAccepts (payload : Bytes) (expectedCrc32 : UInt32) : Bool :=
  expectedCrc32 = 0 || protoCrc32 payload = expectedCrc32

/-- `proto_decode_command`: the message, unless false is returned or the fuel runs out. -/
def protoDecodeCommand (fuel : Nat) (payload : Bytes) (isCbor : Bool) (expectedCrc32 : UInt32) :
    Run ι ProtoCommand :=
  if !crcAccepts payload expectedCrc32 then .error .rejected
  else if codec.configUseCbor && isCbor then decodeCommandCbor codec.cbor fuel payload
  else check (decodeCommandJson codec.cjson codec.target payload)

/-- `proto_decode_sensor_update` -/
def protoDecodeSensorUpdate (fuel : Nat) (payload : Bytes) (isCbor : Bool)
    (expectedCrc32 : UInt32) : Run ι ProtoSensorUpdate :=
  if !crcAccepts payload expectedCrc32 then .error .rejected
  else if codec.configUseCbor && isCbor then
    decodeSensorUpdateCbor codec.cbor codec.target fuel payload
  else check (decodeSensorUpdateJson codec.cjson codec.target payload)

/-- Telemetry of any content has an encoding that fits the staging buffer. -/
theorem protoEncodeSensorUpdateInto_isSome (msg : ProtoSensorUpdate) (useCbor : Bool) :
    (protoEncodeSensorUpdateInto codec msg useCbor 2048).isSome = true := by
  unfold protoEncodeSensorUpdateInto
  split_ifs
  · have hlength := length_sensorUpdateItem msg
    rw [encodeSensorUpdateCborInto, cborInto, if_neg (by omega)]
    rfl
  · exact Option.isSome_iff_exists.mpr
      ⟨_, jsonInto_eq_some_iff.mpr ⟨length_sensorUpdateTexts msg, rfl, rfl⟩⟩

section Json

variable {codec} {fuel : Nat} {isCbor : Bool} {payload : Bytes} {expectedCrc32 : UInt32}

/-- The CRC an encoder reports is accepted. -/
theorem crcAccepts_self (payload : Bytes) : crcAccepts payload (protoCrc32 payload) = true := by
  simp [crcAccepts]

theorem protoDecodeCommand_json (hmode : (codec.configUseCbor && isCbor) = false)
    (hcrc : crcAccepts payload expectedCrc32 = true) :
    protoDecodeCommand codec fuel payload isCbor expectedCrc32 =
      check (decodeCommandJson codec.cjson codec.target payload) := by
  rw [protoDecodeCommand, hcrc, hmode]
  rfl

theorem protoDecodeSensorUpdate_json (hmode : (codec.configUseCbor && isCbor) = false)
    (hcrc : crcAccepts payload expectedCrc32 = true) :
    protoDecodeSensorUpdate codec fuel payload isCbor expectedCrc32 =
      check (decodeSensorUpdateJson codec.cjson codec.target payload) := by
  rw [protoDecodeSensorUpdate, hcrc, hmode]
  rfl

/-- Nothing is accepted with a CRC that is neither zero nor right. -/
theorem crcAccepts_of_decodeCommand {msg : ProtoCommand}
    (h : protoDecodeCommand codec fuel payload isCbor expectedCrc32 = .ok msg) :
    crcAccepts payload expectedCrc32 = true := by
  unfold protoDecodeCommand at h
  split_ifs at h with hcrc
  all_goals simpa using hcrc

/-- An expressible command is encoded as the text of its JSON value. -/
theorem protoEncodeCommandInto_json (msg : ProtoCommand)
    (hmode : (codec.configUseCbor && isCbor) = false) :
    protoEncodeCommandInto codec msg isCbor protoMaxCommandSize =
      some (Json.render (commandJson msg), protoCrc32 (Json.render (commandJson msg))) := by
  rw [protoEncodeCommandInto, hmode]
  exact jsonInto_eq_some_iff.mpr ⟨length_commandTexts msg, (commandTexts_flatten msg).symm, rfl⟩

/-- The text of an expressible command is decoded to the command. -/
theorem protoDecodeCommand_render {msg : ProtoCommand} (h : msg.Expressible)
    (hmode : (codec.configUseCbor && isCbor) = false)
    (hcrc : crcAccepts (Json.render (commandJson msg)) expectedCrc32 = true) :
    protoDecodeCommand codec fuel (Json.render (commandJson msg)) isCbor expectedCrc32 =
      .ok msg := by
  have hparse : codec.cjson.parse (Json.render (commandJson msg)) = some (commandJson msg) :=
    codec.cjson.parse_json (Json.parse_render _)
  rw [protoDecodeCommand_json hmode hcrc,
    decodeCommandJson_of_parse codec.cjson codec.target h hparse]
  rfl

end Json

end SensorHmi
