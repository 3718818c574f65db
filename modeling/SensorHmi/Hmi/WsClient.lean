import SensorHmi.Platform
import SensorHmi.Proto.Codec

/-!
# The link of the HMI

`hmi_node/main/net/ws_client.c`: a command is stamped, numbered and framed behind its CRC, and
telemetry that can be decoded goes to the data model.
-/

namespace SensorHmi

open Octets Loop

variable {ι : Type} (codec : Codec ι)

/-- What decides about a command: the state of the client and `s_next_command_seq`. -/
structure HmiLink where
  connected : Bool
  nextCommandSeq : UInt32 := 0

/-- `hmi_ws_client_send_command`: the frame for `ws_client_send`. `nowMs` is the time. -/
def hmiWsClientSendCommand (link : HmiLink) (nowMs : UInt32) (cmd : ProtoCommand) :
    HmiLink × Except EspErr Bytes :=
  if !link.connected then (link, .error .invalidState)
  else
    let link := { link with nextCommandSeq := link.nextCommandSeq + 1 }
    let cmd := { cmd with timestampMs := nowMs, sequenceId := link.nextCommandSeq }
    match protoEncodeCommandInto codec cmd codec.configUseCbor protoMaxCommandSize with
    | none => (link, .error .invalidResponse)
    | some (payload, crc) =>
        if protoMaxCommandSize + 4 < payload.length + 4 then (link, .error .invalidSize)
        else (link, .ok (leBytes 4 crc.toNat ++ payload))

/-- The calls of `handle_sensor_update` into the data model. -/
inductive HmiModelCall
  | setUpdate (update : ProtoSensorUpdate)
  | setCrcStatus (crcOk : Bool)
  deriving DecidableEq

/-- `handle_sensor_update` -/
def handleSensorUpdate (fuel : Nat) (data : Bytes) (crc : UInt32) : List HmiModelCall :=
  match protoDecodeSensorUpdate codec fuel data codec.configUseCbor crc with
  | .ok update => [.setUpdate update, .setCrcStatus true]
  | .error _ => [.setCrcStatus false]

/-- In a JSON build a connected HMI sends every command as its numbered JSON text behind its
CRC. -/
theorem hmiWsClientSendCommand_json {codec : Codec ι} (hjson : codec.configUseCbor = false)
    {link : HmiLink} (hconnected : link.connected = true) (nowMs : UInt32) (cmd : ProtoCommand) :
    let text := Json.render (commandJson
      { cmd with timestampMs := nowMs, sequenceId := link.nextCommandSeq + 1 })
    hmiWsClientSendCommand codec link nowMs cmd =
      ({ link with nextCommandSeq := link.nextCommandSeq + 1 },
        .ok (leBytes 4 (protoCrc32 text).toNat ++ text)) := by
  intro text
  have hmode : (codec.configUseCbor && codec.configUseCbor) = false := by rw [hjson]; rfl
  let numbered : ProtoCommand :=
    { cmd with timestampMs := nowMs, sequenceId := link.nextCommandSeq + 1 }
  have hencode : protoEncodeCommandInto codec numbered codec.configUseCbor protoMaxCommandSize =
      some (text, protoCrc32 text) := protoEncodeCommandInto_json numbered hmode
  -- the frame buffer has room for the CRC before any payload the encoder can fill its own with
  have hfits : ¬ protoMaxCommandSize + 4 < text.length + 4 := by
    have hlength := length_commandTexts numbered
    rw [commandTexts_flatten] at hlength
    show ¬ protoMaxCommandSize + 4 < (Json.render (commandJson numbered)).length + 4
    omega
  unfold hmiWsClientSendCommand
  simp only [hconnected, Bool.not_true, Bool.false_eq_true, if_false]
  rw [hencode]
  exact if_neg hfits

end SensorHmi
