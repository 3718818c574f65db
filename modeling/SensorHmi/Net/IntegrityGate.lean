import SensorHmi.Hmi.WsClient
import SensorHmi.Net.WsClient
import SensorHmi.Net.WsServerStep
import SensorHmi.Sensor.IoTask

/-!
# The CRC at the receive callback

Without frame encryption, which frames take effect on the two boards. The transport splits the CRC
field off and hands on zero where there is none; the decoders take a CRC of zero for none to check.
So a frame takes effect with a wrong or a missing CRC exactly when its field is missing or zero and
its octets are a message (`integrity_gate_iff`).
-/

namespace SensorHmi

open Octets Loop

/-- The frame is a CRC in little-endian order and the octets it belongs to. -/
def CarriesCrc (frame : Bytes) : Prop :=
  4 ≤ frame.length ∧ ofLe (frame.take 4) = (protoCrc32 (frame.drop 4)).toNat

/-- The frame is binary and starts with a CRC field that is not zero. -/
def HasCrcField (binary : Bool) (frame : Bytes) : Prop :=
  binary = true ∧ 4 ≤ frame.length ∧ ofLe (frame.take 4) ≠ 0

section Gate

variable {binary : Bool} {frame : Bytes}

/-- With a CRC field in it, a frame is accepted only if its CRC is right. -/
theorem carriesCrc_of_field (hfield : HasCrcField binary frame)
    (h : crcAccepts (splitCrc binary frame).1 (splitCrc binary frame).2 = true) :
    CarriesCrc frame := by
  obtain ⟨rfl, hlength, hnonzero⟩ := hfield
  have hlt : ofLe (frame.take 4) < 2 ^ 32 := by
    have hbound := ofLe_lt (frame.take 4)
    rw [List.length_take, Nat.min_eq_left hlength] at hbound
    exact hbound
  have hsplit : splitCrc true frame = (frame.drop 4, UInt32.ofNat (ofLe (frame.take 4))) := by
    rw [splitCrc, if_pos (by simpa using hlength)]
  have hvalue : (UInt32.ofNat (ofLe (frame.take 4))).toNat = ofLe (frame.take 4) :=
    UInt32.toNat_ofNat_of_lt' hlt
  simp only [hsplit, crcAccepts, Bool.or_eq_true, decide_eq_true_eq] at h
  rcases h with hzero | hcrc
  · rw [hzero] at hvalue
    exact absurd hvalue.symm hnonzero
  · exact ⟨hlength, by rw [hcrc, hvalue]⟩

/-- Without one the decoder checks nothing. -/
theorem accepted_of_no_field (h : ¬ HasCrcField binary frame) :
    crcAccepts (splitCrc binary frame).1 (splitCrc binary frame).2 = true := by
  have hzero : (splitCrc binary frame).2 = 0 := by
    rw [splitCrc]
    split
    case isTrue hlong =>
      obtain ⟨hbinary, hlength⟩ := Bool.and_eq_true_iff.mp hlong
      have hfield : ofLe (frame.take 4) = 0 := by
        by_contra hnonzero
        exact h ⟨hbinary, of_decide_eq_true hlength, hnonzero⟩
      rw [hfield]
      rfl
    case isFalse => rfl
  rw [crcAccepts, hzero]
  rfl

/-- Where an effect needs an accepted CRC and a message, it needs a right CRC exactly for the frames
with a CRC field and for those that are no message. -/
theorem effect_needs_crc_iff {Effect : Bytes → UInt32 → Prop} {Message : Bytes → Prop}
    (heffect : ∀ data crc, Effect data crc ↔ crcAccepts data crc = true ∧ Message data) :
    (Effect (splitCrc binary frame).1 (splitCrc binary frame).2 → CarriesCrc frame) ↔
      HasCrcField binary frame ∨ CarriesCrc frame ∨ ¬ Message (splitCrc binary frame).1 := by
  rw [heffect]
  constructor
  · intro hneeds
    by_cases hfield : HasCrcField binary frame
    · exact .inl hfield
    by_cases hmessage : Message (splitCrc binary frame).1
    · exact .inr (.inl (hneeds ⟨accepted_of_no_field hfield, hmessage⟩))
    · exact .inr (.inr hmessage)
  · rintro (hfield | hcarries | hnone) ⟨haccepts, hmessage⟩
    · exact carriesCrc_of_field hfield haccepts
    · exact hcarries
    · exact absurd hmessage hnone

end Gate

variable {ι : Type} (codec : Codec ι) (fuel : Nat)

/-- The octets are a command with a section, whatever their CRC. -/
def IsCommand (data : Bytes) : Prop :=
  ∃ cmd, (if codec.configUseCbor then decodeCommandCbor codec.cbor fuel data
    else check (decodeCommandJson codec.cjson codec.target data)) = .ok cmd ∧
      commandSections cmd ≠ []

/-- The octets are telemetry, whatever their CRC. -/
def IsTelemetry (data : Bytes) : Prop :=
  ∃ update, (if codec.configUseCbor then decodeSensorUpdateCbor codec.cbor codec.target fuel data
    else check (decodeSensorUpdateJson codec.cjson codec.target data)) = .ok update

variable {codec fuel} {data : Bytes} {crc : UInt32}

/-- `ws_rx` queues something for an accepted command. -/
theorem sensorWsRx_ne_nil_iff :
    sensorWsRx codec fuel data crc ≠ [] ↔ crcAccepts data crc = true ∧
      IsCommand codec fuel data := by
  rw [sensorWsRx, protoDecodeCommand]
  cases hcrc : crcAccepts data crc with
  | false => simp
  | true =>
      simp only [Bool.not_true, Bool.false_eq_true, if_false, Bool.and_self, true_and]
      unfold IsCommand
      split
      case h_1 cmd hdecode => simp [hdecode]
      case h_2 err hdecode => simp [hdecode]

/-- `handle_sensor_update` passes accepted telemetry on. -/
theorem setUpdate_mem_iff :
    (∃ update, .setUpdate update ∈ handleSensorUpdate codec fuel data crc) ↔
      crcAccepts data crc = true ∧ IsTelemetry codec fuel data := by
  rw [handleSensorUpdate, protoDecodeSensorUpdate]
  cases hcrc : crcAccepts data crc with
  | false => simp
  | true =>
      simp only [Bool.not_true, Bool.false_eq_true, if_false, Bool.and_self, true_and]
      unfold IsTelemetry
      split
      case h_1 update hdecode => simp [hdecode]
      case h_2 err hdecode => simp [hdecode]

/-- What `ws_handler` hands on of a frame when encryption is off: the frame without its CRC field,
and the field. -/
theorem splitCrc_of_wsHandlerFrame {mb : Mbedtls} {srv : WsServer} {fd : Int} {recv : WsRecv}
    {now : TickType} (hoff : srv.securityCtx.encryptionEnabled = false)
    (h : .rxCb data crc ∈ (wsHandlerFrame mb srv fd recv now).2.2) :
    splitCrc (recv.type = .binary) recv.payload = (data, crc) := by
  have hcase := wsHandlerFrame_case mb srv fd recv now
  generalize (wsHandlerFrame mb srv fd recv now).2 = result at hcase h
  cases hcase with
  | refused => cases h
  | handled _ _ _ houtputs => rcases houtputs with rfl | rfl <;> simp at h
  | @rejected i client client' err counter =>
      rcases List.mem_cons.mp h with heq | hdrop
      · cases heq
      · have hsilent := (dropClientLocked_housekeeping (srv.setClient i client') fd).silent
        exact absurd (hsilent _ hdrop) (by simp [WsServerOutput.isRxCb])
  | opened _ _ _ _ hon =>
      rw [hoff] at hon
      cases hon
  | clear =>
      obtain ⟨rfl, rfl⟩ := WsServerOutput.rxCb.inj (List.mem_singleton.mp h)
      rfl

/-- What `websocket_event_handler` hands on of a data event when encryption is off. -/
theorem splitCrc_of_websocketEventHandler {mb : Mbedtls} {tickRateHz : UInt32} {link : WsLink}
    {opCode : UInt8} {payload : Bytes} (hoff : link.securityCtx.encryptionEnabled = false)
    (h : .rxCb data crc ∈
      (websocketEventHandler mb tickRateHz link (.data opCode payload)).2) :
    splitCrc (opCode = wsTransportOpcodesBinary) payload = (data, crc) := by
  simp only [websocketEventHandler, hoff, Bool.false_and, Bool.false_eq_true, if_false] at h
  split at h
  · cases h
  · obtain ⟨rfl, rfl⟩ := WsLinkOutput.rxCb.inj (List.mem_singleton.mp h)
    rfl

/-- With encryption off, a frame that reaches `ws_rx` or `handle_sensor_update` takes effect only
with a right CRC in it, if and only if it is binary with a CRC field other than zero, or its CRC is
right, or its octets are no message. -/
theorem integrity_gate_iff {ι : Type} (codec : Codec ι) (fuel : Nat) :
    (∀ (mb : Mbedtls) (srv : WsServer) (fd : Int) (recv : WsRecv) (now : TickType),
      srv.securityCtx.encryptionEnabled = false →
      ∀ data crc, .rxCb data crc ∈ (wsHandlerFrame mb srv fd recv now).2.2 →
        ((sensorWsRx codec fuel data crc ≠ [] → CarriesCrc recv.payload) ↔
          HasCrcField (recv.type = .binary) recv.payload ∨ CarriesCrc recv.payload ∨
            ¬ IsCommand codec fuel data)) ∧
    (∀ (mb : Mbedtls) (tickRateHz : UInt32) (link : WsLink) (opCode : UInt8) (payload : Bytes),
      link.securityCtx.encryptionEnabled = false →
      ∀ data crc, .rxCb data crc ∈
          (websocketEventHandler mb tickRateHz link (.data opCode payload)).2 →
        (((∃ update, .setUpdate update ∈ handleSensorUpdate codec fuel data crc) →
            CarriesCrc payload) ↔
          HasCrcField (opCode = wsTransportOpcodesBinary) payload ∨ CarriesCrc payload ∨
            ¬ IsTelemetry codec fuel data)) := by
  constructor
  · intro mb srv fd recv now hoff data crc hmem
    have hsplit := splitCrc_of_wsHandlerFrame hoff hmem
    have hgate := @effect_needs_crc_iff (recv.type = .binary) recv.payload
      (fun data crc => sensorWsRx codec fuel data crc ≠ []) (IsCommand codec fuel)
      fun _ _ => sensorWsRx_ne_nil_iff
    rwa [hsplit] at hgate
  · intro mb tickRateHz link opCode payload hoff data crc hmem
    have hsplit := splitCrc_of_websocketEventHandler hoff hmem
    have hgate := @effect_needs_crc_iff (opCode = wsTransportOpcodesBinary) payload
      (fun data crc => ∃ update, .setUpdate update ∈ handleSensorUpdate codec fuel data crc)
      (IsTelemetry codec fuel) fun _ _ => setUpdate_mem_iff
    rwa [hsplit] at hgate

/-- The mbedTLS of a deployment that never seals a frame. -/
def clearMbedtls : Mbedtls :=
  Mbedtls.zero .empty

/-- A server in the clear with one client. -/
def clearServer : WsServer :=
  (Machine.run (wsServerStep clearMbedtls 100)
    (wsServerStart clearMbedtls 100 {} { serverCert := [1], serverKey := [1] } true {}).2
    [.get ⟨[]⟩ 7 0 0 0]).1

/-- A client in the clear. -/
def clearLink : WsLink :=
  (wsClientStart clearMbedtls { nonce := Vector.replicate 16 0 } { uri := [1] } true {}).2

/-- A command that sets one PWM channel. -/
def gateCommand : ProtoCommand :=
  { hasPwmUpdate := true, pwmUpdate := { channel := 1, dutyCycle := 5 } }

/-- The text of this command. -/
def gateText : Bytes := Json.render (commandJson gateCommand)

/-- Both boards check a frame with a CRC field of one. -/
theorem integrity_gate_checked_field :
    (sensorWsRx (Codec.plain false) 0 gateText 1 ≠ [] → CarriesCrc (leBytes 4 1 ++ gateText)) ∧
      ((∃ update, .setUpdate update ∈ handleSensorUpdate (Codec.plain false) 0 gateText 1) →
        CarriesCrc (leBytes 4 1 ++ gateText)) := by
  have hfield : HasCrcField true (leBytes 4 1 ++ gateText) := by
    refine ⟨rfl, ?_, by decide +kernel⟩
    rw [List.length_append, length_leBytes]
    omega
  constructor
  · exact ((integrity_gate_iff (Codec.plain false) 0).1 clearMbedtls clearServer 7
      { type := .binary, payload := leBytes 4 1 ++ gateText } 1 (by decide +kernel) gateText 1
      (by decide +kernel)).mpr (.inl hfield)
  · exact ((integrity_gate_iff (Codec.plain false) 0).2 clearMbedtls 100 clearLink 2
      (leBytes 4 1 ++ gateText) (by decide +kernel) gateText 1 (by decide +kernel)).mpr
        (.inl hfield)

/-- A binary frame with a CRC field of zero is handed to `ws_rx` and its command is queued, although
zero is not its CRC. -/
theorem zero_crc_field_takes_effect :
    clearServer.securityCtx.encryptionEnabled = false ∧
      .rxCb gateText 0 ∈ (wsHandlerFrame clearMbedtls clearServer 7
        { type := .binary, payload := leBytes 4 0 ++ gateText } 1).2.2 ∧
      sensorWsRx (Codec.plain false) 0 gateText 0 ≠ [] ∧
        ¬ CarriesCrc (leBytes 4 0 ++ gateText) := by
  refine ⟨by decide +kernel, by decide +kernel, ?_, ?_⟩
  · have hexpressible : gateCommand.Expressible :=
      ⟨.inl rfl, .inl rfl, fun h => Bool.noConfusion h, fun _ => rfl, fun _ => rfl⟩
    have hrender := @protoDecodeCommand_render _ (Codec.plain false) 0 false 0 gateCommand
      hexpressible rfl rfl
    have hdecode : protoDecodeCommand (Codec.plain false) 0 gateText
        (Codec.plain false).configUseCbor 0 = .ok gateCommand := hrender
    rw [sensorWsRx, hdecode]
    decide
  · rintro ⟨-, hcrc⟩
    exact absurd hcrc (by decide +kernel)

end SensorHmi
