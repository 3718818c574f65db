import SensorHmi.Net.FrameGate

/-!
# Frames that arrive in pieces

The transport reports a frame in as many data events as its socket reads take. Each event carries
the octets of its piece, and the length of the whole frame; the handler reads the second from where
the first begin. So a frame reaches the callback once and within its octets exactly if it arrives
in one piece (`frame_in_pieces_iff`).
-/

namespace SensorHmi

open Octets

/-- `esp_websocket_event_data_t` of a data event: `data` are the `data_len` octets at `data_ptr`,
`behind` is what stands in memory behind them. -/
structure WebsocketData where
  opCode : UInt8
  data : Bytes
  behind : Nat → UInt8
  payloadLen : Nat
  payloadOffset : Nat

/-- The `payload_len` octets from `data_ptr` on. -/
def WebsocketData.payload (event : WebsocketData) : Bytes :=
  (event.data ++ (List.range (event.payloadLen - event.data.length)).map event.behind).take
    event.payloadLen

/-- The events of a frame of `payloadLen` octets whose pieces follow each other from `offset` on. -/
def frameEvents (opCode : UInt8) (payloadLen : Nat) :
    (offset : Nat) → List (Bytes × (Nat → UInt8)) → List WebsocketData
  | _, [] => []
  | offset, (data, behind) :: rest =>
      ⟨opCode, data, behind, payloadLen, offset⟩ ::
        frameEvents opCode payloadLen (offset + data.length) rest

/-- How many octets from the start of the buffer `ws_security_decrypt` reads: past the checks the
header and the IV, as the length given for the tag is refused. -/
def decryptReads (ctx : WsSecurityContext) (buffer : Bytes) (counterState : UInt64) : Nat :=
  if !ctx.encryptionEnabled then 0
  else if buffer.length < wsSecurityHeaderLen + wsSecurityTagLen then 0
  else if buffer[0]? ≠ some wsSecurityVersion then 1
  else if buffer[1]? ≠ some 0 then 2
  else if frameCounter buffer ≤ counterState then wsSecurityFixedHeaderLen
  else wsSecurityHeaderLen

/-- How many octets from `data_ptr` on the handler reads: what decryption reads, or the CRC. -/
def octetsRead (link : WsLink) (event : WebsocketData) : Nat :=
  if !link.hasRxCb || event.payload.isEmpty then 0
  else if link.securityCtx.encryptionEnabled && event.opCode = wsTransportOpcodesBinary then
    decryptReads link.securityCtx event.payload link.rxCounter
  else if event.opCode = wsTransportOpcodesBinary && 4 ≤ event.payload.length then 4
  else 0

/-- `websocket_event_handler` at a data event. -/
def websocketDataHandler (mb : Mbedtls) (tickRateHz : UInt32) (link : WsLink)
    (event : WebsocketData) : WsLink × List WsLinkOutput :=
  websocketEventHandler mb tickRateHz link (.data event.opCode event.payload)

/-- The handler stays within the octets of the piece. -/
def WithinPiece (link : WsLink) (event : WebsocketData) : Prop :=
  octetsRead link event ≤ event.data.length

/-- The events hand the CRC and the payload of the frame to the callback once, and the handler
reads nothing but the octets of each piece. -/
def DeliveredOnce (mb : Mbedtls) (tickRateHz : UInt32) (link : WsLink) (frame : Bytes)
    (events : List WebsocketData) : Prop :=
  (∃ payload crc32, OpensTo mb.toGcm link.securityCtx link.rxCounter frame payload crc32 ∧
    (Machine.run (websocketDataHandler mb tickRateHz) link events).2 = [.rxCb payload crc32]) ∧
  Machine.EachStep (websocketDataHandler mb tickRateHz) WithinPiece link events

section Handler

variable {mb : Mbedtls} {tickRateHz : UInt32} {link : WsLink} {event : WebsocketData}
  {frame : Bytes}

/-- As many octets are read as the frame has. -/
theorem length_payload (h : event.data.length ≤ event.payloadLen) :
    event.payload.length = event.payloadLen := by
  rw [WebsocketData.payload, List.length_take, List.length_append, List.length_map,
    List.length_range]
  omega

/-- A piece that is the whole frame is what is read. -/
theorem payload_whole (h : event.payloadLen = event.data.length) : event.payload = event.data := by
  rw [WebsocketData.payload, h, Nat.sub_self, List.range_zero, List.map_nil, List.append_nil,
    List.take_length]

/-- Without encryption every event of a binary frame with octets reaches the callback. -/
theorem clear_outputs (hcallback : link.hasRxCb = true)
    (hclear : link.securityCtx.encryptionEnabled = false)
    (hbinary : event.opCode = wsTransportOpcodesBinary) (hpayload : event.payload ≠ []) :
    websocketDataHandler mb tickRateHz link event =
      (link, [.rxCb (splitCrc true event.payload).1 (splitCrc true event.payload).2]) := by
  rw [websocketDataHandler, websocketEventHandler,
    if_neg (by simpa [hcallback] using hpayload), hclear, hbinary]
  rfl

/-- An event without octets is passed over. -/
theorem empty_outputs (hpayload : event.payload = []) :
    websocketDataHandler mb tickRateHz link event = (link, []) := by
  rw [websocketDataHandler, websocketEventHandler, if_pos (by simp [hpayload])]

/-- A frame opens only with encryption off, to itself. -/
theorem OpensTo.clear {gcm : Gcm} {ctx : WsSecurityContext} {counter : UInt64} {payload : Bytes}
    {crc32 : UInt32} (h : OpensTo gcm ctx counter frame payload crc32) :
    ctx.encryptionEnabled = false ∧ splitCrc true frame = (payload, crc32) := by
  obtain ⟨plaintext, counter', hdecrypt, hsplit⟩ := h
  obtain ⟨hclear, rfl, -⟩ := wsSecurityDecrypt_eq_ok_iff.mp hdecrypt
  exact ⟨hclear, hsplit⟩

/-- Decryption stays within its buffer. -/
theorem decryptReads_le {ctx : WsSecurityContext} {buffer : Bytes} {counterState : UInt64} :
    decryptReads ctx buffer counterState ≤ buffer.length := by
  have hheader : wsSecurityHeaderLen + wsSecurityTagLen = 38 := rfl
  have hfixed : wsSecurityFixedHeaderLen = 10 := rfl
  unfold decryptReads
  split_ifs <;> omega

end Handler

section Pieces

variable {mb : Mbedtls} {tickRateHz : UInt32} {link : WsLink} {frame : Bytes}
  {pieces : List (Bytes × (Nat → UInt8))} {payloadLen offset : Nat}

/-- Without encryption the callback is called for every piece. -/
theorem length_clear_run (hcallback : link.hasRxCb = true)
    (hclear : link.securityCtx.encryptionEnabled = false) (hpos : 0 < payloadLen)
    (hfit : ∀ piece ∈ pieces, piece.1.length ≤ payloadLen) :
    (Machine.run (websocketDataHandler mb tickRateHz) link
      (frameEvents wsTransportOpcodesBinary payloadLen offset pieces)).2.length =
        pieces.length := by
  induction pieces generalizing offset with
  | nil => rfl
  | cons piece rest ih =>
      obtain ⟨data, behind⟩ := piece
      obtain ⟨hdata, hrest⟩ := List.forall_mem_cons.mp hfit
      have hlength := @length_payload ⟨wsTransportOpcodesBinary, data, behind, payloadLen, offset⟩
        hdata
      have hevent := @clear_outputs mb tickRateHz link
        ⟨wsTransportOpcodesBinary, data, behind, payloadLen, offset⟩ hcallback hclear rfl
        (List.ne_nil_of_length_pos (by rw [hlength]; exact hpos))
      rw [frameEvents, Machine.run_cons, hevent, List.length_append, ih hrest, List.length_cons,
        Nat.add_comm]
      rfl

/-- An empty frame never reaches the callback. -/
theorem empty_run :
    (Machine.run (websocketDataHandler mb tickRateHz) link
      (frameEvents wsTransportOpcodesBinary 0 offset pieces)).2 = [] := by
  induction pieces generalizing offset with
  | nil => rfl
  | cons piece rest ih =>
      obtain ⟨data, behind⟩ := piece
      rw [frameEvents, Machine.run_cons, empty_outputs
        (by rw [WebsocketData.payload, List.take_zero]),
        ih]
      rfl

end Pieces

/-- A binary frame in any pieces, with any octets in memory behind each, is handed to the callback
once with its CRC and its payload, without reading beyond a piece, exactly if it comes in one
piece, has octets, and opens. -/
theorem frame_in_pieces_iff (mb : Mbedtls) (tickRateHz : UInt32) {link : WsLink}
    (hcallback : link.hasRxCb = true) (pieces : List (Bytes × (Nat → UInt8))) :
    let frame := (pieces.map Prod.fst).flatten
    DeliveredOnce mb tickRateHz link frame
        (frameEvents wsTransportOpcodesBinary frame.length 0 pieces) ↔
      pieces.length = 1 ∧ frame ≠ [] ∧ ∃ payload crc32,
        OpensTo mb.toGcm link.securityCtx link.rxCounter frame payload crc32 := by
  intro frame
  have hsplit : (pieces.map Prod.fst).flatten = frame := rfl
  clear_value frame
  constructor
  · rintro ⟨⟨payload, crc32, hopens, hrun⟩, hwithin⟩
    have hfull : frame ≠ [] := by
      intro hempty
      rw [hempty, List.length_nil, empty_run] at hrun
      cases hrun
    refine ⟨?_, hfull, payload, crc32, hopens⟩
    have hfit : ∀ piece ∈ pieces, piece.1.length ≤ frame.length := by
      intro piece hmem
      rw [← hsplit]
      exact (List.sublist_flatten_of_mem (List.mem_map_of_mem hmem)).length_le
    -- encryption is off, as the frame opens, so that each piece is a call
    have hlength := @length_clear_run mb tickRateHz link pieces frame.length 0 hcallback
      hopens.clear.1 (List.length_pos_of_ne_nil hfull) hfit
    rw [hrun] at hlength
    exact hlength.symm
  · rintro ⟨hone, hfull, payload, crc32, hopens⟩
    obtain ⟨⟨data, behind⟩, rfl⟩ := List.length_eq_one_iff.mp hone
    obtain rfl : data = frame := (List.append_nil data).symm.trans hsplit
    have hwhole := @payload_whole ⟨wsTransportOpcodesBinary, data, behind, data.length, 0⟩ rfl
    have houtputs := @clear_outputs mb tickRateHz link
      ⟨wsTransportOpcodesBinary, data, behind, data.length, 0⟩ hcallback hopens.clear.1 rfl
      (by rw [hwhole]; exact hfull)
    refine ⟨⟨payload, crc32, hopens, ?_⟩, ?_, trivial⟩
    · rw [frameEvents, Machine.run_cons, houtputs, hwhole, hopens.clear.2]
      rfl
    · rw [WithinPiece, octetsRead, hwhole]
      split_ifs with hnone hsealed hcrc
      · exact Nat.zero_le _
      · exact decryptReads_le
      · simp only [Bool.and_eq_true, decide_eq_true_eq] at hcrc
        exact hcrc.2
      · exact Nat.zero_le _

/-- A link without encryption whose callback is installed. -/
def plainLink : WsLink := { hasRxCb := true }

/-- Two octets behind their CRC field. -/
def clearFrame : Bytes := [0xDD, 0xCC, 0xBB, 0xAA, 104, 105]

/-- The frame in one piece. -/
def wholePieces : List (Bytes × (Nat → UInt8)) := [(clearFrame, fun _ => 0)]

theorem frame_in_pieces_whole :
    let frame := (wholePieces.map Prod.fst).flatten
    DeliveredOnce gateMbedtls 100 plainLink frame
        (frameEvents wsTransportOpcodesBinary frame.length 0 wholePieces) ↔
      wholePieces.length = 1 ∧ frame ≠ [] ∧ ∃ payload crc32,
        OpensTo gateMbedtls.toGcm plainLink.securityCtx plainLink.rxCounter frame payload crc32 :=
  frame_in_pieces_iff gateMbedtls 100 (by decide) wholePieces

/-- The frame cut within its payload. -/
def cutPieces : List (Bytes × (Nat → UInt8)) :=
  [(clearFrame.take 5, fun _ => 0), (clearFrame.drop 5, fun _ => 0)]

/-- A frame in two pieces calls the callback twice. -/
theorem frame_in_two_pieces :
    ¬ ∀ (mb : Mbedtls) (tickRateHz : UInt32) (link : WsLink), link.hasRxCb = true →
      ∀ pieces : List (Bytes × (Nat → UInt8)), (pieces.map Prod.fst).flatten ≠ [] →
        (∃ payload crc32, OpensTo mb.toGcm link.securityCtx link.rxCounter
          (pieces.map Prod.fst).flatten payload crc32) →
        DeliveredOnce mb tickRateHz link (pieces.map Prod.fst).flatten
          (frameEvents wsTransportOpcodesBinary (pieces.map Prod.fst).flatten.length 0 pieces) := by
  intro h
  obtain ⟨⟨payload, crc32, -, hrun⟩, -⟩ := h gateMbedtls 100 plainLink rfl
    cutPieces (by decide)
    ⟨[104, 105], 0xAABBCCDD, clearFrame, 0, by decide, by decide⟩
  have htwice : (Machine.run (websocketDataHandler gateMbedtls 100) plainLink
      (frameEvents wsTransportOpcodesBinary (cutPieces.map Prod.fst).flatten.length 0
        cutPieces)).2 =
      [.rxCb [104, 0] 0xAABBCCDD, .rxCb [0, 0] 105] := by
    decide
  exact absurd (htwice.symm.trans hrun) (by simp)

end SensorHmi
