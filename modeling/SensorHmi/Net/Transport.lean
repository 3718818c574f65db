import SensorHmi.Net.ServerSession
import SensorHmi.Net.WsClient

/-!
# A client, its server and the wire between them

The client and the server run as they are, over connections that deliver whole binary frames in
order and lose only what is on the way when they break. Other connections of the server come and
go at will. On the wire each frame stands beside the data it was made from, which no step reads.
-/

namespace SensorHmi

open Octets

/-- A client and its server. `fd` is the descriptor of the connection the server accepted, and the
queues hold what is on the way: the data and the frame. -/
structure Transport where
  srv : WsServer
  link : WsLink
  fd : Option Int := none
  toServer : List (Bytes × Bytes) := []
  toClient : List (Bytes × Bytes) := []

/-- The steps of the transport. -/
inductive TransportEvent
  | accept (req : HttpdReq) (fd : Int) (authNow now : TickType) (unixTime : UInt64)
  | connected
  | disconnect
  | clientSend (data : Bytes) (iv : Vector UInt8 12) (allocated : Bool) (sent : Nat)
  | serverSend (data : Bytes) (iv : Vector UInt8 12) (allocated : Bool)
  | atServer (now : TickType)
  | atClient
  | elsewhere (event : WsServerEvent)

/-- What shows of a step: data put on the wire, and receive callbacks. `otherRx` is one of the
server for a frame of another connection. -/
inductive TransportOutput
  | clientSent (data : Bytes)
  | serverSent (data : Bytes)
  | serverRx (payload : Bytes) (crc32 : UInt32)
  | clientRx (payload : Bytes) (crc32 : UInt32)
  | otherRx (payload : Bytes) (crc32 : UInt32)
  deriving DecidableEq

/-- The frame of a binary message sent on the descriptor. -/
def frameTo (fd : Option Int) : WsServerOutput → Option Bytes
  | .sent fd' .binary frame => if fd = some fd' then some frame else none
  | _ => none

/-- The frame a client puts on the wire. -/
def frameSent : WsLinkOutput → Option Bytes
  | .sent frame => some frame
  | _ => none

/-- A receive callback of the server. -/
def serverCall : WsServerOutput → Option TransportOutput
  | .rxCb payload crc32 => some (.serverRx payload crc32)
  | _ => none

/-- A receive callback of the server for another connection. -/
def otherCall : WsServerOutput → Option TransportOutput
  | .rxCb payload crc32 => some (.otherRx payload crc32)
  | _ => none

/-- A receive callback of the client. -/
def clientCall : WsLinkOutput → Option TransportOutput
  | .rxCb payload crc32 => some (.clientRx payload crc32)
  | _ => none

/-- An event of the server that concerns another connection. -/
def OtherConnection (fd : Option Int) : WsServerEvent → Prop
  | .get _ fd' _ _ _ => fd ≠ some fd'
  | .frame fd' _ _ => fd ≠ some fd'
  | .closed fd' => fd ≠ some fd'
  | _ => False

instance (fd : Option Int) : (event : WsServerEvent) → Decidable (OtherConnection fd event)
  | .get _ fd' _ _ _ => inferInstanceAs (Decidable (fd ≠ some fd'))
  | .frame fd' _ _ => inferInstanceAs (Decidable (fd ≠ some fd'))
  | .closed fd' => inferInstanceAs (Decidable (fd ≠ some fd'))
  | .pingTimer _ _ => inferInstanceAs (Decidable False)
  | .send _ _ _ _ => inferInstanceAs (Decidable False)

/-- One step. A client makes one connection at a time, on a descriptor that is not in use, and
reads from it once it is connected. Sends succeed, and the ping timer of the server does not
fire. -/
def transportStep (mb : Mbedtls) (tickRateHz : UInt32) (net : Transport) :
    TransportEvent → Transport × List TransportOutput
  | .accept req fd authNow now unixTime =>
      if net.fd = none ∧ 0 ≤ fd ∧ sessions net.srv fd = [] then
        match wsHandlerGet mb net.srv req fd authNow now unixTime with
        | (.ok, srv, _) => ({ net with srv := srv, fd := some fd }, [])
        | (_, srv, _) => ({ net with srv := srv }, [])
      else (net, [])
  | .connected =>
      if net.fd.isSome ∧ net.link.connected = false then
        ({ net with link := (wsLinkStep mb tickRateHz net.link (.transport .connected)).1 }, [])
      else (net, [])
  | .disconnect =>
      match net.fd with
      | none => (net, [])
      | some fd =>
          ({ srv := (wsServerStep mb tickRateHz net.srv (.closed fd)).1
             link := (wsLinkStep mb tickRateHz net.link (.transport .disconnected)).1 }, [])
  | .clientSend data iv allocated sent =>
      let (link, outputs) := wsLinkStep mb tickRateHz net.link (.send data iv allocated sent)
      let frames := outputs.filterMap frameSent
      ({ net with link := link, toServer := net.toServer ++ frames.map fun frame => (data, frame) },
        frames.map fun _ => .clientSent data)
  | .serverSend data iv allocated =>
      let (srv, outputs) :=
        wsServerStep mb tickRateHz net.srv (.send data iv allocated fun _ => .ok)
      let frames := outputs.filterMap (frameTo net.fd)
      ({ net with srv := srv, toClient := net.toClient ++ frames.map fun frame => (data, frame) },
        frames.map fun _ => .serverSent data)
  | .atServer now =>
      match net.fd, net.toServer with
      | some fd, (_, frame) :: rest =>
          let (srv, outputs) :=
            wsServerStep mb tickRateHz net.srv (.frame fd { type := .binary, payload := frame } now)
          ({ net with srv := srv, toServer := rest }, outputs.filterMap serverCall)
      | _, _ => (net, [])
  | .atClient =>
      match net.link.connected, net.toClient with
      | true, (_, frame) :: rest =>
          let (link, outputs) :=
            wsLinkStep mb tickRateHz net.link (.transport (.data wsTransportOpcodesBinary frame))
          ({ net with link := link, toClient := rest }, outputs.filterMap clientCall)
      | _, _ => (net, [])
  | .elsewhere event =>
      if OtherConnection net.fd event then
        let (srv, outputs) := wsServerStep mb tickRateHz net.srv event
        ({ net with srv := srv }, outputs.filterMap otherCall)
      else (net, [])

section Send

variable {mb : Mbedtls} {tickRateHz : UInt32} {data : Bytes} {iv : Vector UInt8 12}
  {allocated : Bool}

/-- `ws_client_send` does nothing, or seals the data and puts the frame on the wire. -/
theorem wsClientSend_cases {link : WsLink} {sent : Int} :
    wsLinkStep mb tickRateHz link (.send data iv allocated sent) = (link, []) ∨
      ∃ outSize result ctx, link.connected = true ∧
        wsSecurityEncrypt mb.toGcm iv link.securityCtx data outSize = (result, ctx) ∧
        wsLinkStep mb tickRateHz link (.send data iv allocated sent) =
          ({ link with securityCtx := ctx }, result.toOption.toList.map WsLinkOutput.sent) := by
  simp only [wsLinkStep, wsClientSend]
  split
  · exact .inl rfl
  case isFalse hopen =>
    split
    · exact .inl rfl
    · have hconnected : link.connected = true := by
        cases h : link.connected <;> simp_all
      refine .inr ?_
      split
      case h_1 err ctx hencrypt => exact ⟨_, _, _, hconnected, hencrypt, rfl⟩
      case h_2 frame ctx hencrypt => exact ⟨_, _, _, hconnected, hencrypt, rfl⟩

/-- A broadcast whose sends succeed sends the frame on every descriptor in use. -/
theorem sendSlot_run (frame : Bytes) (srv : WsServer) (slots : List Nat) :
    Machine.run (sendSlot frame fun _ => .ok) (.ok, srv) slots =
      ((.ok, srv), (slots.filterMap fun i => srv.clients[i]?).flatMap fun client =>
        if client.fd < 0 then [] else [.sent client.fd .binary frame]) := by
  induction slots with
  | nil => rfl
  | cons i rest ih =>
      cases hslot : srv.clients[i]? with
      | none => simp [sendSlot, hslot, ih]
      | some client => by_cases hidle : client.fd < 0 <;> simp [sendSlot, hslot, hidle, ih]

theorem filterMap_getElem?_range {α : Type} (table : List α) :
    ((List.range table.length).filterMap fun i => table[i]?) = table := by
  induction table with
  | nil => rfl
  | cons slot rest ih =>
      simp only [List.length_cons, List.range_succ_eq_map, List.filterMap_cons, List.filterMap_map]
      simpa [Function.comp_def] using ih

/-- Without a connection nothing goes to the client. -/
theorem filterMap_frameTo_none (outputs : List WsServerOutput) :
    outputs.filterMap (frameTo none) = [] := by
  rw [List.filterMap_eq_nil_iff]
  intro output hmem
  unfold frameTo
  split <;> simp

/-- A broadcast sends one frame for each session of a descriptor. -/
theorem broadcast_frames {frame : Bytes} {fd : Int} (hfd : 0 ≤ fd) (clients : List WsClient) :
    (clients.flatMap fun client =>
        if client.fd < 0 then [] else [WsServerOutput.sent client.fd .binary frame]).filterMap
      (frameTo (some fd)) = (clients.filter fun client => client.fd = fd).map fun _ => frame := by
  induction clients with
  | nil => rfl
  | cons client rest ih =>
      rw [List.flatMap_cons, List.filterMap_append, ih, List.filter_cons]
      by_cases hsame : client.fd = fd
      · simp [hsame, frameTo, not_lt.mpr hfd]
      · by_cases hidle : client.fd < 0
        · simp [hsame, hidle]
        · simp [hsame, hidle, frameTo, Ne.symm hsame]

/-- `ws_server_send` does nothing, or seals the data and sends the frame once for each session. -/
theorem wsServerSend_cases {srv : WsServer} :
    wsServerStep mb tickRateHz srv (.send data iv allocated fun _ => .ok) = (srv, []) ∨
      ∃ outSize result ctx, data ≠ [] ∧
        wsSecurityEncrypt mb.toGcm iv srv.securityCtx data outSize = (result, ctx) ∧
        (wsServerStep mb tickRateHz srv (.send data iv allocated fun _ => .ok)).1 =
          { srv with securityCtx := ctx } ∧
        ∀ fd, 0 ≤ fd → (wsServerStep mb tickRateHz srv
            (.send data iv allocated fun _ => .ok)).2.filterMap (frameTo (some fd)) =
          result.toOption.toList.flatMap fun frame => (sessions srv fd).map fun _ => frame := by
  simp only [wsServerStep, wsServerSend]
  split
  · exact .inl rfl
  case isFalse hopen =>
    split
    · exact .inl rfl
    · have hdata : data ≠ [] := by
        rintro rfl
        simp at hopen
      refine .inr ?_
      split
      case h_1 err ctx hencrypt => exact ⟨_, _, _, hdata, hencrypt, rfl, fun fd hfd => rfl⟩
      case h_2 frame ctx hencrypt =>
        rw [sendSlot_run]
        refine ⟨_, _, _, hdata, hencrypt, rfl, fun fd hfd => ?_⟩
        show (((List.range srv.clients.length).filterMap fun i => srv.clients[i]?).flatMap
          fun client => if client.fd < 0 then [] else [.sent client.fd .binary frame]).filterMap
            (frameTo (some fd)) = _
        rw [filterMap_getElem?_range, broadcast_frames hfd]
        simp [Except.toOption, sessions, Function.comp_def]

end Send

section Frames

variable {gcm : Gcm} {iv : Vector UInt8 12} {ctx ctx' : WsSecurityContext} {data : Bytes}
  {outSize : Nat} {result : Except EspErr Bytes}

/-- A frame and the data it was made from: with encryption off the frame is the data, with
encryption on it has the shape of a sealed frame. -/
def MadeFrom (encryptionEnabled : Bool) (entry : Bytes × Bytes) : Prop :=
  if encryptionEnabled then FrameShaped entry.2 else entry.2 = entry.1

theorem wsSecurityEncrypt_flag (h : wsSecurityEncrypt gcm iv ctx data outSize = (result, ctx')) :
    ctx'.encryptionEnabled = ctx.encryptionEnabled := by
  rcases wsSecurityEncrypt_context h with rfl | rfl <;> rfl

/-- What `ws_security_encrypt` makes was made from its plaintext. -/
theorem madeFrom_encrypt (h : wsSecurityEncrypt gcm iv ctx data outSize = (result, ctx')) :
    ∀ entry ∈ result.toOption.toList.map fun frame => (data, frame),
      MadeFrom ctx.encryptionEnabled entry := by
  cases result with
  | error err => simp [Except.toOption]
  | ok frame =>
      intro entry hmem
      obtain rfl : entry = (data, frame) := by simpa [Except.toOption] using hmem
      cases hflag : ctx.encryptionEnabled with
      | true => exact (frameShaped_of_encrypt hflag h).1
      | false =>
          simp only [wsSecurityEncrypt, hflag, Bool.not_false, if_true] at h
          split at h
          · cases h
          · cases h
            rfl

end Frames

end SensorHmi
