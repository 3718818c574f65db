import SensorHmi.Net.WsServer

/-!
# What one event does to the server

One spec for each handler of `ws_server.c`. Everything but a received frame is housekeeping: it
changes no setting and calls no callback. `FrameCase` lists what a received frame can do.
-/

namespace SensorHmi

/-- A call of the receive callback. -/
def WsServerOutput.isRxCb : WsServerOutput → Bool
  | .rxCb _ _ => true
  | _ => false

/-- The settings a running server never changes; of the security context only the send counter
moves. -/
structure SameSettings (before after : WsServer) : Prop where
  cfg : after.cfg = before.cfg
  hasRxCb : after.hasRxCb = before.hasRxCb
  httpServer : after.httpServer = before.httpServer
  security : wsSecurityResetCounters after.securityCtx = wsSecurityResetCounters before.securityCtx

namespace SameSettings

variable {first second third : WsServer}

theorem refl (srv : WsServer) : SameSettings srv srv :=
  ⟨rfl, rfl, rfl, rfl⟩

theorem trans (h : SameSettings first second) (h' : SameSettings second third) :
    SameSettings first third :=
  ⟨h'.cfg.trans h.cfg, h'.hasRxCb.trans h.hasRxCb, h'.httpServer.trans h.httpServer,
    h'.security.trans h.security⟩

theorem encryptionEnabled (h : SameSettings first second) :
    second.securityCtx.encryptionEnabled = first.securityCtx.encryptionEnabled := by
  have hflag := congrArg (fun ctx => ctx.encryptionEnabled) h.security
  exact hflag

end SameSettings

/-- What everything but a received frame does. -/
structure Housekeeping (before after : WsServer) (outputs : List WsServerOutput) : Prop where
  settings : SameSettings before after
  silent : ∀ output ∈ outputs, output.isRxCb = false

namespace Housekeeping

variable {first second third : WsServer} {outputs more : List WsServerOutput}

theorem refl (srv : WsServer) : Housekeeping srv srv [] :=
  ⟨SameSettings.refl srv, by simp⟩

theorem trans (h : Housekeeping first second outputs) (h' : Housekeeping second third more) :
    Housekeeping first third (outputs ++ more) where
  settings := h.settings.trans h'.settings
  silent output hmem := by
    rcases List.mem_append.mp hmem with hfirst | hsecond
    · exact h.silent output hfirst
    · exact h'.silent output hsecond

/-- More outputs that call no callback can be put in front. -/
theorem cons {output : WsServerOutput} (houtput : output.isRxCb = false)
    (h : Housekeeping first second outputs) : Housekeeping first second (output :: outputs) where
  settings := h.settings
  silent other hmem := by
    rcases List.mem_cons.mp hmem with rfl | hmem
    · exact houtput
    · exact h.silent other hmem

/-- A loop of housekeeping steps is housekeeping. -/
theorem run {σ ε : Type} {step : σ → ε → σ × List WsServerOutput} (server : σ → WsServer)
    (h : ∀ state event,
      Housekeeping (server state) (server (step state event).1) (step state event).2)
    (state : σ) (events : List ε) :
    Housekeeping (server state) (server (Machine.run step state events).1)
      (Machine.run step state events).2 := by
  induction events generalizing state with
  | nil => exact refl _
  | cons event rest ih => exact (h state event).trans (ih _)

end Housekeeping

section Table

variable {srv : WsServer} {fd : Int} {i : Nat} {client new : WsClient}

@[simp] theorem setClient_setClient :
    (srv.setClient i client).setClient i new = srv.setClient i new := by
  simp [WsServer.setClient]

theorem fd_of_findClient (h : findClient srv fd = some (i, client)) : client.fd = fd := by
  simpa using (Slots.get_of_first h).2

end Table

section Handlers

variable (mb : Mbedtls) (srv : WsServer)

theorem dropClientLocked_housekeeping (fd : Int) :
    Housekeeping srv (dropClientLocked srv fd).1 (dropClientLocked srv fd).2 := by
  unfold dropClientLocked
  split
  case h_1 => exact Housekeeping.refl srv
  case h_2 i client hfind =>
      exact ⟨⟨rfl, rfl, rfl, rfl⟩, by simp [WsServerOutput.isRxCb]⟩

theorem addClient_housekeeping (fd : Int) (now : TickType) :
    Housekeeping srv (addClient srv fd now).2.1 (addClient srv fd now).2.2 := by
  unfold addClient
  split
  case isTrue => exact Housekeeping.refl srv
  case isFalse =>
    split
    case h_1 => exact Housekeeping.refl srv
    case h_2 i client hfree =>
      exact ⟨⟨rfl, rfl, rfl, rfl⟩, by simp [WsServerOutput.isRxCb]⟩

theorem markClientVerified_settings (fd : Int) : SameSettings srv (markClientVerified srv fd) := by
  unfold markClientVerified
  split <;> exact ⟨rfl, rfl, rfl, rfl⟩

theorem wsHandlerGet_housekeeping (req : HttpdReq) (fd : Int) (authNow now : TickType)
    (unixTime : UInt64) :
    Housekeeping srv (wsHandlerGet mb srv req fd authNow now unixTime).2.1
      (wsHandlerGet mb srv req fd authNow now unixTime).2.2 := by
  unfold wsHandlerGet
  dsimp only
  generalize (authorizeRequest mb _ req srv.nonceCache).2 = cache
  have hcache : Housekeeping srv { srv with nonceCache := cache } [] :=
    ⟨⟨rfl, rfl, rfl, rfl⟩, by simp⟩
  split
  case isTrue => exact Housekeeping.cons rfl hcache
  case isFalse =>
    have hadd := hcache.trans (addClient_housekeeping { srv with nonceCache := cache } fd now)
    split
    case h_1 added outputs hresult =>
      rw [hresult] at hadd
      split
      case isTrue =>
        exact ⟨hadd.settings.trans (markClientVerified_settings added fd), hadd.silent⟩
      case isFalse => exact hadd
    case h_2 err added outputs _ hresult =>
      rw [hresult] at hadd
      exact hadd.trans (Housekeeping.cons rfl (Housekeeping.refl added))

theorem pingSlot_housekeeping (tickRateHz : UInt32) (now : TickType) (sendResult : Nat → EspErr)
    (i : Nat) :
    Housekeeping srv (pingSlot tickRateHz now sendResult srv i).1
      (pingSlot tickRateHz now sendResult srv i).2 := by
  unfold pingSlot
  dsimp only
  split
  case h_1 => exact Housekeeping.refl srv
  case h_2 client hslot =>
      split_ifs
      · exact Housekeeping.refl srv
      · exact (dropClientLocked_housekeeping srv client.fd).cons rfl
      · exact ⟨⟨rfl, rfl, rfl, rfl⟩, by simp [WsServerOutput.isRxCb]⟩
      · exact ((dropClientLocked_housekeeping srv client.fd).cons rfl).cons rfl
      · exact Housekeeping.refl srv

theorem pingTimerCb_housekeeping (tickRateHz : UInt32) (now : TickType)
    (sendResult : Nat → EspErr) :
    Housekeeping srv (pingTimerCb tickRateHz srv now sendResult).1
      (pingTimerCb tickRateHz srv now sendResult).2 :=
  Housekeeping.run id
    (fun state i => pingSlot_housekeeping state tickRateHz now sendResult i) srv _

theorem sendSlot_housekeeping (frame : Bytes) (sendResult : Nat → EspErr)
    (state : EspErr × WsServer) (i : Nat) :
    Housekeeping state.2 (sendSlot frame sendResult state i).1.2
      (sendSlot frame sendResult state i).2 := by
  obtain ⟨result, srv⟩ := state
  unfold sendSlot
  dsimp only
  split
  case h_1 => exact Housekeeping.refl srv
  case h_2 client hslot =>
      split_ifs
      · exact Housekeeping.refl srv
      · exact Housekeeping.cons rfl (Housekeeping.refl srv)
      · exact ((dropClientLocked_housekeeping srv client.fd).cons rfl).cons rfl

/-- Sealing moves only the send counter of the security context. -/
theorem encrypt_housekeeping {iv : Vector UInt8 12} {plaintext : Bytes} {outSize : Nat}
    {result : Except EspErr Bytes} {ctx : WsSecurityContext}
    (h : wsSecurityEncrypt mb.toGcm iv srv.securityCtx plaintext outSize = (result, ctx)) :
    Housekeeping srv { srv with securityCtx := ctx } [] := by
  refine ⟨⟨rfl, rfl, rfl, ?_⟩, by simp⟩
  rcases wsSecurityEncrypt_context h with rfl | rfl <;> rfl

theorem wsServerSend_housekeeping (data : Bytes) (iv : Vector UInt8 12) (allocated : Bool)
    (sendResult : Nat → EspErr) :
    Housekeeping srv (wsServerSend mb srv data iv allocated sendResult).1.2
      (wsServerSend mb srv data iv allocated sendResult).2 := by
  unfold wsServerSend
  dsimp only
  split_ifs
  · exact Housekeeping.refl srv
  · exact Housekeeping.refl srv
  · split
    case h_1 err ctx hencrypt => exact encrypt_housekeeping mb srv hencrypt
    case h_2 frame ctx hencrypt =>
      exact (encrypt_housekeeping mb srv hencrypt).trans
        (Housekeeping.run Prod.snd (sendSlot_housekeeping frame sendResult)
          (.ok, { srv with securityCtx := ctx }) _)

end Handlers

/-- The two calls of `httpd_ws_recv_frame` succeed and the frame fits the receive buffer. -/
def FrameArrives (srv : WsServer) (recv : WsRecv) : Prop :=
  recv.lengthResult = .ok ∧ recv.payload.length ≤ srv.cfg.rxBufferSize ∧ recv.payloadResult = .ok

instance (srv : WsServer) (recv : WsRecv) : Decidable (FrameArrives srv recv) :=
  inferInstanceAs (Decidable (_ ∧ _ ∧ _))

/-- What a received frame does: the server and the outputs after `ws_handler`. -/
inductive FrameCase (mb : Mbedtls) (srv : WsServer) (fd : Int) (recv : WsRecv) :
    WsServer × List WsServerOutput → Prop
  /-- The frame cannot be read, is too large, or comes from an unknown client. -/
  | refused (h : ¬ FrameArrives srv recv ∨ findClient srv fd = none) :
      FrameCase mb srv fd recv (srv, [])
  /-- A pong, a ping, a server without a callback, or a sealed frame from an unverified client. -/
  | handled {i : Nat} {client client' : WsClient} {outputs : List WsServerOutput}
      (hfind : findClient srv fd = some (i, client)) (hfd : client'.fd = fd)
      (hcounter : client'.lastCounter = client.lastCounter)
      (houtputs : outputs = [] ∨ outputs = [.sent fd .pong recv.payload])
      (hkind : recv.type = .pong ∨ recv.type = .ping ∨ srv.hasRxCb = false ∨ recv.type = .binary) :
      FrameCase mb srv fd recv (srv.setClient i client', outputs)
  /-- A sealed frame that does not open: the client is dropped. -/
  | rejected {i : Nat} {client client' : WsClient} {err : EspErr} {counter : UInt64}
      (hfind : findClient srv fd = some (i, client)) (hfd : client'.fd = fd)
      (hcounter : client'.lastCounter = client.lastCounter) (hbinary : recv.type = .binary)
      (hdecrypt : wsSecurityDecrypt mb.toGcm srv.securityCtx recv.payload client.lastCounter =
        (.error err, counter)) :
      FrameCase mb srv fd recv ((dropClientLocked (srv.setClient i client') fd).1,
        .triggerClose fd :: (dropClientLocked (srv.setClient i client') fd).2)
  /-- A sealed frame that opens: its plaintext is delivered. -/
  | opened {i : Nat} {client client' : WsClient} {plaintext : Bytes} {counter : UInt64}
      (hfind : findClient srv fd = some (i, client)) (hfd : client'.fd = fd)
      (hcounter : client'.lastCounter = counter) (hbinary : recv.type = .binary)
      (henabled : srv.securityCtx.encryptionEnabled = true)
      (hdecrypt : wsSecurityDecrypt mb.toGcm srv.securityCtx recv.payload client.lastCounter =
        (.ok plaintext, counter)) :
      FrameCase mb srv fd recv (srv.setClient i client',
        [.rxCb (splitCrc true plaintext).1 (splitCrc true plaintext).2])
  /-- Any other frame: it is delivered as it came. -/
  | clear {i : Nat} {client client' : WsClient} (harrives : FrameArrives srv recv)
      (hfind : findClient srv fd = some (i, client)) (hfd : client'.fd = fd)
      (hcounter : client'.lastCounter = client.lastCounter) (hcallback : srv.hasRxCb = true)
      (hpong : recv.type ≠ .pong) (hping : recv.type ≠ .ping)
      (hclear : ¬ (srv.securityCtx.encryptionEnabled = true ∧ recv.type = .binary)) :
      FrameCase mb srv fd recv (srv.setClient i client',
        [.rxCb (splitCrc (recv.type = .binary) recv.payload).1
          (splitCrc (recv.type = .binary) recv.payload).2])

/-- `ws_handler` does one of these things with a frame. -/
theorem wsHandlerFrame_case (mb : Mbedtls) (srv : WsServer) (fd : Int) (recv : WsRecv)
    (now : TickType) : FrameCase mb srv fd recv (wsHandlerFrame mb srv fd recv now).2 := by
  unfold wsHandlerFrame
  by_cases hlength : recv.lengthResult ≠ .ok
  · rw [if_pos hlength]
    exact .refused (Or.inl fun h => hlength h.1)
  rw [if_neg hlength]
  by_cases hsize : srv.cfg.rxBufferSize < recv.payload.length
  · rw [if_pos hsize]
    exact .refused (Or.inl fun h => absurd h.2.1 (not_le.mpr hsize))
  rw [if_neg hsize]
  by_cases hpayload : recv.payloadResult ≠ .ok
  · rw [if_pos hpayload]
    exact .refused (Or.inl fun h => hpayload h.2.2)
  rw [if_neg hpayload]
  have harrives : FrameArrives srv recv :=
    ⟨not_not.mp hlength, not_lt.mp hsize, not_not.mp hpayload⟩
  split
  case h_1 hunknown => exact .refused (Or.inr hunknown)
  case h_2 i client hfind =>
    have hfd := fd_of_findClient hfind
    simp only [setClient_setClient, deliver]
    split_ifs with hpong hping hcallback hsealed hverified
    · exact .handled hfind hfd rfl (Or.inl rfl) (Or.inl hpong)
    · exact .handled hfind hfd rfl (Or.inr rfl) (Or.inr (Or.inl hping))
    · have hnone : srv.hasRxCb = false := by simpa [WsServer.setClient] using hcallback
      exact .handled hfind hfd rfl (Or.inl rfl) (Or.inr (Or.inr (Or.inl hnone)))
    · exact .handled hfind hfd rfl (Or.inl rfl) (Or.inr (Or.inr (Or.inr hsealed.2)))
    · split
      case h_1 err counter hdecrypt => exact .rejected hfind hfd rfl hsealed.2 hdecrypt
      case h_2 plaintext counter hdecrypt =>
        exact .opened hfind hfd rfl hsealed.2 hsealed.1 hdecrypt
    · have hinstalled : srv.hasRxCb = true := by simpa [WsServer.setClient] using hcallback
      exact .clear harrives hfind hfd rfl hinstalled hpong hping hsealed

/-- An event is a received frame or housekeeping. -/
theorem wsServerStep_cases (mb : Mbedtls) (tickRateHz : UInt32) (srv : WsServer)
    (event : WsServerEvent) :
    (∃ fd recv now, event = .frame fd recv now ∧
      FrameCase mb srv fd recv (wsServerStep mb tickRateHz srv event)) ∨
    ((∀ fd recv now, event ≠ .frame fd recv now) ∧
      Housekeeping srv (wsServerStep mb tickRateHz srv event).1
        (wsServerStep mb tickRateHz srv event).2) := by
  cases event with
  | get req fd authNow now unixTime =>
      exact Or.inr ⟨by simp, wsHandlerGet_housekeeping mb srv req fd authNow now unixTime⟩
  | frame fd recv now =>
      exact Or.inl ⟨fd, recv, now, rfl, wsHandlerFrame_case mb srv fd recv now⟩
  | closed fd => exact Or.inr ⟨by simp, dropClientLocked_housekeeping srv fd⟩
  | pingTimer now sendResult =>
      exact Or.inr ⟨by simp, pingTimerCb_housekeeping srv tickRateHz now sendResult⟩
  | send data iv allocated sendResult =>
      exact Or.inr ⟨by simp, wsServerSend_housekeeping mb srv data iv allocated sendResult⟩

/-- A received frame changes no setting. -/
theorem FrameCase.settings {mb : Mbedtls} {srv srv' : WsServer} {fd : Int} {recv : WsRecv}
    {outputs : List WsServerOutput} (h : FrameCase mb srv fd recv (srv', outputs)) :
    SameSettings srv srv' := by
  cases h with
  | refused => exact SameSettings.refl srv
  | handled | opened | clear => exact ⟨rfl, rfl, rfl, rfl⟩
  | rejected =>
      rename_i i client client' err counter hfind hfd hcounter hbinary hdecrypt
      have hdrop := dropClientLocked_housekeeping (srv.setClient i client') fd
      have hset : SameSettings srv (srv.setClient i client') := ⟨rfl, rfl, rfl, rfl⟩
      exact hset.trans hdrop.settings

/-- No event changes a setting. -/
theorem wsServerStep_settings (mb : Mbedtls) (tickRateHz : UInt32) (srv : WsServer)
    (event : WsServerEvent) : SameSettings srv (wsServerStep mb tickRateHz srv event).1 := by
  rcases wsServerStep_cases mb tickRateHz srv event with ⟨fd, recv, now, -, hcase⟩ | ⟨-, hkeep⟩
  · exact hcase.settings
  · exact hkeep.settings

section Start

variable {mb : Mbedtls} {tickRateHz : UInt32} {outcome : StartOutcome} {config : WsServerConfig}
  {hasRxCb : Bool} {before srv : WsServer} {ctx : WsSecurityContext}

/-- What the resources add to the statics. -/
def withResources (hasRxCb : Bool) (srv : WsServer) : WsServer :=
  { srv with
    nonceCache :=
      if srv.securityCtx.handshakeEnabled then List.replicate srv.cfg.handshakeCacheSize {} else []
    clients := List.replicate srv.cfg.maxClients (idleClient srv)
    rxBuffer := true, clientLock := true, pingTimer := true, hasRxCb := hasRxCb
    httpServer := true }

theorem startResources_ok (h : startResources outcome hasRxCb before = (.ok, srv)) :
    srv = withResources hasRxCb before := by
  unfold startResources at h
  dsimp only at h
  split at h
  · cases h
  split at h
  · cases h
  split at h
  case isTrue hhttps => exact absurd (congrArg Prod.fst h) hhttps
  case isFalse =>
    cases h
    rfl

/-- The statics `ws_server_start` sets before it asks for resources. -/
def preparedServer (tickRateHz : UInt32) (config : WsServerConfig) (ctx : WsSecurityContext)
    (srv : WsServer) : WsServer :=
  { srv with
    cfg := withDefaults config, securityCtx := wsSecurityResetCounters ctx, nonceCache := []
    nonceTtlTicks := pdMsToTicks tickRateHz (withDefaults config).handshakeReplayWindowMs }

/-- A successful start initialises the context and leaves the server running with an empty client
table. -/
theorem wsServerStart_spec
    (h : wsServerStart mb tickRateHz outcome config hasRxCb before = (.ok, srv)) :
    ∃ ctx, wsSecurityContextInit mb (some (serverSecurityConfig (withDefaults config))) =
        (.ok, ctx) ∧
      srv = withResources hasRxCb (preparedServer tickRateHz config ctx before) := by
  unfold wsServerStart at h
  dsimp only at h
  split at h
  · cases h
  split at h
  · cases h
  split at h
  · cases h
  split at h
  · cases h
  split at h
  case h_1 ctx hinit => exact ⟨ctx, hinit, startResources_ok h⟩
  case h_2 err ctx hne hinit =>
    obtain ⟨rfl, -⟩ := Prod.mk.inj h
    exact absurd rfl hne

/-- A server that was started has the features its settings ask for, an unconnected client table
and the given callback. -/
theorem wsServerStart_ok
    (h : wsServerStart mb tickRateHz outcome config hasRxCb before = (.ok, srv)) :
    srv.securityCtx.encryptionEnabled = config.enableFrameEncryption ∧ srv.hasRxCb = hasRxCb ∧
      ∀ client ∈ srv.clients, client.fd = -1 := by
  obtain ⟨ctx, hinit, rfl⟩ := wsServerStart_spec h
  refine ⟨(wsSecurityContextInit_spec hinit).encryption, rfl, ?_⟩
  intro client hmem
  rw [(List.mem_replicate.mp hmem).2]
  rfl

end Start

end SensorHmi
