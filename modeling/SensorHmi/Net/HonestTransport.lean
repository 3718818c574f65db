import SensorHmi.Net.FrameGate
import SensorHmi.Net.SealedSession
import SensorHmi.Net.Transport

/-!
# What an honest transport delivers

With encryption off every frame that arrives is handed on as its data; with encryption on none is.
Either way no callback comes out of order and none is made up. The invariant `Honest` says what is
on the wire and that no counter of a receiver ever moves; the runs in which every frame is delivered
follow: `honest_transport_unchanged_iff`.
-/

namespace SensorHmi

open Octets

/-- A client and a server started with the same flag for frame encryption. The server has a verified
client on the descriptor, until a sealed frame made it drop that client. -/
structure Honest (encryptionEnabled : Bool) (net : Transport) : Prop where
  serverFlag : net.srv.securityCtx.encryptionEnabled = encryptionEnabled
  clientFlag : net.link.securityCtx.encryptionEnabled = encryptionEnabled
  serverCallback : net.srv.hasRxCb = true
  clientCallback : net.link.hasRxCb = true
  toServer : ∀ entry ∈ net.toServer, MadeFrom encryptionEnabled entry
  toClient : ∀ entry ∈ net.toClient, MadeFrom encryptionEnabled entry
  closed : net.fd = none → net.link.connected = false ∧ net.toServer = [] ∧ net.toClient = []
  session : ∀ fd, net.fd = some fd → 0 ≤ fd ∧ (sessions net.srv fd = [(true, 0)] ∨
    encryptionEnabled = true ∧ sessions net.srv fd = [])
  counter : encryptionEnabled = true → net.link.connected = true → net.link.rxCounter = 0

/-- The receive callback for some data: what is behind the CRC field, and the field. -/
def dataCallback (data : Bytes) : Bytes × UInt32 :=
  (data.drop 4, UInt32.ofNat (ofLe (data.take 4)))

/-- A frame of the right shape whose counter is not ahead of the receiver's. -/
def RefusedAsReplay (ctx : WsSecurityContext) (counterState : UInt64) (frame : Bytes) : Prop :=
  ctx.encryptionEnabled = true ∧ FrameShaped frame ∧ frameCounter frame ≤ counterState

/-- A frame that arrives, and fits the receive buffer of the server, is not refused as a replay; if
its data have a CRC field, the step is one callback with the rest of the data and the field. -/
def DeliversUnchanged (mb : Mbedtls) (tickRateHz : UInt32) (net : Transport)
    (event : TransportEvent) : Prop :=
  match event with
  | .atServer _ => ∀ fd data frame rest, net.fd = some fd →
      net.toServer = (data, frame) :: rest → frame.length ≤ net.srv.cfg.rxBufferSize →
      (4 ≤ data.length → (transportStep mb tickRateHz net event).2 =
        [.serverRx (dataCallback data).1 (dataCallback data).2]) ∧
      ∀ i client, findClient net.srv fd = some (i, client) →
        ¬ RefusedAsReplay net.srv.securityCtx client.lastCounter frame
  | .atClient => ∀ data frame rest, net.link.connected = true →
      net.toClient = (data, frame) :: rest →
      (4 ≤ data.length → (transportStep mb tickRateHz net event).2 =
        [.clientRx (dataCallback data).1 (dataCallback data).2]) ∧
      ¬ RefusedAsReplay net.link.securityCtx net.link.rxCounter frame
  | _ => True

/-- A frame arrives, and fits the receive buffer of the server, whose data have a CRC field or whose
counter is zero; the latter counts as long as the server has the client. -/
def FrameComes (net : Transport) : TransportEvent → Prop
  | .atServer _ => ∃ fd data frame rest, net.fd = some fd ∧ net.toServer = (data, frame) :: rest ∧
      frame.length ≤ net.srv.cfg.rxBufferSize ∧
      (4 ≤ data.length ∨ (findClient net.srv fd).isSome = true ∧ frameCounter frame = 0)
  | .atClient => ∃ data frame rest, net.link.connected = true ∧
      net.toClient = (data, frame) :: rest ∧ (4 ≤ data.length ∨ frameCounter frame = 0)
  | _ => False

theorem splitCrc_of_long {data : Bytes} (h : 4 ≤ data.length) :
    splitCrc true data = dataCallback data := by
  simp [splitCrc, dataCallback, h]

section Step

variable {mb : Mbedtls} {tickRateHz : UInt32} {net : Transport} {encryptionEnabled : Bool}

/-- What the client does with the first frame on its way. -/
theorem wsLinkStep_binary {link : WsLink} {frame : Bytes} (hcallback : link.hasRxCb = true)
    (hframe : frame ≠ []) :
    wsLinkStep mb tickRateHz link (.transport (.data wsTransportOpcodesBinary frame)) =
      (link, if link.securityCtx.encryptionEnabled then []
        else [.rxCb (splitCrc true frame).1 (splitCrc true frame).2]) := by
  have hopen : (!link.hasRxCb || frame.isEmpty) = false := by simpa [hcallback] using hframe
  simp only [wsLinkStep, websocketEventHandler, hopen, Bool.false_eq_true, if_false, decide_true,
    Bool.and_true]
  cases hflag : link.securityCtx.encryptionEnabled with
  | false => rfl
  | true =>
      obtain ⟨err, hrefused⟩ := @wsSecurityDecrypt_sealed mb.toGcm link.securityCtx frame
        link.rxCounter hflag
      rw [hrefused]
      rfl

/-- An event of another connection leaves this one alone. -/
theorem elsewhere_leavesAlone {srv : WsServer} {fd : Int} {event : WsServerEvent} (hfd : 0 ≤ fd)
    (hother : OtherConnection (some fd) event) :
    LeavesAlone fd srv (wsServerStep mb tickRateHz srv event).1 := by
  have hne : ∀ {fd' : Int}, some fd ≠ some fd' → fd' ≠ fd := fun h heq => h (by rw [heq])
  cases event with
  | get req fd' authNow now unixTime =>
      exact wsHandlerGet_leavesAlone srv hfd (hne hother) req authNow now unixTime
  | frame fd' recv now => exact wsHandlerFrame_leavesAlone srv hfd (hne hother) recv now
  | closed fd' => exact dropClientLocked_leavesAlone srv hfd (hne hother)
  | pingTimer | send => exact hother.elim

namespace Honest

/-- Without a connection only the settings matter. -/
theorem ofClosed {net' : Transport} (h : Honest encryptionEnabled net)
    (hsrv : SameSettings net.srv net'.srv) (hlink : net.link.Keeps net'.link)
    (hclosed : net'.fd = none ∧ net'.link.connected = false ∧ net'.toServer = [] ∧
      net'.toClient = []) : Honest encryptionEnabled net' := by
  obtain ⟨hnone, hconnected, htoServer, htoClient⟩ := hclosed
  obtain ⟨txCounter, hctx⟩ := hlink.securityCtx
  refine ⟨hsrv.encryptionEnabled.trans h.serverFlag, ?_, hsrv.hasRxCb.trans h.serverCallback,
    hlink.hasRxCb.trans h.clientCallback, by simp [htoServer], by simp [htoClient],
    fun _ => ⟨hconnected, htoServer, htoClient⟩, fun fd hfd => ?_, fun _ hup => ?_⟩
  · rw [hctx]
    exact h.clientFlag
  · rw [hnone] at hfd
    cases hfd
  · rw [hconnected] at hup
    cases hup

/-- A connection is open when the client is connected. -/
theorem open_of_connected (h : Honest encryptionEnabled net)
    (hconnected : net.link.connected = true) : ∃ fd, net.fd = some fd := by
  cases hfd : net.fd with
  | none =>
      rw [(h.closed hfd).1] at hconnected
      cases hconnected
  | some fd => exact ⟨fd, rfl⟩

theorem accept {req : HttpdReq} {fd : Int} {authNow now : TickType} {unixTime : UInt64}
    (h : Honest encryptionEnabled net) : Honest encryptionEnabled
      (transportStep mb tickRateHz net (.accept req fd authNow now unixTime)).1 := by
  simp only [transportStep]
  split
  case isFalse => exact h
  case isTrue hfree =>
    obtain ⟨hnone, hfd, hnew⟩ := hfree
    split
    case h_1 srv outputs hget =>
      obtain ⟨hctx, -, hcallback, -, hsession⟩ := wsHandlerGet_session net.srv hnew hget
      refine ⟨?_, h.clientFlag, hcallback.trans h.serverCallback, h.clientCallback, h.toServer,
        h.toClient, fun hclosed => ?_, fun fd' hfd' => ?_, h.counter⟩
      · rw [hctx]
        exact h.serverFlag
      · cases hclosed
      · cases hfd'
        exact ⟨hfd, .inl hsession⟩
    case h_2 err srv outputs _ hget =>
      have hsettings := wsServerStep_settings mb tickRateHz net.srv
        (.get req fd authNow now unixTime)
      simp only [wsServerStep, hget] at hsettings
      exact h.ofClosed hsettings (.refl _) ⟨hnone, h.closed hnone⟩

theorem connected (h : Honest encryptionEnabled net) :
    Honest encryptionEnabled (transportStep mb tickRateHz net .connected).1 := by
  simp only [transportStep]
  split
  case isFalse => exact h
  case isTrue hopen =>
    obtain ⟨fd, hfd⟩ := Option.isSome_iff_exists.mp hopen.1
    refine ⟨h.serverFlag, h.clientFlag, h.serverCallback, h.clientCallback, h.toServer, h.toClient,
      fun hnone => ?_, h.session, fun _ _ => rfl⟩
    rw [show net.fd = none from hnone] at hfd
    cases hfd

theorem disconnect (h : Honest encryptionEnabled net) :
    Honest encryptionEnabled (transportStep mb tickRateHz net .disconnect).1 := by
  simp only [transportStep]
  split
  case h_1 => exact h
  case h_2 fd hfd =>
    have hdown : (wsLinkStep mb tickRateHz net.link (.transport .disconnected)).1.connected =
        false := by
      simp only [wsLinkStep, websocketEventHandler]
      split
      · split <;> rfl
      · rfl
    exact h.ofClosed (wsServerStep_settings mb tickRateHz net.srv _)
      (wsLinkStep_keeps mb tickRateHz net.link _) ⟨rfl, hdown, rfl, rfl⟩

theorem elsewhere {event : WsServerEvent} (h : Honest encryptionEnabled net) :
    Honest encryptionEnabled (transportStep mb tickRateHz net (.elsewhere event)).1 := by
  simp only [transportStep]
  split
  case isFalse => exact h
  case isTrue hother =>
    have hsettings := wsServerStep_settings mb tickRateHz net.srv event
    refine ⟨hsettings.encryptionEnabled.trans h.serverFlag, h.clientFlag,
      hsettings.hasRxCb.trans h.serverCallback, h.clientCallback, h.toServer, h.toClient, h.closed,
      fun fd hfd => ?_, h.counter⟩
    have hopen : net.fd = some fd := hfd
    rw [hopen] at hother
    obtain ⟨hpos, hsession⟩ := h.session fd hopen
    have hsame := (@elsewhere_leavesAlone mb tickRateHz net.srv fd event hpos hother).sessions
    refine ⟨hpos, ?_⟩
    show sessions (wsServerStep mb tickRateHz net.srv event).1 fd = _ ∨ _
    rwa [hsame]

/-- What the client sends is made from its data. -/
theorem clientSend {data : Bytes} {iv : Vector UInt8 12} {allocated : Bool} {sent : Nat}
    (h : Honest encryptionEnabled net) : Honest encryptionEnabled
      (transportStep mb tickRateHz net (.clientSend data iv allocated sent)).1 := by
  simp only [transportStep]
  rcases @wsClientSend_cases mb tickRateHz data iv allocated net.link sent with
    hsame | ⟨outSize, result, ctx, hconnected, hencrypt, hstep⟩
  · rw [hsame]
    simpa using h
  · have hframes : (result.toOption.toList.map WsLinkOutput.sent).filterMap frameSent =
        result.toOption.toList := by
      cases result <;> rfl
    rw [hstep]
    simp only [hframes]
    refine ⟨h.serverFlag, (wsSecurityEncrypt_flag hencrypt).trans h.clientFlag, h.serverCallback,
      h.clientCallback, fun entry hmem => ?_, h.toClient, fun hnone => ?_, h.session, h.counter⟩
    · rcases List.mem_append.mp hmem with hold | hnew
      · exact h.toServer entry hold
      · rw [← h.clientFlag]
        exact madeFrom_encrypt hencrypt entry hnew
    · rw [(h.closed hnone).1] at hconnected
      cases hconnected

/-- What the server sends is made from its data. -/
theorem serverSend {data : Bytes} {iv : Vector UInt8 12} {allocated : Bool}
    (h : Honest encryptionEnabled net) : Honest encryptionEnabled
      (transportStep mb tickRateHz net (.serverSend data iv allocated)).1 := by
  simp only [transportStep]
  cases hfd : net.fd with
  | none =>
      obtain ⟨hconnected, htoServer, htoClient⟩ := h.closed hfd
      refine h.ofClosed (wsServerStep_settings mb tickRateHz net.srv _) (.refl _)
        ⟨rfl, hconnected, htoServer, ?_⟩
      rw [filterMap_frameTo_none, htoClient]
      rfl
  | some fd =>
      obtain ⟨hpos, hsession⟩ := h.session fd hfd
      rcases @wsServerSend_cases mb tickRateHz data iv allocated net.srv with
        hsame | ⟨outSize, result, ctx, hdata, hencrypt, hsrv, hframes⟩
      · rw [hsame]
        simpa [← hfd] using h
      · rw [hsrv, hframes fd hpos]
        refine ⟨(wsSecurityEncrypt_flag hencrypt).trans h.serverFlag, h.clientFlag,
          h.serverCallback, h.clientCallback, h.toServer, fun entry hmem => ?_, fun hnone => ?_,
          fun fd' hfd' => ?_, h.counter⟩
        · rcases List.mem_append.mp hmem with hold | hnew
          · exact h.toClient entry hold
          · rw [← h.serverFlag]
            refine madeFrom_encrypt hencrypt entry ?_
            -- one copy of the frame goes to each session
            obtain ⟨frame, hframe, rfl⟩ := List.mem_map.mp hnew
            obtain ⟨made, hmade, hcopy⟩ := List.mem_flatMap.mp hframe
            obtain ⟨-, -, rfl⟩ := List.mem_map.mp hcopy
            exact List.mem_map_of_mem hmade
        · cases hnone
        · cases hfd'
          exact ⟨hpos, hsession⟩

/-- With encryption off a frame that arrives at the server, and fits its receive buffer, is the
callback of its data; otherwise it is lost. -/
theorem atServer {now : TickType} {fd : Int} {data frame : Bytes} {rest : List (Bytes × Bytes)}
    (h : Honest encryptionEnabled net) (hfd : net.fd = some fd)
    (hqueue : net.toServer = (data, frame) :: rest) :
    Honest encryptionEnabled (transportStep mb tickRateHz net (.atServer now)).1 ∧
      (transportStep mb tickRateHz net (.atServer now)).1.toServer = rest ∧
      (transportStep mb tickRateHz net (.atServer now)).2 =
        if encryptionEnabled = false ∧ frame.length ≤ net.srv.cfg.rxBufferSize then
          [.serverRx (splitCrc true data).1 (splitCrc true data).2]
        else [] := by
  obtain ⟨hpos, hsession⟩ := h.session fd hfd
  have hmade := h.toServer
  rw [hqueue, List.forall_mem_cons] at hmade
  have hafter : ∀ {srv : WsServer}, srv.securityCtx = net.srv.securityCtx →
      srv.hasRxCb = net.srv.hasRxCb →
      (sessions srv fd = [(true, 0)] ∨ encryptionEnabled = true ∧ sessions srv fd = []) →
      Honest encryptionEnabled { net with srv := srv, toServer := rest } := by
    intro srv hctx hcallback hsession'
    refine ⟨?_, h.clientFlag, hcallback.trans h.serverCallback, h.clientCallback, hmade.2,
      h.toClient, fun hnone => ?_, fun fd' hfd' => ?_, h.counter⟩
    · rw [hctx]
      exact h.serverFlag
    · rw [show net.fd = none from hnone] at hfd
      cases hfd
    · rw [show net.fd = some fd' from hfd'] at hfd
      cases hfd
      exact ⟨hpos, hsession'⟩
  simp only [transportStep, hfd, hqueue]
  rw [← hfd]
  cases encryptionEnabled with
  | false =>
      have hframe : frame = data := hmade.1
      have hverified : sessions net.srv fd = [(true, 0)] := by
        rcases hsession with hverified | ⟨hon, -⟩
        · exact hverified
        · cases hon
      by_cases hfits : frame.length ≤ net.srv.cfg.rxBufferSize
      · obtain ⟨srv, hhandler, hctx, hcallback, hsession'⟩ :=
          @wsHandlerFrame_delivers mb net.srv fd frame 0 now h.serverFlag hverified
            h.serverCallback hfits
        simp only [wsServerStep, hhandler, if_pos (And.intro trivial hfits)]
        rw [hframe]
        exact ⟨hafter hctx hcallback (.inl hsession'), trivial, rfl⟩
      · have hlost : wsHandlerFrame mb net.srv fd { type := .binary, payload := frame } now =
            (.noMem, net.srv, []) := by
          rw [wsHandlerFrame, if_neg (by simp), if_pos (not_le.mp hfits)]
        simp only [wsServerStep, hlost, if_neg fun hboth : _ ∧ _ => hfits hboth.2]
        exact ⟨hafter rfl rfl hsession, trivial, rfl⟩
  | true =>
      obtain ⟨hctx, hcallback, hsilent, hsession'⟩ :=
        @wsHandlerFrame_refuses mb net.srv fd frame 0 now hpos h.serverFlag h.serverCallback
          (hsession.imp_right And.right)
      refine ⟨hafter hctx hcallback (hsession'.imp_right fun hnone => ⟨rfl, hnone⟩), trivial, ?_⟩
      rw [if_neg (by simp), List.filterMap_eq_nil_iff]
      intro output hmem
      have hquiet := hsilent output hmem
      cases output with
      | rxCb => cases hquiet
      | _ => rfl

/-- With encryption off a frame that arrives at the client is the callback of its data, unless there
is no data; with encryption on it is lost. -/
theorem atClient {data frame : Bytes} {rest : List (Bytes × Bytes)}
    (h : Honest encryptionEnabled net) (hconnected : net.link.connected = true)
    (hqueue : net.toClient = (data, frame) :: rest) :
    Honest encryptionEnabled (transportStep mb tickRateHz net .atClient).1 ∧
      (transportStep mb tickRateHz net .atClient).1.toClient = rest ∧
      (transportStep mb tickRateHz net .atClient).2 =
        if encryptionEnabled = false ∧ data ≠ [] then
          [.clientRx (splitCrc true data).1 (splitCrc true data).2]
        else [] := by
  have hmade := h.toClient
  rw [hqueue, List.forall_mem_cons] at hmade
  obtain ⟨fd, hfd⟩ := h.open_of_connected hconnected
  have hafter : Honest encryptionEnabled { net with toClient := rest } := by
    refine ⟨h.serverFlag, h.clientFlag, h.serverCallback, h.clientCallback, h.toServer, hmade.2,
      fun hnone => ?_, h.session, h.counter⟩
    rw [show net.fd = none from hnone] at hfd
    cases hfd
  simp only [transportStep, hconnected, hqueue]
  by_cases hframe : frame = []
  · have hlost : wsLinkStep mb tickRateHz net.link
        (.transport (.data wsTransportOpcodesBinary [])) = (net.link, []) := by
      simp [wsLinkStep, websocketEventHandler]
    rw [hframe, hlost, if_neg]
    · exact ⟨hafter, trivial, rfl⟩
    · rintro ⟨rfl, hdata⟩
      have hsame : frame = data := hmade.1
      exact hdata (hsame.symm.trans hframe)
  · rw [wsLinkStep_binary h.clientCallback hframe, h.clientFlag]
    cases encryptionEnabled with
    | false =>
        have hsame : frame = data := hmade.1
        refine ⟨hafter, trivial, ?_⟩
        rw [if_neg Bool.false_ne_true, if_pos ⟨rfl, fun hdata => hframe (hsame.trans hdata)⟩,
          ← hsame]
        rfl
    | true =>
        refine ⟨hafter, trivial, ?_⟩
        rw [if_pos rfl, if_neg (by simp)]
        rfl

/-- The receive counter of the server does not move. -/
theorem lastCounter {fd : Int} {i : Nat} {client : WsClient} (h : Honest encryptionEnabled net)
    (hfd : net.fd = some fd) (hfind : findClient net.srv fd = some (i, client)) :
    client.lastCounter = 0 := by
  rcases (h.session fd hfd).2 with hsession | ⟨-, hnone⟩
  · obtain ⟨i', client', hfind', -, hlow, -⟩ := findClient_of_sessions hsession
    rw [hfind] at hfind'
    cases hfind'
    exact hlow
  · -- a client that was dropped is not found
    rw [findClient_of_sessions_nil hnone] at hfind
    cases hfind

end Honest

/-- Nothing happens at the server when nothing is on the way to it. -/
theorem atServer_cases {now : TickType} :
    transportStep mb tickRateHz net (.atServer now) = (net, []) ∨
      ∃ fd data frame rest, net.fd = some fd ∧ net.toServer = (data, frame) :: rest ∧
        (transportStep mb tickRateHz net (.atServer now)).1.toClient = net.toClient := by
  cases hfd : net.fd with
  | none => exact .inl (by simp only [transportStep, hfd])
  | some fd =>
      cases hqueue : net.toServer with
      | nil => exact .inl (by simp only [transportStep, hfd, hqueue])
      | cons entry rest =>
          exact .inr ⟨fd, entry.1, entry.2, rest, rfl, rfl,
            by simp only [transportStep, hfd, hqueue]⟩

/-- Nothing happens at the client when it is not connected or nothing is on the way to it. -/
theorem atClient_cases :
    transportStep mb tickRateHz net .atClient = (net, []) ∨
      ∃ data frame rest, net.link.connected = true ∧ net.toClient = (data, frame) :: rest ∧
        (transportStep mb tickRateHz net .atClient).1.toServer = net.toServer := by
  cases hconnected : net.link.connected with
  | false => exact .inl (by simp only [transportStep, hconnected])
  | true =>
      cases hqueue : net.toClient with
      | nil => exact .inl (by simp only [transportStep, hconnected, hqueue])
      | cons entry rest =>
          exact .inr
            ⟨entry.1, entry.2, rest, rfl, rfl, by simp only [transportStep, hconnected, hqueue]⟩

/-- A step of an honest transport leaves it honest. -/
theorem transportStep_honest {event : TransportEvent} (h : Honest encryptionEnabled net) :
    Honest encryptionEnabled (transportStep mb tickRateHz net event).1 := by
  cases event with
  | accept => exact h.accept
  | connected => exact h.connected
  | disconnect => exact h.disconnect
  | elsewhere => exact h.elsewhere
  | clientSend => exact h.clientSend
  | serverSend => exact h.serverSend
  | atServer now =>
      rcases @atServer_cases mb tickRateHz net now with hnothing | ⟨_, _, _, _, hfd, hqueue, -⟩
      · rwa [hnothing]
      · exact (h.atServer hfd hqueue).1
  | atClient =>
      rcases @atClient_cases mb tickRateHz net with hnothing | ⟨_, _, _, hconnected, hqueue, -⟩
      · rwa [hnothing]
      · exact (h.atClient hconnected hqueue).1

/-- With encryption off an honest transport delivers what arrives. -/
theorem Honest.delivers (h : Honest false net) (event : TransportEvent) :
    DeliversUnchanged mb tickRateHz net event := by
  have hnever : ∀ {ctx : WsSecurityContext} {counterState : UInt64} {frame : Bytes},
      ctx.encryptionEnabled = false → ¬ RefusedAsReplay ctx counterState frame := by
    rintro ctx counterState frame hoff ⟨hon, -⟩
    rw [hoff] at hon
    cases hon
  cases event with
  | atServer now =>
      intro fd data frame rest hfd hqueue hfits
      obtain ⟨-, -, houtputs⟩ :=
        @Honest.atServer mb tickRateHz net _ now fd data frame rest h hfd hqueue
      refine ⟨fun hlong => ?_, fun _ _ _ => hnever h.serverFlag⟩
      rw [houtputs, if_pos ⟨rfl, hfits⟩, splitCrc_of_long hlong]
  | atClient =>
      intro data frame rest hconnected hqueue
      obtain ⟨-, -, houtputs⟩ :=
        @Honest.atClient mb tickRateHz net _ data frame rest h hconnected hqueue
      refine ⟨fun hlong => ?_, hnever h.clientFlag⟩
      have hdata : data ≠ [] := by
        rintro rfl
        exact absurd hlong (by decide)
      rw [houtputs, if_pos ⟨rfl, hdata⟩, splitCrc_of_long hlong]
  | accept | connected | disconnect | elsewhere | clientSend | serverSend => trivial

/-- With encryption on it delivers what arrives exactly if nothing arrives that matters. -/
theorem Honest.delivers_sealed_iff (h : Honest true net) (event : TransportEvent) :
    DeliversUnchanged mb tickRateHz net event ↔ ¬ FrameComes net event := by
  cases event with
  | atServer now =>
      constructor
      · rintro hdelivers ⟨fd, data, frame, rest, hfd, hqueue, hfits, hmatters⟩
        obtain ⟨hcall, hreplay⟩ := hdelivers fd data frame rest hfd hqueue hfits
        obtain ⟨-, -, houtputs⟩ :=
          @Honest.atServer mb tickRateHz net _ now fd data frame rest h hfd hqueue
        rcases hmatters with hlong | ⟨hknown, hzero⟩
        · have hcalled := hcall hlong
          rw [houtputs, if_neg (by simp)] at hcalled
          cases hcalled
        · have hshaped := h.toServer
          rw [hqueue, List.forall_mem_cons] at hshaped
          obtain ⟨⟨i, client⟩, hfind⟩ := Option.isSome_iff_exists.mp hknown
          exact hreplay i client hfind
            ⟨h.serverFlag, hshaped.1, by rw [hzero]; exact UInt64.zero_le⟩
      · intro hnot fd data frame rest hfd hqueue hfits
        refine ⟨fun hlong => ?_, fun i client hfind => ?_⟩
        · exact absurd ⟨fd, data, frame, rest, hfd, hqueue, hfits, .inl hlong⟩ hnot
        · rintro ⟨-, -, hle⟩
          rw [h.lastCounter hfd hfind] at hle
          exact hnot ⟨fd, data, frame, rest, hfd, hqueue, hfits,
            .inr ⟨by rw [hfind]; rfl, UInt64.le_zero_iff.mp hle⟩⟩
  | atClient =>
      constructor
      · rintro hdelivers ⟨data, frame, rest, hconnected, hqueue, hmatters⟩
        obtain ⟨hcall, hreplay⟩ := hdelivers data frame rest hconnected hqueue
        obtain ⟨-, -, houtputs⟩ :=
          @Honest.atClient mb tickRateHz net _ data frame rest h hconnected hqueue
        rcases hmatters with hlong | hzero
        · have hcalled := hcall hlong
          rw [houtputs, if_neg (by simp)] at hcalled
          cases hcalled
        · have hshaped := h.toClient
          rw [hqueue, List.forall_mem_cons] at hshaped
          exact hreplay ⟨h.clientFlag, hshaped.1, by rw [hzero]; exact UInt64.zero_le⟩
      · intro hnot data frame rest hconnected hqueue
        refine ⟨fun hlong => ?_, ?_⟩
        · exact absurd ⟨data, frame, rest, hconnected, hqueue, .inl hlong⟩ hnot
        · rintro ⟨-, -, hle⟩
          rw [h.counter rfl hconnected] at hle
          exact hnot ⟨data, frame, rest, hconnected, hqueue, .inr (UInt64.le_zero_iff.mp hle)⟩
  | accept | connected | disconnect | elsewhere | clientSend | serverSend =>
      exact iff_of_true trivial id

end Step

section Order

/-- The data the client put on the wire. -/
def clientData (outputs : List TransportOutput) : List Bytes :=
  outputs.filterMap fun
    | .clientSent data => some data
    | _ => none

/-- The data the server put on the wire. -/
def serverData (outputs : List TransportOutput) : List Bytes :=
  outputs.filterMap fun
    | .serverSent data => some data
    | _ => none

/-- The receive callbacks of the server. -/
def serverCalls (outputs : List TransportOutput) : List (Bytes × UInt32) :=
  outputs.filterMap fun
    | .serverRx payload crc32 => some (payload, crc32)
    | _ => none

/-- The receive callbacks of the client. -/
def clientCalls (outputs : List TransportOutput) : List (Bytes × UInt32) :=
  outputs.filterMap fun
    | .clientRx payload crc32 => some (payload, crc32)
    | _ => none

section Append

variable (first second : List TransportOutput)

theorem clientData_append : clientData (first ++ second) = clientData first ++ clientData second :=
  List.filterMap_append

theorem serverData_append : serverData (first ++ second) = serverData first ++ serverData second :=
  List.filterMap_append

theorem serverCalls_append :
    serverCalls (first ++ second) = serverCalls first ++ serverCalls second :=
  List.filterMap_append

theorem clientCalls_append :
    clientCalls (first ++ second) = clientCalls first ++ clientCalls second :=
  List.filterMap_append

end Append

/-- The callbacks for other connections show nothing of this one. -/
theorem others_quiet (outputs : List WsServerOutput) :
    clientData (outputs.filterMap otherCall) = [] ∧ serverData (outputs.filterMap otherCall) = [] ∧
      serverCalls (outputs.filterMap otherCall) = [] ∧
      clientCalls (outputs.filterMap otherCall) = [] := by
  induction outputs with
  | nil => exact ⟨rfl, rfl, rfl, rfl⟩
  | cons output rest ih => cases output <;> exact ih

/-- The callbacks so far, followed by those of the frames on the way, are callbacks for the data
sent so far, in sending order. -/
structure InOrder (net : Transport) (history : List TransportOutput) : Prop where
  server : (serverCalls history ++ net.toServer.map fun entry => splitCrc true entry.1).Sublist
    ((clientData history).map (splitCrc true))
  client : (clientCalls history ++ net.toClient.map fun entry => splitCrc true entry.1).Sublist
    ((serverData history).map (splitCrc true))

variable {mb : Mbedtls} {tickRateHz : UInt32} {net net' : Transport}
  {history outputs : List TransportOutput} {data frame : Bytes} {rest : List (Bytes × Bytes)}

namespace InOrder

/-- A step that shows nothing of this connection may lose frames. -/
theorem quiet (h : InOrder net history) (htoServer : net'.toServer.Sublist net.toServer)
    (htoClient : net'.toClient.Sublist net.toClient) (hclientData : clientData outputs = [])
    (hserverData : serverData outputs = []) (hserverCalls : serverCalls outputs = [])
    (hclientCalls : clientCalls outputs = []) : InOrder net' (history ++ outputs) := by
  constructor
  · rw [serverCalls_append, clientData_append, hserverCalls, hclientData, List.append_nil,
      List.append_nil]
    exact ((htoServer.map _).append_left _).trans h.server
  · rw [clientCalls_append, serverData_append, hclientCalls, hserverData, List.append_nil,
      List.append_nil]
    exact ((htoClient.map _).append_left _).trans h.client

/-- A step that shows nothing may lose frames. -/
theorem silent (h : InOrder net history) (htoServer : net'.toServer.Sublist net.toServer)
    (htoClient : net'.toClient.Sublist net.toClient) : InOrder net' (history ++ []) :=
  h.quiet htoServer htoClient rfl rfl rfl rfl

theorem clientSend {iv : Vector UInt8 12} {allocated : Bool} {sent : Nat}
    (h : InOrder net history) :
    InOrder (transportStep mb tickRateHz net (.clientSend data iv allocated sent)).1
      (history ++ (transportStep mb tickRateHz net (.clientSend data iv allocated sent)).2) := by
  simp only [transportStep]
  generalize (wsLinkStep mb tickRateHz net.link _).2.filterMap frameSent = frames
  constructor
  · have hserver := h.server.append (List.Sublist.refl (frames.map fun _ => splitCrc true data))
    simpa [serverCalls, clientData, Function.comp_def] using hserver
  · simpa [clientCalls, serverData, Function.comp_def] using h.client

theorem serverSend {iv : Vector UInt8 12} {allocated : Bool} (h : InOrder net history) :
    InOrder (transportStep mb tickRateHz net (.serverSend data iv allocated)).1
      (history ++ (transportStep mb tickRateHz net (.serverSend data iv allocated)).2) := by
  simp only [transportStep]
  generalize (wsServerStep mb tickRateHz net.srv _).2.filterMap (frameTo net.fd) = frames
  constructor
  · simpa [serverCalls, clientData, Function.comp_def] using h.server
  · have hclient := h.client.append (List.Sublist.refl (frames.map fun _ => splitCrc true data))
    simpa [clientCalls, serverData, Function.comp_def] using hclient

/-- The callback of the first frame on the way to the server. -/
theorem serverRx (h : InOrder net history) (hqueue : net.toServer = (data, frame) :: rest)
    (htoServer : net'.toServer = rest) (htoClient : net'.toClient = net.toClient) :
    InOrder net' (history ++ [.serverRx (splitCrc true data).1 (splitCrc true data).2]) := by
  constructor
  · have hserver := h.server
    rw [hqueue] at hserver
    simpa [serverCalls, clientData, htoServer] using hserver
  · simpa [clientCalls, serverData, htoClient] using h.client

/-- The callback of the first frame on the way to the client. -/
theorem clientRx (h : InOrder net history) (hqueue : net.toClient = (data, frame) :: rest)
    (htoClient : net'.toClient = rest) (htoServer : net'.toServer = net.toServer) :
    InOrder net' (history ++ [.clientRx (splitCrc true data).1 (splitCrc true data).2]) := by
  constructor
  · simpa [serverCalls, clientData, htoServer] using h.server
  · have hclient := h.client
    rw [hqueue] at hclient
    simpa [clientCalls, serverData, htoClient] using hclient

end InOrder

/-- A step keeps the order of the callbacks. -/
theorem transportStep_inOrder {event : TransportEvent} {encryptionEnabled : Bool}
    (h : Honest encryptionEnabled net) (horder : InOrder net history) :
    InOrder (transportStep mb tickRateHz net event).1
      (history ++ (transportStep mb tickRateHz net event).2) := by
  have hsame : InOrder net (history ++ []) := horder.silent (.refl _) (.refl _)
  cases event with
  | accept req fd authNow now unixTime =>
      simp only [transportStep]
      split
      · split <;> exact horder.silent (.refl _) (.refl _)
      · exact hsame
  | connected =>
      simp only [transportStep]
      split <;> exact horder.silent (.refl _) (.refl _)
  | elsewhere event =>
      simp only [transportStep]
      split
      · obtain ⟨hclientData, hserverData, hserverCalls, hclientCalls⟩ :=
          others_quiet (wsServerStep mb tickRateHz net.srv event).2
        exact horder.quiet (.refl _) (.refl _) hclientData hserverData hserverCalls hclientCalls
      · exact hsame
  | disconnect =>
      simp only [transportStep]
      split
      · exact hsame
      · exact horder.silent (List.nil_sublist _) (List.nil_sublist _)
  | clientSend => exact horder.clientSend
  | serverSend => exact horder.serverSend
  | atServer now =>
      rcases @atServer_cases mb tickRateHz net now with
        hnothing | ⟨fd, data, frame, rest, hfd, hqueue, hother⟩
      · rwa [hnothing]
      · obtain ⟨-, hrest, houtputs⟩ := @Honest.atServer mb tickRateHz net _ now _ _ _ _ h
          hfd hqueue
        rw [houtputs]
        split
        · exact horder.serverRx hqueue hrest hother
        · refine horder.silent ?_ (by rw [hother])
          rw [hrest, hqueue]
          exact List.sublist_cons_self _ _
  | atClient =>
      rcases @atClient_cases mb tickRateHz net with
        hnothing | ⟨data, frame, rest, hconnected, hqueue, hother⟩
      · rwa [hnothing]
      · obtain ⟨-, hrest, houtputs⟩ :=
          @Honest.atClient mb tickRateHz net _ _ _ _ h hconnected hqueue
        rw [houtputs]
        split
        · exact horder.clientRx hqueue hrest hother
        · refine horder.silent (by rw [hother]) ?_
          rw [hrest, hqueue]
          exact List.sublist_cons_self _ _

end Order

/-- A client and a server that were just started, not connected. -/
def startedTransport (srv : WsServer) (link : WsLink) : Transport :=
  { srv := srv, link := link }

/-- A client and a server started with the same flag for frame encryption are honest ends. -/
theorem startedTransport_honest {mb : Mbedtls} {tickRateHz : UInt32} {outcome : StartOutcome}
    {config : WsServerConfig} {before srv : WsServer} {clientOutcome : ClientStartOutcome}
    {clientConfig : WsClientConfig} {clientBefore link : WsLink}
    (hserver : wsServerStart mb tickRateHz outcome config true before = (.ok, srv))
    (hclient : wsClientStart mb clientOutcome clientConfig true clientBefore = (.ok, link))
    (hflag : clientConfig.enableFrameEncryption = config.enableFrameEncryption) :
    Honest config.enableFrameEncryption (startedTransport srv link) := by
  obtain ⟨hserverFlag, hcallback, -⟩ := wsServerStart_ok hserver
  have hclientFlag := wsClientStart_ok hclient
  obtain ⟨clientCtx, headerBlock, minMs, maxMs, -, -, rfl⟩ := wsClientStart_spec hclient
  refine ⟨hserverFlag, hclientFlag.trans hflag, hcallback, rfl, by simp [startedTransport],
    by simp [startedTransport], fun _ => ⟨rfl, rfl, rfl⟩, fun fd hfd => ?_, fun _ hup => ?_⟩
  · cases hfd
  · cases hup

/-- In a run what arrives is delivered unchanged, and the callbacks of each side are callbacks for
data the other side sent, in sending order. -/
structure RunDelivers (mb : Mbedtls) (tickRateHz : UInt32) (net : Transport)
    (events : List TransportEvent) : Prop where
  unchanged : Machine.EachStep (transportStep mb tickRateHz) (DeliversUnchanged mb tickRateHz) net
    events
  server : (serverCalls (Machine.run (transportStep mb tickRateHz) net events).2).Sublist
    ((clientData (Machine.run (transportStep mb tickRateHz) net events).2).map (splitCrc true))
  client : (clientCalls (Machine.run (transportStep mb tickRateHz) net events).2).Sublist
    ((serverData (Machine.run (transportStep mb tickRateHz) net events).2).map (splitCrc true))

/-- A client and a server started with the same flag for frame encryption: in a run everything is
delivered unchanged and in order if and only if encryption is off, or no frame arrives that has a
CRC field or the counter zero. -/
theorem honest_transport_unchanged_iff {mb : Mbedtls} {tickRateHz : UInt32} {outcome : StartOutcome}
    {config : WsServerConfig} {before srv : WsServer} {clientOutcome : ClientStartOutcome}
    {clientConfig : WsClientConfig} {clientBefore link : WsLink}
    (hserver : wsServerStart mb tickRateHz outcome config true before = (.ok, srv))
    (hclient : wsClientStart mb clientOutcome clientConfig true clientBefore = (.ok, link))
    (hflag : clientConfig.enableFrameEncryption = config.enableFrameEncryption)
    (events : List TransportEvent) :
    RunDelivers mb tickRateHz (startedTransport srv link) events ↔
      config.enableFrameEncryption = false ∨
        Machine.EachStep (transportStep mb tickRateHz) (fun net event => ¬ FrameComes net event)
          (startedTransport srv link) events := by
  have hstart := startedTransport_honest hserver hclient hflag
  have hempty : InOrder (startedTransport srv link) [] := ⟨List.nil_sublist _, List.nil_sublist _⟩
  -- the order is kept whether frames are delivered or not
  have hstep : ∀ net event history,
      Honest config.enableFrameEncryption net ∧ InOrder net history → True →
        Honest config.enableFrameEncryption (transportStep mb tickRateHz net event).1 ∧
          InOrder (transportStep mb tickRateHz net event).1
            (history ++ (transportStep mb tickRateHz net event).2) :=
    fun net event history hinv _ =>
      ⟨transportStep_honest hinv.1, transportStep_inOrder hinv.1 hinv.2⟩
  have hall : Machine.EachStep (transportStep mb tickRateHz) (fun _ _ => True)
      (startedTransport srv link) events := Machine.eachStep_of_all fun _ _ => trivial
  obtain ⟨-, horder⟩ := Machine.run_history hstep ⟨hstart, hempty⟩ hall
  have hiff : RunDelivers mb tickRateHz (startedTransport srv link) events ↔
      Machine.EachStep (transportStep mb tickRateHz) (DeliversUnchanged mb tickRateHz)
        (startedTransport srv link) events :=
    ⟨fun hrun => hrun.unchanged, fun hunchanged => ⟨hunchanged,
      (List.sublist_append_left _ _).trans horder.server,
      (List.sublist_append_left _ _).trans horder.client⟩⟩
  rw [hiff]
  cases hencryption : config.enableFrameEncryption with
  | false =>
      rw [hencryption] at hstart
      refine iff_of_true ?_ (.inl rfl)
      exact Machine.eachStep_of_invariant (fun _ _ hhonest _ => transportStep_honest hhonest)
        (fun _ event hhonest _ => hhonest.delivers event) hstart hall
  | true =>
      rw [hencryption] at hstart
      rw [Machine.eachStep_congr (fun _ _ hhonest => transportStep_honest hhonest)
        (fun _ event hhonest => hhonest.delivers_sealed_iff event) hstart]
      simp

/-- The one message of the examples. -/
def linkData : Bytes := [1, 2, 3, 4]

/-- The mbedTLS of a run in which it is the first message each side seals. -/
def linkMbedtls : Mbedtls := Mbedtls.zero (firstFrameGcm linkData [5, 6, 7, 8] rfl)

/-- Both ends, started with frame encryption or both without. -/
def linkNet (encryptionEnabled : Bool) : Transport :=
  startedTransport
    (wsServerStart linkMbedtls 100 {}
      { gateConfig with enableFrameEncryption := encryptionEnabled } true {}).2
    (wsClientStart linkMbedtls gateOutcome
      { gateClientConfig with enableFrameEncryption := encryptionEnabled } true {}).2

/-- A client connects and each side sends the message, which arrives. -/
def linkEvents : List TransportEvent :=
  [.accept ⟨[]⟩ 7 0 0 0, .connected, .clientSend linkData (Vector.replicate 12 0) true 0,
    .atServer 1, .serverSend linkData (Vector.replicate 12 0) true, .atClient]

theorem linkNet_started (encryptionEnabled : Bool) :
    wsServerStart linkMbedtls 100 {} { gateConfig with enableFrameEncryption := encryptionEnabled }
        true {} = (.ok, (linkNet encryptionEnabled).srv) ∧
      wsClientStart linkMbedtls gateOutcome
        { gateClientConfig with enableFrameEncryption := encryptionEnabled } true {} =
          (.ok, (linkNet encryptionEnabled).link) := by
  cases encryptionEnabled <;> decide

/-- With encryption off both messages are delivered. -/
theorem honest_transport_unchanged_both_ways :
    RunDelivers linkMbedtls 100 (linkNet false) linkEvents ∧
      (Machine.run (transportStep linkMbedtls 100) (linkNet false) linkEvents).2 =
        [.clientSent linkData, .serverRx [] 0x04030201, .serverSent linkData,
          .clientRx [] 0x04030201] := by
  refine ⟨?_, by decide +kernel⟩
  exact (honest_transport_unchanged_iff (linkNet_started false).1 (linkNet_started false).2 rfl
    linkEvents).mpr (.inl rfl)

/-- With encryption on, and an AES-GCM that opens exactly what was sealed, the message of the client
arrives and is not delivered. -/
theorem sealed_message_lost :
    wsServerStart linkMbedtls 100 {} gateConfig true {} = (.ok, (linkNet true).srv) ∧
    wsClientStart linkMbedtls gateOutcome gateClientConfig true {} = (.ok, (linkNet true).link) ∧
    gateClientConfig.cryptoSecret = gateConfig.cryptoSecret ∧
    linkMbedtls.toGcm.Ideal plainContext.frameKey [(firstFrame [5, 6, 7, 8], linkData)] ∧
    (Machine.run (transportStep linkMbedtls 100) (linkNet true) (linkEvents.take 4)).2 =
      [.clientSent linkData] ∧
    ¬ RunDelivers linkMbedtls 100 (linkNet true) (linkEvents.take 4) := by
  refine ⟨(linkNet_started true).1, (linkNet_started true).2, rfl,
    @firstFrameGcm_ideal linkData [5, 6, 7, 8] rfl, by decide +kernel, fun hrun => ?_⟩
  obtain ⟨-, -, -, hdelivers, -⟩ := hrun.unchanged
  have hcall := (hdelivers 7 linkData (firstFrame [5, 6, 7, 8]) [] (by decide +kernel)
    (by decide +kernel) (by decide +kernel)).1 (by decide)
  revert hcall
  decide +kernel

end SensorHmi
