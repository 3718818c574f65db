import SensorHmi.Net.SealedSession
import SensorHmi.Net.WsClient
import SensorHmi.Net.WsServerStep

/-!
# Frame encryption at the receive callback

With frame encryption on, which payloads reach the receive callback of the server and of the
client. Both handlers decrypt binary frames only, and open none of them; any other frame falls
through to the callback as it came. So every payload comes from an opened frame exactly in the runs
without such a frame: `callback_decrypted_iff`. The two step lemmas carry the argument, one for each
handler; the runs follow because no event changes the security settings.
-/

namespace SensorHmi

/-- The payload and its CRC field are what the frame opens to after the given counter. -/
def OpensTo (gcm : Gcm) (ctx : WsSecurityContext) (counter : UInt64) (frame payload : Bytes)
    (crc32 : UInt32) : Prop :=
  ∃ plaintext counter', wsSecurityDecrypt gcm ctx frame counter = (.ok plaintext, counter') ∧
    splitCrc true plaintext = (payload, crc32)

/-- With encryption on no frame opens. -/
theorem not_opensTo {gcm : Gcm} {ctx : WsSecurityContext} {counter : UInt64}
    {frame payload : Bytes} {crc32 : UInt32} (henabled : ctx.encryptionEnabled = true) :
    ¬ OpensTo gcm ctx counter frame payload crc32 := by
  rintro ⟨plaintext, counter', hdecrypt, -⟩
  rw [(wsSecurityDecrypt_eq_ok_iff.mp hdecrypt).1] at henabled
  cases henabled

section Server

/-- The payload comes from the plaintext that the event's own frame opens to. -/
def ServerDecrypted (mb : Mbedtls) (srv : WsServer) (event : WsServerEvent) (payload : Bytes)
    (crc32 : UInt32) : Prop :=
  ∃ fd recv now i client, event = .frame fd recv now ∧ findClient srv fd = some (i, client) ∧
    OpensTo mb.toGcm srv.securityCtx client.lastCounter recv.payload payload crc32

/-- Every payload the server hands to its callback at this event was decrypted. -/
def ServerCallbackDecrypted (mb : Mbedtls) (tickRateHz : UInt32) (srv : WsServer)
    (event : WsServerEvent) : Prop :=
  ∀ payload crc32, .rxCb payload crc32 ∈ (wsServerStep mb tickRateHz srv event).2 →
    ServerDecrypted mb srv event payload crc32

/-- A frame that arrives from a connected client at a server with a callback and is neither
binary nor a control frame answered by the server itself. -/
def ServerClearFrame (srv : WsServer) (event : WsServerEvent) : Prop :=
  ∃ fd recv now, event = .frame fd recv now ∧ FrameArrives srv recv ∧
    (findClient srv fd).isSome = true ∧ srv.hasRxCb = true ∧
    recv.type ≠ .binary ∧ recv.type ≠ .ping ∧ recv.type ≠ .pong

theorem serverClearFrame_iff {srv : WsServer} {fd : Int} {recv : WsRecv} {now : TickType} :
    ServerClearFrame srv (.frame fd recv now) ↔ FrameArrives srv recv ∧
      (findClient srv fd).isSome = true ∧ srv.hasRxCb = true ∧ recv.type ≠ .binary ∧
      recv.type ≠ .ping ∧ recv.type ≠ .pong := by
  constructor
  · rintro ⟨fd', recv', now', heq, hclear⟩
    cases heq
    exact hclear
  · exact fun hclear => ⟨fd, recv, now, rfl, hclear⟩

instance (srv : WsServer) (event : WsServerEvent) : Decidable (ServerClearFrame srv event) :=
  match event with
  | .frame _ _ _ => decidable_of_iff _ serverClearFrame_iff.symm
  | .get _ _ _ _ _ => isFalse fun ⟨_, _, _, heq, _⟩ => by cases heq
  | .closed _ => isFalse fun ⟨_, _, _, heq, _⟩ => by cases heq
  | .pingTimer _ _ => isFalse fun ⟨_, _, _, heq, _⟩ => by cases heq
  | .send _ _ _ _ => isFalse fun ⟨_, _, _, heq, _⟩ => by cases heq

/-- With encryption on, a received frame calls the callback once if it comes in the clear, and else
not at all. -/
theorem FrameCase.callbacks {mb : Mbedtls} {srv srv' : WsServer} {fd : Int} {recv : WsRecv}
    {now : TickType} {outputs : List WsServerOutput}
    (henabled : srv.securityCtx.encryptionEnabled = true)
    (h : FrameCase mb srv fd recv (srv', outputs)) :
    outputs.countP WsServerOutput.isRxCb =
      if ServerClearFrame srv (.frame fd recv now) then 1 else 0 := by
  simp only [serverClearFrame_iff]
  cases h with
  | refused hrefused =>
      rw [if_neg]
      · rfl
      · rintro ⟨harrives, hknown, -⟩
        rcases hrefused with hnot | hunknown
        · exact hnot harrives
        · rw [hunknown] at hknown
          cases hknown
  | handled _ _ _ houtputs hkind =>
      rw [if_neg]
      · rcases houtputs with rfl | rfl <;> rfl
      · rintro ⟨-, -, hcallback, hbinary, hping, hpong⟩
        rcases hkind with h | h | h | h
        · exact hpong h
        · exact hping h
        · rw [h] at hcallback
          cases hcallback
        · exact hbinary h
  | @rejected i client client' _ _ _ _ _ hbinary =>
      rw [if_neg fun hclear => hclear.2.2.2.1 hbinary, List.countP_eq_zero]
      intro output hmem
      rcases List.mem_cons.mp hmem with rfl | hdrop
      · simp [WsServerOutput.isRxCb]
      · have hsilent := (dropClientLocked_housekeeping (srv.setClient i client') fd).silent
        simp [hsilent output hdrop]
  | opened _ _ _ _ _ hdecrypt =>
      rw [(wsSecurityDecrypt_eq_ok_iff.mp hdecrypt).1] at henabled
      cases henabled
  | clear harrives hfind _ _ hcallback hpong hping hclear =>
      rw [if_pos ⟨harrives, by simp [hfind], hcallback, fun h => hclear ⟨henabled, h⟩, hping,
        hpong⟩]
      rfl

/-- With encryption on, the callback is called once by a frame in the clear and by no other
event. -/
theorem countP_rxCb {mb : Mbedtls} {tickRateHz : UInt32} {srv : WsServer} {event : WsServerEvent}
    (henabled : srv.securityCtx.encryptionEnabled = true) :
    (wsServerStep mb tickRateHz srv event).2.countP WsServerOutput.isRxCb =
      if ServerClearFrame srv event then 1 else 0 := by
  rcases wsServerStep_cases mb tickRateHz srv event with ⟨_, _, _, rfl, hcase⟩ | ⟨hother, hkeep⟩
  · exact FrameCase.callbacks henabled hcase
  · rw [if_neg, List.countP_eq_zero]
    · intro output hmem
      simp [hkeep.silent output hmem]
    · rintro ⟨fd, recv, now, heq, -⟩
      exact hother fd recv now heq

/-- With encryption on, an event hands on only decrypted payloads if and only if it is no frame
in the clear. -/
theorem serverCallbackDecrypted_iff {mb : Mbedtls} {tickRateHz : UInt32} {srv : WsServer}
    {event : WsServerEvent} (henabled : srv.securityCtx.encryptionEnabled = true) :
    ServerCallbackDecrypted mb tickRateHz srv event ↔ ¬ ServerClearFrame srv event := by
  have hcount := @countP_rxCb mb tickRateHz srv event henabled
  constructor
  · intro hdecrypted hclear
    rw [if_pos hclear] at hcount
    obtain ⟨output, hmem, hcall⟩ := List.countP_pos_iff.mp (by rw [hcount]; exact Nat.one_pos)
    cases output with
    | rxCb payload crc32 =>
        obtain ⟨fd, recv, now, i, client, -, -, hopens⟩ := hdecrypted payload crc32 hmem
        exact not_opensTo henabled hopens
    | _ => cases hcall
  · intro hnot payload crc32 hmem
    rw [if_neg hnot] at hcount
    exact absurd rfl (List.countP_eq_zero.mp hcount _ hmem)

/-- The law over a run of a server with encryption on. -/
theorem server_run_decrypted_iff {mb : Mbedtls} {tickRateHz : UInt32} {srv : WsServer}
    (henabled : srv.securityCtx.encryptionEnabled = true) (events : List WsServerEvent) :
    Machine.EachStep (wsServerStep mb tickRateHz) (ServerCallbackDecrypted mb tickRateHz) srv
        events ↔
      Machine.EachStep (wsServerStep mb tickRateHz) (fun srv event => ¬ ServerClearFrame srv event)
        srv events := by
  have hstep : ∀ srv event, srv.securityCtx.encryptionEnabled = true →
      (wsServerStep mb tickRateHz srv event).1.securityCtx.encryptionEnabled = true := by
    intro srv event hon
    rw [(wsServerStep_settings mb tickRateHz srv event).encryptionEnabled]
    exact hon
  exact Machine.eachStep_congr hstep (fun _ _ hon => serverCallbackDecrypted_iff hon) henabled

end Server

section Client

/-- The payload comes from the plaintext that the data of this very event opens to. -/
def ClientDecrypted (mb : Mbedtls) (link : WsLink) (event : WsLinkEvent) (payload : Bytes)
    (crc32 : UInt32) : Prop :=
  ∃ opCode data, event = .transport (.data opCode data) ∧
    OpensTo mb.toGcm link.securityCtx link.rxCounter data payload crc32

/-- Every payload the client hands to its callback at this event was decrypted. -/
def ClientCallbackDecrypted (mb : Mbedtls) (tickRateHz : UInt32) (link : WsLink)
    (event : WsLinkEvent) : Prop :=
  ∀ payload crc32, .rxCb payload crc32 ∈ (wsLinkStep mb tickRateHz link event).2 →
    ClientDecrypted mb link event payload crc32

/-- A data event with data and another opcode than binary, at a client with a callback. -/
def ClientClearFrame (link : WsLink) (event : WsLinkEvent) : Prop :=
  ∃ opCode data, event = .transport (.data opCode data) ∧ link.hasRxCb = true ∧ data ≠ [] ∧
    opCode ≠ wsTransportOpcodesBinary

/-- What a data event does to a client with a callback and encryption on. -/
theorem data_outputs {mb : Mbedtls} {tickRateHz : UInt32} {link : WsLink} {opCode : UInt8}
    {data : Bytes} (henabled : link.securityCtx.encryptionEnabled = true)
    (hcallback : link.hasRxCb = true) (hdata : data ≠ []) :
    (wsLinkStep mb tickRateHz link (.transport (.data opCode data))).2 =
      if opCode = wsTransportOpcodesBinary then [] else [.rxCb data 0] := by
  have hempty : data.isEmpty = false := by simpa using hdata
  simp only [wsLinkStep, websocketEventHandler, hcallback, hempty, henabled, Bool.not_true,
    Bool.or_false, Bool.false_eq_true, if_false, Bool.true_and]
  by_cases hbinary : opCode = wsTransportOpcodesBinary
  · obtain ⟨err, hrefused⟩ := @wsSecurityDecrypt_sealed mb.toGcm link.securityCtx data
      link.rxCounter henabled
    rw [if_pos (by simpa using hbinary), if_pos hbinary, hrefused]
  · rw [if_neg (by simpa using hbinary), if_neg hbinary]
    simp [splitCrc, hbinary]

/-- Only a data event with data at a client with a callback calls the callback. -/
theorem data_of_rxCb {mb : Mbedtls} {tickRateHz : UInt32} {link : WsLink} {event : WsLinkEvent}
    {payload : Bytes} {crc32 : UInt32}
    (h : .rxCb payload crc32 ∈ (wsLinkStep mb tickRateHz link event).2) :
    ∃ opCode data, event = .transport (.data opCode data) ∧ link.hasRxCb = true ∧ data ≠ [] := by
  cases event with
  | reconnectTimer nonce unixTime allocated =>
      simp only [wsLinkStep, reconnectTimerCb] at h
      split at h
      · split at h
        · split at h <;> simp at h
        · simp at h
      · simp at h
  | send data iv allocated sent =>
      simp only [wsLinkStep, wsClientSend] at h
      split at h
      · simp at h
      · split at h
        · simp at h
        · split at h <;> simp at h
  | transport event =>
      cases event with
      | data opCode data =>
          refine ⟨opCode, data, rfl, ?_⟩
          by_contra hnot
          have hsilent : (!link.hasRxCb || data.isEmpty) = true := by
            simp only [not_and_or, not_not] at hnot
            rcases hnot with hnone | rfl
            · simp [hnone]
            · simp
          simp [wsLinkStep, websocketEventHandler, hsilent] at h
      | connected | other => simp [wsLinkStep, websocketEventHandler] at h
      | disconnected =>
          simp only [wsLinkStep, websocketEventHandler] at h
          split at h
          · split at h <;> simp at h
          · simp at h
      | error hasData =>
          simp only [wsLinkStep, websocketEventHandler] at h
          split at h <;> simp at h

/-- With encryption on, an event hands on only decrypted payloads if and only if it carries no
data in the clear. -/
theorem clientCallbackDecrypted_iff {mb : Mbedtls} {tickRateHz : UInt32} {link : WsLink}
    {event : WsLinkEvent} (henabled : link.securityCtx.encryptionEnabled = true) :
    ClientCallbackDecrypted mb tickRateHz link event ↔ ¬ ClientClearFrame link event := by
  constructor
  · rintro hdecrypted ⟨opCode, data, rfl, hcallback, hdata, hopCode⟩
    have hmem : .rxCb data 0 ∈
      (wsLinkStep mb tickRateHz link (.transport (.data opCode data))).2 := by
      rw [data_outputs henabled hcallback hdata, if_neg hopCode]
      exact List.mem_singleton.mpr rfl
    obtain ⟨opCode', data', heq, hopens⟩ := hdecrypted data 0 hmem
    cases heq
    exact not_opensTo henabled hopens
  · intro hnot payload crc32 hmem
    obtain ⟨opCode, data, rfl, hcallback, hdata⟩ := data_of_rxCb hmem
    have hbinary : opCode = wsTransportOpcodesBinary := by
      by_contra hopCode
      exact hnot ⟨opCode, data, rfl, hcallback, hdata, hopCode⟩
    rw [data_outputs henabled hcallback hdata, if_pos hbinary] at hmem
    cases hmem

/-- No event turns the encryption of a started client on or off. -/
theorem wsLinkStep_encryptionEnabled (mb : Mbedtls) (tickRateHz : UInt32) (link : WsLink)
    (event : WsLinkEvent) :
    (wsLinkStep mb tickRateHz link event).1.securityCtx.encryptionEnabled =
      link.securityCtx.encryptionEnabled := by
  obtain ⟨txCounter, hctx⟩ := (wsLinkStep_keeps mb tickRateHz link event).securityCtx
  rw [hctx]

/-- The law over a run of a client with encryption on. -/
theorem client_run_decrypted_iff {mb : Mbedtls} {tickRateHz : UInt32} {link : WsLink}
    (henabled : link.securityCtx.encryptionEnabled = true) (events : List WsLinkEvent) :
    Machine.EachStep (wsLinkStep mb tickRateHz) (ClientCallbackDecrypted mb tickRateHz) link
        events ↔
      Machine.EachStep (wsLinkStep mb tickRateHz) (fun link event => ¬ ClientClearFrame link event)
        link events := by
  have hstep : ∀ link event, link.securityCtx.encryptionEnabled = true →
      (wsLinkStep mb tickRateHz link event).1.securityCtx.encryptionEnabled = true := by
    intro link event hon
    rw [wsLinkStep_encryptionEnabled]
    exact hon
  exact Machine.eachStep_congr hstep (fun _ _ hon => clientCallbackDecrypted_iff hon) henabled

/-- A client that was started has the encryption its settings ask for. -/
theorem wsClientStart_ok {mb : Mbedtls} {outcome : ClientStartOutcome} {config : WsClientConfig}
    {hasRxCb : Bool} {before link : WsLink}
    (h : wsClientStart mb outcome config hasRxCb before = (.ok, link)) :
    link.securityCtx.encryptionEnabled = config.enableFrameEncryption := by
  obtain ⟨ctx, headerBlock, minMs, maxMs, hinit, -, rfl⟩ := wsClientStart_spec h
  exact (wsSecurityContextInit_spec hinit).encryption

end Client

/-- In every run of a server and in every run of a client started with frame encryption, each
payload handed to the receive callback was decrypted from the frame at hand, if and only if no
frame in the clear arrives. -/
theorem callback_decrypted_iff (mb : Mbedtls) (tickRateHz : UInt32) :
    (∀ (outcome : StartOutcome) (config : WsServerConfig) (hasRxCb : Bool) (before srv : WsServer),
      wsServerStart mb tickRateHz outcome config hasRxCb before = (.ok, srv) →
      config.enableFrameEncryption = true →
      ∀ events, Machine.EachStep (wsServerStep mb tickRateHz)
          (ServerCallbackDecrypted mb tickRateHz) srv events ↔
        Machine.EachStep (wsServerStep mb tickRateHz)
          (fun srv event => ¬ ServerClearFrame srv event) srv events) ∧
    (∀ (outcome : ClientStartOutcome) (config : WsClientConfig) (hasRxCb : Bool)
      (before link : WsLink), wsClientStart mb outcome config hasRxCb before = (.ok, link) →
      config.enableFrameEncryption = true →
      ∀ events, Machine.EachStep (wsLinkStep mb tickRateHz)
          (ClientCallbackDecrypted mb tickRateHz) link events ↔
        Machine.EachStep (wsLinkStep mb tickRateHz)
          (fun link event => ¬ ClientClearFrame link event) link events) := by
  constructor
  · intro outcome config hasRxCb before srv hstart henabled events
    have hon := (wsServerStart_ok hstart).1
    exact server_run_decrypted_iff (hon.trans henabled) events
  · intro outcome config hasRxCb before link hstart henabled events
    have hon := wsClientStart_ok hstart
    exact client_run_decrypted_iff (hon.trans henabled) events

/-- The mbedTLS of a session in which one frame was sealed, with all keys zero. -/
def gateMbedtls : Mbedtls := Mbedtls.zero (firstFrameGcm [1, 2] [5, 6] rfl)

/-- Settings with frame encryption and without any authorization. -/
def gateConfig : WsServerConfig :=
  { serverCert := [1], serverKey := [1], cryptoSecret := [1], enableFrameEncryption := true }

/-- The server started with these settings. -/
def gateServer : WsServer := (wsServerStart gateMbedtls 100 {} gateConfig true {}).2

/-- Settings of a client with frame encryption. -/
def gateClientConfig : WsClientConfig :=
  { uri := [1], cryptoSecret := [1], enableFrameEncryption := true }

/-- What `ws_client_start` meets: an all-zero nonce, and nothing fails. -/
def gateOutcome : ClientStartOutcome := { nonce := Vector.replicate 16 0 }

/-- The client started with these settings. -/
def gateLink : WsLink := (wsClientStart gateMbedtls gateOutcome gateClientConfig true {}).2

/-- A client connects and sends one frame. -/
def gateEvents (type : WsType) (payload : Bytes) : List WsServerEvent :=
  [.get ⟨[]⟩ 7 0 0 0, .frame 7 { type := type, payload := payload } 1]

/-- The sealed frame is refused, at the server, which drops the client, and at the client. -/
theorem callback_decrypted_sealed :
    (Machine.EachStep (wsServerStep gateMbedtls 100) (ServerCallbackDecrypted gateMbedtls 100)
      gateServer (gateEvents .binary (firstFrame [5, 6])) ∧
    (Machine.run (wsServerStep gateMbedtls 100) gateServer
      (gateEvents .binary (firstFrame [5, 6]))).2 = [.registered 7, .triggerClose 7, .removed 7]) ∧
    (Machine.EachStep (wsLinkStep gateMbedtls 100) (ClientCallbackDecrypted gateMbedtls 100)
      gateLink [.transport (.data 2 (firstFrame [5, 6]))] ∧
    (Machine.run (wsLinkStep gateMbedtls 100) gateLink
      [.transport (.data 2 (firstFrame [5, 6]))]).2 = []) := by
  have hserver : wsServerStart gateMbedtls 100 {} gateConfig true {} = (.ok, gateServer) := by
    decide
  have hclient : wsClientStart gateMbedtls gateOutcome gateClientConfig true {} =
      (.ok, gateLink) := by
    decide
  refine ⟨⟨?_, by decide⟩, ?_, by decide⟩
  · refine ((callback_decrypted_iff gateMbedtls 100).1 _ _ _ _ _ hserver rfl _).mpr
      ⟨?_, ?_, trivial⟩
    · rintro ⟨fd, recv, now, heq, -⟩
      cases heq
    · rintro ⟨fd, recv, now, heq, -, -, -, hbinary, -⟩
      cases heq
      exact hbinary rfl
  · refine ((callback_decrypted_iff gateMbedtls 100).2 _ _ _ _ _ hclient rfl _).mpr ⟨?_, trivial⟩
    rintro ⟨opCode, data, heq, -, -, hopCode⟩
    cases heq
    exact hopCode rfl

/-- A text frame is delivered as it came. -/
theorem text_frame_not_decrypted :
    wsServerStart gateMbedtls 100 {} gateConfig true {} = (.ok, gateServer) ∧
    (Machine.run (wsServerStep gateMbedtls 100) gateServer (gateEvents .text [65])).2 =
      [.registered 7, .rxCb [65] 0] ∧
    ¬ Machine.EachStep (wsServerStep gateMbedtls 100) (ServerCallbackDecrypted gateMbedtls 100)
      gateServer (gateEvents .text [65]) := by
  refine ⟨by decide, by decide, ?_⟩
  rintro ⟨-, hframe, -⟩
  refine (serverCallbackDecrypted_iff (by decide)).mp hframe ?_
  exact ⟨7, _, 1, rfl, ⟨rfl, by decide, rfl⟩, by decide, rfl, by decide, by decide, by decide⟩

end SensorHmi
