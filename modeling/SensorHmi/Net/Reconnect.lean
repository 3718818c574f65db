import SensorHmi.Net.HandshakeHeaders

/-!
# Reconnects of the client

Runs of a started client through `reconnect_timer_cb`. The transport library copies the header text
in `client_init`, so every later `client_start` presents the copy made at the start, and handshakes
are fresh as long as there is no later one (`handshakes_fresh_iff`). The timer is one-shot and only
DISCONNECTED arms it, so the client stays on its way online as long as no firing fails while it is
offline (`never_stuck_offline_iff`).
-/

namespace SensorHmi

open Octets

section Copy

/-- A client and the header text its transport handle was configured with. -/
structure ClientHandle where
  link : WsLink
  headers : Bytes

/-- One event of a started client: each `client_start` presents the header text of the handle. -/
def handleStep (mb : Mbedtls) (tickRateHz : UInt32) (handle : ClientHandle) (event : WsLinkEvent) :
    ClientHandle × List Bytes :=
  let (link, outputs) := wsLinkStep mb tickRateHz handle.link event
  ({ handle with link := link }, outputs.filterMap fun output =>
    match output with
    | .clientStart _ => some handle.headers
    | _ => none)

/-- The header texts in force at the calls of `client_start`: the one of `ws_client_start`, and
those of the run behind it. -/
def presentedTexts (mb : Mbedtls) (tickRateHz : UInt32) (link : WsLink)
    (events : List WsLinkEvent) : List Bytes :=
  link.headerText :: (Machine.run (handleStep mb tickRateHz) ⟨link, link.headerText⟩ events).2

/-- The text has a line with this field. -/
def Carries (text name value : Bytes) : Prop :=
  HeaderLines.line name value <:+: text

/-- The text carries a nonce and a signature that no earlier text carries. -/
def FreshAmong (earlier : List Bytes) (text : Bytes) : Prop :=
  ∃ nonce signature, Carries text (ascii "X-WS-Nonce") nonce ∧
    Carries text (ascii "X-WS-Signature") signature ∧
    ∀ old ∈ earlier, ¬ Carries old (ascii "X-WS-Nonce") nonce ∧
      ¬ Carries old (ascii "X-WS-Signature") signature

/-- Every text is fresh among those before it. -/
def AllFresh (texts : List Bytes) : Prop :=
  ∀ earlier text later, texts = earlier ++ text :: later → FreshAmong earlier text

/-- The event is a firing of the reconnect timer. -/
def WsLinkEvent.isTimer : WsLinkEvent → Bool
  | .reconnectTimer _ _ _ => true
  | _ => false

variable {mb : Mbedtls} {tickRateHz : UInt32} {handle : ClientHandle} {event : WsLinkEvent}

/-- What a run of a started client keeps, with the header text of the start. -/
structure ClientHandle.Started (ctx : WsSecurityContext) (token headers : Bytes)
    (handle : ClientHandle) : Prop where
  client : handle.link.client = true
  shouldRun : handle.link.shouldRun = true
  prepared : handle.link.Prepared ctx token
  held : handle.link.headerLen ≠ 0 → handle.link.headerBlock.isSome = true
  headers_eq : handle.headers = headers

theorem ClientHandle.Started.step {ctx : WsSecurityContext} {token headers : Bytes}
    (h : handle.Started ctx token headers) :
    (handleStep mb tickRateHz handle event).1.Started ctx token headers := by
  have hkeeps := wsLinkStep_keeps mb tickRateHz handle.link event
  refine ⟨hkeeps.client.trans h.client, hkeeps.shouldRun.trans h.shouldRun,
    h.prepared.keeps hkeeps, ?_, h.headers_eq⟩
  intro hlen
  exact hkeeps.headerBlock (h.held (by rwa [← hkeeps.headerLen]))

/-- Only a firing of the timer calls `client_start`. -/
theorem presents_of_not_timer (h : event.isTimer = false) :
    (handleStep mb tickRateHz handle event).2 = [] := by
  refine List.filterMap_eq_nil_iff.mpr fun output hmem => ?_
  cases event with
  | reconnectTimer => cases h
  | transport event =>
      cases event with
      | connected | other => cases hmem
      | disconnected =>
          simp only [websocketEventHandler] at hmem
          split at hmem
          · have houtputs : output ∈ [WsLinkOutput.timerPeriod (pdMsToTicks tickRateHz
                (min handle.link.reconnectDelayMs handle.link.reconnectMaxMs)), .timerStart] := by
              split at hmem <;> exact hmem
            rcases List.mem_cons.mp houtputs with rfl | hlast
            · rfl
            · rw [List.mem_singleton.mp hlast]
          · cases hmem
      | data opCode payload =>
          simp only [websocketEventHandler] at hmem
          split at hmem
          · cases hmem
          split at hmem
          · split at hmem
            · cases hmem
            · rw [List.mem_singleton.mp hmem]
          · rw [List.mem_singleton.mp hmem]
      | error hasData =>
          simp only [websocketEventHandler] at hmem
          split at hmem
          · rw [List.mem_singleton.mp hmem]
          · cases hmem
  | send data iv allocated sent =>
      simp only [wsClientSend] at hmem
      split at hmem
      · cases hmem
      split at hmem
      · cases hmem
      split at hmem
      · cases hmem
      · rw [List.mem_singleton.mp hmem]

/-- A firing of the timer calls `client_start`, with the copy. -/
theorem presents_of_timer (hmb : mb.Lawful) {ctx : WsSecurityContext} {token headers : Bytes}
    (hvalid : ctx.totpEnabled = true → (totpConfig ctx).Valid)
    (hstarted : handle.Started ctx token headers) (h : event.isTimer = true) :
    (handleStep mb tickRateHz handle event).2 = [headers] := by
  cases event with
  | transport | send => cases h
  | reconnectTimer nonce unixTime allocated =>
      obtain ⟨signature, code, -, -, -, hregenerate⟩ :=
        @regenerateHeaders_text mb _ ctx token nonce unixTime hmb hstarted.prepared hvalid allocated
          fun hlen => .inl (hstarted.held hlen)
      simp only [handleStep, wsLinkStep, reconnectTimerCb, hstarted.client, hstarted.shouldRun,
        Bool.and_self, if_true, hregenerate]
      split
      · simp [hstarted.headers_eq]
      · simp [hstarted.headers_eq]

/-- The fields of a handshake are lines of the text of a header block. -/
theorem carries_headerFields {ctx : WsSecurityContext} {token : Bytes} {nonce : Vector UInt8 16}
    {signature : Vector UInt8 32} {code : UInt32} (hon : ctx.handshakeEnabled = true)
    {name value : Bytes} (hmem : (name, value) ∈ handshakeFields mb nonce signature) :
    Carries (HeaderLines.text (headerFields mb ctx token nonce signature code)) name value := by
  have hfield : (name, value) ∈ headerFields mb ctx token nonce signature code := by
    refine List.mem_append_left _ (List.mem_append_right _ ?_)
    rwa [if_pos hon]
  obtain ⟨before, after, hsplit⟩ := List.append_of_mem hfield
  refine ⟨HeaderLines.text before, HeaderLines.text after, ?_⟩
  rw [hsplit]
  simp only [HeaderLines.text, List.flatMap_append, List.flatMap_cons, List.append_assoc]

/-- In every run of a client that was started with handshakes on, each call of `client_start`
presents a nonce and a signature that no earlier call presented, if and only if the reconnect timer
does not fire. -/
theorem handshakes_fresh_iff (hmb : mb.Lawful) {outcome : ClientStartOutcome}
    {config : WsClientConfig} {hasRxCb : Bool} {before link : WsLink}
    (hstart : wsClientStart mb outcome config hasRxCb before = (.ok, link))
    (hon : config.enableHandshakeToken = true) (events : List WsLinkEvent) :
    AllFresh (presentedTexts mb tickRateHz link events) ↔
      ∀ event ∈ events, event.isTimer = false := by
  obtain ⟨ctx, hctx, hprepared, hheld⟩ := wsClientStart_prepared hstart
  have hstarted : ClientHandle.Started ctx config.authToken link.headerText
      ⟨link, link.headerText⟩ := by
    obtain ⟨_, _, _, _, -, -, hlink⟩ := wsClientStart_spec hstart
    refine ⟨?_, ?_, hprepared, hheld, rfl⟩
    · rw [hlink]
    · rw [hlink]
  constructor
  · intro hfresh event hmem
    by_contra htimer
    rw [Bool.not_eq_false] at htimer
    obtain ⟨first, later, rfl⟩ := List.append_of_mem hmem
    have hreached := @Machine.run_invariant _ _ _ (handleStep mb tickRateHz) _ first
      (fun handle => handle.Started ctx config.authToken link.headerText) (fun _ => True)
      (fun _ _ hinv _ => hinv.step) hstarted fun _ _ => trivial
    -- the firing presents the copy that the start presented
    have htexts : ∃ middle rest, presentedTexts mb tickRateHz link (first ++ event :: later) =
        (link.headerText :: middle) ++ link.headerText :: rest := by
      rw [presentedTexts, Machine.run_append, Machine.run_cons,
        presents_of_timer hmb hctx.valid hreached htimer]
      exact ⟨_, _, rfl⟩
    obtain ⟨middle, rest, hsplit⟩ := htexts
    obtain ⟨nonce, signature, hnonce, -, hnew⟩ := hfresh _ _ _ hsplit
    exact (hnew _ List.mem_cons_self).1 hnonce
  · intro hquiet
    have hsilent : (Machine.run (handleStep mb tickRateHz) ⟨link, link.headerText⟩ events).2 =
        [] := by
      refine List.eq_nil_iff_forall_not_mem.mpr fun text hmem => ?_
      obtain ⟨first, event, later, rfl, hnow⟩ := Machine.mem_outputs hmem
      rw [presents_of_not_timer (hquiet event (by simp))] at hnow
      cases hnow
    intro earlier text later hsplit
    rw [presentedTexts, hsilent] at hsplit
    obtain ⟨ctx', signature, code, henabled, htext⟩ := wsClientStart_headerText hmb hstart hon
    cases earlier with
    | cons first rest => simp at hsplit
    | nil =>
        obtain ⟨rfl, -⟩ := List.cons.inj hsplit
        rw [htext]
        exact ⟨_, _, carries_headerFields henabled List.mem_cons_self,
          carries_headerFields henabled (List.mem_cons_of_mem _ (List.mem_singleton_self _)),
          fun _ hmem => absurd hmem List.not_mem_nil⟩

/-- A client with handshakes on. -/
def copyConfig : WsClientConfig :=
  { uri := [1], cryptoSecret := [1], enableHandshakeToken := true }

/-- An mbedTLS whose signature is the front of the nonce. -/
def copyMbedtls : Mbedtls :=
  Mbedtls.ofHmac .empty
    (fun _ message => (Vector.replicate 32 0).setIfInBounds 0 (message.getD 0 0))
    (fun _ _ => Vector.replicate 20 0)

/-- The client as it starts, with a nonce of sevens. -/
def copyLink : WsLink :=
  (wsClientStart copyMbedtls { nonce := Vector.replicate 16 7 } copyConfig true {}).2

/-- The handshake of a client that connects once is fresh. -/
theorem handshakes_fresh_one_connection :
    AllFresh (presentedTexts copyMbedtls 100 copyLink
      [.transport .connected, .transport .disconnected]) := by
  have hstart : wsClientStart copyMbedtls { nonce := Vector.replicate 16 7 } copyConfig true {} =
      (.ok, copyLink) := by
    decide +kernel
  refine (handshakes_fresh_iff (Mbedtls.ofHmac_lawful _ _ _) hstart rfl _).mpr ?_
  decide

/-- The client reconnects, with a nonce of eights drawn for it, and presents the nonce of sevens
again. -/
theorem handshake_presented_again :
    wsClientStart copyMbedtls { nonce := Vector.replicate 16 7 } copyConfig true {} =
        (.ok, copyLink) ∧
      ¬ AllFresh (presentedTexts copyMbedtls 100 copyLink
        [.transport .connected, .transport .disconnected,
          .reconnectTimer (Vector.replicate 16 8) 0 true]) := by
  refine ⟨by decide +kernel, fun hfresh => ?_⟩
  have htexts : presentedTexts copyMbedtls 100 copyLink [.transport .connected,
      .transport .disconnected, .reconnectTimer (Vector.replicate 16 8) 0 true] =
        [copyLink.headerText] ++ copyLink.headerText :: [] := by
    decide +kernel
  obtain ⟨nonce, signature, hnonce, -, hnew⟩ := hfresh _ _ _ htexts
  exact (hnew _ List.mem_cons_self).1 hnonce

end Copy

section Offline

/-- A started client, whether a connection attempt is in progress, and whether the one-shot
reconnect timer is armed. -/
structure ReconnectState where
  link : WsLink
  connecting : Bool
  armed : Bool

/-- An event of the transport, or a firing of the reconnect timer; a firing comes with the
cryptography that answers in it and with the result of `client_start`. -/
inductive ReconnectEvent
  | transport (mb : Mbedtls) (event : WebsocketEvent)
  | timerFires (mb : Mbedtls) (nonce : Vector UInt8 16) (unixTime : UInt64) (allocated : Bool)
      (startResult : EspErr)

/-- The event ends a connection attempt, by success or by failure. -/
def WebsocketEvent.endsAttempt : WebsocketEvent → Bool
  | .connected | .disconnected => true
  | _ => false

/-- The output is a call of `client_start`. -/
def WsLinkOutput.isStart : WsLinkOutput → Bool
  | .clientStart _ => true
  | _ => false

/-- One event; a timer that is not armed does not fire. -/
def reconnectStep (tickRateHz : UInt32) (state : ReconnectState) :
    ReconnectEvent → ReconnectState × List WsLinkOutput
  | .transport mb event =>
      let (link, outputs) := websocketEventHandler mb tickRateHz state.link event
      ({ link := link, connecting := state.connecting && !event.endsAttempt
         armed := state.armed || outputs.contains .timerStart }, outputs)
  | .timerFires mb nonce unixTime allocated startResult =>
      if !state.armed then (state, [])
      else
        let (link, outputs) := reconnectTimerCb mb state.link nonce unixTime allocated
        ({ link := link, armed := false
           connecting :=
            if outputs.any WsLinkOutput.isStart then startResult = .ok else state.connecting },
          outputs)

/-- The client as `ws_client_start` leaves it: its attempt is in progress. -/
def reconnectStart (link : WsLink) : ReconnectState where
  link := link
  connecting := true
  armed := false

/-- The client is connected, is connecting, or will try to connect. -/
def ReconnectState.OnItsWay (state : ReconnectState) : Prop :=
  state.link.connected = true ∨ state.connecting = true ∨ state.armed = true

/-- A firing of the timer in which `regenerate_headers` or `client_start` fails, while the client
is not connected. -/
def FailsOffline (state : ReconnectState) (event : ReconnectEvent) : Prop :=
  ∃ mb nonce unixTime allocated startResult,
    event = .timerFires mb nonce unixTime allocated startResult ∧ state.armed = true ∧
    state.link.connected = false ∧
    ((0 < state.link.headerLen ∧
        (regenerateHeaders mb state.link nonce unixTime allocated).1 ≠ .ok) ∨ startResult ≠ .ok)

variable {tickRateHz : UInt32} {state : ReconnectState} {event : ReconnectEvent}

/-- The handles are held, and an armed timer means that the last attempt is over. -/
structure ReconnectState.Running (state : ReconnectState) : Prop where
  client : state.link.client = true
  shouldRun : state.link.shouldRun = true
  reconnectTimer : state.link.reconnectTimer = true
  armed : state.armed = true → state.connecting = false

/-- DISCONNECTED arms the timer. -/
theorem disconnected_arms {mb : Mbedtls} (h : state.Running) :
    (websocketEventHandler mb tickRateHz state.link .disconnected).2.contains .timerStart =
      true := by
  simp only [websocketEventHandler, h.shouldRun, h.reconnectTimer, Bool.and_self, if_true]
  split <;> rfl

/-- No other event of the transport calls the timer. -/
theorem not_disconnected_arms {mb : Mbedtls} {event : WebsocketEvent} (h : event ≠ .disconnected) :
    (websocketEventHandler mb tickRateHz state.link event).2.contains .timerStart = false := by
  cases event with
  | disconnected => exact absurd rfl h
  | connected | other => rfl
  | data opCode payload =>
      simp only [websocketEventHandler]
      split
      · rfl
      split
      · split <;> rfl
      · rfl
  | error hasData =>
      simp only [websocketEventHandler]
      split <;> rfl

/-- Only CONNECTED and DISCONNECTED change whether the client is connected. -/
theorem websocketEventHandler_connected {mb : Mbedtls} {link : WsLink} {event : WebsocketEvent} :
    (websocketEventHandler mb tickRateHz link event).1.connected =
      match event with
      | .connected => true
      | .disconnected => false
      | _ => link.connected := by
  cases event with
  | connected | error | other => rfl
  | disconnected =>
      simp only [websocketEventHandler]
      split
      · split <;> rfl
      · rfl
  | data opCode payload =>
      simp only [websocketEventHandler]
      split
      · rfl
      split
      · split <;> rfl
      · rfl

theorem ReconnectState.Running.step (h : state.Running) :
    (reconnectStep tickRateHz state event).1.Running := by
  cases event with
  | transport mb event =>
      have hkeeps := @websocketEventHandler_keeps mb state.link tickRateHz event
      refine ⟨hkeeps.client.trans h.client, hkeeps.shouldRun.trans h.shouldRun,
        hkeeps.reconnectTimer.trans h.reconnectTimer, ?_⟩
      intro harmed
      show (state.connecting && !event.endsAttempt) = false
      by_cases hevent : event = .disconnected
      · rw [hevent]
        exact Bool.and_false _
      · have hbefore : (state.armed ||
            (websocketEventHandler mb tickRateHz state.link event).2.contains .timerStart) = true :=
          harmed
        rw [not_disconnected_arms hevent, Bool.or_false] at hbefore
        rw [h.armed hbefore]
        rfl
  | timerFires mb nonce unixTime allocated startResult =>
      simp only [reconnectStep]
      split
      · exact h
      · have hkeeps := @reconnectTimerCb_keeps mb state.link nonce unixTime allocated
        exact ⟨hkeeps.client.trans h.client, hkeeps.shouldRun.trans h.shouldRun,
          hkeeps.reconnectTimer.trans h.reconnectTimer, fun harmed => Bool.noConfusion harmed⟩

/-- What a firing of the armed timer leaves of a client that is not connected: an attempt, if the
headers were built and the call succeeded. -/
theorem timerFires_connecting (h : state.Running) (harmed : state.armed = true) {mb : Mbedtls}
    {nonce : Vector UInt8 16} {unixTime : UInt64} {allocated : Bool} {startResult : EspErr} :
    (reconnectStep tickRateHz state
      (.timerFires mb nonce unixTime allocated startResult)).1.connecting = true ↔
      ¬ ((0 < state.link.headerLen ∧
        (regenerateHeaders mb state.link nonce unixTime allocated).1 ≠ .ok) ∨
          startResult ≠ .ok) := by
  simp only [reconnectStep, harmed, reconnectTimerCb, h.client, h.shouldRun, Bool.and_self,
    Bool.not_true, Bool.false_eq_true, if_false, if_true]
  by_cases hlen : 0 < state.link.headerLen
  · rw [if_pos hlen]
    cases hregenerate : regenerateHeaders mb state.link nonce unixTime allocated with
    | mk result headerBlock =>
        cases result with
        | ok => simp [WsLinkOutput.isStart]
        | _ => simp [h.armed harmed, hlen]
  · rw [if_neg hlen]
    simp [WsLinkOutput.isStart, hlen]

/-- One event strands the client exactly when it is a failing firing while offline. -/
theorem onItsWay_step_iff (h : state.Running) (honline : state.OnItsWay) :
    (reconnectStep tickRateHz state event).1.OnItsWay ↔ ¬ FailsOffline state event := by
  cases event with
  | transport mb event =>
      refine iff_of_true ?_ ?_
      · by_cases hevent : event = .disconnected
        · subst hevent
          refine .inr (.inr ?_)
          show (state.armed || (websocketEventHandler mb tickRateHz state.link
            .disconnected).2.contains .timerStart) = true
          rw [disconnected_arms h, Bool.or_true]
        · have hconnected := @websocketEventHandler_connected tickRateHz mb state.link event
          cases event with
          | connected => exact .inl hconnected
          | disconnected => exact absurd rfl hevent
          | data | error | other =>
              rcases honline with hlink | hattempt | harmed
              · exact .inl (hconnected.trans hlink)
              · exact .inr (.inl (by simp [reconnectStep, hattempt, WebsocketEvent.endsAttempt]))
              · exact .inr (.inr (by simp [reconnectStep, harmed]))
      · rintro ⟨_, _, _, _, _, hevent, -⟩
        cases hevent
  | timerFires mb nonce unixTime allocated startResult =>
      by_cases harmed : state.armed = true
      swap
      · have hsame : (reconnectStep tickRateHz state
            (.timerFires mb nonce unixTime allocated startResult)).1 = state := by
          simp [reconnectStep, harmed]
        rw [hsame]
        refine iff_of_true honline ?_
        rintro ⟨_, _, _, _, _, -, hfires, -⟩
        exact harmed hfires
      have hconnecting := @timerFires_connecting tickRateHz state h harmed mb nonce unixTime
        allocated startResult
      have hlink : (reconnectStep tickRateHz state
          (.timerFires mb nonce unixTime allocated startResult)).1.link.connected =
            state.link.connected := by
        simp only [reconnectStep, harmed, reconnectTimerCb, Bool.not_true, Bool.false_eq_true,
          if_false]
        split
        · split
          · split <;> rfl
          · rfl
        · rfl
      have hdisarmed : (reconnectStep tickRateHz state
          (.timerFires mb nonce unixTime allocated startResult)).1.armed = false := by
        simp only [reconnectStep, harmed, Bool.not_true, Bool.false_eq_true, if_false]
      rw [ReconnectState.OnItsWay, hlink, hdisarmed, hconnecting]
      constructor
      · rintro hway ⟨_, _, _, _, _, hevent, -, hoffline, hfails⟩
        cases hevent
        rcases hway with hconnected | hnone | hfalse
        · rw [hoffline] at hconnected
          cases hconnected
        · exact hnone hfails
        · cases hfalse
      · intro hnot
        by_cases hconnected : state.link.connected = true
        · exact .inl hconnected
        · refine .inr (.inl fun hfails => hnot ?_)
          exact ⟨mb, nonce, unixTime, allocated, startResult, rfl, harmed,
            Bool.eq_false_of_not_eq_true hconnected, hfails⟩

/-- In every run of a started client it is connected, connecting or about to connect after every
event, if and only if no firing of the timer fails while it is offline. -/
theorem never_stuck_offline_iff {mb : Mbedtls} {outcome : ClientStartOutcome}
    {config : WsClientConfig} {hasRxCb : Bool} {before link : WsLink}
    (hstart : wsClientStart mb outcome config hasRxCb before = (.ok, link))
    (events : List ReconnectEvent) :
    (∀ first later, events = first ++ later →
      (Machine.run (reconnectStep tickRateHz) (reconnectStart link) first).1.OnItsWay) ↔
      Machine.EachStep (reconnectStep tickRateHz) (fun state event => ¬ FailsOffline state event)
        (reconnectStart link) events := by
  have hrunning : (reconnectStart link).Running := by
    obtain ⟨_, _, _, _, -, -, rfl⟩ := wsClientStart_spec hstart
    exact ⟨rfl, rfl, rfl, fun harmed => Bool.noConfusion harmed⟩
  exact Machine.everyPrefix_iff (fun _ _ h => h.step)
    (fun _ _ h honline => onItsWay_step_iff h honline) hrunning (.inr (.inl rfl))

/-- A client whose first connection breaks and whose second attempt is taken stays on its way. -/
theorem never_stuck_offline_one_break :
    (Machine.run (reconnectStep 100) (reconnectStart copyLink)
      [ReconnectEvent.transport copyMbedtls .connected,
        .transport copyMbedtls .disconnected]).1.OnItsWay := by
  have hstart : wsClientStart copyMbedtls { nonce := Vector.replicate 16 7 } copyConfig true {} =
      (.ok, copyLink) := by
    decide +kernel
  refine (never_stuck_offline_iff hstart
    [.transport copyMbedtls .connected, .transport copyMbedtls .disconnected,
      .timerFires copyMbedtls (Vector.replicate 16 8) 0 true .ok]).mpr ⟨?_, ?_, ?_, trivial⟩
      [.transport copyMbedtls .connected, .transport copyMbedtls .disconnected]
      [.timerFires copyMbedtls (Vector.replicate 16 8) 0 true .ok] rfl
  · rintro ⟨_, _, _, _, _, hevent, -⟩
    cases hevent
  · rintro ⟨_, _, _, _, _, hevent, -⟩
    cases hevent
  · rintro ⟨_, _, _, _, _, hevent, -, -, hfails⟩
    cases hevent
    rcases hfails with ⟨-, hheaders⟩ | hresult
    · exact hheaders (by decide +kernel)
    · exact hresult rfl

/-- `client_start` fails once after a break: nothing is in progress and nothing is armed. -/
theorem stuck_offline_after_failed_start :
    wsClientStart copyMbedtls { nonce := Vector.replicate 16 7 } copyConfig true {} =
        (.ok, copyLink) ∧
      ¬ (Machine.run (reconnectStep 100) (reconnectStart copyLink)
        [.transport copyMbedtls .connected, .transport copyMbedtls .disconnected,
          .timerFires copyMbedtls (Vector.replicate 16 8) 0 true .fail]).1.OnItsWay := by
  refine ⟨by decide +kernel, ?_⟩
  rintro (hconnected | hattempt | harmed)
  · exact absurd hconnected (by decide +kernel)
  · exact absurd hattempt (by decide +kernel)
  · exact absurd harmed (by decide +kernel)

end Offline

end SensorHmi
