import SensorHmi.Lib.Machine
import SensorHmi.Lib.Numeral
import SensorHmi.Net.WsServer

/-!
# The WebSocket client

`common/net/ws_client.c` as a state machine over its file-level statics: the transport's events,
the reconnect timer and `ws_client_send`. The certificate and host name settings are handed to
the transport unread and are left out.
-/

namespace SensorHmi

open Octets Numeral

/-- `ws_client_config_t` as far as this file reads it; empty octet strings stand for null
pointers and zero lengths. -/
structure WsClientConfig where
  uri : Bytes
  authToken : Bytes := []
  reconnectMinDelayMs : UInt32 := 0
  reconnectMaxDelayMs : UInt32 := 0
  hasErrorCb : Bool := false
  cryptoSecret : Bytes := []
  enableFrameEncryption : Bool := false
  enableHandshakeToken : Bool := false
  enableTotp : Bool := false
  totpSecret : Bytes := []
  totpPeriodS : UInt32 := 0
  totpDigits : UInt8 := 0
  totpWindow : UInt32 := 0

/-- The statics of `ws_client.c`: one link to a server. `client` and `reconnectTimer` say whether
the handle is held, `hasRxCb` and `hasErrorCb` whether a callback is installed. -/
structure WsLink where
  client : Bool := false
  hasRxCb : Bool := false
  hasErrorCb : Bool := false
  connected : Bool := false
  shouldRun : Bool := false
  reconnectTimer : Bool := false
  reconnectDelayMs : UInt32 := 0
  reconnectMinMs : UInt32 := 0
  reconnectMaxMs : UInt32 := 0
  headerBlock : Option Bytes := none
  securityCtx : WsSecurityContext := {}
  rxCounter : UInt64 := 0
  token : Bytes := []
  headerLen : Nat := 0
  handshakeEnabled : Bool := false
  totpEnabled : Bool := false
  totpDigits : UInt8 := 0
  deriving DecidableEq

/-- What the client does to the outside. -/
inductive WsLinkOutput
  | rxCb (payload : Bytes) (crc32 : UInt32)
  | errorCb
  | timerPeriod (period : TickType)
  | timerStart
  | clientStart (headers : Option Bytes)
  | sent (frame : Bytes)
  deriving DecidableEq

/-- `base64_utils_encode` into a buffer of `outSize` octets. -/
def base64UtilsEncode (mb : Mbedtls) (input : Bytes) (outSize : Nat) : Except EspErr Bytes :=
  let encoded := mb.base64Encode input
  if outSize ≤ encoded.length then .error .noMem else .ok encoded

/-- `bytes_to_hex` -/
def bytesToHex (octets : Bytes) : Bytes :=
  octets.flatMap fun octet =>
    [(ascii "0123456789abcdef").getD (octet.toNat / 16) 0,
      (ascii "0123456789abcdef").getD (octet.toNat % 16) 0]

/-- One `snprintf` of a header line behind `block`, within `limit` octets. -/
def appendHeader (limit : Nat) (block line : Bytes) : EspErr × Bytes :=
  let room := limit - block.length
  (if room < line.length then .invalidSize else .ok, block ++ line.take room)

/-- The lines of a handshake: the nonce and the signature over nonce and token. -/
def handshakeHeaders (mb : Mbedtls) (link : WsLink) (nonce : Vector UInt8 16) (block : Bytes) :
    EspErr × Bytes :=
  match handshakeHmac mb link.securityCtx nonce.toList link.token with
  | .error err => (err, block)
  | .ok signature =>
      match base64UtilsEncode mb signature.toList 96 with
      | .error err => (err, block)
      | .ok signatureB64 =>
          match appendHeader link.headerLen block
              (ascii "X-WS-Nonce: " ++ bytesToHex nonce.toList ++ ascii "\r\n") with
          | (.ok, block) =>
              appendHeader link.headerLen block
                (ascii "X-WS-Signature: " ++ signatureB64 ++ ascii "\r\n")
          | (err, block) => (err, block)

/-- The line with the one-time password, zero-padded to the configured digits. -/
def totpHeader (mb : Mbedtls) (link : WsLink) (unixTime : UInt64) (block : Bytes) :
    EspErr × Bytes :=
  let cfg : TotpConfig :=
    { secret := link.securityCtx.totpSecret, periodS := link.securityCtx.totpPeriodS
      digits := link.securityCtx.totpDigits }
  if !link.securityCtx.totpEnabled then (.invalidState, block)
  else match totpCompute mb cfg unixTime with
    | .error err => (err, block)
    | .ok code =>
        let digits := natText code.toNat
        let codeBuf := List.replicate (link.totpDigits.toNat - digits.length) 48 ++ digits
        if 12 ≤ codeBuf.length then (.invalidSize, block)
        else appendHeader link.headerLen block (ascii "X-WS-TOTP: " ++ codeBuf ++ ascii "\r\n")

/-- `regenerate_headers`: the result and the header block, which keeps what was written before
an error. -/
def regenerateHeaders (mb : Mbedtls) (link : WsLink) (nonce : Vector UInt8 16) (unixTime : UInt64)
    (allocated : Bool) : EspErr × Option Bytes :=
  if link.headerLen = 0 then (.ok, link.headerBlock)
  else if link.headerBlock.isNone && !allocated then (.noMem, none)
  else
    let bearer :=
      if link.token.isEmpty then (.ok, [])
      else appendHeader link.headerLen []
        (ascii "Authorization: Bearer " ++ link.token ++ ascii "\r\n")
    let handshake := match bearer with
      | (.ok, block) =>
          if link.handshakeEnabled then handshakeHeaders mb link nonce block else (.ok, block)
      | (err, block) => (err, block)
    let totp := match handshake with
      | (.ok, block) =>
          if link.totpEnabled then totpHeader mb link unixTime block else (.ok, block)
      | (err, block) => (err, block)
    (totp.1, some totp.2)

/-- `cleanup_client` -/
def cleanupClient (link : WsLink) : WsLink :=
  { link with
    reconnectTimer := false, client := false, headerBlock := none, hasRxCb := false
    hasErrorCb := false, connected := false, rxCounter := 0, securityCtx := {}, token := []
    headerLen := 0, handshakeEnabled := false, totpEnabled := false, totpDigits := 0 }

/-- The security settings `ws_client_start` passes on. -/
def clientSecurityConfig (config : WsClientConfig) : WsSecurityConfig where
  secret := config.cryptoSecret
  enableEncryption := config.enableFrameEncryption
  enableHandshake := config.enableHandshakeToken
  enableTotp := config.enableTotp
  totpSecret := config.totpSecret
  totpPeriodS := config.totpPeriodS
  totpDigits := config.totpDigits
  totpWindow := config.totpWindow

/-- The length `ws_client_start` reserves for the header block. -/
def headerLength (token : Bytes) (handshakeEnabled totpEnabled : Bool) (totpDigits : UInt8) : Nat :=
  (if token.isEmpty then 0 else (ascii "Authorization: Bearer ").length + token.length + 2) +
    (if handshakeEnabled then
      (ascii "X-WS-Nonce: ").length + 2 * wsSecurityNonceLen + 2 +
        ((ascii "X-WS-Signature: ").length + 44 + 2)
    else 0) +
    (if totpEnabled && 0 < totpDigits then (ascii "X-WS-TOTP: ").length + totpDigits.toNat + 2
    else 0)

/-- What `ws_client_start` asks of the allocator, the kernel and the transport. -/
structure ClientStartOutcome where
  nonce : Vector UInt8 16
  unixTime : UInt64 := 0
  headerBlock : Bool := true
  clientInit : Bool := true
  timer : Bool := true
  clientStart : EspErr := .ok

/-- `ws_client_start` -/
def wsClientStart (mb : Mbedtls) (outcome : ClientStartOutcome) (config : WsClientConfig)
    (hasRxCb : Bool) (link : WsLink) : EspErr × WsLink :=
  if config.uri.isEmpty then (.invalidArg, link)
  else if link.client then (.invalidState, link)
  else match wsSecurityContextInit mb (some (clientSecurityConfig config)) with
    | (.ok, ctx) =>
        let ctx := wsSecurityResetCounters ctx
        let totpDigits := wsSecurityTotpDigits ctx
        let link := { link with
          securityCtx := ctx, rxCounter := 0, handshakeEnabled := ctx.handshakeEnabled
          totpEnabled := ctx.totpEnabled, totpDigits := totpDigits, token := config.authToken
          headerLen :=
            headerLength config.authToken ctx.handshakeEnabled ctx.totpEnabled totpDigits }
        match regenerateHeaders mb link outcome.nonce outcome.unixTime outcome.headerBlock with
        | (.ok, headerBlock) =>
            let link := { link with headerBlock := headerBlock }
            if !outcome.clientInit then (.noMem, { link with headerBlock := none })
            else
              let minMs :=
                if config.reconnectMinDelayMs = 0 then 2000 else config.reconnectMinDelayMs
              let maxMs :=
                if config.reconnectMaxDelayMs = 0 then 60000 else config.reconnectMaxDelayMs
              let link := { link with
                client := true, reconnectMinMs := minMs
                reconnectMaxMs := if maxMs < minMs then minMs else maxMs
                reconnectDelayMs := minMs }
              if !outcome.timer then (.noMem, cleanupClient link)
              else
                let link := { link with
                  reconnectTimer := true, hasRxCb := hasRxCb, hasErrorCb := config.hasErrorCb
                  shouldRun := true, connected := false }
                if outcome.clientStart ≠ .ok then (outcome.clientStart, cleanupClient link)
                else (.ok, link)
        | (err, _) => (err, { link with headerBlock := none, headerLen := 0 })
    | (err, ctx) => (err, { link with securityCtx := ctx })

/-- The statics `ws_client_start` sets before it builds the header block. -/
def preparedLink (config : WsClientConfig) (ctx : WsSecurityContext) (link : WsLink) : WsLink :=
  { link with
    securityCtx := wsSecurityResetCounters ctx, rxCounter := 0
    handshakeEnabled := ctx.handshakeEnabled, totpEnabled := ctx.totpEnabled
    totpDigits := wsSecurityTotpDigits ctx, token := config.authToken
    headerLen := headerLength config.authToken ctx.handshakeEnabled ctx.totpEnabled
      (wsSecurityTotpDigits ctx) }

section Start

variable {mb : Mbedtls} {outcome : ClientStartOutcome} {config : WsClientConfig} {hasRxCb : Bool}
  {before link : WsLink} {ctx : WsSecurityContext} {headerBlock : Option Bytes}

/-- A successful start initialises the context, builds the header block and leaves the client
running, not connected, with its timer at hand. -/
theorem wsClientStart_spec (h : wsClientStart mb outcome config hasRxCb before = (.ok, link)) :
    ∃ ctx headerBlock minMs maxMs,
      wsSecurityContextInit mb (some (clientSecurityConfig config)) = (.ok, ctx) ∧
      regenerateHeaders mb (preparedLink config ctx before) outcome.nonce outcome.unixTime
        outcome.headerBlock = (.ok, headerBlock) ∧
      link = { preparedLink config ctx before with
        headerBlock := headerBlock, client := true, reconnectMinMs := minMs
        reconnectMaxMs := maxMs, reconnectDelayMs := minMs, reconnectTimer := true
        hasRxCb := hasRxCb, hasErrorCb := config.hasErrorCb, shouldRun := true
        connected := false } := by
  unfold wsClientStart at h
  split at h
  · cases h
  split at h
  · cases h
  split at h
  case h_1 ctx hinit =>
    dsimp only at h
    split at h
    case h_1 headerBlock hheaders =>
      split at h
      · cases h
      split at h
      · cases h
      split at h
      case isTrue hstart => exact absurd (congrArg Prod.fst h) hstart
      case isFalse =>
        cases h
        exact ⟨ctx, headerBlock, _, _, hinit, hheaders, rfl⟩
    case h_2 err headerBlock hne hheaders =>
      obtain ⟨rfl, -⟩ := Prod.mk.inj h
      exact absurd rfl hne
  case h_2 err ctx hne hinit =>
    obtain ⟨rfl, -⟩ := Prod.mk.inj h
    exact absurd rfl hne

/-- The start succeeds when its calls do. -/
theorem wsClientStart_total (huri : config.uri ≠ []) (hclient : before.client = false)
    (hinit : wsSecurityContextInit mb (some (clientSecurityConfig config)) = (.ok, ctx))
    (hheaders : regenerateHeaders mb (preparedLink config ctx before) outcome.nonce
      outcome.unixTime outcome.headerBlock = (.ok, headerBlock))
    (hclientInit : outcome.clientInit = true) (htimer : outcome.timer = true)
    (hstart : outcome.clientStart = .ok) :
    ∃ link, wsClientStart mb outcome config hasRxCb before = (.ok, link) := by
  have hheaders' : regenerateHeaders mb { before with
      securityCtx := wsSecurityResetCounters ctx, rxCounter := 0
      handshakeEnabled := (wsSecurityResetCounters ctx).handshakeEnabled
      totpEnabled := (wsSecurityResetCounters ctx).totpEnabled
      totpDigits := wsSecurityTotpDigits (wsSecurityResetCounters ctx), token := config.authToken
      headerLen := headerLength config.authToken (wsSecurityResetCounters ctx).handshakeEnabled
        (wsSecurityResetCounters ctx).totpEnabled
        (wsSecurityTotpDigits (wsSecurityResetCounters ctx)) } outcome.nonce outcome.unixTime
        outcome.headerBlock = (.ok, headerBlock) := hheaders
  rw [wsClientStart, if_neg (by simpa using huri), if_neg (by simp [hclient])]
  simp only [hinit, hheaders', hclientInit, htimer, hstart]
  exact ⟨_, rfl⟩

end Start

/-- An event of the transport. The payload of a data event is the `payload_len` octets from
`data_ptr` on, which are what the handler reads. -/
inductive WebsocketEvent
  | connected
  | disconnected
  | data (opCode : UInt8) (payload : Bytes)
  | error (hasData : Bool)
  | other

/-- `WS_TRANSPORT_OPCODES_BINARY` -/
def wsTransportOpcodesBinary : UInt8 := 2

/-- `websocket_event_handler` -/
def websocketEventHandler (mb : Mbedtls) (tickRateHz : UInt32) (link : WsLink) :
    WebsocketEvent → WsLink × List WsLinkOutput
  | .connected =>
      ({ link with
          connected := true, reconnectDelayMs := link.reconnectMinMs
          securityCtx := wsSecurityResetCounters link.securityCtx, rxCounter := 0 }, [])
  | .disconnected =>
      let link := { link with connected := false }
      if link.shouldRun && link.reconnectTimer then
        let delay := min link.reconnectDelayMs link.reconnectMaxMs
        let outputs := [.timerPeriod (pdMsToTicks tickRateHz delay), .timerStart]
        if link.reconnectDelayMs < link.reconnectMaxMs then
          let next := link.reconnectDelayMs.toNat * 2
          ({ link with reconnectDelayMs :=
              if link.reconnectMaxMs.toNat < next then link.reconnectMaxMs else UInt32.ofNat next },
            outputs)
        else (link, outputs)
      else (link, [])
  | .data opCode payload =>
      if !link.hasRxCb || payload.isEmpty then (link, [])
      else
        let binary : Bool := opCode = wsTransportOpcodesBinary
        if link.securityCtx.encryptionEnabled && binary then
          match wsSecurityDecrypt mb.toGcm link.securityCtx payload link.rxCounter with
          | (.error _, _) => (link, [])
          | (.ok plaintext, counter) =>
              let (data, crc32) := splitCrc binary plaintext
              ({ link with rxCounter := counter }, [.rxCb data crc32])
        else
          let (data, crc32) := splitCrc binary payload
          (link, [.rxCb data crc32])
  | .error hasData => (link, if link.hasErrorCb && hasData then [.errorCb] else [])
  | .other => (link, [])

/-- `reconnect_timer_cb` -/
def reconnectTimerCb (mb : Mbedtls) (link : WsLink) (nonce : Vector UInt8 16) (unixTime : UInt64)
    (allocated : Bool) : WsLink × List WsLinkOutput :=
  if link.client && link.shouldRun then
    if 0 < link.headerLen then
      match regenerateHeaders mb link nonce unixTime allocated with
      | (.ok, headerBlock) => ({ link with headerBlock := headerBlock }, [.clientStart headerBlock])
      | (_, headerBlock) => ({ link with headerBlock := headerBlock }, [])
    else (link, [.clientStart link.headerBlock])
  else (link, [])

/-- `ws_client_send`: `sent` is what the transport returns. -/
def wsClientSend (mb : Mbedtls) (link : WsLink) (data : Bytes) (iv : Vector UInt8 12)
    (allocated : Bool) (sent : Int) : EspErr × WsLink × List WsLinkOutput :=
  if !link.client || !link.connected then (.invalidState, link, [])
  else if link.securityCtx.encryptionEnabled && !allocated then (.noMem, link, [])
  else
    let required := wsSecurityEncryptedSize link.securityCtx data.length
    match wsSecurityEncrypt mb.toGcm iv link.securityCtx data required with
    | (.error err, ctx) => (err, { link with securityCtx := ctx }, [])
    | (.ok frame, ctx) =>
        (if 0 ≤ sent then .ok else .fail, { link with securityCtx := ctx }, [.sent frame])

/-- What happens to a started client. -/
inductive WsLinkEvent
  | transport (event : WebsocketEvent)
  | reconnectTimer (nonce : Vector UInt8 16) (unixTime : UInt64) (allocated : Bool)
  | send (data : Bytes) (iv : Vector UInt8 12) (allocated : Bool) (sent : Int)

/-- One event of a started client. -/
def wsLinkStep (mb : Mbedtls) (tickRateHz : UInt32) (link : WsLink) :
    WsLinkEvent → WsLink × List WsLinkOutput
  | .transport event => websocketEventHandler mb tickRateHz link event
  | .reconnectTimer nonce unixTime allocated => reconnectTimerCb mb link nonce unixTime allocated
  | .send data iv allocated sent => (wsClientSend mb link data iv allocated sent).2

/-- What an event leaves of the statics that `ws_client_start` sets: the handles, the settings and
the keys stay, and a header block that is held stays held. -/
structure WsLink.Keeps (before after : WsLink) : Prop where
  client : after.client = before.client
  shouldRun : after.shouldRun = before.shouldRun
  reconnectTimer : after.reconnectTimer = before.reconnectTimer
  hasRxCb : after.hasRxCb = before.hasRxCb
  token : after.token = before.token
  headerLen : after.headerLen = before.headerLen
  handshakeEnabled : after.handshakeEnabled = before.handshakeEnabled
  totpEnabled : after.totpEnabled = before.totpEnabled
  totpDigits : after.totpDigits = before.totpDigits
  securityCtx : ∃ txCounter, after.securityCtx = { before.securityCtx with txCounter := txCounter }
  headerBlock : before.headerBlock.isSome = true → after.headerBlock.isSome = true

theorem WsLink.Keeps.refl (link : WsLink) : link.Keeps link :=
  ⟨rfl, rfl, rfl, rfl, rfl, rfl, rfl, rfl, rfl, ⟨_, rfl⟩, id⟩

section Keeps

variable {mb : Mbedtls} {link : WsLink}

/-- `regenerate_headers` does not give a header block back. -/
theorem regenerateHeaders_held {nonce : Vector UInt8 16} {unixTime : UInt64} {allocated : Bool}
    (h : link.headerBlock.isSome = true) :
    (regenerateHeaders mb link nonce unixTime allocated).2.isSome = true := by
  have hnone : link.headerBlock.isNone = false := by
    rw [← Option.not_isSome, h]
    rfl
  rw [regenerateHeaders, hnone]
  split
  · exact h
  · rfl

theorem websocketEventHandler_keeps (tickRateHz : UInt32) (event : WebsocketEvent) :
    link.Keeps (websocketEventHandler mb tickRateHz link event).1 := by
  cases event with
  | connected => exact ⟨rfl, rfl, rfl, rfl, rfl, rfl, rfl, rfl, rfl, ⟨0, rfl⟩, id⟩
  | disconnected =>
      simp only [websocketEventHandler]
      split
      · split <;> exact ⟨rfl, rfl, rfl, rfl, rfl, rfl, rfl, rfl, rfl, ⟨_, rfl⟩, id⟩
      · exact ⟨rfl, rfl, rfl, rfl, rfl, rfl, rfl, rfl, rfl, ⟨_, rfl⟩, id⟩
  | data opCode payload =>
      simp only [websocketEventHandler]
      split
      · exact .refl link
      split
      · split
        · exact .refl link
        · exact ⟨rfl, rfl, rfl, rfl, rfl, rfl, rfl, rfl, rfl, ⟨_, rfl⟩, id⟩
      · exact .refl link
  | error | other => exact .refl link

theorem reconnectTimerCb_keeps (nonce : Vector UInt8 16) (unixTime : UInt64) (allocated : Bool) :
    link.Keeps (reconnectTimerCb mb link nonce unixTime allocated).1 := by
  have hheld : ∀ headerBlock, (regenerateHeaders mb link nonce unixTime allocated).2 = headerBlock →
      link.Keeps { link with headerBlock := headerBlock } := by
    rintro headerBlock rfl
    exact ⟨rfl, rfl, rfl, rfl, rfl, rfl, rfl, rfl, rfl, ⟨_, rfl⟩, regenerateHeaders_held⟩
  simp only [reconnectTimerCb]
  split
  · split
    · split
      all_goals
        rename_i hregenerate
        exact hheld _ (congrArg Prod.snd hregenerate)
    · exact .refl link
  · exact .refl link

theorem wsClientSend_keeps (data : Bytes) (iv : Vector UInt8 12) (allocated : Bool) (sent : Int) :
    link.Keeps (wsClientSend mb link data iv allocated sent).2.1 := by
  simp only [wsClientSend]
  split
  · exact .refl link
  split
  · exact .refl link
  split
  all_goals
    rename_i hencrypt
    rcases wsSecurityEncrypt_context hencrypt with rfl | rfl
    · exact .refl link
    · exact ⟨rfl, rfl, rfl, rfl, rfl, rfl, rfl, rfl, rfl, ⟨_, rfl⟩, id⟩

/-- No event changes the settings of a started client. -/
theorem wsLinkStep_keeps (mb : Mbedtls) (tickRateHz : UInt32) (link : WsLink)
    (event : WsLinkEvent) : link.Keeps (wsLinkStep mb tickRateHz link event).1 := by
  cases event with
  | transport event => exact websocketEventHandler_keeps tickRateHz event
  | reconnectTimer nonce unixTime allocated => exact reconnectTimerCb_keeps nonce unixTime allocated
  | send data iv allocated sent => exact wsClientSend_keeps data iv allocated sent

end Keeps

end SensorHmi
