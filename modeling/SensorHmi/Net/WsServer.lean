import SensorHmi.Lib.Machine
import SensorHmi.Lib.Slots
import SensorHmi.Net.WsAuthorize

/-!
# The WebSocket server

`common/net/ws_server.c` as a state machine over its file-level statics. Each event runs one
handler to its end, as its lock or its task makes it do; results of the HTTP server, the
allocator and the timers come with the event. An empty client table stands for a null pointer,
which is exact because `ws_server_start` allocates at least one slot. TLS settings, URI
registration and the banner at `/` decide nothing and are left out.
-/

namespace SensorHmi

open Octets

/-- `ws_server_config_t`; empty octet strings stand for null pointers and zero lengths. -/
structure WsServerConfig where
  port : UInt16 := 0
  maxClients : Nat := 0
  authToken : Bytes := []
  serverCert : Bytes := []
  serverKey : Bytes := []
  pingIntervalMs : UInt32 := 0
  pongTimeoutMs : UInt32 := 0
  rxBufferSize : Nat := 0
  cryptoSecret : Bytes := []
  enableFrameEncryption : Bool := false
  enableHandshakeToken : Bool := false
  handshakeReplayWindowMs : UInt32 := 0
  handshakeCacheSize : Nat := 0
  enableTotp : Bool := false
  totpSecret : Bytes := []
  totpPeriodS : UInt32 := 0
  totpDigits : UInt8 := 0
  totpWindow : UInt32 := 0
  deriving DecidableEq

/-- `ws_client_t` -/
structure WsClient where
  fd : Int := -1
  lastSeen : TickType := 0
  awaitingPong : Bool := false
  handshakeVerified : Bool
  lastCounter : UInt64 := 0
  deriving DecidableEq

/-- The statics of `ws_server.c`. `httpServer`, `clientLock`, `pingTimer` and `rxBuffer` say
whether the handle is held, `hasRxCb` whether a callback is installed. -/
structure WsServer where
  httpServer : Bool := false
  cfg : WsServerConfig := {}
  clients : List WsClient := []
  hasRxCb : Bool := false
  clientLock : Bool := false
  pingTimer : Bool := false
  rxBuffer : Bool := false
  securityCtx : WsSecurityContext := {}
  nonceCache : List WsNonceEntry := []
  nonceTtlTicks : TickType := 0
  deriving DecidableEq

/-- `httpd_ws_type_t`: the opcode of a WebSocket frame. -/
inductive WsType
  | continuation
  | text
  | binary
  | close
  | ping
  | pong
  | reserved (opcode : UInt8)
  deriving DecidableEq, Repr

/-- What the server does to the outside. `registered` and `removed` are its log lines. -/
inductive WsServerOutput
  | rxCb (payload : Bytes) (crc32 : UInt32)
  | registered (fd : Int)
  | removed (fd : Int)
  | sent (fd : Int) (type : WsType) (payload : Bytes)
  | triggerClose (fd : Int)
  | response (status body : Bytes)
  deriving DecidableEq

/-- A table slot without a client. -/
def idleClient (srv : WsServer) : WsClient :=
  { handshakeVerified := !srv.securityCtx.handshakeEnabled }

/-- `find_client`: the first slot of the descriptor, with its index. -/
def findClient (srv : WsServer) (fd : Int) : Option (Nat × WsClient) :=
  Slots.first (fun client => client.fd = fd) srv.clients

/-- The statics with slot `i` replaced. -/
def WsServer.setClient (srv : WsServer) (i : Nat) (client : WsClient) : WsServer :=
  { srv with clients := srv.clients.set i client }

/-- `drop_client_locked` -/
def dropClientLocked (srv : WsServer) (fd : Int) : WsServer × List WsServerOutput :=
  match findClient srv fd with
  | none => (srv, [])
  | some (i, _) => (srv.setClient i (idleClient srv), [.removed fd])

/-- `add_client` at tick `now` -/
def addClient (srv : WsServer) (fd : Int) (now : TickType) :
    EspErr × WsServer × List WsServerOutput :=
  if srv.clients.isEmpty then (.invalidState, srv, [])
  else match Slots.first (fun client => client.fd < 0) srv.clients with
    | none => (.fail, srv, [])
    | some (i, _) => (.ok, srv.setClient i { idleClient srv with fd := fd, lastSeen := now },
        [.registered fd])

/-- `mark_client_verified` -/
def markClientVerified (srv : WsServer) (fd : Int) : WsServer :=
  match findClient srv fd with
  | none => srv
  | some (i, client) =>
      srv.setClient i { client with handshakeVerified := true, lastCounter := 0 }

/-- The GET branch of `ws_handler`: `authNow` and `now` are the ticks read by the authorization
and by `add_client`. -/
def wsHandlerGet (mb : Mbedtls) (srv : WsServer) (req : HttpdReq) (fd : Int)
    (authNow now : TickType) (unixTime : UInt64) : EspErr × WsServer × List WsServerOutput :=
  let env : AuthorizeEnv :=
    { authToken := srv.cfg.authToken, ctx := srv.securityCtx, nonceTtlTicks := srv.nonceTtlTicks
      now := authNow, unixTime := unixTime }
  let (authorized, nonceCache) := authorizeRequest mb env req srv.nonceCache
  let srv := { srv with nonceCache := nonceCache }
  if !authorized then (.fail, srv, [.response (ascii "401 Unauthorized") (ascii "Unauthorized")])
  else match addClient srv fd now with
    | (.ok, srv, outputs) =>
        let srv := if srv.securityCtx.handshakeEnabled then markClientVerified srv fd else srv
        (.ok, srv, outputs)
    | (_, srv, outputs) =>
        (.fail, srv, outputs ++
          [.response (ascii "503 Service Unavailable") (ascii "Too many clients")])

/-- A frame as `httpd_ws_recv_frame` delivers it: the results of the length call and of the
payload call, and the frame. -/
structure WsRecv where
  lengthResult : EspErr := .ok
  payloadResult : EspErr := .ok
  type : WsType
  payload : Bytes

/-- The CRC field `ws_handler` and `websocket_event_handler` split off a payload. -/
def splitCrc (binary : Bool) (payload : Bytes) : Bytes × UInt32 :=
  if binary && 4 ≤ payload.length then
    (payload.drop 4, UInt32.ofNat (ofLe (payload.take 4)))
  else (payload, 0)

/-- What was framed behind its CRC is split again. -/
theorem splitCrc_frame (crc : UInt32) (payload : Bytes) :
    splitCrc true (leBytes 4 crc.toNat ++ payload) = (payload, crc) := by
  have hlength : (leBytes 4 crc.toNat).length = 4 := length_leBytes 4 _
  have hvalue : ofLe (leBytes 4 crc.toNat) = crc.toNat := by
    rw [ofLe_leBytes]
    exact Nat.mod_eq_of_lt crc.toNat_lt
  have hlong : (true && decide (4 ≤ (leBytes 4 crc.toNat ++ payload).length)) = true := by
    rw [List.length_append, hlength]
    simp
  rw [splitCrc, if_pos hlong, List.drop_left' hlength, List.take_left' hlength, hvalue,
    UInt32.ofNat_toNat]

/-- The last part of `ws_handler`, from the CRC field on, for the client in slot `i`. -/
def deliver (srv : WsServer) (i : Nat) (client : WsClient) (binary : Bool) (payload : Bytes) :
    EspErr × WsServer × List WsServerOutput :=
  let (data, crc32) := splitCrc binary payload
  (.ok, srv.setClient i { client with awaitingPong := false }, [.rxCb data crc32])

/-- The frame branch of `ws_handler`. -/
def wsHandlerFrame (mb : Mbedtls) (srv : WsServer) (fd : Int) (recv : WsRecv) (now : TickType) :
    EspErr × WsServer × List WsServerOutput :=
  if recv.lengthResult ≠ .ok then (recv.lengthResult, srv, [])
  else if srv.cfg.rxBufferSize < recv.payload.length then (.noMem, srv, [])
  else if recv.payloadResult ≠ .ok then (recv.payloadResult, srv, [])
  else match findClient srv fd with
    | none => (.invalidState, srv, [])
    | some (i, client) =>
        let client := { client with lastSeen := now }
        let srv := srv.setClient i client
        if recv.type = .pong then
          (.ok, srv.setClient i { client with awaitingPong := false }, [])
        else if recv.type = .ping then (.ok, srv, [.sent fd .pong recv.payload])
        else if !srv.hasRxCb then
          (.ok, srv.setClient i { client with awaitingPong := false }, [])
        else if srv.securityCtx.encryptionEnabled ∧ recv.type = .binary then
          if !client.handshakeVerified then (.invalidState, srv, [])
          else match wsSecurityDecrypt mb.toGcm srv.securityCtx recv.payload client.lastCounter with
            | (.error err, _) =>
                let (srv, outputs) := dropClientLocked srv fd
                (err, srv, .triggerClose fd :: outputs)
            | (.ok plaintext, counter) =>
                deliver srv i { client with lastCounter := counter } true plaintext
        else deliver srv i client (recv.type = .binary) recv.payload

/-- One slot of the loop of `ping_timer_cb`; `sendResult` is the result of sending the ping. -/
def pingSlot (tickRateHz : UInt32) (now : TickType) (sendResult : Nat → EspErr) (srv : WsServer)
    (i : Nat) : WsServer × List WsServerOutput :=
  let pingInterval := pdMsToTicks tickRateHz srv.cfg.pingIntervalMs
  let pongTimeout := pdMsToTicks tickRateHz srv.cfg.pongTimeoutMs
  match srv.clients[i]? with
  | none => (srv, [])
  | some client =>
      let elapsed := now - client.lastSeen
      if client.fd < 0 then (srv, [])
      else if client.awaitingPong && pongTimeout ≤ elapsed then
        let (srv, outputs) := dropClientLocked srv client.fd
        (srv, .triggerClose client.fd :: outputs)
      else if !client.awaitingPong && pingInterval ≤ elapsed then
        if sendResult i = .ok then
          (srv.setClient i { client with awaitingPong := true }, [.sent client.fd .ping []])
        else
          let (srv, outputs) := dropClientLocked srv client.fd
          (srv, .sent client.fd .ping [] :: .triggerClose client.fd :: outputs)
      else (srv, [])

/-- `ping_timer_cb` -/
def pingTimerCb (tickRateHz : UInt32) (srv : WsServer) (now : TickType)
    (sendResult : Nat → EspErr) : WsServer × List WsServerOutput :=
  Machine.run (pingSlot tickRateHz now sendResult) srv (List.range srv.clients.length)

/-- One slot of the loop of `ws_server_send`, with the result reported so far. -/
def sendSlot (frame : Bytes) (sendResult : Nat → EspErr) (state : EspErr × WsServer) (i : Nat) :
    (EspErr × WsServer) × List WsServerOutput :=
  let (result, srv) := state
  match srv.clients[i]? with
  | none => ((result, srv), [])
  | some client =>
      if client.fd < 0 then ((result, srv), [])
      else if sendResult i = .ok then ((result, srv), [.sent client.fd .binary frame])
      else
        let (srv, outputs) := dropClientLocked srv client.fd
        ((sendResult i, srv),
          .sent client.fd .binary frame :: .triggerClose client.fd :: outputs)

/-- `ws_server_send`: `iv` is what `generate_iv` draws, `allocated` whether `malloc` succeeds. -/
def wsServerSend (mb : Mbedtls) (srv : WsServer) (data : Bytes) (iv : Vector UInt8 12)
    (allocated : Bool) (sendResult : Nat → EspErr) : (EspErr × WsServer) × List WsServerOutput :=
  if !srv.httpServer || data.isEmpty then ((.invalidState, srv), [])
  else if srv.securityCtx.encryptionEnabled && !allocated then ((.noMem, srv), [])
  else
    let required := wsSecurityEncryptedSize srv.securityCtx data.length
    match wsSecurityEncrypt mb.toGcm iv srv.securityCtx data required with
    | (.error err, ctx) => ((err, { srv with securityCtx := ctx }), [])
    | (.ok frame, ctx) =>
        Machine.run (sendSlot frame sendResult) (.ok, { srv with securityCtx := ctx })
          (List.range srv.clients.length)

/-- `ws_close_hook` -/
def wsCloseHook (srv : WsServer) (fd : Int) : WsServer × List WsServerOutput :=
  dropClientLocked srv fd

/-- What `ws_server_start` asks of the allocator, the kernel and the HTTP server. -/
structure StartOutcome where
  nonceCache : Bool := true
  clients : Bool := true
  rxBuffer : Bool := true
  clientLock : Bool := true
  pingTimer : Bool := true
  httpsStart : EspErr := .ok

/-- The defaults `ws_server_start` puts in place of zero settings. -/
def withDefaults (config : WsServerConfig) : WsServerConfig :=
  let cfg := { config with
    maxClients := if config.maxClients = 0 then 4 else config.maxClients
    rxBufferSize := if config.rxBufferSize = 0 then 2048 else config.rxBufferSize
    pingIntervalMs := if config.pingIntervalMs = 0 then 10000 else config.pingIntervalMs
    pongTimeoutMs := if config.pongTimeoutMs = 0 then 5000 else config.pongTimeoutMs
    handshakeReplayWindowMs :=
      if config.handshakeReplayWindowMs = 0 then 300000 else config.handshakeReplayWindowMs }
  { cfg with
    handshakeCacheSize :=
      if cfg.handshakeCacheSize = 0 then
        if cfg.maxClients = 0 then 16 else cfg.maxClients * 4
      else cfg.handshakeCacheSize }

/-- The security settings `ws_server_start` passes on. -/
def serverSecurityConfig (cfg : WsServerConfig) : WsSecurityConfig where
  secret := cfg.cryptoSecret
  enableEncryption := cfg.enableFrameEncryption
  enableHandshake := cfg.enableHandshakeToken
  enableTotp := cfg.enableTotp
  totpSecret := cfg.totpSecret
  totpPeriodS := cfg.totpPeriodS
  totpDigits := cfg.totpDigits
  totpWindow := cfg.totpWindow

/-- What the error paths of `ws_server_start` free after the nonce cache. -/
def releaseStart (srv : WsServer) : WsServer :=
  { srv with nonceCache := [], clients := [], rxBuffer := false, clientLock := false
             pingTimer := false }

/-- `ws_server_start` after the security context was initialised: the allocations, the lock, the
timer and the HTTP server. -/
def startResources (outcome : StartOutcome) (hasRxCb : Bool) (srv : WsServer) :
    EspErr × WsServer :=
  let handshake := srv.securityCtx.handshakeEnabled
  if handshake && !outcome.nonceCache then (.noMem, srv)
  else
    let srv := { srv with
      nonceCache := if handshake then List.replicate srv.cfg.handshakeCacheSize {} else []
      clients := List.replicate srv.cfg.maxClients (idleClient srv) }
    if !(outcome.clients && outcome.rxBuffer && outcome.clientLock && outcome.pingTimer) then
      (.noMem, releaseStart srv)
    else if outcome.httpsStart ≠ .ok then
      (outcome.httpsStart, releaseStart { srv with hasRxCb := hasRxCb })
    else
      (.ok, { srv with
        rxBuffer := true, clientLock := true, pingTimer := true, hasRxCb := hasRxCb
        httpServer := true })

/-- `ws_server_start`; a context initialised only in part stays behind on an error, as do the
settings. The checks of the settings run before the default of the cache size; neither reads the
other. -/
def wsServerStart (mb : Mbedtls) (tickRateHz : UInt32) (outcome : StartOutcome)
    (config : WsServerConfig) (hasRxCb : Bool) (srv : WsServer) : EspErr × WsServer :=
  if config.serverCert.isEmpty || config.serverKey.isEmpty then (.invalidArg, srv)
  else if srv.httpServer then (.invalidState, srv)
  else
    let cfg := withDefaults config
    let srv := { srv with cfg := cfg }
    if (cfg.enableFrameEncryption || cfg.enableHandshakeToken) && cfg.cryptoSecret.isEmpty then
      (.invalidArg, srv)
    else if cfg.enableTotp && (cfg.totpSecret.isEmpty || cfg.totpDigits < 6 ||
        cfg.totpDigits > 8 || cfg.totpPeriodS = 0) then
      (.invalidArg, srv)
    else match wsSecurityContextInit mb (some (serverSecurityConfig cfg)) with
      | (.ok, ctx) =>
          startResources outcome hasRxCb { srv with
            securityCtx := wsSecurityResetCounters ctx
            nonceCache := []
            nonceTtlTicks := pdMsToTicks tickRateHz cfg.handshakeReplayWindowMs }
      | (err, ctx) => (err, { srv with securityCtx := ctx })

/-- `ws_server_stop` -/
def wsServerStop (srv : WsServer) : WsServer :=
  { srv with
    pingTimer := false, httpServer := false, clientLock := false, rxBuffer := false, clients := []
    hasRxCb := false, nonceCache := [], nonceTtlTicks := 0, securityCtx := {} }

/-- What happens to a running server. -/
inductive WsServerEvent
  | get (req : HttpdReq) (fd : Int) (authNow now : TickType) (unixTime : UInt64)
  | frame (fd : Int) (recv : WsRecv) (now : TickType)
  | closed (fd : Int)
  | pingTimer (now : TickType) (sendResult : Nat → EspErr)
  | send (data : Bytes) (iv : Vector UInt8 12) (allocated : Bool) (sendResult : Nat → EspErr)

/-- One event of a running server. -/
def wsServerStep (mb : Mbedtls) (tickRateHz : UInt32) (srv : WsServer) :
    WsServerEvent → WsServer × List WsServerOutput
  | .get req fd authNow now unixTime => (wsHandlerGet mb srv req fd authNow now unixTime).2
  | .frame fd recv now => (wsHandlerFrame mb srv fd recv now).2
  | .closed fd => wsCloseHook srv fd
  | .pingTimer now sendResult => pingTimerCb tickRateHz srv now sendResult
  | .send data iv allocated sendResult =>
      let (state, outputs) := wsServerSend mb srv data iv allocated sendResult
      (state.2, outputs)

end SensorHmi
