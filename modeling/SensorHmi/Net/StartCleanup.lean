import SensorHmi.Lib.Handles
import SensorHmi.Net.FrameGate
import SensorHmi.Net.WsServer

/-!
# Starts of the server that fail

`ws_server_start` and `ws_server_stop` with the handles their static pointers hold and the calls
that acquire and release them, each unwinding sequence as it stands in the source. Read through
`toWsServer` they are the functions of the server's own model (`toWsServer_start`). Over every run
of starts, stops and events the handles are accounted for (`ModuleInv`), so a start that fails
leaves nothing behind (`failed_start_clean`). The statics of the time function and of the callback's
context are left out: every start sets them before it uses them.
-/

namespace SensorHmi

open Handles

/-- What `ws_server_start` acquires besides the security context, which is no handle. -/
inductive ServerResource
  | nonceCache
  | clients
  | rxBuffer
  | clientLock
  | pingTimer
  | httpServer
  deriving DecidableEq

/-- The statics of `ws_server.c` with the handles in the pointers and the contents of the two
tables, and the log of the platform. -/
structure ServerModule where
  server : Option Nat := none
  cfg : WsServerConfig := {}
  clients : Option (Nat × List WsClient) := none
  clientCapacity : Nat := 0
  hasRxCb : Bool := false
  clientLock : Option Nat := none
  pingTimer : Option Nat := none
  rxBuffer : Option Nat := none
  securityCtx : WsSecurityContext := {}
  nonceCache : Option (Nat × List WsNonceEntry) := none
  nonceCapacity : Nat := 0
  nonceTtlTicks : TickType := 0
  log : Log ServerResource := {}

namespace ServerModule

variable (m : ServerModule)

/-- The handle a static pointer holds. -/
def pointer : ServerResource → Option Nat
  | .nonceCache => m.nonceCache.map Prod.fst
  | .clients => m.clients.map Prod.fst
  | .rxBuffer => m.rxBuffer
  | .clientLock => m.clientLock
  | .pingTimer => m.pingTimer
  | .httpServer => m.server

/-- The statics as the handlers see them. -/
def toWsServer : WsServer where
  httpServer := m.server.isSome
  cfg := m.cfg
  clients := (m.clients.map Prod.snd).getD []
  hasRxCb := m.hasRxCb
  clientLock := m.clientLock.isSome
  pingTimer := m.pingTimer.isSome
  rxBuffer := m.rxBuffer.isSome
  securityCtx := m.securityCtx
  nonceCache := (m.nonceCache.map Prod.snd).getD []
  nonceTtlTicks := m.nonceTtlTicks

/-- `free(s_nonce_cache)` and the two lines behind it. -/
def freeNonceCache : ServerModule :=
  { m with
    log := m.log.release .nonceCache (m.nonceCache.map Prod.fst), nonceCache := none
    nonceCapacity := 0 }

/-- `free(s_clients)` and the line behind it. -/
def freeClients : ServerModule :=
  { m with log := m.log.release .clients (m.clients.map Prod.fst), clients := none }

/-- `free(s_rx_buffer)` and the line behind it. -/
def freeRxBuffer : ServerModule :=
  { m with log := m.log.release .rxBuffer m.rxBuffer, rxBuffer := none }

/-- `semaphore_delete(s_client_lock)` and the line behind it. -/
def deleteClientLock : ServerModule :=
  { m with log := m.log.release .clientLock m.clientLock, clientLock := none }

/-- `timer_delete(s_ping_timer)` and the line behind it. -/
def deletePingTimer : ServerModule :=
  { m with log := m.log.release .pingTimer m.pingTimer, pingTimer := none }

/-- `httpd_stop(s_server)` and the line behind it. -/
def stopHttpServer : ServerModule :=
  { m with log := m.log.release .httpServer m.server, server := none }

/-- `calloc` of `s_nonce_cache`, whose capacity is set before. -/
def allocateNonceCache (granted : Bool) : ServerModule :=
  let capacity := if m.cfg.handshakeCacheSize = 0 then 16 else m.cfg.handshakeCacheSize
  let acquired := m.log.acquire .nonceCache granted
  { m with
    nonceCapacity := capacity
    nonceCache := acquired.1.map fun handle => (handle, List.replicate capacity {})
    log := acquired.2 }

/-- `calloc` of `s_clients`, whose capacity is set before, with the loop over its slots. -/
def allocateClients (granted : Bool) : ServerModule :=
  let acquired := m.log.acquire .clients granted
  let idle : WsClient := { handshakeVerified := !m.securityCtx.handshakeEnabled }
  { m with
    clientCapacity := m.cfg.maxClients
    clients := acquired.1.map fun handle => (handle, List.replicate m.cfg.maxClients idle)
    log := acquired.2 }

/-- `malloc` of `s_rx_buffer` -/
def allocateRxBuffer (granted : Bool) : ServerModule :=
  let acquired := m.log.acquire .rxBuffer granted
  { m with rxBuffer := acquired.1, log := acquired.2 }

/-- `semaphore_create` of `s_client_lock` -/
def createClientLock (granted : Bool) : ServerModule :=
  let acquired := m.log.acquire .clientLock granted
  { m with clientLock := acquired.1, log := acquired.2 }

/-- `timer_create` of `s_ping_timer` -/
def createPingTimer (granted : Bool) : ServerModule :=
  let acquired := m.log.acquire .pingTimer granted
  { m with pingTimer := acquired.1, log := acquired.2 }

/-- `httpd_ssl_start` of `s_server`, which is left alone on an error. -/
def sslStart (granted : Bool) : ServerModule :=
  let acquired := m.log.acquire .httpServer granted
  { m with server := if granted then acquired.1 else m.server, log := acquired.2 }

variable (outcome : StartOutcome) (hasRxCb : Bool)

/-- `ws_server_start` from the callback on. -/
def startHttpServer : EspErr × ServerModule :=
  let m := { m with hasRxCb := hasRxCb }
  let m := m.sslStart (outcome.httpsStart = .ok)
  if outcome.httpsStart ≠ .ok then
    (outcome.httpsStart,
      m.deletePingTimer.deleteClientLock.freeRxBuffer.freeNonceCache.freeClients)
  else (.ok, m)

/-- `ws_server_start` from the timer on. -/
def startPingTimer : EspErr × ServerModule :=
  let m := m.createPingTimer outcome.pingTimer
  if m.pingTimer.isNone then
    (.noMem, m.deleteClientLock.freeRxBuffer.freeNonceCache.freeClients)
  else m.startHttpServer outcome hasRxCb

/-- `ws_server_start` from the lock on. -/
def startClientLock : EspErr × ServerModule :=
  let m := m.createClientLock outcome.clientLock
  if m.clientLock.isNone then (.noMem, m.freeRxBuffer.freeNonceCache.freeClients)
  else m.startPingTimer outcome hasRxCb

/-- `ws_server_start` from the receive buffer on. -/
def startRxBuffer : EspErr × ServerModule :=
  let m := m.allocateRxBuffer outcome.rxBuffer
  if m.rxBuffer.isNone then (.noMem, m.freeNonceCache.freeClients)
  else m.startClientLock outcome hasRxCb

/-- `ws_server_start` from the client table on. -/
def startClients : EspErr × ServerModule :=
  let m := m.allocateClients outcome.clients
  if m.clients.isNone then (.noMem, m.freeNonceCache)
  else m.startRxBuffer outcome hasRxCb

/-- `ws_server_start` from the nonce cache on. -/
def startNonceCache : EspErr × ServerModule :=
  if m.securityCtx.handshakeEnabled then
    let m := m.allocateNonceCache outcome.nonceCache
    if m.nonceCache.isNone then (.noMem, m) else m.startClients outcome hasRxCb
  else m.startClients outcome hasRxCb

/-- `ws_server_start` -/
def start (mb : Mbedtls) (tickRateHz : UInt32) (config : WsServerConfig) :
    EspErr × ServerModule :=
  if config.serverCert.isEmpty || config.serverKey.isEmpty then (.invalidArg, m)
  else if m.server.isSome then (.invalidState, m)
  else
    let cfg := withDefaults config
    let m := { m with cfg := cfg }
    if (cfg.enableFrameEncryption || cfg.enableHandshakeToken) && cfg.cryptoSecret.isEmpty then
      (.invalidArg, m)
    else if cfg.enableTotp && (cfg.totpSecret.isEmpty || cfg.totpDigits < 6 ||
        cfg.totpDigits > 8 || cfg.totpPeriodS = 0) then
      (.invalidArg, m)
    else match wsSecurityContextInit mb (some (serverSecurityConfig cfg)) with
      | (.ok, ctx) =>
          ServerModule.startNonceCache
            { m with
              securityCtx := wsSecurityResetCounters ctx, nonceCache := none, nonceCapacity := 0
              nonceTtlTicks := pdMsToTicks tickRateHz cfg.handshakeReplayWindowMs }
            outcome hasRxCb
      | (err, ctx) => (err, { m with securityCtx := ctx })

/-- `ws_server_stop` -/
def stop : ServerModule :=
  let m := m.deletePingTimer.stopHttpServer.deleteClientLock.freeRxBuffer.freeClients
  let m := { m with clientCapacity := 0, hasRxCb := false }
  { m.freeNonceCache with nonceTtlTicks := 0, securityCtx := {} }

/-- An event of the running server: the handlers change the tables and the security context, and
no pointer. -/
def serve (mb : Mbedtls) (tickRateHz : UInt32) (event : WsServerEvent) : ServerModule :=
  let srv := (wsServerStep mb tickRateHz m.toWsServer event).1
  { m with
    clients := m.clients.map fun (handle, _) => (handle, srv.clients)
    nonceCache := m.nonceCache.map fun (handle, _) => (handle, srv.nonceCache)
    securityCtx := srv.securityCtx }

end ServerModule

/-- What happens to the module. -/
inductive ServerModuleEvent
  | start (outcome : StartOutcome) (config : WsServerConfig) (hasRxCb : Bool)
  | stop
  | serve (event : WsServerEvent)

/-- The module after an event. -/
def ServerModule.step (mb : Mbedtls) (tickRateHz : UInt32) (m : ServerModule) :
    ServerModuleEvent → ServerModule
  | .start outcome config hasRxCb => (m.start outcome hasRxCb mb tickRateHz config).2
  | .stop => m.stop
  | .serve event => m.serve mb tickRateHz event

namespace ServerModule

section Account

variable {m : ServerModule} {outcome : StartOutcome} {hasRxCb : Bool}

/-- The handles of the module are accounted for. -/
def Accounted (m : ServerModule) : Prop := Conserved m.log m.pointer

/-- No static pointer holds a handle. -/
def Idle (m : ServerModule) : Prop := ∀ resource, m.pointer resource = none

/-- A change that releases one pointer and clears it keeps the account. -/
theorem Accounted.release {after : ServerModule} {resource : ServerResource} (h : m.Accounted)
    (hlog : after.log = m.log.release resource (m.pointer resource))
    (hpointer : after.pointer = Function.update m.pointer resource none) : after.Accounted := by
  rw [Accounted, hlog, hpointer]
  exact Conserved.release h

/-- So does one that fills an empty pointer. -/
theorem Accounted.acquire {after : ServerModule} {resource : ServerResource} {granted : Bool}
    (h : m.Accounted) (hempty : m.pointer resource = none)
    (hlog : after.log = (m.log.acquire resource granted).2)
    (hpointer : after.pointer =
      Function.update m.pointer resource (m.log.acquire resource granted).1) :
    after.Accounted := by
  rw [Accounted, hlog, hpointer]
  exact Conserved.acquire h hempty

theorem Accounted.freeNonceCache (h : m.Accounted) : m.freeNonceCache.Accounted := by
  refine @Accounted.release m m.freeNonceCache .nonceCache h rfl ?_
  funext resource
  cases resource <;> rfl

theorem Accounted.freeClients (h : m.Accounted) : m.freeClients.Accounted := by
  refine @Accounted.release m m.freeClients .clients h rfl ?_
  funext resource
  cases resource <;> rfl

theorem Accounted.freeRxBuffer (h : m.Accounted) : m.freeRxBuffer.Accounted := by
  refine @Accounted.release m m.freeRxBuffer .rxBuffer h rfl ?_
  funext resource
  cases resource <;> rfl

theorem Accounted.deleteClientLock (h : m.Accounted) : m.deleteClientLock.Accounted := by
  refine @Accounted.release m m.deleteClientLock .clientLock h rfl ?_
  funext resource
  cases resource <;> rfl

theorem Accounted.deletePingTimer (h : m.Accounted) : m.deletePingTimer.Accounted := by
  refine @Accounted.release m m.deletePingTimer .pingTimer h rfl ?_
  funext resource
  cases resource <;> rfl

theorem Accounted.stopHttpServer (h : m.Accounted) : m.stopHttpServer.Accounted := by
  refine @Accounted.release m m.stopHttpServer .httpServer h rfl ?_
  funext resource
  cases resource <;> rfl

theorem Accounted.allocateNonceCache {granted : Bool} (h : m.Accounted) (hempty :
    m.nonceCache = none) :
    (m.allocateNonceCache granted).Accounted := by
  have hpointer : m.pointer .nonceCache = none := congrArg (Option.map Prod.fst) hempty
  refine @Accounted.acquire m (m.allocateNonceCache granted) .nonceCache granted h hpointer rfl ?_
  funext resource
  cases resource
  case nonceCache => exact (Option.map_map _ _ _).trans (congrFun Option.map_id _)
  all_goals rfl

theorem Accounted.allocateClients {granted : Bool} (h : m.Accounted) (hempty : m.clients = none) :
    (m.allocateClients granted).Accounted := by
  have hpointer : m.pointer .clients = none := congrArg (Option.map Prod.fst) hempty
  refine @Accounted.acquire m (m.allocateClients granted) .clients granted h hpointer rfl ?_
  funext resource
  cases resource
  case clients => exact (Option.map_map _ _ _).trans (congrFun Option.map_id _)
  all_goals rfl

theorem Accounted.allocateRxBuffer {granted : Bool} (h : m.Accounted) (hempty : m.rxBuffer = none) :
    (m.allocateRxBuffer granted).Accounted := by
  refine @Accounted.acquire m (m.allocateRxBuffer granted) .rxBuffer granted h hempty rfl ?_
  funext resource
  cases resource <;> rfl

theorem Accounted.createClientLock {granted : Bool} (h : m.Accounted) (hempty :
    m.clientLock = none) :
    (m.createClientLock granted).Accounted := by
  refine @Accounted.acquire m (m.createClientLock granted) .clientLock granted h hempty rfl ?_
  funext resource
  cases resource <;> rfl

theorem Accounted.createPingTimer {granted : Bool} (h : m.Accounted) (hempty : m.pingTimer = none) :
    (m.createPingTimer granted).Accounted := by
  refine @Accounted.acquire m (m.createPingTimer granted) .pingTimer granted h hempty rfl ?_
  funext resource
  cases resource <;> rfl

theorem Accounted.sslStart {granted : Bool} (h : m.Accounted) (hempty : m.server = none) :
    (m.sslStart granted).Accounted := by
  refine @Accounted.acquire m (m.sslStart granted) .httpServer granted h hempty rfl ?_
  funext resource
  cases resource
  case httpServer =>
    cases granted
    · exact hempty
    · rfl
  all_goals rfl

/-- A part of the start that fails, or leaves no server, leaves the module idle, and the account
is kept either way. -/
def Clean (result : EspErr × ServerModule) : Prop :=
  result.2.Accounted ∧ (result.1 ≠ .ok ∨ result.2.server = none → result.2.Idle)

/-- The HTTP server is the last to be acquired. -/
theorem startHttpServer_clean (h : m.Accounted) (hserver : m.server = none) :
    Clean (m.startHttpServer outcome hasRxCb) := by
  have hacquired : Accounted (ServerModule.sslStart { m with hasRxCb := hasRxCb }
      (outcome.httpsStart = .ok)) := Accounted.sslStart h hserver
  rw [startHttpServer]
  split_ifs with hfail
  · refine ⟨?_, fun _ resource => ?_⟩
    · exact Accounted.freeClients (Accounted.freeNonceCache (Accounted.freeRxBuffer
        (Accounted.deleteClientLock (Accounted.deletePingTimer hacquired))))
    · cases resource
      case httpServer => exact (if_neg (by simpa using hfail)).trans hserver
      all_goals rfl
  · refine ⟨hacquired, fun hfailed => ?_⟩
    have hstarted : outcome.httpsStart = .ok := not_not.mp hfail
    have hheld : (ServerModule.sslStart { m with hasRxCb := hasRxCb }
        (outcome.httpsStart = .ok)).server = some m.log.next := by
      rw [hstarted]
      rfl
    rcases hfailed with herr | hnone
    · exact absurd rfl herr
    · exact absurd (hnone.symm.trans hheld) (by simp)

theorem startPingTimer_clean (h : m.Accounted) (htimer : m.pingTimer = none)
    (hserver : m.server = none) : Clean (m.startPingTimer outcome hasRxCb) := by
  have hacquired := @Accounted.createPingTimer m outcome.pingTimer h htimer
  rw [startPingTimer]
  split_ifs with hfail
  · refine ⟨?_, fun _ resource => ?_⟩
    · exact Accounted.freeClients (Accounted.freeNonceCache (Accounted.freeRxBuffer
        (Accounted.deleteClientLock hacquired)))
    · cases resource
      case httpServer => exact hserver
      case pingTimer => exact Option.isNone_iff_eq_none.mp hfail
      all_goals rfl
  · exact startHttpServer_clean hacquired hserver

theorem startClientLock_clean (h : m.Accounted) (hlock : m.clientLock = none)
    (htimer : m.pingTimer = none) (hserver : m.server = none) :
    Clean (m.startClientLock outcome hasRxCb) := by
  have hacquired := @Accounted.createClientLock m outcome.clientLock h hlock
  rw [startClientLock]
  split_ifs with hfail
  · refine ⟨?_, fun _ resource => ?_⟩
    · exact Accounted.freeClients (Accounted.freeNonceCache (Accounted.freeRxBuffer hacquired))
    · cases resource
      case httpServer => exact hserver
      case pingTimer => exact htimer
      case clientLock => exact Option.isNone_iff_eq_none.mp hfail
      all_goals rfl
  · exact startPingTimer_clean hacquired htimer hserver

theorem startRxBuffer_clean (h : m.Accounted) (hbuffer : m.rxBuffer = none)
    (hlock : m.clientLock = none) (htimer : m.pingTimer = none) (hserver : m.server = none) :
    Clean (m.startRxBuffer outcome hasRxCb) := by
  have hacquired := @Accounted.allocateRxBuffer m outcome.rxBuffer h hbuffer
  rw [startRxBuffer]
  split_ifs with hfail
  · refine ⟨?_, fun _ resource => ?_⟩
    · exact Accounted.freeClients (Accounted.freeNonceCache hacquired)
    · cases resource
      case httpServer => exact hserver
      case pingTimer => exact htimer
      case clientLock => exact hlock
      case rxBuffer => exact Option.isNone_iff_eq_none.mp hfail
      all_goals rfl
  · exact startClientLock_clean hacquired hlock htimer hserver

theorem startClients_clean (h : m.Accounted) (hclients : m.clients = none)
    (hbuffer : m.rxBuffer = none) (hlock : m.clientLock = none) (htimer : m.pingTimer = none)
    (hserver : m.server = none) : Clean (m.startClients outcome hasRxCb) := by
  have hacquired := @Accounted.allocateClients m outcome.clients h hclients
  rw [startClients]
  split_ifs with hfail
  · refine ⟨?_, fun _ resource => ?_⟩
    · exact Accounted.freeNonceCache hacquired
    · cases resource
      case httpServer => exact hserver
      case pingTimer => exact htimer
      case clientLock => exact hlock
      case rxBuffer => exact hbuffer
      case clients => exact congrArg (Option.map Prod.fst) (Option.isNone_iff_eq_none.mp hfail)
      case nonceCache => rfl
  · exact startRxBuffer_clean hacquired hbuffer hlock htimer hserver

theorem Idle.clients (h : m.Idle) : m.clients = none := Option.map_eq_none_iff.mp (h .clients)

theorem Idle.nonceCache (h : m.Idle) : m.nonceCache = none :=
  Option.map_eq_none_iff.mp (h .nonceCache)

theorem startNonceCache_clean (h : m.Accounted) (hidle : m.Idle) :
    Clean (m.startNonceCache outcome hasRxCb) := by
  have hacquired := @Accounted.allocateNonceCache m outcome.nonceCache h hidle.nonceCache
  rw [startNonceCache]
  split
  case isTrue =>
    dsimp only
    split
    case isTrue hfail =>
      refine ⟨hacquired, fun _ resource => ?_⟩
      cases resource
      case nonceCache => exact congrArg (Option.map Prod.fst) (Option.isNone_iff_eq_none.mp hfail)
      case clients => exact hidle .clients
      case rxBuffer => exact hidle .rxBuffer
      case clientLock => exact hidle .clientLock
      case pingTimer => exact hidle .pingTimer
      case httpServer => exact hidle .httpServer
    case isFalse =>
      exact startClients_clean hacquired hidle.clients (hidle .rxBuffer) (hidle .clientLock)
        (hidle .pingTimer) (hidle .httpServer)
  case isFalse =>
    exact startClients_clean h hidle.clients (hidle .rxBuffer) (hidle .clientLock)
      (hidle .pingTimer) (hidle .httpServer)

/-- A start of an idle module that fails leaves it idle. -/
theorem start_clean {mb : Mbedtls} {tickRateHz : UInt32} {config : WsServerConfig}
    (h : m.Accounted) (hidle : m.Idle) :
    Clean (m.start outcome hasRxCb mb tickRateHz config) := by
  have hsame : ∀ (err : EspErr) (after : ServerModule), after.log = m.log →
      after.pointer = m.pointer → Clean (err, after) := by
    intro err after hlog hpointer
    refine ⟨?_, fun _ resource => ?_⟩
    · rw [Accounted, hlog, hpointer]
      exact h
    · rw [hpointer, hidle resource]
  rw [start]
  split
  · exact hsame _ _ rfl rfl
  split
  · exact hsame _ _ rfl rfl
  dsimp only
  split
  · exact hsame _ _ rfl rfl
  split
  · exact hsame _ _ rfl rfl
  split
  case h_1 ctx hinit =>
    have hpointer : ∀ cfg securityCtx ttl, ServerModule.pointer { m with
        cfg := cfg, securityCtx := securityCtx, nonceCache := none, nonceCapacity := 0
        nonceTtlTicks := ttl } = m.pointer := by
      intro cfg securityCtx ttl
      funext resource
      cases resource
      case nonceCache => exact (hidle .nonceCache).symm
      all_goals rfl
    refine startNonceCache_clean ?_ ?_
    · rw [Accounted, hpointer]
      exact h
    · intro resource
      rw [hpointer, hidle resource]
  case h_2 err ctx hinit => exact hsame _ _ rfl rfl

/-- A start of a running server is refused and changes nothing. -/
theorem start_running {mb : Mbedtls} {tickRateHz : UInt32} {config : WsServerConfig}
    (hserver : m.server ≠ none) :
    (m.start outcome hasRxCb mb tickRateHz config).1 ≠ .ok ∧
      (m.start outcome hasRxCb mb tickRateHz config).2 = m := by
  rw [start]
  split
  · exact ⟨by simp, rfl⟩
  · rw [if_pos (Option.isSome_iff_ne_none.mpr hserver)]
    exact ⟨by simp, rfl⟩

/-- The stop releases what is held. -/
theorem stop_clean (h : m.Accounted) : m.stop.Accounted ∧ m.stop.Idle := by
  constructor
  · exact Accounted.freeNonceCache (Accounted.freeClients (Accounted.freeRxBuffer
      (Accounted.deleteClientLock (Accounted.stopHttpServer (Accounted.deletePingTimer h)))))
  · intro resource
    cases resource <;> rfl

/-- The stop of an idle module releases nothing. -/
theorem stop_idle (hidle : m.Idle) : m.stop.log = m.log := by
  have hlog : m.stop.log = (((((m.log.release .pingTimer (m.pointer .pingTimer)).release .httpServer
      (m.pointer .httpServer)).release .clientLock (m.pointer .clientLock)).release .rxBuffer
        (m.pointer .rxBuffer)).release .clients (m.pointer .clients)).release .nonceCache
          (m.pointer .nonceCache) := rfl
  rw [hlog, hidle .pingTimer, hidle .httpServer, hidle .clientLock, hidle .rxBuffer,
    hidle .clients, hidle .nonceCache]
  rfl

/-- The account of the handles, and no pointer left while the server is not running. -/
structure ModuleInv (m : ServerModule) : Prop where
  accounted : m.Accounted
  idle : m.server = none → m.Idle

theorem moduleInv_fresh : ModuleInv {} := by
  have hpointer : ServerModule.pointer {} = fun _ => none := by
    funext resource
    cases resource <;> rfl
  refine ⟨?_, fun _ resource => ?_⟩
  · rw [Accounted, hpointer]
    exact conserved_start
  · rw [hpointer]

/-- Every event keeps the account. -/
theorem ModuleInv.step {mb : Mbedtls} {tickRateHz : UInt32} {event : ServerModuleEvent}
    (h : ModuleInv m) : ModuleInv (m.step mb tickRateHz event) := by
  cases event with
  | start outcome config hasRxCb =>
      by_cases hserver : m.server = none
      · have hclean := @start_clean m outcome hasRxCb mb tickRateHz config h.accounted
          (h.idle hserver)
        exact ⟨hclean.1, fun hnone => hclean.2 (.inr hnone)⟩
      · rw [ServerModule.step, (start_running hserver).2]
        exact h
  | stop => exact ⟨(stop_clean h.accounted).1, fun _ => (stop_clean h.accounted).2⟩
  | serve event =>
      have hpointer : (m.serve mb tickRateHz event).pointer = m.pointer := by
        funext resource
        cases resource
        case clients => exact Option.map_map _ _ _
        case nonceCache => exact Option.map_map _ _ _
        all_goals rfl
      refine ⟨?_, fun hserver resource => ?_⟩
      · rw [Accounted, ServerModule.step, hpointer]
        exact h.accounted
      · rw [ServerModule.step, hpointer]
        exact h.idle hserver resource

/-- The account holds after every run. -/
theorem moduleInv_run {mb : Mbedtls} {tickRateHz : UInt32} (events : List ServerModuleEvent) :
    ModuleInv (events.foldl (ServerModule.step mb tickRateHz) {}) := by
  induction events using List.reverseRecOn with
  | nil => exact moduleInv_fresh
  | append_singleton events event ih =>
      rw [List.foldl_append]
      exact ih.step

end Account

section Projection

variable {m : ServerModule} {outcome : StartOutcome} {hasRxCb : Bool}

/-- The HTTP server of a start, seen through the statics. -/
theorem toWsServer_startHttpServer (hserver : m.server = none) :
    Prod.map id toWsServer (m.startHttpServer outcome hasRxCb) =
      if outcome.httpsStart ≠ .ok then
        (outcome.httpsStart, releaseStart { m.toWsServer with hasRxCb := hasRxCb })
      else (.ok, { m.toWsServer with hasRxCb := hasRxCb, httpServer := true }) := by
  rw [startHttpServer]
  by_cases hstarted : outcome.httpsStart = .ok
  · simp [hstarted, sslStart, Log.acquire, toWsServer]
  · simp [hstarted, hserver, sslStart, toWsServer, releaseStart, deletePingTimer,
      deleteClientLock, freeRxBuffer, freeNonceCache, freeClients]

/-- The stages between the client table and the HTTP server. -/
theorem toWsServer_startRxBuffer (hserver : m.server = none) (hlock : m.clientLock = none)
    (htimer : m.pingTimer = none) :
    Prod.map id toWsServer (m.startRxBuffer outcome hasRxCb) =
      if !(outcome.rxBuffer && outcome.clientLock && outcome.pingTimer) then
        (.noMem, releaseStart m.toWsServer)
      else if outcome.httpsStart ≠ .ok then
        (outcome.httpsStart, releaseStart { m.toWsServer with hasRxCb := hasRxCb })
      else (.ok, { m.toWsServer with
        rxBuffer := true, clientLock := true, pingTimer := true, hasRxCb := hasRxCb
        httpServer := true }) := by
  rw [startRxBuffer]
  cases hgranted : outcome.rxBuffer
  · simp [allocateRxBuffer, Log.acquire, freeNonceCache, freeClients, toWsServer, releaseStart,
      hlock, htimer]
  dsimp only
  rw [if_neg (by simp [allocateRxBuffer, Log.acquire]), startClientLock]
  cases outcome.clientLock
  · simp [createClientLock, Log.acquire, freeNonceCache, freeClients, freeRxBuffer, toWsServer,
      releaseStart, htimer, allocateRxBuffer]
  rw [if_neg (by simp [createClientLock, Log.acquire]), startPingTimer]
  cases outcome.pingTimer
  · simp [createPingTimer, Log.acquire, freeNonceCache, freeClients, freeRxBuffer, deleteClientLock,
      toWsServer, releaseStart, createClientLock, allocateRxBuffer]
  rw [if_neg (by simp [createPingTimer, Log.acquire])]
  exact toWsServer_startHttpServer hserver

theorem toWsServer_startClients (hserver : m.server = none) (hbuffer : m.rxBuffer = none)
    (hlock : m.clientLock = none) (htimer : m.pingTimer = none) :
    Prod.map id toWsServer (m.startClients outcome hasRxCb) =
      if !(outcome.clients && outcome.rxBuffer && outcome.clientLock && outcome.pingTimer) then
        (.noMem, releaseStart m.toWsServer)
      else if outcome.httpsStart ≠ .ok then
        (outcome.httpsStart, releaseStart { m.toWsServer with hasRxCb := hasRxCb })
      else (.ok, { m.toWsServer with
        clients := List.replicate m.cfg.maxClients (idleClient m.toWsServer)
        rxBuffer := true, clientLock := true, pingTimer := true, hasRxCb := hasRxCb
        httpServer := true }) := by
  rw [startClients]
  cases outcome.clients
  · simp [allocateClients, Log.acquire, freeNonceCache, toWsServer, releaseStart, hbuffer,
      hlock, htimer]
  dsimp only
  rw [if_neg (by simp [allocateClients, Log.acquire])]
  exact @toWsServer_startRxBuffer (m.allocateClients true) outcome hasRxCb hserver
    hlock htimer

/-- The stages of the start are `startResources`. -/
theorem toWsServer_startNonceCache (hidle : m.Idle) (hsize : m.cfg.handshakeCacheSize ≠ 0) :
    Prod.map id toWsServer (m.startNonceCache outcome hasRxCb) =
      startResources outcome hasRxCb m.toWsServer := by
  have hcache : m.nonceCache = none := hidle.nonceCache
  rw [startNonceCache, startResources]
  cases hhandshake : m.securityCtx.handshakeEnabled
  case true =>
    have henabled : m.toWsServer.securityCtx.handshakeEnabled = true := hhandshake
    rw [henabled]
    cases outcome.nonceCache
    · simp [allocateNonceCache, Log.acquire, toWsServer, hcache]
    · have hallocated : (m.allocateNonceCache true).toWsServer = { m.toWsServer with
          nonceCache := List.replicate m.cfg.handshakeCacheSize {} } := by
        simp [toWsServer, allocateNonceCache, hsize, Log.acquire]
      dsimp only
      rw [if_pos rfl, if_neg (by simp [allocateNonceCache, Log.acquire]),
        @toWsServer_startClients (m.allocateNonceCache true) outcome hasRxCb (hidle .httpServer)
          (hidle .rxBuffer) (hidle .clientLock) (hidle .pingTimer), hallocated]
      rfl
  case false =>
    have hdisabled : m.toWsServer.securityCtx.handshakeEnabled = false := hhandshake
    have hempty : m.toWsServer = { m.toWsServer with nonceCache := [] } := by
      simp [toWsServer, hcache]
    rw [hdisabled, if_neg (by simp), toWsServer_startClients (hidle .httpServer)
      (hidle .rxBuffer) (hidle .clientLock) (hidle .pingTimer), hempty]
    rfl

/-- Seen through the statics, a start of the idle module is `wsServerStart`. -/
theorem toWsServer_start {mb : Mbedtls} {tickRateHz : UInt32} {config : WsServerConfig}
    (hidle : m.Idle) :
    Prod.map id toWsServer (m.start outcome hasRxCb mb tickRateHz config) =
      wsServerStart mb tickRateHz outcome config hasRxCb m.toWsServer := by
  have hstopped : ¬ m.server.isSome = true := by
    rw [show m.server = none from hidle .httpServer]
    simp
  have hsize : (withDefaults config).handshakeCacheSize ≠ 0 := by
    simp only [withDefaults]
    split_ifs <;> omega
  rw [start, wsServerStart]
  by_cases hempty : (config.serverCert.isEmpty || config.serverKey.isEmpty) = true
  · rw [if_pos hempty, if_pos hempty]
    rfl
  have hserver : ¬ m.toWsServer.httpServer = true := hstopped
  rw [if_neg hempty, if_neg hempty, if_neg hstopped, if_neg hserver]
  dsimp only
  split
  · rfl
  split
  · rfl
  generalize wsSecurityContextInit mb (some (serverSecurityConfig (withDefaults config))) = initial
  obtain ⟨err, ctx⟩ := initial
  cases err
  case ok =>
    refine toWsServer_startNonceCache (fun resource => ?_) hsize
    cases resource
    case nonceCache => rfl
    case clients => exact hidle .clients
    case rxBuffer => exact hidle .rxBuffer
    case clientLock => exact hidle .clientLock
    case pingTimer => exact hidle .pingTimer
    case httpServer => exact hidle .httpServer
  all_goals rfl

theorem toWsServer_stop : m.stop.toWsServer = wsServerStop m.toWsServer := rfl

end Projection

section Retry

variable {m : ServerModule} {outcome : StartOutcome} {hasRxCb : Bool}

/-- Two results that differ at most in what a failed start leaves in statics nothing reads before
the next start sets them. -/
structure SameStart (first second : EspErr × ServerModule) : Prop where
  result : first.1 = second.1
  log : first.2.log = second.2.log
  pointer : first.2.pointer = second.2.pointer
  state : first.1 = .ok → first.2 = second.2

theorem SameStart.refl (result : EspErr × ServerModule) : SameStart result result :=
  ⟨rfl, rfl, rfl, fun _ => rfl⟩

/-- Two modules that fail in the same way. -/
theorem SameStart.failed {first second : ServerModule} {err : EspErr} (herr : err ≠ .ok)
    (hlog : first.log = second.log) (hpointer : first.pointer = second.pointer) :
    SameStart (err, first) (err, second) :=
  ⟨rfl, hlog, hpointer, fun hok => absurd hok herr⟩

/-- Two stages that test the same acquisition. -/
theorem SameStart.stage {refused : Bool} {failed failed' rest rest' : EspErr × ServerModule}
    (hfailed : SameStart failed failed') (hrest : SameStart rest rest') :
    SameStart (if refused then failed else rest) (if refused then failed' else rest') := by
  cases refused
  · exact hrest
  · exact hfailed

variable (stale : Bool) (capacity : Nat)

/-- The callback is set before the HTTP server is started, so that a stale one is never seen. -/
theorem startPingTimer_stale :
    SameStart (ServerModule.startPingTimer { m with hasRxCb := stale } outcome hasRxCb)
      (m.startPingTimer outcome hasRxCb) := by
  refine SameStart.stage (SameStart.failed (by simp) rfl ?_) (SameStart.refl _)
  funext resource
  cases resource <;> rfl

theorem startClientLock_stale :
    SameStart (ServerModule.startClientLock { m with hasRxCb := stale } outcome hasRxCb)
      (m.startClientLock outcome hasRxCb) := by
  refine SameStart.stage (SameStart.failed (by simp) rfl ?_)
    (@startPingTimer_stale (m.createClientLock outcome.clientLock) outcome hasRxCb stale)
  funext resource
  cases resource <;> rfl

theorem startRxBuffer_stale :
    SameStart (ServerModule.startRxBuffer { m with hasRxCb := stale } outcome hasRxCb)
      (m.startRxBuffer outcome hasRxCb) := by
  refine SameStart.stage (SameStart.failed (by simp) rfl ?_)
    (@startClientLock_stale (m.allocateRxBuffer outcome.rxBuffer) outcome hasRxCb stale)
  funext resource
  cases resource <;> rfl

/-- The capacity is set before the client table is allocated. -/
theorem startClients_stale :
    SameStart (ServerModule.startClients
      { m with clientCapacity := capacity, hasRxCb := stale } outcome hasRxCb)
      (m.startClients outcome hasRxCb) := by
  refine SameStart.stage (SameStart.failed (by simp) rfl ?_)
    (@startRxBuffer_stale (m.allocateClients outcome.clients) outcome hasRxCb stale)
  funext resource
  cases resource <;> rfl

theorem startNonceCache_stale :
    SameStart (ServerModule.startNonceCache
      { m with clientCapacity := capacity, hasRxCb := stale } outcome hasRxCb)
      (m.startNonceCache outcome hasRxCb) := by
  refine SameStart.stage (SameStart.stage (SameStart.failed (by simp) rfl ?_) ?_) ?_
  · funext resource
    cases resource <;> rfl
  · exact @startClients_stale (m.allocateNonceCache outcome.nonceCache) outcome hasRxCb stale
      capacity
  · exact @startClients_stale m outcome hasRxCb stale capacity

/-- An idle module starts as a fresh one. -/
theorem start_idle {mb : Mbedtls} {tickRateHz : UInt32} {config : WsServerConfig}
    (hidle : m.Idle) :
    SameStart (m.start outcome hasRxCb mb tickRateHz config)
      (ServerModule.start { log := m.log } outcome hasRxCb mb tickRateHz config) := by
  have hfresh : ServerModule.Idle { log := m.log } := by
    intro resource
    cases resource <;> rfl
  have hfailed : ∀ (err : EspErr) (first second : ServerModule), err ≠ .ok →
      first.log = second.log → first.Idle → second.Idle → SameStart (err, first) (err, second) := by
    intro err first second herr hlog hfirst hsecond
    refine SameStart.failed herr hlog (funext fun resource => ?_)
    rw [hfirst resource, hsecond resource]
  have hserver : m.server = none := hidle .httpServer
  have hstopped : ¬ m.server.isSome = true := by simp [hserver]
  have hclients : m.clients = none := hidle.clients
  have hbuffer : m.rxBuffer = none := hidle .rxBuffer
  have hlock : m.clientLock = none := hidle .clientLock
  have htimer : m.pingTimer = none := hidle .pingTimer
  rw [start, start]
  refine SameStart.stage (hfailed .invalidArg _ _ (by simp) rfl hidle hfresh) ?_
  rw [if_neg hstopped]
  refine SameStart.stage (hfailed .invalidArg _ _ (by simp) rfl hidle hfresh) ?_
  refine SameStart.stage (hfailed .invalidArg _ _ (by simp) rfl hidle hfresh) ?_
  generalize wsSecurityContextInit mb (some (serverSecurityConfig (withDefaults config))) = initial
  obtain ⟨err, ctx⟩ := initial
  cases err
  case ok =>
    dsimp only
    rw [hserver, hclients, hlock, htimer, hbuffer]
    exact @startNonceCache_stale
      { cfg := withDefaults config, securityCtx := wsSecurityResetCounters ctx, log := m.log
        nonceTtlTicks := pdMsToTicks tickRateHz (withDefaults config).handshakeReplayWindowMs }
      outcome hasRxCb m.hasRxCb m.clientCapacity
  all_goals exact hfailed _ _ _ (by simp) rfl hidle hfresh

end Retry

end ServerModule

/-- A start that fails has released every handle it acquired, and no pointer holds a released one.
Where no server was running none is left: a send is refused, a stop releases nothing, and the next
start is that of a fresh module. -/
theorem failed_start_clean (mb : Mbedtls) (tickRateHz : UInt32) (events : List ServerModuleEvent)
    (outcome : StartOutcome) (config : WsServerConfig) (hasRxCb : Bool) :
    let before := events.foldl (ServerModule.step mb tickRateHz) {}
    let result := before.start outcome hasRxCb mb tickRateHz config
    let after := result.2
    result.1 ≠ .ok →
      (∀ resource handle, Call.acquire resource handle ∈ after.log.calls →
        Call.acquire resource handle ∉ before.log.calls →
        after.log.calls.count (.release resource handle) = 1) ∧
      (∀ resource handle, after.pointer resource = some handle →
        Call.release resource handle ∉ after.log.calls) ∧
      (∀ resource handle, after.stop.log.calls.count (.release resource handle) ≤ 1) ∧
      (before.server = none →
        after.Idle ∧
        (∀ data iv allocated sendResult, wsServerSend mb after.toWsServer data iv allocated
          sendResult = ((.invalidState, after.toWsServer), [])) ∧
        after.stop.log = after.log ∧
        ∀ next : StartOutcome, ServerModule.SameStart
          (after.start next hasRxCb mb tickRateHz config)
          (ServerModule.start { log := after.log } next hasRxCb mb tickRateHz config)) := by
  intro before result after hfailed
  have hbefore : ServerModule.ModuleInv before := ServerModule.moduleInv_run events
  have hafter : ServerModule.ModuleInv after :=
    @ServerModule.ModuleInv.step before mb tickRateHz (.start outcome config hasRxCb) hbefore
  have hidle : before.server = none → after.Idle := by
    intro hserver
    exact (ServerModule.start_clean hbefore.accounted (hbefore.idle hserver)).2 (.inl hfailed)
  refine ⟨?_, ?_, ?_, fun hserver => ⟨hidle hserver, ?_, ?_, fun next => ?_⟩⟩
  · intro resource handle hacquired hnew
    by_cases hserver : before.server = none
    · exact hafter.accounted.released_once (hidle hserver) hacquired
    · have hsame : after = before := (ServerModule.start_running hserver).2
      rw [hsame] at hacquired
      exact absurd hacquired hnew
  · intro resource handle hheld
    exact hafter.accounted.not_released hheld
  · intro resource handle
    exact (ServerModule.stop_clean hafter.accounted).1.released_le
  · intro data iv allocated sendResult
    have hstopped : after.toWsServer.httpServer = false := by
      rw [ServerModule.toWsServer, show after.server = none from hidle hserver .httpServer]
      rfl
    rw [wsServerSend, hstopped]
    rfl
  · exact ServerModule.stop_idle (hidle hserver)
  · exact ServerModule.start_idle (hidle hserver)

/-- Settings with the handshake, which allocates a nonce cache too. -/
def cleanupConfig : WsServerConfig := { gateConfig with enableHandshakeToken := true }

/-- The HTTP server fails last, and everything before it is released. -/
theorem failed_start_clean_https :
    let after := (ServerModule.start {} { httpsStart := .fail } true gateMbedtls 100
      cleanupConfig).2
    after.log.calls =
      [.acquire .nonceCache 0, .acquire .clients 1, .acquire .rxBuffer 2, .acquire .clientLock 3,
        .acquire .pingTimer 4, .release .pingTimer 4, .release .clientLock 3,
        .release .rxBuffer 2, .release .nonceCache 0, .release .clients 1] ∧
      after.log.calls.count (.release .nonceCache 0) = 1 ∧ after.Idle ∧
      after.stop.log = after.log := by
  intro after
  obtain ⟨honce, -, -, hstopped⟩ := failed_start_clean gateMbedtls 100 [] { httpsStart := .fail }
    cleanupConfig true (by decide)
  obtain ⟨hidle, -, hstop, -⟩ := hstopped rfl
  have hcalls : after.log.calls =
      [.acquire .nonceCache 0, .acquire .clients 1, .acquire .rxBuffer 2, .acquire .clientLock 3,
        .acquire .pingTimer 4, .release .pingTimer 4, .release .clientLock 3,
        .release .rxBuffer 2, .release .nonceCache 0, .release .clients 1] := by
    decide
  have hacquired : Call.acquire .nonceCache 0 ∈ after.log.calls := by
    rw [hcalls]
    exact List.mem_cons_self
  exact ⟨hcalls, honce .nonceCache 0 hacquired List.not_mem_nil, hidle, hstop⟩

end SensorHmi
