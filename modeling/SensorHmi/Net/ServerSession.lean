import SensorHmi.Net.WsServerStep

/-!
# The session of one connection

What `ws_server.c` keeps for a descriptor: whether its client was verified, and its replay
counter. `LeavesAlone` says that a handler does not touch it, which is so for every handler that
runs for another descriptor.
-/

namespace SensorHmi

/-- The verification and the replay counter of each slot of a descriptor. -/
def sessions (srv : WsServer) (fd : Int) : List (Bool × UInt64) :=
  (srv.clients.filter fun client => client.fd = fd).map fun client =>
    (client.handshakeVerified, client.lastCounter)

/-- The settings, the security context and the sessions of a descriptor stay. -/
structure LeavesAlone (fd : Int) (before after : WsServer) : Prop where
  cfg : after.cfg = before.cfg
  hasRxCb : after.hasRxCb = before.hasRxCb
  httpServer : after.httpServer = before.httpServer
  securityCtx : after.securityCtx = before.securityCtx
  sessions : sessions after fd = sessions before fd

namespace LeavesAlone

variable {fd : Int} {first second third : WsServer}

theorem refl (srv : WsServer) : LeavesAlone fd srv srv :=
  ⟨rfl, rfl, rfl, rfl, rfl⟩

theorem trans (h : LeavesAlone fd first second) (h' : LeavesAlone fd second third) :
    LeavesAlone fd first third :=
  ⟨h'.cfg.trans h.cfg, h'.hasRxCb.trans h.hasRxCb, h'.httpServer.trans h.httpServer,
    h'.securityCtx.trans h.securityCtx, h'.sessions.trans h.sessions⟩

end LeavesAlone

section Table

variable {srv : WsServer} {fd other : Int} {i : Nat} {client new : WsClient}

/-- A slot of other descriptors, before and after. -/
theorem setClient_other (h : srv.clients[i]? = some client) (hold : client.fd ≠ other)
    (hnew : new.fd ≠ other) : LeavesAlone other srv (srv.setClient i new) :=
  ⟨rfl, rfl, rfl, rfl, Slots.map_filter_set h (by simp [hold, hnew]) fun hslot =>
    absurd (by simpa using hslot) hold⟩

/-- A descriptor without a session is in no slot. -/
theorem filter_of_sessions_nil (h : sessions srv fd = []) :
    srv.clients.filter (fun client => client.fd = fd) = [] :=
  List.map_eq_nil_iff.mp h

theorem findClient_of_sessions_nil (h : sessions srv fd = []) : findClient srv fd = none := by
  rw [findClient, Slots.first_eq_none_iff]
  have hfilter := filter_of_sessions_nil h
  rw [List.filter_eq_nil_iff] at hfilter
  intro client hmem
  simpa using hfilter client hmem

/-- The only slot of a descriptor with one session, and what stands in it after a replacement. -/
theorem findClient_of_sessions {verified : Bool} {counter : UInt64}
    (h : sessions srv fd = [(verified, counter)]) :
    ∃ i client, findClient srv fd = some (i, client) ∧ client.handshakeVerified = verified ∧
      client.lastCounter = counter ∧
      ∀ new : WsClient, new.fd = fd →
        sessions (srv.setClient i new) fd = [(new.handshakeVerified, new.lastCounter)] := by
  obtain ⟨client, hfilter, hsession⟩ := List.map_eq_singleton_iff.mp h
  obtain ⟨hverified, hcounter⟩ := Prod.mk.inj hsession
  obtain ⟨i, hfirst, hset, -⟩ := Slots.first_of_filter_singleton hfilter
  refine ⟨i, client, hfirst, hverified, hcounter, fun new hnew => ?_⟩
  rw [sessions, WsServer.setClient, hset new (by simpa using hnew)]
  rfl

end Table

/-- A frame was refused: no callback is called, and the client of the descriptor is as it was or
gone. -/
structure Refused (fd : Int) (counter : UInt64) (before : WsServer)
    (after : WsServer × List WsServerOutput) : Prop where
  securityCtx : after.1.securityCtx = before.securityCtx
  hasRxCb : after.1.hasRxCb = before.hasRxCb
  silent : ∀ output ∈ after.2, output.isRxCb = false
  session : sessions after.1 fd = [(true, counter)] ∨ sessions after.1 fd = []

section Handlers

variable {mb : Mbedtls} (srv : WsServer) {fd other : Int}

theorem dropClientLocked_leavesAlone (hother : 0 ≤ other) (hne : fd ≠ other) :
    LeavesAlone other srv (dropClientLocked srv fd).1 := by
  unfold dropClientLocked
  split
  case h_1 => exact .refl srv
  case h_2 i client hfind =>
    have hold : client.fd ≠ other := by rwa [fd_of_findClient hfind]
    have hidle : (idleClient srv).fd ≠ other := by
      show (-1 : Int) ≠ other
      omega
    exact setClient_other (Slots.get_of_first hfind).1 hold hidle

/-- A registration that succeeds makes the first session of its descriptor. -/
theorem addClient_session {now : TickType} {srv' : WsServer} {outputs : List WsServerOutput}
    (hnew : sessions srv fd = []) (h : addClient srv fd now = (.ok, srv', outputs)) :
    srv'.securityCtx = srv.securityCtx ∧ srv'.cfg = srv.cfg ∧ srv'.hasRxCb = srv.hasRxCb ∧
      srv'.httpServer = srv.httpServer ∧
      sessions srv' fd = [(!srv.securityCtx.handshakeEnabled, 0)] := by
  unfold addClient at h
  split at h
  · cases h
  · split at h
    · cases h
    case h_2 i client hfree =>
      cases h
      refine ⟨rfl, rfl, rfl, rfl, ?_⟩
      rw [sessions, WsServer.setClient, Slots.filter_set_new (Slots.get_of_first hfree).1
        (filter_of_sessions_nil hnew) (by simp)]
      rfl

theorem addClient_leavesAlone (hother : 0 ≤ other) (hne : fd ≠ other) (now : TickType) :
    LeavesAlone other srv (addClient srv fd now).2.1 := by
  unfold addClient
  split
  case isTrue => exact .refl srv
  case isFalse =>
    split
    case h_1 => exact .refl srv
    case h_2 i client hfree =>
      obtain ⟨hslot, hnegative⟩ := Slots.get_of_first hfree
      have hold : client.fd ≠ other := by
        have : client.fd < 0 := by simpa using hnegative
        omega
      exact setClient_other hslot hold hne

theorem markClientVerified_leavesAlone (hne : fd ≠ other) :
    LeavesAlone other srv (markClientVerified srv fd) := by
  unfold markClientVerified
  split
  case h_1 => exact .refl srv
  case h_2 i client hfind =>
    have hold : client.fd ≠ other := by rwa [fd_of_findClient hfind]
    exact setClient_other (Slots.get_of_first hfind).1 hold hold

/-- Verifying a client starts its counter again. -/
theorem markClientVerified_session {verified : Bool} {counter : UInt64}
    (h : sessions srv fd = [(verified, counter)]) :
    sessions (markClientVerified srv fd) fd = [(true, 0)] := by
  obtain ⟨i, client, hfind, -, -, hset⟩ := findClient_of_sessions h
  have hfd : client.fd = fd := fd_of_findClient hfind
  rw [markClientVerified, hfind]
  exact hset _ hfd

theorem wsHandlerGet_leavesAlone (hother : 0 ≤ other) (hne : fd ≠ other) (req : HttpdReq)
    (authNow now : TickType) (unixTime : UInt64) :
    LeavesAlone other srv (wsHandlerGet mb srv req fd authNow now unixTime).2.1 := by
  unfold wsHandlerGet
  dsimp only
  generalize (authorizeRequest mb _ req srv.nonceCache).2 = cache
  have hcache : LeavesAlone other srv { srv with nonceCache := cache } := ⟨rfl, rfl, rfl, rfl, rfl⟩
  split
  case isTrue => exact hcache
  case isFalse =>
    have hadd := hcache.trans
      (addClient_leavesAlone { srv with nonceCache := cache } hother hne now)
    split
    case h_1 added outputs hresult =>
      rw [hresult] at hadd
      split
      case isTrue => exact hadd.trans (markClientVerified_leavesAlone added hne)
      case isFalse => exact hadd
    case h_2 err added outputs _ hresult =>
      rw [hresult] at hadd
      exact hadd

/-- An accepted handshake starts a verified session with counter zero, and changes no setting. -/
theorem wsHandlerGet_session {req : HttpdReq} {authNow now : TickType} {unixTime : UInt64}
    {srv' : WsServer} {outputs : List WsServerOutput} (hnew : sessions srv fd = [])
    (h : wsHandlerGet mb srv req fd authNow now unixTime = (.ok, srv', outputs)) :
    srv'.securityCtx = srv.securityCtx ∧ srv'.cfg = srv.cfg ∧ srv'.hasRxCb = srv.hasRxCb ∧
      srv'.httpServer = srv.httpServer ∧ sessions srv' fd = [(true, 0)] := by
  unfold wsHandlerGet at h
  dsimp only at h
  generalize (authorizeRequest mb _ req srv.nonceCache).2 = cache at h
  split at h
  · cases h
  split at h
  case h_2 => cases h
  case h_1 added outputs hresult =>
    obtain ⟨hctx, hcfg, hcallback, hserver, hsession⟩ :=
      addClient_session { srv with nonceCache := cache } hnew hresult
    split at h
    case isTrue hon =>
      cases h
      have hmark := markClientVerified_settings added fd
      refine ⟨?_, hmark.cfg.trans hcfg, hmark.hasRxCb.trans hcallback,
        hmark.httpServer.trans hserver, markClientVerified_session added hsession⟩
      rw [← hctx]
      unfold markClientVerified
      split <;> rfl
    case isFalse hoff =>
      cases h
      refine ⟨hctx, hcfg, hcallback, hserver, ?_⟩
      have hdisabled : srv.securityCtx.handshakeEnabled = false := by
        simpa [hctx] using hoff
      simpa [hdisabled] using hsession

/-- A frame of another descriptor. -/
theorem wsHandlerFrame_leavesAlone (hother : 0 ≤ other) (hne : fd ≠ other) (recv : WsRecv)
    (now : TickType) : LeavesAlone other srv (wsHandlerFrame mb srv fd recv now).2.1 := by
  have hcase := wsHandlerFrame_case mb srv fd recv now
  generalize (wsHandlerFrame mb srv fd recv now).2 = result at hcase
  have hset : ∀ {i : Nat} {client client' : WsClient}, findClient srv fd = some (i, client) →
      client'.fd = fd → LeavesAlone other srv (srv.setClient i client') := by
    intro i client client' hfind hfd
    have hold : client.fd ≠ other := by rwa [fd_of_findClient hfind]
    exact setClient_other (Slots.get_of_first hfind).1 hold (by rwa [hfd])
  cases hcase with
  | refused => exact .refl srv
  | handled hfind hfd | opened hfind hfd | clear _ hfind hfd => exact hset hfind hfd
  | rejected hfind hfd =>
      exact (hset hfind hfd).trans (dropClientLocked_leavesAlone _ hother hne)

/-- Removing the only session of a descriptor leaves none. -/
theorem dropClientLocked_session {session : Bool × UInt64} (hfd : 0 ≤ fd)
    (h : sessions srv fd = [session]) : sessions (dropClientLocked srv fd).1 fd = [] := by
  obtain ⟨client, hfilter, -⟩ := List.map_eq_singleton_iff.mp h
  obtain ⟨i, hfirst, -, hremove⟩ := Slots.first_of_filter_singleton hfilter
  have hidle : decide ((idleClient srv).fd = fd) = false := by
    have hnegative : (idleClient srv).fd = -1 := rfl
    rw [hnegative]
    simp only [decide_eq_false_iff_not]
    omega
  have hfind : findClient srv fd = some (i, client) := hfirst
  rw [dropClientLocked, hfind]
  simp only [sessions, WsServer.setClient]
  rw [hremove _ hidle]
  rfl

/-- With encryption off a binary frame of a verified client that fits is delivered as it is. -/
theorem wsHandlerFrame_delivers {frame : Bytes} {counter : UInt64} {now : TickType}
    (hclear : srv.securityCtx.encryptionEnabled = false)
    (hsession : sessions srv fd = [(true, counter)]) (hcallback : srv.hasRxCb = true)
    (hfits : frame.length ≤ srv.cfg.rxBufferSize) :
    ∃ srv', wsHandlerFrame mb srv fd { type := .binary, payload := frame } now =
        (.ok, srv', [.rxCb (splitCrc true frame).1 (splitCrc true frame).2]) ∧
      srv'.securityCtx = srv.securityCtx ∧ srv'.hasRxCb = srv.hasRxCb ∧
      sessions srv' fd = [(true, counter)] := by
  obtain ⟨i, client, hfind, hverified, rfl, hset⟩ := findClient_of_sessions hsession
  have hfd := fd_of_findClient hfind
  let after : WsClient := { client with lastSeen := now, awaitingPong := false }
  have hafter : sessions (srv.setClient i after) fd = [(true, client.lastCounter)] := by
    rw [hset after hfd, ← hverified]
  refine ⟨srv.setClient i after, ?_, rfl, rfl, hafter⟩
  have hoff : ¬ srv.securityCtx.encryptionEnabled = true := by
    rw [hclear]
    decide
  unfold wsHandlerFrame
  simp only [hfind, setClient_setClient, deliver]
  rw [if_neg (by simp), if_neg (by simpa using hfits), if_neg (by simp), if_neg (by simp),
    if_neg (by simp), if_neg (by simpa [WsServer.setClient] using hcallback),
    if_neg fun h => hoff h.1]
  simp [after]

/-- With encryption on a binary frame calls no callback, and the client is there no more unless the
frame does not fit. -/
theorem wsHandlerFrame_refuses {frame : Bytes} {counter : UInt64} {now : TickType} (hfd : 0 ≤ fd)
    (hsealed : srv.securityCtx.encryptionEnabled = true) (hcallback : srv.hasRxCb = true)
    (hsession : sessions srv fd = [(true, counter)] ∨ sessions srv fd = []) :
    Refused fd counter srv
      (wsHandlerFrame mb srv fd { type := .binary, payload := frame } now).2 := by
  have hsame : Refused fd counter srv (srv, []) := ⟨rfl, rfl, by simp, hsession⟩
  unfold wsHandlerFrame
  rw [if_neg (by simp)]
  by_cases hsize : srv.cfg.rxBufferSize < frame.length
  · rw [if_pos hsize]
    exact hsame
  rw [if_neg hsize, if_neg (by simp)]
  rcases hsession with hsession | hnone
  · obtain ⟨i, client, hfind, hverified, rfl, hset⟩ := findClient_of_sessions hsession
    have hclient := fd_of_findClient hfind
    let seen : WsServer := srv.setClient i { client with lastSeen := now }
    obtain ⟨err, hrefused⟩ := @wsSecurityDecrypt_sealed mb.toGcm seen.securityCtx frame
      client.lastCounter hsealed
    have hseen : sessions seen fd = [(client.handshakeVerified, client.lastCounter)] :=
      hset _ hclient
    have hdrop := dropClientLocked_housekeeping seen fd
    simp only [hfind]
    rw [if_neg (by simp), if_neg (by simp), if_neg (by simpa [WsServer.setClient] using hcallback),
      if_pos ⟨hsealed, trivial⟩, if_neg (by simp [hverified]), hrefused]
    refine ⟨?_, hdrop.settings.hasRxCb, ?_, .inr (dropClientLocked_session seen hfd hseen)⟩
    · show (dropClientLocked seen fd).1.securityCtx = srv.securityCtx
      unfold dropClientLocked
      split <;> rfl
    · intro output hmem
      rcases List.mem_cons.mp hmem with rfl | hdropped
      · rfl
      · exact hdrop.silent output hdropped
  · simp only [findClient_of_sessions_nil hnone]
    exact hsame

end Handlers

end SensorHmi
