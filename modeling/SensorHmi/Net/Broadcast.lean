import SensorHmi.Net.ClientTable

/-!
# Broadcasts

`ws_server_send` over a whole table. The loop drops a client through a search of the table it walks;
in a table without doubles that search comes back to the slot at hand, so each slot is decided by
its own send alone (`sendLoop_eq`).
-/

namespace SensorHmi

/-- The registered clients, with their slots, in slot order. -/
def registeredSlots (srv : WsServer) : List (WsClient × Nat) :=
  srv.clients.zipIdx.filter fun slot => 0 ≤ slot.1.fd

/-- What a broadcast does for the client in a slot. -/
def broadcastOutputs (frame : Bytes) (sendResult : Nat → EspErr) (slot : WsClient × Nat) :
    List WsServerOutput :=
  if slot.1.fd < 0 then []
  else if sendResult slot.2 = .ok then [.sent slot.1.fd .binary frame]
  else [.sent slot.1.fd .binary frame, .triggerClose slot.1.fd, .removed slot.1.fd]

/-- What a broadcast leaves in a slot. -/
def broadcastSlot (srv : WsServer) (sendResult : Nat → EspErr) (i : Nat) (client : WsClient) :
    WsClient :=
  if 0 ≤ client.fd ∧ sendResult i ≠ .ok then idleClient srv else client

/-- The result so far, behind one more slot. -/
def broadcastResult (sendResult : Nat → EspErr) (result : EspErr) (slot : WsClient × Nat) :
    EspErr :=
  if 0 ≤ slot.1.fd ∧ sendResult slot.2 ≠ .ok then sendResult slot.2 else result

/-- The statics when the first `k` slots have been served. -/
def servedTo (srv : WsServer) (sendResult : Nat → EspErr) (k : Nat) : WsServer :=
  { srv with clients := srv.clients.mapIdx fun i client =>
      if i < k then broadcastSlot srv sendResult i client else client }

section Loop

variable {srv : WsServer} {frame : Bytes} {sendResult : Nat → EspErr} {k : Nat}
  {client : WsClient}

/-- A slot that is still to be served is as it was. -/
theorem getElem?_servedTo (h : srv.clients[k]? = some client) :
    (servedTo srv sendResult k).clients[k]? = some client := by
  simp [servedTo, h]

/-- The search for a registered client comes back to its slot. -/
theorem findClient_servedTo (hunique : ∀ fd, 0 ≤ fd → slotsOf srv fd ≤ 1)
    (h : srv.clients[k]? = some client) (hfd : 0 ≤ client.fd) :
    findClient (servedTo srv sendResult k) client.fd = some (k, client) := by
  refine Slots.first_eq_some (getElem?_servedTo h) (by simp) fun j other hj hother => ?_
  simp only [servedTo, List.getElem?_mapIdx, Option.map_eq_some_iff, if_pos hj] at hother
  obtain ⟨before, hbefore, rfl⟩ := hother
  have hdiffer := Slots.other_of_countP_le_one (hunique client.fd hfd) h (by simp) hbefore
    (by omega)
  unfold broadcastSlot
  split
  · rw [decide_eq_false_iff_not]
    show ¬ (-1 : Int) = client.fd
    omega
  · exact hdiffer

/-- One slot of the loop. -/
theorem sendSlot_servedTo (hunique : ∀ fd, 0 ≤ fd → slotsOf srv fd ≤ 1)
    (h : srv.clients[k]? = some client) (result : EspErr) :
    sendSlot frame sendResult (result, servedTo srv sendResult k) k =
      ((broadcastResult sendResult result (client, k), servedTo srv sendResult (k + 1)),
        broadcastOutputs frame sendResult (client, k)) := by
  have hnext : ∀ new, broadcastSlot srv sendResult k client = new →
      (servedTo srv sendResult k).setClient k new = servedTo srv sendResult (k + 1) := by
    rintro new rfl
    rw [WsServer.setClient, servedTo, servedTo]
    congr 1
    refine List.ext_getElem? fun i => ?_
    rw [List.getElem?_set, List.getElem?_mapIdx]
    by_cases hi : k = i
    · subst hi
      obtain ⟨hlt, hget⟩ := List.getElem?_eq_some_iff.mp h
      simp [hlt, hget]
    · have hsame : (i < k + 1) ↔ i < k := by omega
      simp only [if_neg hi, List.getElem?_mapIdx, hsame]
  have hkept : broadcastSlot srv sendResult k client = client →
      servedTo srv sendResult k = servedTo srv sendResult (k + 1) := by
    intro hsame
    obtain ⟨hlt, hget⟩ := List.getElem?_eq_some_iff.mp
      (@getElem?_servedTo srv sendResult k client h)
    have hset := List.set_getElem_self hlt
    rw [hget] at hset
    rw [← hnext client hsame, WsServer.setClient, hset]
  simp only [sendSlot, getElem?_servedTo h, broadcastOutputs, broadcastResult]
  by_cases hidle : client.fd < 0
  · have hsame : broadcastSlot srv sendResult k client = client := if_neg (by omega)
    rw [if_pos hidle, if_pos hidle, if_neg (by omega), hkept hsame]
  · have hfd : 0 ≤ client.fd := by omega
    rw [if_neg hidle, if_neg hidle]
    by_cases hok : sendResult k = .ok
    · have hsame : broadcastSlot srv sendResult k client = client := if_neg (by simp [hok])
      rw [if_pos hok, if_pos hok, if_neg (by simp [hok]), hkept hsame]
    · have hdropped : broadcastSlot srv sendResult k client = idleClient srv := if_pos ⟨hfd, hok⟩
      rw [if_neg hok, if_neg hok, if_pos ⟨hfd, hok⟩, dropClientLocked,
        findClient_servedTo hunique h hfd]
      have hidleClient : idleClient (servedTo srv sendResult k) = idleClient srv := rfl
      dsimp only
      rw [hidleClient, hnext _ hdropped]

/-- The loop of `ws_server_send` decides each slot by its own send. -/
theorem sendLoop_eq (hunique : ∀ fd, 0 ≤ fd → slotsOf srv fd ≤ 1) :
    Machine.run (sendSlot frame sendResult) (.ok, srv) (List.range srv.clients.length) =
      ((srv.clients.zipIdx.foldl (broadcastResult sendResult) .ok,
          { srv with clients := srv.clients.mapIdx (broadcastSlot srv sendResult) }),
        srv.clients.zipIdx.flatMap (broadcastOutputs frame sendResult)) := by
  have htaken : ∀ k, k ≤ srv.clients.length →
      Machine.run (sendSlot frame sendResult) (.ok, srv) (List.range k) =
        (((srv.clients.zipIdx.take k).foldl (broadcastResult sendResult) .ok,
            servedTo srv sendResult k),
          (srv.clients.zipIdx.take k).flatMap (broadcastOutputs frame sendResult)) := by
    intro k hk
    induction k with
    | zero =>
        have hsame : srv.clients.mapIdx (fun _ client => client) = srv.clients :=
          List.ext_getElem? fun i => by simp
        have hnone : servedTo srv sendResult 0 = srv := by simp [servedTo, hsame]
        simp [hnone]
    | succ k ih =>
        have hlt : k < srv.clients.length := hk
        have hslot : srv.clients[k]? = some srv.clients[k] := List.getElem?_eq_getElem hlt
        have hzip : srv.clients.zipIdx.take (k + 1) =
            srv.clients.zipIdx.take k ++ [(srv.clients[k], k)] := by
          rw [List.take_add_one, List.getElem?_zipIdx, hslot]
          simp
        rw [List.range_succ, Machine.run_append, ih (by omega), hzip]
        simp only [Machine.run_cons, Machine.run_nil, sendSlot_servedTo hunique hslot,
          List.foldl_append, List.foldl_cons, List.foldl_nil, List.flatMap_append,
          List.flatMap_cons, List.flatMap_nil]
  have hall : servedTo srv sendResult srv.clients.length =
      { srv with clients := srv.clients.mapIdx (broadcastSlot srv sendResult) } := by
    rw [servedTo]
    congr 1
    refine List.ext_getElem? fun i => ?_
    simp only [List.getElem?_mapIdx]
    cases hget : srv.clients[i]? with
    | none => rfl
    | some client =>
        obtain ⟨hlt, -⟩ := List.getElem?_eq_some_iff.mp hget
        simp [hlt]
  rw [htaken _ le_rfl, hall, List.take_of_length_le (by simp)]

end Loop

/-- The client in a slot was offered the frame and did not take it. -/
def sendFailed (sendResult : Nat → EspErr) (slot : WsClient × Nat) : Bool :=
  sendResult slot.2 ≠ .ok

/-- A broadcast of a frame: every registered client is offered it once, in slot order; those whose
send failed are closed once, and only they leave the table; the result is the error of the last
failing slot, if there is one. -/
structure Broadcast (srv : WsServer) (frame : Bytes) (sendResult : Nat → EspErr)
    (done : (EspErr × WsServer) × List WsServerOutput) : Prop where
  offered : (done.2.filter fun output => match output with
      | .sent _ _ _ => true
      | _ => false) =
    (registeredSlots srv).map fun slot => .sent slot.1.fd .binary frame
  closed : (done.2.filter fun output => match output with
      | .triggerClose _ => true
      | _ => false) =
    ((registeredSlots srv).filter (sendFailed sendResult)).map fun slot => .triggerClose slot.1.fd
  table : done.1.2.clients = srv.clients.mapIdx (broadcastSlot srv sendResult)
  result : done.1.1 =
    ((((registeredSlots srv).filter (sendFailed sendResult)).map fun slot =>
      sendResult slot.2).getLast?).getD .ok

section Spec

variable {srv : WsServer} {frame : Bytes} {sendResult : Nat → EspErr}

/-- The result of the loop is that of the last slot that is registered and failed. -/
theorem foldl_broadcastResult (slots : List (WsClient × Nat)) (result : EspErr) :
    slots.foldl (broadcastResult sendResult) result =
      ((((slots.filter fun slot => 0 ≤ slot.1.fd).filter (sendFailed sendResult)).map fun slot =>
        sendResult slot.2).getLast?).getD result := by
  induction slots generalizing result with
  | nil => rfl
  | cons slot rest ih =>
      rw [List.foldl_cons, ih, broadcastResult]
      by_cases hfd : 0 ≤ slot.1.fd
      · by_cases hok : sendResult slot.2 = .ok
        · simp [hfd, hok, sendFailed]
        · rw [if_pos ⟨hfd, hok⟩, List.filter_cons_of_pos (by simpa using hfd),
            List.filter_cons_of_pos (by simpa [sendFailed] using hok), List.map_cons,
            List.getLast?_cons]
          rfl
      · rw [if_neg fun h => hfd h.1, List.filter_cons_of_neg (by simpa using hfd)]

/-- What the outputs of one kind are, slot by slot. -/
theorem filter_broadcastOutputs (slots : List (WsClient × Nat)) (kind : WsServerOutput → Bool)
    (make : WsClient × Nat → List WsServerOutput)
    (hmake : ∀ slot, (broadcastOutputs frame sendResult slot).filter kind =
      if 0 ≤ slot.1.fd then make slot else []) :
    (slots.flatMap (broadcastOutputs frame sendResult)).filter kind =
      (slots.filter fun slot => 0 ≤ slot.1.fd).flatMap make := by
  induction slots with
  | nil => rfl
  | cons slot rest ih =>
      rw [List.flatMap_cons, List.filter_append, hmake, ih]
      by_cases hfd : 0 ≤ slot.1.fd <;> simp [hfd]

/-- In a table without doubles the loop of `ws_server_send` is a broadcast. -/
theorem sendLoop_broadcast (hunique : ∀ fd, 0 ≤ fd → slotsOf srv fd ≤ 1) :
    Broadcast srv frame sendResult
      (Machine.run (sendSlot frame sendResult) (.ok, srv) (List.range srv.clients.length)) := by
  rw [sendLoop_eq hunique]
  refine ⟨?_, ?_, rfl, foldl_broadcastResult _ _⟩
  · rw [List.map_eq_flatMap, registeredSlots]
    refine filter_broadcastOutputs _ _ _ fun slot => ?_
    unfold broadcastOutputs
    by_cases hidle : slot.1.fd < 0
    · rw [if_pos hidle, if_neg (by omega)]
      rfl
    · have hfd : 0 ≤ slot.1.fd := by omega
      rw [if_neg hidle, if_pos hfd]
      split <;> rfl
  · have hfailed : ∀ slots : List (WsClient × Nat),
        (slots.filter (sendFailed sendResult)).map (fun slot => .triggerClose slot.1.fd) =
          slots.flatMap fun slot => if sendFailed sendResult slot then
            [WsServerOutput.triggerClose slot.1.fd] else [] := by
      intro slots
      induction slots with
      | nil => rfl
      | cons slot rest ih =>
          rw [List.filter_cons, List.flatMap_cons, ← ih]
          split <;> rfl
    rw [hfailed, registeredSlots]
    refine filter_broadcastOutputs _ _ _ fun slot => ?_
    unfold broadcastOutputs sendFailed
    by_cases hidle : slot.1.fd < 0
    · rw [if_pos hidle, if_neg (by omega)]
      rfl
    · have hfd : 0 ≤ slot.1.fd := by omega
      rw [if_neg hidle, if_pos hfd]
      by_cases hok : sendResult slot.2 = .ok <;> simp [hok]

/-- `ws_server_send` of a running server, once the frame is allocated and made, is its loop. -/
theorem wsServerSend_loop {mb : Mbedtls} {data : Bytes} {iv : Vector UInt8 12} {allocated : Bool}
    {ctx : WsSecurityContext} (hserver : srv.httpServer = true) (hdata : data ≠ [])
    (hallocated : (srv.securityCtx.encryptionEnabled && !allocated) = false)
    (hencrypt : wsSecurityEncrypt mb.toGcm iv srv.securityCtx data
      (wsSecurityEncryptedSize srv.securityCtx data.length) = (.ok frame, ctx)) :
    wsServerSend mb srv data iv allocated sendResult =
      Machine.run (sendSlot frame sendResult) (.ok, { srv with securityCtx := ctx })
        (List.range srv.clients.length) := by
  have hready : (!srv.httpServer || data.isEmpty) = false := by
    simp [hserver, hdata]
  simp only [wsServerSend, hready, hallocated, hencrypt]
  rfl

/-- Where every send succeeds the loop reaches each registered client once, and drops none. -/
theorem sendLoop_reaches (hunique : ∀ fd, 0 ≤ fd → slotsOf srv fd ≤ 1) :
    Machine.run (sendSlot frame fun _ => .ok) (.ok, srv) (List.range srv.clients.length) =
      ((.ok, srv), (registeredSlots srv).map fun slot => .sent slot.1.fd .binary frame) := by
  have hkept : broadcastSlot srv (fun _ => .ok) = fun _ client => client := by
    funext i client
    exact if_neg (by simp)
  have hresult : broadcastResult (fun _ => .ok) = fun result _ => result := by
    funext result slot
    exact if_neg (by simp)
  have houtputs : srv.clients.zipIdx.flatMap (broadcastOutputs frame fun _ => .ok) =
      (registeredSlots srv).map fun slot => .sent slot.1.fd .binary frame := by
    rw [List.map_eq_flatMap, registeredSlots]
    have hall := @filter_broadcastOutputs frame (fun _ => .ok) srv.clients.zipIdx (fun _ => true)
      (fun slot => [.sent slot.1.fd .binary frame]) ?_
    · simpa using hall
    · intro slot
      by_cases hidle : slot.1.fd < 0
      · simp [broadcastOutputs, hidle, show ¬ 0 ≤ slot.1.fd by omega]
      · simp [broadcastOutputs, hidle, show 0 ≤ slot.1.fd by omega]
  have hsame : srv.clients.mapIdx (fun _ client => client) = srv.clients :=
    List.ext_getElem? fun i => by simp
  have hfold : srv.clients.zipIdx.foldl (fun (result : EspErr) _ => result) .ok = .ok := by
    induction srv.clients.zipIdx with
    | nil => rfl
    | cons slot rest ih => exact ih
  rw [sendLoop_eq hunique, hkept, hresult, hsame, hfold, houtputs]

end Spec

/-- `ws_server_send` of a running server, for a table that holds no descriptor twice: when the frame
is allocated and made it is broadcast, and when it is not nothing is sent, closed or dropped. -/
theorem wsServerSend_broadcast (mb : Mbedtls) {srv : WsServer} {data : Bytes}
    (hserver : srv.httpServer = true) (hdata : data ≠ [])
    (hunique : ∀ fd, 0 ≤ fd → slotsOf srv fd ≤ 1) (iv : Vector UInt8 12) (allocated : Bool)
    (sendResult : Nat → EspErr) :
    (∀ frame ctx, (srv.securityCtx.encryptionEnabled && !allocated) = false →
      wsSecurityEncrypt mb.toGcm iv srv.securityCtx data
        (wsSecurityEncryptedSize srv.securityCtx data.length) = (.ok frame, ctx) →
      Broadcast srv frame sendResult (wsServerSend mb srv data iv allocated sendResult)) ∧
    ((srv.securityCtx.encryptionEnabled && !allocated) = true ∨
        (∃ err ctx, wsSecurityEncrypt mb.toGcm iv srv.securityCtx data
          (wsSecurityEncryptedSize srv.securityCtx data.length) = (.error err, ctx)) →
      (wsServerSend mb srv data iv allocated sendResult).2 = [] ∧
        (wsServerSend mb srv data iv allocated sendResult).1.2.clients = srv.clients) := by
  have hready : (!srv.httpServer || data.isEmpty) = false := by
    simp [hserver, hdata]
  constructor
  · intro frame ctx hallocated hencrypt
    rw [wsServerSend_loop hserver hdata hallocated hencrypt]
    -- of the context only the send counter has moved
    have hctx : ctx.handshakeEnabled = srv.securityCtx.handshakeEnabled := by
      rcases wsSecurityEncrypt_context hencrypt with rfl | rfl <;> rfl
    have hidle : idleClient { srv with securityCtx := ctx } = idleClient srv := by
      rw [idleClient, idleClient, hctx]
    have hloop := @sendLoop_broadcast { srv with securityCtx := ctx } frame sendResult hunique
    refine ⟨hloop.offered, hloop.closed, ?_, hloop.result⟩
    have hslot : broadcastSlot { srv with securityCtx := ctx } sendResult =
        broadcastSlot srv sendResult := by
      funext i client
      rw [broadcastSlot, broadcastSlot, hidle]
    rw [← hslot]
    exact hloop.table
  · rintro (hmalloc | ⟨err, ctx, hencrypt⟩)
    · simp only [wsServerSend, hready, hmalloc]
      exact ⟨rfl, rfl⟩
    · cases hmalloc : srv.securityCtx.encryptionEnabled && !allocated with
      | true =>
          simp only [wsServerSend, hready, hmalloc]
          exact ⟨rfl, rfl⟩
      | false =>
          simp only [wsServerSend, hready, hmalloc, hencrypt]
          exact ⟨rfl, rfl⟩

/-- Three clients, of which the second is gone. -/
def broadcastServer : WsServer :=
  { httpServer := true
    clients := [{ fd := 7, handshakeVerified := true }, { fd := 8, handshakeVerified := true },
      { handshakeVerified := true }, { fd := 9, handshakeVerified := true }] }

/-- The send to the second of three clients fails. -/
theorem wsServerSend_broadcast_three :
    Broadcast broadcastServer [1, 2] (fun i => if i = 1 then .fail else .ok)
      (wsServerSend (.zero (.single [] [] [] [] [] (List.replicate 16 0) rfl rfl)) broadcastServer
        [1, 2] (Vector.replicate 12 0) true fun i => if i = 1 then .fail else .ok) := by
  refine (wsServerSend_broadcast _ rfl (by decide) ?_ (Vector.replicate 12 0) true _).1
    [1, 2] {} rfl
    rfl
  intro fd _
  by_cases hseven : fd = 7
  · rw [hseven]
    decide
  by_cases height : fd = 8
  · rw [height]
    decide
  by_cases hnine : fd = 9
  · rw [hnine]
    decide
  by_cases hidle : fd = -1
  · rw [hidle]
    decide
  have hzero : slotsOf broadcastServer fd = 0 := by
    rw [slotsOf, List.countP_eq_zero]
    simp [broadcastServer, Ne.symm hseven, Ne.symm height, Ne.symm hnine, Ne.symm hidle]
  omega

end SensorHmi
