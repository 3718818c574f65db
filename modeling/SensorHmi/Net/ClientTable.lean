import SensorHmi.Net.ReplayLife

/-!
# The client table

How many slots of `s_clients` a descriptor occupies. Only an accepted handshake occupies a new slot,
and `add_client` takes the first free one without a look at the others, so the table stays in order
exactly as long as no registered descriptor does a second handshake: `client_table_ok_iff`.
-/

namespace SensorHmi

/-- The number of slots that hold a descriptor. -/
def slotsOf (srv : WsServer) (fd : Int) : Nat :=
  srv.clients.countP fun client => client.fd = fd

/-- `ws_server_active_client_count` -/
def wsServerActiveClientCount (srv : WsServer) : Nat :=
  srv.clients.countP fun client => 0 ≤ client.fd

/-- The descriptors that hold a slot. -/
def registeredFds (srv : WsServer) : Finset Int :=
  ((srv.clients.map WsClient.fd).filter fun fd => 0 ≤ fd).toFinset

/-- Each descriptor occupies at most one slot; dropping it leaves none, and the active clients are
counted by their descriptors. -/
structure ClientTableOk (srv : WsServer) : Prop where
  unique : ∀ fd, 0 ≤ fd → slotsOf srv fd ≤ 1
  dropped : ∀ fd, 0 ≤ fd → slotsOf (dropClientLocked srv fd).1 fd = 0
  counted : wsServerActiveClientCount srv = (registeredFds srv).card

/-- `authorize_request` for a handshake at a server. -/
def authorizedGet (mb : Mbedtls) (srv : WsServer) (req : HttpdReq) (authNow : TickType)
    (unixTime : UInt64) : Bool :=
  (authorizeRequest mb
    { authToken := srv.cfg.authToken, ctx := srv.securityCtx, nonceTtlTicks := srv.nonceTtlTicks
      now := authNow, unixTime := unixTime } req srv.nonceCache).1

/-- An authorised handshake of a registered descriptor, while a slot is free. -/
def SecondHandshake (mb : Mbedtls) (srv : WsServer) : WsServerEvent → Prop
  | .get req fd authNow _ unixTime =>
      0 ≤ fd ∧ (∃ client ∈ srv.clients, client.fd = fd) ∧
        (∃ client ∈ srv.clients, client.fd < 0) ∧ authorizedGet mb srv req authNow unixTime = true
  | .frame _ _ _ | .closed _ | .pingTimer _ _ | .send _ _ _ _ => False

section Count

variable {srv : WsServer} {fd : Int} {i : Nat} {client new : WsClient}

theorem slotsOf_pos : 0 < slotsOf srv fd ↔ ∃ client ∈ srv.clients, client.fd = fd := by
  simp [slotsOf, List.countP_pos_iff]

/-- A replaced slot counts for its old descriptor before and for its new one after. -/
theorem slotsOf_setClient (h : srv.clients[i]? = some client) :
    slotsOf (srv.setClient i new) fd + (if client.fd = fd then 1 else 0) =
      slotsOf srv fd + (if new.fd = fd then 1 else 0) := by
  have hset := @Slots.countP_set _ (fun client => decide (client.fd = fd)) _ _ _ new h
  simp only [decide_eq_true_eq] at hset
  exact hset

/-- Dropping a descriptor frees one of its slots. -/
theorem slotsOf_dropClientLocked (hfd : 0 ≤ fd) :
    slotsOf (dropClientLocked srv fd).1 fd = slotsOf srv fd - 1 := by
  unfold dropClientLocked
  split
  case h_1 hnone =>
    have hzero : slotsOf srv fd = 0 := by
      rw [slotsOf, List.countP_eq_zero]
      intro client hmem
      simpa using Slots.first_eq_none_iff.mp hnone client hmem
    simp only [hzero]
  case h_2 i client hfind =>
    have hset := @slotsOf_setClient srv fd i client (idleClient srv) (Slots.get_of_first hfind).1
    have hidle : (idleClient srv).fd ≠ fd := by
      show (-1 : Int) ≠ fd
      omega
    rw [if_pos (fd_of_findClient hfind), if_neg hidle] at hset
    show slotsOf (srv.setClient i (idleClient srv)) fd = slotsOf srv fd - 1
    omega

/-- In a table without doubles the count of the clients is the number of descriptors. -/
theorem activeClientCount_eq_card (h : ∀ fd, 0 ≤ fd → slotsOf srv fd ≤ 1) :
    wsServerActiveClientCount srv = (registeredFds srv).card := by
  have hnodup : ((srv.clients.map WsClient.fd).filter fun fd => 0 ≤ fd).Nodup := by
    rw [List.nodup_iff_count_le_one]
    intro fd
    by_cases hfd : 0 ≤ fd
    · rw [List.count_filter (by simpa using hfd), List.count_eq_countP, List.countP_map]
      have hone := h fd hfd
      simpa only [slotsOf, Function.comp_def, beq_iff_eq, Bool.beq_eq_decide_eq] using hone
    · rw [List.count_eq_zero_of_not_mem fun hmem =>
        hfd (by simpa using (List.mem_filter.mp hmem).2)]
      exact Nat.zero_le 1
  rw [registeredFds, List.toFinset_card_of_nodup hnodup, ← List.countP_eq_length_filter,
    List.countP_map]
  rfl

/-- A table is in order when each descriptor occupies at most one slot. -/
theorem clientTableOk_iff : ClientTableOk srv ↔ ∀ fd, 0 ≤ fd → slotsOf srv fd ≤ 1 := by
  constructor
  · exact ClientTableOk.unique
  · intro h
    refine ⟨h, fun fd hfd => ?_, activeClientCount_eq_card h⟩
    have hone := h fd hfd
    rw [slotsOf_dropClientLocked hfd]
    omega

end Count

/-- No descriptor occupies more slots than before. -/
def NoMoreSlots (before after : WsServer) : Prop :=
  ∀ fd, 0 ≤ fd → slotsOf after fd ≤ slotsOf before fd

namespace NoMoreSlots

variable {first second third : WsServer}

theorem refl (srv : WsServer) : NoMoreSlots srv srv :=
  fun _ _ => Nat.le_refl _

theorem trans (h : NoMoreSlots first second) (h' : NoMoreSlots second third) :
    NoMoreSlots first third :=
  fun fd hfd => (h' fd hfd).trans (h fd hfd)

/-- A slot that keeps its descriptor or becomes free. -/
theorem setClient {srv : WsServer} {i : Nat} {client new : WsClient}
    (h : srv.clients[i]? = some client) (hnew : new.fd = client.fd ∨ new.fd < 0) :
    NoMoreSlots srv (srv.setClient i new) := by
  intro fd hfd
  have hset := @slotsOf_setClient srv fd i client new h
  rcases hnew with hsame | hfree
  · rw [hsame] at hset
    omega
  · rw [if_neg (by omega : ¬ new.fd = fd)] at hset
    omega

end NoMoreSlots

section Handlers

variable (mb : Mbedtls) (srv : WsServer)

theorem dropClientLocked_noMoreSlots (fd : Int) : NoMoreSlots srv (dropClientLocked srv fd).1 := by
  unfold dropClientLocked
  split
  case h_1 => exact .refl srv
  case h_2 i client hfind =>
    exact .setClient (Slots.get_of_first hfind).1 (.inr (by show (-1 : Int) < 0; omega))

theorem pingSlot_noMoreSlots (tickRateHz : UInt32) (now : TickType) (sendResult : Nat → EspErr)
    (i : Nat) : NoMoreSlots srv (pingSlot tickRateHz now sendResult srv i).1 := by
  unfold pingSlot
  dsimp only
  split
  case h_1 => exact .refl srv
  case h_2 client hslot =>
    split_ifs
    · exact .refl srv
    · exact dropClientLocked_noMoreSlots srv client.fd
    · exact .setClient hslot (.inl rfl)
    · exact dropClientLocked_noMoreSlots srv client.fd
    · exact .refl srv

theorem sendSlot_noMoreSlots (frame : Bytes) (sendResult : Nat → EspErr)
    (state : EspErr × WsServer) (i : Nat) :
    NoMoreSlots state.2 (sendSlot frame sendResult state i).1.2 := by
  obtain ⟨result, srv⟩ := state
  unfold sendSlot
  dsimp only
  split
  case h_1 => exact .refl srv
  case h_2 client hslot =>
    split_ifs
    · exact .refl srv
    · exact .refl srv
    · exact dropClientLocked_noMoreSlots srv client.fd

theorem wsServerSend_noMoreSlots (data : Bytes) (iv : Vector UInt8 12) (allocated : Bool)
    (sendResult : Nat → EspErr) :
    NoMoreSlots srv (wsServerSend mb srv data iv allocated sendResult).1.2 := by
  unfold wsServerSend
  dsimp only
  split_ifs
  · exact .refl srv
  · exact .refl srv
  · split
    case h_1 err ctx hencrypt => exact .refl srv
    case h_2 frame ctx hencrypt =>
      exact Machine.run_related
        (fun before after : EspErr × WsServer => NoMoreSlots before.2 after.2)
        (fun state => .refl state.2) (fun h h' => h.trans h')
        (sendSlot_noMoreSlots frame sendResult)

theorem wsHandlerFrame_noMoreSlots (fd : Int) (recv : WsRecv) (now : TickType) :
    NoMoreSlots srv (wsHandlerFrame mb srv fd recv now).2.1 := by
  have hcase := wsHandlerFrame_case mb srv fd recv now
  generalize (wsHandlerFrame mb srv fd recv now).2 = result at hcase
  have hset : ∀ {i : Nat} {client client' : WsClient}, findClient srv fd = some (i, client) →
      client'.fd = fd → NoMoreSlots srv (srv.setClient i client') := by
    intro i client client' hfind hfd
    exact .setClient (Slots.get_of_first hfind).1 (.inl (hfd.trans (fd_of_findClient hfind).symm))
  cases hcase with
  | refused => exact .refl srv
  | handled hfind hfd | opened hfind hfd | clear _ hfind hfd => exact hset hfind hfd
  | rejected hfind hfd => exact (hset hfind hfd).trans (dropClientLocked_noMoreSlots _ fd)

theorem markClientVerified_slotsOf (fd other : Int) :
    slotsOf (markClientVerified srv fd) other = slotsOf srv other := by
  unfold markClientVerified
  split
  case h_1 => rfl
  case h_2 i client hfind =>
    have hset := @slotsOf_setClient srv other i client
      { client with handshakeVerified := true, lastCounter := 0 } (Slots.get_of_first hfind).1
    exact Nat.add_right_cancel hset

/-- A registration takes a slot that was free, if there is one. -/
theorem addClient_slotsOf {fd other : Int} (hother : 0 ≤ other) (now : TickType) :
    slotsOf (addClient srv fd now).2.1 other = slotsOf srv other +
      if fd = other ∧ ∃ client ∈ srv.clients, client.fd < 0 then 1 else 0 := by
  unfold addClient
  split
  case isTrue hempty =>
    have hnil : srv.clients = [] := List.isEmpty_iff.mp hempty
    rw [if_neg (by simp [hnil])]
    rfl
  case isFalse =>
    split
    case h_1 hnone =>
      have hfull : ¬ (fd = other ∧ ∃ client ∈ srv.clients, client.fd < 0) := by
        rintro ⟨-, client, hmem, hfree⟩
        have hbusy := Slots.first_eq_none_iff.mp hnone client hmem
        exact absurd hfree (by simpa using hbusy)
      rw [if_neg hfull]
      rfl
    case h_2 i client hfound =>
      obtain ⟨hslot, hfree⟩ := Slots.get_of_first hfound
      have hnegative : client.fd < 0 := by simpa using hfree
      have hset := @slotsOf_setClient srv other i client
        { idleClient srv with fd := fd, lastSeen := now } hslot
      have hroom : ∃ client ∈ srv.clients, client.fd < 0 :=
        ⟨client, List.mem_of_getElem? hslot, hnegative⟩
      rw [if_neg (by omega : ¬ client.fd = other), Nat.add_zero] at hset
      simpa only [hroom, and_true] using hset

/-- A handshake takes a slot when it is authorised and one is free. -/
theorem wsHandlerGet_slotsOf {req : HttpdReq} {fd other : Int} (hother : 0 ≤ other)
    (authNow now : TickType) (unixTime : UInt64) :
    slotsOf (wsHandlerGet mb srv req fd authNow now unixTime).2.1 other = slotsOf srv other +
      if fd = other ∧ (∃ client ∈ srv.clients, client.fd < 0) ∧
        authorizedGet mb srv req authNow unixTime = true then 1 else 0 := by
  unfold wsHandlerGet authorizedGet
  dsimp only
  generalize hauthorized : authorizeRequest mb _ req srv.nonceCache = authorized
  split
  case isTrue hrefused =>
    rw [if_neg fun h => by simp [h.2.2] at hrefused]
    rfl
  case isFalse haccepted =>
    have hyes : authorized.1 = true := by simpa using haccepted
    have hadd := @addClient_slotsOf { srv with nonceCache := authorized.2 } fd other hother now
    have hcount : slotsOf { srv with nonceCache := authorized.2 } other = slotsOf srv other := rfl
    simp only [hyes, and_true, hcount] at hadd ⊢
    rw [← hadd]
    split
    case h_1 added outputs hresult =>
      rw [hresult]
      split
      · exact markClientVerified_slotsOf added fd other
      · rfl
    case h_2 err added outputs _ hresult => rw [hresult]

end Handlers

/-- A step leaves a table in order exactly when it is not a second handshake. -/
theorem wsServerStep_clientTableOk (mb : Mbedtls) (tickRateHz : UInt32) (srv : WsServer)
    (event : WsServerEvent) (hok : ClientTableOk srv) :
    ClientTableOk (wsServerStep mb tickRateHz srv event).1 ↔ ¬ SecondHandshake mb srv event := by
  have hquiet : ∀ {srv' : WsServer}, NoMoreSlots srv srv' → (ClientTableOk srv' ↔ ¬ False) := by
    intro srv' hless
    refine iff_of_true (clientTableOk_iff.mpr fun fd hfd => ?_) not_false
    exact (hless fd hfd).trans (hok.unique fd hfd)
  cases event with
  | frame fd recv now => exact hquiet (wsHandlerFrame_noMoreSlots mb srv fd recv now)
  | closed fd => exact hquiet (dropClientLocked_noMoreSlots srv fd)
  | pingTimer now sendResult =>
      exact hquiet (Machine.run_related NoMoreSlots .refl (fun h h' => h.trans h')
        (pingSlot_noMoreSlots · tickRateHz now sendResult ·))
  | send data iv allocated sendResult =>
      exact hquiet (wsServerSend_noMoreSlots mb srv data iv allocated sendResult)
  | get req fd authNow now unixTime =>
      rw [clientTableOk_iff]
      constructor
      · rintro hafter ⟨hfd, hregistered, hroom, hauthorized⟩
        have hmore := @wsHandlerGet_slotsOf mb srv req fd fd hfd authNow now unixTime
        rw [if_pos ⟨rfl, hroom, hauthorized⟩] at hmore
        have hheld := slotsOf_pos.mpr hregistered
        have hone := hafter fd hfd
        simp only [wsServerStep] at hone
        omega
      · intro hfirst other hother
        have hmore := @wsHandlerGet_slotsOf mb srv req fd other hother authNow now unixTime
        have hone := hok.unique other hother
        show slotsOf (wsHandlerGet mb srv req fd authNow now unixTime).2.1 other ≤ 1
        rw [hmore]
        split
        case isTrue hnew =>
          obtain ⟨rfl, hroom, hauthorized⟩ := hnew
          have hzero : ¬ 0 < slotsOf srv fd := fun hpos =>
            hfirst ⟨hother, slotsOf_pos.mp hpos, hroom, hauthorized⟩
          omega
        case isFalse => exact hone

/-- In every run from a successful start the client table is in order after every prefix, if and
only if no step is a second handshake of a registered descriptor that is accepted. -/
theorem client_table_ok_iff {mb : Mbedtls} {tickRateHz : UInt32} {outcome : StartOutcome}
    {config : WsServerConfig} {hasRxCb : Bool} {before srv : WsServer}
    (hstart : wsServerStart mb tickRateHz outcome config hasRxCb before = (.ok, srv))
    (events : List WsServerEvent) :
    (∀ earlier later, events = earlier ++ later →
      ClientTableOk (Machine.run (wsServerStep mb tickRateHz) srv earlier).1) ↔
    Machine.EachStep (wsServerStep mb tickRateHz) (fun srv event => ¬ SecondHandshake mb srv event)
      srv events := by
  have hempty : ClientTableOk srv := by
    refine clientTableOk_iff.mpr fun fd hfd => ?_
    have hzero : slotsOf srv fd = 0 := by
      rw [slotsOf, List.countP_eq_zero]
      intro client hmem
      rw [(wsServerStart_ok hstart).2.2 client hmem, decide_eq_true_eq]
      omega
    omega
  exact @Machine.everyPrefix_iff _ _ _ _ srv events (fun _ => True) _ _ (fun _ _ _ => trivial)
    (fun srv event _ hok => wsServerStep_clientTableOk mb tickRateHz srv event hok) trivial hempty

theorem client_table_ok_two_descriptors :
    ClientTableOk (Machine.run (wsServerStep gateMbedtls 100) gateServer
      [connectEvent 7, connectEvent 8, .closed 7, connectEvent 7]).1 := by
  have hstart : wsServerStart gateMbedtls 100 {} gateConfig true {} = (.ok, gateServer) := by
    decide
  refine (client_table_ok_iff hstart
    [connectEvent 7, connectEvent 8, .closed 7, connectEvent 7]).mpr ?_ _ [] rfl
  refine ⟨fun h => ?_, fun h => ?_, id, fun h => ?_, trivial⟩
  · exact absurd h.2.1 (by decide)
  · exact absurd h.2.1 (by decide)
  · exact absurd h.2.1 (by decide)

/-- A second handshake of descriptor 7: the close hook then removes one of its two entries. -/
theorem second_handshake_leaves_ghost :
    wsServerStart gateMbedtls 100 {} gateConfig true {} = (.ok, gateServer) ∧
    slotsOf (Machine.run (wsServerStep gateMbedtls 100) gateServer
      [connectEvent 7, connectEvent 7]).1 7 = 2 ∧
    slotsOf (Machine.run (wsServerStep gateMbedtls 100) gateServer
      [connectEvent 7, connectEvent 7, .closed 7]).1 7 = 1 ∧
    ¬ ClientTableOk (Machine.run (wsServerStep gateMbedtls 100) gateServer
      [connectEvent 7, connectEvent 7]).1 :=
  ⟨by decide, by decide, by decide, fun h => absurd (h.unique 7 (by decide)) (by decide)⟩

end SensorHmi
