import SensorHmi.Net.FrameGate
import SensorHmi.Net.WsServerStep

/-!
# How long a silent client is waited for

`ping_timer_cb` in three steps (the tick is read, the lock is taken, the table is scanned), and
`ws_handler` in the two that its write of `last_seen` cuts a frame into; `frameBegin` and `frameEnd`
are `wsHandlerFrame` together (`wsHandlerFrame_eq`). Between these steps time passes and the other
handlers run, but not while their lock is held nor in the task that handles a frame. The model
counts ticks without a wrap; the code sees them modulo 2^32.

The history that the property speaks of is kept beside the table (`Watch`). The callback measures
the timeout from `last_seen` and not from its ping, and a frame can leave the flag set, which is
where a client is dropped too early: `pong_timeout_iff`.
-/

namespace SensorHmi

/-- The frame branch of `ws_handler` up to the write of `last_seen`, with the slot that its pointer
`client` has from then on. -/
def frameBegin (srv : WsServer) (fd : Int) (recv : WsRecv) (now : TickType) :
    Except EspErr (WsServer × Nat) :=
  if recv.lengthResult ≠ .ok then .error recv.lengthResult
  else if srv.cfg.rxBufferSize < recv.payload.length then .error .noMem
  else if recv.payloadResult ≠ .ok then .error recv.payloadResult
  else match findClient srv fd with
    | none => .error .invalidState
    | some (i, client) => .ok (srv.setClient i { client with lastSeen := now }, i)

/-- The rest of the frame branch, through the pointer to slot `i`. -/
def frameEnd (mb : Mbedtls) (srv : WsServer) (i : Nat) (fd : Int) (recv : WsRecv) :
    EspErr × WsServer × List WsServerOutput :=
  match srv.clients[i]? with
  | none => (.ok, srv, [])
  | some client =>
      if recv.type = .pong then
        (.ok, srv.setClient i { client with awaitingPong := false }, [])
      else if recv.type = .ping then (.ok, srv, [.sent fd .pong recv.payload])
      else if !srv.hasRxCb then
        (.ok, srv.setClient i { client with awaitingPong := false }, [])
      else if srv.securityCtx.encryptionEnabled ∧ recv.type = .binary then
        if !client.handshakeVerified then (.invalidState, srv, [])
        else match wsSecurityDecrypt mb.toGcm srv.securityCtx recv.payload client.lastCounter with
          | (.error err, _) =>
              let (srv, outputs) := dropClientLocked srv fd
              (err, srv, .triggerClose fd :: outputs)
          | (.ok plaintext, counter) =>
              deliver srv i { client with lastCounter := counter } true plaintext
      else deliver srv i client (recv.type = .binary) recv.payload

/-- The callback between its steps, with the tick it read. -/
inductive PingCallback
  | idle
  | ticked (now : Nat)
  | locked (now : Nat)

/-- The history of the client in a slot: when `last_seen` was last written, when it was last sent a
ping that was taken, and whether a frame of its descriptor has come since. -/
structure Watch where
  seen : Nat := 0
  pinged : Nat := 0
  heard : Bool := false

/-- The server with the ticks so far, the two tasks that are in the middle of something, and the
history of each slot. -/
structure WatchedServer where
  srv : WsServer
  time : Nat
  callback : PingCallback := .idle
  frame : Option (Nat × Int × WsRecv) := none
  watch : Nat → Watch := fun _ => {}

/-- What happens next. -/
inductive WatchedEvent
  | elapse (ticks : Nat)
  | readTick
  | takeLock
  | scan (sendResult : Nat → EspErr)
  | frameBegin (fd : Int) (recv : WsRecv)
  | frameEnd
  | send (data : Bytes) (iv : Vector UInt8 12) (allocated : Bool) (sendResult : Nat → EspErr)
  | get (req : HttpdReq) (fd : Int) (unixTime : UInt64)
  | closed (fd : Int)

namespace WatchedServer

variable (state : WatchedServer)

/-- The tick counter as the code reads it. -/
def tick : TickType := UInt32.ofNat state.time

/-- The callback holds the lock of the table. -/
def lockHeld : Bool :=
  match state.callback with
  | .locked _ => true
  | .idle | .ticked _ => false

/-- `pong_timeout` of the callback, in ticks. -/
def pongTimeout (tickRateHz : UInt32) : Nat :=
  (pdMsToTicks tickRateHz state.srv.cfg.pongTimeoutMs).toNat

/-- The histories after a scan: a client that waits now and did not before was sent its ping. -/
def watchScan (after : WsServer) (i : Nat) : Watch :=
  if (after.clients[i]?.any fun client => client.awaitingPong) &&
      !(state.srv.clients[i]?.any fun client => client.awaitingPong) then
    { state.watch i with pinged := state.time, heard := false }
  else state.watch i

/-- The histories after a frame of the descriptor, which wrote `last_seen` of slot `found`. -/
def watchFrame (fd : Int) (found i : Nat) : Watch :=
  let watch := state.watch i
  { watch with
    seen := if i = found then state.time else watch.seen
    heard := watch.heard || state.srv.clients[i]?.any fun client => client.fd = fd }

/-- The histories after `add_client`, which takes the first free slot. -/
def watchAdded (i : Nat) : Watch :=
  match Slots.first (fun client => client.fd < 0) state.srv.clients with
  | some (free, _) => if i = free then { seen := state.time } else state.watch i
  | none => state.watch i

/-- One step of one of the tasks; a step that is not its task's next one, or that has to wait,
leaves everything as it is. -/
def step (mb : Mbedtls) (tickRateHz : UInt32) :
    WatchedEvent → WatchedServer × List WsServerOutput
  | .elapse ticks => ({ state with time := state.time + ticks }, [])
  | .readTick =>
      match state.callback with
      | .idle => ({ state with callback := .ticked state.time }, [])
      | .ticked _ | .locked _ => (state, [])
  | .takeLock =>
      match state.callback with
      | .ticked now => ({ state with callback := .locked now }, [])
      | .idle | .locked _ => (state, [])
  | .scan sendResult =>
      match state.callback with
      | .locked now =>
          let (srv, outputs) := pingTimerCb tickRateHz state.srv (UInt32.ofNat now) sendResult
          ({ state with srv := srv, callback := .idle, watch := state.watchScan srv }, outputs)
      | .idle | .ticked _ => (state, [])
  | .frameBegin fd recv =>
      if state.frame.isSome then (state, [])
      else match SensorHmi.frameBegin state.srv fd recv state.tick with
        | .error _ => (state, [])
        | .ok (srv, i) =>
            ({ state with srv := srv, frame := some (i, fd, recv), watch := state.watchFrame fd i },
              [])
  | .frameEnd =>
      match state.frame with
      | none => (state, [])
      | some (i, fd, recv) =>
          let (_, srv, outputs) := SensorHmi.frameEnd mb state.srv i fd recv
          ({ state with srv := srv, frame := none }, outputs)
  | .send data iv allocated sendResult =>
      if state.lockHeld then (state, [])
      else
        let (result, outputs) := wsServerSend mb state.srv data iv allocated sendResult
        ({ state with srv := result.2 }, outputs)
  | .get req fd unixTime =>
      if state.lockHeld || state.frame.isSome then (state, [])
      else
        let (err, srv, outputs) :=
          wsHandlerGet mb state.srv req fd state.tick state.tick unixTime
        ({ state with srv := srv, watch := if err = .ok then state.watchAdded else state.watch },
          outputs)
  | .closed fd =>
      if state.lockHeld || state.frame.isSome then (state, [])
      else
        let (srv, outputs) := wsCloseHook state.srv fd
        ({ state with srv := srv }, outputs)

/-- A client that the timeout branch of the scan drops had its ping the whole timeout ago and has
sent no frame since. That branch, and no other, starts with closing the session. -/
def FairTimeout (tickRateHz : UInt32) (state : WatchedServer) : WatchedEvent → Prop
  | .scan sendResult =>
      match state.callback with
      | .locked now =>
          let step := pingSlot tickRateHz (UInt32.ofNat now) sendResult
          Machine.EachStep step
            (fun srv i => (∃ fd rest, (step srv i).2 = .triggerClose fd :: rest) →
              (state.watch i).heard = false ∧
                (state.watch i).pinged + state.pongTimeout tickRateHz ≤ state.time)
            state.srv (List.range state.srv.clients.length)
      | .idle | .ticked _ => True
  | _ => True

/-- At a scan every waiting client whose ping is younger than the timeout, or that has sent a frame
since, was last seen less than the timeout before the tick that was read, up to whole turns of the
32-bit counter. -/
def SeenInTime (tickRateHz : UInt32) (state : WatchedServer) : WatchedEvent → Prop
  | .scan _ =>
      match state.callback with
      | .locked now => ∀ i client, state.srv.clients[i]? = some client → 0 ≤ client.fd →
          client.awaitingPong = true →
          state.time < (state.watch i).pinged + state.pongTimeout tickRateHz ∨
            (state.watch i).heard = true →
          ∃ turns : Int, (state.watch i).seen + turns * 2 ^ 32 ≤ now ∧
            now < (state.watch i).seen + turns * 2 ^ 32 + state.pongTimeout tickRateHz
      | .idle | .ticked _ => True
  | _ => True

end WatchedServer

section Frame

variable {mb : Mbedtls} {srv : WsServer} {fd : Int} {recv : WsRecv} {now : TickType}

/-- The two parts of the frame branch are the whole of it. -/
theorem wsHandlerFrame_eq :
    wsHandlerFrame mb srv fd recv now =
      match frameBegin srv fd recv now with
      | .error err => (err, srv, [])
      | .ok (begun, i) => frameEnd mb begun i fd recv := by
  unfold wsHandlerFrame frameBegin
  split
  · rfl
  split
  · rfl
  split
  · rfl
  cases hfind : findClient srv fd with
  | none => rfl
  | some found =>
    obtain ⟨i, client⟩ := found
    have hlt : i < srv.clients.length :=
      (List.getElem?_eq_some_iff.mp (Slots.get_of_first hfind).1).1
    have hslot : (srv.setClient i { client with lastSeen := now }).clients[i]? =
        some { client with lastSeen := now } := by
      rw [WsServer.setClient, List.getElem?_set_self hlt]
    refine (@Eq.trans _ (frameEnd mb (srv.setClient i { client with lastSeen := now }) i fd recv)
      _ _ (by rw [frameEnd, hslot]) ?_).symm
    rfl

/-- A frame that comes through writes the tick to the slot of its client. -/
theorem frameBegin_ok {begun : WsServer} {i : Nat}
    (h : frameBegin srv fd recv now = .ok (begun, i)) :
    ∃ client, findClient srv fd = some (i, client) ∧
      begun = srv.setClient i { client with lastSeen := now } := by
  unfold frameBegin at h
  split at h
  · cases h
  split at h
  · cases h
  split at h
  · cases h
  split at h
  case h_1 => cases h
  case h_2 found client hfind =>
    cases h
    exact ⟨client, hfind, rfl⟩

end Frame

/-- Every client of the table was in its slot before, last seen at the same tick. -/
def SeenKept (before after : WsServer) : Prop :=
  ∀ (i : Nat) (client : WsClient), after.clients[i]? = some client → 0 ≤ client.fd →
    ∃ old, before.clients[i]? = some old ∧ 0 ≤ old.fd ∧ old.lastSeen = client.lastSeen

namespace SeenKept

variable {first second third : WsServer}

theorem refl (srv : WsServer) : SeenKept srv srv :=
  fun _ client hslot hfd => ⟨client, hslot, hfd, rfl⟩

theorem trans (h : SeenKept first second) (h' : SeenKept second third) :
    SeenKept first third := by
  intro i client hslot hfd
  obtain ⟨middle, hmiddle, hfd, hseen⟩ := h' i client hslot hfd
  obtain ⟨old, hold, hfd, hseen'⟩ := h i middle hmiddle hfd
  exact ⟨old, hold, hfd, hseen'.trans hseen⟩

/-- A slot replaced with its last tick kept, or freed. -/
theorem setClient {srv : WsServer} {i : Nat} {client new : WsClient}
    (hslot : srv.clients[i]? = some client)
    (hnew : 0 ≤ new.fd → 0 ≤ client.fd ∧ client.lastSeen = new.lastSeen) :
    SeenKept srv (srv.setClient i new) := by
  intro j other hother hfd
  by_cases hj : i = j
  · subst hj
    have hlt := (List.getElem?_eq_some_iff.mp hslot).1
    rw [WsServer.setClient, List.getElem?_set_self hlt, Option.some_inj] at hother
    subst hother
    exact ⟨client, hslot, hnew hfd⟩
  · rw [WsServer.setClient, List.getElem?_set_ne hj] at hother
    exact ⟨other, hother, hfd, rfl⟩

end SeenKept

section Handlers

variable {mb : Mbedtls} {srv : WsServer} {fd : Int} {recv : WsRecv}

theorem dropClientLocked_seenKept : SeenKept srv (dropClientLocked srv fd).1 := by
  unfold dropClientLocked
  split
  case h_1 => exact SeenKept.refl srv
  case h_2 i client hfind =>
    refine SeenKept.setClient (Slots.get_of_first hfind).1 fun hfree => ?_
    exact absurd hfree (by simp [idleClient])

theorem markClientVerified_seenKept : SeenKept srv (markClientVerified srv fd) := by
  unfold markClientVerified
  split
  case h_1 => exact SeenKept.refl srv
  case h_2 i client hfind =>
    exact SeenKept.setClient (Slots.get_of_first hfind).1 fun hfd => ⟨hfd, rfl⟩

theorem pingSlot_seenKept (tickRateHz : UInt32) (now : TickType) (sendResult : Nat → EspErr)
    (i : Nat) : SeenKept srv (pingSlot tickRateHz now sendResult srv i).1 := by
  unfold pingSlot
  dsimp only
  split
  case h_1 => exact SeenKept.refl srv
  case h_2 client hslot =>
    split_ifs
    · exact SeenKept.refl srv
    · exact dropClientLocked_seenKept
    · exact SeenKept.setClient hslot fun hfd => ⟨hfd, rfl⟩
    · exact dropClientLocked_seenKept
    · exact SeenKept.refl srv

theorem sendSlot_seenKept (frame : Bytes) (sendResult : Nat → EspErr) (state : EspErr × WsServer)
    (i : Nat) : SeenKept state.2 (sendSlot frame sendResult state i).1.2 := by
  obtain ⟨result, srv⟩ := state
  unfold sendSlot
  dsimp only
  split
  case h_1 => exact SeenKept.refl srv
  case h_2 client hslot =>
    split_ifs
    · exact SeenKept.refl srv
    · exact SeenKept.refl srv
    · exact dropClientLocked_seenKept

theorem wsServerSend_seenKept (data : Bytes) (iv : Vector UInt8 12) (allocated : Bool)
    (sendResult : Nat → EspErr) :
    SeenKept srv (wsServerSend mb srv data iv allocated sendResult).1.2 := by
  unfold wsServerSend
  split
  · exact SeenKept.refl srv
  split
  · exact SeenKept.refl srv
  dsimp only
  split
  case h_1 err ctx _ => exact SeenKept.refl { srv with securityCtx := ctx }
  case h_2 frame ctx _ =>
    have hrun := @Machine.run_related _ _ _ (sendSlot frame sendResult)
      (.ok, { srv with securityCtx := ctx }) (List.range srv.clients.length)
      (fun before after => SeenKept before.2 after.2) (fun state => SeenKept.refl state.2)
      (fun h h' => h.trans h') (sendSlot_seenKept frame sendResult)
    exact hrun

theorem frameEnd_seenKept (i : Nat) : SeenKept srv (frameEnd mb srv i fd recv).2.1 := by
  unfold frameEnd
  split
  case h_1 => exact SeenKept.refl srv
  case h_2 client hslot =>
    have hcleared : ∀ counter, SeenKept srv (srv.setClient i
        { client with lastCounter := counter, awaitingPong := false }) :=
      fun counter => SeenKept.setClient hslot fun hfd => ⟨hfd, rfl⟩
    split_ifs
    · exact hcleared client.lastCounter
    · exact SeenKept.refl srv
    · exact hcleared client.lastCounter
    · exact SeenKept.refl srv
    · split
      case h_1 => exact dropClientLocked_seenKept
      case h_2 counter _ => exact hcleared counter
    · exact hcleared client.lastCounter

/-- A client is added to the first free slot. -/
theorem addClient_seen (now : TickType) :
    let result := addClient srv fd now
    (result.1 ≠ .ok → result.2.1 = srv) ∧
      (result.1 = .ok → ∃ free idle,
        Slots.first (fun client => client.fd < 0) srv.clients = some (free, idle) ∧
        result.2.1 = srv.setClient free { idleClient srv with fd := fd, lastSeen := now }) := by
  unfold addClient
  split
  case isTrue => exact ⟨fun _ => rfl, fun h => absurd h (by simp)⟩
  case isFalse =>
    split
    case h_1 => exact ⟨fun _ => rfl, fun h => absurd h (by simp)⟩
    case h_2 i client hfirst => exact ⟨fun h => absurd rfl h, fun _ => ⟨i, client, hfirst, rfl⟩⟩

/-- A handshake that is refused keeps the table; one that is accepted takes the first free slot. -/
theorem wsHandlerGet_seen (req : HttpdReq) (authNow now : TickType) (unixTime : UInt64) :
    let result := wsHandlerGet mb srv req fd authNow now unixTime
    (result.1 ≠ .ok → SeenKept srv result.2.1) ∧
      (result.1 = .ok → ∃ free idle,
        Slots.first (fun client => client.fd < 0) srv.clients = some (free, idle) ∧
        SeenKept (srv.setClient free { idleClient srv with fd := fd, lastSeen := now })
          result.2.1) := by
  unfold wsHandlerGet
  dsimp only
  split
  case isTrue => exact ⟨fun _ => SeenKept.refl srv, fun h => absurd h (by simp)⟩
  case isFalse =>
    generalize (authorizeRequest mb _ req srv.nonceCache).2 = nonceCache
    have hadd := @addClient_seen { srv with nonceCache := nonceCache } fd now
    split
    case h_1 added outputs hresult =>
      rw [hresult] at hadd
      obtain ⟨free, idle, hfirst, hset⟩ := hadd.2 rfl
      refine ⟨fun h => absurd rfl h, fun _ => ⟨free, idle, hfirst, ?_⟩⟩
      have hadded : SeenKept (srv.setClient free { idleClient srv with fd := fd, lastSeen := now })
          added := by
        dsimp only at hset
        rw [hset]
        exact SeenKept.refl _
      split
      · exact hadded.trans markClientVerified_seenKept
      · exact hadded
    case h_2 err added outputs herr hresult =>
      rw [hresult] at hadd
      have hsame : added = { srv with nonceCache := nonceCache } :=
        hadd.1 fun hok => herr hok
      refine ⟨fun _ => ?_, fun h => absurd h (by simp)⟩
      dsimp only
      rw [hsame]
      exact SeenKept.refl srv

end Handlers

/-- `last_seen` of every client is the tick of its history, modulo the width of the counter. -/
def SeenAt (srv : WsServer) (watch : Nat → Watch) : Prop :=
  ∀ (i : Nat) (client : WsClient), srv.clients[i]? = some client → 0 ≤ client.fd →
    client.lastSeen = UInt32.ofNat (watch i).seen

/-- A change that keeps the ticks, with a history that keeps them. -/
theorem SeenAt.kept {srv after : WsServer} {watch watch' : Nat → Watch} (h : SeenAt srv watch)
    (hkept : SeenKept srv after) (hwatch : ∀ i, (watch' i).seen = (watch i).seen) :
    SeenAt after watch' := by
  intro i client hslot hfd
  obtain ⟨old, hold, holdFd, hseen⟩ := hkept i client hslot hfd
  rw [← hseen, h i old hold holdFd, hwatch i]

/-- A slot written at a tick, with a history that says so. -/
theorem SeenAt.set {srv : WsServer} {watch watch' : Nat → Watch} {slot now : Nat} {new : WsClient}
    (h : SeenAt srv watch) (hnew : new.lastSeen = UInt32.ofNat now)
    (hslot : (watch' slot).seen = now) (hother : ∀ i, i ≠ slot → (watch' i).seen = (watch i).seen) :
    SeenAt (srv.setClient slot new) watch' := by
  intro i client hget hfd
  by_cases hi : i = slot
  · subst hi
    have hlt : i < srv.clients.length := by
      have hbound := (List.getElem?_eq_some_iff.mp hget).1
      rwa [WsServer.setClient, List.length_set] at hbound
    rw [WsServer.setClient, List.getElem?_set_self hlt, Option.some_inj] at hget
    rw [← hget, hnew, hslot]
  · rw [WsServer.setClient, List.getElem?_set_ne (Ne.symm hi)] at hget
    rw [h i client hget hfd, hother i hi]

namespace WatchedServer

variable {mb : Mbedtls} {tickRateHz : UInt32} {state : WatchedServer}

theorem watchScan_seen (after : WsServer) (i : Nat) :
    (state.watchScan after i).seen = (state.watch i).seen := by
  rw [watchScan]
  split <;> rfl

/-- Every step keeps the histories true. -/
theorem seenAt_step (h : SeenAt state.srv state.watch) (event : WatchedEvent) :
    SeenAt (state.step mb tickRateHz event).1.srv (state.step mb tickRateHz event).1.watch := by
  cases event with
  | elapse ticks => exact h
  | readTick =>
      rw [step]
      split <;> exact h
  | takeLock =>
      rw [step]
      split <;> exact h
  | scan sendResult =>
      rw [step]
      split
      case h_1 now _ =>
        have hkept : SeenKept state.srv
            (pingTimerCb tickRateHz state.srv (UInt32.ofNat now) sendResult).1 :=
          Machine.run_related SeenKept .refl (fun h h' => h.trans h')
            fun _ i => pingSlot_seenKept tickRateHz _ sendResult i
        exact h.kept hkept (watchScan_seen _)
      all_goals exact h
  | frameBegin fd recv =>
      rw [step]
      split
      case isTrue => exact h
      case isFalse =>
        split
        case h_1 => exact h
        case h_2 srv i hbegin =>
          obtain ⟨client, -, rfl⟩ := frameBegin_ok hbegin
          refine SeenAt.set h rfl ?_ ?_
          · simp [watchFrame]
          · intro j hj
            simp [watchFrame, hj]
  | frameEnd =>
      rw [step]
      split
      case h_1 => exact h
      case h_2 i fd recv _ => exact h.kept (frameEnd_seenKept i) fun _ => rfl
  | send data iv allocated sendResult =>
      rw [step]
      split
      · exact h
      · exact h.kept (wsServerSend_seenKept data iv allocated sendResult) fun _ => rfl
  | get req fd unixTime =>
      have hget := @wsHandlerGet_seen mb state.srv fd req state.tick state.tick unixTime
      rw [step]
      split
      case isTrue => exact h
      case isFalse =>
        dsimp only
        split
        case isTrue hok =>
          obtain ⟨free, idle, hfirst, hkept⟩ := hget.2 hok
          have hadded : ∀ i, state.watchAdded i =
              if i = free then { seen := state.time } else state.watch i := by
            intro i
            rw [watchAdded, hfirst]
          refine SeenAt.kept (SeenAt.set h rfl ?_ ?_) hkept fun _ => rfl
          · rw [hadded, if_pos rfl]
          · intro i hi
            rw [hadded, if_neg hi]
        case isFalse hrefused => exact h.kept (hget.1 hrefused) fun _ => rfl
  | closed fd =>
      rw [step]
      split
      · exact h
      · exact h.kept dropClientLocked_seenKept fun _ => rfl

end WatchedServer

section Scan

variable {srv : WsServer} {tickRateHz : UInt32} {now : TickType} {sendResult : Nat → EspErr}
  {i j : Nat}

/-- A drop touches no slot behind the first one of the descriptor. -/
theorem dropClientLocked_later {client : WsClient} (hslot : srv.clients[i]? = some client)
    (hlater : i < j) : (dropClientLocked srv client.fd).1.clients[j]? = srv.clients[j]? := by
  unfold dropClientLocked
  split
  case h_1 => rfl
  case h_2 first _ hfind =>
    have hle : first ≤ i := Slots.first_le hfind hslot (decide_eq_true rfl)
    exact List.getElem?_set_ne (by omega)

theorem pingSlot_later (hlater : i < j) :
    (pingSlot tickRateHz now sendResult srv i).1.clients[j]? = srv.clients[j]? := by
  unfold pingSlot
  dsimp only
  split
  case h_1 => rfl
  case h_2 client hslot =>
    split_ifs
    · rfl
    · exact dropClientLocked_later hslot hlater
    · exact List.getElem?_set_ne (by omega)
    · exact dropClientLocked_later hslot hlater
    · rfl

/-- The scan comes to a slot as it was before. -/
theorem scan_get (i : Nat) : ∀ j, i ≤ j →
    (Machine.run (pingSlot tickRateHz now sendResult) srv (List.range i)).1.clients[j]? =
      srv.clients[j]? := by
  induction i with
  | zero => exact fun j _ => rfl
  | succ i ih =>
      intro j hj
      rw [List.range_succ, Machine.run_append]
      exact (pingSlot_later hj).trans (ih j (by omega))

/-- The settings stay as they are. -/
theorem scan_cfg (events : List Nat) :
    (Machine.run (pingSlot tickRateHz now sendResult) srv events).1.cfg = srv.cfg :=
  (Housekeeping.run id (fun state i => pingSlot_housekeeping state tickRateHz now sendResult i)
    srv events).settings.cfg

/-- A slot is closed for its silence when it waits and its timeout has passed by the tick. -/
theorem pingSlot_closes_iff :
    (∃ fd rest, (pingSlot tickRateHz now sendResult srv i).2 = .triggerClose fd :: rest) ↔
      ∃ client, srv.clients[i]? = some client ∧ 0 ≤ client.fd ∧ client.awaitingPong = true ∧
        pdMsToTicks tickRateHz srv.cfg.pongTimeoutMs ≤ now - client.lastSeen := by
  unfold pingSlot
  dsimp only
  split
  case h_1 hslot => simp [hslot]
  case h_2 client hslot =>
    simp only [hslot, Option.some_inj, exists_eq_left']
    by_cases hfree : client.fd < 0
    · simp [hfree]
    by_cases hdue : client.awaitingPong = true ∧
        pdMsToTicks tickRateHz srv.cfg.pongTimeoutMs ≤ now - client.lastSeen
    · simp [hfree, hdue, Int.not_lt.mp hfree]
    · have hnot : ¬ (client.awaitingPong && decide (pdMsToTicks tickRateHz
          srv.cfg.pongTimeoutMs ≤ now - client.lastSeen)) = true := by
        simpa using hdue
      rw [if_neg hfree, if_neg hnot]
      split_ifs <;> simp [hdue]

/-- The ticks between two readings of the counter fall short of a timeout exactly when the time
does, up to whole turns. -/
theorem elapsed_lt_iff (timeout : TickType) (seen now : Nat) :
    ¬ timeout ≤ UInt32.ofNat now - UInt32.ofNat seen ↔
      ∃ turns : Int, seen + turns * 2 ^ 32 ≤ now ∧ now < seen + turns * 2 ^ 32 + timeout.toNat := by
  have hvalue : ((UInt32.ofNat now - UInt32.ofNat seen).toNat : Int) =
      ((now : Int) - seen) % 2 ^ 32 := by
    rw [UInt32.toNat_sub, UInt32.toNat_ofNat', UInt32.toNat_ofNat']
    omega
  rw [UInt32.le_iff_toNat_le, not_le]
  constructor
  · intro hshort
    refine ⟨((now : Int) - seen) / 2 ^ 32, ?_, ?_⟩
    · omega
    · omega
  · rintro ⟨turns, hlow, hhigh⟩
    have hturns : ((now : Int) - seen) / 2 ^ 32 = turns := by
      have := timeout.toNat_lt
      omega
    omega

end Scan
namespace WatchedServer

variable {mb : Mbedtls} {tickRateHz : UInt32} {state : WatchedServer}

/-- Where the histories are true, a scan is fair exactly when its clients were seen in time. -/
theorem fairTimeout_iff (h : SeenAt state.srv state.watch) (event : WatchedEvent) :
    FairTimeout tickRateHz state event ↔ SeenInTime tickRateHz state event := by
  cases event with
  | scan sendResult =>
      cases hcallback : state.callback with
      | idle => simp only [FairTimeout, SeenInTime, hcallback]
      | ticked now => simp only [FairTimeout, SeenInTime, hcallback]
      | locked now =>
          simp only [FairTimeout, SeenInTime, hcallback, Machine.eachStep_range,
            pingSlot_closes_iff, scan_cfg, scan_get _ _ (Nat.le_refl _)]
          constructor
          · intro hfair i client hslot hfd hwaits hentitled
            have hlt := (List.getElem?_eq_some_iff.mp hslot).1
            refine (elapsed_lt_iff _ _ _).mp fun hdue => ?_
            rw [← h i client hslot hfd] at hdue
            obtain ⟨hsilent, hwaited⟩ := hfair i hlt ⟨client, hslot, hfd, hwaits, hdue⟩
            rcases hentitled with hyoung | hheard
            · omega
            · rw [hsilent] at hheard
              cases hheard
          · rintro hseen i - ⟨client, hslot, hfd, hwaits, hdue⟩
            rw [h i client hslot hfd] at hdue
            have hlate := fun hentitled => (elapsed_lt_iff _ _ _).mpr
              (hseen i client hslot hfd hwaits hentitled) hdue
            refine ⟨?_, ?_⟩
            · exact Bool.eq_false_iff.mpr fun hheard => hlate (.inr hheard)
            · exact not_lt.mp fun hyoung => hlate (.inl hyoung)
  | _ => exact Iff.rfl

end WatchedServer

/-- In every run from a successful start, at any tick, each client dropped for its silence had the
whole timeout since its ping and sent nothing, if and only if at every scan each waiting client was
seen in time. -/
theorem pong_timeout_iff {mb : Mbedtls} {tickRateHz : UInt32} {outcome : StartOutcome}
    {config : WsServerConfig} {hasRxCb : Bool} {before srv : WsServer}
    (hstart : wsServerStart mb tickRateHz outcome config hasRxCb before = (.ok, srv)) (time : Nat)
    (events : List WatchedEvent) :
    Machine.EachStep (fun state => WatchedServer.step state mb tickRateHz)
        (WatchedServer.FairTimeout tickRateHz) { srv := srv, time := time } events ↔
      Machine.EachStep (fun state => WatchedServer.step state mb tickRateHz)
        (WatchedServer.SeenInTime tickRateHz) { srv := srv, time := time } events := by
  have hempty : SeenAt srv fun _ => {} := by
    intro i client hslot hfd
    have hidle := (wsServerStart_ok hstart).2.2 client (List.mem_of_getElem? hslot)
    omega
  exact Machine.eachStep_congr (fun _ event h => WatchedServer.seenAt_step h event)
    (fun _ event h => WatchedServer.fairTimeout_iff h event) hempty

/-- Settings with a ping every second and five seconds to answer it. -/
def pingConfig : WsServerConfig :=
  { gateConfig with pingIntervalMs := 1000, pongTimeoutMs := 5000 }

/-- The server started with these settings. -/
def pingServer : WsServer := (wsServerStart gateMbedtls 100 {} pingConfig true {}).2

/-- A callback after some ticks, with nothing between its steps. -/
def callbackAfter (ticks : Nat) : List WatchedEvent :=
  [.elapse ticks, .readTick, .takeLock, .scan fun _ => .ok]

/-- A callback that comes ten seconds after the one that pinged drops the client by right. -/
theorem pong_timeout_late :
    Machine.EachStep (fun state => WatchedServer.step state gateMbedtls 100)
      (WatchedServer.FairTimeout 100) { srv := pingServer, time := 2 ^ 32 - 500 }
      (.get ⟨[]⟩ 7 0 :: (callbackAfter 1000 ++ callbackAfter 1000)) ∧
    (Machine.run (fun state => WatchedServer.step state gateMbedtls 100)
      { srv := pingServer, time := 2 ^ 32 - 500 }
      (.get ⟨[]⟩ 7 0 :: (callbackAfter 1000 ++ callbackAfter 1000))).2 =
      [.registered 7, .sent 7 .ping [], .triggerClose 7, .removed 7] := by
  have hstart : wsServerStart gateMbedtls 100 {} pingConfig true {} = (.ok, pingServer) := by
    decide
  refine ⟨(pong_timeout_iff hstart (2 ^ 32 - 500) _).mpr ?_, by decide⟩
  refine ⟨trivial, trivial, trivial, trivial, ?_, trivial, trivial, trivial, ?_, trivial⟩
  · -- nobody waits before the first ping
    intro i client hslot hfd hwaits
    have hquiet := (@List.all_eq_true WsClient (fun client => !client.awaitingPong) _).mp
      (by decide) client (List.mem_of_getElem? hslot)
    exact absurd hwaits (by simpa using hquiet)
  · intro i client hslot hfd hwaits hentitled
    cases i with
    | zero => exact absurd hentitled (by decide)
    | succ i =>
        have hquiet := (@List.all_eq_true WsClient (fun client => !client.awaitingPong) _).mp
          (by decide) client (List.mem_of_getElem? (List.getElem?_tail.trans hslot))
        exact absurd hwaits (by simpa using hquiet)

/-- With a ping every second the client is dropped four seconds after its first one, where it had
five. -/
theorem dropped_before_pong_timeout :
    wsServerStart gateMbedtls 100 {} pingConfig true {} = (.ok, pingServer) ∧
    ¬ Machine.EachStep (fun state => WatchedServer.step state gateMbedtls 100)
      (WatchedServer.FairTimeout 100) { srv := pingServer, time := 0 }
      ([.get ⟨[]⟩ 7 0] ++ callbackAfter 100 ++ callbackAfter 100 ++ callbackAfter 100 ++
        callbackAfter 100 ++ callbackAfter 100) := by
  refine ⟨by decide, fun h => ?_⟩
  obtain ⟨-, -, -, hscan, -⟩ := (Machine.eachStep_append.mp h).2
  have hwaited := (hscan.1 ⟨7, [.removed 7], by decide⟩).2
  exact absurd hwaited (by decide)

end SensorHmi
