import SensorHmi.Net.FrameGate

/-!
# A recorded frame over the life of a server

What a server with frame encryption does with a frame that is sent again and again, on any of its
connections and as any kind of message. As a binary message it is never opened; as any other it
goes to the callback as it stands, each time it arrives. So it is handed on at most once exactly if
it arrives in the clear at most once: `accepted_at_most_once_iff`.
-/

namespace SensorHmi

/-- A received frame with these octets. -/
def OffersFrame (frame : Bytes) : WsServerEvent → Prop
  | .frame _ recv _ => recv.payload = frame
  | _ => False

instance (frame : Bytes) (event : WsServerEvent) : Decidable (OffersFrame frame event) := by
  cases event <;> unfold OffersFrame <;> infer_instance

/-- The number of calls of the receive callback at an event with the frame. -/
def callsForFrame (mb : Mbedtls) (tickRateHz : UInt32) (frame : Bytes) (srv : WsServer)
    (event : WsServerEvent) : Nat :=
  if OffersFrame frame event then
    (wsServerStep mb tickRateHz srv event).2.countP WsServerOutput.isRxCb
  else 0

/-- One if the frame arrives in the clear, from a client that is known. -/
def clearArrivals (frame : Bytes) (srv : WsServer) (event : WsServerEvent) : Nat :=
  if OffersFrame frame event ∧ ServerClearFrame srv event then 1 else 0

/-- With encryption on, the frame is handed on whenever it arrives in the clear. -/
theorem callsForFrame_eq {mb : Mbedtls} {tickRateHz : UInt32} {frame : Bytes} {srv : WsServer}
    {event : WsServerEvent} (henabled : srv.securityCtx.encryptionEnabled = true) :
    callsForFrame mb tickRateHz frame srv event = clearArrivals frame srv event := by
  rw [callsForFrame, clearArrivals, countP_rxCb henabled]
  by_cases hoffers : OffersFrame frame event
  · simp only [hoffers, if_true, true_and]
  · simp only [hoffers, if_false, false_and]

/-- In every run of a server started with frame encryption, whatever is sent on whatever
connection, the callback is called for a frame at most once if and only if the frame arrives in the
clear at most once. -/
theorem accepted_at_most_once_iff {mb : Mbedtls} {tickRateHz : UInt32} {outcome : StartOutcome}
    {config : WsServerConfig} {hasRxCb : Bool} {before srv : WsServer}
    (hstart : wsServerStart mb tickRateHz outcome config hasRxCb before = (.ok, srv))
    (henabled : config.enableFrameEncryption = true) (events : List WsServerEvent)
    (frame : Bytes) :
    Machine.total (wsServerStep mb tickRateHz) (callsForFrame mb tickRateHz frame) srv events ≤ 1 ↔
      Machine.total (wsServerStep mb tickRateHz) (clearArrivals frame) srv events ≤ 1 := by
  have hkeeps : ∀ srv event, srv.securityCtx.encryptionEnabled = true → True →
      (wsServerStep mb tickRateHz srv event).1.securityCtx.encryptionEnabled = true := by
    intro srv event hon _
    rw [(wsServerStep_settings mb tickRateHz srv event).encryptionEnabled]
    exact hon
  have hon : srv.securityCtx.encryptionEnabled = true :=
    (wsServerStart_ok hstart).1.trans henabled
  have hsame : Machine.EachStep (wsServerStep mb tickRateHz) (fun srv event =>
      callsForFrame mb tickRateHz frame srv event = clearArrivals frame srv event) srv events :=
    Machine.eachStep_of_invariant hkeeps (fun _ _ hon _ => callsForFrame_eq hon) hon
      (Machine.eachStep_of_all fun _ _ => trivial)
  have htotal := (Machine.total_eq_iff (Machine.eachStep_imp (fun _ _ h => h.le) hsame)).mpr hsame
  rw [htotal]

/-- A client connects. -/
def connectEvent (fd : Int) : WsServerEvent := .get ⟨[]⟩ fd 0 0 0

/-- The sealed frame of the session arrives, as a kind of message. -/
def replayEvent (fd : Int) (type : WsType) : WsServerEvent :=
  .frame fd { type := type, payload := firstFrame [5, 6] } 1

/-- Sent as a binary message, on a first connection and after a reconnect, and then once as a text,
the frame calls the callback once. -/
theorem accepted_at_most_once_text :
    Machine.total (wsServerStep gateMbedtls 100)
      (callsForFrame gateMbedtls 100 (firstFrame [5, 6])) gateServer
      [connectEvent 7, replayEvent 7 .binary, .closed 7, connectEvent 7, replayEvent 7 .text] ≤
        1 := by
  have hstart : wsServerStart gateMbedtls 100 {} gateConfig true {} = (.ok, gateServer) := by
    decide
  refine (accepted_at_most_once_iff hstart rfl _ _).mpr ?_
  decide

/-- Under an ideal AES-GCM and one frame key: sent twice as a text, on one connection and after a
reconnect, the frame that was sealed calls the callback twice. -/
theorem accepted_twice_as_text :
    let events := [connectEvent 7, replayEvent 7 .text, .closed 7, connectEvent 7,
      replayEvent 7 .text]
    wsServerStart gateMbedtls 100 {} gateConfig true {} = (.ok, gateServer) ∧
    gateServer.securityCtx.frameKey = plainContext.frameKey ∧
    gateMbedtls.toGcm.Ideal plainContext.frameKey [(firstFrame [5, 6], [1, 2])] ∧
    (wsSecurityEncrypt gateMbedtls.toGcm (Vector.replicate 12 0) plainContext [1, 2] 64).1 =
      .ok (firstFrame [5, 6]) ∧
    (Machine.run (wsServerStep gateMbedtls 100) gateServer events).2 =
      [.registered 7, .rxCb (firstFrame [5, 6]) 0, .removed 7, .registered 7,
        .rxCb (firstFrame [5, 6]) 0] ∧
    Machine.total (wsServerStep gateMbedtls 100)
      (callsForFrame gateMbedtls 100 (firstFrame [5, 6])) gateServer events = 2 :=
  ⟨by decide, by decide, @firstFrameGcm_ideal [1, 2] [5, 6] rfl, by decide, by decide, by decide⟩

end SensorHmi
