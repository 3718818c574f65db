import SensorHmi.Proto.CborTelemetry
import SensorHmi.System.Parts

/-!
# Telemetry from the data model to the screen

Whatever the tasks of both nodes do in between, whatever frames get lost and whichever locks time
out: what the HMI draws are snapshots of the data model of the sensor node, in the order they were
built and each at most once, with their readings rounded.
-/

namespace SensorHmi

open Octets

variable {ι : Type} {build : SystemBuild ι} {sys : SensorSystem} {events : List SystemEvent}
  {encryptionEnabled : Bool}

section Runs

/-- A run of the system is a run of each of its parts. -/
theorem systemRun_wire (sys : SensorSystem) (events : List SystemEvent) :
    wirePart.Runs (transportStep build.mb build.wsTickRateHz) (fun _ _ => True) sys
      (Machine.run (systemStep build) sys events) :=
  Machine.Component.runs trivial (fun _ _ _ _ _ _ => trivial) (fun _ event => systemStep_wire event)
    sys events

theorem systemRun_screen (sys : SensorSystem) (events : List SystemEvent) :
    screenPart.Runs (hmiStep build.codec build.fuel) ReceivesAtHmi sys
      (Machine.run (systemStep build) sys events) := by
  refine @Machine.Component.runs _ _ _ _ _ _ screenPart (hmiStep build.codec build.fuel)
    ReceivesAtHmi _ rfl ?_ (fun _ event => systemStep_screen event) sys events
  intro first second outputs later hfirst hlater
  show (first ++ second).filterMap HmiEvent.payload = clientCalls (wireOutputs (outputs ++ later))
  rw [List.filterMap_append, hfirst, hlater, wireOutputs_append, clientCalls_append]

theorem systemRun_io (sys : SensorSystem) (events : List SystemEvent) :
    ioPart.Runs (ioStep build.codec build.fuel build.ioMap) ReceivesAtNode sys
      (Machine.run (systemStep build) sys events) := by
  refine @Machine.Component.runs _ _ _ _ _ _ ioPart
    (ioStep build.codec build.fuel build.ioMap) ReceivesAtNode _ rfl ?_
    (fun _ event => systemStep_io event) sys events
  intro first second outputs later hfirst hlater
  show receivedFrames (first ++ second) =
    (nodeCalls (wireOutputs (outputs ++ later))).map Prod.snd
  have happend : receivedFrames (first ++ second) = receivedFrames first ++ receivedFrames second :=
    List.filterMap_append
  rw [happend, hfirst, hlater, wireOutputs_append, nodeCalls_append, List.map_append]

/-- Between honest ends each callback is one for data the other side sent, in sending order. -/
theorem systemRun_inOrder (hhonest : Honest encryptionEnabled sys.net) (hempty : InOrder sys.net [])
    (events : List SystemEvent) :
    InOrder (Machine.run (systemStep build) sys events).1.net
      (wireOutputs (Machine.run (systemStep build) sys events).2) := by
  obtain ⟨wireEvents, hrun, -⟩ := @systemRun_wire ι build sys events
  have hstep : ∀ net event history, Honest encryptionEnabled net ∧ InOrder net history → True →
      Honest encryptionEnabled (transportStep build.mb build.wsTickRateHz net event).1 ∧
        InOrder (transportStep build.mb build.wsTickRateHz net event).1
          (history ++ (transportStep build.mb build.wsTickRateHz net event).2) :=
    fun net event history hinv _ =>
      ⟨transportStep_honest hinv.1, transportStep_inOrder hinv.1 hinv.2⟩
  obtain ⟨-, horder⟩ := @Machine.run_history _ _ _ (transportStep build.mb build.wsTickRateHz)
    sys.net wireEvents _ _ _ hstep ⟨hhonest, hempty⟩ (Machine.eachStep_of_all fun _ _ => trivial)
  rw [show sys.net = wirePart.state sys from rfl, hrun, List.nil_append] at horder
  exact horder

end Runs

section Screen

/-- What the decoder of the HMI makes of a frame. -/
def decodedFrame (build : SystemBuild ι) (frame : Bytes × UInt32) : Option ProtoSensorUpdate :=
  (protoDecodeSensorUpdate build.codec build.fuel frame.1 build.codec.configUseCbor
    frame.2).toOption

theorem decodedUpdate_eq_bind (event : HmiEvent) :
    decodedUpdate build.codec build.fuel event = event.payload.bind (decodedFrame build) := by
  cases event with
  | receive payload crc32 =>
      show _ = decodedFrame build (payload, crc32)
      unfold decodedUpdate decodedFrame
      dsimp only
      cases protoDecodeSensorUpdate build.codec build.fuel payload build.codec.configUseCbor
        crc32 <;>
        rfl
  | _ => rfl

/-- What the HMI stores, and so all it draws, comes of the frames its client was handed. -/
theorem systemRun_decoded (hboot : sys.hmi = hmiBoot sys.hmi.blob) :
    let outputs := (Machine.run (systemStep build) sys events).2
    ScreenInv (Machine.run (systemStep build) sys events).1.hmi
      (screenLog (screenOutputs outputs)) ∧
      (screenLog (screenOutputs outputs)).decoded.Sublist
        ((clientCalls (wireOutputs outputs)).filterMap (decodedFrame build)) := by
  intro outputs
  obtain ⟨hmiEvents, hrun, hreceives⟩ := @systemRun_screen ι build sys events
  have hstart : screenPart.state sys = hmiBoot sys.hmi.blob := hboot
  rw [hstart] at hrun
  have hscreen := @ScreenInv.run ι build.codec build.fuel sys.hmi.blob hmiEvents
  have hdecoded := @Machine.filterMap_run_sublist _ _ _ (hmiStep build.codec build.fuel)
    (hmiBoot sys.hmi.blob) hmiEvents _ HmiOutput.decodes (decodedUpdate build.codec build.fuel)
    decodes_hmiStep
  rw [hrun] at hscreen hdecoded
  refine ⟨hscreen, ?_⟩
  have hcalls : hmiEvents.filterMap (decodedUpdate build.codec build.fuel) =
      (clientCalls (wireOutputs outputs)).filterMap (decodedFrame build) := by
    rw [← hreceives, List.filterMap_filterMap]
    exact List.filterMap_congr fun event _ => decodedUpdate_eq_bind event
  rw [decoded_screenLog, ← hcalls]
  exact hdecoded

end Screen

section Snapshot

/-- A snapshot that keeps inside its arrays: the counts, and the end of each identifier. -/
structure ProtoSensorUpdate.Bounded (msg : ProtoSensorUpdate) : Prop where
  sht20Count : msg.sht20Count ≤ 2
  ds18b20Count : msg.ds18b20Count ≤ 4
  ends : ∀ entry ∈ msg.sht20.toList, (0 : UInt8) ∈ entry.id.toList

theorem ProtoSensorUpdate.Bounded.terminated {msg : ProtoSensorUpdate} (h : msg.Bounded) :
    msg.Terminated :=
  fun entry hmem => h.ends entry (List.mem_of_mem_take hmem)

/-- The last character of an identifier is never copied. -/
theorem zero_mem_idField (source : Bytes) : (0 : UInt8) ∈ (idField source).toList := by
  have hlength : 15 < (idField source).toList.length := by simp
  have hlast : (idField source).toList[15] = 0 := by
    simp only [idField, Vector.getElem_toList, Vector.getElem_ofFn]
    exact List.getD_eq_default _ _ (by simp)
  rw [← hlast]
  exact List.getElem_mem _

variable {model : SensorDataModel} {locked : Bool}

theorem bounded_update {change : ProtoSensorUpdate → ProtoSensorUpdate}
    (h : model.current.Bounded) (hchange : (change model.current).Bounded) :
    (model.update locked change).current.Bounded := by
  unfold SensorDataModel.update
  split_ifs
  · exact hchange
  · exact h

theorem bounded_perform (h : model.current.Bounded) (action : SensorsAction) :
    (action.perform model).current.Bounded := by
  cases action with
  | setSht20 locked index id temp humidity valid =>
      show (dataModelSetSht20 locked index id temp humidity valid model).current.Bounded
      unfold dataModelSetSht20
      split_ifs with hindex
      · exact h
      · refine bounded_update h ⟨?_, h.ds18b20Count, ?_⟩
        · exact max_le h.sht20Count (by omega)
        · intro entry hmem
          obtain ⟨i, hi, hget⟩ := List.getElem_of_mem hmem
          have hi : i < 2 := by simpa using hi
          simp only [Vector.getElem_toList, Vector.getElem_setIfInBounds] at hget
          split_ifs at hget
          · rw [← hget]
            exact zero_mem_idField _
          · rw [← hget]
            exact h.ends _ (by simp)
  | setDs18b20 locked measured index romCode temp =>
      show (dataModelSetDs18b20 locked index romCode temp model).current.Bounded
      unfold dataModelSetDs18b20
      split_ifs with hindex
      · exact h
      · exact bounded_update h ⟨h.sht20Count, max_le h.ds18b20Count (by omega), h.ends⟩
  | scanned found => exact h
  | completed => exact h
  | started devices => exact h

theorem dataModelBuild_current {codec : Codec ι} (useCbor : Bool) :
    (dataModelBuild codec locked useCbor model).2.current = model.current := by
  unfold dataModelBuild
  split_ifs
  · rfl
  · generalize protoEncodeSensorUpdateInto codec model.current useCbor
      sensorDataModelMaxMessageSize = encoded
    cases encoded with
    | none => rfl
    | some staged => rfl

/-- Every event of the sensor node keeps the snapshot inside its arrays. -/
theorem bounded_telemetryStep {codec : Codec ι} {useCbor : Bool} {sensors : SensorsBuild}
    {node : TelemetryNode} (h : node.model.current.Bounded) (event : TelemetryEvent) :
    (telemetryStep codec useCbor sensors node event).1.model.current.Bounded := by
  cases event with
  | sensors inputs =>
      unfold telemetryStep
      cases hpending : node.pending <;> exact h
  | sensorsAct =>
      unfold telemetryStep
      cases hpending : node.pending with
      | nil => exact h
      | cons action rest => exact bounded_perform h action
  | setGpio locked devIndex porta portb =>
      show (dataModelSetGpio locked devIndex porta portb node.model).current.Bounded
      unfold dataModelSetGpio
      split_ifs
      · exact h
      · exact bounded_update h ⟨h.sht20Count, h.ds18b20Count, h.ends⟩
  | setPwm locked duty frequencyHz =>
      exact bounded_update h ⟨h.sht20Count, h.ds18b20Count, h.ends⟩
  | app locked monotonicMs =>
      show (telemetryApp codec useCbor node locked monotonicMs).1.model.current.Bounded
      unfold telemetryApp
      cases hpoint : node.point with
      | setTimestamp => exact bounded_update h ⟨h.sht20Count, h.ds18b20Count, h.ends⟩
      | shouldPublish =>
          dsimp only
          split_ifs <;> exact h
      | incrementSeq => exact bounded_update h ⟨h.sht20Count, h.ds18b20Count, h.ends⟩
      | build =>
          show (dataModelBuild codec locked useCbor node.model).2.current.Bounded
          rw [dataModelBuild_current]
          exact h

end Snapshot

section Built

/-- A frame that was built encodes its snapshot, which keeps inside its arrays and has plain
identifiers. -/
structure GoodFrame (build : SystemBuild ι) (built : ProtoSensorUpdate × Bytes × UInt32) :
    Prop where
  encodes : protoEncodeSensorUpdateInto build.codec built.1 build.codec.configUseCbor
    sensorDataModelMaxMessageSize = some built.2
  bounded : built.1.Bounded
  plain : ∀ entry ∈ built.1.sht20Entries, PlainId entry

/-- The sensor node, what it built and what went on the wire: each frame that was built is sent
once at most, and in order. -/
structure BuiltInv (build : SystemBuild ι) (encryptionEnabled : Bool) (sys : SensorSystem)
    (outputs : List SystemOutput) : Prop where
  honest : Honest encryptionEnabled sys.net
  telemetry : TelemetryInv sys.sensor
  bounded : sys.sensor.model.current.Bounded
  good : ∀ built ∈ builtFrames outputs, GoodFrame build built
  sent : (serverData (wireOutputs outputs) ++ sys.txFrame.toList.map frameOctets).Sublist
    ((builtFrames outputs).map fun built => frameOctets built.2)

/-- Between honest ends a broadcast puts its data on the wire once or not at all. -/
theorem serverSend_once {mb : Mbedtls} {tickRateHz : UInt32} {net : Transport}
    (h : Honest encryptionEnabled net) (data : Bytes) (iv : Vector UInt8 12) (allocated : Bool) :
    (transportStep mb tickRateHz net (.serverSend data iv allocated)).2 = [] ∨
      (transportStep mb tickRateHz net (.serverSend data iv allocated)).2 = [.serverSent data] := by
  simp only [transportStep]
  cases hfd : net.fd with
  | none => exact Or.inl (by rw [filterMap_frameTo_none]; rfl)
  | some fd =>
      obtain ⟨hpos, hsession⟩ := h.session fd hfd
      rcases @wsServerSend_cases mb tickRateHz data iv allocated net.srv with
        hsame | ⟨outSize, result, ctx, -, -, -, hframes⟩
      · exact Or.inl (by rw [hsame]; rfl)
      · rw [hframes fd hpos]
        cases result with
        | error err => exact Or.inl rfl
        | ok frame =>
            rcases hsession with hsession | ⟨-, hnone⟩
            · rw [hsession]
              exact Or.inr rfl
            · rw [hnone]
              exact Or.inl rfl

/-- The publish loop sends nothing, or the encoding of the snapshot as it is. -/
theorem telemetryApp_frames {codec : Codec ι} {useCbor : Bool} (node : TelemetryNode)
    (locked : Bool) (monotonicMs : UInt32) :
    (telemetryApp codec useCbor node locked monotonicMs).2 = [] ∨
      ∃ frame, (telemetryApp codec useCbor node locked monotonicMs).2 = [frame] ∧
        protoEncodeSensorUpdateInto codec node.model.current useCbor
          sensorDataModelMaxMessageSize = some frame := by
  unfold telemetryApp
  cases hpoint : node.point with
  | setTimestamp => exact Or.inl rfl
  | shouldPublish =>
      dsimp only
      split_ifs <;> exact Or.inl rfl
  | incrementSeq => exact Or.inl rfl
  | build =>
      dsimp only
      cases locked with
      | false =>
          have hnone : (dataModelBuild codec false useCbor node.model).1 = none := by
            simp [dataModelBuild]
          rw [hnone]
          exact Or.inl rfl
      | true =>
          generalize hbuild : dataModelBuild codec true useCbor node.model = built
          obtain ⟨frame, model⟩ := built
          cases frame with
          | none => exact Or.inl rfl
          | some frame => exact Or.inr ⟨frame, rfl, encodes_of_build hbuild⟩

namespace BuiltInv

variable {outputs : List SystemOutput}

/-- A step that builds and sends nothing. -/
theorem quiet (h : BuiltInv build encryptionEnabled sys outputs) {next : SensorSystem}
    {shown : List SystemOutput}
    (hhonest : Honest encryptionEnabled next.net) (htelemetry : TelemetryInv next.sensor)
    (hbounded : next.sensor.model.current.Bounded) (hframe : next.txFrame = sys.txFrame)
    (hbuilt : builtFrames shown = []) (hsent : serverData (wireOutputs shown) = []) :
    BuiltInv build encryptionEnabled next (outputs ++ shown) where
  honest := hhonest
  telemetry := htelemetry
  bounded := hbounded
  good := by
    rw [builtFrames_append, hbuilt, List.append_nil]
    exact h.good
  sent := by
    have hdata : serverData (wireOutputs (outputs ++ shown)) =
      serverData (wireOutputs outputs) := by
      rw [wireOutputs_append, serverData, List.filterMap_append]
      exact (congrArg _ hsent).trans (List.append_nil _)
    rw [hdata, builtFrames_append, hbuilt, List.append_nil, hframe]
    exact h.sent

/-- A build, behind which nothing waits to be sent. -/
theorem publish (h : BuiltInv build encryptionEnabled sys outputs) (hidle : sys.txFrame = none)
    (locked : Bool) (monotonicMs : UInt32) :
    BuiltInv build encryptionEnabled (publishCall build sys locked monotonicMs).1
      (outputs ++ (publishCall build sys locked monotonicMs).2) := by
  have htelemetry : TelemetryInv (publishCall build sys locked monotonicMs).1.sensor := by
    show TelemetryInv (telemetryStep build.codec build.codec.configUseCbor build.sensors sys.sensor
      (.app locked monotonicMs)).1
    exact h.telemetry.step
  have hbounded : (publishCall build sys locked monotonicMs).1.sensor.model.current.Bounded := by
    show (telemetryStep build.codec build.codec.configUseCbor build.sensors sys.sensor
      (.app locked monotonicMs)).1.model.current.Bounded
    exact bounded_telemetryStep h.bounded _
  have hframes : (publishCall build sys locked monotonicMs).1.txFrame =
      (telemetryApp build.codec build.codec.configUseCbor sys.sensor locked monotonicMs).2.head? ∧
      (publishCall build sys locked monotonicMs).2 =
        (telemetryApp build.codec build.codec.configUseCbor sys.sensor locked monotonicMs).2.map
          (.built sys.sensor.model.current) := ⟨rfl, rfl⟩
  rcases @telemetryApp_frames _ build.codec build.codec.configUseCbor sys.sensor locked monotonicMs
    with hnone | ⟨frame, hframe, hencodes⟩
  · rw [hnone] at hframes
    rw [hframes.2]
    exact h.quiet h.honest htelemetry hbounded (hframes.1.trans hidle.symm) rfl rfl
  · rw [hframe] at hframes
    have hplain : ∀ entry ∈ sys.sensor.model.current.sht20Entries, PlainId entry :=
      fun entry hmem => h.telemetry.entries entry (List.mem_of_mem_take hmem)
    have hsent := h.sent
    rw [hidle, Option.toList_none, List.map_nil, List.append_nil] at hsent
    rw [hframes.2]
    refine ⟨h.honest, htelemetry, hbounded, ?_, ?_⟩
    · intro built hmem
      rw [builtFrames_append] at hmem
      rcases List.mem_append.mp hmem with hold | hnew
      · exact h.good built hold
      · rw [List.mem_singleton.mp hnew]
        exact ⟨hencodes, h.bounded, hplain⟩
    · rw [hframes.1, wireOutputs_append, builtFrames_append, List.map_append]
      show (serverData (wireOutputs outputs ++ []) ++ [frameOctets frame]).Sublist
        (_ ++ [frameOctets frame])
      rw [List.append_nil]
      exact hsent.append (List.Sublist.refl _)

/-- A broadcast of the frame that waits. -/
theorem broadcast (h : BuiltInv build encryptionEnabled sys outputs) {frame : Bytes × UInt32}
    (hframe : sys.txFrame = some frame) (iv : Vector UInt8 12) (allocated : Bool) :
    let result := wireStep build { sys with txFrame := none }
      (.serverSend (frameOctets frame) iv allocated)
    BuiltInv build encryptionEnabled result.1 (outputs ++ result.2.map .wire) := by
  intro result
  have hsent := h.sent
  rw [hframe] at hsent
  have hhonest : Honest encryptionEnabled (transportStep build.mb build.wsTickRateHz sys.net
      (.serverSend (frameOctets frame) iv allocated)).1 := h.honest.serverSend
  refine ⟨hhonest, h.telemetry, h.bounded, ?_, ?_⟩
  · rw [builtFrames_append, builtFrames_wire, List.append_nil]
    exact h.good
  · have hdata : (serverData result.2).Sublist [frameOctets frame] := by
      rcases @serverSend_once encryptionEnabled build.mb build.wsTickRateHz sys.net h.honest
        (frameOctets frame) iv allocated with hnone | hone
      · rw [show result.2 = [] from hnone]
        exact List.nil_sublist _
      · rw [show result.2 = [.serverSent (frameOctets frame)] from hone]
        exact List.Sublist.refl _
    rw [wireOutputs_append, wireOutputs_wire, builtFrames_append, builtFrames_wire, List.append_nil,
      show serverData (wireOutputs outputs ++ result.2) =
        serverData (wireOutputs outputs) ++ serverData result.2 from List.filterMap_append]
    show (_ ++ []).Sublist _
    rw [List.append_nil]
    exact (hdata.append_left _).trans hsent

/-- A step of the sensor node's tasks. -/
theorem sensor (h : BuiltInv build encryptionEnabled sys outputs) (event : TelemetryEvent) :
    BuiltInv build encryptionEnabled (sensorStep build sys event) outputs :=
  ⟨h.honest, h.telemetry.step, bounded_telemetryStep h.bounded event, h.good, h.sent⟩

/-- A step of the wire that is no broadcast. -/
theorem receives (h : BuiltInv build encryptionEnabled sys outputs) {event : TransportEvent}
    (hserver : ∀ data iv allocated, event ≠ .serverSend data iv allocated) :
    BuiltInv build encryptionEnabled (nodeReceives build sys event).1
      (outputs ++ (nodeReceives build sys event).2) := by
  obtain ⟨⟨hwire, -⟩, ⟨-, hsensor, hframe⟩, -, hbuilt⟩ := @nodeReceives_frame _ build sys event
  obtain ⟨hnet, hshown⟩ := Prod.mk.inj hwire
  refine h.quiet ?_ ?_ ?_ hframe hbuilt ?_
  · rw [hnet]
    exact transportStep_honest h.honest
  · rw [hsensor]
    exact h.telemetry
  · rw [hsensor]
    exact h.bounded
  · rw [hshown]
    exact serverData_transportStep hserver

theorem step (h : BuiltInv build encryptionEnabled sys outputs) (event : SystemEvent) :
    BuiltInv build encryptionEnabled (systemStep build sys event).1
      (outputs ++ (systemStep build sys event).2) := by
  have hidle : BuiltInv build encryptionEnabled sys (outputs ++ []) :=
    (List.append_nil outputs).symm ▸ h
  cases event with
  | sensors inputs => exact (List.append_nil outputs).symm ▸ h.sensor (.sensors inputs)
  | sensorsAct => exact (List.append_nil outputs).symm ▸ h.sensor .sensorsAct
  | io event =>
      unfold systemStep
      dsimp only
      split_ifs
      · exact hidle
      · exact h.quiet h.honest h.telemetry h.bounded rfl builtFrames_io
          (by rw [wireOutputs_io]; rfl)
  | ioReport locked =>
      unfold systemStep
      dsimp only
      cases hreports : sys.reports with
      | nil => exact hidle
      | cons report rest =>
          have hrest : BuiltInv build encryptionEnabled { sys with reports := rest } outputs :=
            ⟨h.honest, h.telemetry, h.bounded, h.good, h.sent⟩
          rw [List.append_nil]
          dsimp only
          cases report.report locked with
          | none => exact hrest
          | some event => exact hrest.sensor event
  | app locked monotonicMs =>
      unfold systemStep
      dsimp only
      split_ifs with hwaits
      · exact hidle
      · exact h.publish (by simpa using hwaits) locked monotonicMs
  | broadcast iv allocated =>
      unfold systemStep
      dsimp only
      cases hframe : sys.txFrame with
      | none => exact hidle
      | some frame => exact h.broadcast hframe iv allocated
  | wire event =>
      unfold systemStep
      dsimp only
      split_ifs with hlink
      · refine h.receives ?_
        rintro data iv allocated rfl
        exact hlink
      · exact hidle
  | atServer now => exact h.receives fun _ _ _ h => by cases h
  | atClient =>
      unfold systemStep
      dsimp only
      split_ifs
      · refine h.quiet (@transportStep_honest build.mb build.wsTickRateHz sys.net
          encryptionEnabled .atClient h.honest) h.telemetry h.bounded rfl (by simp) ?_
        rw [wireOutputs_append, wireOutputs_wire, wireOutputs_screen, List.append_nil]
        exact @serverData_transportStep build.mb build.wsTickRateHz sys.net .atClient
          fun _ _ _ h => by cases h
      · exact hidle
  | hmi event =>
      unfold systemStep
      dsimp only
      split_ifs
      · exact h.quiet h.honest h.telemetry h.bounded rfl builtFrames_screen
          (by rw [wireOutputs_screen]; rfl)
      · exact hidle
  | touch action nowMs iv allocated sent =>
      unfold systemStep
      dsimp only
      split
      case h_1 =>
        exact h.quiet h.honest h.telemetry h.bounded rfl builtFrames_screen
          (by rw [wireOutputs_screen]; rfl)
      case h_2 cmd hcommand =>
        obtain ⟨⟨-, -, hsensor, hframe⟩, hsend⟩ := @sendCommand_frame _ build
          (screenStep build sys (.touch action)).1 nowMs iv allocated sent cmd
        have hhonest : Honest encryptionEnabled (sendCommand build
            (screenStep build sys (.touch action)).1 nowMs iv allocated sent cmd).1.net := by
          rcases hsend with hnothing | ⟨data, -, hsend⟩
          · rw [hnothing.1]
            exact h.honest
          · rw [(Prod.mk.inj hsend).1]
            exact @transportStep_honest build.mb build.wsTickRateHz sys.net encryptionEnabled
              (.clientSend data iv allocated sent) h.honest
        refine h.quiet hhonest ?_ ?_ hframe (by simp) ?_
        · rw [hsensor]
          exact h.telemetry
        · rw [hsensor]
          exact h.bounded
        · rw [wireOutputs_append, wireOutputs_screen, wireOutputs_wire, List.nil_append]
          exact (sendCommand_shows build _ nowMs iv allocated sent cmd).2.2

end BuiltInv

/-- What reaches the client's callback, and so all the HMI decodes, are frames that were built, in
order. -/
theorem systemRun_built (hstart : BuiltInv build encryptionEnabled sys [])
    (hempty : InOrder sys.net []) (events : List SystemEvent) :
    let outputs := (Machine.run (systemStep build) sys events).2
    BuiltInv build encryptionEnabled (Machine.run (systemStep build) sys events).1 outputs ∧
      (clientCalls (wireOutputs outputs)).Sublist ((builtFrames outputs).map Prod.snd) := by
  intro outputs
  have hbuilt : BuiltInv build encryptionEnabled (Machine.run (systemStep build) sys events).1
      outputs := by
    have hrun := @Machine.run_history _ _ _ (systemStep build) sys events
      (BuiltInv build encryptionEnabled) (fun _ _ => True) []
      (fun _ event _ hinv _ => hinv.step event) hstart (Machine.eachStep_of_all fun _ _ => trivial)
    rwa [List.nil_append] at hrun
  refine ⟨hbuilt, ?_⟩
  have hcalls := (@systemRun_inOrder ι build sys encryptionEnabled hstart.honest hempty
    events).client
  have hsent : (serverData (wireOutputs outputs)).Sublist
      ((builtFrames outputs).map fun built => frameOctets built.2) :=
    (List.sublist_append_left _ _).trans hbuilt.sent
  have hframes : ((builtFrames outputs).map fun built => frameOctets built.2).map (splitCrc true) =
      (builtFrames outputs).map Prod.snd := by
    rw [List.map_map]
    exact List.map_congr_left fun built _ => splitCrc_frame built.2.2 built.2.1
  rw [← hframes]
  exact ((List.sublist_append_left _ _).trans hcalls).trans (hsent.map _)

end Built

section Decoded

variable {built : ProtoSensorUpdate × Bytes × UInt32}

/-- In a JSON build the decoder makes of a frame its snapshot with rounded readings, if these are
finite, and nothing otherwise. -/
theorem decodedFrame_json (hcjson : ∀ text, build.codec.cjson.parse text = Json.parse text)
    (hjson : build.codec.configUseCbor = false) (h : GoodFrame build built)
    {update : ProtoSensorUpdate} (hdecoded : decodedFrame build built.2 = some update) :
    built.1.AllFinite ∧ update = built.1.rounded := by
  obtain ⟨snapshot, payload, crc32⟩ := built
  have hmode : (build.codec.configUseCbor && build.codec.configUseCbor) = false := by
    rw [hjson]
    rfl
  have hok : protoDecodeSensorUpdate build.codec build.fuel payload build.codec.configUseCbor
      crc32 = .ok update := by
    simp only [decodedFrame] at hdecoded
    generalize protoDecodeSensorUpdate build.codec build.fuel payload build.codec.configUseCbor
      crc32 = result at hdecoded ⊢
    cases result with
    | error err => cases hdecoded
    | ok decoded => exact congrArg Except.ok (Option.some.inj hdecoded)
  have hencodes : protoEncodeSensorUpdateInto build.codec snapshot build.codec.configUseCbor
      sensorDataModelMaxMessageSize = some (payload, crc32) := h.encodes
  have hfinite : snapshot.AllFinite :=
    (decode_json_isOk_iff hcjson hmode h.plain hencodes).mp ⟨update, hok⟩
  have hprintable : snapshot.Printable := ⟨h.plain, hfinite.sht20, hfinite.ds18b20⟩
  refine ⟨hfinite, ?_⟩
  rw [protoEncodeSensorUpdateInto, hmode] at hencodes
  have htexts : jsonInto (sensorUpdateTexts snapshot) sensorDataModelMaxMessageSize =
      some (payload, crc32) := hencodes
  obtain ⟨-, rfl, rfl⟩ := jsonInto_eq_some_iff.mp htexts
  have hparse : build.codec.cjson.parse (sensorUpdateTexts snapshot).flatten =
      some (sensorUpdateJson snapshot) := by
    rw [sensorUpdateTexts_flatten hprintable]
    exact build.codec.cjson.parse_json (Json.parse_render _)
  rw [protoDecodeSensorUpdate_json hmode (crcAccepts_self _),
    decodeSensorUpdateJson_of_parse _ _ hprintable h.bounded.sht20Count h.bounded.ds18b20Count
      hparse] at hok
  exact (Except.ok.inj hok).symm

/-- In a CBOR build the decoder makes nothing of a frame. -/
theorem decodedFrame_cbor (hcbor : build.codec.configUseCbor = true) (hfuel : 6 ≤ build.fuel)
    (h : GoodFrame build built) : decodedFrame build built.2 = none := by
  obtain ⟨snapshot, payload, crc32⟩ := built
  have hencodes : protoEncodeSensorUpdateInto build.codec snapshot build.codec.configUseCbor
      sensorDataModelMaxMessageSize = some (payload, crc32) := h.encodes
  rw [protoEncodeSensorUpdateInto, hcbor] at hencodes
  obtain ⟨rfl, rfl⟩ := cborInto_eq_some hencodes
  have hrefused : protoDecodeSensorUpdate build.codec build.fuel
      (Cbor.encode (sensorUpdateItem snapshot)) build.codec.configUseCbor
        (protoCrc32 (Cbor.encode (sensorUpdateItem snapshot))) = .error .rejected := by
    rw [protoDecodeSensorUpdate, crcAccepts_self, hcbor]
    exact decodeSensorUpdateCbor_sensorUpdateItem h.bounded.terminated hfuel
  simp only [decodedFrame]
  rw [hrefused]
  rfl

end Decoded

section Shown

/-- What is selected and mapped from some of the items are the values of good ones, in order. -/
theorem exists_sublist_map {α β : Type} {items : List α} {values : List β} {select : α → Option β}
    {value : α → β} {Good : α → Prop}
    (h : ∀ item ∈ items, ∀ selected, select item = some selected →
      Good item ∧ selected = value item)
    (hvalues : values.Sublist (items.filterMap select)) :
    ∃ shown : List α, shown.Sublist items ∧ (∀ item ∈ shown, Good item) ∧
      values = shown.map value := by
  obtain ⟨kept, hkept, rfl⟩ := List.sublist_filterMap_iff.mp hvalues
  have hselected (item : α) (hmem : item ∈ kept) (hsome : (select item).isSome = true) :
      Good item ∧ select item = some (value item) := by
    obtain ⟨selected, hselect⟩ := Option.isSome_iff_exists.mp hsome
    obtain ⟨hgood, rfl⟩ := h item (hkept.subset hmem) selected hselect
    exact ⟨hgood, hselect⟩
  refine ⟨kept.filter fun item => (select item).isSome, List.filter_sublist.trans hkept, ?_, ?_⟩
  · intro item hmem
    obtain ⟨hitem, hsome⟩ := List.mem_filter.mp hmem
    exact (hselected item hitem hsome).1
  · clear hvalues hkept
    induction kept with
    | nil => rfl
    | cons item rest ih =>
        have hrest := ih fun later hmem => hselected later (List.mem_cons_of_mem _ hmem)
        rw [List.filterMap_cons, List.filter_cons, hrest]
        cases hselect : select item with
        | none => rfl
        | some selected =>
            have hvalue := (hselected item List.mem_cons_self (by rw [hselect]; rfl)).2
            rw [hselect] at hvalue
            rw [Option.some.inj hvalue]
            rfl

/-- All the HMI decodes, stores and draws comes of frames that were built, in order. -/
theorem systemRun_stored (hstart : BuiltInv build encryptionEnabled sys [])
    (hempty : InOrder sys.net []) (hboot : sys.hmi = hmiBoot sys.hmi.blob)
    (events : List SystemEvent) :
    let outputs := (Machine.run (systemStep build) sys events).2
    let log := screenLog (screenOutputs outputs)
    (∀ built ∈ builtFrames outputs, GoodFrame build built) ∧
      log.decoded.Sublist
        ((builtFrames outputs).filterMap fun built => decodedFrame build built.2) ∧
      log.stored.Sublist log.decoded ∧ log.drawn.Sublist log.stored ∧
      ∀ update ∈ log.peeked, update ∈ log.stored := by
  intro outputs log
  obtain ⟨hbuilt, hcalls⟩ := systemRun_built hstart hempty events
  obtain ⟨hscreen, hdecoded⟩ := @systemRun_decoded ι build sys events hboot
  have hframes : ((builtFrames outputs).map Prod.snd).filterMap (decodedFrame build) =
      (builtFrames outputs).filterMap fun built => decodedFrame build built.2 :=
    List.filterMap_map
  refine ⟨hbuilt.good, ?_, (List.sublist_append_left _ _).trans hscreen.decoded,
    (List.sublist_append_left _ _).trans hscreen.box.order, hscreen.peeked⟩
  rw [← hframes]
  exact hdecoded.trans (hcalls.filterMap _)

end Shown

section Started

theorem StartedAlike.honest {srv : WsServer} {link : WsLink} (h : StartedAlike build srv link) :
    ∃ encryptionEnabled, Honest encryptionEnabled (startedTransport srv link) := by
  obtain ⟨_, config, _, _, _, _, hserver, hclient, hflag⟩ := h
  exact ⟨config.enableFrameEncryption, startedTransport_honest hserver hclient hflag⟩

/-- Both nodes when they have been started can start. -/
theorem startedSystem_builtInv {srv : WsServer} {link : WsLink} (boot : SensorsInputs)
    (results : Fin 2 → Nat → EspErr) (bus : I2cBus) (flash : Cell (Option HmiUserPreferences))
    (hhonest : Honest encryptionEnabled (startedTransport srv link)) :
    BuiltInv build encryptionEnabled (startedSystem build boot results bus srv link flash) [] where
  honest := hhonest
  telemetry := by
    refine ⟨rfl, fun entry hmem octet hoctet => ?_, fun action hmem => by cases hmem⟩
    have hentry : entry = {} := by
      revert hmem
      simp [startedSystem, telemetryStart, dataModelInit]
    rw [hentry] at hoctet
    cases hoctet
  bounded := by
    refine ⟨Nat.zero_le _, Nat.zero_le _, fun entry hmem => ?_⟩
    have hentry : entry = {} := by
      revert hmem
      simp [startedSystem, telemetryStart, dataModelInit]
    rw [hentry]
    decide
  good := fun built hmem => by cases hmem
  sent := .slnil

end Started

/-- Both nodes over a plain link, with an ambient sensor that does not answer. -/
def exchangeBuild (useCbor : Bool) : SystemBuild Cbor.Cursor where
  mb := linkMbedtls
  wsTickRateHz := 100
  codec := Codec.plain useCbor
  fuel := 6
  ioMap := {}
  sensors := sht20Build

def exchangeStart (useCbor : Bool) : SensorSystem :=
  startedSystem (exchangeBuild useCbor) (sht20Inputs (.error .fail)) (fun _ _ => .ok) (fun _ => {})
    (linkNet false).srv (linkNet false).link ⟨none, []⟩

/-- A frame is sent and received. -/
def frameArrives : List SystemEvent :=
  [.broadcast (Vector.replicate 12 0) true, .atClient, .hmi (.rxCall true), .hmi (.rxCall true)]

/-- Telemetry is built, the HMI connects and the frame arrives, and `ui_task` starts; then the pins
are polled and reported, and telemetry is built and arrives once more. -/
def exchangeEvents : List SystemEvent :=
  List.replicate 4 (.app true 0) ++ [.wire (.accept ⟨[]⟩ 7 0 0 0), .wire .connected] ++
    frameArrives ++ List.replicate 5 (.hmi (.ui true)) ++
    [.io (.queueReceive fun _ => .ok), .io (.poll (fun _ => .ok) fun _ => (5, 7))] ++
    List.replicate 3 (.ioReport true) ++ List.replicate 4 (.app true 100) ++ frameArrives ++
    List.replicate 4 (.hmi (.ui true))

/-- What shows of these steps. -/
def exchangeOutputs (useCbor : Bool) : List SystemOutput :=
  (Machine.run (systemStep (exchangeBuild useCbor)) (exchangeStart useCbor) exchangeEvents).2

theorem exchange_startedAlike (useCbor : Bool) :
    StartedAlike (exchangeBuild useCbor) (linkNet false).srv (linkNet false).link :=
  ⟨_, _, _, _, _, _, (linkNet_started false).1, (linkNet_started false).2, rfl⟩

/-- In a JSON build, whose cJSON reads texts as they are: over every run of the two nodes, what the
loop of `ui_task` draws are snapshots the sensor node built, in building order and each at most
once, with their readings rounded to two decimals; and what it draws before its loop is one of
them. -/
theorem screen_shows_telemetry_built (build : SystemBuild ι)
    (hcjson : ∀ text, build.codec.cjson.parse text = Json.parse text)
    (hjson : build.codec.configUseCbor = false) {srv : WsServer} {link : WsLink}
    (hstarted : StartedAlike build srv link) (boot : SensorsInputs)
    (results : Fin 2 → Nat → EspErr) (bus : I2cBus) (flash : Cell (Option HmiUserPreferences))
    (events : List SystemEvent) :
    let outputs := (Machine.run (systemStep build)
      (startedSystem build boot results bus srv link flash) events).2
    let snapshots := (builtFrames outputs).map Prod.fst
    let log := screenLog (screenOutputs outputs)
    (∃ shown : List ProtoSensorUpdate, shown.Sublist snapshots ∧
        (∀ snapshot ∈ shown, snapshot.AllFinite) ∧
        log.drawn = shown.map ProtoSensorUpdate.rounded) ∧
      ∀ update ∈ log.peeked, ∃ snapshot ∈ snapshots,
        snapshot.AllFinite ∧ update = snapshot.rounded := by
  intro outputs snapshots log
  obtain ⟨encryptionEnabled, hhonest⟩ := hstarted.honest
  obtain ⟨hgood, hdecoded, hstored, hdrawn, hpeeked⟩ := systemRun_stored
    (startedSystem_builtInv boot results bus flash hhonest)
    ⟨List.nil_sublist _, List.nil_sublist _⟩ rfl events
  have hbuilt : log.stored.Sublist ((builtFrames outputs).filterMap fun built =>
      decodedFrame build built.2) := hstored.trans hdecoded
  have hframe : ∀ built ∈ builtFrames outputs, ∀ update,
      decodedFrame build built.2 = some update →
        built.1.AllFinite ∧ update = built.1.rounded :=
    fun built hmem update => decodedFrame_json hcjson hjson (hgood built hmem)
  constructor
  · obtain ⟨shown, hshown, hfinite, hvalues⟩ := exists_sublist_map hframe (hdrawn.trans hbuilt)
    refine ⟨shown.map Prod.fst, hshown.map _, ?_, ?_⟩
    · intro snapshot hmem
      obtain ⟨built, hbuilt, rfl⟩ := List.mem_map.mp hmem
      exact hfinite built hbuilt
    · rw [List.map_map]
      exact hvalues
  · intro update hmem
    obtain ⟨built, hmem, hdecoded⟩ := List.mem_filterMap.mp (hbuilt.subset (hpeeked update hmem))
    obtain ⟨hfinite, hupdate⟩ := hframe built hmem update hdecoded
    exact ⟨built.1, List.mem_map_of_mem hmem, hfinite, hupdate⟩

/-- Both frames of the exchange are drawn, the second with the pins. -/
theorem screen_shows_telemetry_built_twice :
    (∃ shown : List ProtoSensorUpdate,
        shown.Sublist ((builtFrames (exchangeOutputs false)).map Prod.fst) ∧
        (∀ snapshot ∈ shown, snapshot.AllFinite) ∧
        (screenLog (screenOutputs (exchangeOutputs false))).drawn =
          shown.map ProtoSensorUpdate.rounded) ∧
      (screenLog (screenOutputs (exchangeOutputs false))).drawn.length = 2 :=
  ⟨(screen_shows_telemetry_built (exchangeBuild false) (fun _ => rfl) rfl
    (exchange_startedAlike false) _ _ _ _ exchangeEvents).1,
    by decide +kernel⟩

/-- In a CBOR build no telemetry reaches the screen: over every run of the two nodes no frame is
decoded, so none is stored, drawn by the loop of `ui_task` or drawn before it. -/
theorem cbor_screen_shows_nothing (build : SystemBuild ι)
    (hcbor : build.codec.configUseCbor = true) (hfuel : 6 ≤ build.fuel)
    {srv : WsServer} {link : WsLink} (hstarted : StartedAlike build srv link)
    (boot : SensorsInputs) (results : Fin 2 → Nat → EspErr) (bus : I2cBus)
    (flash : Cell (Option HmiUserPreferences)) (events : List SystemEvent) :
    let log := screenLog (screenOutputs (Machine.run (systemStep build)
      (startedSystem build boot results bus srv link flash) events).2)
    log.decoded = [] ∧ log.stored = [] ∧ log.drawn = [] ∧ log.peeked = [] := by
  intro log
  obtain ⟨encryptionEnabled, hhonest⟩ := hstarted.honest
  obtain ⟨hgood, hdecoded, hstored, hdrawn, hpeeked⟩ := systemRun_stored
    (startedSystem_builtInv boot results bus flash hhonest)
    ⟨List.nil_sublist _, List.nil_sublist _⟩ rfl events
  have hnone : log.decoded = [] := by
    refine List.sublist_nil.mp (hdecoded.trans ?_)
    rw [List.filterMap_eq_nil_iff.mpr fun built hmem =>
      decodedFrame_cbor hcbor hfuel (hgood built hmem)]
  have hempty : log.stored = [] := List.sublist_nil.mp (hnone ▸ hstored)
  refine ⟨hnone, hempty, List.sublist_nil.mp (hempty ▸ hdrawn), ?_⟩
  rw [List.eq_nil_iff_forall_not_mem]
  intro update hmem
  have hmem' := hpeeked update hmem
  rw [show (screenLog _).stored = [] from hempty] at hmem'
  cases hmem'

/-- Of the same exchange in CBOR nothing is drawn. -/
theorem cbor_screen_shows_nothing_exchange :
    (builtFrames (exchangeOutputs true)).length = 2 ∧
      (screenLog (screenOutputs (exchangeOutputs true))).drawn = [] :=
  ⟨by decide +kernel, (cbor_screen_shows_nothing (exchangeBuild true) rfl le_rfl
    (exchange_startedAlike true) _ _ _ _ exchangeEvents).2.2.1⟩

end SensorHmi
