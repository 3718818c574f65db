import SensorHmi.Hmi.GpioToggle
import SensorHmi.Lib.Component
import SensorHmi.System.SensorSystem

/-!
# The parts of the system

Seen at the wire, at the I/O task or at the HMI, every step of the system is a step of that part or
leaves it alone, and what a part receives is what the wire hands on. So a run of the system is a run
of each of them.
-/

namespace SensorHmi

open Octets

/-- The outputs of the parts. -/
def SystemOutput.ofWire : SystemOutput → Option TransportOutput
  | .wire output => some output
  | _ => none

def SystemOutput.ofIo : SystemOutput → Option IoOutput
  | .io output => some output
  | _ => none

def SystemOutput.ofScreen : SystemOutput → Option HmiOutput
  | .screen output => some output
  | _ => none

/-- Telemetry that was built, with its frame. -/
def SystemOutput.ofBuild : SystemOutput → Option (ProtoSensorUpdate × Bytes × UInt32)
  | .built snapshot frame => some (snapshot, frame)
  | _ => none

def wireOutputs (outputs : List SystemOutput) : List TransportOutput :=
  outputs.filterMap SystemOutput.ofWire

def ioOutputs (outputs : List SystemOutput) : List IoOutput :=
  outputs.filterMap SystemOutput.ofIo

def screenOutputs (outputs : List SystemOutput) : List HmiOutput :=
  outputs.filterMap SystemOutput.ofScreen

def builtFrames (outputs : List SystemOutput) : List (ProtoSensorUpdate × Bytes × UInt32) :=
  outputs.filterMap SystemOutput.ofBuild

/-- The commands the user made. -/
def issuedCommands (outputs : List SystemOutput) : List ProtoCommand :=
  (screenOutputs outputs).filterMap HmiOutput.sends

/-- The payload of an event of the HMI, with its CRC. -/
def HmiEvent.payload : HmiEvent → Option (Bytes × UInt32)
  | .receive payload crc32 => some (payload, crc32)
  | _ => none

section Select

variable {first second outputs : List SystemOutput} {wire : List TransportOutput}
  {io : List IoOutput} {screen : List HmiOutput}

@[simp] theorem wireOutputs_append :
    wireOutputs (first ++ second) = wireOutputs first ++ wireOutputs second :=
  List.filterMap_append

@[simp] theorem ioOutputs_append :
    ioOutputs (first ++ second) = ioOutputs first ++ ioOutputs second :=
  List.filterMap_append

@[simp] theorem screenOutputs_append :
    screenOutputs (first ++ second) = screenOutputs first ++ screenOutputs second :=
  List.filterMap_append

@[simp] theorem builtFrames_append :
    builtFrames (first ++ second) = builtFrames first ++ builtFrames second :=
  List.filterMap_append

@[simp] theorem issuedCommands_append :
    issuedCommands (first ++ second) = issuedCommands first ++ issuedCommands second := by
  rw [issuedCommands, screenOutputs_append, List.filterMap_append]
  rfl

/-- Outputs of one kind, selected by their kind or by another. -/
theorem filterMap_map_some {α β : Type} (wrap : α → β) (select : β → Option α)
    (h : ∀ item, select (wrap item) = some item) (items : List α) :
    (items.map wrap).filterMap select = items := by
  rw [List.filterMap_map]
  exact (List.filterMap_congr fun item _ => h item).trans (List.filterMap_some)

theorem filterMap_map_none {α β γ : Type} (wrap : α → β) (select : β → Option γ)
    (h : ∀ item, select (wrap item) = none) (items : List α) :
    (items.map wrap).filterMap select = [] := by
  rw [List.filterMap_map]
  exact List.filterMap_eq_nil_iff.mpr fun item _ => h item

@[simp] theorem wireOutputs_wire : wireOutputs (wire.map .wire) = wire :=
  filterMap_map_some SystemOutput.wire SystemOutput.ofWire (fun _ => rfl) wire

@[simp] theorem wireOutputs_io : wireOutputs (io.map .io) = [] :=
  filterMap_map_none _ _ (fun _ => rfl) io

@[simp] theorem wireOutputs_screen : wireOutputs (screen.map .screen) = [] :=
  filterMap_map_none _ _ (fun _ => rfl) screen

@[simp] theorem ioOutputs_wire : ioOutputs (wire.map .wire) = [] :=
  filterMap_map_none _ _ (fun _ => rfl) wire

@[simp] theorem ioOutputs_io : ioOutputs (io.map .io) = io :=
  filterMap_map_some SystemOutput.io SystemOutput.ofIo (fun _ => rfl) io

@[simp] theorem ioOutputs_screen : ioOutputs (screen.map .screen) = [] :=
  filterMap_map_none _ _ (fun _ => rfl) screen

@[simp] theorem screenOutputs_wire : screenOutputs (wire.map .wire) = [] :=
  filterMap_map_none _ _ (fun _ => rfl) wire

@[simp] theorem screenOutputs_io : screenOutputs (io.map .io) = [] :=
  filterMap_map_none _ _ (fun _ => rfl) io

@[simp] theorem screenOutputs_screen : screenOutputs (screen.map .screen) = screen :=
  filterMap_map_some SystemOutput.screen SystemOutput.ofScreen (fun _ => rfl) screen

@[simp] theorem builtFrames_wire : builtFrames (wire.map .wire) = [] :=
  filterMap_map_none _ _ (fun _ => rfl) wire

@[simp] theorem builtFrames_io : builtFrames (io.map .io) = [] :=
  filterMap_map_none _ _ (fun _ => rfl) io

@[simp] theorem builtFrames_screen : builtFrames (screen.map .screen) = [] :=
  filterMap_map_none _ _ (fun _ => rfl) screen

end Select

variable {ι : Type} {build : SystemBuild ι} {sys : SensorSystem}

section Steps

@[simp] theorem screenStep_net (event : HmiEvent) : (screenStep build sys event).1.net = sys.net :=
  rfl

/-- The publish loop touches neither the wire nor the HMI, and what shows of it is what it builds.
-/
theorem publishCall_frame (locked : Bool) (monotonicMs : UInt32) :
    let result := publishCall build sys locked monotonicMs
    result.1.net = sys.net ∧ result.1.io = sys.io ∧ result.1.hmi = sys.hmi ∧
      wireOutputs result.2 = [] ∧ ioOutputs result.2 = [] ∧ screenOutputs result.2 = [] := by
  intro result
  refine ⟨rfl, rfl, rfl, ?_, ?_, ?_⟩
  · exact filterMap_map_none _ _ (fun _ => rfl) _
  · exact filterMap_map_none _ _ (fun _ => rfl) _
  · exact filterMap_map_none _ _ (fun _ => rfl) _

/-- A report of the I/O task concerns the data model alone. -/
theorem report_frame (report : IoOutput) (locked : Bool) (sys : SensorSystem) :
    let next := (report.report locked).elim sys (sensorStep build sys)
    next.net = sys.net ∧ next.io = sys.io ∧ next.hmi = sys.hmi ∧ next.txFrame = sys.txFrame := by
  intro next
  have hcases : next = sys ∨ ∃ event, next = sensorStep build sys event := by
    cases hreport : report.report locked with
    | none => exact Or.inl (by simp only [next, hreport, Option.elim_none])
    | some event => exact Or.inr ⟨event, by simp only [next, hreport, Option.elim_some]⟩
  rcases hcases with hnext | ⟨event, hnext⟩ <;> rw [hnext] <;> exact ⟨rfl, rfl, rfl, rfl⟩

/-- What the server receives concerns the wire and the I/O task. -/
theorem nodeReceives_frame (sys : SensorSystem) (event : TransportEvent) :
    let result := nodeReceives build sys event
    ((result.1.net, wireOutputs result.2) =
        transportStep build.mb build.wsTickRateHz sys.net event ∧
      (result.1.io, ioOutputs result.2) =
        Machine.run (ioStep build.codec build.fuel build.ioMap) sys.io
          ((wireOutputs result.2).filterMap TransportOutput.toIo)) ∧
    (result.1.hmi = sys.hmi ∧ result.1.sensor = sys.sensor ∧ result.1.txFrame = sys.txFrame) ∧
      screenOutputs result.2 = [] ∧ builtFrames result.2 = [] := by
  intro result
  have hwire : wireOutputs result.2 = (wireStep build sys event).2 := by
    show wireOutputs (_ ++ _) = _
    rw [wireOutputs_append, wireOutputs_wire, wireOutputs_io, List.append_nil]
    rfl
  refine ⟨⟨?_, ?_⟩, ⟨rfl, rfl, rfl⟩, ?_, ?_⟩
  · rw [hwire]
    rfl
  · rw [hwire]
    show (_, ioOutputs (_ ++ _)) = _
    rw [ioOutputs_append, ioOutputs_wire, ioOutputs_io, List.nil_append]
    rfl
  · show screenOutputs (_ ++ _) = []
    rw [screenOutputs_append, screenOutputs_wire, screenOutputs_io, List.append_nil]
  · show builtFrames (_ ++ _) = []
    rw [builtFrames_append, builtFrames_wire, builtFrames_io, List.append_nil]

/-- A command goes to the wire alone, as the data of one send if it is framed. -/
theorem sendCommand_frame (nowMs : UInt32) (iv : Vector UInt8 12) (allocated : Bool) (sent : Nat)
    (cmd : ProtoCommand) :
    let result := sendCommand build sys nowMs iv allocated sent cmd
    (result.1.io = sys.io ∧ result.1.hmi = sys.hmi ∧ result.1.sensor = sys.sensor ∧
      result.1.txFrame = sys.txFrame) ∧
    ((result.1.net = sys.net ∧ result.2 = []) ∨
      ∃ data, (hmiWsClientSendCommand build.codec
          { connected := sys.net.link.connected, nextCommandSeq := sys.nextCommandSeq } nowMs
          cmd).2 = .ok data ∧
        (result.1.net, result.2) = transportStep build.mb build.wsTickRateHz sys.net
          (.clientSend data iv allocated sent)) := by
  intro result
  simp only [result, sendCommand]
  generalize hmiWsClientSendCommand build.codec
    { connected := sys.net.link.connected, nextCommandSeq := sys.nextCommandSeq } nowMs cmd = framed
  obtain ⟨link, data⟩ := framed
  cases data with
  | error err => exact ⟨⟨rfl, rfl, rfl, rfl⟩, Or.inl ⟨rfl, rfl⟩⟩
  | ok data => exact ⟨⟨rfl, rfl, rfl, rfl⟩, Or.inr ⟨data, rfl, rfl⟩⟩

end Steps

section Shows

/-- What may show of a step of the transport. -/
def TransportEvent.MayShow : TransportEvent → TransportOutput → Prop
  | .clientSend data _ _ _, .clientSent data' => data' = data
  | .serverSend data _ _, .serverSent data' => data' = data
  | .atServer _, .serverRx _ _ => True
  | .atClient, .clientRx _ _ => True
  | .elsewhere _, .otherRx _ _ => True
  | _, _ => False

variable {mb : Mbedtls} {tickRateHz : UInt32} {net : Transport} {event : TransportEvent}

theorem transportStep_mayShow :
    ∀ output ∈ (transportStep mb tickRateHz net event).2, event.MayShow output := by
  intro output hmem
  cases event with
  | accept req fd authNow now unixTime =>
      simp only [transportStep] at hmem
      split at hmem
      · split at hmem <;> cases hmem
      · cases hmem
  | connected =>
      simp only [transportStep] at hmem
      split at hmem <;> cases hmem
  | disconnect =>
      simp only [transportStep] at hmem
      split at hmem <;> cases hmem
  | elsewhere event =>
      simp only [transportStep] at hmem
      split at hmem
      · obtain ⟨shown, -, hcall⟩ := List.mem_filterMap.mp hmem
        cases shown <;> cases hcall
        trivial
      · cases hmem
  | clientSend data iv allocated sent =>
      obtain ⟨_, -, rfl⟩ := List.mem_map.mp hmem
      rfl
  | serverSend data iv allocated =>
      obtain ⟨_, -, rfl⟩ := List.mem_map.mp hmem
      rfl
  | atServer now =>
      simp only [transportStep] at hmem
      split at hmem
      · obtain ⟨shown, -, hcall⟩ := List.mem_filterMap.mp hmem
        cases shown <;> cases hcall
        trivial
      · cases hmem
  | atClient =>
      simp only [transportStep] at hmem
      split at hmem
      · obtain ⟨shown, -, hcall⟩ := List.mem_filterMap.mp hmem
        cases shown <;> cases hcall
        trivial
      · cases hmem

/-- Nothing is selected from a step that shows nothing of the kind. -/
theorem filterMap_transportStep {α : Type} {select : TransportOutput → Option α}
    (h : ∀ output, event.MayShow output → select output = none) :
    (transportStep mb tickRateHz net event).2.filterMap select = [] :=
  List.filterMap_eq_nil_iff.mpr fun output hmem => h output (transportStep_mayShow output hmem)

/-- Only an arrival at the client calls its callback. -/
theorem clientCalls_transportStep (h : event ≠ .atClient) :
    clientCalls (transportStep mb tickRateHz net event).2 = [] := by
  refine filterMap_transportStep fun output hshows => ?_
  cases output with
  | clientRx payload crc32 =>
      cases event <;> first | exact absurd rfl h | exact hshows.elim
  | _ => rfl

/-- The frames the server handed to its callback, each with whose connection it came over. -/
def nodeCalls (outputs : List TransportOutput) : List (FrameSource × Bytes × UInt32) :=
  outputs.filterMap TransportOutput.received

theorem nodeCalls_append (first second : List TransportOutput) :
    nodeCalls (first ++ second) = nodeCalls first ++ nodeCalls second :=
  List.filterMap_append

/-- Only an arrival at the server, or an event of another connection, calls the callback of the
server. -/
theorem nodeCalls_transportStep (h : ∀ now, event ≠ .atServer now)
    (hother : ∀ other, event ≠ .elsewhere other) :
    nodeCalls (transportStep mb tickRateHz net event).2 = [] := by
  refine filterMap_transportStep fun output hshows => ?_
  cases output with
  | serverRx payload crc32 =>
      cases event <;> first | exact absurd rfl (h _) | exact hshows.elim
  | otherRx payload crc32 =>
      cases event <;> first | exact absurd rfl (hother _) | exact hshows.elim
  | _ => rfl

theorem serverData_transportStep (h : ∀ data iv allocated, event ≠ .serverSend data iv allocated) :
    serverData (transportStep mb tickRateHz net event).2 = [] := by
  refine filterMap_transportStep fun output hshows => ?_
  cases output with
  | serverSent data =>
      cases event <;> first | exact absurd rfl (h _ _ _) | exact hshows.elim
  | _ => rfl

theorem clientData_transportStep
    (h : ∀ data iv allocated sent, event ≠ .clientSend data iv allocated sent) :
    clientData (transportStep mb tickRateHz net event).2 = [] := by
  refine filterMap_transportStep fun output hshows => ?_
  cases output with
  | clientSent data =>
      cases event <;> first | exact absurd rfl (h _ _ _ _) | exact hshows.elim
  | _ => rfl

/-- A command that is sent calls no callback and comes from the client. -/
theorem sendCommand_shows (build : SystemBuild ι) (sys : SensorSystem) (nowMs : UInt32)
    (iv : Vector UInt8 12) (allocated : Bool) (sent : Nat) (cmd : ProtoCommand) :
    let wire := (sendCommand build sys nowMs iv allocated sent cmd).2
    clientCalls wire = [] ∧ nodeCalls wire = [] ∧ serverData wire = [] := by
  intro wire
  obtain ⟨-, hnothing | ⟨data, -, hsend⟩⟩ :=
    @sendCommand_frame _ build sys nowMs iv allocated sent cmd
  · rw [show wire = [] from hnothing.2]
    exact ⟨rfl, rfl, rfl⟩
  · have hwire : wire = (transportStep build.mb build.wsTickRateHz sys.net
        (.clientSend data iv allocated sent)).2 := (Prod.mk.inj hsend).2
    rw [hwire]
    exact ⟨clientCalls_transportStep (fun h => by cases h),
      nodeCalls_transportStep (fun now h => by cases h) (fun other h => by cases h),
      serverData_transportStep (fun _ _ _ h => by cases h)⟩

/-- The callbacks of a step of the wire. -/
theorem clientCalls_wireStep (build : SystemBuild ι) (sys : SensorSystem) (event : TransportEvent)
    (h : event ≠ .atClient) : clientCalls (wireStep build sys event).2 = [] :=
  clientCalls_transportStep h

theorem nodeCalls_wireStep (build : SystemBuild ι) (sys : SensorSystem) (event : TransportEvent)
    (h : ∀ now, event ≠ .atServer now) (hother : ∀ other, event ≠ .elsewhere other) :
    nodeCalls (wireStep build sys event).2 = [] :=
  nodeCalls_transportStep h hother

end Shows

section Wire

/-- The wire in the system. -/
def wirePart : Machine.Component SensorSystem SystemOutput Transport TransportOutput where
  state := SensorSystem.net
  own := SystemOutput.ofWire

/-- Every step is a step of the wire or leaves it alone. -/
theorem systemStep_wire (event : SystemEvent) :
    wirePart.Runs (transportStep build.mb build.wsTickRateHz) (fun _ _ => True) sys
      (systemStep build sys event) := by
  have hidle {after : SensorSystem × List SystemOutput} (hnet : after.1.net = sys.net)
      (hwire : wireOutputs after.2 = []) : wirePart.Runs
        (transportStep build.mb build.wsTickRateHz) (fun _ _ => True) sys after :=
    Machine.Component.runs_idle hnet hwire trivial
  have hstep {after : SensorSystem × List SystemOutput} {event : TransportEvent}
      (hnet : (after.1.net, wireOutputs after.2) =
        transportStep build.mb build.wsTickRateHz sys.net event) : wirePart.Runs
        (transportStep build.mb build.wsTickRateHz) (fun _ _ => True) sys after :=
    Machine.Component.runs_step hnet.symm trivial
  cases event with
  | sensors inputs => exact hidle rfl rfl
  | sensorsAct => exact hidle rfl rfl
  | io event =>
      unfold systemStep
      dsimp only
      split_ifs
      · exact hidle rfl rfl
      · exact hidle rfl wireOutputs_io
  | ioReport locked =>
      unfold systemStep
      dsimp only
      cases hreports : sys.reports with
      | nil => exact hidle rfl rfl
      | cons report rest =>
          exact hidle (report_frame report locked { sys with reports := rest }).1 rfl
  | app locked monotonicMs =>
      unfold systemStep
      dsimp only
      split_ifs
      · exact hidle rfl rfl
      · obtain ⟨hnet, -, -, hwire, -⟩ := @publishCall_frame _ build sys locked monotonicMs
        exact hidle hnet hwire
  | broadcast iv allocated =>
      unfold systemStep
      dsimp only
      cases hframe : sys.txFrame with
      | none => exact hidle rfl rfl
      | some frame =>
          exact @hstep _ (.serverSend (frameOctets frame) iv allocated) (by simp [wireStep])
  | wire event =>
      unfold systemStep
      dsimp only
      split_ifs
      · exact hstep (@nodeReceives_frame _ build sys event).1.1
      · exact hidle rfl rfl
  | atServer now => exact hstep (@nodeReceives_frame _ build sys (.atServer now)).1.1
  | atClient =>
      unfold systemStep
      dsimp only
      split_ifs
      · exact @hstep _ .atClient (by simp [wireStep])
      · exact hidle rfl rfl
  | hmi event =>
      unfold systemStep
      dsimp only
      split_ifs
      · exact hidle rfl wireOutputs_screen
      · exact hidle rfl rfl
  | touch action nowMs iv allocated sent =>
      unfold systemStep
      dsimp only
      split
      case h_1 => exact hidle rfl wireOutputs_screen
      case h_2 cmd hcommand =>
        obtain ⟨-, hnothing | ⟨data, -, hsend⟩⟩ := @sendCommand_frame _ build
          (screenStep build sys (.touch action)).1 nowMs iv allocated sent cmd
        · refine hidle hnothing.1 ?_
          simp [hnothing.2]
        · exact @hstep _ (.clientSend data iv allocated sent) (by simpa using hsend)

end Wire

section Screen

/-- The HMI in the system. -/
def screenPart : Machine.Component SensorSystem SystemOutput HmiNode HmiOutput where
  state := SensorSystem.hmi
  own := SystemOutput.ofScreen

/-- What the HMI receives is what the client's callback hands on. -/
def ReceivesAtHmi (events : List HmiEvent) (outputs : List SystemOutput) : Prop :=
  events.filterMap HmiEvent.payload = clientCalls (wireOutputs outputs)

/-- What reached the client is what the HMI receives. -/
theorem payload_toHmi (wire : List TransportOutput) :
    (wire.filterMap TransportOutput.toHmi).filterMap HmiEvent.payload = clientCalls wire := by
  rw [List.filterMap_filterMap]
  refine List.filterMap_congr fun output _ => ?_
  cases output <;> rfl

/-- Every step is a step of the HMI or leaves it alone. -/
theorem systemStep_screen (event : SystemEvent) :
    screenPart.Runs (hmiStep build.codec build.fuel) ReceivesAtHmi sys
      (systemStep build sys event) := by
  have hidle {after : SensorSystem × List SystemOutput} (hhmi : after.1.hmi = sys.hmi)
      (hscreen : screenOutputs after.2 = []) (hcalls : clientCalls (wireOutputs after.2) = []) :
      screenPart.Runs (hmiStep build.codec build.fuel) ReceivesAtHmi sys after :=
    Machine.Component.runs_idle hhmi hscreen hcalls.symm
  have hreceives (event : TransportEvent) (hevent : event ≠ .atClient) :
      screenPart.Runs (hmiStep build.codec build.fuel) ReceivesAtHmi sys
        (nodeReceives build sys event) := by
    obtain ⟨⟨hwire, -⟩, ⟨hhmi, -, -⟩, hscreen, -⟩ := @nodeReceives_frame _ build sys event
    refine hidle hhmi hscreen ?_
    rw [(Prod.mk.inj hwire).2]
    exact clientCalls_transportStep hevent
  have hnone (event : HmiEvent) (hpayload : event.payload = none) {wire : List TransportOutput}
      (hcalls : clientCalls wire = []) : [event].filterMap HmiEvent.payload = clientCalls wire := by
    rw [hcalls, List.filterMap_cons, hpayload]
    rfl
  cases event with
  | sensors inputs => exact hidle rfl rfl rfl
  | sensorsAct => exact hidle rfl rfl rfl
  | io event =>
      unfold systemStep
      dsimp only
      split_ifs
      · exact hidle rfl rfl rfl
      · exact hidle rfl screenOutputs_io (by rw [wireOutputs_io]; rfl)
  | ioReport locked =>
      unfold systemStep
      dsimp only
      cases hreports : sys.reports with
      | nil => exact hidle rfl rfl rfl
      | cons report rest =>
          exact hidle (report_frame report locked { sys with reports := rest }).2.2.1 rfl rfl
  | app locked monotonicMs =>
      unfold systemStep
      dsimp only
      split_ifs
      · exact hidle rfl rfl rfl
      · obtain ⟨-, -, hhmi, hwire, -, hscreen⟩ := @publishCall_frame _ build sys locked monotonicMs
        exact hidle hhmi hscreen (by rw [hwire]; rfl)
  | broadcast iv allocated =>
      unfold systemStep
      dsimp only
      cases hframe : sys.txFrame with
      | none => exact hidle rfl rfl rfl
      | some frame =>
          refine hidle rfl screenOutputs_wire ?_
          rw [wireOutputs_wire]
          exact clientCalls_wireStep build _ (.serverSend (frameOctets frame) iv allocated)
            fun h => by cases h
  | wire event =>
      unfold systemStep
      dsimp only
      split_ifs with hlink
      · refine hreceives event ?_
        rintro rfl
        exact hlink.elim
      · exact hidle rfl rfl rfl
  | atServer now => exact hreceives (.atServer now) fun h => by cases h
  | atClient =>
      unfold systemStep
      dsimp only
      split_ifs
      · refine ⟨(wireStep build sys .atClient).2.filterMap TransportOutput.toHmi, ?_, ?_⟩
        · show _ = (_, screenOutputs (_ ++ _))
          rw [screenOutputs_append, screenOutputs_wire, screenOutputs_screen, List.nil_append]
          rfl
        · show _ = clientCalls (wireOutputs (_ ++ _))
          rw [wireOutputs_append, wireOutputs_wire, wireOutputs_screen, List.append_nil]
          exact payload_toHmi _
      · exact hidle rfl rfl rfl
  | hmi event =>
      unfold systemStep
      dsimp only
      split_ifs with htasks
      · refine Machine.Component.runs_step ?_ (hnone event ?_ ?_)
        · show _ = (_, screenOutputs _)
          rw [screenOutputs_screen]
          rfl
        · cases event <;> first | exact htasks.elim | rfl
        · rw [wireOutputs_screen]
          rfl
      · exact hidle rfl rfl rfl
  | touch action nowMs iv allocated sent =>
      -- the callback of the user's action may send a command, which the HMI does not see
      have hstep {after : SensorSystem × List SystemOutput}
          (hhmi : (after.1.hmi, screenOutputs after.2) =
            hmiStep build.codec build.fuel sys.hmi (.touch action))
          (hcalls : clientCalls (wireOutputs after.2) = []) :
          screenPart.Runs (hmiStep build.codec build.fuel) ReceivesAtHmi sys
            after :=
        Machine.Component.runs_step hhmi.symm (hnone _ rfl hcalls)
      unfold systemStep
      dsimp only
      split
      case h_1 => exact hstep (by simp [screenStep]) (by rw [wireOutputs_screen]; rfl)
      case h_2 cmd hcommand =>
        obtain ⟨⟨-, hhmi, -⟩, -⟩ := @sendCommand_frame _ build
          (screenStep build sys (.touch action)).1 nowMs iv allocated sent cmd
        refine hstep ?_ ?_
        · rw [screenOutputs_append, screenOutputs_screen, screenOutputs_wire, List.append_nil,
            hhmi]
          rfl
        · rw [wireOutputs_append, wireOutputs_screen, wireOutputs_wire, List.nil_append]
          exact (sendCommand_shows build _ nowMs iv allocated sent cmd).1

end Screen

section Io

/-- The I/O task and `ws_rx` in the system. -/
def ioPart : Machine.Component SensorSystem SystemOutput IoNode IoOutput where
  state := SensorSystem.io
  own := SystemOutput.ofIo

/-- What `ws_rx` receives is what the server's callback hands on. -/
def ReceivesAtNode (events : List IoEvent) (outputs : List SystemOutput) : Prop :=
  receivedFrames events = (nodeCalls (wireOutputs outputs)).map Prod.snd

theorem receivedFrames_toIo (wire : List TransportOutput) :
    receivedFrames (wire.filterMap TransportOutput.toIo) = (nodeCalls wire).map Prod.snd := by
  rw [receivedFrames, List.filterMap_filterMap, nodeCalls, List.map_filterMap]
  refine List.filterMap_congr fun output _ => ?_
  cases output <;> rfl

/-- Every step is a step of the I/O task or leaves it alone. -/
theorem systemStep_io (event : SystemEvent) :
    ioPart.Runs (ioStep build.codec build.fuel build.ioMap) ReceivesAtNode sys
      (systemStep build sys event) := by
  have hidle {after : SensorSystem × List SystemOutput} (hio : after.1.io = sys.io)
      (hnone : ioOutputs after.2 = []) (hcalls : nodeCalls (wireOutputs after.2) = []) :
      ioPart.Runs (ioStep build.codec build.fuel build.ioMap) ReceivesAtNode sys
        after :=
    Machine.Component.runs_idle hio hnone (by rw [ReceivesAtNode, hcalls]; rfl)
  have hreceives (event : TransportEvent) :
      ioPart.Runs (ioStep build.codec build.fuel build.ioMap) ReceivesAtNode sys
        (nodeReceives build sys event) := by
    obtain ⟨⟨-, hio⟩, -⟩ := @nodeReceives_frame _ build sys event
    exact ⟨_, hio.symm, receivedFrames_toIo _⟩
  cases event with
  | sensors inputs => exact hidle rfl rfl rfl
  | sensorsAct => exact hidle rfl rfl rfl
  | io event =>
      unfold systemStep
      dsimp only
      split_ifs with hwaits
      · exact hidle rfl rfl rfl
      · have hnone : receivedFrames [event] = [] := by
          cases event <;> first | exact absurd trivial hwaits | rfl
        refine ⟨[event], ?_, ?_⟩
        · show _ = (_, ioOutputs _)
          rw [ioOutputs_io, Machine.run_cons, Machine.run_nil, List.append_nil]
          rfl
        · show receivedFrames [event] = (nodeCalls (wireOutputs _)).map Prod.snd
          rw [wireOutputs_io, hnone]
          rfl
  | ioReport locked =>
      unfold systemStep
      dsimp only
      cases hreports : sys.reports with
      | nil => exact hidle rfl rfl rfl
      | cons report rest =>
          exact hidle (report_frame report locked { sys with reports := rest }).2.1 rfl rfl
  | app locked monotonicMs =>
      unfold systemStep
      dsimp only
      split_ifs
      · exact hidle rfl rfl rfl
      · obtain ⟨-, hio, -, hwire, hnone, -⟩ := @publishCall_frame _ build sys locked monotonicMs
        exact hidle hio hnone (by rw [hwire]; rfl)
  | broadcast iv allocated =>
      unfold systemStep
      dsimp only
      cases hframe : sys.txFrame with
      | none => exact hidle rfl rfl rfl
      | some frame =>
          refine hidle rfl ioOutputs_wire ?_
          rw [wireOutputs_wire]
          exact nodeCalls_wireStep build _ (.serverSend (frameOctets frame) iv allocated)
            (fun _ h => by cases h) (fun _ h => by cases h)
  | wire event =>
      unfold systemStep
      dsimp only
      split_ifs
      · exact hreceives event
      · exact hidle rfl rfl rfl
  | atServer now => exact hreceives (.atServer now)
  | atClient =>
      unfold systemStep
      dsimp only
      split_ifs
      · refine hidle rfl ?_ ?_
        · rw [ioOutputs_append, ioOutputs_wire, ioOutputs_screen, List.nil_append]
        · rw [wireOutputs_append, wireOutputs_wire, wireOutputs_screen, List.append_nil]
          exact nodeCalls_wireStep build sys .atClient (fun _ h => by cases h) fun _ h => by cases h
      · exact hidle rfl rfl rfl
  | hmi event =>
      unfold systemStep
      dsimp only
      split_ifs
      · exact hidle rfl ioOutputs_screen (by rw [wireOutputs_screen]; rfl)
      · exact hidle rfl rfl rfl
  | touch action nowMs iv allocated sent =>
      unfold systemStep
      dsimp only
      split
      case h_1 => exact hidle rfl ioOutputs_screen (by rw [wireOutputs_screen]; rfl)
      case h_2 cmd hcommand =>
        obtain ⟨⟨hio, -⟩, -⟩ := @sendCommand_frame _ build
          (screenStep build sys (.touch action)).1 nowMs iv allocated sent cmd
        refine hidle hio ?_ ?_
        · rw [ioOutputs_append, ioOutputs_screen, ioOutputs_wire, List.nil_append]
        · rw [wireOutputs_append, wireOutputs_screen, wireOutputs_wire, List.nil_append]
          exact (sendCommand_shows build _ nowMs iv allocated sent cmd).2.1

end Io

end SensorHmi
