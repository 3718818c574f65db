import SensorHmi.Hmi.Screen
import SensorHmi.Net.HonestTransport
import SensorHmi.Sensor.Telemetry

/-!
# The sensor node and its HMI

Both programs as they run, over the transport between them. On the sensor node the acquisition
task, the I/O task, the publish loop of `app_main` and the receive callback `ws_rx`; on the HMI the
receive callback, `net_task`, `ui_task` and the user. Any of them may take the next step; the
receive callback of a side runs when a frame arrives there, and a send when its caller gets to it.
The server of the sensor node serves other clients too, whose frames go to the same `ws_rx`.
-/

namespace SensorHmi

open Octets

/-- Both programs are built from one tree; `mb` is their mbedTLS. -/
structure SystemBuild (ι : Type) where
  mb : Mbedtls
  wsTickRateHz : UInt32
  codec : Codec ι
  fuel : Nat
  ioMap : IoMap
  sensors : SensorsBuild

/-- The two nodes. `reports` are the calls of `io_task` into the data model that are still to come,
`txFrame` is what `sensor_ws_server_send_update` has built and not yet sent, and `nextCommandSeq` is
`s_next_command_seq`. -/
structure SensorSystem where
  sensor : TelemetryNode
  reports : List IoOutput := []
  txFrame : Option (Bytes × UInt32) := none
  io : IoNode
  net : Transport
  hmi : HmiNode
  nextCommandSeq : UInt32 := 0

/-- The next step of one of the tasks, the wire or the user. -/
inductive SystemEvent
  | sensors (inputs : SensorsInputs)
  | sensorsAct
  | io (event : IoEvent)
  | ioReport (locked : Bool)
  | app (locked : Bool) (monotonicMs : UInt32)
  | broadcast (iv : Vector UInt8 12) (allocated : Bool)
  | wire (event : TransportEvent)
  | atServer (now : TickType)
  | atClient
  | hmi (event : HmiEvent)
  | touch (action : UiAction) (nowMs : UInt32) (iv : Vector UInt8 12) (allocated : Bool)
      (sent : Nat)

/-- What shows of a step: telemetry and its frame, when they are built, and what shows of the
parts. -/
inductive SystemOutput
  | built (snapshot : ProtoSensorUpdate) (frame : Bytes × UInt32)
  | wire (output : TransportOutput)
  | io (output : IoOutput)
  | screen (output : HmiOutput)

/-- What goes over the link: the CRC and the payload. -/
def frameOctets (frame : Bytes × UInt32) : Bytes :=
  leBytes 4 frame.2.toNat ++ frame.1

/-- Whose connection a frame came over. -/
inductive FrameSource
  | hmi
  | other
  deriving DecidableEq

/-- A frame the server handed to its callback. -/
def TransportOutput.received : TransportOutput → Option (FrameSource × Bytes × UInt32)
  | .serverRx payload crc32 => some (.hmi, payload, crc32)
  | .otherRx payload crc32 => some (.other, payload, crc32)
  | _ => none

/-- It goes to `ws_rx` of the sensor node, whoever sent it. -/
def TransportOutput.toIo (output : TransportOutput) : Option IoEvent :=
  output.received.map fun frame => .frame frame.2.1 frame.2.2

/-- A frame that reached the client goes to `ws_rx` of the HMI. -/
def TransportOutput.toHmi : TransportOutput → Option HmiEvent
  | .clientRx payload crc32 => some (.receive payload crc32)
  | _ => none

/-- A call of `io_task` into the data model. -/
def IoOutput.report (locked : Bool) : IoOutput → Option TelemetryEvent
  | .setGpio index portA portB => some (.setGpio locked index portA portB)
  | .setPwm duty frequencyHz => some (.setPwm locked duty.toList frequencyHz)
  | _ => none

/-- Frames come from the wire alone, and `io_task` goes on when its calls are made. -/
def IoEvent.Waits (reports : List IoOutput) : IoEvent → Prop
  | .frame _ _ => True
  | .queueReceive _ => reports ≠ []
  | .poll _ _ => reports ≠ []
  | _ => False

instance (reports : List IoOutput) (event : IoEvent) : Decidable (event.Waits reports) := by
  cases event <;> unfold IoEvent.Waits <;> infer_instance

/-- The connection comes and goes, and so do others. -/
def TransportEvent.OfLink : TransportEvent → Prop
  | .accept _ _ _ _ _ => True
  | .connected => True
  | .disconnect => True
  | .elsewhere _ => True
  | _ => False

instance (event : TransportEvent) : Decidable event.OfLink := by
  cases event <;> unfold TransportEvent.OfLink <;> infer_instance

/-- A call that is made whatever arrives and whatever the user does. -/
def HmiEvent.OfTasks : HmiEvent → Prop
  | .rxCall _ => True
  | .net _ _ => True
  | .ui _ => True
  | _ => False

instance (event : HmiEvent) : Decidable event.OfTasks := by
  cases event <;> unfold HmiEvent.OfTasks <;> infer_instance

/-- The command the user's action makes, if it makes one. -/
def HmiOutput.sends : HmiOutput → Option ProtoCommand
  | .command cmd => some cmd
  | _ => none

variable {ι : Type} (build : SystemBuild ι)

/-- A step of the sensor node's tasks. -/
def sensorStep (sys : SensorSystem) (event : TelemetryEvent) : SensorSystem :=
  { sys with
    sensor :=
      (telemetryStep build.codec build.codec.configUseCbor build.sensors sys.sensor event).1 }

/-- The next call of the publish loop. Behind a build it stands before `ws_server_send`. -/
def publishCall (sys : SensorSystem) (locked : Bool) (monotonicMs : UInt32) :
    SensorSystem × List SystemOutput :=
  let (sensor, frames) := telemetryStep build.codec build.codec.configUseCbor build.sensors
    sys.sensor (.app locked monotonicMs)
  ({ sys with sensor := sensor, txFrame := frames.head? },
    frames.map (.built sys.sensor.model.current))

/-- A step of the transport. -/
def wireStep (sys : SensorSystem) (event : TransportEvent) : SensorSystem × List TransportOutput :=
  let (net, outputs) := transportStep build.mb build.wsTickRateHz sys.net event
  ({ sys with net := net }, outputs)

/-- A step of the transport in which the server may call `ws_rx`. -/
def nodeReceives (sys : SensorSystem) (event : TransportEvent) :
    SensorSystem × List SystemOutput :=
  let (sys, outputs) := wireStep build sys event
  let (io, sections) := Machine.run (ioStep build.codec build.fuel build.ioMap) sys.io
    (outputs.filterMap TransportOutput.toIo)
  ({ sys with io := io }, outputs.map .wire ++ sections.map .io)

/-- A step of the HMI. -/
def screenStep (sys : SensorSystem) (event : HmiEvent) : SensorSystem × List HmiOutput :=
  let (hmi, outputs) := hmiStep build.codec build.fuel sys.hmi event
  ({ sys with hmi := hmi }, outputs)

/-- `hmi_ws_client_send_command` down to the wire. -/
def sendCommand (sys : SensorSystem) (nowMs : UInt32) (iv : Vector UInt8 12) (allocated : Bool)
    (sent : Nat) (cmd : ProtoCommand) : SensorSystem × List TransportOutput :=
  let (link, data) := hmiWsClientSendCommand build.codec
    { connected := sys.net.link.connected, nextCommandSeq := sys.nextCommandSeq } nowMs cmd
  let sys := { sys with nextCommandSeq := link.nextCommandSeq }
  match data with
  | .error _ => (sys, [])
  | .ok data => wireStep build sys (.clientSend data iv allocated sent)

/-- One step. -/
def systemStep (sys : SensorSystem) : SystemEvent → SensorSystem × List SystemOutput
  | .sensors inputs => (sensorStep build sys (.sensors inputs), [])
  | .sensorsAct => (sensorStep build sys .sensorsAct, [])
  | .io event =>
      if event.Waits sys.reports then (sys, [])
      else
        let (io, outputs) := ioStep build.codec build.fuel build.ioMap sys.io event
        let reports := outputs.filter fun output => (output.report true).isSome
        ({ sys with io := io, reports := sys.reports ++ reports }, outputs.map .io)
  | .ioReport locked =>
      match sys.reports with
      | [] => (sys, [])
      | report :: rest =>
          let sys := { sys with reports := rest }
          ((report.report locked).elim sys (sensorStep build sys), [])
  | .app locked monotonicMs =>
      if sys.txFrame.isSome then (sys, []) else publishCall build sys locked monotonicMs
  | .broadcast iv allocated =>
      match sys.txFrame with
      | none => (sys, [])
      | some frame =>
          let (sys, outputs) :=
            wireStep build { sys with txFrame := none }
              (.serverSend (frameOctets frame) iv allocated)
          (sys, outputs.map .wire)
  | .wire event => if event.OfLink then nodeReceives build sys event else (sys, [])
  | .atServer now => nodeReceives build sys (.atServer now)
  | .atClient =>
      -- the receive callback of the last frame returns first
      if sys.hmi.pending = [] then
        let (sys, outputs) := wireStep build sys .atClient
        let (hmi, shown) := Machine.run (hmiStep build.codec build.fuel) sys.hmi
          (outputs.filterMap TransportOutput.toHmi)
        ({ sys with hmi := hmi }, outputs.map .wire ++ shown.map .screen)
      else (sys, [])
  | .hmi event =>
      if event.OfTasks then
        let (sys, outputs) := screenStep build sys event
        (sys, outputs.map .screen)
      else (sys, [])
  | .touch action nowMs iv allocated sent =>
      let (sys, outputs) := screenStep build sys (.touch action)
      match outputs.findSome? HmiOutput.sends with
      | none => (sys, outputs.map .screen)
      | some cmd =>
          let (sys, wire) := sendCommand build sys nowMs iv allocated sent cmd
          (sys, outputs.map .screen ++ wire.map .wire)

/-- Both nodes when their tasks have been started. -/
def startedSystem (boot : SensorsInputs) (results : Fin 2 → Nat → EspErr) (bus : I2cBus)
    (srv : WsServer) (link : WsLink) (flash : Cell (Option HmiUserPreferences)) : SensorSystem where
  sensor := telemetryStart build.sensors boot
  io := ioTaskStart results bus
  net := startedTransport srv link
  hmi := hmiBoot flash

/-- The server and the client were started, both with frame encryption or both without it. -/
def StartedAlike (srv : WsServer) (link : WsLink) : Prop :=
  ∃ outcome config before clientOutcome clientConfig clientBefore,
    wsServerStart build.mb build.wsTickRateHz outcome config true before = (.ok, srv) ∧
      wsClientStart build.mb clientOutcome clientConfig true clientBefore = (.ok, link) ∧
      clientConfig.enableFrameEncryption = config.enableFrameEncryption

end SensorHmi
