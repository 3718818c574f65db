import SensorHmi.Lib.Machine
import SensorHmi.Proto.Codec
import SensorHmi.Sensor.Mcp23017

/-!
# Commands on the sensor node

`ws_rx` of `sensor_node/main/net/ws_server.c` and `sensor_node/main/tasks/t_io.c`: the receive
callback queues the sections of each command it decodes, the I/O task drains the queue, reports
the expanders and sleeps. The two tasks interleave event by event. A frame that comes while the
callback still waits for room is decoded at once and its sections wait behind the others, which
nobody can tell from decoding it later.
-/

namespace SensorHmi

/-- `io_command_t` -/
inductive IoCommand
  | setPwm (channel : UInt8) (duty : UInt16)
  | setPwmFreq (pwmFreq : UInt16)
  | writeGpio (deviceIndex port : UInt8) (mask value : UInt16)
  deriving DecidableEq

/-- The length of the command queue. -/
def ioQueueLength : Nat := 16

/-- The sections `ws_rx` passes on, in the order of its calls. -/
def commandSections (cmd : ProtoCommand) : List IoCommand :=
  (if cmd.hasPwmUpdate then [.setPwm cmd.pwmUpdate.channel cmd.pwmUpdate.dutyCycle] else []) ++
    (if cmd.hasPwmFrequency then [.setPwmFreq cmd.pwmFrequency] else []) ++
    (if cmd.hasGpioWrite then
      [.writeGpio cmd.gpioWrite.deviceIndex cmd.gpioWrite.port cmd.gpioWrite.mask
        cmd.gpioWrite.value]
    else [])

/-- `ws_rx`: the sections of a command that is decoded. `s_use_cbor` is the build flag. -/
def sensorWsRx {ι : Type} (codec : Codec ι) (fuel : Nat) (data : Bytes) (crc : UInt32) :
    List IoCommand :=
  match protoDecodeCommand codec fuel data codec.configUseCbor crc with
  | .ok cmd => commandSections cmd
  | .error _ => []

/-- In a JSON build `ws_rx` passes on the sections of every expressible command that comes as its
JSON text with its CRC. -/
theorem sensorWsRx_render {ι : Type} {codec : Codec ι} (hjson : codec.configUseCbor = false)
    (fuel : Nat) {cmd : ProtoCommand} (h : cmd.Expressible) :
    sensorWsRx codec fuel (Json.render (commandJson cmd))
        (protoCrc32 (Json.render (commandJson cmd))) = commandSections cmd := by
  have hmode : (codec.configUseCbor && codec.configUseCbor) = false := by rw [hjson]; rfl
  rw [sensorWsRx, protoDecodeCommand_render h hmode (crcAccepts_self _)]

/-- `mcp23017_addresses` of `io_map`, the same in every build. -/
def mcp23017Addresses : Vector UInt8 2 := #v[0x20, 0x21]

/-- The PWM backend of `io_map`. -/
structure IoMap where
  pwmBackendPca9685 : Bool := true
  pca9685Address : UInt8 := 0x41

/-- The statics of `t_io.c`, the bus, and what `ws_rx` still has to queue. `draining` tells the
inner loop of the task from the rest of it. -/
structure IoNode where
  cmdQueue : List IoCommand := []
  pending : List IoCommand := []
  draining : Bool := true
  pwm : Vector UInt16 16 := Vector.replicate 16 0
  pwmFreq : UInt16 := 500
  bus : I2cBus

/-- What the node does with commands and for its data model. `accepted`, `executed` and `dropped`
follow a section of a command. -/
inductive IoOutput
  | accepted (command : IoCommand)
  | executed (command : IoCommand)
  | dropped (command : IoCommand)
  | pca9685Init (frequencyHz : UInt16)
  | pca9685SetPwm (channel : UInt8) (duty : UInt16)
  | setGpio (index : Nat) (portA portB : UInt16)
  | setPwm (duty : Vector UInt16 16) (frequencyHz : UInt16)
  deriving DecidableEq

/-- What happens to the node: a frame for `ws_rx`; a section that waits is queued or, when the
wait of 20 ms ends first, given up; the task receives from the queue; it polls the expanders. -/
inductive IoEvent
  | frame (data : Bytes) (crc : UInt32)
  | queueSend
  | waitEnds
  | queueReceive (results : Nat → EspErr)
  | poll (results : Nat → EspErr) (external : UInt8 → UInt8 × UInt8)

variable {ι : Type} (codec : Codec ι) (fuel : Nat) (map : IoMap)

/-- `pwm_hw_available` of `io_task` -/
def pwmHwAvailable : Bool :=
  map.pwmBackendPca9685 && map.pca9685Address ≠ 0

/-- `IO_CMD_WRITE_GPIO`: the address, mask and value of the latch update. -/
def gpioUpdate (deviceIndex port : UInt8) (mask value : UInt16) : UInt8 × UInt16 × UInt16 :=
  let addr := mcp23017Addresses[deviceIndex.toNat % 2]
  let mask := mask &&& 0x00FF
  let value := value &&& 0x00FF
  if port ≠ 0 then (addr, mask <<< 8, value <<< 8) else (addr, mask, value)

/-- One command of `io_task`. -/
def ioExecute (results : Nat → EspErr) (node : IoNode) : IoCommand → IoNode × List IoOutput
  | .setPwm channel duty =>
      ({ node with pwm := node.pwm.set (channel.toNat % 16) duty },
        if pwmHwAvailable map then [.pca9685SetPwm (channel % 16) duty] else [])
  | .setPwmFreq pwmFreq =>
      ({ node with pwmFreq := pwmFreq },
        if pwmHwAvailable map then
          .pca9685Init pwmFreq ::
            (List.finRange 16).map fun i : Fin 16 =>
              .pca9685SetPwm (UInt8.ofNat i.val) (node.pwm.get i)
        else [])
  | .writeGpio deviceIndex port mask value =>
      let (addr, mask, value) := gpioUpdate deviceIndex port mask value
      ({ node with bus := (mcp23017WriteGpio results node.bus addr mask value).2 }, [])

/-- The report of one expander, if it can be read. -/
def gpioReport (results : Nat → EspErr) (external : UInt8 → UInt8 × UInt8) (bus : I2cBus)
    (i : Fin 2) : List IoOutput :=
  let addr := mcp23017Addresses.get i
  match mcp23017ReadGpio (results i) bus (external addr) addr with
  | .ok value => [.setGpio i (value &&& 0xFF) ((value >>> 8) &&& 0xFF)]
  | .error _ => []

/-- One event of the node. -/
def ioStep (node : IoNode) : IoEvent → IoNode × List IoOutput
  | .frame data crc =>
      let sections := sensorWsRx codec fuel data crc
      ({ node with pending := node.pending ++ sections }, sections.map .accepted)
  | .queueSend =>
      match node.pending with
      | [] => (node, [])
      | first :: rest =>
          if node.cmdQueue.length < ioQueueLength then
            ({ node with cmdQueue := node.cmdQueue ++ [first], pending := rest }, [])
          else (node, [])
  | .waitEnds =>
      match node.pending with
      | [] => (node, [])
      | first :: rest =>
          if node.cmdQueue.length < ioQueueLength then
            ({ node with cmdQueue := node.cmdQueue ++ [first], pending := rest }, [])
          else ({ node with pending := rest }, [.dropped first])
  | .queueReceive results =>
      if node.draining then
        match node.cmdQueue with
        | [] => ({ node with draining := false }, [])
        | cmd :: rest =>
            let (node, outputs) := ioExecute map results { node with cmdQueue := rest } cmd
            (node, .executed cmd :: outputs)
      else (node, [])
  | .poll results external =>
      if node.draining then (node, [])
      else
        ({ node with draining := true },
          gpioReport results external node.bus 0 ++ gpioReport results external node.bus 1 ++
            [.setPwm node.pwm node.pwmFreq])

section Receive

variable {codec fuel map} {node : IoNode} {results : Nat → EspErr}

/-- Receiving from a queue that is not empty executes its first command. -/
theorem ioStep_receive_cons {command : IoCommand} {rest : List IoCommand}
    (hdraining : node.draining = true) (hqueue : node.cmdQueue = command :: rest) :
    ioStep codec fuel map node (.queueReceive results) =
      ((ioExecute map results { node with cmdQueue := rest } command).1,
        .executed command ::
          (ioExecute map results { node with cmdQueue := rest } command).2) := by
  rw [ioStep, if_pos hdraining, hqueue]

/-- Receiving from an empty queue ends the inner loop. -/
theorem ioStep_receive_nil (hdraining : node.draining = true) (hqueue : node.cmdQueue = []) :
    ioStep codec fuel map node (.queueReceive results) = ({ node with draining := false }, []) := by
  rw [ioStep, if_pos hdraining, hqueue]

/-- Outside the inner loop nothing is received. -/
theorem ioStep_receive_idle (hdraining : node.draining ≠ true) :
    ioStep codec fuel map node (.queueReceive results) = (node, []) := by
  rw [ioStep, if_neg hdraining]

end Receive

/-- `io_task_start` and the part of `io_task` before its loop, from the bus as it is. -/
def ioTaskStart (results : Fin 2 → Nat → EspErr) (bus : I2cBus) : IoNode :=
  let bus := (mcp23017Init (results 0) bus (mcp23017Addresses.get 0) 0xFFFF 0xFFFF).2
  { bus := (mcp23017Init (results 1) bus (mcp23017Addresses.get 1) 0xFFFF 0xFFFF).2 }

/-- The sections `ws_rx` accepted on the way. -/
def acceptedSections (outputs : List IoOutput) : List IoCommand :=
  outputs.filterMap fun output => match output with
    | .accepted command => some command
    | _ => none

/-- The sections the task executed on the way. -/
def executedSections (outputs : List IoOutput) : List IoCommand :=
  outputs.filterMap fun output => match output with
    | .executed command => some command
    | _ => none

end SensorHmi
