import SensorHmi.Lib.Octets

/-!
# The messages

`common/proto/messages.h` and `common/proto/proto_crc32.c`: telemetry, commands and the CRC both
are sent with.
-/

namespace SensorHmi

/-- `PROTO_MAX_COMMAND_SIZE` -/
def protoMaxCommandSize : Nat := 512

/-- `proto_sht20_reading_t` -/
structure ProtoSht20Reading where
  id : Vector UInt8 16 := Vector.replicate 16 0
  temperatureC : Float32 := .ofBits 0
  humidityPercent : Float32 := .ofBits 0
  valid : Bool := false
  deriving DecidableEq

/-- `proto_ds18b20_reading_t` -/
structure ProtoDs18b20Reading where
  romCode : Vector UInt8 8 := Vector.replicate 8 0
  temperatureC : Float32 := .ofBits 0
  deriving DecidableEq

/-- `proto_mcp23017_state_t` -/
structure ProtoMcp23017State where
  portA : UInt16 := 0
  portB : UInt16 := 0
  deriving DecidableEq

/-- `proto_pca9685_state_t` -/
structure ProtoPca9685State where
  frequencyHz : UInt16 := 0
  dutyCycle : Vector UInt16 16 := Vector.replicate 16 0
  deriving DecidableEq

/-- `proto_sensor_update_t`; the defaults are the record after `memset`. -/
structure ProtoSensorUpdate where
  timestampMs : UInt32 := 0
  sequenceId : UInt32 := 0
  sht20Count : Nat := 0
  sht20 : Vector ProtoSht20Reading 2 := Vector.replicate 2 {}
  ds18b20Count : Nat := 0
  ds18b20 : Vector ProtoDs18b20Reading 4 := Vector.replicate 4 {}
  mcp : Vector ProtoMcp23017State 2 := Vector.replicate 2 {}
  pwm : ProtoPca9685State := {}
  deriving DecidableEq

/-- `mcp[0]` -/
def ProtoSensorUpdate.mcp0 (msg : ProtoSensorUpdate) : ProtoMcp23017State := msg.mcp[0]

/-- `mcp[1]` -/
def ProtoSensorUpdate.mcp1 (msg : ProtoSensorUpdate) : ProtoMcp23017State := msg.mcp[1]

/-- `pwm_update` of `proto_command_t` -/
structure ProtoPwmUpdate where
  channel : UInt8 := 0
  dutyCycle : UInt16 := 0
  deriving DecidableEq

/-- `gpio_write` of `proto_command_t` -/
structure ProtoGpioWrite where
  deviceIndex : UInt8 := 0
  port : UInt8 := 0
  mask : UInt16 := 0
  value : UInt16 := 0
  deriving DecidableEq

/-- `proto_command_t`; the defaults are the record after `memset`. -/
structure ProtoCommand where
  timestampMs : UInt32 := 0
  sequenceId : UInt32 := 0
  hasPwmUpdate : Bool := false
  pwmUpdate : ProtoPwmUpdate := {}
  hasPwmFrequency : Bool := false
  pwmFrequency : UInt16 := 0
  hasGpioWrite : Bool := false
  gpioWrite : ProtoGpioWrite := {}
  deriving DecidableEq

/-- One bit of the loop of `proto_crc32`. -/
def protoCrc32Bit (crc : UInt32) : UInt32 :=
  let mask := -(crc &&& 1)
  (crc >>> 1) ^^^ (0xEDB88320 &&& mask)

/-- `proto_crc32` -/
def protoCrc32 (data : Bytes) : UInt32 :=
  ~~~ data.foldl (fun crc octet => Nat.repeat protoCrc32Bit 8 (crc ^^^ octet.toUInt32)) 0xFFFFFFFF

/-- The telemetry entries in use; a count beyond the array would read past it. -/
def ProtoSensorUpdate.sht20Entries (msg : ProtoSensorUpdate) : List ProtoSht20Reading :=
  msg.sht20.toList.take msg.sht20Count

/-- The one-wire entries in use. -/
def ProtoSensorUpdate.ds18b20Entries (msg : ProtoSensorUpdate) : List ProtoDs18b20Reading :=
  msg.ds18b20.toList.take msg.ds18b20Count

end SensorHmi
