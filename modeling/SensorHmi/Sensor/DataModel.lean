import SensorHmi.Proto.Codec

/-!
# The data model of the sensor node

`sensor_node/main/data_model.c`: the snapshot the tasks write to and the publish loop encodes.
Every function takes the mutex first and does nothing when that fails; `locked` says whether it
was taken. The setters change one part of the snapshot each and nothing else of the model.
-/

namespace SensorHmi

open Octets

/-- `rom_code` of `onewire_device_t` -/
abbrev RomCode := Vector UInt8 8

/-- `SENSOR_DATA_MODEL_MAX_MESSAGE_SIZE` -/
def sensorDataModelMaxMessageSize : Nat := 2048

/-- `SENSOR_DATA_MODEL_BUFFER_COUNT` -/
def sensorDataModelBufferCount : Nat := 2

/-- `sensor_data_model_t`. A staged payload stands for a buffer and its length. -/
structure SensorDataModel where
  current : ProtoSensorUpdate := {}
  lastPublished : ProtoSensorUpdate := {}
  initialized : Bool := false
  encodeBuffers : Vector Bytes 2 := Vector.replicate 2 []
  nextEncodeIndex : Nat := 0

/-- `data_model_init` -/
def dataModelInit : SensorDataModel where
  current := { pwm := { frequencyHz := 500 } }
  initialized := true

namespace SensorDataModel

/-- What the setters share: a change of the snapshot under the lock. -/
def update (model : SensorDataModel) (locked : Bool)
    (change : ProtoSensorUpdate → ProtoSensorUpdate) : SensorDataModel :=
  if model.initialized && locked then { model with current := change model.current } else model

end SensorDataModel

/-- `data_model_set_sht20` -/
def dataModelSetSht20 (locked : Bool) (index : Nat) (id : Bytes) (temp humidity : Float32)
    (valid : Bool) (model : SensorDataModel) : SensorDataModel :=
  if 2 ≤ index then model
  else model.update locked fun current =>
    { current with
      sht20 := current.sht20.setIfInBounds index ⟨idField (cString id), temp, humidity, valid⟩
      sht20Count := max current.sht20Count (index + 1) }

/-- `data_model_set_ds18b20` -/
def dataModelSetDs18b20 (locked : Bool) (index : Nat) (romCode : RomCode) (temp : Float32)
    (model : SensorDataModel) : SensorDataModel :=
  if 4 ≤ index then model
  else model.update locked fun current =>
    { current with
      ds18b20 := current.ds18b20.setIfInBounds index ⟨romCode, temp⟩
      ds18b20Count := max current.ds18b20Count (index + 1) }

/-- `data_model_set_gpio` -/
def dataModelSetGpio (locked : Bool) (devIndex : Nat) (porta portb : UInt16)
    (model : SensorDataModel) : SensorDataModel :=
  if 2 ≤ devIndex then model
  else model.update locked fun current =>
    { current with mcp := current.mcp.setIfInBounds devIndex ⟨porta, portb⟩ }

/-- `data_model_set_pwm`: the duties it is given are as many as its `count`. -/
def dataModelSetPwm (locked : Bool) (duty : List UInt16) (frequencyHz : UInt16)
    (model : SensorDataModel) : SensorDataModel :=
  model.update locked fun current =>
    { current with
      pwm := ⟨frequencyHz, Vector.ofFn fun i : Fin 16 => duty.getD i (current.pwm.dutyCycle.get i)⟩
        }

/-- `data_model_set_timestamp` -/
def dataModelSetTimestamp (locked : Bool) (timestampMs : UInt32) (model : SensorDataModel) :
    SensorDataModel :=
  model.update locked fun current => { current with timestampMs := timestampMs }

/-- `data_model_increment_seq` -/
def dataModelIncrementSeq (locked : Bool) (model : SensorDataModel) : SensorDataModel :=
  model.update locked fun current => { current with sequenceId := current.sequenceId + 1 }

/-- `value_changed` -/
def valueChanged (a b threshold : Float32) : Bool :=
  threshold < (a - b).abs

/-- `data_model_should_publish` -/
def dataModelShouldPublish (locked : Bool) (tempThreshold humidityThreshold : Float32)
    (model : SensorDataModel) : Bool :=
  let current := model.current
  let last := model.lastPublished
  if !(model.initialized && locked) then false
  else if last.sequenceId = 0 then true
  else
    ((current.sht20Entries.zip last.sht20.toList).any fun (now, before) =>
      valueChanged now.temperatureC before.temperatureC tempThreshold ||
        valueChanged now.humidityPercent before.humidityPercent humidityThreshold) ||
    ((current.ds18b20Entries.zip last.ds18b20.toList).any fun (now, before) =>
      valueChanged now.temperatureC before.temperatureC tempThreshold) ||
    current.mcp ≠ last.mcp || current.pwm.dutyCycle ≠ last.pwm.dutyCycle ||
    current.pwm.frequencyHz ≠ last.pwm.frequencyHz

/-- `data_model_build`: the staged payload and its CRC. -/
def dataModelBuild {ι : Type} (codec : Codec ι) (locked useCbor : Bool) (model : SensorDataModel) :
    Option (Bytes × UInt32) × SensorDataModel :=
  if !(model.initialized && locked) then (none, model)
  else
    let index := model.nextEncodeIndex % sensorDataModelBufferCount
    match protoEncodeSensorUpdateInto codec model.current useCbor sensorDataModelMaxMessageSize with
    | none => (none, model)
    | some (payload, crc32) =>
        (some (payload, crc32),
          { model with
            lastPublished := model.current
            encodeBuffers := model.encodeBuffers.setIfInBounds index payload
            nextEncodeIndex := (index + 1) % sensorDataModelBufferCount })

section Ds18b20

/-- The ROM codes of the one-wire entries in use. -/
def ProtoSensorUpdate.romCodes (msg : ProtoSensorUpdate) : List RomCode :=
  msg.ds18b20Entries.map (·.romCode)

end Ds18b20

end SensorHmi
