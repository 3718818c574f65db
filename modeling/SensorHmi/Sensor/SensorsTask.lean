import SensorHmi.Lib.Machine
import SensorHmi.Lib.Numeral
import SensorHmi.Platform
import SensorHmi.Sensor.DataModel

/-!
# The acquisition task of the sensor node

`sensor_node/main/tasks/t_sensors.c` with the scan of `onewire_bus_manager.c` and the ambient part
of `io_map.c`. An iteration reads the ambient sensors, looks for one-wire devices, reads them when
their conversion is complete and starts the next one. The functions below return the new context
and the actions they take: calls of the data model, and three marks (`scanned`, `completed`,
`started`) that say what the one-wire bus was asked for.
-/

namespace SensorHmi

open Octets Numeral

/-- `io_ambient_sensor_type_t` -/
inductive IoAmbientSensorType
  | none
  | sht20
  | bme280
  deriving DecidableEq

/-- `io_ambient_sensor_t`; the address only goes to the driver. -/
structure IoAmbientSensor where
  type : IoAmbientSensorType
  muxAddress : UInt8
  muxChannel : Int

/-- `CONFIG_SENSOR_AMBIENT_SENSOR_*`, with the settings of the multiplexer if it is enabled. -/
inductive AmbientBuild
  | none
  | sht20
  | sht20Mux (address : UInt8) (channel0 channel1 : Int)
  | bme280

/-- `IO_MUX_CHANNEL_NONE` -/
def ioMuxChannelNone : Int := -1

/-- The first `ambient_count` entries of `ambient` in `io_map`. -/
def ioMapAmbient : AmbientBuild → List IoAmbientSensor
  | .none => []
  | .sht20 => [⟨.sht20, 0, ioMuxChannelNone⟩]
  | .sht20Mux address channel0 channel1 =>
      [⟨.sht20, address, channel0⟩, ⟨.sht20, address, channel1⟩]
  | .bme280 => [⟨.bme280, 0, ioMuxChannelNone⟩, ⟨.bme280, 0, ioMuxChannelNone⟩]

/-- The driver the build has for a sensor. -/
def AmbientBuild.supports : AmbientBuild → IoAmbientSensorType → Bool
  | .sht20, .sht20 | .sht20Mux .., .sht20 | .bme280, .bme280 => true
  | _, _ => false

/-- `s_ctx` of `t_sensors.c`. `dsDevices` are the first `ds_count` entries of `ds_devices`; the
others are read by nobody. `converting` is a ghost: the devices the conversion was started on. -/
structure SensorsTaskCtx where
  dsDevices : List RomCode := []
  dsConversionPending : Bool := false
  dsReadyTick : TickType := 0
  nextDsScanTick : TickType := 0
  ambientTempEma : Vector Float32 2 := Vector.replicate 2 (.ofBits 0)
  ambientHumEma : Vector Float32 2 := Vector.replicate 2 (.ofBits 0)
  ambientInitialized : Vector Bool 2 := Vector.replicate 2 false
  converting : List RomCode := []

/-- What the task does that others can see. A call of the data model carries whether it gets the
lock, one of `data_model_set_ds18b20` also whether the temperature was read from the device. -/
inductive SensorsAction
  | setSht20 (locked : Bool) (index : Nat) (id : Bytes) (temp humidity : Float32) (valid : Bool)
  | scanned (found : List RomCode)
  | setDs18b20 (locked measured : Bool) (index : Nat) (romCode : RomCode) (temp : Float32)
  | completed
  | started (devices : List RomCode)
  deriving DecidableEq

/-- What the platform answers in one iteration. Ticks are read where they are needed, the functions
of an index answer for the sensor or device with that index. -/
structure SensorsInputs where
  muxSelect : Nat → EspErr
  ambientDriver : Nat → Except EspErr (Float32 × Float32)
  ambientLock : Nat → Bool
  scanTick : TickType
  newDeviceIter : EspErr
  /-- The devices the iterator yields before it first fails. -/
  deviceIter : List RomCode
  completeTick : TickType
  checkConversion : Except EspErr Bool
  readTemperature : Nat → Except EspErr Float32
  readTick : Nat → TickType
  dsLock : Nat → Bool
  startConversion : EspErr
  startTick : TickType

/-- The constants of a build: the ambient sensors, the tick rate, and `sinf`. -/
structure SensorsBuild where
  ambient : AmbientBuild
  tickRateHz : UInt32
  sinf : Float32 → Float32

/-- `ema_update`: the filtered value and the flag it leaves. -/
def emaUpdate (prev sample : Float32) (initialized : Bool) : Float32 × Bool :=
  if !initialized then (sample, true) else (prev + 0.25 * (sample - prev), initialized)

/-- `select_ambient_channel` -/
def selectAmbientChannel (muxSelect : EspErr) (sensor : IoAmbientSensor) : EspErr :=
  if sensor.muxChannel = ioMuxChannelNone ∨ sensor.muxAddress = 0 then .ok else muxSelect

/-- `ambient_sensor_name` -/
def ambientSensorName : IoAmbientSensorType → Bytes
  | .sht20 => ascii "SHT20"
  | .bme280 => ascii "BME280"
  | .none => ascii "AMBIENT"

/-- `ambient_sensor_read` -/
def ambientSensorRead (build : AmbientBuild) (muxSelect : EspErr)
    (driver : Except EspErr (Float32 × Float32)) (sensor : IoAmbientSensor) :
    Except EspErr (Float32 × Float32) :=
  if build.supports sensor.type then
    match selectAmbientChannel muxSelect sensor with
    | .ok => driver
    | err => .error err
  else .error .notSupported

variable (build : SensorsBuild) (inputs : SensorsInputs)

/-- `id` of one round of `update_ambient_readings`: `%s_%u`, cut to fifteen characters. -/
def ambientId (sensor : IoAmbientSensor) (i : Nat) : Bytes :=
  (ambientSensorName sensor.type ++ ascii "_" ++ natText (i + 1)).take 15

/-- One round of the loop of `update_ambient_readings`. -/
def updateAmbientReading (ctx : SensorsTaskCtx) (sensor : IoAmbientSensor) (i : Fin 2) :
    SensorsTaskCtx × SensorsAction :=
  match ambientSensorRead build.ambient (inputs.muxSelect i) (inputs.ambientDriver i) sensor with
  | .ok (temp, hum) =>
      let (filteredTemp, initialized) :=
        emaUpdate (ctx.ambientTempEma.get i) temp (ctx.ambientInitialized.get i)
      let (filteredHum, initialized) := emaUpdate (ctx.ambientHumEma.get i) hum initialized
      ({ ctx with
          ambientTempEma := ctx.ambientTempEma.setIfInBounds i filteredTemp
          ambientHumEma := ctx.ambientHumEma.setIfInBounds i filteredHum
          ambientInitialized := ctx.ambientInitialized.setIfInBounds i initialized },
        .setSht20 (inputs.ambientLock i) i (ambientId sensor i) filteredTemp filteredHum true)
  | .error _ =>
      let (filteredTemp, filteredHum) :=
        if ctx.ambientInitialized.get i then (ctx.ambientTempEma.get i, ctx.ambientHumEma.get i)
        else (.nan, .nan)
      (ctx, .setSht20 (inputs.ambientLock i) i (ambientId sensor i) filteredTemp filteredHum false)

/-- `update_ambient_readings` -/
def updateAmbientReadings (ctx : SensorsTaskCtx) : SensorsTaskCtx × List SensorsAction :=
  ((ioMapAmbient build.ambient).zip (List.finRange 2)).foldl
    (fun (ctx, actions) (sensor, i) =>
      let (ctx, action) := updateAmbientReading build inputs ctx sensor i
      (ctx, actions ++ [action]))
    (ctx, [])

/-- `onewire_bus_scan` into an array of `maxDevices`. -/
def onewireBusScan (maxDevices : Nat) : Except EspErr (List RomCode) :=
  match inputs.newDeviceIter with
  | .ok => .ok (inputs.deviceIter.take maxDevices)
  | err => .error err

/-- `ensure_ds18b20_devices` -/
def ensureDs18b20Devices (ctx : SensorsTaskCtx) : SensorsTaskCtx × List SensorsAction :=
  if 0 < ctx.dsDevices.length ∧ inputs.scanTick < ctx.nextDsScanTick then (ctx, [])
  else
    let nextDsScanTick := inputs.scanTick + pdMsToTicks build.tickRateHz 60000
    match onewireBusScan inputs 4 with
    | .ok found =>
        ({ ctx with dsDevices := found, nextDsScanTick := nextDsScanTick }, [.scanned found])
    | .error _ => ({ ctx with nextDsScanTick := nextDsScanTick }, [])

/-- `ds18b20_conversion_time_ms` -/
def ds18b20ConversionTimeMs (resolutionBits : UInt8) : UInt32 :=
  if resolutionBits = 9 then 94 else if resolutionBits = 10 then 188
  else if resolutionBits = 11 then 375 else 750

/-- `kick_ds18b20_conversion` -/
def kickDs18b20Conversion (ctx : SensorsTaskCtx) : SensorsTaskCtx × List SensorsAction :=
  if ctx.dsDevices.length = 0 ∨ ctx.dsConversionPending then (ctx, [])
  else match inputs.startConversion with
    | .ok =>
        ({ ctx with
            dsReadyTick :=
              inputs.startTick + pdMsToTicks build.tickRateHz (ds18b20ConversionTimeMs 12)
            dsConversionPending := true
            converting := ctx.dsDevices },
          [.started ctx.dsDevices])
    | _ => (ctx, [])

/-- `ds18b20_conversion_complete` -/
def ds18b20ConversionComplete (ctx : SensorsTaskCtx) : Bool :=
  ctx.dsConversionPending &&
    (0 ≤ (inputs.completeTick - ctx.dsReadyTick).toInt32 ||
      match inputs.checkConversion with
      | .ok ready => ready
      | .error _ => false)

/-- The temperature a failed read is replaced by. -/
def syntheticTemperature (ticks : TickType) (i : Nat) : Float32 :=
  21 + 0.5 * build.sinf (ticks.toFloat32 / 1200 + (UInt32.ofNat i).toFloat32)

/-- One round of the loop of `read_ds18b20_temperatures`. -/
def readDs18b20Temperature (device : RomCode) (i : Nat) : SensorsAction :=
  match inputs.readTemperature i with
  | .ok temp => .setDs18b20 (inputs.dsLock i) true i device temp
  | .error _ =>
      .setDs18b20 (inputs.dsLock i) false i device
        (syntheticTemperature build (inputs.readTick i) i)

/-- `read_ds18b20_temperatures` -/
def readDs18b20Temperatures (ctx : SensorsTaskCtx) : SensorsTaskCtx × List SensorsAction :=
  if ds18b20ConversionComplete inputs ctx then
    ({ ctx with dsConversionPending := false },
      (ctx.dsDevices.take 4).mapIdx (fun i device => readDs18b20Temperature build inputs
        device i) ++
        [.completed])
  else (ctx, [])

/-- The part of `sensors_task` before its loop. -/
def sensorsTaskStart : SensorsTaskCtx × List SensorsAction :=
  let ctx : SensorsTaskCtx := { nextDsScanTick := inputs.scanTick }
  let (ctx, scan) := ensureDs18b20Devices build inputs ctx
  let (ctx, kick) := kickDs18b20Conversion build inputs ctx
  (ctx, scan ++ kick)

/-- One iteration of the loop of `sensors_task`. -/
def sensorsTaskStep (ctx : SensorsTaskCtx) (inputs : SensorsInputs) :
    SensorsTaskCtx × List SensorsAction :=
  let (ctx, ambient) := updateAmbientReadings build inputs ctx
  let (ctx, scan) := ensureDs18b20Devices build inputs ctx
  let (ctx, reads) := readDs18b20Temperatures build inputs ctx
  let (ctx, kick) := kickDs18b20Conversion build inputs ctx
  (ctx, ambient ++ scan ++ reads ++ kick)

/-- The data model after an action. -/
def SensorsAction.perform (model : SensorDataModel) : SensorsAction → SensorDataModel
  | .setSht20 locked index id temp humidity valid =>
      dataModelSetSht20 locked index id temp humidity valid model
  | .setDs18b20 locked _ index romCode temp => dataModelSetDs18b20 locked index romCode temp model
  | .scanned _ | .completed | .started _ => model

end SensorHmi
