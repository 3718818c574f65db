import SensorHmi.Lib.Loop
import SensorHmi.Proto.JsonDecode
import SensorHmi.Proto.Tinycbor

/-!
# Reading messages from CBOR

The CBOR decoders of `common/proto/messages.c`. Their loops walk iterators and never read the
message they fill, so a loop carries its iterator and collects the update of the message. Each
loop of a decoder gets the whole fuel; the loops the source bounds by an index need none.
-/

namespace SensorHmi

open Octets Numeral Ieee Cbor Loop

variable {ι : Type} (cbor : Tinycbor ι)

section Calls

/-- `cbor_value_advance(&it)` with its result ignored. -/
def advanceIgnoring (it : ι) : ι :=
  (cbor.advance it).getD it

/-- `cbor_value_leave_container(&outer, &inner)` with its result ignored. -/
def leaveIgnoring (outer inner : ι) : ι :=
  (cbor.leaveContainer outer inner).getD outer

/-- `cbor_value_copy_text_string` into a zeroed buffer of `size` octets and a NUL: the C string
and the iterator after it. -/
def copyChecked (it : ι) (size : Nat) : Run ι (Bytes × ι) :=
  match cbor.copyTextString it size with
  | .ok (text, next) => .ok (cString text, next)
  | .error _ => .error .rejected

/-- The same with its result ignored. -/
def copyIgnoring (it : ι) (size : Nat) : Bytes × ι :=
  match cbor.copyTextString it size with
  | .ok (text, next) => (cString text, next)
  | .error left => (cString left, it)

/-- `uint64_t value = 0; cbor_value_get_uint64(&it, &value);` -/
def uint64OrZero (it : ι) : UInt64 :=
  (cbor.getUint64 it).getD 0

/-- `while (!cbor_value_at_end(&it))` -/
def whileNotAtEnd {τ : Type} (body : ι → Run ι (ι × (τ → τ))) (fuel : Nat) (it : ι) :
    Run ι (ι × (τ → τ)) :=
  whileLoop (fun it => !cbor.atEnd it) body fuel it

/-- `while (!cbor_value_at_end(&it) && idx < bound)` from index 0 on. -/
def whileNotAtEndUpTo {τ : Type} (bound : Nat) (body : Nat → ι → Run ι (ι × (τ → τ))) (it : ι) :
    Run ι ((ι × Nat) × (τ → τ)) :=
  upTo (fun it => !cbor.atEnd it) body bound 0 it

end Calls

section Command

/-- One entry of `set_pwm`. -/
def setPwmEntry (it : ι) : Run ι (ι × (ProtoCommand → ProtoCommand)) := do
  let (sub, it) ← copyChecked cbor it 7
  let value := uint64OrZero cbor it
  return (advanceIgnoring cbor it, fun msg =>
    if sub = ascii "ch" then
      { msg with pwmUpdate := { msg.pwmUpdate with channel := value.toUInt8 } }
    else if sub = ascii "duty" then
      { msg with pwmUpdate := { msg.pwmUpdate with dutyCycle := value.toUInt16 } }
    else msg)

/-- One entry of `pwm_freq`; errors are ignored. -/
def pwmFreqEntry (it : ι) : Run ι (ι × (ProtoCommand → ProtoCommand)) :=
  let (sub, it) := copyIgnoring cbor it 7
  let value := uint64OrZero cbor it
  .ok (advanceIgnoring cbor it, fun msg =>
    if sub = ascii "freq" then
      { msg with pwmFrequency := value.toUInt16, hasPwmFrequency := true }
    else msg)

/-- One entry of `write_gpio`; errors are ignored, and after a text comes another step. -/
def writeGpioEntry (it : ι) : Run ι (ι × (ProtoCommand → ProtoCommand)) :=
  let (sub, it) := copyIgnoring cbor it 11
  if sub = ascii "dev" then
    let (dev, it) := copyIgnoring cbor it 7
    .ok (advanceIgnoring cbor it, fun msg =>
      { msg with gpioWrite :=
          { msg.gpioWrite with deviceIndex := if dev = ascii "mcp1" then 1 else 0 } })
  else if sub = ascii "port" then
    let (port, it) := copyIgnoring cbor it 1
    .ok (advanceIgnoring cbor it, fun msg =>
      { msg with gpioWrite :=
          { msg.gpioWrite with port := if port.head? = some 66 then 1 else 0 } })
  else
    let value := uint64OrZero cbor it
    .ok (advanceIgnoring cbor it, fun msg =>
      if sub = ascii "mask" then
        { msg with gpioWrite := { msg.gpioWrite with mask := value.toUInt16 } }
      else if sub = ascii "value" then
        { msg with gpioWrite := { msg.gpioWrite with value := value.toUInt16 } }
      else msg)

/-- One entry of a command. The value after the sections is skipped once more. -/
def commandEntry (fuel : Nat) (map : ι) : Run ι (ι × (ProtoCommand → ProtoCommand)) := do
  let (key, map) ← copyChecked cbor map 15
  if key = ascii "ts" then
    let ts ← check (cbor.getUint64 map)
    return (advanceIgnoring cbor map, fun msg => { msg with timestampMs := ts.toUInt32 })
  else if key = ascii "seq" then
    let seq ← check (cbor.getUint64 map)
    return (advanceIgnoring cbor map, fun msg => { msg with sequenceId := seq.toUInt32 })
  else if key = ascii "set_pwm" then
    let pwmMap ← check (cbor.enterContainer map)
    let (pwmMap, update) ← whileNotAtEnd cbor (setPwmEntry cbor) fuel pwmMap
    let map := leaveIgnoring cbor map pwmMap
    return (advanceIgnoring cbor map, fun msg => { update msg with hasPwmUpdate := true })
  else if key = ascii "pwm_freq" then
    let freqMap ← check (cbor.enterContainer map)
    let (freqMap, update) ← whileNotAtEnd cbor (pwmFreqEntry cbor) fuel freqMap
    let map := leaveIgnoring cbor map freqMap
    return (advanceIgnoring cbor map, update)
  else if key = ascii "write_gpio" then
    let gpioMap ← check (cbor.enterContainer map)
    let (gpioMap, update) ← whileNotAtEnd cbor (writeGpioEntry cbor) fuel gpioMap
    let map := leaveIgnoring cbor map gpioMap
    return (advanceIgnoring cbor map, fun msg => { update msg with hasGpioWrite := true })
  else return (advanceIgnoring cbor map, id)

/-- The CBOR branch of `proto_decode_command`. -/
def decodeCommandCbor (fuel : Nat) (payload : Bytes) : Run ι ProtoCommand := do
  let root ← check (cbor.parserInit payload)
  if cbor.isMap root then
    let map ← check (cbor.enterContainer root)
    let (_, update) ← whileNotAtEnd cbor (commandEntry cbor fuel) fuel map
    return update {}
  else throw .rejected

end Command

section SensorUpdate

variable (target : CTarget)

/-- A change of one element of `sht20`. -/
def withSht20 (idx : Nat) (change : ProtoSht20Reading → ProtoSht20Reading)
    (msg : ProtoSensorUpdate) : ProtoSensorUpdate :=
  { msg with sht20 := msg.sht20.setIfInBounds idx (change (msg.sht20.getD idx {})) }

/-- A change of one element of `ds18b20`. -/
def withDs18b20 (idx : Nat) (change : ProtoDs18b20Reading → ProtoDs18b20Reading)
    (msg : ProtoSensorUpdate) : ProtoSensorUpdate :=
  { msg with ds18b20 := msg.ds18b20.setIfInBounds idx (change (msg.ds18b20.getD idx {})) }

/-- A change of one port expander. -/
def withMcp (idx : Nat) (change : ProtoMcp23017State → ProtoMcp23017State)
    (msg : ProtoSensorUpdate) : ProtoSensorUpdate :=
  { msg with mcp := msg.mcp.setIfInBounds idx (change (msg.mcp.getD idx {})) }

/-- Octets written over the front of an identifier. -/
def overwriteId (written : Bytes) (id : Vector UInt8 16) : Vector UInt8 16 :=
  Vector.ofFn fun i => written.getD i id[i]

/-- `cbor_value_copy_text_string` into the 15 octets of an identifier, with its result ignored; a
text that leaves room is closed with a NUL. -/
def copyIdIgnoring (it : ι) : (Vector UInt8 16 → Vector UInt8 16) × ι :=
  match cbor.copyTextString it 15 with
  | .ok (text, next) => (overwriteId (if text.length < 15 then text ++ [0] else text), next)
  | .error left => (overwriteId left, it)

/-- `double val; cbor_value_get_double(&it, &val); (float)val` -/
def singleOrIndeterminate (it : ι) : Float32 :=
  toSingle ((cbor.getDouble it).getD target.indeterminate)

/-- One entry of an element of `sht20`. -/
def sht20Entry (idx : Nat) (it : ι) : Run ι (ι × (ProtoSensorUpdate → ProtoSensorUpdate)) := do
  let (sub, it) ← copyChecked cbor it 7
  if sub = ascii "id" then
    let (write, it) := copyIdIgnoring cbor it
    return (advanceIgnoring cbor it, withSht20 idx fun entry => { entry with id := write entry.id })
  else if sub = ascii "t" then
    let value := singleOrIndeterminate cbor target it
    return (advanceIgnoring cbor it, withSht20 idx fun entry =>
      { entry with temperatureC := value })
  else if sub = ascii "rh" then
    let value := singleOrIndeterminate cbor target it
    return (advanceIgnoring cbor it,
      withSht20 idx fun entry => { entry with humidityPercent := value })
  else if sub = ascii "ok" then
    let ok ← check (cbor.getBoolean it)
    return (advanceIgnoring cbor it, withSht20 idx fun entry => { entry with valid := ok })
  else return (advanceIgnoring cbor it, id)

/-- One element of `sht20`. -/
def sht20Element (fuel : Nat) (idx : Nat) (arr : ι) :
    Run ι (ι × (ProtoSensorUpdate → ProtoSensorUpdate)) := do
  let item ← check (cbor.enterContainer arr)
  let (item, update) ← whileNotAtEnd cbor (sht20Entry cbor target idx) fuel item
  return (leaveIgnoring cbor arr item,
    fun msg => update (withSht20 idx (fun entry => { entry with valid := false }) msg))

/-- One entry of an element of `ds18b20`. -/
def ds18b20Entry (idx : Nat) (it : ι) : Run ι (ι × (ProtoSensorUpdate → ProtoSensorUpdate)) := do
  let (sub, it) ← copyChecked cbor it 7
  if sub = ascii "rom" then
    let (rom, it) := copyIgnoring cbor it 16
    return (advanceIgnoring cbor it,
      withDs18b20 idx fun entry => { entry with romCode := (parseRom rom entry.romCode).2 })
  else if sub = ascii "t" then
    let value := singleOrIndeterminate cbor target it
    return (advanceIgnoring cbor it,
      withDs18b20 idx fun entry => { entry with temperatureC := value })
  else return (advanceIgnoring cbor it, id)

/-- One element of `ds18b20`. -/
def ds18b20Element (fuel : Nat) (idx : Nat) (arr : ι) :
    Run ι (ι × (ProtoSensorUpdate → ProtoSensorUpdate)) := do
  let item ← check (cbor.enterContainer arr)
  let (item, update) ← whileNotAtEnd cbor (ds18b20Entry cbor target idx) fuel item
  return (leaveIgnoring cbor arr item, update)

/-- `sscanf(text, "mcp%zu", &idx)`: the number after white space, with an optional sign. -/
def sscanfMcp (text : Bytes) : Option Nat :=
  if text.take 3 ≠ ascii "mcp" then none
  else
    let number := (text.drop 3).dropWhile isCSpace
    let (negative, number) := scanSign 45 number
    let number := if negative then number else (scanSign 43 number).2
    let digits := number.takeWhile isDigit
    if digits.isEmpty then none
    else some (if negative then (2 ^ 32 - digitsValue digits) % 2 ^ 32 else digitsValue digits)

/-- One port of a port expander; errors are ignored. -/
def portEntry (idx : Nat) (ports : ι) : Run ι (ι × (ProtoSensorUpdate → ProtoSensorUpdate)) :=
  let (portKey, ports) := copyIgnoring cbor ports 1
  let value := uint64OrZero cbor ports
  .ok (advanceIgnoring cbor ports, fun msg =>
    if portKey.head? = some 65 then
      withMcp idx (fun state => { state with portA := value.toUInt16 }) msg
    else if portKey.head? = some 66 then
      withMcp idx (fun state => { state with portB := value.toUInt16 }) msg
    else msg)

/-- One entry of `gpio`; errors are ignored except for a port expander that is no container. -/
def gpioEntry (fuel : Nat) (gpioMap : ι) :
    Run ι (ι × (ProtoSensorUpdate → ProtoSensorUpdate)) := do
  let (devKey, gpioMap) := copyIgnoring cbor gpioMap 5
  match sscanfMcp devKey with
  | some idx =>
      if idx < 2 then
        let ports ← check (cbor.enterContainer gpioMap)
        let (ports, update) ← whileNotAtEnd cbor (portEntry cbor idx) fuel ports
        return (leaveIgnoring cbor gpioMap ports, update)
      else return (advanceIgnoring cbor gpioMap, id)
  | none => return (advanceIgnoring cbor gpioMap, id)

/-- One element of `duty`. -/
def dutyElement (i : Nat) (dutyArr : ι) : Run ι (ι × (ProtoSensorUpdate → ProtoSensorUpdate)) :=
  let value := uint64OrZero cbor dutyArr
  .ok (advanceIgnoring cbor dutyArr, fun msg =>
    { msg with pwm :=
        { msg.pwm with dutyCycle := msg.pwm.dutyCycle.setIfInBounds i value.toUInt16 } })

/-- One entry of `pca9685`; errors are ignored except for a `duty` that is no container. -/
def pcaEntry (pcaMap : ι) : Run ι (ι × (ProtoSensorUpdate → ProtoSensorUpdate)) := do
  let (sub, pcaMap) := copyIgnoring cbor pcaMap 7
  if sub = ascii "freq" then
    let value := uint64OrZero cbor pcaMap
    return (advanceIgnoring cbor pcaMap, fun msg =>
      { msg with pwm := { msg.pwm with frequencyHz := value.toUInt16 } })
  else if sub = ascii "duty" then
    let dutyArr ← check (cbor.enterContainer pcaMap)
    let ((dutyArr, _), update) ← whileNotAtEndUpTo cbor 16 (dutyElement cbor) dutyArr
    return (leaveIgnoring cbor pcaMap dutyArr, update)
  else return (advanceIgnoring cbor pcaMap, id)

/-- One entry of `pwm`; errors are ignored except for a `pca9685` that is no container. -/
def pwmEntry (fuel : Nat) (pwmMap : ι) :
    Run ι (ι × (ProtoSensorUpdate → ProtoSensorUpdate)) := do
  let (pwmKey, pwmMap) := copyIgnoring cbor pwmMap 11
  if pwmKey = ascii "pca9685" then
    let pcaMap ← check (cbor.enterContainer pwmMap)
    let (pcaMap, update) ← whileNotAtEnd cbor (pcaEntry cbor) fuel pcaMap
    return (leaveIgnoring cbor pwmMap pcaMap, update)
  else return (advanceIgnoring cbor pwmMap, id)

/-- One entry of telemetry. The value after a container is skipped once more. -/
def sensorUpdateEntry (fuel : Nat) (map : ι) :
    Run ι (ι × (ProtoSensorUpdate → ProtoSensorUpdate)) := do
  let (key, map) ← copyChecked cbor map 15
  if key = ascii "ts" then
    let ts ← check (cbor.getUint64 map)
    return (advanceIgnoring cbor map, fun msg => { msg with timestampMs := ts.toUInt32 })
  else if key = ascii "seq" then
    let seq ← check (cbor.getUint64 map)
    return (advanceIgnoring cbor map, fun msg => { msg with sequenceId := seq.toUInt32 })
  else if key = ascii "sht20" then
    let arr ← check (cbor.enterContainer map)
    let ((arr, idx), update) ← whileNotAtEndUpTo cbor 2 (sht20Element cbor target fuel) arr
    let map := leaveIgnoring cbor map arr
    return (advanceIgnoring cbor map, fun msg => { update msg with sht20Count := idx })
  else if key = ascii "ds18b20" then
    let arr ← check (cbor.enterContainer map)
    let ((arr, idx), update) ← whileNotAtEndUpTo cbor 4 (ds18b20Element cbor target fuel) arr
    let map := leaveIgnoring cbor map arr
    return (advanceIgnoring cbor map, fun msg => { update msg with ds18b20Count := idx })
  else if key = ascii "gpio" then
    let gpioMap ← check (cbor.enterContainer map)
    let (gpioMap, update) ← whileNotAtEnd cbor (gpioEntry cbor fuel) fuel gpioMap
    let map := leaveIgnoring cbor map gpioMap
    return (advanceIgnoring cbor map, update)
  else if key = ascii "pwm" then
    let pwmMap ← check (cbor.enterContainer map)
    let (pwmMap, update) ← whileNotAtEnd cbor (pwmEntry cbor fuel) fuel pwmMap
    let map := leaveIgnoring cbor map pwmMap
    return (advanceIgnoring cbor map, update)
  else return (advanceIgnoring cbor map, id)

/-- The CBOR branch of `proto_decode_sensor_update`. -/
def decodeSensorUpdateCbor (fuel : Nat) (payload : Bytes) : Run ι ProtoSensorUpdate := do
  let root ← check (cbor.parserInit payload)
  if cbor.isMap root then
    let map ← check (cbor.enterContainer root)
    let (_, update) ← whileNotAtEnd cbor (sensorUpdateEntry cbor target fuel) fuel map
    return update {}
  else throw .rejected

end SensorUpdate

end SensorHmi
