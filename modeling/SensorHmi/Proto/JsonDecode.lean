import SensorHmi.Proto.JsonEncode

/-!
# Reading messages from JSON

The JSON decoders of `common/proto/messages.c`. cJSON is a parameter that is only known to parse
every JSON text to the value it denotes; its accessors are functions of that value, as cJSON
documents them. The round trips are `decodeCommandJson_of_parse` and
`decodeSensorUpdateJson_of_parse`.
-/

namespace SensorHmi

open Octets Numeral Ieee

/-- cJSON: what `cJSON_ParseWithLengthOpts` makes of a text, with trailing octets allowed. -/
structure CJson where
  parse : Bytes → Option Json
  parse_json : ∀ {text : Bytes} {value : Json}, Json.parse text = some value →
    parse text = some value

/-- A cJSON that accepts JSON texts and nothing else. -/
def CJson.strict : CJson := ⟨Json.parse, id⟩

/-- What C leaves to the target: the conversion of a double whose integer part does not fit, and
the value of a double that was never written. -/
structure CTarget where
  outOfRange : (bits : Nat) → Float → Nat
  indeterminate : Float

/-- The conversion of a double to an unsigned integer of `bits` bits. -/
def CTarget.toUnsigned (target : CTarget) (bits : Nat) (x : Float) : Nat :=
  match truncate x with
  | some n => if 0 ≤ n ∧ n < 2 ^ bits then n.toNat else target.outOfRange bits x
  | none => target.outOfRange bits x

/-- `tolower` of the C locale. -/
def toLower (octet : UInt8) : UInt8 :=
  if 65 ≤ octet ∧ octet ≤ 90 then octet + 32 else octet

/-- `cJSON_GetObjectItem`: the first member whose name agrees up to case. -/
def cJsonGetObjectItem (object : Option Json) (name : Bytes) : Option Json :=
  match object with
  | some (.obj members) =>
      (members.find? fun member => (cString member.1).map toLower = name.map toLower).map Prod.snd
  | _ => none

/-- `cJSON_GetNumberValue`: NaN without a number. -/
def cJsonGetNumberValue : Option Json → Float
  | some (.num value) => ofDecimal value
  | _ => .ofModel (.pack .notANumber)

/-- `cJSON_IsObject` -/
def cJsonIsObject : Option Json → Bool
  | some (.obj _) => true
  | _ => false

/-- `cJSON_IsTrue` -/
def cJsonIsTrue : Option Json → Bool
  | some (.bool value) => value
  | _ => false

/-- `item->valuestring` of an item that exists; none for a null pointer. -/
def cJsonValueString : Option Json → Option Bytes
  | some (.str octets) => some (cString octets)
  | _ => none

/-- The elements `cJSON_ArrayForEach` visits after `cJSON_IsArray`. -/
def cJsonArrayItems : Option Json → List Json
  | some (.arr items) => items
  | _ => []

section Field

variable (target : CTarget) (object : Option Json) (name : Bytes)

/-- `(uint8_t)cJSON_GetNumberValue(cJSON_GetObjectItem(object, name))` -/
def jsonUint8 : UInt8 :=
  UInt8.ofNat (target.toUnsigned 8 (cJsonGetNumberValue (cJsonGetObjectItem object name)))

/-- The same for `uint16_t`. -/
def jsonUint16 : UInt16 :=
  UInt16.ofNat (target.toUnsigned 16 (cJsonGetNumberValue (cJsonGetObjectItem object name)))

/-- The same for `uint32_t`. -/
def jsonUint32 : UInt32 :=
  UInt32.ofNat (target.toUnsigned 32 (cJsonGetNumberValue (cJsonGetObjectItem object name)))

/-- The same for `float`. -/
def jsonFloat : Float32 :=
  toSingle (cJsonGetNumberValue (cJsonGetObjectItem object name))

/-- A natural number that fits converts to itself. -/
theorem CTarget.toUnsigned_ofNatural {bits n : Nat} (hbits : bits ≤ 53) (h : n < 2 ^ bits) :
    target.toUnsigned bits (ofNatural n) = n := by
  have hexact : n < 2 ^ 53 := Nat.lt_of_lt_of_le h (Nat.pow_le_pow_right (by decide) hbits)
  have hfits : (0 : Int) ≤ n ∧ (n : Int) < 2 ^ bits := ⟨by omega, by exact_mod_cast h⟩
  simp only [CTarget.toUnsigned, truncate_ofNatural hexact, if_pos hfits, Int.toNat_natCast]

variable {target object name}

theorem jsonUint8_eq {n : UInt8} (h : cJsonGetObjectItem object name = some (natJson n.toNat)) :
    jsonUint8 target object name = n := by
  rw [jsonUint8, h]
  show UInt8.ofNat (target.toUnsigned 8 (ofNatural n.toNat)) = n
  rw [target.toUnsigned_ofNatural (by decide) n.toNat_lt, UInt8.ofNat_toNat]

theorem jsonUint16_eq {n : UInt16} (h : cJsonGetObjectItem object name = some (natJson n.toNat)) :
    jsonUint16 target object name = n := by
  rw [jsonUint16, h]
  show UInt16.ofNat (target.toUnsigned 16 (ofNatural n.toNat)) = n
  rw [target.toUnsigned_ofNatural (by decide) n.toNat_lt, UInt16.ofNat_toNat]

theorem jsonUint32_eq {n : UInt32} (h : cJsonGetObjectItem object name = some (natJson n.toNat)) :
    jsonUint32 target object name = n := by
  rw [jsonUint32, h]
  show UInt32.ofNat (target.toUnsigned 32 (ofNatural n.toNat)) = n
  rw [target.toUnsigned_ofNatural (by decide) n.toNat_lt, UInt32.ofNat_toNat]

end Field

section Command

variable (cjson : CJson) (target : CTarget)

/-- The JSON branch of `proto_decode_command`. -/
def decodeCommandJson (payload : Bytes) : Option ProtoCommand :=
  match cjson.parse payload with
  | none => none
  | some root =>
      let msg : ProtoCommand :=
        { timestampMs := jsonUint32 target (some root) (ascii "ts")
          sequenceId := jsonUint32 target (some root) (ascii "seq") }
      let setPwm := cJsonGetObjectItem (some root) (ascii "set_pwm")
      let msg := if cJsonIsObject setPwm then
          { msg with
            pwmUpdate :=
              { channel := jsonUint8 target setPwm (ascii "ch")
                dutyCycle := jsonUint16 target setPwm (ascii "duty") }
            hasPwmUpdate := true }
        else msg
      let pwmFreq := cJsonGetObjectItem (some root) (ascii "pwm_freq")
      let msg := if cJsonIsObject pwmFreq then
          { msg with
            pwmFrequency := jsonUint16 target pwmFreq (ascii "freq")
            hasPwmFrequency := true }
        else msg
      let writeGpio := cJsonGetObjectItem (some root) (ascii "write_gpio")
      let msg := if cJsonIsObject writeGpio then
          let dev := cJsonValueString (cJsonGetObjectItem writeGpio (ascii "dev"))
          let port := cJsonValueString (cJsonGetObjectItem writeGpio (ascii "port"))
          { msg with
            gpioWrite :=
              { deviceIndex := if dev = some (ascii "mcp1") then 1 else 0
                port := if (port.bind List.head?) = some 66 then 1 else 0
                mask := jsonUint16 target writeGpio (ascii "mask")
                value := jsonUint16 target writeGpio (ascii "value") }
            hasGpioWrite := true }
        else msg
      some msg

/-- A command both encodings have a place for: device and port are 0 or 1, and a section that is
not flagged is zero. -/
structure ProtoCommand.Expressible (msg : ProtoCommand) : Prop where
  deviceIndex : msg.gpioWrite.deviceIndex = 0 ∨ msg.gpioWrite.deviceIndex = 1
  port : msg.gpioWrite.port = 0 ∨ msg.gpioWrite.port = 1
  pwmUpdate : msg.hasPwmUpdate = false → msg.pwmUpdate = {}
  pwmFrequency : msg.hasPwmFrequency = false → msg.pwmFrequency = 0
  gpioWrite : msg.hasGpioWrite = false → msg.gpioWrite = {}

section Lookup

variable (msg : ProtoCommand)

theorem getObjectItem_head :
    cJsonGetObjectItem (some (commandJson msg)) (ascii "ts") =
        some (natJson msg.timestampMs.toNat) ∧
      cJsonGetObjectItem (some (commandJson msg)) (ascii "seq") =
        some (natJson msg.sequenceId.toNat) :=
  ⟨rfl, rfl⟩

theorem getObjectItem_sections :
    cJsonGetObjectItem (some (commandJson msg)) (ascii "set_pwm") =
        (if msg.hasPwmUpdate then some (setPwmMember msg).2 else none) ∧
      cJsonGetObjectItem (some (commandJson msg)) (ascii "pwm_freq") =
        (if msg.hasPwmFrequency then some (pwmFreqMember msg).2 else none) ∧
      cJsonGetObjectItem (some (commandJson msg)) (ascii "write_gpio") =
        (if msg.hasGpioWrite then some (writeGpioMember msg).2 else none) := by
  unfold commandJson
  cases msg.hasPwmUpdate <;> cases msg.hasPwmFrequency <;> cases msg.hasGpioWrite <;>
    exact ⟨rfl, rfl, rfl⟩

end Lookup

/-- The fields of the sections read back from their members. -/
theorem section_fields {msg : ProtoCommand} (h : msg.Expressible) :
    jsonUint8 target (some (setPwmMember msg).2) (ascii "ch") = msg.pwmUpdate.channel ∧
      jsonUint16 target (some (setPwmMember msg).2) (ascii "duty") = msg.pwmUpdate.dutyCycle ∧
      jsonUint16 target (some (pwmFreqMember msg).2) (ascii "freq") = msg.pwmFrequency ∧
      jsonUint16 target (some (writeGpioMember msg).2) (ascii "mask") = msg.gpioWrite.mask ∧
      jsonUint16 target (some (writeGpioMember msg).2) (ascii "value") = msg.gpioWrite.value ∧
      (if cJsonValueString (cJsonGetObjectItem (some (writeGpioMember msg).2) (ascii "dev")) =
        some (ascii "mcp1") then 1 else 0) = msg.gpioWrite.deviceIndex ∧
      (if ((cJsonValueString (cJsonGetObjectItem (some (writeGpioMember msg).2)
        (ascii "port"))).bind List.head?) = some 66 then 1 else 0) = msg.gpioWrite.port := by
  refine ⟨jsonUint8_eq rfl, jsonUint16_eq rfl, jsonUint16_eq rfl, jsonUint16_eq rfl,
    jsonUint16_eq rfl, ?_, ?_⟩
  · have hdev : cJsonGetObjectItem (some (writeGpioMember msg).2) (ascii "dev") =
      some (.str (gpioDev msg)) := rfl
    rw [hdev, gpioDev]
    rcases h.deviceIndex with hindex | hindex <;> rw [hindex] <;> rfl
  · have hport : cJsonGetObjectItem (some (writeGpioMember msg).2) (ascii "port") =
      some (.str (gpioPort msg)) := rfl
    rw [hport, gpioPort]
    rcases h.port with hindex | hindex <;> rw [hindex] <;> rfl

/-- The decoder gives an expressible command back from its JSON value. -/
theorem decodeCommandJson_of_parse {payload : Bytes} {msg : ProtoCommand} (h : msg.Expressible)
    (hparse : cjson.parse payload = some (commandJson msg)) :
    decodeCommandJson cjson target payload = some msg := by
  obtain ⟨hts, hseq⟩ := getObjectItem_head msg
  obtain ⟨hset, hfreq, hgpio⟩ := getObjectItem_sections msg
  obtain ⟨hch, hduty, hfreq', hmask, hvalue, hdev, hport⟩ := section_fields target h
  have hobject : ∀ (present : Bool) (member : Bytes × Json), cJsonIsObject (some member.2) = true →
      cJsonIsObject (if present then some member.2 else none) = present := by
    intro present member hmember
    cases present with
    | true => exact hmember
    | false => rfl
  simp only [decodeCommandJson, hparse, jsonUint32_eq hts, jsonUint32_eq hseq, hset, hfreq, hgpio,
    hobject _ (setPwmMember msg) rfl, hobject _ (pwmFreqMember msg) rfl,
    hobject _ (writeGpioMember msg) rfl]
  -- a section is present, or absent and zero
  have hpwm : msg.hasPwmUpdate = true ∨ (msg.hasPwmUpdate = false ∧ msg.pwmUpdate = {}) := by
    cases hflag : msg.hasPwmUpdate with
    | true => exact Or.inl rfl
    | false => exact Or.inr ⟨rfl, h.pwmUpdate hflag⟩
  have hfrequency : msg.hasPwmFrequency = true ∨
      (msg.hasPwmFrequency = false ∧ msg.pwmFrequency = 0) := by
    cases hflag : msg.hasPwmFrequency with
    | true => exact Or.inl rfl
    | false => exact Or.inr ⟨rfl, h.pwmFrequency hflag⟩
  have hwrite : msg.hasGpioWrite = true ∨ (msg.hasGpioWrite = false ∧ msg.gpioWrite = {}) := by
    cases hflag : msg.hasGpioWrite with
    | true => exact Or.inl rfl
    | false => exact Or.inr ⟨rfl, h.gpioWrite hflag⟩
  clear hts hseq hset hfreq hgpio hobject hparse h
  obtain ⟨ts, seq, hasPwm, pwm, hasFreq, freq, hasGpio, gpio⟩ := msg
  dsimp only at hpwm hfrequency hwrite
  rcases hpwm with rfl | ⟨rfl, rfl⟩ <;> rcases hfrequency with rfl | ⟨rfl, rfl⟩ <;>
    rcases hwrite with rfl | ⟨rfl, rfl⟩ <;>
    simp only [if_true, if_false, Bool.false_eq_true, hch, hduty, hfreq', hmask, hvalue, hdev,
      hport]

end Command

section SensorUpdate

/-- White space of the C locale. -/
def isCSpace (octet : UInt8) : Bool :=
  octet = 32 || (9 ≤ octet && octet ≤ 13)

/-- `sscanf(text, "%02X", &value)`: at most two characters after white space, with an optional
sign. -/
def sscanfHex2 (text : Bytes) : Option Nat :=
  let window := (text.dropWhile isCSpace).take 2
  let (negative, window) := scanSign 45 window
  let window := if negative then window else (scanSign 43 window).2
  let digits := (window.map hexDigitValue).takeWhile Option.isSome
  if digits.isEmpty then none
  else
    let value := digits.foldl (fun value digit => 16 * value + digit.getD 0) 0
    some (if negative then (2 ^ 32 - value) % 2 ^ 32 else value)

/-- The loop of `parse_rom` from octet `i` on, with `todo` octets to go. -/
def parseRomFrom (romStr : Bytes) : (out : Vector UInt8 8) → (i todo : Nat) → Bool × Vector UInt8 8
  | out, _, 0 => (true, out)
  | out, i, todo + 1 =>
      match sscanfHex2 (romStr.drop (2 * i)) with
      | none => (false, out)
      | some value => parseRomFrom romStr (out.setIfInBounds i (UInt8.ofNat value)) (i + 1) todo

/-- `parse_rom`: its result and the code it leaves. -/
def parseRom (romStr : Bytes) (out : Vector UInt8 8) : Bool × Vector UInt8 8 :=
  if romStr.length < 16 then (false, out) else parseRomFrom romStr out 0 8

/-- `strncpy` of at most 15 octets into a zeroed identifier. -/
def idField (source : Bytes) : Vector UInt8 16 :=
  Vector.ofFn fun i => (source.take 15).getD i 0

/-- Entries in the first slots of a zeroed array. -/
def slots {α : Type} (n : Nat) (empty : α) (entries : List α) : Vector α n :=
  Vector.ofFn fun i => entries.getD i empty

variable (cjson : CJson) (target : CTarget)

/-- One element of `sht20`. -/
def decodeSht20Item (item : Json) : ProtoSht20Reading where
  id := match cJsonValueString (cJsonGetObjectItem (some item) (ascii "id")) with
    | some id => idField id
    | none => Vector.replicate 16 0
  temperatureC := jsonFloat (some item) (ascii "t")
  humidityPercent := jsonFloat (some item) (ascii "rh")
  valid := cJsonIsTrue (cJsonGetObjectItem (some item) (ascii "ok"))

/-- One element of `ds18b20`. -/
def decodeDs18b20Item (item : Json) : ProtoDs18b20Reading where
  romCode := match cJsonValueString (cJsonGetObjectItem (some item) (ascii "rom")) with
    | some rom => (parseRom rom (Vector.replicate 8 0)).2
    | none => Vector.replicate 8 0
  temperatureC := jsonFloat (some item) (ascii "t")

/-- One port expander in `gpio`. -/
def decodeMcpItem (gpio : Option Json) (i : Nat) : ProtoMcp23017State :=
  let obj := cJsonGetObjectItem gpio (ascii "mcp" ++ natText i)
  if cJsonIsObject obj then
    { portA := jsonUint16 target obj (ascii "A"), portB := jsonUint16 target obj (ascii "B") }
  else {}

/-- `pca9685` in `pwm`. -/
def decodePca9685 (pwm : Option Json) : ProtoPca9685State :=
  let pca := cJsonGetObjectItem pwm (ascii "pca9685")
  if cJsonIsObject pca then
    let duty := (cJsonArrayItems (cJsonGetObjectItem pca (ascii "duty"))).take 16
    { frequencyHz := jsonUint16 target pca (ascii "freq")
      dutyCycle := slots 16 0 (duty.map fun val =>
        UInt16.ofNat (target.toUnsigned 16 (cJsonGetNumberValue (some val)))) }
  else {}

/-- The JSON branch of `proto_decode_sensor_update`. -/
def decodeSensorUpdateJson (payload : Bytes) : Option ProtoSensorUpdate :=
  match cjson.parse payload with
  | none => none
  | some root =>
      let sht := (cJsonArrayItems (cJsonGetObjectItem (some root) (ascii "sht20"))).take 2
      let ds := (cJsonArrayItems (cJsonGetObjectItem (some root) (ascii "ds18b20"))).take 4
      let gpio := cJsonGetObjectItem (some root) (ascii "gpio")
      let pwm := cJsonGetObjectItem (some root) (ascii "pwm")
      some {
        timestampMs := jsonUint32 target (some root) (ascii "ts")
        sequenceId := jsonUint32 target (some root) (ascii "seq")
        sht20Count := sht.length
        sht20 := slots 2 {} (sht.map decodeSht20Item)
        ds18b20Count := ds.length
        ds18b20 := slots 4 {} (ds.map decodeDs18b20Item)
        mcp := if cJsonIsObject gpio then Vector.ofFn fun i => decodeMcpItem target gpio i
          else Vector.replicate 2 {}
        pwm := if cJsonIsObject pwm then decodePca9685 target pwm else {} }

/-- The single nearest to a finite single rounded to two decimals. -/
def roundTwoDecimals (x : Float32) : Float32 :=
  match toDecimal 2 x with
  | some d => toSingle (ofDecimal d)
  | none => x

/-- An SHT20 entry with its readings rounded to two decimals and nothing behind its identifier. -/
def ProtoSht20Reading.rounded (entry : ProtoSht20Reading) : ProtoSht20Reading where
  id := idField (cString entry.id.toList)
  temperatureC := roundTwoDecimals entry.temperatureC
  humidityPercent := roundTwoDecimals entry.humidityPercent
  valid := entry.valid

/-- A DS18B20 entry with its reading rounded to two decimals. -/
def ProtoDs18b20Reading.rounded (entry : ProtoDs18b20Reading) : ProtoDs18b20Reading where
  romCode := entry.romCode
  temperatureC := roundTwoDecimals entry.temperatureC

/-- Telemetry with its readings rounded to two decimals and its unused slots zero. -/
def ProtoSensorUpdate.rounded (msg : ProtoSensorUpdate) : ProtoSensorUpdate :=
  { msg with
    sht20 := slots 2 {} (msg.sht20Entries.map ProtoSht20Reading.rounded)
    ds18b20 := slots 4 {} (msg.ds18b20Entries.map ProtoDs18b20Reading.rounded) }

theorem sscanfHex2_hexText (octet : UInt8) (rest : Bytes) :
    sscanfHex2 (hexText (octet :: rest)) = some octet.toNat := by
  have hlt := octet.toNat_lt
  have hhigh : octet.toNat / 16 < 16 := by omega
  have hlow : octet.toNat % 16 < 16 := Nat.mod_lt _ (by decide)
  have hdigit : ∀ d < 16, isCSpace (hexDigitUpper d) = false ∧ hexDigitUpper d ≠ 45 ∧
      hexDigitUpper d ≠ 43 := by
    decide
  obtain ⟨hspace, hminus, hplus⟩ := hdigit _ hhigh
  have hvalue : 16 * (octet.toNat / 16) + octet.toNat % 16 = octet.toNat := by omega
  have htext : hexText (octet :: rest) = hexDigitUpper (octet.toNat / 16) ::
      hexDigitUpper (octet.toNat % 16) :: hexText rest := rfl
  rw [htext, sscanfHex2]
  simp [hspace, scanSign, hminus, hplus, hexDigitValue_hexDigitUpper hhigh,
    hexDigitValue_hexDigitUpper hlow, hvalue]

theorem drop_hexText (octets : Bytes) (i : Nat) :
    (hexText octets).drop (2 * i) = hexText (octets.drop i) := by
  induction i generalizing octets with
  | zero => rfl
  | succ i ih =>
      cases octets with
      | nil => simp [hexText]
      | cons octet rest =>
          rw [Nat.mul_succ]
          exact ih rest

/-- The loop of `parse_rom` reads back the octets it has not yet read. -/
theorem parseRomFrom_hexText (rom : Vector UInt8 8) {out : Vector UInt8 8} {i todo : Nat}
    (hsum : i + todo = 8) (hread : ∀ j (h : j < 8), j < i → out[j] = rom[j]) :
    parseRomFrom (hexText rom.toList) out i todo = (true, rom) := by
  induction todo generalizing out i with
  | zero =>
      rw [parseRomFrom]
      have hout : out = rom := Vector.ext fun j hj => hread j hj (by omega)
      rw [hout]
  | succ todo ih =>
      have hi : i < rom.toList.length := by
        rw [Vector.length_toList]
        omega
      rw [parseRomFrom, drop_hexText, List.drop_eq_getElem_cons hi, sscanfHex2_hexText]
      apply ih (by omega)
      intro j hj hlt
      by_cases hsame : j = i
      · subst hsame
        simp
      · rw [Vector.getElem_setIfInBounds_ne hj (by omega)]
        exact hread j hj (by omega)

theorem parseRom_hexText (rom out : Vector UInt8 8) :
    parseRom (hexText rom.toList) out = (true, rom) := by
  have hlength : (hexText rom.toList).length = 16 := by
    rw [length_hexText, Vector.length_toList]
  rw [parseRom, if_neg (by omega)]
  exact parseRomFrom_hexText rom rfl fun j _ hlt => absurd hlt (Nat.not_lt_zero j)

theorem cString_cString (octets : Bytes) : cString (cString octets) = cString octets := by
  simp [cString, List.takeWhile_takeWhile]

/-- A printed single reads back rounded to two decimals. -/
theorem jsonFloat_eq {object : Option Json} {name : Bytes} {x : Float32}
    (h : cJsonGetObjectItem object name = some (fixedJson x)) (hx : x.isFinite = true) :
    jsonFloat object name = roundTwoDecimals x := by
  obtain ⟨d, hd, -⟩ := toDecimal_of_isFinite hx 2
  rw [jsonFloat, h, fixedJson, roundTwoDecimals, hd]
  rfl

theorem decodeSht20Item_eq {entry : ProtoSht20Reading} (htemp : entry.temperatureC.isFinite = true)
    (hhum : entry.humidityPercent.isFinite = true) :
    decodeSht20Item (sht20Json entry) = entry.rounded := by
  have hid : cJsonValueString (cJsonGetObjectItem (some (sht20Json entry)) (ascii "id")) =
      some (cString entry.id.toList) := by
    show some (cString (cString entry.id.toList)) = _
    rw [cString_cString]
  have hok : cJsonIsTrue (cJsonGetObjectItem (some (sht20Json entry)) (ascii "ok")) = entry.valid :=
    rfl
  rw [decodeSht20Item, hid, hok, jsonFloat_eq rfl htemp, jsonFloat_eq rfl hhum]
  rfl

theorem decodeDs18b20Item_eq {entry : ProtoDs18b20Reading}
    (htemp : entry.temperatureC.isFinite = true) :
    decodeDs18b20Item (ds18b20Json entry) = entry.rounded := by
  have hnul : ∀ octet ∈ hexText entry.romCode.toList, octet ≠ 0 := by
    intro octet hmem heq
    have hprint := (isPlain_hexText hmem).2.2
    rw [heq] at hprint
    exact absurd hprint (by decide)
  have hrom : cJsonValueString (cJsonGetObjectItem (some (ds18b20Json entry)) (ascii "rom")) =
      some (hexText entry.romCode.toList) := by
    show some (cString (hexText entry.romCode.toList)) = _
    rw [cString_eq_self hnul]
  rw [decodeDs18b20Item, hrom, jsonFloat_eq rfl htemp]
  simp only [parseRom_hexText]
  rfl

theorem decodeMcpItem_eq {gpio : Option Json} {i : Nat} {state : ProtoMcp23017State}
    (h : cJsonGetObjectItem gpio (ascii "mcp" ++ natText i) = some (mcpJson state)) :
    decodeMcpItem target gpio i = state := by
  have ha : jsonUint16 target (some (mcpJson state)) (ascii "A") = state.portA := jsonUint16_eq rfl
  have hb : jsonUint16 target (some (mcpJson state)) (ascii "B") = state.portB := jsonUint16_eq rfl
  simp only [decodeMcpItem, h, ha, hb]
  rfl

/-- The duty cycles read back from the array they were printed to. -/
theorem slots_duty (duty : Vector UInt16 16) :
    slots 16 0 (((duty.toList.map fun value => natJson value.toNat).take 16).map fun val =>
      UInt16.ofNat (target.toUnsigned 16 (cJsonGetNumberValue (some val)))) = duty := by
  have hvalue : ∀ value : UInt16, UInt16.ofNat (target.toUnsigned 16
      (cJsonGetNumberValue (some (natJson value.toNat)))) = value := by
    intro value
    show UInt16.ofNat (target.toUnsigned 16 (ofNatural value.toNat)) = value
    rw [target.toUnsigned_ofNatural (by decide) value.toNat_lt, UInt16.ofNat_toNat]
  rw [List.take_of_length_le (by simp), List.map_map]
  apply Vector.ext
  intro i hi
  simp [slots, Function.comp_def, hvalue]

theorem decodePca9685_eq {pwm : Option Json} {state : ProtoPca9685State}
    (h : cJsonGetObjectItem pwm (ascii "pca9685") = some (.obj [
      (ascii "freq", natJson state.frequencyHz.toNat),
      (ascii "duty", .arr (state.dutyCycle.toList.map fun duty => natJson duty.toNat))])) :
    decodePca9685 target pwm = state := by
  have hfreq : jsonUint16 target (cJsonGetObjectItem pwm (ascii "pca9685")) (ascii "freq") =
      state.frequencyHz := by
    rw [h]
    exact jsonUint16_eq rfl
  have hduty : cJsonArrayItems (cJsonGetObjectItem (cJsonGetObjectItem pwm (ascii "pca9685"))
      (ascii "duty")) = state.dutyCycle.toList.map fun duty => natJson duty.toNat := by
    rw [h]
    rfl
  have hobject : cJsonIsObject (cJsonGetObjectItem pwm (ascii "pca9685")) = true := by
    rw [h]
    rfl
  simp only [decodePca9685, hobject, if_true, hfreq, hduty, slots_duty]

/-- The decoder gives printable telemetry back from its JSON value, with readings rounded. -/
theorem decodeSensorUpdateJson_of_parse {payload : Bytes} {msg : ProtoSensorUpdate}
    (h : msg.Printable) (hsht : msg.sht20Count ≤ 2) (hds : msg.ds18b20Count ≤ 4)
    (hparse : cjson.parse payload = some (sensorUpdateJson msg)) :
    decodeSensorUpdateJson cjson target payload = some msg.rounded := by
  have hshtItems : (cJsonArrayItems (cJsonGetObjectItem (some (sensorUpdateJson msg))
      (ascii "sht20"))).take 2 = msg.sht20Entries.map sht20Json := by
    show (msg.sht20Entries.map sht20Json).take 2 = _
    apply List.take_of_length_le
    simp [ProtoSensorUpdate.sht20Entries]
  have hdsItems : (cJsonArrayItems (cJsonGetObjectItem (some (sensorUpdateJson msg))
      (ascii "ds18b20"))).take 4 = msg.ds18b20Entries.map ds18b20Json := by
    show (msg.ds18b20Entries.map ds18b20Json).take 4 = _
    apply List.take_of_length_le
    simp [ProtoSensorUpdate.ds18b20Entries]
  have hshtCount : (msg.sht20Entries.map sht20Json).length = msg.sht20Count := by
    simp [ProtoSensorUpdate.sht20Entries, hsht]
  have hdsCount : (msg.ds18b20Entries.map ds18b20Json).length = msg.ds18b20Count := by
    simp [ProtoSensorUpdate.ds18b20Entries, hds]
  have hshtRounded : (msg.sht20Entries.map sht20Json).map decodeSht20Item =
      msg.sht20Entries.map ProtoSht20Reading.rounded := by
    rw [List.map_map]
    apply List.map_congr_left
    intro entry hmem
    exact decodeSht20Item_eq (h.sht20 entry hmem).1 (h.sht20 entry hmem).2
  have hdsRounded : (msg.ds18b20Entries.map ds18b20Json).map decodeDs18b20Item =
      msg.ds18b20Entries.map ProtoDs18b20Reading.rounded := by
    rw [List.map_map]
    apply List.map_congr_left
    intro entry hmem
    exact decodeDs18b20Item_eq (h.ds18b20 entry hmem)
  have hmcp : (Vector.ofFn fun i : Fin 2 => decodeMcpItem target
      (cJsonGetObjectItem (some (sensorUpdateJson msg)) (ascii "gpio")) i) = msg.mcp := by
    apply Vector.ext
    intro i hi
    rw [Vector.getElem_ofFn]
    have hzero : natText 0 = ascii "0" := by
      rw [natText_eq]
      rfl
    have hone : natText 1 = ascii "1" := by
      rw [natText_eq]
      rfl
    rcases Nat.le_one_iff_eq_zero_or_eq_one.mp (Nat.le_of_lt_succ hi) with rfl | rfl
    · exact decodeMcpItem_eq target (by rw [hzero]; rfl)
    · exact decodeMcpItem_eq target (by rw [hone]; rfl)
  have hpwm : decodePca9685 target (cJsonGetObjectItem (some (sensorUpdateJson msg))
    (ascii "pwm")) =
      msg.pwm := decodePca9685_eq target rfl
  have hts : jsonUint32 target (some (sensorUpdateJson msg)) (ascii "ts") = msg.timestampMs :=
    jsonUint32_eq rfl
  have hseq : jsonUint32 target (some (sensorUpdateJson msg)) (ascii "seq") = msg.sequenceId :=
    jsonUint32_eq rfl
  have hgpioObject : cJsonIsObject (cJsonGetObjectItem (some (sensorUpdateJson msg))
    (ascii "gpio")) = true := rfl
  have hpwmObject : cJsonIsObject (cJsonGetObjectItem (some (sensorUpdateJson msg))
    (ascii "pwm")) = true := rfl
  simp only [decodeSensorUpdateJson, hparse, hts, hseq, hshtItems, hshtCount, hshtRounded, hdsItems,
    hdsCount, hdsRounded, hgpioObject, hpwmObject, hmcp, hpwm, if_true]
  rfl

end SensorUpdate

end SensorHmi
