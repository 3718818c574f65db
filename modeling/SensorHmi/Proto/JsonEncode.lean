import SensorHmi.Lib.Ieee
import SensorHmi.Lib.Json
import SensorHmi.Proto.Messages

/-!
# Writing messages as JSON

The JSON encoders of `common/proto/messages.c`. `json_append` prints into what is left of the
buffer, so an encoder is the list of texts it appends. `jsonInto_eq_some_iff` says when that
succeeds; `commandTexts_flatten` and `sensorUpdateTexts_flatten` say that the texts together are
the JSON text of the message.
-/

namespace SensorHmi

open Octets Numeral Ieee

/-- `cursor` and `remaining` of an encoder; the octet for the closing NUL counts as remaining. -/
structure JsonCursor where
  written : Bytes
  remaining : Nat

/-- `json_append` of a text `vsnprintf` makes: nothing when the text and its NUL do not fit. -/
def jsonAppend (cursor : JsonCursor) (text : Bytes) : Option JsonCursor :=
  if cursor.remaining = 0 ∨ cursor.remaining ≤ text.length then none
  else some ⟨cursor.written ++ text, cursor.remaining - text.length⟩

/-- An encoder that appends these texts one after the other: the octets and their CRC. What a
failed call leaves in the buffer is read by nobody. -/
def jsonInto (texts : List Bytes) (bufferLen : Nat) : Option (Bytes × UInt32) :=
  if bufferLen = 0 then none
  else match texts.foldlM jsonAppend ⟨[], bufferLen⟩ with
    | none => none
    | some cursor => some (cursor.written, protoCrc32 cursor.written)

/-- Appending succeeds exactly when everything and a NUL fit. -/
theorem jsonAppend_foldlM {written : Bytes} {remaining : Nat} (hpos : 0 < remaining)
    (texts : List Bytes) :
    texts.foldlM jsonAppend ⟨written, remaining⟩ =
      if texts.flatten.length < remaining then
        some ⟨written ++ texts.flatten, remaining - texts.flatten.length⟩
      else none := by
  induction texts generalizing written remaining with
  | nil => simp [hpos]
  | cons text rest ih =>
      rw [List.foldlM_cons, jsonAppend]
      by_cases hfits : text.length < remaining
      · rw [if_neg (by dsimp only; omega)]
        simp only [Option.bind_eq_bind, Option.bind_some, List.flatten_cons, List.length_append]
        rw [ih (by omega)]
        by_cases hrest : rest.flatten.length < remaining - text.length
        · rw [if_pos hrest, if_pos (by omega), List.append_assoc, Nat.sub_sub]
        · rw [if_neg hrest, if_neg (by omega)]
      · rw [if_pos (by dsimp only; omega)]
        simp only [Option.bind_eq_bind, Option.bind_none, List.flatten_cons, List.length_append]
        rw [if_neg (by omega)]

/-- An encoder returns all its texts and their CRC when they fit with a NUL, and fails
otherwise. -/
theorem jsonInto_eq_some_iff {texts : List Bytes} {bufferLen : Nat} {text : Bytes} {crc32 :
    UInt32} :
    jsonInto texts bufferLen = some (text, crc32) ↔
      texts.flatten.length < bufferLen ∧ text = texts.flatten ∧ crc32 = protoCrc32 text := by
  unfold jsonInto
  by_cases hzero : bufferLen = 0
  · simp [hzero]
  · rw [if_neg hzero, jsonAppend_foldlM (Nat.pos_of_ne_zero hzero)]
    by_cases hfits : texts.flatten.length < bufferLen
    · rw [if_pos hfits]
      simp only [List.nil_append, Option.some.injEq, Prod.mk.injEq, hfits, true_and]
      constructor
      · rintro ⟨rfl, rfl⟩
        exact ⟨rfl, rfl⟩
      · rintro ⟨rfl, rfl⟩
        exact ⟨rfl, rfl⟩
    · rw [if_neg hfits]
      simp only [reduceCtorEq, hfits, false_and]

/-- A natural number as a JSON value. -/
def natJson (n : Nat) : Json := .num ⟨false, n, 0⟩

@[simp] theorem render_natJson (n : Nat) : Json.render (natJson n) = natText n := by
  simp [natJson, Json.render, Decimal.text]

section Lengths

theorem length_natText_uint8 (n : UInt8) : (natText n.toNat).length ≤ 3 :=
  length_natText_le (by decide) (Nat.lt_trans n.toNat_lt (by decide))

theorem length_natText_uint16 (n : UInt16) : (natText n.toNat).length ≤ 5 :=
  length_natText_le (by decide) (Nat.lt_trans n.toNat_lt (by decide))

theorem length_natText_uint32 (n : UInt32) : (natText n.toNat).length ≤ 10 :=
  length_natText_le (by decide) (Nat.lt_trans n.toNat_lt (by decide))

end Lengths

section Command

variable (msg : ProtoCommand)

/-- The head of a command. -/
def commandHeadText : Bytes :=
  ascii "\x7b\"v\":1,\"type\":\"cmd\",\"ts\":" ++ natText msg.timestampMs.toNat ++
    ascii ",\"seq\":" ++ natText msg.sequenceId.toNat

/-- The `set_pwm` section. -/
def setPwmText : Bytes :=
  ascii ",\"set_pwm\":\x7b\"ch\":" ++ natText msg.pwmUpdate.channel.toNat ++
    ascii ",\"duty\":" ++ natText msg.pwmUpdate.dutyCycle.toNat ++ ascii "\x7d"

/-- The `pwm_freq` section. -/
def pwmFreqText : Bytes :=
  ascii ",\"pwm_freq\":\x7b\"freq\":" ++ natText msg.pwmFrequency.toNat ++ ascii "\x7d"

/-- `dev` of the `write_gpio` section. -/
def gpioDev : Bytes :=
  if msg.gpioWrite.deviceIndex = 0 then ascii "mcp0" else ascii "mcp1"

/-- `port` of the `write_gpio` section. -/
def gpioPort : Bytes :=
  if msg.gpioWrite.port = 0 then ascii "A" else ascii "B"

/-- The `write_gpio` section. -/
def writeGpioText : Bytes :=
  ascii ",\"write_gpio\":\x7b\"dev\":\"" ++ gpioDev msg ++ ascii "\",\"port\":\"" ++
    gpioPort msg ++ ascii "\",\"mask\":" ++ natText msg.gpioWrite.mask.toNat ++
    ascii ",\"value\":" ++ natText msg.gpioWrite.value.toNat ++ ascii "\x7d"

/-- The texts `encode_command_json_into` appends. -/
def commandTexts : List Bytes :=
  [commandHeadText msg] ++
  (if msg.hasPwmUpdate then [setPwmText msg] else []) ++
  (if msg.hasPwmFrequency then [pwmFreqText msg] else []) ++
  (if msg.hasGpioWrite then [writeGpioText msg] else []) ++
  [ascii "\x7d"]

/-- `encode_command_json_into` -/
def encodeCommandJsonInto (bufferLen : Nat) : Option (Bytes × UInt32) :=
  jsonInto (commandTexts msg) bufferLen

/-- The `set_pwm` section as a member. -/
def setPwmMember : Bytes × Json :=
  (ascii "set_pwm", .obj [(ascii "ch", natJson msg.pwmUpdate.channel.toNat),
    (ascii "duty", natJson msg.pwmUpdate.dutyCycle.toNat)])

/-- The `pwm_freq` section as a member. -/
def pwmFreqMember : Bytes × Json :=
  (ascii "pwm_freq", .obj [(ascii "freq", natJson msg.pwmFrequency.toNat)])

/-- The `write_gpio` section as a member. -/
def writeGpioMember : Bytes × Json :=
  (ascii "write_gpio", .obj [(ascii "dev", .str (gpioDev msg)), (ascii "port", .str (gpioPort msg)),
    (ascii "mask", natJson msg.gpioWrite.mask.toNat),
    (ascii "value", natJson msg.gpioWrite.value.toNat)])

/-- The JSON value of a command. -/
def commandJson : Json :=
  .obj ([(ascii "v", natJson 1), (ascii "type", .str (ascii "cmd")),
      (ascii "ts", natJson msg.timestampMs.toNat), (ascii "seq", natJson msg.sequenceId.toNat)] ++
    (if msg.hasPwmUpdate then [setPwmMember msg] else []) ++
    (if msg.hasPwmFrequency then [pwmFreqMember msg] else []) ++
    (if msg.hasGpioWrite then [writeGpioMember msg] else []))

theorem setPwmText_eq : setPwmText msg = Json.memberText (setPwmMember msg) := by
  simp only [setPwmText, setPwmMember, Json.memberText, Json.render, Json.renderMembers,
    render_natJson, List.append_assoc]
  rfl

theorem pwmFreqText_eq : pwmFreqText msg = Json.memberText (pwmFreqMember msg) := by
  simp only [pwmFreqText, pwmFreqMember, Json.memberText, Json.render, Json.renderMembers,
    render_natJson, List.append_assoc]
  rfl

theorem writeGpioText_eq : writeGpioText msg = Json.memberText (writeGpioMember msg) := by
  have hdev : Json.renderString (gpioDev msg) = 34 :: (gpioDev msg ++ [34]) := by
    unfold gpioDev
    split <;> rfl
  have hport : Json.renderString (gpioPort msg) = 34 :: (gpioPort msg ++ [34]) := by
    unfold gpioPort
    split <;> rfl
  simp only [writeGpioText, writeGpioMember, Json.memberText, Json.render, Json.renderMembers,
    render_natJson, hdev, hport, List.append_assoc, List.cons_append, List.nil_append]
  rfl

/-- An optional section as a text and as a member. -/
theorem flatten_section {present : Bool} {text : Bytes} {member : Bytes × Json}
    (h : text = Json.memberText member) :
    (if present then [text] else []).flatten =
      (if present then [member] else []).flatMap Json.memberText := by
  cases present <;> simp [h]

/-- The texts of a command make up its JSON text. -/
theorem commandTexts_flatten : (commandTexts msg).flatten = Json.render (commandJson msg) := by
  have htexts : (commandTexts msg).flatten = commandHeadText msg ++
      ((if msg.hasPwmUpdate then [setPwmMember msg] else []).flatMap Json.memberText ++
      ((if msg.hasPwmFrequency then [pwmFreqMember msg] else []).flatMap Json.memberText ++
      ((if msg.hasGpioWrite then [writeGpioMember msg] else []).flatMap Json.memberText ++
        ascii "\x7d"))) := by
    simp only [commandTexts, List.flatten_append, flatten_section (setPwmText_eq msg),
      flatten_section (pwmFreqText_eq msg), flatten_section (writeGpioText_eq msg),
      List.flatten_singleton, List.append_assoc]
  rw [htexts]
  simp only [commandJson, List.cons_append, List.nil_append, Json.render, Json.renderMembers_eq,
    List.flatMap_append, List.flatMap_cons, render_natJson, commandHeadText, Json.memberText,
    List.append_assoc]
  rfl

/-- The JSON text of a command fits a command buffer. -/
theorem length_commandTexts : (commandTexts msg).flatten.length < protoMaxCommandSize := by
  have hhead : (commandHeadText msg).length ≤ 60 := by
    have hts := length_natText_uint32 msg.timestampMs
    have hseq := length_natText_uint32 msg.sequenceId
    simp only [commandHeadText, List.length_append]
    simp [ascii]
    omega
  have hpwm : (setPwmText msg).length ≤ 40 := by
    have hch := length_natText_uint8 msg.pwmUpdate.channel
    have hduty := length_natText_uint16 msg.pwmUpdate.dutyCycle
    simp only [setPwmText, List.length_append]
    simp [ascii]
    omega
  have hfreq : (pwmFreqText msg).length ≤ 30 := by
    have hfreq := length_natText_uint16 msg.pwmFrequency
    simp only [pwmFreqText, List.length_append]
    simp [ascii]
    omega
  have hgpio : (writeGpioText msg).length ≤ 80 := by
    have hmask := length_natText_uint16 msg.gpioWrite.mask
    have hvalue := length_natText_uint16 msg.gpioWrite.value
    have hdev : (gpioDev msg).length = 4 := by
      unfold gpioDev
      split <;> rfl
    have hport : (gpioPort msg).length = 1 := by
      unfold gpioPort
      split <;> rfl
    simp only [writeGpioText, List.length_append, hdev, hport]
    simp [ascii]
    omega
  have hsection : ∀ (present : Bool) (text : Bytes),
      (if present then [text] else []).flatten.length ≤ text.length := by
    intro present text
    cases present <;> simp
  have hpwm' := hsection msg.hasPwmUpdate (setPwmText msg)
  have hfreq' := hsection msg.hasPwmFrequency (pwmFreqText msg)
  have hgpio' := hsection msg.hasGpioWrite (writeGpioText msg)
  have hlast : (ascii "\x7d").length = 1 := rfl
  simp only [commandTexts, List.flatten_append, List.flatten_singleton, List.length_append, hlast,
    protoMaxCommandSize]
  omega

end Command

section SensorUpdate

/-- `%.2f` of a single, which is promoted to a double without a change of value. -/
def fixedText (x : Float32) : Bytes :=
  match toDecimal 2 x with
  | some d => d.text
  | none =>
      if x.isNaN then ascii "nan"
      else if x < .ofBits 0 then ascii "-inf"
      else ascii "inf"

/-- `i > 0 ? "," : ""` in front of each text. -/
def separated : List Bytes → List Bytes
  | [] => []
  | first :: rest => first :: rest.map fun text => ascii "," ++ text

/-- The text of an SHT20 entry. -/
def sht20Text (entry : ProtoSht20Reading) : Bytes :=
  ascii "\x7b\"id\":\"" ++ cString entry.id.toList ++ ascii "\",\"t\":" ++
    fixedText entry.temperatureC ++ ascii ",\"rh\":" ++ fixedText entry.humidityPercent ++
    ascii ",\"ok\":" ++ (if entry.valid then ascii "true" else ascii "false") ++ ascii "\x7d"

/-- The text of a DS18B20 entry. -/
def ds18b20Text (entry : ProtoDs18b20Reading) : Bytes :=
  ascii "\x7b\"rom\":\"" ++ hexText entry.romCode.toList ++ ascii "\",\"t\":" ++
    fixedText entry.temperatureC ++ ascii "\x7d"

/-- The texts `encode_sensor_update_json_into` appends. -/
def sensorUpdateTexts (msg : ProtoSensorUpdate) : List Bytes :=
  [ascii "\x7b\"v\":1,\"type\":\"sensor_update\",\"ts\":" ++ natText msg.timestampMs.toNat ++
    ascii ",\"seq\":" ++ natText msg.sequenceId.toNat ++ ascii ",\"sht20\":["] ++
  separated (msg.sht20Entries.map sht20Text) ++
  [ascii "],\"ds18b20\":["] ++
  separated (msg.ds18b20Entries.map ds18b20Text) ++
  [ascii "],\"gpio\":\x7b\"mcp0\":\x7b\"A\":" ++ natText msg.mcp0.portA.toNat ++
    ascii ",\"B\":" ++ natText msg.mcp0.portB.toNat ++
    ascii "\x7d,\"mcp1\":\x7b\"A\":" ++ natText msg.mcp1.portA.toNat ++
    ascii ",\"B\":" ++ natText msg.mcp1.portB.toNat ++
    ascii "\x7d\x7d,\"pwm\":\x7b\"pca9685\":\x7b\"freq\":" ++ natText msg.pwm.frequencyHz.toNat ++
    ascii ",\"duty\":["] ++
  separated (msg.pwm.dutyCycle.toList.map fun duty => natText duty.toNat) ++
  [ascii "]\x7d\x7d\x7d"]

/-- `encode_sensor_update_json_into` -/
def encodeSensorUpdateJsonInto (msg : ProtoSensorUpdate) (bufferLen : Nat) :
    Option (Bytes × UInt32) :=
  jsonInto (sensorUpdateTexts msg) bufferLen

/-- A finite single as the JSON number it is printed as. -/
def fixedJson (x : Float32) : Json :=
  match toDecimal 2 x with
  | some d => .num d
  | none => .null

/-- The JSON value of an SHT20 entry. -/
def sht20Json (entry : ProtoSht20Reading) : Json :=
  .obj [(ascii "id", .str (cString entry.id.toList)), (ascii "t", fixedJson entry.temperatureC),
    (ascii "rh", fixedJson entry.humidityPercent), (ascii "ok", .bool entry.valid)]

/-- The JSON value of a DS18B20 entry. -/
def ds18b20Json (entry : ProtoDs18b20Reading) : Json :=
  .obj [(ascii "rom", .str (hexText entry.romCode.toList)),
    (ascii "t", fixedJson entry.temperatureC)]

/-- The JSON value of a port expander. -/
def mcpJson (state : ProtoMcp23017State) : Json :=
  .obj [(ascii "A", natJson state.portA.toNat), (ascii "B", natJson state.portB.toNat)]

/-- The JSON value of telemetry. -/
def sensorUpdateJson (msg : ProtoSensorUpdate) : Json :=
  .obj [(ascii "v", natJson 1), (ascii "type", .str (ascii "sensor_update")),
    (ascii "ts", natJson msg.timestampMs.toNat), (ascii "seq", natJson msg.sequenceId.toNat),
    (ascii "sht20", .arr (msg.sht20Entries.map sht20Json)),
    (ascii "ds18b20", .arr (msg.ds18b20Entries.map ds18b20Json)),
    (ascii "gpio", .obj [(ascii "mcp0", mcpJson msg.mcp0), (ascii "mcp1", mcpJson msg.mcp1)]),
    (ascii "pwm", .obj [(ascii "pca9685", .obj [
      (ascii "freq", natJson msg.pwm.frequencyHz.toNat),
      (ascii "duty", .arr (msg.pwm.dutyCycle.toList.map fun duty => natJson duty.toNat))])])]

/-- An identifier of characters JSON does not escape. -/
def PlainId (entry : ProtoSht20Reading) : Prop :=
  ∀ octet ∈ cString entry.id.toList, octet ≠ 34 ∧ octet ≠ 92 ∧ 32 ≤ octet

/-- Telemetry that has a JSON text: plain identifiers, finite temperatures and humidities. -/
structure ProtoSensorUpdate.Printable (msg : ProtoSensorUpdate) : Prop where
  plain : ∀ entry ∈ msg.sht20Entries, PlainId entry
  sht20 : ∀ entry ∈ msg.sht20Entries,
    entry.temperatureC.isFinite = true ∧ entry.humidityPercent.isFinite = true
  ds18b20 : ∀ entry ∈ msg.ds18b20Entries, entry.temperatureC.isFinite = true

theorem fixedText_eq {x : Float32} (h : x.isFinite = true) :
    fixedText x = Json.render (fixedJson x) := by
  obtain ⟨d, hd, -⟩ := toDecimal_of_isFinite h 2
  rw [fixedText, fixedJson, hd]
  rfl

theorem isPlain_hexText {octets : Bytes} {octet : UInt8} (h : octet ∈ hexText octets) :
    octet ≠ 34 ∧ octet ≠ 92 ∧ 32 ≤ octet := by
  have hdigit : ∀ d < 16, hexDigitUpper d ≠ 34 ∧ hexDigitUpper d ≠ 92 ∧ 32 ≤ hexDigitUpper d := by
    decide
  obtain ⟨source, -, hmem⟩ := List.mem_flatMap.mp h
  have hlt := source.toNat_lt
  rcases List.mem_cons.mp hmem with rfl | hlow
  · exact hdigit _ (by omega)
  · rw [List.mem_singleton.mp hlow]
    exact hdigit _ (Nat.mod_lt _ (by decide))

theorem sht20Text_eq {entry : ProtoSht20Reading} (hid : PlainId entry)
    (htemp : entry.temperatureC.isFinite = true) (hhum : entry.humidityPercent.isFinite = true) :
    sht20Text entry = Json.render (sht20Json entry) := by
  simp only [sht20Text, sht20Json, Json.render, Json.renderMembers, Json.renderString_plain hid,
    fixedText_eq htemp, fixedText_eq hhum, List.append_assoc, List.cons_append, List.nil_append]
  cases entry.valid <;> rfl

theorem ds18b20Text_eq {entry : ProtoDs18b20Reading} (htemp : entry.temperatureC.isFinite = true) :
    ds18b20Text entry = Json.render (ds18b20Json entry) := by
  simp only [ds18b20Text, ds18b20Json, Json.render, Json.renderMembers,
    Json.renderString_plain fun _ => isPlain_hexText, fixedText_eq htemp, List.append_assoc,
    List.cons_append, List.nil_append]
  rfl

/-- Separated texts of items, in brackets, are the text of the array. -/
theorem render_arr (items : List Json) :
    Json.render (.arr items) = 91 :: ((separated (items.map Json.render)).flatten ++ [93]) := by
  cases items with
  | nil => rfl
  | cons item rest =>
      simp only [Json.render, Json.renderItems_eq, separated, List.map_cons, List.flatten_cons,
        List.map_map, List.flatMap_def, List.append_assoc]
      rfl

/-- The texts of printable telemetry make up its JSON text. -/
theorem sensorUpdateTexts_flatten {msg : ProtoSensorUpdate} (h : msg.Printable) :
    (sensorUpdateTexts msg).flatten = Json.render (sensorUpdateJson msg) := by
  have hsht : msg.sht20Entries.map sht20Text =
      (msg.sht20Entries.map sht20Json).map Json.render := by
    rw [List.map_map]
    apply List.map_congr_left
    intro entry hmem
    exact sht20Text_eq (h.plain entry hmem) (h.sht20 entry hmem).1 (h.sht20 entry hmem).2
  have hds : msg.ds18b20Entries.map ds18b20Text =
      (msg.ds18b20Entries.map ds18b20Json).map Json.render := by
    rw [List.map_map]
    apply List.map_congr_left
    intro entry hmem
    exact ds18b20Text_eq (h.ds18b20 entry hmem)
  have hduty : (msg.pwm.dutyCycle.toList.map fun duty => natText duty.toNat) =
      (msg.pwm.dutyCycle.toList.map fun duty => natJson duty.toNat).map Json.render := by
    rw [List.map_map]
    apply List.map_congr_left
    intro duty _
    exact (render_natJson duty.toNat).symm
  simp only [sensorUpdateTexts, hsht, hds, hduty]
  simp only [List.flatten_append, List.flatten_cons, List.flatten_nil, sensorUpdateJson, mcpJson,
    Json.render, Json.renderMembers, render_arr, render_natJson, List.append_assoc,
    List.cons_append, List.nil_append]
  rfl

theorem length_fixedText (x : Float32) : (fixedText x).length ≤ 43 := by
  by_cases h : x.isFinite = true
  case neg =>
    rw [fixedText, toDecimal_of_not_isFinite h]
    dsimp only
    split_ifs <;> decide
  obtain ⟨d, hd, hexponent, hmantissa⟩ := toDecimal_of_isFinite h 2
  obtain ⟨negative, mantissa, exponent⟩ := d
  have hexponent : exponent = .negSucc 1 := hexponent
  have hmantissa : mantissa < 10 ^ 39 * 10 ^ 2 := hmantissa
  have hwhole : (natText (mantissa / 10 ^ (1 + 1))).length ≤ 39 :=
    length_natText_le (by decide) (Nat.div_lt_of_lt_mul (by omega))
  rw [fixedText, hd]
  subst hexponent
  cases negative <;>
    simp only [Decimal.text, List.length_append, List.length_cons, length_padText, if_true,
      Bool.false_eq_true, if_false, List.length_nil] <;> omega

/-- Separated texts of bounded length. -/
theorem length_separated_le {texts : List Bytes} (bound : Nat)
    (h : ∀ text ∈ texts, text.length ≤ bound) :
    (separated texts).flatten.length ≤ texts.length * (bound + 1) := by
  have hrest : ∀ rest : List Bytes, (∀ text ∈ rest, text.length ≤ bound) →
      (rest.map fun text => ascii "," ++ text).flatten.length ≤ rest.length * (bound + 1) := by
    intro rest hbound
    induction rest with
    | nil => simp
    | cons text rest ih =>
        have htext := hbound text List.mem_cons_self
        have htail := ih fun other hmem => hbound other (List.mem_cons_of_mem _ hmem)
        have hcomma : (ascii ",").length = 1 := rfl
        simp only [List.map_cons, List.flatten_cons, List.length_append, List.length_cons, hcomma,
          Nat.succ_mul]
        omega
  cases texts with
  | nil => simp [separated]
  | cons first rest =>
      have hfirst := h first List.mem_cons_self
      have htail := hrest rest fun text hmem => h text (List.mem_cons_of_mem _ hmem)
      simp only [separated, List.flatten_cons, List.length_append, List.length_cons, Nat.succ_mul]
      omega

theorem length_cString_le (octets : Bytes) : (cString octets).length ≤ octets.length :=
  (List.takeWhile_sublist _).length_le

theorem length_hexText (octets : Bytes) : (hexText octets).length = 2 * octets.length := by
  induction octets with
  | nil => rfl
  | cons octet rest ih =>
      simp only [hexText, List.flatMap_cons, List.length_append, List.length_cons,
        List.length_nil] at ih ⊢
      omega

/-- The JSON text of telemetry fits a buffer of 2048 octets. -/
theorem length_sensorUpdateTexts (msg : ProtoSensorUpdate) :
    (sensorUpdateTexts msg).flatten.length < 2048 := by
  have hsht : (separated (msg.sht20Entries.map sht20Text)).flatten.length ≤ 2 * 161 := by
    have hcount : (msg.sht20Entries.map sht20Text).length ≤ 2 := by
      simp [ProtoSensorUpdate.sht20Entries]
    refine Nat.le_trans (length_separated_le 160 ?_) (Nat.mul_le_mul_right _ hcount)
    intro text hmem
    obtain ⟨entry, hentry, rfl⟩ := List.mem_map.mp hmem
    have hid := length_cString_le entry.id.toList
    have htemp := length_fixedText entry.temperatureC
    have hhum := length_fixedText entry.humidityPercent
    rw [Vector.length_toList] at hid
    cases hok : entry.valid <;> simp only [sht20Text, hok, List.length_append] <;>
      simp [ascii] <;> omega
  have hds : (separated (msg.ds18b20Entries.map ds18b20Text)).flatten.length ≤ 4 * 81 := by
    have hcount : (msg.ds18b20Entries.map ds18b20Text).length ≤ 4 := by
      simp [ProtoSensorUpdate.ds18b20Entries]
    refine Nat.le_trans (length_separated_le 80 ?_) (Nat.mul_le_mul_right _ hcount)
    intro text hmem
    obtain ⟨entry, hentry, rfl⟩ := List.mem_map.mp hmem
    have htemp := length_fixedText entry.temperatureC
    simp only [ds18b20Text, List.length_append, length_hexText, Vector.length_toList]
    simp [ascii]
    omega
  have hduty : (separated (msg.pwm.dutyCycle.toList.map fun duty =>
      natText duty.toNat)).flatten.length ≤ 16 * 6 := by
    have hcount : (msg.pwm.dutyCycle.toList.map fun duty => natText duty.toNat).length = 16 := by
      simp
    refine Nat.le_trans (length_separated_le 5 ?_) (Nat.mul_le_mul_right _ hcount.le)
    intro text hmem
    obtain ⟨duty, -, rfl⟩ := List.mem_map.mp hmem
    exact length_natText_uint16 duty
  have hts := length_natText_uint32 msg.timestampMs
  have hseq := length_natText_uint32 msg.sequenceId
  have ha0 := length_natText_uint16 msg.mcp0.portA
  have hb0 := length_natText_uint16 msg.mcp0.portB
  have ha1 := length_natText_uint16 msg.mcp1.portA
  have hb1 := length_natText_uint16 msg.mcp1.portB
  have hfreq := length_natText_uint16 msg.pwm.frequencyHz
  simp only [sensorUpdateTexts, List.flatten_append, List.flatten_singleton, List.length_append]
  simp [ascii] at hsht hds hduty ⊢
  omega

end SensorUpdate

end SensorHmi
