import SensorHmi.Proto.RoundTrip

/-!
# What the JSON command decoder does not check

`proto_decode_command` converts every number it finds, and takes NaN for those it does not find.
What it accepts is a well-formed command exactly when the payload was one:
`accepted_commands_wellFormed_iff`.
-/

namespace SensorHmi

open Octets Ieee

/-- `cJSON_GetNumberValue(cJSON_GetObjectItem(object, name))` -/
def memberNumber (object : Option Json) (name : Bytes) : Float :=
  cJsonGetNumberValue (cJsonGetObjectItem object name)

/-- `cJSON_GetObjectItem(object, name)->valuestring` -/
def memberString (object : Option Json) (name : Bytes) : Option Bytes :=
  cJsonValueString (cJsonGetObjectItem object name)

/-- A section of a command. -/
def commandSection (root : Json) (name : Bytes) : Option Json :=
  cJsonGetObjectItem (some root) name

/-- The member is an integer of `bits` bits. -/
def MemberFits (bits : Nat) (object : Option Json) (name : Bytes) : Prop :=
  ∃ n, IsUnsigned bits (memberNumber object name) n

/-- A JSON value that is a command: its numbers are integers of the types that take them, its
device and its port are known. -/
structure CommandWellFormed (root : Json) : Prop where
  ts : MemberFits 32 (some root) (ascii "ts")
  seq : MemberFits 32 (some root) (ascii "seq")
  setPwm : cJsonIsObject (commandSection root (ascii "set_pwm")) = true →
    MemberFits 8 (commandSection root (ascii "set_pwm")) (ascii "ch") ∧
      MemberFits 16 (commandSection root (ascii "set_pwm")) (ascii "duty")
  pwmFreq : cJsonIsObject (commandSection root (ascii "pwm_freq")) = true →
    MemberFits 16 (commandSection root (ascii "pwm_freq")) (ascii "freq")
  writeGpio : cJsonIsObject (commandSection root (ascii "write_gpio")) = true →
    MemberFits 16 (commandSection root (ascii "write_gpio")) (ascii "mask") ∧
      MemberFits 16 (commandSection root (ascii "write_gpio")) (ascii "value") ∧
      (memberString (commandSection root (ascii "write_gpio")) (ascii "dev") = some (ascii "mcp0") ∨
        memberString (commandSection root (ascii "write_gpio")) (ascii "dev") =
          some (ascii "mcp1")) ∧
      (memberString (commandSection root (ascii "write_gpio")) (ascii "port") = some (ascii "A") ∨
        memberString (commandSection root (ascii "write_gpio")) (ascii "port") = some (ascii "B"))

/-- The doubles the decoder converts, with the width of the type it converts to. -/
def commandConversions (root : Json) : List (Nat × Float) :=
  let setPwm := commandSection root (ascii "set_pwm")
  let pwmFreq := commandSection root (ascii "pwm_freq")
  let writeGpio := commandSection root (ascii "write_gpio")
  [(32, memberNumber (some root) (ascii "ts")), (32, memberNumber (some root) (ascii "seq"))] ++
    (if cJsonIsObject setPwm then
      [(8, memberNumber setPwm (ascii "ch")), (16, memberNumber setPwm (ascii "duty"))]
    else []) ++
    (if cJsonIsObject pwmFreq then [(16, memberNumber pwmFreq (ascii "freq"))] else []) ++
    (if cJsonIsObject writeGpio then
      [(16, memberNumber writeGpio (ascii "mask")), (16, memberNumber writeGpio (ascii "value"))]
    else [])

/-- The decoder took the command as it stands in the payload: every number of a flagged section is
present as an integer in range and stored unchanged, device and port are known, and nothing else
was converted to an unsigned type. -/
structure CommandStored (root : Json) (msg : ProtoCommand) : Prop where
  ts : IsUnsigned 32 (memberNumber (some root) (ascii "ts")) msg.timestampMs.toNat
  seq : IsUnsigned 32 (memberNumber (some root) (ascii "seq")) msg.sequenceId.toNat
  setPwm : msg.hasPwmUpdate = true →
    IsUnsigned 8 (memberNumber (commandSection root (ascii "set_pwm")) (ascii "ch"))
        msg.pwmUpdate.channel.toNat ∧
      IsUnsigned 16 (memberNumber (commandSection root (ascii "set_pwm")) (ascii "duty"))
        msg.pwmUpdate.dutyCycle.toNat
  pwmFreq : msg.hasPwmFrequency = true →
    IsUnsigned 16 (memberNumber (commandSection root (ascii "pwm_freq")) (ascii "freq"))
      msg.pwmFrequency.toNat
  writeGpio : msg.hasGpioWrite = true →
    IsUnsigned 16 (memberNumber (commandSection root (ascii "write_gpio")) (ascii "mask"))
        msg.gpioWrite.mask.toNat ∧
      IsUnsigned 16 (memberNumber (commandSection root (ascii "write_gpio")) (ascii "value"))
        msg.gpioWrite.value.toNat ∧
      (memberString (commandSection root (ascii "write_gpio")) (ascii "dev") = some (ascii "mcp0") ∨
        memberString (commandSection root (ascii "write_gpio")) (ascii "dev") =
          some (ascii "mcp1")) ∧
      (memberString (commandSection root (ascii "write_gpio")) (ascii "port") = some (ascii "A") ∨
        memberString (commandSection root (ascii "write_gpio")) (ascii "port") = some (ascii "B"))
  conversions : ∀ conversion ∈ commandConversions root,
    ∃ n, IsUnsigned conversion.1 conversion.2 n

section Convert

variable {target : CTarget} {object : Option Json} {name : Bytes} {n : Nat}

theorem CTarget.toUnsigned_eq {bits : Nat} {x : Float} (h : IsUnsigned bits x n) :
    target.toUnsigned bits x = n := by
  have hfits : (0 : Int) ≤ n ∧ (n : Int) < 2 ^ bits := ⟨by omega, by exact_mod_cast h.fits⟩
  simp only [CTarget.toUnsigned, h.value, if_pos hfits, Int.toNat_natCast]

/-- A member in range is stored as it is. -/
theorem jsonUint8_stored (h : MemberFits 8 object name) :
    IsUnsigned 8 (memberNumber object name) (jsonUint8 target object name).toNat := by
  obtain ⟨n, hn⟩ := h
  rw [jsonUint8, ← memberNumber, CTarget.toUnsigned_eq hn, UInt8.toNat_ofNat_of_lt' hn.fits]
  exact hn

theorem jsonUint16_stored (h : MemberFits 16 object name) :
    IsUnsigned 16 (memberNumber object name) (jsonUint16 target object name).toNat := by
  obtain ⟨n, hn⟩ := h
  rw [jsonUint16, ← memberNumber, CTarget.toUnsigned_eq hn, UInt16.toNat_ofNat_of_lt' hn.fits]
  exact hn

theorem jsonUint32_stored (h : MemberFits 32 object name) :
    IsUnsigned 32 (memberNumber object name) (jsonUint32 target object name).toNat := by
  obtain ⟨n, hn⟩ := h
  rw [jsonUint32, ← memberNumber, CTarget.toUnsigned_eq hn, UInt32.toNat_ofNat_of_lt' hn.fits]
  exact hn

end Convert

section Decode

variable {cjson : CJson} {target : CTarget} {payload : Bytes} {root : Json}

/-- What the decoder makes of every JSON value: the sections that are objects are flagged, and all
their members are taken. -/
structure Taken (target : CTarget) (root : Json) (msg : ProtoCommand) : Prop where
  ts : msg.timestampMs = jsonUint32 target (some root) (ascii "ts")
  seq : msg.sequenceId = jsonUint32 target (some root) (ascii "seq")
  hasPwmUpdate : msg.hasPwmUpdate = cJsonIsObject (commandSection root (ascii "set_pwm"))
  hasPwmFrequency : msg.hasPwmFrequency = cJsonIsObject (commandSection root (ascii "pwm_freq"))
  hasGpioWrite : msg.hasGpioWrite = cJsonIsObject (commandSection root (ascii "write_gpio"))
  pwmUpdate : msg.hasPwmUpdate = true →
    msg.pwmUpdate.channel = jsonUint8 target (commandSection root (ascii "set_pwm")) (ascii "ch") ∧
      msg.pwmUpdate.dutyCycle =
        jsonUint16 target (commandSection root (ascii "set_pwm")) (ascii "duty")
  pwmFrequency : msg.hasPwmFrequency = true →
    msg.pwmFrequency = jsonUint16 target (commandSection root (ascii "pwm_freq")) (ascii "freq")
  gpioWrite : msg.hasGpioWrite = true →
    msg.gpioWrite.mask =
        jsonUint16 target (commandSection root (ascii "write_gpio")) (ascii "mask") ∧
      msg.gpioWrite.value =
        jsonUint16 target (commandSection root (ascii "write_gpio")) (ascii "value")

/-- Every JSON value is accepted. -/
theorem decodeCommandJson_taken (hparse : cjson.parse payload = some root) :
    ∃ msg, decodeCommandJson cjson target payload = some msg ∧ Taken target root msg := by
  simp only [decodeCommandJson, hparse]
  refine ⟨_, rfl, ?_⟩
  cases hpwm : cJsonIsObject (commandSection root (ascii "set_pwm")) <;>
    cases hfreq : cJsonIsObject (commandSection root (ascii "pwm_freq")) <;>
    cases hgpio : cJsonIsObject (commandSection root (ascii "write_gpio")) <;>
    simp only [commandSection] at hpwm hfreq hgpio <;>
    constructor <;> simp [commandSection, hpwm, hfreq, hgpio]

/-- A well-formed command is stored as it stands. -/
theorem Taken.stored {msg : ProtoCommand} (h : Taken target root msg)
    (hgood : CommandWellFormed root) : CommandStored root msg where
  ts := by
    rw [h.ts]
    exact jsonUint32_stored hgood.ts
  seq := by
    rw [h.seq]
    exact jsonUint32_stored hgood.seq
  setPwm hflag := by
    obtain ⟨hch, hduty⟩ := hgood.setPwm (h.hasPwmUpdate.symm.trans hflag)
    obtain ⟨hchannel, hdutyCycle⟩ := h.pwmUpdate hflag
    rw [hchannel, hdutyCycle]
    exact ⟨jsonUint8_stored hch, jsonUint16_stored hduty⟩
  pwmFreq hflag := by
    rw [h.pwmFrequency hflag]
    exact jsonUint16_stored (hgood.pwmFreq (h.hasPwmFrequency.symm.trans hflag))
  writeGpio hflag := by
    obtain ⟨hmask, hvalue, hknown⟩ := hgood.writeGpio (h.hasGpioWrite.symm.trans hflag)
    obtain ⟨hstoredMask, hstoredValue⟩ := h.gpioWrite hflag
    rw [hstoredMask, hstoredValue]
    exact ⟨jsonUint16_stored hmask, jsonUint16_stored hvalue, hknown⟩
  conversions conversion hmem := by
    simp only [commandConversions, List.mem_append] at hmem
    rcases hmem with ((hmem | hmem) | hmem) | hmem
    · rcases List.mem_pair.mp hmem with rfl | rfl
      · exact hgood.ts
      · exact hgood.seq
    · split at hmem
      case isTrue hobject =>
        rcases List.mem_pair.mp hmem with rfl | rfl
        · exact (hgood.setPwm hobject).1
        · exact (hgood.setPwm hobject).2
      case isFalse => cases hmem
    · split at hmem
      case isTrue hobject =>
        rw [List.mem_singleton.mp hmem]
        exact hgood.pwmFreq hobject
      case isFalse => cases hmem
    · split at hmem
      case isTrue hobject =>
        rcases List.mem_pair.mp hmem with rfl | rfl
        · exact (hgood.writeGpio hobject).1
        · exact (hgood.writeGpio hobject).2.1
      case isFalse => cases hmem

/-- What is stored as it stands was well formed. -/
theorem Taken.wellFormed {msg : ProtoCommand} (h : Taken target root msg)
    (hstored : CommandStored root msg) : CommandWellFormed root where
  ts := ⟨_, hstored.ts⟩
  seq := ⟨_, hstored.seq⟩
  setPwm hobject := by
    obtain ⟨hch, hduty⟩ := hstored.setPwm (h.hasPwmUpdate.trans hobject)
    exact ⟨⟨_, hch⟩, ⟨_, hduty⟩⟩
  pwmFreq hobject := ⟨_, hstored.pwmFreq (h.hasPwmFrequency.trans hobject)⟩
  writeGpio hobject := by
    obtain ⟨hmask, hvalue, hknown⟩ := hstored.writeGpio (h.hasGpioWrite.trans hobject)
    exact ⟨⟨_, hmask⟩, ⟨_, hvalue⟩, hknown⟩

end Decode

/-- For every payload: what the JSON decoder accepts is a well-formed command, stored as it stands,
if and only if the CRC check or cJSON refuses the payload or it is a well-formed command. -/
theorem accepted_commands_wellFormed_iff {ι : Type} {codec : Codec ι} {isCbor : Bool}
    (hmode : (codec.configUseCbor && isCbor) = false) (fuel : Nat) (payload : Bytes)
    (expectedCrc32 : UInt32) :
    (∀ msg, protoDecodeCommand codec fuel payload isCbor expectedCrc32 = .ok msg →
      ∃ root, codec.cjson.parse payload = some root ∧ CommandStored root msg) ↔
    crcAccepts payload expectedCrc32 = false ∨ codec.cjson.parse payload = none ∨
      ∃ root, codec.cjson.parse payload = some root ∧ CommandWellFormed root := by
  constructor
  · intro haccepted
    cases hcrc : crcAccepts payload expectedCrc32 with
    | false => exact .inl rfl
    | true =>
        cases hparse : codec.cjson.parse payload with
        | none => exact .inr (.inl rfl)
        | some root =>
            obtain ⟨msg, hdecode, htaken⟩ :=
              @decodeCommandJson_taken codec.cjson codec.target payload root hparse
            obtain ⟨root', hroot, hstored⟩ := haccepted msg (by
              rw [protoDecodeCommand_json hmode hcrc, hdecode]
              rfl)
            rw [hparse] at hroot
            cases hroot
            exact .inr (.inr ⟨root, rfl, htaken.wellFormed hstored⟩)
  · intro hcondition msg hdecode
    have hcrc := crcAccepts_of_decodeCommand hdecode
    rw [protoDecodeCommand_json hmode hcrc] at hdecode
    rcases hcondition with hbad | hnone | ⟨root, hparse, hgood⟩
    · rw [hbad] at hcrc
      cases hcrc
    · simp [decodeCommandJson, hnone, Loop.check] at hdecode
    · obtain ⟨msg', hdecode', htaken⟩ :=
        @decodeCommandJson_taken codec.cjson codec.target payload root hparse
      rw [hdecode'] at hdecode
      cases hdecode
      exact ⟨root, hparse, htaken.stored hgood⟩

/-- The text of a command with all three sections is stored as it stands. -/
theorem three_sections_stored :
    ∃ root, (Codec.plain false).cjson.parse (Json.render (commandJson threeSections)) = some root ∧
      CommandStored root threeSections := by
  have hunsigned (bits n : Nat) (hint : isIntegral (ofNatural n) = true) (hn : n < 2 ^ 53)
      (hbits : n < 2 ^ bits) : IsUnsigned bits (ofNatural n) n :=
    ⟨hint, truncate_ofNatural hn, hbits⟩
  refine (@accepted_commands_wellFormed_iff _ (Codec.plain false) true rfl 0 _ 0).mpr
    (.inr (.inr ⟨commandJson threeSections, Json.parse_render _, ?_⟩)) threeSections
    (protoDecodeCommand_render threeSections_expressible rfl rfl)
  exact ⟨⟨_, hunsigned 32 0xFFFFFFFF (by decide +kernel) (by decide) (by decide)⟩,
    ⟨_, hunsigned 32 7 (by decide +kernel) (by decide) (by decide)⟩,
    fun _ => ⟨⟨_, hunsigned 8 255 (by decide +kernel) (by decide) (by decide)⟩,
      ⟨_, hunsigned 16 4095 (by decide +kernel) (by decide) (by decide)⟩⟩,
    fun _ => ⟨_, hunsigned 16 500 (by decide +kernel) (by decide) (by decide)⟩,
    fun _ => ⟨⟨_, hunsigned 16 0x80 (by decide +kernel) (by decide) (by decide)⟩,
      ⟨_, hunsigned 16 0x80 (by decide +kernel) (by decide) (by decide)⟩, .inr rfl, .inr rfl⟩⟩

/-- A command for channel 259. -/
def channel259 : Json :=
  .obj [(ascii "ts", natJson 1), (ascii "seq", natJson 1),
    (ascii "set_pwm", .obj [(ascii "ch", natJson 259), (ascii "duty", natJson 5)])]

/-- It is accepted, although no channel has that number. -/
theorem channel_259_accepted :
    ∃ msg, protoDecodeCommand (Codec.plain false) 0 (Json.render channel259) false 0 = .ok msg ∧
      ¬ ∃ root, (Codec.plain false).cjson.parse (Json.render channel259) = some root ∧
        CommandStored root msg := by
  have hparse : (Codec.plain false).cjson.parse (Json.render channel259) = some channel259 :=
    Json.parse_render _
  obtain ⟨msg, hdecode, htaken⟩ := @decodeCommandJson_taken _ (Codec.plain false).target _ _ hparse
  refine ⟨msg, ?_, ?_⟩
  · rw [protoDecodeCommand_json rfl rfl, hdecode]
    rfl
  · rintro ⟨root, hroot, hstored⟩
    rw [hparse] at hroot
    cases hroot
    have hflag : msg.hasPwmUpdate = true := htaken.hasPwmUpdate
    have hchannel := (hstored.setPwm hflag).1
    have hvalue : truncate (ofNatural 259) = some (msg.pwmUpdate.channel.toNat : Int) :=
      hchannel.value
    rw [truncate_ofNatural (by decide)] at hvalue
    have hlarge : 259 = msg.pwmUpdate.channel.toNat := by exact_mod_cast Option.some.inj hvalue
    have hsmall := hchannel.fits
    omega

end SensorHmi
