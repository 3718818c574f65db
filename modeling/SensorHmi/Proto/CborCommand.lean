import SensorHmi.Proto.CborReads
import SensorHmi.Proto.Codec

/-!
# Commands in CBOR

What `proto_decode_command` makes of an encoded command. After a section the decoder skips one
item too many, so a second section is met at its map and refused; inside `write_gpio` it does the
same after a text, so port and mask are not read.
-/

namespace SensorHmi

open Octets Cbor Loop

variable {ι : Type} {cbor : Tinycbor ι}

section Entries

variable {octets : Bytes} {rest : List Item}

theorem setPwmEntry_reads (value : UInt64) (hkey : Copyable octets 7) :
    Reads cbor (setPwmEntry cbor) (.text octets :: .uint value :: rest) rest fun msg =>
      if octets = ascii "ch" then
        { msg with pwmUpdate := { msg.pwmUpdate with channel := value.toUInt8 } }
      else if octets = ascii "duty" then
        { msg with pwmUpdate := { msg.pwmUpdate with dutyCycle := value.toUInt16 } }
      else msg := by
  intro it indefinite levels h
  obtain ⟨next, hcopy, hnext⟩ := copyChecked_at h hkey
  refine ⟨advanceIgnoring cbor next, ?_, advanceIgnoring_at hnext⟩
  rw [setPwmEntry, hcopy, ← uint64OrZero_at hnext]
  rfl

theorem pwmFreqEntry_reads (value : UInt64) (hkey : Copyable octets 7) :
    Reads cbor (pwmFreqEntry cbor) (.text octets :: .uint value :: rest) rest fun msg =>
      if octets = ascii "freq" then
        { msg with pwmFrequency := value.toUInt16, hasPwmFrequency := true }
      else msg := by
  intro it indefinite levels h
  obtain ⟨next, hcopy, hnext⟩ := copyIgnoring_at h hkey
  refine ⟨advanceIgnoring cbor next, ?_, advanceIgnoring_at hnext⟩
  rw [pwmFreqEntry, hcopy, ← uint64OrZero_at hnext]

/-- Behind the device the decoder skips an item more: the key `port`. -/
theorem writeGpioEntry_dev {dev : Bytes} (hdev : Copyable dev 7) :
    Reads cbor (writeGpioEntry cbor) (textStringz "dev" :: .text dev :: rest) rest.tail fun msg =>
      { msg with gpioWrite :=
          { msg.gpioWrite with deviceIndex := if dev = ascii "mcp1" then 1 else 0 } } := by
  intro it indefinite levels h
  have hkey : Copyable (ascii "dev") 11 := by simp [Copyable, ascii]
  obtain ⟨value, hcopy, hvalue⟩ := copyIgnoring_at h hkey
  obtain ⟨next, htext, hnext⟩ := copyIgnoring_at hvalue hdev
  refine ⟨advanceIgnoring cbor next, ?_, advanceIgnoring_at hnext⟩
  rw [writeGpioEntry, hcopy]
  simp only [if_true, htext]

/-- A text that is no key of the section is stepped over with the item behind it. -/
theorem writeGpioEntry_unknown {item : Item} (hkey : Copyable octets 11)
    (hdev : octets ≠ ascii "dev") (hport : octets ≠ ascii "port") (hmask : octets ≠ ascii "mask")
    (hvalue : octets ≠ ascii "value") :
    Reads cbor (writeGpioEntry cbor) (.text octets :: item :: rest) rest id := by
  intro it indefinite levels h
  obtain ⟨next, hcopy, hnext⟩ := copyIgnoring_at h hkey
  refine ⟨advanceIgnoring cbor next, ?_, advanceIgnoring_at hnext⟩
  rw [writeGpioEntry, hcopy]
  simp only [if_neg hdev, if_neg hport, if_neg hmask, if_neg hvalue]
  rfl

/-- A number where a key should be is stepped over alone. -/
theorem writeGpioEntry_number (value : UInt64) :
    Reads cbor (writeGpioEntry cbor) (.uint value :: rest) rest id := by
  intro it indefinite levels h
  refine ⟨advanceIgnoring cbor it, ?_, advanceIgnoring_at h⟩
  rw [writeGpioEntry, copyIgnoring_other h fun octets hitem => by cases hitem]
  rfl

theorem writeGpioEntry_value (value : UInt64) :
    Reads cbor (writeGpioEntry cbor) (textStringz "value" :: .uint value :: rest) rest fun msg =>
      { msg with gpioWrite := { msg.gpioWrite with value := value.toUInt16 } } := by
  intro it indefinite levels h
  have hkey : Copyable (ascii "value") 11 := by simp [Copyable, ascii]
  obtain ⟨next, hcopy, hnext⟩ := copyIgnoring_at h hkey
  refine ⟨advanceIgnoring cbor next, ?_, advanceIgnoring_at hnext⟩
  rw [writeGpioEntry, hcopy, ← uint64OrZero_at hnext]
  rfl

end Entries

section Sections

variable (msg : ProtoCommand)

/-- The loop over a `set_pwm` map reads it. -/
theorem setPwm_reads :
    LoopReads cbor (setPwmEntry cbor) 2
      [textStringz "ch", .uint msg.pwmUpdate.channel.toUInt64,
        textStringz "duty", .uint msg.pwmUpdate.dutyCycle.toUInt64]
      fun read => { read with pwmUpdate := msg.pwmUpdate } := by
  have hch : Copyable (ascii "ch") 7 := by simp [Copyable, ascii]
  have hduty : Copyable (ascii "duty") 7 := by simp [Copyable, ascii]
  refine ((LoopReads.nil.cons (setPwmEntry_reads _ hduty)).cons (setPwmEntry_reads _ hch)).congr ?_
  intro read
  have hdiffer : ascii "duty" ≠ ascii "ch" := by simp [ascii]
  simp only [Function.comp, if_true, if_neg hdiffer, id, UInt16.toUInt16_toUInt64,
    UInt8.toUInt8_toUInt64]

/-- The loop over a `pwm_freq` map reads it. -/
theorem pwmFreq_reads :
    LoopReads cbor (pwmFreqEntry cbor) 1 [textStringz "freq", .uint msg.pwmFrequency.toUInt64]
      fun read => { read with pwmFrequency := msg.pwmFrequency, hasPwmFrequency := true } := by
  have hfreq : Copyable (ascii "freq") 7 := by simp [Copyable, ascii]
  refine (LoopReads.nil.cons (pwmFreqEntry_reads _ hfreq)).congr ?_
  intro read
  simp only [Function.comp, if_true, id, UInt16.toUInt16_toUInt64]

/-- The loop over a `write_gpio` map reads the device and the value: it passes over the key
`port`, takes the port for a key and `mask` for the value of it, and the mask for a key again. -/
theorem writeGpio_reads (hdevice : msg.gpioWrite.deviceIndex = 0 ∨ msg.gpioWrite.deviceIndex = 1) :
    LoopReads cbor (writeGpioEntry cbor) 4
      [textStringz "dev",
        if msg.gpioWrite.deviceIndex = 0 then textStringz "mcp0" else textStringz "mcp1",
        textStringz "port", if msg.gpioWrite.port = 0 then textStringz "A" else textStringz "B",
        textStringz "mask", .uint msg.gpioWrite.mask.toUInt64,
        textStringz "value", .uint msg.gpioWrite.value.toUInt64]
      fun read => { read with gpioWrite :=
        { read.gpioWrite with
          deviceIndex := msg.gpioWrite.deviceIndex, value := msg.gpioWrite.value } } := by
  have hvalue := (@LoopReads.nil _ cbor _ _).cons
    (writeGpioEntry_value msg.gpioWrite.value.toUInt64)
  have hmask := hvalue.cons (writeGpioEntry_number msg.gpioWrite.mask.toUInt64)
  have hport : ∀ port ∈ ["A", "B"], Copyable (ascii port) 11 ∧ ascii port ≠ ascii "dev" ∧
      ascii port ≠ ascii "port" ∧ ascii port ≠ ascii "mask" ∧ ascii port ≠ ascii "value" := by
    simp [Copyable, ascii]
  have hskipped : ∀ port ∈ ["A", "B"], LoopReads cbor (writeGpioEntry cbor) 3
      [textStringz port, textStringz "mask", .uint msg.gpioWrite.mask.toUInt64,
        textStringz "value", .uint msg.gpioWrite.value.toUInt64]
      fun read => { read with gpioWrite :=
        { read.gpioWrite with value := msg.gpioWrite.value } } := by
    intro port hmem
    obtain ⟨hkey, hdev, hport, hno, hvalue⟩ := hport port hmem
    refine (hmask.cons (writeGpioEntry_unknown hkey hdev hport hno hvalue)).congr fun read => ?_
    simp only [Function.comp, id, UInt16.toUInt16_toUInt64]
  have hdev : ∀ dev ∈ ["mcp0", "mcp1"], Copyable (ascii dev) 7 := by simp [Copyable, ascii]
  have hdiffer : ascii "mcp0" ≠ ascii "mcp1" := by simp [ascii]
  have hrest : LoopReads cbor (writeGpioEntry cbor) 3
      [if msg.gpioWrite.port = 0 then textStringz "A" else textStringz "B",
        textStringz "mask", .uint msg.gpioWrite.mask.toUInt64,
        textStringz "value", .uint msg.gpioWrite.value.toUInt64]
      fun read => { read with gpioWrite :=
        { read.gpioWrite with value := msg.gpioWrite.value } } := by
    split_ifs
    · exact hskipped "A" (by simp)
    · exact hskipped "B" (by simp)
  rcases hdevice with hzero | hone
  · rw [hzero, if_pos rfl]
    refine (hrest.cons (writeGpioEntry_dev (hdev "mcp0" (by simp)))).congr fun read => ?_
    simp only [Function.comp, if_neg hdiffer]
  · rw [hone, if_neg (by decide)]
    refine (hrest.cons (writeGpioEntry_dev (hdev "mcp1" (by simp)))).congr fun read => ?_
    simp only [Function.comp, if_true]

end Sections

section Command

variable {fuel : Nat} {rest : List Item}

/-- The key of a value no decoder stores. -/
theorem commandEntry_other {key : String} {item : Item} (hkey : Copyable (ascii key) 15)
    (hother : ascii key ∉ ["ts", "seq", "set_pwm", "pwm_freq", "write_gpio"].map ascii) :
    Reads cbor (commandEntry cbor fuel) (textStringz key :: item :: rest) rest id := by
  intro it indefinite levels h
  obtain ⟨next, hcopy, hnext⟩ := copyChecked_at h hkey
  refine ⟨advanceIgnoring cbor next, ?_, advanceIgnoring_at hnext⟩
  simp only [List.map_cons, List.map_nil, List.mem_cons, List.not_mem_nil, or_false,
    not_or] at hother
  obtain ⟨hts, hseq, hset, hfreq, hgpio⟩ := hother
  rw [commandEntry, hcopy, ok_bind]
  dsimp only
  rw [if_neg hts, if_neg hseq, if_neg hset, if_neg hfreq, if_neg hgpio]
  rfl

/-- A section: the loop over its map, and then the item behind it is skipped unread. -/
theorem commandEntry_set_pwm (hfuel : 2 ≤ fuel) (msg : ProtoCommand) :
    Reads cbor (commandEntry cbor fuel) (setPwmItems msg ++ rest) rest.tail fun read =>
      { read with pwmUpdate := msg.pwmUpdate, hasPwmUpdate := true } := by
  intro it indefinite levels h
  have hkey : Copyable (ascii "set_pwm") 15 := by simp [Copyable, ascii]
  have hts : ascii "set_pwm" ≠ ascii "ts" := by simp [ascii]
  have hseq : ascii "set_pwm" ≠ ascii "seq" := by simp [ascii]
  obtain ⟨next, hcopy, hnext⟩ := copyChecked_at h hkey
  obtain ⟨inner, henter, hinner⟩ := cbor.at_enterMap hnext
  obtain ⟨final, hloop, hfinal⟩ := setPwm_reads msg inner _ _ hinner fuel hfuel
  refine ⟨advanceIgnoring cbor (leaveIgnoring cbor next final), ?_,
    advanceIgnoring_at (leaveIgnoring_at hnext hfinal)⟩
  rw [commandEntry, hcopy, ok_bind]
  dsimp only
  rw [if_neg hts, if_neg hseq, if_pos rfl, henter]
  show (whileNotAtEnd cbor (setPwmEntry cbor) fuel inner >>= _) = _
  rw [whileNotAtEnd, hloop]
  rfl

theorem commandEntry_pwm_freq (hfuel : 1 ≤ fuel) (msg : ProtoCommand) :
    Reads cbor (commandEntry cbor fuel) (pwmFreqItems msg ++ rest) rest.tail fun read =>
      { read with pwmFrequency := msg.pwmFrequency, hasPwmFrequency := true } := by
  intro it indefinite levels h
  have hkey : Copyable (ascii "pwm_freq") 15 := by simp [Copyable, ascii]
  have hts : ascii "pwm_freq" ≠ ascii "ts" := by simp [ascii]
  have hseq : ascii "pwm_freq" ≠ ascii "seq" := by simp [ascii]
  have hset : ascii "pwm_freq" ≠ ascii "set_pwm" := by simp [ascii]
  obtain ⟨next, hcopy, hnext⟩ := copyChecked_at h hkey
  obtain ⟨inner, henter, hinner⟩ := cbor.at_enterMap hnext
  obtain ⟨final, hloop, hfinal⟩ := pwmFreq_reads msg inner _ _ hinner fuel hfuel
  refine ⟨advanceIgnoring cbor (leaveIgnoring cbor next final), ?_,
    advanceIgnoring_at (leaveIgnoring_at hnext hfinal)⟩
  rw [commandEntry, hcopy, ok_bind]
  dsimp only
  rw [if_neg hts, if_neg hseq, if_neg hset, if_pos rfl, henter]
  show (whileNotAtEnd cbor (pwmFreqEntry cbor) fuel inner >>= _) = _
  rw [whileNotAtEnd, hloop]
  rfl

theorem commandEntry_write_gpio (hfuel : 4 ≤ fuel) (msg : ProtoCommand)
    (hdevice : msg.gpioWrite.deviceIndex = 0 ∨ msg.gpioWrite.deviceIndex = 1) :
    Reads cbor (commandEntry cbor fuel) (writeGpioItems msg ++ rest) rest.tail fun read =>
      { read with
        gpioWrite :=
          { read.gpioWrite with
            deviceIndex := msg.gpioWrite.deviceIndex, value := msg.gpioWrite.value }
        hasGpioWrite := true } := by
  intro it indefinite levels h
  have hkey : Copyable (ascii "write_gpio") 15 := by simp [Copyable, ascii]
  have hts : ascii "write_gpio" ≠ ascii "ts" := by simp [ascii]
  have hseq : ascii "write_gpio" ≠ ascii "seq" := by simp [ascii]
  have hset : ascii "write_gpio" ≠ ascii "set_pwm" := by simp [ascii]
  have hfreq : ascii "write_gpio" ≠ ascii "pwm_freq" := by simp [ascii]
  obtain ⟨next, hcopy, hnext⟩ := copyChecked_at h hkey
  obtain ⟨inner, henter, hinner⟩ := cbor.at_enterMap hnext
  obtain ⟨final, hloop, hfinal⟩ := writeGpio_reads msg hdevice inner _ _ hinner fuel hfuel
  refine ⟨advanceIgnoring cbor (leaveIgnoring cbor next final), ?_,
    advanceIgnoring_at (leaveIgnoring_at hnext hfinal)⟩
  rw [commandEntry, hcopy, ok_bind]
  dsimp only
  rw [if_neg hts, if_neg hseq, if_neg hset, if_neg hfreq, if_pos rfl, henter]
  show (whileNotAtEnd cbor (writeGpioEntry cbor) fuel inner >>= _) = _
  rw [whileNotAtEnd, hloop]
  rfl

/-- An entry that starts with a map is refused. -/
theorem commandEntry_refuses (inside : List Item) :
    Refuses cbor (commandEntry cbor fuel) (.map false inside :: rest) := by
  intro it indefinite levels h
  rw [commandEntry, copyChecked_other h fun octets hitem => by cases hitem]
  rfl

theorem commandEntry_ts (value : UInt64) :
    Reads cbor (commandEntry cbor fuel) (textStringz "ts" :: .uint value :: rest) rest fun msg =>
      { msg with timestampMs := value.toUInt32 } := by
  intro it indefinite levels h
  have hkey : Copyable (ascii "ts") 15 := by simp [Copyable, ascii]
  obtain ⟨next, hcopy, hnext⟩ := copyChecked_at h hkey
  refine ⟨advanceIgnoring cbor next, ?_, advanceIgnoring_at hnext⟩
  rw [commandEntry, hcopy, ok_bind]
  dsimp only
  rw [if_pos rfl, cbor.at_getUint64 hnext]
  rfl

theorem commandEntry_seq (value : UInt64) :
    Reads cbor (commandEntry cbor fuel) (textStringz "seq" :: .uint value :: rest) rest fun msg =>
      { msg with sequenceId := value.toUInt32 } := by
  intro it indefinite levels h
  have hkey : Copyable (ascii "seq") 15 := by simp [Copyable, ascii]
  have hts : ascii "seq" ≠ ascii "ts" := by simp [ascii]
  obtain ⟨next, hcopy, hnext⟩ := copyChecked_at h hkey
  refine ⟨advanceIgnoring cbor next, ?_, advanceIgnoring_at hnext⟩
  rw [commandEntry, hcopy, ok_bind]
  dsimp only
  rw [if_neg hts, if_pos rfl, cbor.at_getUint64 hnext]
  rfl

/-- The entries every command starts with, and the loop on the sections. -/
theorem header_reads {msg : ProtoCommand} {turns : Nat} {sections : List Item}
    {later : ProtoCommand → ProtoCommand}
    (h : LoopReads cbor (commandEntry cbor fuel) turns sections later) :
    LoopReads cbor (commandEntry cbor fuel) (turns + 4)
      ([textStringz "v", .uint 1, textStringz "type", textStringz "cmd",
        textStringz "ts", .uint msg.timestampMs.toUInt64,
        textStringz "seq", .uint msg.sequenceId.toUInt64] ++ sections)
      fun read => later { read with timestampMs := msg.timestampMs, sequenceId :=
        msg.sequenceId } := by
  have hseq := h.cons (commandEntry_seq msg.sequenceId.toUInt64)
  have hts := hseq.cons (commandEntry_ts msg.timestampMs.toUInt64)
  have htype := hts.cons (@commandEntry_other _ _ _ _ "type" (textStringz "cmd")
    (by simp [Copyable, ascii]) (by simp [ascii]))
  refine (htype.cons (@commandEntry_other _ _ _ _ "v" (.uint 1)
    (by simp [Copyable, ascii]) (by simp [ascii]))).congr fun read => ?_
  simp only [Function.comp, id, UInt32.toUInt32_toUInt64]

theorem header_refuses (msg : ProtoCommand) {turns : Nat} {sections : List Item}
    (h : LoopRefuses cbor (commandEntry cbor fuel) turns sections) :
    LoopRefuses cbor (commandEntry cbor fuel) (turns + 4)
      ([textStringz "v", .uint 1, textStringz "type", textStringz "cmd",
        textStringz "ts", .uint msg.timestampMs.toUInt64,
        textStringz "seq", .uint msg.sequenceId.toUInt64] ++ sections) := by
  have hseq := h.cons (commandEntry_seq msg.sequenceId.toUInt64)
  have hts := hseq.cons (commandEntry_ts msg.timestampMs.toUInt64)
  have htype := hts.cons (@commandEntry_other _ _ _ _ "type" (textStringz "cmd")
    (by simp [Copyable, ascii]) (by simp [ascii]))
  exact htype.cons (@commandEntry_other _ _ _ _ "v" (.uint 1)
    (by simp [Copyable, ascii]) (by simp [ascii]))

end Command

section Whole

variable (msg : ProtoCommand)

theorem fits_commandItem : Fits (commandItem msg) := by
  have htext : ∀ text : String, Fits (textStringz text) ↔ text.toList.length < 2 ^ 64 := by
    intro text
    rw [textStringz, Fits, ascii, List.length_map]
  unfold commandItem setPwmItems pwmFreqItems writeGpioItems
  split_ifs <;> simp [Fits, AllFit, htext]

/-- The sections of an encoded command. -/
def sectionItems : List Item :=
  (if msg.hasPwmUpdate then setPwmItems msg else []) ++
    ((if msg.hasPwmFrequency then pwmFreqItems msg else []) ++
      if msg.hasGpioWrite then writeGpioItems msg else [])

/-- The number of sections a command has. -/
def ProtoCommand.sections : Nat :=
  [msg.hasPwmUpdate, msg.hasPwmFrequency, msg.hasGpioWrite].count true

variable {msg} {fuel : Nat}

/-- The only section of a command is read, a `write_gpio` in part. -/
theorem section_reads (h : msg.Expressible) (hfuel : 4 ≤ fuel) (hone : msg.sections ≤ 1) :
    ∃ update, LoopReads cbor (commandEntry cbor fuel) 1 (sectionItems msg) update ∧
      update { timestampMs := msg.timestampMs, sequenceId := msg.sequenceId } =
        { msg with gpioWrite := { msg.gpioWrite with port := 0, mask := 0 } } := by
  have hset := @commandEntry_set_pwm _ cbor fuel [] (by omega) msg
  have hfrequency := @commandEntry_pwm_freq _ cbor fuel [] (by omega) msg
  have hwrite := @commandEntry_write_gpio _ cbor fuel [] hfuel msg h.deviceIndex
  obtain ⟨-, -, hnoPwm, hnoFreq, hnoGpio⟩ := h
  unfold ProtoCommand.sections at hone
  unfold sectionItems
  cases hpwm : msg.hasPwmUpdate with
  | true =>
      have hothers : msg.hasPwmFrequency = false ∧ msg.hasGpioWrite = false := by
        revert hone
        cases msg.hasPwmFrequency <;> cases msg.hasGpioWrite <;> simp [hpwm]
      rw [hothers.1, hothers.2]
      refine ⟨_, LoopReads.nil.cons hset, ?_⟩
      cases msg
      simp_all
  | false =>
      cases hfreq : msg.hasPwmFrequency with
      | true =>
          have hother : msg.hasGpioWrite = false := by
            revert hone
            cases msg.hasGpioWrite <;> simp [hpwm, hfreq]
          rw [hother]
          refine ⟨_, LoopReads.nil.cons hfrequency, ?_⟩
          cases msg
          simp_all
      | false =>
          cases hgpio : msg.hasGpioWrite with
          | true =>
              refine ⟨_, LoopReads.nil.cons hwrite, ?_⟩
              cases msg
              simp_all
          | false =>
              -- the loop on no sections does not turn
              have hnone : LoopReads cbor (commandEntry cbor fuel) 1 [] id :=
                fun it indefinite levels hat fuel _ =>
                  LoopReads.nil it indefinite levels hat fuel (Nat.zero_le _)
              refine ⟨_, hnone, ?_⟩
              cases msg
              simp_all

/-- A second section is refused. -/
theorem sections_refuses (hfuel : 4 ≤ fuel) (hmore : ¬ msg.sections ≤ 1) :
    LoopRefuses cbor (commandEntry cbor fuel) 2 (sectionItems msg) := by
  have hset := fun rest => @commandEntry_set_pwm _ cbor fuel rest (by omega) msg
  have hfrequency := fun rest => @commandEntry_pwm_freq _ cbor fuel rest (by omega) msg
  have hmap := fun inside rest => LoopRefuses.here (@commandEntry_refuses _ cbor fuel rest inside)
  unfold ProtoCommand.sections at hmore
  unfold sectionItems
  cases hpwm : msg.hasPwmUpdate with
  | true =>
      cases hfreq : msg.hasPwmFrequency with
      | true => exact (hmap _ _).cons (hset (pwmFreqItems msg ++ _))
      | false =>
          cases hgpio : msg.hasGpioWrite with
          | true => exact (hmap _ _).cons (hset (writeGpioItems msg))
          | false =>
              rw [hpwm, hfreq, hgpio] at hmore
              exact absurd (by decide) hmore
  | false =>
      cases hfreq : msg.hasPwmFrequency with
      | true =>
          cases hgpio : msg.hasGpioWrite with
          | true => exact (hmap _ _).cons (hfrequency (writeGpioItems msg))
          | false =>
              rw [hpwm, hfreq, hgpio] at hmore
              exact absurd (by decide) hmore
      | false =>
          rw [hpwm, hfreq] at hmore
          refine absurd ?_ hmore
          cases msg.hasGpioWrite <;> decide

/-- What an encoded command is decoded to: at most one section is understood, and of
`write_gpio` only device and value. -/
theorem decodeCommandCbor_commandItem (h : msg.Expressible) (hfuel : 6 ≤ fuel) :
    decodeCommandCbor cbor fuel (encode (commandItem msg)) =
      if msg.sections ≤ 1 then
        .ok { msg with gpioWrite := { msg.gpioWrite with port := 0, mask := 0 } }
      else .error .rejected := by
  have hfour : 4 ≤ fuel := by omega
  obtain ⟨root, hinit, hroot⟩ := cbor.at_init (fits_commandItem msg)
  obtain ⟨map, henter, hmap⟩ := cbor.at_enterMap hroot
  rw [List.append_assoc, List.append_assoc] at hmap
  rw [decodeCommandCbor, hinit]
  show (if cbor.isMap root then _ else _) = _
  rw [if_pos (cbor.at_isMap hroot), henter]
  show (whileNotAtEnd cbor (commandEntry cbor fuel) fuel map >>= _) = _
  by_cases hsections : msg.sections ≤ 1
  · obtain ⟨update, hreads, hupdate⟩ := @section_reads _ cbor _ _ h hfour hsections
    obtain ⟨final, hloop, -⟩ := header_reads hreads map _ _ hmap fuel (by omega)
    rw [whileNotAtEnd, hloop, if_pos hsections, ← hupdate]
    rfl
  · have hrefuses := @sections_refuses _ cbor _ _ hfour hsections
    rw [whileNotAtEnd, header_refuses msg hrefuses map _ _ hmap fuel (by omega),
      if_neg hsections]
    rfl

end Whole

section RoundTrip

variable (codec : Codec ι)

theorem length_commandItem (msg : ProtoCommand) :
    (encode (commandItem msg)).length ≤ protoMaxCommandSize := by
  refine (length_encode_le _).trans ?_
  have hdev : ∀ text ∈ ["mcp0", "mcp1", "A", "B"], bound (textStringz text) ≤ 13 := by
    decide +kernel
  have hmcp0 := hdev "mcp0" (by simp)
  have hmcp1 := hdev "mcp1" (by simp)
  have hportA := hdev "A" (by simp)
  have hportB := hdev "B" (by simp)
  unfold commandItem setPwmItems pwmFreqItems writeGpioItems protoMaxCommandSize
  split_ifs <;> simp [bound, boundAll, bound_textStringz]

/-- Encoded in one of the formats into a buffer of this size and decoded with its own CRC, the
command comes back. -/
def ProtoCommand.RoundTrips (msg : ProtoCommand) (useCbor : Bool) (bufferLen : Nat) : Prop :=
  ∃ payload crc32,
    protoEncodeCommandInto codec msg useCbor bufferLen = some (payload, crc32) ∧
      ∃ enough, ∀ fuel, enough ≤ fuel →
        protoDecodeCommand codec fuel payload useCbor crc32 = .ok msg

variable {codec} {msg : ProtoCommand} {bufferLen : Nat}

theorem roundTrips_json (h : msg.Expressible) (hbuffer : protoMaxCommandSize ≤ bufferLen) :
    msg.RoundTrips codec false bufferLen := by
  have hmode : (codec.configUseCbor && false) = false := Bool.and_false _
  refine ⟨Json.render (commandJson msg), protoCrc32 (Json.render (commandJson msg)), ?_, 0, ?_⟩
  · rw [protoEncodeCommandInto, hmode]
    exact jsonInto_eq_some_iff.mpr
      ⟨(length_commandTexts msg).trans_le hbuffer, (commandTexts_flatten msg).symm, rfl⟩
  · intro fuel _
    exact protoDecodeCommand_render h hmode (crcAccepts_self _)

theorem roundTrips_cbor_iff (huse : codec.configUseCbor = true) (h : msg.Expressible)
    (hbuffer : protoMaxCommandSize ≤ bufferLen) :
    msg.RoundTrips codec true bufferLen ↔
      msg.sections ≤ 1 ∧ msg.gpioWrite.port = 0 ∧ msg.gpioWrite.mask = 0 := by
  have hlength := length_commandItem msg
  have hsize : (512 : Nat) = protoMaxCommandSize := rfl
  have hencode : protoEncodeCommandInto codec msg true bufferLen =
      some (encode (commandItem msg), protoCrc32 (encode (commandItem msg))) := by
    rw [protoEncodeCommandInto, huse]
    show cborInto (commandItem msg) bufferLen = _
    rw [cborInto, if_neg (by omega)]
  have hdecode : ∀ fuel, 6 ≤ fuel → protoDecodeCommand codec fuel (encode (commandItem msg)) true
      (protoCrc32 (encode (commandItem msg))) =
        if msg.sections ≤ 1 then
          .ok { msg with gpioWrite := { msg.gpioWrite with port := 0, mask := 0 } }
        else .error .rejected := by
    intro fuel hfuel
    rw [protoDecodeCommand, crcAccepts_self, huse]
    exact decodeCommandCbor_commandItem h hfuel
  constructor
  · rintro ⟨payload, crc32, hpayload, enough, hback⟩
    rw [hencode] at hpayload
    cases hpayload
    have hmsg := hback (max enough 6) (le_max_left _ _)
    rw [hdecode _ (le_max_right _ _)] at hmsg
    split_ifs at hmsg with hsections
    have hgpio := congrArg ProtoCommand.gpioWrite (Except.ok.inj hmsg)
    exact ⟨hsections, (congrArg ProtoGpioWrite.port hgpio).symm,
      (congrArg ProtoGpioWrite.mask hgpio).symm⟩
  · rintro ⟨hsections, hport, hmask⟩
    refine ⟨_, _, hencode, 6, fun fuel hfuel => ?_⟩
    rw [hdecode fuel hfuel, if_pos hsections, ← hport, ← hmask]

/-- A command is the same after either format if and only if it has at most one section and that
writes neither port B nor any bit of the mask. -/
theorem command_formats_agree_iff (huse : codec.configUseCbor = true) (h : msg.Expressible)
    (hbuffer : protoMaxCommandSize ≤ bufferLen) :
    (msg.RoundTrips codec true bufferLen ∧ msg.RoundTrips codec false bufferLen) ↔
      msg.sections ≤ 1 ∧ msg.gpioWrite.port = 0 ∧ msg.gpioWrite.mask = 0 := by
  rw [roundTrips_cbor_iff huse h hbuffer]
  exact and_iff_left (roundTrips_json h hbuffer)

/-- The command that sets the duty of channel 3. -/
def dutyCommand : ProtoCommand :=
  { sequenceId := 9, hasPwmUpdate := true, pwmUpdate := { channel := 3, dutyCycle := 2048 } }

/-- It comes back from both formats. -/
theorem command_formats_agree_duty :
    dutyCommand.RoundTrips (Codec.plain true) true protoMaxCommandSize ∧
      dutyCommand.RoundTrips (Codec.plain true) false protoMaxCommandSize :=
  (command_formats_agree_iff rfl
    { deviceIndex := Or.inl rfl
      port := Or.inl rfl
      pwmUpdate := fun h => absurd h (by decide)
      pwmFrequency := fun _ => rfl
      gpioWrite := fun _ => rfl } le_rfl).mpr ⟨by decide, rfl, rfl⟩

/-- The command that sets pin 7 of port B of the first expander. -/
def pinCommand : ProtoCommand :=
  { sequenceId := 1, hasGpioWrite := true
    gpioWrite := { deviceIndex := 0, port := 1, mask := 0x80, value := 0x80 } }

theorem pinCommand_expressible : pinCommand.Expressible where
  deviceIndex := Or.inl rfl
  port := Or.inr rfl
  pwmUpdate _ := rfl
  pwmFrequency _ := rfl
  gpioWrite h := absurd h (by decide)

/-- It does not come back from CBOR. -/
theorem not_all_commands_agree :
    pinCommand.Expressible ∧
      ¬ pinCommand.RoundTrips (Codec.plain true) true protoMaxCommandSize := by
  refine ⟨pinCommand_expressible, ?_⟩
  rw [roundTrips_cbor_iff rfl pinCommand_expressible le_rfl]
  decide

end RoundTrip

end SensorHmi
