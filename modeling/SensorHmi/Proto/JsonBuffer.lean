import SensorHmi.Lib.Printed
import SensorHmi.Proto.JsonEncode

/-!
# The buffer of the JSON encoders

What `json_append` and the two JSON encoders of `common/proto/messages.c` do to the memory behind
`buffer` and to `*buffer_len` and `*crc32`, also where they fail. The encoders are written as the
loops of the source. `Appends` says what a writer stores of a text in which room; it holds of one
append and is kept by sequence and loop, and so holds of an encoder and the text of the message.
-/

namespace SensorHmi

open Octets Numeral Printed

/-- `cursor` as an offset from `buffer`, `remaining`, and the memory from `buffer` on. -/
structure JsonSink where
  memory : Nat → UInt8
  cursor : Nat
  remaining : Nat

/-- An encoder between its first and last append. Where it fails it leaves the memory as it is. -/
abbrev JsonWriter := OptionT (StateM JsonSink) Unit

/-- `json_append` of the text its format makes: `vsnprintf` stores what fits of it. -/
def jsonAppendTo (text : Bytes) : JsonWriter := OptionT.mk fun sink =>
  if sink.remaining = 0 then (none, sink)
  else
    let memory := store sink.memory sink.cursor (clipped 0 sink.remaining text)
    if sink.remaining ≤ text.length then (none, { sink with memory := memory })
    else (some (), ⟨memory, sink.cursor + text.length, sink.remaining - text.length⟩)

/-- `i > 0 ? "," : ""` -/
def comma (i : Nat) : Bytes :=
  if 0 < i then ascii "," else []

/-- A loop that appends one text for each entry. -/
def appendEach {α : Type} (entries : List α) (text : α → Bytes) : JsonWriter :=
  entries.zipIdx.forM fun (entry, i) => jsonAppendTo (comma i ++ text entry)

/-- The append of a section a command may have. -/
def appendIf (present : Bool) (text : Bytes) : JsonWriter :=
  if present then jsonAppendTo text else pure ()

/-- The appends of `encode_command_json_into`. -/
def encodeCommandJson (msg : ProtoCommand) : JsonWriter := do
  jsonAppendTo (commandHeadText msg)
  appendIf msg.hasPwmUpdate (setPwmText msg)
  appendIf msg.hasPwmFrequency (pwmFreqText msg)
  appendIf msg.hasGpioWrite (writeGpioText msg)
  jsonAppendTo (ascii "\x7d")

/-- The appends of `encode_sensor_update_json_into`. -/
def encodeSensorUpdateJson (msg : ProtoSensorUpdate) : JsonWriter := do
  jsonAppendTo (ascii "\x7b\"v\":1,\"type\":\"sensor_update\",\"ts\":" ++
    natText msg.timestampMs.toNat ++ ascii ",\"seq\":" ++ natText msg.sequenceId.toNat ++
    ascii ",\"sht20\":[")
  appendEach msg.sht20Entries sht20Text
  jsonAppendTo (ascii "],\"ds18b20\":[")
  appendEach msg.ds18b20Entries ds18b20Text
  jsonAppendTo (ascii "],\"gpio\":\x7b\"mcp0\":\x7b\"A\":" ++ natText msg.mcp0.portA.toNat ++
    ascii ",\"B\":" ++ natText msg.mcp0.portB.toNat ++
    ascii "\x7d,\"mcp1\":\x7b\"A\":" ++ natText msg.mcp1.portA.toNat ++
    ascii ",\"B\":" ++ natText msg.mcp1.portB.toNat ++
    ascii "\x7d\x7d,\"pwm\":\x7b\"pca9685\":\x7b\"freq\":" ++ natText msg.pwm.frequencyHz.toNat ++
    ascii ",\"duty\":[")
  appendEach msg.pwm.dutyCycle.toList fun duty => natText duty.toNat
  jsonAppendTo (ascii "]\x7d\x7d\x7d")

/-- What an encoder is given and changes: the memory from `buffer` on, `*buffer_len`, and
`*crc32` unless the pointer is NULL. -/
structure EncoderOutputs where
  memory : Nat → UInt8
  bufferLen : Nat
  crc32 : Option UInt32

/-- What both encoders do around their appends. -/
def encodeJsonInto (appends : JsonWriter) (out : EncoderOutputs) : Bool × EncoderOutputs :=
  if out.bufferLen = 0 then (false, out)
  else match appends.run ⟨out.memory, 0, out.bufferLen⟩ with
    | (none, sink) => (false, { out with memory := sink.memory })
    | (some (), sink) =>
        let used := out.bufferLen - sink.remaining
        (true,
          { memory := sink.memory
            bufferLen := used
            crc32 := out.crc32.map fun _ => protoCrc32 ((List.range used).map sink.memory) })

section Append

variable {text first second : Bytes} {texts : List Bytes} {before middle after : JsonSink}

/-- Between the two sinks this text was stored, and nothing outside the room of the first. -/
structure Appended (text : Bytes) (before after : JsonSink) : Prop where
  cursor : after.cursor = before.cursor + text.length
  remaining : after.remaining + text.length = before.remaining
  stored : ∀ i (h : i < text.length), after.memory (before.cursor + i) = text[i]
  outside : ∀ place, place < before.cursor ∨ before.cursor + before.remaining ≤ place →
    after.memory place = before.memory place

/-- What a writer does that appends this text: it succeeds exactly when the text and a NUL fit, and
a failure stores in the room there is. -/
def Appends (writer : JsonWriter) (text : Bytes) : Prop :=
  ∀ sink : JsonSink, 0 < sink.remaining →
    if text.length < sink.remaining then
      ∃ after, writer.run sink = (some (), after) ∧ Appended text sink after
    else
      ∃ after, writer.run sink = (none, after) ∧
        ∀ place, place < sink.cursor ∨ sink.cursor + sink.remaining ≤ place →
          after.memory place = sink.memory place

theorem jsonAppendTo_appends (text : Bytes) : Appends (jsonAppendTo text) text := by
  intro sink hroom
  have houtside : ∀ place, place < sink.cursor ∨ sink.cursor + sink.remaining ≤ place →
      store sink.memory sink.cursor (clipped 0 sink.remaining text) place = sink.memory place := by
    intro place hplace
    have hlength := @length_clipped_le _ (0 : UInt8) sink.remaining text
    exact store_outside (by omega)
  have hrun : (jsonAppendTo text).run sink = _ := if_neg (Nat.pos_iff_ne_zero.mp hroom)
  split_ifs with hfits
  · refine ⟨_, hrun.trans (if_neg (by omega)), rfl, ?_, fun i hi => ?_, houtside⟩
    · show sink.remaining - text.length + text.length = sink.remaining
      omega
    · show store sink.memory sink.cursor (clipped 0 sink.remaining text) (sink.cursor + i) = text[i]
      have hinside : i < (text ++ [0]).length := by
        rw [List.length_append]
        omega
      rw [clipped_of_lt 0 hfits, store_inside hinside, List.getElem_append_left hi]
  · exact ⟨_, hrun.trans (if_pos (by omega)), houtside⟩

theorem Appended.refl (sink : JsonSink) : Appended [] sink sink where
  cursor := rfl
  remaining := rfl
  stored _ h := absurd h (Nat.not_lt_zero _)
  outside _ _ := rfl

theorem Appended.trans (hfirst : Appended first before middle)
    (hsecond : Appended second middle after) : Appended (first ++ second) before after where
  cursor := by rw [hsecond.cursor, hfirst.cursor, List.length_append, Nat.add_assoc]
  remaining := by
    have := hfirst.remaining
    have := hsecond.remaining
    rw [List.length_append]
    omega
  stored i hi := by
    have hcursor := hfirst.cursor
    by_cases hleft : i < first.length
    · rw [List.getElem_append_left hleft, ← hfirst.stored i hleft]
      exact hsecond.outside _ (Or.inl (by omega))
    · rw [List.getElem_append_right (by omega)]
      rw [List.length_append] at hi
      have hplace : before.cursor + i = middle.cursor + (i - first.length) := by omega
      rw [hplace]
      exact hsecond.stored _ (by omega)
  outside place hplace := by
    have hcursor := hfirst.cursor
    have hremaining := hfirst.remaining
    rw [hsecond.outside place (by omega), hfirst.outside place hplace]

theorem appends_nothing : Appends (pure ()) [] := by
  intro sink hroom
  rw [if_pos (by simpa using hroom)]
  exact ⟨sink, rfl, Appended.refl sink⟩

/-- A writer runs where the one before it stopped, unless that failed. -/
theorem run_bind (writer next : JsonWriter) (sink : JsonSink) :
    (writer >>= fun _ => next).run sink =
      match writer.run sink with
      | (none, middle) => (none, middle)
      | (some (), middle) => next.run middle := by
  rw [OptionT.run_bind]
  show (match writer.run sink with
    | (written, middle) =>
        (written.elim (pure none) fun _ => next.run : StateM JsonSink (Option Unit)) middle) = _
  rcases writer.run sink with ⟨_ | _, middle⟩ <;> rfl

/-- One writer after the other appends both texts: the second finds the room the first leaves. -/
theorem Appends.bind {writer next : JsonWriter} (hfirst : Appends writer first)
    (hsecond : Appends next second) : Appends (writer >>= fun _ => next) (first ++ second) := by
  intro sink hroom
  have hrun := hfirst sink hroom
  rw [List.length_append, run_bind]
  by_cases hfits : first.length < sink.remaining
  · rw [if_pos hfits] at hrun
    obtain ⟨middle, hmiddle, happended⟩ := hrun
    have hremaining := happended.remaining
    have hcursor := happended.cursor
    have hnext := hsecond middle (by omega)
    rw [hmiddle]
    by_cases hboth : second.length < middle.remaining
    · rw [if_pos hboth] at hnext
      obtain ⟨after, hafter, hlater⟩ := hnext
      rw [if_pos (by omega)]
      exact ⟨after, hafter, happended.trans hlater⟩
    · rw [if_neg hboth] at hnext
      obtain ⟨after, hafter, houtside⟩ := hnext
      rw [if_neg (by omega)]
      refine ⟨after, hafter, fun place hplace => ?_⟩
      rw [houtside place (by omega), happended.outside place hplace]
  · rw [if_neg hfits] at hrun
    obtain ⟨middle, hmiddle, houtside⟩ := hrun
    rw [if_neg (by omega), hmiddle]
    exact ⟨middle, rfl, houtside⟩

/-- A loop appends the texts of its rounds. -/
theorem Appends.forM {α : Type} {body : α → JsonWriter} {round : α → Bytes}
    (hbody : ∀ item, Appends (body item) (round item)) (items : List α) :
    Appends (items.forM body) (items.flatMap round) := by
  induction items with
  | nil => exact appends_nothing
  | cons item rest ih => exact (hbody item).bind ih

/-- With their commas in front, the texts of the rounds are the separated texts. -/
theorem flatMap_comma {α : Type} (entries : List α) (text : α → Bytes) :
    (entries.zipIdx.flatMap fun (entry, i) => comma i ++ text entry) =
      (separated (entries.map text)).flatten := by
  have hlater : ∀ (rest : List α) (start : Nat), 0 < start →
      ((rest.zipIdx start).flatMap fun (entry, i) => comma i ++ text entry) =
        ((rest.map text).map fun text => ascii "," ++ text).flatten := by
    intro rest
    induction rest with
    | nil => intro _ _; rfl
    | cons entry rest ih =>
        intro start hstart
        rw [List.zipIdx_cons, List.flatMap_cons, ih (start + 1) (Nat.succ_pos start)]
        simp only [comma, if_pos hstart, List.map_cons, List.flatten_cons]
  cases entries with
  | nil => rfl
  | cons first rest =>
      rw [List.zipIdx_cons, List.flatMap_cons, hlater rest 1 Nat.one_pos]
      rfl

theorem appendEach_appends {α : Type} (entries : List α) (text : α → Bytes) :
    Appends (appendEach entries text) (separated (entries.map text)).flatten := by
  rw [← flatMap_comma]
  exact Appends.forM (fun (entry, i) => jsonAppendTo_appends (comma i ++ text entry)) entries.zipIdx

theorem appendIf_appends (present : Bool) (text : Bytes) :
    Appends (appendIf present text) (if present then [text] else []).flatten := by
  cases present with
  | true => simpa [appendIf] using jsonAppendTo_appends text
  | false => exact appends_nothing

end Append

section Encoders

/-- The JSON text of a command. -/
def commandText (msg : ProtoCommand) : Bytes :=
  (commandTexts msg).flatten

/-- The JSON text of telemetry. -/
def sensorUpdateText (msg : ProtoSensorUpdate) : Bytes :=
  (sensorUpdateTexts msg).flatten

theorem encodeCommandJson_appends (msg : ProtoCommand) :
    Appends (encodeCommandJson msg) (commandText msg) := by
  simp only [commandText, commandTexts, List.flatten_append, List.flatten_singleton,
    List.append_assoc]
  exact (jsonAppendTo_appends _).bind ((appendIf_appends _ _).bind ((appendIf_appends _ _).bind
    ((appendIf_appends _ _).bind (jsonAppendTo_appends _))))

theorem encodeSensorUpdateJson_appends (msg : ProtoSensorUpdate) :
    Appends (encodeSensorUpdateJson msg) (sensorUpdateText msg) := by
  have hflatten : ∀ (head sht20 ds18b20 last : Bytes) (first second third : List Bytes),
      ([head] ++ first ++ [sht20] ++ second ++ [ds18b20] ++ third ++ [last]).flatten =
        head ++ (first.flatten ++ (sht20 ++ (second.flatten ++ (ds18b20 ++
          (third.flatten ++ last))))) := by
    intro head sht20 ds18b20 last first second third
    simp only [List.flatten_append, List.flatten_singleton, List.append_assoc]
  rw [sensorUpdateText, sensorUpdateTexts, hflatten]
  exact (jsonAppendTo_appends _).bind ((appendEach_appends _ _).bind
    ((jsonAppendTo_appends _).bind ((appendEach_appends _ _).bind
      ((jsonAppendTo_appends _).bind ((appendEach_appends _ _).bind (jsonAppendTo_appends _))))))

/-- What an encoder promises of a text, a capacity and the outputs. -/
structure EncodesExactly (text : Bytes) (out : EncoderOutputs) (result : Bool × EncoderOutputs) :
    Prop where
  returned : result.1 = true ↔ text.length < out.bufferLen
  stored : result.1 = true → ∀ i (h : i < text.length), result.2.memory i = text[i]
  bufferLen : result.1 = true → result.2.bufferLen = text.length
  crc32 : result.1 = true → result.2.crc32 = out.crc32.map fun _ => protoCrc32 text
  kept : result.1 = false → result.2.bufferLen = out.bufferLen ∧ result.2.crc32 = out.crc32
  outside : ∀ i, out.bufferLen ≤ i → result.2.memory i = out.memory i

theorem encodeJsonInto_exact {writer : JsonWriter} {text : Bytes} (h : Appends writer text)
    (out : EncoderOutputs) : EncodesExactly text out (encodeJsonInto writer out) := by
  unfold encodeJsonInto
  by_cases hzero : out.bufferLen = 0
  · rw [if_pos hzero]
    exact ⟨by simp [hzero], fun h => Bool.noConfusion h, fun h => Bool.noConfusion h,
      fun h => Bool.noConfusion h, fun _ => ⟨rfl, rfl⟩, fun _ _ => rfl⟩
  have hrun := h ⟨out.memory, 0, out.bufferLen⟩ (Nat.pos_of_ne_zero hzero)
  rw [if_neg hzero]
  dsimp only at hrun
  by_cases hfits : text.length < out.bufferLen
  · rw [if_pos hfits] at hrun
    obtain ⟨after, hafter, happended⟩ := hrun
    have hstored : ∀ i (hi : i < text.length), after.memory i = text[i] := by
      intro i hi
      have hread := happended.stored i hi
      rwa [Nat.zero_add] at hread
    have hused : out.bufferLen - after.remaining = text.length := by
      have hremaining : after.remaining + text.length = out.bufferLen := happended.remaining
      omega
    rw [hafter]
    refine ⟨iff_of_true rfl hfits, fun _ => hstored, fun _ => hused, fun _ => ?_,
      fun h => Bool.noConfusion h, fun i hi => happended.outside i (Or.inr (by simpa using hi))⟩
    show out.crc32.map _ = _
    rw [hused, map_range_eq hstored]
  · rw [if_neg hfits] at hrun
    obtain ⟨after, hafter, houtside⟩ := hrun
    rw [hafter]
    exact ⟨iff_of_false Bool.noConfusion hfits, fun h => Bool.noConfusion h,
      fun h => Bool.noConfusion h, fun h => Bool.noConfusion h, fun _ => ⟨rfl, rfl⟩,
      fun i hi => houtside i (Or.inr (by simpa using hi))⟩

/-- `encode_command_json_into` -/
def encodeCommandJsonBuffer (msg : ProtoCommand) (out : EncoderOutputs) : Bool × EncoderOutputs :=
  encodeJsonInto (encodeCommandJson msg) out

/-- `encode_sensor_update_json_into` -/
def encodeSensorUpdateJsonBuffer (msg : ProtoSensorUpdate) (out : EncoderOutputs) :
    Bool × EncoderOutputs :=
  encodeJsonInto (encodeSensorUpdateJson msg) out

theorem encodeCommandJsonBuffer_exact (msg : ProtoCommand) (out : EncoderOutputs) :
    EncodesExactly (commandText msg) out (encodeCommandJsonBuffer msg out) :=
  encodeJsonInto_exact (encodeCommandJson_appends msg) out

theorem encodeSensorUpdateJsonBuffer_exact (msg : ProtoSensorUpdate) (out : EncoderOutputs) :
    EncodesExactly (sensorUpdateText msg) out (encodeSensorUpdateJsonBuffer msg out) :=
  encodeJsonInto_exact (encodeSensorUpdateJson_appends msg) out

/-- Both encoders are exact in the capacity and keep their outputs on failure, and the buffers of
the firmware hold every text. -/
theorem json_encoders_exact :
    (∀ (msg : ProtoCommand) (out : EncoderOutputs),
      EncodesExactly (commandText msg) out (encodeCommandJsonBuffer msg out)) ∧
    (∀ (msg : ProtoSensorUpdate) (out : EncoderOutputs),
      EncodesExactly (sensorUpdateText msg) out (encodeSensorUpdateJsonBuffer msg out)) ∧
    (∀ msg : ProtoSensorUpdate, (sensorUpdateText msg).length < 2048) ∧
    ∀ msg : ProtoCommand, (commandText msg).length < 512 :=
  ⟨encodeCommandJsonBuffer_exact, encodeSensorUpdateJsonBuffer_exact, length_sensorUpdateTexts,
    length_commandTexts⟩

/-- The encoders of the codec are these, seen through what they return. -/
theorem EncodesExactly.jsonInto_iff {texts : List Bytes} {out : EncoderOutputs}
    {result : Bool × EncoderOutputs} (h : EncodesExactly texts.flatten out result) {payload : Bytes}
    {crc32 : UInt32} :
    jsonInto texts out.bufferLen = some (payload, crc32) ↔
      result.1 = true ∧ payload = texts.flatten ∧ crc32 = protoCrc32 payload := by
  rw [h.returned]
  exact jsonInto_eq_some_iff

theorem encodeSensorUpdateJsonInto_iff {msg : ProtoSensorUpdate} {out : EncoderOutputs}
    {payload : Bytes} {crc32 : UInt32} :
    encodeSensorUpdateJsonInto msg out.bufferLen = some (payload, crc32) ↔
      (encodeSensorUpdateJsonBuffer msg out).1 = true ∧ payload = sensorUpdateText msg ∧
        crc32 = protoCrc32 payload :=
  (encodeSensorUpdateJsonBuffer_exact msg out).jsonInto_iff

end Encoders

end SensorHmi
