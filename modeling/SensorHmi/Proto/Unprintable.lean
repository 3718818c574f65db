import SensorHmi.Proto.Codec

/-!
# Telemetry that no JSON text can carry

`%.2f` prints an infinity as `inf` and NaN as `nan`, neither of which is JSON. So the text of
telemetry is JSON exactly when the temperatures and humidities in use are finite
(`parse_sensorUpdateTexts_isSome_iff`), and then the decoder accepts it
(`decode_json_isOk_iff`).
-/

namespace SensorHmi

open Octets Numeral Ieee Json

/-- The temperatures and humidities in use are finite. -/
structure ProtoSensorUpdate.AllFinite (msg : ProtoSensorUpdate) : Prop where
  sht20 : ∀ entry ∈ msg.sht20Entries,
    entry.temperatureC.isFinite = true ∧ entry.humidityPercent.isFinite = true
  ds18b20 : ∀ entry ∈ msg.ds18b20Entries, entry.temperatureC.isFinite = true

/-- A text that starts no JSON value, and is not taken for anything else at its place. -/
structure Spoilt (text : Bytes) : Prop where
  fails : ∀ rest, Fails parseValue (text ++ rest)
  skipSpace : ∀ rest, skipSpace (text ++ rest) = text ++ rest
  expect : ∀ rest, expect 93 (text ++ rest) = none

section Values

/-- What is printed for an infinity or NaN spoils its place. -/
theorem spoilt_fixedText {x : Float32} (h : ¬ x.isFinite = true) : Spoilt (fixedText x) := by
  have hnan : Spoilt (ascii "nan") := by
    refine ⟨fun rest fuel hfuel => ?_, fun rest => rfl, fun rest => rfl⟩
    cases fuel with
    | zero => rfl
    | succ fuel => rfl
  have hinf : Spoilt (ascii "inf") := by
    refine ⟨fun rest fuel hfuel => ?_, fun rest => rfl, fun rest => rfl⟩
    cases fuel with
    | zero => rfl
    | succ fuel => rfl
  have hneg : Spoilt (ascii "-inf") := by
    refine ⟨fun rest fuel hfuel => ?_, fun rest => rfl, fun rest => rfl⟩
    cases fuel with
    | zero => rfl
    | succ fuel => rfl
  rw [fixedText, toDecimal_of_not_isFinite h]
  dsimp only
  split_ifs
  · exact hnan
  · exact hneg
  · exact hinf

/-- A text after which a member follows is not taken for the rest of a number. -/
theorem delimits_comma (rest : Bytes) : Delimits (44 :: rest) := by
  intro octet h
  cases h
  decide

/-- A member whose value is spoilt fails, and everything up to it with it. -/
theorem Spoilt.members {text : Bytes} (h : Spoilt text) (key rest : Bytes) :
    Fails parseMembers (44 :: (renderString key ++ 58 :: (text ++ rest))) :=
  fails_members_first key (fails_member key (h.skipSpace rest) (h.fails rest))

/-- An ambient entry with a reading that is not finite spoils its place. -/
theorem spoilt_sht20Text {entry : ProtoSht20Reading} (hid : PlainId entry)
    (h : ¬ (entry.temperatureC.isFinite = true ∧ entry.humidityPercent.isFinite = true)) :
    Spoilt (sht20Text entry) := by
  have htext : ∀ rest, ∃ tail, sht20Text entry ++ rest =
      123 :: (renderString (ascii "id") ++ 58 :: (render (.str (cString entry.id.toList)) ++
        44 :: (renderString (ascii "t") ++ 58 :: (fixedText entry.temperatureC ++
          44 :: (renderString (ascii "rh") ++ 58 ::
            (fixedText entry.humidityPercent ++ tail)))))) := by
    intro rest
    refine ⟨ascii ",\"ok\":" ++ ((if entry.valid then ascii "true" else ascii "false") ++
      (ascii "\x7d" ++ rest)), ?_⟩
    simp only [sht20Text, Json.render, Json.renderString_plain hid, List.append_assoc,
      List.cons_append, List.nil_append]
    rfl
  refine ⟨fun rest => ?_, fun rest => rfl, fun rest => rfl⟩
  obtain ⟨tail, htail⟩ := htext rest
  rw [htail]
  refine fails_object_rest _ _ (skipSpace_cons rfl) (delimits_comma _) ?_
  by_cases htemp : entry.temperatureC.isFinite = true
  · -- the temperature is printed well, so the humidity is not
    have hhum : ¬ entry.humidityPercent.isFinite = true := fun hhum => h ⟨htemp, hhum⟩
    have hmember := fails_members_rest (ascii "t", fixedJson entry.temperatureC)
      (skipSpace_cons rfl) (delimits_comma _) ((spoilt_fixedText hhum).members (ascii "rh") tail)
    rw [memberText, ← fixedText_eq htemp, List.cons_append, List.append_assoc,
      List.cons_append] at hmember
    exact hmember
  · exact (spoilt_fixedText htemp).members (ascii "t") _

/-- A one-wire entry with a reading that is not finite spoils its place. -/
theorem spoilt_ds18b20Text {entry : ProtoDs18b20Reading}
    (h : ¬ entry.temperatureC.isFinite = true) : Spoilt (ds18b20Text entry) := by
  refine ⟨fun rest => ?_, fun rest => rfl, fun rest => rfl⟩
  have htext : ds18b20Text entry ++ rest =
      123 :: (renderString (ascii "rom") ++ 58 :: (render (.str (hexText entry.romCode.toList)) ++
        44 :: (renderString (ascii "t") ++ 58 :: (fixedText entry.temperatureC ++
          (ascii "\x7d" ++ rest))))) := by
    simp only [ds18b20Text, Json.render, Json.renderString_plain fun _ => isPlain_hexText,
      List.append_assoc, List.cons_append, List.nil_append]
    rfl
  rw [htext]
  exact fails_object_rest _ _ (skipSpace_cons rfl) (delimits_comma _)
    ((spoilt_fixedText h).members (ascii "t") _)

end Values

section Arrays

variable {α : Type} {text : α → Bytes} {json : α → Json} {entries : List α}

/-- Items fail where one is spoilt and those before it are JSON. -/
theorem fails_items_of_spoilt (hwell : ∀ entry ∈ entries, text entry = render (json entry) ∨
    Spoilt (text entry)) (hspoilt : ∃ entry ∈ entries, Spoilt (text entry)) (rest : Bytes) :
    Fails parseItems ((entries.map fun entry => 44 :: text entry).flatten ++ rest) := by
  induction entries with
  | nil => simp at hspoilt
  | cons entry others ih =>
      rw [List.map_cons, List.flatten_cons, List.append_assoc, List.cons_append]
      rcases hwell entry List.mem_cons_self with hjson | hbad
      · by_cases hlater : ∃ other ∈ others, Spoilt (text other)
        · have hfails := ih (fun other hmem => hwell other (List.mem_cons_of_mem _ hmem)) hlater
          obtain ⟨other, hother, -⟩ := hlater
          obtain ⟨first, more, rfl⟩ := List.exists_cons_of_ne_nil (List.ne_nil_of_mem hother)
          rw [hjson]
          exact fails_items_rest _ (skipSpace_cons rfl) (delimits_comma _) hfails
        · obtain ⟨bad, hmem, hbad⟩ := hspoilt
          rcases List.mem_cons.mp hmem with rfl | hother
          · exact fails_items_first (hbad.skipSpace _) (hbad.fails _)
          · exact absurd ⟨bad, hother, hbad⟩ hlater
      · exact fails_items_first (hbad.skipSpace _) (hbad.fails _)

/-- An array fails where one of its items is spoilt and those before it are JSON. -/
theorem fails_array_of_spoilt (hwell : ∀ entry ∈ entries, text entry = render (json entry) ∨
    Spoilt (text entry)) (hspoilt : ∃ entry ∈ entries, Spoilt (text entry)) (rest : Bytes) :
    Fails parseValue (91 :: ((separated (entries.map text)).flatten ++ rest)) := by
  cases entries with
  | nil => simp at hspoilt
  | cons entry others =>
      have hothers : (others.map text).map (fun text => ascii "," ++ text) =
          others.map fun entry => 44 :: text entry := by
        rw [List.map_map]
        rfl
      rw [List.map_cons, separated, hothers, List.flatten_cons, List.append_assoc]
      rcases hwell entry List.mem_cons_self with hjson | hbad
      · by_cases hlater : ∃ other ∈ others, Spoilt (text other)
        · have hfails := fails_items_of_spoilt
            (fun other hmem => hwell other (List.mem_cons_of_mem _ hmem)) hlater rest
          obtain ⟨other, hother, -⟩ := hlater
          obtain ⟨first, more, rfl⟩ := List.exists_cons_of_ne_nil (List.ne_nil_of_mem hother)
          rw [hjson]
          exact fails_array_rest _ (skipSpace_cons rfl) (delimits_comma _) hfails
        · obtain ⟨bad, hmem, hbad⟩ := hspoilt
          rcases List.mem_cons.mp hmem with rfl | hother
          · exact fails_array_first (hbad.skipSpace _) (hbad.expect _) (hbad.fails _)
          · exact absurd ⟨bad, hother, hbad⟩ hlater
      · exact fails_array_first (hbad.skipSpace _) (hbad.expect _) (hbad.fails _)

end Arrays

section Telemetry

variable {msg : ProtoSensorUpdate}

/-- The text up to the entries of the one-wire devices. -/
theorem sensorUpdateTexts_split (msg : ProtoSensorUpdate) :
    ∃ tail, (sensorUpdateTexts msg).flatten =
      123 :: (renderString (ascii "v") ++ 58 :: (render (natJson 1) ++
        (memberText (ascii "type", .str (ascii "sensor_update")) ++
          (memberText (ascii "ts", natJson msg.timestampMs.toNat) ++
            (memberText (ascii "seq", natJson msg.sequenceId.toNat) ++
              44 :: (renderString (ascii "sht20") ++ 58 ::
                (91 :: ((separated (msg.sht20Entries.map sht20Text)).flatten ++ 93 ::
                  44 :: (renderString (ascii "ds18b20") ++ 58 ::
                    (91 :: ((separated (msg.ds18b20Entries.map ds18b20Text)).flatten ++
                      tail))))))))))) := by
  refine ⟨(ascii "],\"gpio\":\x7b\"mcp0\":\x7b\"A\":" ++ natText msg.mcp0.portA.toNat ++
    ascii ",\"B\":" ++ natText msg.mcp0.portB.toNat ++
    ascii "\x7d,\"mcp1\":\x7b\"A\":" ++ natText msg.mcp1.portA.toNat ++
    ascii ",\"B\":" ++ natText msg.mcp1.portB.toNat ++
    ascii "\x7d\x7d,\"pwm\":\x7b\"pca9685\":\x7b\"freq\":" ++ natText msg.pwm.frequencyHz.toNat ++
    ascii ",\"duty\":[") ++
    ((separated (msg.pwm.dutyCycle.toList.map fun duty => natText duty.toNat)).flatten ++
      ascii "]\x7d\x7d\x7d"), ?_⟩
  simp only [sensorUpdateTexts, List.flatten_append, List.flatten_cons, List.flatten_nil,
    memberText, render_natJson, List.append_assoc, List.cons_append, List.nil_append,
    List.append_nil]
  rfl

/-- The text of telemetry with plain identifiers is JSON exactly when its readings are finite. -/
theorem parse_sensorUpdateTexts_isSome_iff (hplain : ∀ entry ∈ msg.sht20Entries, PlainId entry) :
    (Json.parse (sensorUpdateTexts msg).flatten).isSome = true ↔ msg.AllFinite := by
  have hsht : ∀ entry ∈ msg.sht20Entries,
      sht20Text entry = render (sht20Json entry) ∨ Spoilt (sht20Text entry) := by
    intro entry hmem
    by_cases hfinite : entry.temperatureC.isFinite = true ∧ entry.humidityPercent.isFinite = true
    · exact Or.inl (sht20Text_eq (hplain entry hmem) hfinite.1 hfinite.2)
    · exact Or.inr (spoilt_sht20Text (hplain entry hmem) hfinite)
  have hds : ∀ entry ∈ msg.ds18b20Entries,
      ds18b20Text entry = render (ds18b20Json entry) ∨ Spoilt (ds18b20Text entry) := by
    intro entry _
    by_cases hfinite : entry.temperatureC.isFinite = true
    · exact Or.inl (ds18b20Text_eq hfinite)
    · exact Or.inr (spoilt_ds18b20Text hfinite)
  constructor
  · intro hsome
    by_contra hnot
    obtain ⟨tail, htext⟩ := sensorUpdateTexts_split msg
    have hnone : Json.parse (sensorUpdateTexts msg).flatten = none := by
      rw [htext]
      refine parse_eq_none (skipSpace_cons rfl) (fails_object_rest _ _ (skipSpace_cons rfl)
        (delimits_comma _) (fails_members_rest _ (skipSpace_cons rfl) (delimits_comma _)
          (fails_members_rest _ (skipSpace_cons rfl) (delimits_comma _)
            (fails_members_rest _ (skipSpace_cons rfl) (delimits_comma _) ?_))))
      by_cases hambient : ∃ entry ∈ msg.sht20Entries, Spoilt (sht20Text entry)
      · exact fails_members_first _ (fails_member _ rfl (fails_array_of_spoilt hsht hambient _))
      · -- the ambient entries are JSON, so a one-wire entry is not
        have honewire : ∃ entry ∈ msg.ds18b20Entries, Spoilt (ds18b20Text entry) := by
          by_contra hnone
          refine hnot ⟨fun entry hmem => ?_, fun entry hmem => ?_⟩
          · by_contra hfinite
            exact hambient ⟨entry, hmem, spoilt_sht20Text (hplain entry hmem) hfinite⟩
          · by_contra hfinite
            exact hnone ⟨entry, hmem, spoilt_ds18b20Text hfinite⟩
        have hitems : msg.sht20Entries.map sht20Text =
            (msg.sht20Entries.map sht20Json).map render := by
          rw [List.map_map]
          exact List.map_congr_left fun entry hmem => (hsht entry hmem).resolve_right fun hbad =>
            hambient ⟨entry, hmem, hbad⟩
        have hmember := fails_members_rest (ascii "sht20", .arr (msg.sht20Entries.map sht20Json))
          (skipSpace_cons rfl) (delimits_comma _) (fails_members_first (ascii "ds18b20")
            (fails_member _ rfl (fails_array_of_spoilt hds honewire tail)))
        rw [memberText, render_arr, ← hitems] at hmember
        simpa only [List.append_assoc, List.cons_append, List.nil_append] using hmember
    rw [hnone] at hsome
    cases hsome
  · intro hfinite
    rw [sensorUpdateTexts_flatten ⟨hplain, hfinite.sht20, hfinite.ds18b20⟩, parse_render]
    rfl

/-- In JSON mode, with a cJSON that accepts JSON texts only, telemetry with plain identifiers is
encoded to what the decoder accepts exactly when its readings are finite. -/
theorem decode_json_isOk_iff {ι : Type} {codec : Codec ι} {useCbor : Bool} {fuel bufferLen : Nat}
    (hcjson : ∀ text, codec.cjson.parse text = Json.parse text)
    (hmode : (codec.configUseCbor && useCbor) = false)
    (hplain : ∀ entry ∈ msg.sht20Entries, PlainId entry) {payload : Bytes} {crc32 : UInt32}
    (hencode : protoEncodeSensorUpdateInto codec msg useCbor bufferLen = some (payload, crc32)) :
    (∃ update, protoDecodeSensorUpdate codec fuel payload useCbor crc32 = .ok update) ↔
      msg.AllFinite := by
  rw [protoEncodeSensorUpdateInto, hmode] at hencode
  obtain ⟨-, rfl, rfl⟩ := jsonInto_eq_some_iff.mp hencode
  rw [← parse_sensorUpdateTexts_isSome_iff hplain,
    protoDecodeSensorUpdate_json hmode (crcAccepts_self _), decodeSensorUpdateJson, hcjson]
  cases Json.parse (sensorUpdateTexts msg).flatten with
  | none => simp [Loop.check]
  | some root => simp [Loop.check]

end Telemetry

end SensorHmi
