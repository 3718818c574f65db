import SensorHmi.Proto.CborReads
import SensorHmi.Proto.RoundTrip

/-!
# Telemetry in CBOR

What `proto_decode_sensor_update` makes of encoded telemetry: it refuses it, always. Behind the
list `sht20` the decoder skips the key `ds18b20` and takes the list behind it for a key; if there
is a reading in `sht20`, the same happens in it behind the identifier.
-/

namespace SensorHmi

open Octets Numeral Cbor Loop

variable {ι : Type} {cbor : Tinycbor ι} {target : CTarget} {fuel : Nat} {rest : List Item}

section Entries

/-- An entry that starts with an item that is no text is refused. -/
theorem sensorUpdateEntry_refuses {item : Item} (hitem : ∀ octets, item ≠ .text octets) :
    Refuses cbor (sensorUpdateEntry cbor target fuel) (item :: rest) := by
  intro it indefinite levels h
  rw [sensorUpdateEntry, copyChecked_other h hitem]
  rfl

/-- The key of a value no decoder stores. -/
theorem sensorUpdateEntry_other {key : String} {item : Item} (hkey : Copyable (ascii key) 15)
    (hother : ascii key ∉ ["ts", "seq", "sht20", "ds18b20", "gpio", "pwm"].map ascii) :
    Reads cbor (sensorUpdateEntry cbor target fuel) (textStringz key :: item :: rest) rest id := by
  intro it indefinite levels h
  obtain ⟨next, hcopy, hnext⟩ := copyChecked_at h hkey
  refine ⟨advanceIgnoring cbor next, ?_, advanceIgnoring_at hnext⟩
  simp only [List.map_cons, List.map_nil, List.mem_cons, List.not_mem_nil, or_false,
    not_or] at hother
  obtain ⟨hts, hseq, hsht, hds, hgpio, hpwm⟩ := hother
  rw [sensorUpdateEntry, hcopy, ok_bind]
  dsimp only
  rw [if_neg hts, if_neg hseq, if_neg hsht, if_neg hds, if_neg hgpio, if_neg hpwm]
  rfl

theorem sensorUpdateEntry_ts (value : UInt64) :
    Reads cbor (sensorUpdateEntry cbor target fuel) (textStringz "ts" :: .uint value :: rest) rest
      fun msg => { msg with timestampMs := value.toUInt32 } := by
  intro it indefinite levels h
  have hkey : Copyable (ascii "ts") 15 := by simp [Copyable, ascii]
  obtain ⟨next, hcopy, hnext⟩ := copyChecked_at h hkey
  refine ⟨advanceIgnoring cbor next, ?_, advanceIgnoring_at hnext⟩
  rw [sensorUpdateEntry, hcopy, ok_bind]
  dsimp only
  rw [if_pos rfl, cbor.at_getUint64 hnext]
  rfl

theorem sensorUpdateEntry_seq (value : UInt64) :
    Reads cbor (sensorUpdateEntry cbor target fuel) (textStringz "seq" :: .uint value :: rest) rest
      fun msg => { msg with sequenceId := value.toUInt32 } := by
  intro it indefinite levels h
  have hkey : Copyable (ascii "seq") 15 := by simp [Copyable, ascii]
  have hts : ascii "seq" ≠ ascii "ts" := by simp [ascii]
  obtain ⟨next, hcopy, hnext⟩ := copyChecked_at h hkey
  refine ⟨advanceIgnoring cbor next, ?_, advanceIgnoring_at hnext⟩
  rw [sensorUpdateEntry, hcopy, ok_bind]
  dsimp only
  rw [if_neg hts, if_pos rfl, cbor.at_getUint64 hnext]
  rfl

end Entries

section Sht20

/-- Behind the identifier the decoder skips an item more: the key `t`. -/
theorem sht20Entry_id {idx : Nat} {id : Bytes} (hid : id.length ≤ 15) :
    ∃ update, Reads cbor (sht20Entry cbor target idx) (textStringz "id" :: .text id :: rest)
      rest.tail update := by
  refine ⟨withSht20 idx fun entry =>
    { entry with id := overwriteId (if id.length < 15 then id ++ [0] else id) entry.id }, ?_⟩
  intro it indefinite levels h
  have hkey : Copyable (ascii "id") 7 := by simp [Copyable, ascii]
  obtain ⟨value, hcopy, hvalue⟩ := copyChecked_at h hkey
  obtain ⟨next, htext, hnext⟩ := cbor.at_copy hvalue hid
  refine ⟨advanceIgnoring cbor next, ?_, advanceIgnoring_at hnext⟩
  rw [sht20Entry, hcopy, ok_bind]
  dsimp only
  rw [if_pos rfl, copyIdIgnoring, htext]
  rfl

/-- An encoded reading is refused: its temperature stands where a key should be. -/
theorem sht20_refuses {idx : Nat} {entry : ProtoSht20Reading}
    (hid : (cString entry.id.toList).length ≤ 15) (hfuel : 2 ≤ fuel) (others : List Item) :
    ∀ it indefinite levels,
      cbor.At it ((sht20Item entry :: others, indefinite) :: levels) →
        sht20Element cbor target fuel idx it = .error .rejected := by
  intro it indefinite levels h
  obtain ⟨update, hreads⟩ := @sht20Entry_id _ cbor target
    [textStringz "t", .single entry.temperatureC, textStringz "rh", .single entry.humidityPercent,
      textStringz "ok", .bool entry.valid] idx _ hid
  have hsingle : Refuses cbor (sht20Entry cbor target idx)
      [.single entry.temperatureC, textStringz "rh", .single entry.humidityPercent,
        textStringz "ok", .bool entry.valid] := by
    intro it indefinite levels h
    rw [sht20Entry, copyChecked_other h fun octets hitem => by cases hitem]
    rfl
  obtain ⟨inner, henter, hinner⟩ := cbor.at_enterMap h
  rw [sht20Element, henter]
  show (whileNotAtEnd cbor (sht20Entry cbor target idx) fuel inner >>= _) = _
  rw [whileNotAtEnd, ((LoopRefuses.here hsingle).cons hreads) inner _ _ hinner fuel hfuel]
  rfl

/-- The entry `sht20` is refused, or the one behind it is. -/
theorem sensorUpdateEntry_sht20 {entries : List ProtoSht20Reading}
    (hid : ∀ entry ∈ entries, (cString entry.id.toList).length ≤ 15) (hfuel : 2 ≤ fuel)
    {ds18b20 : List Item} :
    LoopRefuses cbor (sensorUpdateEntry cbor target fuel) 2
      (textStringz "sht20" :: .array (entries.map sht20Item) ::
        textStringz "ds18b20" :: .array ds18b20 :: rest) := by
  have hkey : Copyable (ascii "sht20") 15 := by simp [Copyable, ascii]
  have hts : ascii "sht20" ≠ ascii "ts" := by simp [ascii]
  have hseq : ascii "sht20" ≠ ascii "seq" := by simp [ascii]
  cases entries with
  | nil =>
      have hreads : Reads cbor (sensorUpdateEntry cbor target fuel)
          (textStringz "sht20" :: .array [] :: textStringz "ds18b20" :: .array ds18b20 :: rest)
          (.array ds18b20 :: rest) fun msg => { msg with sht20Count := 0 } := by
        intro it indefinite levels h
        obtain ⟨next, hcopy, hnext⟩ := copyChecked_at h hkey
        obtain ⟨inner, henter, hinner⟩ := cbor.at_enterArray hnext
        refine ⟨advanceIgnoring cbor (leaveIgnoring cbor next inner), ?_,
          advanceIgnoring_at (leaveIgnoring_at hnext hinner)⟩
        have hend : cbor.atEnd inner = true := (cbor.at_atEnd hinner).mpr rfl
        rw [sensorUpdateEntry, hcopy, ok_bind]
        dsimp only
        rw [if_neg hts, if_neg hseq, if_pos rfl, henter]
        show (whileNotAtEndUpTo cbor 2 _ inner >>= _) = _
        rw [whileNotAtEndUpTo, upTo, if_neg (by rw [hend]; decide)]
        rfl
      exact (LoopRefuses.here (sensorUpdateEntry_refuses fun octets hitem => by cases hitem)).cons
        hreads
  | cons entry others =>
      have hrefuses : Refuses cbor (sensorUpdateEntry cbor target fuel)
          (textStringz "sht20" :: .array ((entry :: others).map sht20Item) ::
            textStringz "ds18b20" :: .array ds18b20 :: rest) := by
        intro it indefinite levels h
        obtain ⟨next, hcopy, hnext⟩ := copyChecked_at h hkey
        obtain ⟨inner, henter, hinner⟩ := cbor.at_enterArray hnext
        have hmore : cbor.atEnd inner = false := by
          rw [Bool.eq_false_iff]
          intro hend
          cases (cbor.at_atEnd hinner).mp hend
        rw [sensorUpdateEntry, hcopy, ok_bind]
        dsimp only
        rw [if_neg hts, if_neg hseq, if_pos rfl, henter]
        show (whileNotAtEndUpTo cbor 2 _ inner >>= _) = _
        rw [whileNotAtEndUpTo, upTo, if_pos (by rw [hmore]; rfl),
          sht20_refuses (hid entry (by simp)) hfuel _ inner _ _ hinner]
        rfl
      intro it indefinite levels h fuel hle
      exact LoopRefuses.here hrefuses it indefinite levels h fuel (by omega)

end Sht20

section Whole

theorem fits_sensorUpdateItem (msg : ProtoSensorUpdate) : Fits (sensorUpdateItem msg) := by
  have htext : ∀ text : String, Fits (textStringz text) ↔ text.toList.length < 2 ^ 64 := by
    intro text
    rw [textStringz, Fits, ascii, List.length_map]
  have hsht : ∀ entry, Fits (sht20Item entry) := by
    intro entry
    have hid := length_cString_le entry.id.toList
    rw [Vector.length_toList] at hid
    have hshort : (cString entry.id.toList).length < 2 ^ 64 := by omega
    simp only [sht20Item, Fits, AllFit, htext]
    simpa using hshort
  have hds : ∀ entry, Fits (ds18b20Item entry) := by
    intro entry
    have hrom : (hexText entry.romCode.toList).length = 16 := by simp [hexText]
    simp [ds18b20Item, Fits, AllFit, htext, hrom]
  have hmcp : ∀ state, Fits (mcpItem state) := by
    intro state
    simp [mcpItem, Fits, AllFit, htext]
  have hshts : AllFit (msg.sht20Entries.map sht20Item) := by
    refine allFit_of_forall fun item hmem => ?_
    obtain ⟨entry, -, rfl⟩ := List.mem_map.mp hmem
    exact hsht entry
  have hdss : AllFit (msg.ds18b20Entries.map ds18b20Item) := by
    refine allFit_of_forall fun item hmem => ?_
    obtain ⟨entry, -, rfl⟩ := List.mem_map.mp hmem
    exact hds entry
  have hduties : AllFit (msg.pwm.dutyCycle.toList.map fun duty => .uint duty.toUInt64) := by
    refine allFit_of_forall fun item hmem => ?_
    obtain ⟨duty, -, rfl⟩ := List.mem_map.mp hmem
    trivial
  have hcounts : msg.sht20Entries.length < 2 ^ 64 ∧ msg.ds18b20Entries.length < 2 ^ 64 := by
    simp [ProtoSensorUpdate.sht20Entries, ProtoSensorUpdate.ds18b20Entries]
  simp only [sensorUpdateItem, Fits, AllFit, htext, hshts, hdss, hduties, hmcp, List.length_map,
    hcounts]
  simp

/-- Identifiers that end inside their arrays have at most fifteen characters. -/
theorem ProtoSensorUpdate.Terminated.length_le {msg : ProtoSensorUpdate} (h : msg.Terminated) :
    ∀ entry ∈ msg.sht20Entries, (cString entry.id.toList).length ≤ 15 := by
  intro entry hmem
  have hnul := h entry hmem
  have hlength := length_cString_le entry.id.toList
  rw [Vector.length_toList] at hlength
  by_contra hlong
  have hall : cString entry.id.toList = entry.id.toList := by
    refine (List.takeWhile_sublist _).eq_of_length ?_
    rw [Vector.length_toList]
    show (cString entry.id.toList).length = 16
    omega
  have hin : (0 : UInt8) ∈ cString entry.id.toList := by
    rw [hall]
    exact hnul
  simpa using List.mem_takeWhile_imp hin

/-- The loop over encoded telemetry reads the first four entries and then refuses. -/
theorem sensorUpdate_refuses {msg : ProtoSensorUpdate} (hid : msg.Terminated) (hfuel : 2 ≤ fuel) :
    ∃ members, sensorUpdateItem msg = .map true members ∧
      LoopRefuses cbor (sensorUpdateEntry cbor target fuel) 6 members := by
  refine ⟨_, rfl, ?_⟩
  have hsht := fun ds18b20 rest =>
    @sensorUpdateEntry_sht20 _ cbor target fuel rest msg.sht20Entries hid.length_le hfuel ds18b20
  have hseq := fun ds18b20 rest =>
    (hsht ds18b20 rest).cons (sensorUpdateEntry_seq msg.sequenceId.toUInt64)
  have hts := fun ds18b20 rest =>
    (hseq ds18b20 rest).cons (sensorUpdateEntry_ts msg.timestampMs.toUInt64)
  have htype := fun ds18b20 rest =>
    (hts ds18b20 rest).cons (@sensorUpdateEntry_other _ _ _ _ _ "type" (textStringz "sensor_update")
      (by simp [Copyable, ascii]) (by simp [ascii]))
  exact (htype _ _).cons (@sensorUpdateEntry_other _ _ _ _ _ "v" (.uint 1)
    (by simp [Copyable, ascii]) (by simp [ascii]))

theorem decodeSensorUpdateCbor_sensorUpdateItem {msg : ProtoSensorUpdate} (hid : msg.Terminated)
    (hfuel : 6 ≤ fuel) :
    decodeSensorUpdateCbor cbor target fuel (encode (sensorUpdateItem msg)) =
      .error .rejected := by
  have htwo : 2 ≤ fuel := by omega
  obtain ⟨members, hitem, hrefuses⟩ := @sensorUpdate_refuses _ cbor target _ msg hid htwo
  obtain ⟨root, hinit, hroot⟩ := cbor.at_init (fits_sensorUpdateItem msg)
  rw [hitem] at hroot
  obtain ⟨map, henter, hmap⟩ := cbor.at_enterMap hroot
  rw [decodeSensorUpdateCbor, hinit]
  show (if cbor.isMap root then _ else _) = _
  rw [if_pos (cbor.at_isMap hroot), henter]
  show (whileNotAtEnd cbor (sensorUpdateEntry cbor target fuel) fuel map >>= _) = _
  rw [whileNotAtEnd, hrefuses map _ _ hmap fuel hfuel]
  rfl

/-- Telemetry fits the staging buffer. -/
theorem protoEncodeSensorUpdateInto_cbor {codec : Codec ι} (huse : codec.configUseCbor = true)
    (msg : ProtoSensorUpdate) :
    protoEncodeSensorUpdateInto codec msg true 2048 =
      some (encode (sensorUpdateItem msg), protoCrc32 (encode (sensorUpdateItem msg))) := by
  have hlength := length_sensorUpdateItem msg
  rw [protoEncodeSensorUpdateInto, huse]
  show cborInto (sensorUpdateItem msg) 2048 = _
  rw [cborInto, if_neg (by omega)]

/-- Whatever telemetry was encoded in CBOR, the decoder returns false on it. -/
theorem encoded_telemetry_refused {codec : Codec ι} (huse : codec.configUseCbor = true)
    {msg : ProtoSensorUpdate} (hid : msg.Terminated) {bufferLen : Nat} {payload : Bytes}
    {crc32 : UInt32}
    (hencode : protoEncodeSensorUpdateInto codec msg true bufferLen = some (payload, crc32)) :
    ∃ enough, ∀ fuel, enough ≤ fuel →
      protoDecodeSensorUpdate codec fuel payload true crc32 = .error .rejected := by
  rw [protoEncodeSensorUpdateInto, huse] at hencode
  obtain ⟨rfl, rfl⟩ := cborInto_eq_some hencode
  refine ⟨6, fun fuel hfuel => ?_⟩
  rw [protoDecodeSensorUpdate, crcAccepts_self, huse]
  exact decodeSensorUpdateCbor_sensorUpdateItem hid hfuel

/-- The telemetry of a node with one ambient sensor. -/
theorem encoded_telemetry_refused_ambient :
    ∃ enough, ∀ fuel, enough ≤ fuel →
      protoDecodeSensorUpdate (Codec.plain true) fuel (encode (sensorUpdateItem ambientUpdate)) true
        (protoCrc32 (encode (sensorUpdateItem ambientUpdate))) = .error .rejected := by
  refine @encoded_telemetry_refused _ (Codec.plain true) rfl ambientUpdate ?_ 2048 _ _
    (protoEncodeSensorUpdateInto_cbor rfl ambientUpdate)
  intro entry hmem
  obtain rfl := List.mem_singleton.mp hmem
  decide

/-- Telemetry without sensors is encoded in 2048 octets, with its CRC, and it is not decoded. -/
theorem not_all_telemetry_round_trips :
    (ProtoSensorUpdate.Terminated {} ∧
      protoEncodeSensorUpdateInto (Codec.plain true) {} true 2048 =
        some (encode (sensorUpdateItem {}), protoCrc32 (encode (sensorUpdateItem {})))) ∧
      protoDecodeSensorUpdate (Codec.plain true) 100 (encode (sensorUpdateItem {})) true
        (protoCrc32 (encode (sensorUpdateItem {}))) = .error .rejected := by
  have hid : ProtoSensorUpdate.Terminated {} := by
    intro entry hmem
    cases hmem
  refine ⟨⟨hid, protoEncodeSensorUpdateInto_cbor rfl {}⟩, ?_⟩
  rw [protoDecodeSensorUpdate, crcAccepts_self]
  exact decodeSensorUpdateCbor_sensorUpdateItem hid (by decide)

end Whole

end SensorHmi
