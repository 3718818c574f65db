import SensorHmi.Proto.JsonBuffer
import SensorHmi.Sensor.ShouldPublish

/-!
# The staging buffers

`data_model_build` with the octets of `encode_buffers`, which an encoder also writes to when it
gives up. `next_encode_index` moves with a success only, so a failure stores in the buffer the last
success did not return (`staging_buffers`).
-/

namespace SensorHmi

open Octets Printed

variable {ι : Type}

/-- What a call does that returns this encoding, in a buffer of the capacity. -/
structure StoresEncoding (encoding : Option (Bytes × UInt32)) (out : EncoderOutputs)
    (result : Bool × EncoderOutputs) : Prop where
  returned : result.1 = encoding.isSome
  stored : ∀ payload crc32, encoding = some (payload, crc32) →
    (List.range result.2.bufferLen).map result.2.memory = payload ∧
      result.2.crc32 = out.crc32.map fun _ => crc32
  outside : ∀ i, out.bufferLen ≤ i → result.2.memory i = out.memory i

/-- `encode_sensor_update_cbor_into` with the writer of tinycbor, which stores in the capacity. What
it leaves there when it fails is its own. -/
structure CborWriter where
  encode : ProtoSensorUpdate → EncoderOutputs → Bool × EncoderOutputs
  stores : ∀ msg out,
    StoresEncoding (encodeSensorUpdateCborInto msg out.bufferLen) out (encode msg out)

/-- An encoder that stores the encoding once it is complete. -/
def encodeSensorUpdateWhole (msg : ProtoSensorUpdate) (out : EncoderOutputs) :
    Bool × EncoderOutputs :=
  match encodeSensorUpdateCborInto msg out.bufferLen with
  | none => (false, out)
  | some (payload, crc32) =>
      (true, ⟨store out.memory 0 payload, payload.length, out.crc32.map fun _ => crc32⟩)

theorem encodeSensorUpdateWhole_stores (msg : ProtoSensorUpdate) (out : EncoderOutputs) :
    StoresEncoding (encodeSensorUpdateCborInto msg out.bufferLen) out
      (encodeSensorUpdateWhole msg out) := by
  have hlength : ∀ payload crc32, encodeSensorUpdateCborInto msg out.bufferLen =
      some (payload, crc32) → payload.length ≤ out.bufferLen := by
    intro payload crc32 hencoded
    unfold encodeSensorUpdateCborInto cborInto at hencoded
    split_ifs at hencoded with hfull
    cases hencoded
    omega
  unfold encodeSensorUpdateWhole
  cases hencoded : encodeSensorUpdateCborInto msg out.bufferLen with
  | none => exact ⟨rfl, fun _ _ h => (by cases h), fun _ _ => rfl⟩
  | some encoded =>
      obtain ⟨payload, crc32⟩ := encoded
      have hfits := hlength payload crc32 hencoded
      refine ⟨rfl, fun _ _ h => ?_, fun i hi => store_outside (by omega)⟩
      cases h
      refine ⟨map_range_eq fun i hi => ?_, rfl⟩
      have hread := @store_inside _ out.memory 0 payload i hi
      rwa [Nat.zero_add] at hread

/-- The writer over this encoder. -/
def CborWriter.whole : CborWriter := ⟨encodeSensorUpdateWhole, encodeSensorUpdateWhole_stores⟩

/-- `proto_encode_sensor_update_into` -/
def encodeSensorUpdateBuffer (codec : Codec ι) (cbor : CborWriter) (msg : ProtoSensorUpdate)
    (useCbor : Bool) (out : EncoderOutputs) : Bool × EncoderOutputs :=
  if codec.configUseCbor && useCbor then cbor.encode msg out
  else encodeSensorUpdateJsonBuffer msg out

theorem encodeSensorUpdateBuffer_stores (codec : Codec ι) (cbor : CborWriter)
    (msg : ProtoSensorUpdate) (useCbor : Bool) (out : EncoderOutputs) :
    StoresEncoding (protoEncodeSensorUpdateInto codec msg useCbor out.bufferLen) out
      (encodeSensorUpdateBuffer codec cbor msg useCbor out) := by
  unfold protoEncodeSensorUpdateInto encodeSensorUpdateBuffer
  split_ifs
  · exact cbor.stores msg out
  have hexact := encodeSensorUpdateJsonBuffer_exact msg out
  refine ⟨?_, fun payload crc32 hencoded => ?_, hexact.outside⟩
  · apply Bool.eq_iff_iff.mpr
    rw [Option.isSome_iff_exists]
    constructor
    · intro hreturned
      exact ⟨_, encodeSensorUpdateJsonInto_iff.mpr ⟨hreturned, rfl, rfl⟩⟩
    · rintro ⟨⟨payload, crc32⟩, hencoded⟩
      exact (encodeSensorUpdateJsonInto_iff.mp hencoded).1
  · obtain ⟨hreturned, rfl, rfl⟩ := encodeSensorUpdateJsonInto_iff.mp hencoded
    refine ⟨?_, hexact.crc32 hreturned⟩
    rw [hexact.bufferLen hreturned]
    exact map_range_eq (hexact.stored hreturned)

/-- `sensor_data_model_t` with the octets of `encode_buffers`, one buffer after the other. The
`encodeBuffers` of the model are the payloads staged last. -/
structure StagedModel where
  model : SensorDataModel
  octets : Nat → UInt8
  encodeLengths : Nat → Nat

/-- `*out_buf` as an offset in `encode_buffers`, `*out_len`, and `*crc32` unless the pointer is
NULL. -/
structure BuildOutputs where
  outBuf : Option Nat
  outLen : Nat
  crc32 : Option UInt32

/-- What a call of `data_model_build` returns. -/
structure BuildResult where
  ok : Bool
  outputs : BuildOutputs

/-- The staging buffer with this index. -/
def encodeBuffer (index : Nat) : Nat :=
  index * sensorDataModelMaxMessageSize

/-- `data_model_build` -/
def dataModelBuildStaged (codec : Codec ι) (cbor : CborWriter) (locked useCbor : Bool)
    (staged : StagedModel) (outputs : BuildOutputs) : BuildResult × StagedModel :=
  if !(staged.model.initialized && locked) then (⟨false, outputs⟩, staged)
  else
    let index := staged.model.nextEncodeIndex % sensorDataModelBufferCount
    let buffer := encodeBuffer index
    let (ok, written) := encodeSensorUpdateBuffer codec cbor staged.model.current useCbor
      ⟨fun i => staged.octets (buffer + i), sensorDataModelMaxMessageSize, some 0⟩
    let octets := fun place =>
      if place < buffer then staged.octets place else written.memory (place - buffer)
    if ok then
      (⟨true, ⟨some buffer, written.bufferLen, outputs.crc32.map fun _ => written.crc32.getD 0⟩⟩,
        { model :=
            { staged.model with
              lastPublished := staged.model.current
              encodeBuffers := staged.model.encodeBuffers.setIfInBounds index
                ((List.range written.bufferLen).map written.memory)
              nextEncodeIndex := (index + 1) % sensorDataModelBufferCount }
          octets := octets
          encodeLengths := Function.update staged.encodeLengths index written.bufferLen })
    else (⟨false, outputs⟩, { staged with octets := octets })

/-- A call of the data model; `data_model_build` gets the outputs of its caller. -/
def stagedStep (codec : Codec ι) (cbor : CborWriter) (staged : StagedModel)
    (call : DataModelEvent × BuildOutputs) : StagedModel × List BuildResult :=
  match call.1 with
  | .build locked useCbor =>
      let (result, staged) := dataModelBuildStaged codec cbor locked useCbor staged call.2
      (staged, [result])
  | event => ({ staged with model := event.perform codec staged.model }, [])

/-- `data_model_init` -/
def stagedInit : StagedModel where
  model := dataModelInit
  octets _ := 0
  encodeLengths _ := 0

section Build

variable {codec : Codec ι} {cbor : CborWriter} {locked useCbor : Bool} {staged : StagedModel}
  {outputs : BuildOutputs}

/-- The staging buffer the next build encodes into. -/
def StagedModel.nextBuffer (staged : StagedModel) : Nat :=
  encodeBuffer (staged.model.nextEncodeIndex % sensorDataModelBufferCount)

/-- A failed build changes octets of the next buffer and nothing else. -/
structure FailedBuild (staged : StagedModel) (outputs : BuildOutputs)
    (built : BuildResult × StagedModel) : Prop where
  outputs : built.1.outputs = outputs
  model : built.2.model = staged.model
  encodeLengths : built.2.encodeLengths = staged.encodeLengths

/-- A successful build returns the encoding of the snapshot, staged in the next buffer, and moves
on to the other one. -/
structure SuccessfulBuild (codec : Codec ι) (useCbor : Bool) (staged : StagedModel)
    (built : BuildResult × StagedModel) : Prop where
  outBuf : built.1.outputs.outBuf = some staged.nextBuffer
  lastPublished : built.2.model.lastPublished = staged.model.current
  nextEncodeIndex : built.2.model.nextEncodeIndex =
    (staged.model.nextEncodeIndex % sensorDataModelBufferCount + 1) % sensorDataModelBufferCount
  outLen_le : built.1.outputs.outLen ≤ sensorDataModelMaxMessageSize
  encodes : ∃ crc32, protoEncodeSensorUpdateInto codec built.2.model.lastPublished useCbor
    sensorDataModelMaxMessageSize =
      some ((List.range built.1.outputs.outLen).map fun i => built.2.octets (staged.nextBuffer + i),
        crc32)

/-- An encoding is no longer than the buffer it is made for. -/
theorem length_of_protoEncodeSensorUpdateInto {msg : ProtoSensorUpdate} {bufferLen : Nat}
    {payload : Bytes} {crc32 : UInt32}
    (h : protoEncodeSensorUpdateInto codec msg useCbor bufferLen = some (payload, crc32)) :
    payload.length ≤ bufferLen := by
  unfold protoEncodeSensorUpdateInto at h
  split_ifs at h
  · unfold encodeSensorUpdateCborInto cborInto at h
    split_ifs at h with hfull
    cases h
    omega
  · obtain ⟨hfits, rfl, -⟩ := jsonInto_eq_some_iff.mp h
    exact hfits.le

/-- A build does one of the two, and stores nothing outside the next buffer. -/
theorem dataModelBuildStaged_spec :
    let built := dataModelBuildStaged codec cbor locked useCbor staged outputs
    (∀ place, place < staged.nextBuffer ∨
        staged.nextBuffer + sensorDataModelMaxMessageSize ≤ place →
      built.2.octets place = staged.octets place) ∧
    ((built.1.ok = false ∧ FailedBuild staged outputs built) ∨
      (built.1.ok = true ∧ SuccessfulBuild codec useCbor staged built)) := by
  intro built
  unfold built dataModelBuildStaged
  by_cases hlock : (!(staged.model.initialized && locked)) = true
  · rw [if_pos hlock]
    exact ⟨fun _ _ => rfl, .inl ⟨rfl, rfl, rfl, rfl⟩⟩
  rw [if_neg hlock]
  have hstores := encodeSensorUpdateBuffer_stores codec cbor staged.model.current useCbor
    ⟨fun i => staged.octets (staged.nextBuffer + i), sensorDataModelMaxMessageSize, some 0⟩
  dsimp only
  change
    StoresEncoding (protoEncodeSensorUpdateInto codec staged.model.current useCbor
      sensorDataModelMaxMessageSize) _ _ at hstores
  rw [StagedModel.nextBuffer] at hstores ⊢
  generalize encodeSensorUpdateBuffer codec cbor staged.model.current useCbor _ = result
    at hstores ⊢
  obtain ⟨ok, written⟩ := result
  generalize hbuffer : encodeBuffer
    (staged.model.nextEncodeIndex % sensorDataModelBufferCount) = buffer at hstores ⊢
  have houtside : ∀ place, place < buffer ∨ buffer + sensorDataModelMaxMessageSize ≤ place →
      (if place < buffer then staged.octets place else written.memory (place - buffer)) =
        staged.octets place := by
    intro place hplace
    split_ifs with hbelow
    · rfl
    · have hstored := hstores.outside (place - buffer)
        (by show sensorDataModelMaxMessageSize ≤ place - buffer; omega)
      have hback : buffer + (place - buffer) = place := by omega
      exact hstored.trans (congrArg staged.octets hback)
  cases ok with
  | false => exact ⟨houtside, .inl ⟨rfl, rfl, rfl, rfl⟩⟩
  | true =>
      obtain ⟨⟨payload, crc32⟩, hencoded⟩ := Option.isSome_iff_exists.mp hstores.returned.symm
      have hstored := (hstores.stored payload crc32 hencoded).1
      refine ⟨houtside, .inr ⟨rfl, ?_, rfl, rfl, ?_, crc32, hencoded.trans ?_⟩⟩
      · show some buffer = some (encodeBuffer _)
        rw [hbuffer]
      · have hlength := congrArg List.length hstored
        rw [List.length_map, List.length_range] at hlength
        exact hlength.le.trans (length_of_protoEncodeSensorUpdateInto hencoded)
      · rw [StagedModel.nextBuffer, hbuffer, ← hstored]
        have hread : (fun i => if buffer + i < buffer then staged.octets (buffer + i)
            else written.memory (buffer + i - buffer)) = written.memory := by
          funext i
          rw [if_neg (by omega), Nat.add_sub_cancel_left]
        show some ((List.range written.bufferLen).map written.memory, crc32) =
          some ((List.range written.bufferLen).map (fun i => if buffer + i < buffer then
            staged.octets (buffer + i) else written.memory (buffer + i - buffer)), crc32)
        rw [hread]

/-- Without its octets the model is the one of `dataModelBuild`. -/
theorem dataModelBuildStaged_model :
    (dataModelBuildStaged codec cbor locked useCbor staged outputs).2.model =
      (dataModelBuild codec locked useCbor staged.model).2 := by
  have hstores := encodeSensorUpdateBuffer_stores codec cbor staged.model.current useCbor
    ⟨fun i => staged.octets (staged.nextBuffer + i), sensorDataModelMaxMessageSize, some 0⟩
  unfold dataModelBuildStaged dataModelBuild
  by_cases hlock : (!(staged.model.initialized && locked)) = true
  · rw [if_pos hlock, if_pos hlock]
  rw [if_neg hlock, if_neg hlock]
  dsimp only
  rw [StagedModel.nextBuffer] at hstores
  generalize encodeSensorUpdateBuffer codec cbor staged.model.current useCbor _ = result
    at hstores ⊢
  obtain ⟨ok, written⟩ := result
  dsimp only at hstores
  generalize protoEncodeSensorUpdateInto codec staged.model.current useCbor
    sensorDataModelMaxMessageSize = encoded at hstores ⊢
  have hreturned : ok = encoded.isSome := hstores.returned
  subst hreturned
  cases encoded with
  | none => rfl
  | some frame =>
      obtain ⟨payload, crc32⟩ := frame
      have hstored : (List.range written.bufferLen).map written.memory = payload :=
        (hstores.stored payload crc32 rfl).1
      subst hstored
      rfl

/-- The octets a build returned, as they are later. -/
def StagedModel.returnedOctets (staged : StagedModel) (outputs : BuildOutputs) : Bytes :=
  (List.range outputs.outLen).map fun i => staged.octets (outputs.outBuf.getD 0 + i)

end Build

section Run

variable {codec : Codec ι} {cbor : CborWriter} {staged : StagedModel}
  {call : DataModelEvent × BuildOutputs} {events quiet : List (DataModelEvent × BuildOutputs)}

/-- No build of these succeeded. -/
def NoneSucceeded (results : List BuildResult) : Prop :=
  ∀ result ∈ results, result.ok = false

/-- Only a build touches the index. -/
theorem nextEncodeIndex_perform {event : DataModelEvent} {model : SensorDataModel}
    (hset : ∀ locked useCbor, event ≠ .build locked useCbor) :
    (event.perform codec model).nextEncodeIndex = model.nextEncodeIndex := by
  have hupdate : ∀ locked change,
      (model.update locked change).nextEncodeIndex = model.nextEncodeIndex := by
    intro locked change
    unfold SensorDataModel.update
    split_ifs <;> rfl
  have hguarded : ∀ (bound index : Nat) locked change,
      (if bound ≤ index then model else model.update locked change).nextEncodeIndex =
        model.nextEncodeIndex := by
    intro bound index locked change
    split_ifs
    · rfl
    · exact hupdate locked change
  cases event with
  | build locked useCbor => exact absurd rfl (hset locked useCbor)
  | setTimestamp locked timestampMs => exact hupdate locked _
  | incrementSeq locked => exact hupdate locked _
  | set locked call =>
      cases call with
      | setSht20 index id temp humidity valid => exact hguarded 2 index locked _
      | setDs18b20 index romCode temp => exact hguarded 4 index locked _
      | setGpio devIndex porta portb => exact hguarded 2 devIndex locked _
      | setPwm duty frequencyHz => exact hupdate locked _

/-- A step stores in the next buffer alone, and the index moves with a success only. -/
structure StepKeeps (staged : StagedModel) (result : StagedModel × List BuildResult) : Prop where
  outside : ∀ place, place < staged.nextBuffer ∨
      staged.nextBuffer + sensorDataModelMaxMessageSize ≤ place →
    result.1.octets place = staged.octets place
  index : NoneSucceeded result.2 →
    result.1.model.nextEncodeIndex = staged.model.nextEncodeIndex
  index_lt : staged.model.nextEncodeIndex < sensorDataModelBufferCount →
    result.1.model.nextEncodeIndex < sensorDataModelBufferCount

theorem stagedStep_keeps : StepKeeps staged (stagedStep codec cbor staged call) := by
  obtain ⟨event, outputs⟩ := call
  have hset : (∀ locked useCbor, event ≠ .build locked useCbor) → ∀ results,
      StepKeeps staged ({ staged with model := event.perform codec staged.model }, results) := by
    intro hset results
    have hindex := @nextEncodeIndex_perform _ codec event staged.model hset
    exact ⟨fun _ _ => rfl, fun _ => hindex, fun hlt => hindex.trans_lt hlt⟩
  cases event with
  | set locked call => exact hset (fun _ _ h => by cases h) []
  | setTimestamp locked timestampMs => exact hset (fun _ _ h => by cases h) []
  | incrementSeq locked => exact hset (fun _ _ h => by cases h) []
  | build locked useCbor =>
      obtain ⟨houtside, hbuilt⟩ :=
        @dataModelBuildStaged_spec _ codec cbor locked useCbor staged outputs
      refine ⟨houtside, fun hnone => ?_, fun hlt => ?_⟩
      · rcases hbuilt with ⟨-, hfailed⟩ | ⟨hok, -⟩
        · exact congrArg SensorDataModel.nextEncodeIndex hfailed.model
        · have hno : (dataModelBuildStaged codec cbor locked useCbor staged outputs).1.ok = false :=
            hnone _ List.mem_cons_self
          cases hok.symm.trans hno
      · rcases hbuilt with ⟨-, hfailed⟩ | ⟨-, hdone⟩
        · exact (congrArg SensorDataModel.nextEncodeIndex hfailed.model).trans_lt hlt
        · exact hdone.nextEncodeIndex.trans_lt (Nat.mod_lt _ (by decide))

/-- A run without a success stores in the next buffer alone and leaves the index. -/
theorem run_keeps (hnone : NoneSucceeded (Machine.run (stagedStep codec cbor) staged quiet).2) :
    StepKeeps staged (Machine.run (stagedStep codec cbor) staged quiet) := by
  induction quiet generalizing staged with
  | nil => exact ⟨fun _ _ => rfl, fun _ => rfl, fun hlt => hlt⟩
  | cons call rest ih =>
      have hfirst := @stagedStep_keeps _ codec cbor staged call
      have hnow : NoneSucceeded (stagedStep codec cbor staged call).2 := fun result hmem =>
        hnone result (List.mem_append_left _ hmem)
      have hrest := ih fun result hmem => hnone result (List.mem_append_right _ hmem)
      have hindex := hfirst.index hnow
      have hbuffer : (stagedStep codec cbor staged call).1.nextBuffer = staged.nextBuffer := by
        rw [StagedModel.nextBuffer, hindex, StagedModel.nextBuffer]
      refine ⟨fun place hplace => ?_, fun _ => ?_, fun hlt => hrest.index_lt (hfirst.index_lt hlt)⟩
      · have hthere : place < (stagedStep codec cbor staged call).1.nextBuffer ∨
            (stagedStep codec cbor staged call).1.nextBuffer + sensorDataModelMaxMessageSize ≤
              place := by
          rw [hbuffer]
          exact hplace
        exact (hrest.outside place hthere).trans (hfirst.outside place hplace)
      · exact (hrest.index fun result hmem => hnone result (List.mem_append_right _ hmem)).trans
          hindex

/-- The two staging buffers do not overlap. -/
theorem encodeBuffer_apart {index place : Nat} (h : encodeBuffer (index % 2) ≤ place)
    (hplace : place < encodeBuffer (index % 2) + sensorDataModelMaxMessageSize) :
    place < encodeBuffer ((index % 2 + 1) % 2) ∨
      encodeBuffer ((index % 2 + 1) % 2) + sensorDataModelMaxMessageSize ≤ place := by
  unfold encodeBuffer sensorDataModelMaxMessageSize at *
  omega

end Run

/-- In every run from the start: the index stays in range, a failed build leaves everything but the
next staging buffer as it was, and what a successful build returned stays as it is through every
failure and the next success. -/
theorem staging_buffers (codec : Codec ι) (cbor : CborWriter)
    (events : List (DataModelEvent × BuildOutputs)) :
    let staged := (Machine.run (stagedStep codec cbor) stagedInit events).1
    staged.model.nextEncodeIndex < sensorDataModelBufferCount ∧
    ∀ locked useCbor outputs,
      let built := dataModelBuildStaged codec cbor locked useCbor staged outputs
      (built.1.ok = false → FailedBuild staged outputs built) ∧
      (built.1.ok = true → SuccessfulBuild codec useCbor staged built ∧
        ∀ quiet, NoneSucceeded (Machine.run (stagedStep codec cbor) built.2 quiet).2 →
          (Machine.run (stagedStep codec cbor) built.2 quiet).1.returnedOctets built.1.outputs =
            built.2.returnedOctets built.1.outputs ∧
          ∀ call, (Machine.run (stagedStep codec cbor) built.2
              (quiet ++ [call])).1.returnedOctets built.1.outputs =
            built.2.returnedOctets built.1.outputs) := by
  intro staged
  refine ⟨?_, fun locked useCbor outputs => ?_⟩
  · have hstart : stagedInit.model.nextEncodeIndex < sensorDataModelBufferCount := by decide
    exact @Machine.run_invariant _ _ _ (stagedStep codec cbor) stagedInit events
      (fun staged => staged.model.nextEncodeIndex < sensorDataModelBufferCount) (fun _ => True)
      (fun staged call hlt _ => (@stagedStep_keeps _ codec cbor staged call).index_lt hlt)
      hstart fun _ _ => trivial
  intro built
  obtain ⟨-, hbuilt⟩ := @dataModelBuildStaged_spec _ codec cbor locked useCbor staged outputs
  refine ⟨fun hno => ?_, fun hyes => ?_⟩
  · rcases hbuilt with ⟨-, hfailed⟩ | ⟨hok, -⟩
    · exact hfailed
    · cases hok.symm.trans hno
  rcases hbuilt with ⟨hno, -⟩ | ⟨-, hdone⟩
  · cases hyes.symm.trans hno
  have hkept : ∀ after : StagedModel,
      (∀ place, place < built.2.nextBuffer ∨
          built.2.nextBuffer + sensorDataModelMaxMessageSize ≤ place →
        after.octets place = built.2.octets place) →
      after.returnedOctets built.1.outputs = built.2.returnedOctets built.1.outputs := by
    intro after houtside
    refine List.map_congr_left fun i hi => houtside _ ?_
    have hlength : built.1.outputs.outLen ≤ sensorDataModelMaxMessageSize := hdone.outLen_le
    have hi := List.mem_range.mp hi
    rw [hdone.outBuf, Option.getD_some, StagedModel.nextBuffer, StagedModel.nextBuffer,
      hdone.nextEncodeIndex]
    have hapart := @encodeBuffer_apart staged.model.nextEncodeIndex
      (encodeBuffer (staged.model.nextEncodeIndex % 2) + i) (Nat.le_add_right _ _) (by omega)
    rwa [sensorDataModelBufferCount, Nat.mod_mod]
  refine ⟨hdone, fun quiet hnone => ⟨hkept _ (run_keeps hnone).outside, fun call => hkept _ ?_⟩⟩
  intro place hplace
  have hquiet := run_keeps hnone
  have hbuffer : (Machine.run (stagedStep codec cbor) built.2 quiet).1.nextBuffer =
      built.2.nextBuffer := by
    rw [StagedModel.nextBuffer, hquiet.index hnone, StagedModel.nextBuffer]
  have hlast := (@stagedStep_keeps _ codec cbor
    (Machine.run (stagedStep codec cbor) built.2 quiet).1 call).outside place (by rwa [hbuffer])
  rw [Machine.run_append]
  exact hlast.trans (hquiet.outside place hplace)

end SensorHmi
