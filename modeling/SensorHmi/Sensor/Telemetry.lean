import SensorHmi.Proto.Unprintable
import SensorHmi.Sensor.Ds18b20
import SensorHmi.Sensor.Publish

/-!
# Whether telemetry can be read

The sensor node as far as its telemetry goes: the acquisition task, the calls of the I/O task and
the publish loop over one data model, interleaved call by call. A frame is readable exactly when
the values in it are finite (`frames_readable_iff`); a read that fails before the first one that
succeeds stores NaN.
-/

namespace SensorHmi

open Octets Numeral

variable {ι : Type} (codec : Codec ι) (useCbor : Bool) (build : SensorsBuild)

/-- Where the publish loop is: before its next call. -/
inductive AppPoint
  | setTimestamp
  | shouldPublish
  | incrementSeq
  | build
  deriving DecidableEq

/-- The tasks and their data model. `pending` are the actions of an iteration of the acquisition
task that are still to come. -/
structure TelemetryNode where
  task : SensorsTaskCtx
  pending : List SensorsAction := []
  point : AppPoint := .setTimestamp
  model : SensorDataModel := dataModelInit

/-- The acquisition task begins an iteration or does its next action, the I/O task reports, or the
publish loop makes its next call; `locked` says whether a call gets the lock. -/
inductive TelemetryEvent
  | sensors (inputs : SensorsInputs)
  | sensorsAct
  | setGpio (locked : Bool) (devIndex : Nat) (porta portb : UInt16)
  | setPwm (locked : Bool) (duty : List UInt16) (frequencyHz : UInt16)
  | app (locked : Bool) (monotonicMs : UInt32)

/-- The node when all its tasks have been started. What the acquisition task does before its loop
leaves the data model alone. -/
def telemetryStart (boot : SensorsInputs) : TelemetryNode where
  task := (sensorsTaskStart build boot).1

/-- The next call of the publish loop, with the frame it sends. -/
def telemetryApp (node : TelemetryNode) (locked : Bool) (monotonicMs : UInt32) :
    TelemetryNode × List (Bytes × UInt32) :=
  match node.point with
  | .setTimestamp =>
      ({ node with
          model := dataModelSetTimestamp locked monotonicMs node.model
          point := .shouldPublish }, [])
  | .shouldPublish =>
      if dataModelShouldPublish locked tempThreshold humidityThreshold node.model then
        ({ node with point := .incrementSeq }, [])
      else ({ node with point := .setTimestamp }, [])
  | .incrementSeq =>
      ({ node with model := dataModelIncrementSeq locked node.model, point := .build }, [])
  | .build =>
      let (frame, model) := dataModelBuild codec locked useCbor node.model
      ({ node with model := model, point := .setTimestamp }, frame.toList)

/-- One event. -/
def telemetryStep (node : TelemetryNode) :
    TelemetryEvent → TelemetryNode × List (Bytes × UInt32)
  | .sensors inputs =>
      match node.pending with
      | [] =>
          let (task, actions) := sensorsTaskStep build node.task inputs
          ({ node with task := task, pending := actions }, [])
      | _ :: _ => (node, [])
  | .sensorsAct =>
      match node.pending with
      | [] => (node, [])
      | action :: rest => ({ node with model := action.perform node.model, pending := rest }, [])
  | .setGpio locked devIndex porta portb =>
      ({ node with model := dataModelSetGpio locked devIndex porta portb node.model }, [])
  | .setPwm locked duty frequencyHz =>
      ({ node with model := dataModelSetPwm locked duty frequencyHz node.model }, [])
  | .app locked monotonicMs => telemetryApp codec useCbor node locked monotonicMs

/-- A frame that is built is accepted with the CRC reported for it. -/
def FrameReadable (fuel : Nat) (node : TelemetryNode) (event : TelemetryEvent) : Prop :=
  match event, node.point with
  | .app locked _, .build => ∀ payload crc32 model,
      dataModelBuild codec locked useCbor node.model = (some (payload, crc32), model) →
        ∃ update, protoDecodeSensorUpdate codec fuel payload useCbor crc32 = .ok update
  | _, _ => True

/-- When a frame is built, the temperatures and humidities in use are finite. -/
def ReadingsFinite (node : TelemetryNode) (event : TelemetryEvent) : Prop :=
  match event, node.point with
  | .app locked _, .build => locked = true → node.model.current.AllFinite
  | _, _ => True

section Ids

/-- Characters JSON does not escape. -/
def PlainText (octets : Bytes) : Prop :=
  ∀ octet ∈ octets, octet ≠ 34 ∧ octet ≠ 92 ∧ 32 ≤ octet

/-- A copied identifier has no characters of its own. -/
theorem plain_idField {source : Bytes} (h : PlainText source) :
    PlainText (cString (idField (cString source)).toList) := by
  intro octet hmem
  have hne : octet ≠ 0 := by simpa using List.mem_takeWhile_imp hmem
  have hfield : octet ∈ (idField (cString source)).toList := (List.takeWhile_sublist _).subset hmem
  obtain ⟨i, hi, hget⟩ := List.getElem_of_mem hfield
  simp only [idField, Vector.getElem_toList, Vector.getElem_ofFn] at hget
  by_cases hinside : i < ((cString source).take 15).length
  · rw [List.getD_eq_getElem _ _ hinside] at hget
    have htaken : octet ∈ (cString source).take 15 := hget ▸ List.getElem_mem hinside
    exact h octet ((List.takeWhile_sublist _).subset (List.mem_of_mem_take htaken))
  · rw [List.getD_eq_default _ _ (by omega)] at hget
    exact absurd hget.symm hne

/-- The identifiers of the ambient sensors are plain. -/
theorem plain_ambientId (sensor : IoAmbientSensor) (i : Nat) : PlainText (ambientId sensor i) := by
  intro octet hmem
  have hname : PlainText (ambientSensorName sensor.type) := by
    unfold ambientSensorName
    cases sensor.type <;> (unfold PlainText; decide +kernel)
  rcases List.mem_append.mp (List.mem_of_mem_take hmem) with hhead | hdigit
  · rcases List.mem_append.mp hhead with hletter | hscore
    · exact hname octet hletter
    · rw [List.mem_singleton.mp hscore]
      decide
  · have hdigit := isDigit_of_mem_natText hdigit
    obtain ⟨hlow, hhigh⟩ := Bool.and_eq_true_iff.mp hdigit
    simp only [decide_eq_true_eq, UInt8.le_iff_toNat_le] at hlow hhigh
    refine ⟨?_, ?_, ?_⟩
    · rintro rfl
      exact absurd hlow (by decide)
    · rintro rfl
      exact absurd hhigh (by decide)
    · rw [UInt8.le_iff_toNat_le]
      exact le_trans (by decide) hlow

/-- What an action stores as an identifier is plain. -/
def SensorsAction.Plain : SensorsAction → Prop
  | .setSht20 _ _ id _ _ _ => PlainText id
  | _ => True

theorem plain_updateAmbientReading {inputs : SensorsInputs} {ctx : SensorsTaskCtx}
    (sensor : IoAmbientSensor) (i : Fin 2) :
    (updateAmbientReading build inputs ctx sensor i).2.Plain := by
  unfold updateAmbientReading
  split
  · exact plain_ambientId sensor i
  · exact plain_ambientId sensor i

theorem plain_updateAmbientReadings {inputs : SensorsInputs} {ctx : SensorsTaskCtx} :
    ∀ action ∈ (updateAmbientReadings build inputs ctx).2, action.Plain := by
  unfold updateAmbientReadings
  generalize (ioMapAmbient build.ambient).zip (List.finRange 2) = sensors
  refine List.foldlRecOn sensors _ (motive := fun reached : SensorsTaskCtx × List SensorsAction =>
    ∀ action ∈ reached.2, action.Plain) (by simp) ?_
  intro reached hreached sensor _ action hmem
  rcases List.mem_append.mp hmem with hold | hnew
  · exact hreached action hold
  · rw [List.mem_singleton.mp hnew]
    exact plain_updateAmbientReading build sensor.1 sensor.2

end Ids

section Run

variable {codec useCbor build} {node : TelemetryNode} {event : TelemetryEvent}

/-- An iteration of the acquisition task stores plain identifiers. -/
theorem plain_sensorsTaskStep {inputs : SensorsInputs} {ctx : SensorsTaskCtx} :
    ∀ action ∈ (sensorsTaskStep build ctx inputs).2, action.Plain := by
  intro action hmem
  have hactions : (sensorsTaskStep build ctx inputs).2 =
      let ambient := updateAmbientReadings build inputs ctx
      let scan := ensureDs18b20Devices build inputs ambient.1
      let reads := readDs18b20Temperatures build inputs scan.1
      let kick := kickDs18b20Conversion build inputs reads.1
      ambient.2 ++ scan.2 ++ reads.2 ++ kick.2 := rfl
  dsimp only at hactions
  rw [hactions] at hmem
  rcases List.mem_append.mp hmem with hmem | hkick
  · rcases List.mem_append.mp hmem with hmem | hread
    · rcases List.mem_append.mp hmem with hambient | hscan
      · exact plain_updateAmbientReadings build action hambient
      · rcases @ensureDs18b20Devices_cases build inputs (updateAmbientReadings build inputs ctx).1
          with ⟨-, hnone⟩ | ⟨-, hsome⟩
        · rw [hnone] at hscan
          cases hscan
        · rw [hsome] at hscan
          rw [List.mem_singleton.mp hscan]
          trivial
    · rw [readDs18b20Temperatures_eq.1] at hread
      split_ifs at hread
      · rcases List.mem_append.mp hread with hdevice | hlast
        · obtain ⟨i, hi, rfl⟩ := List.mem_mapIdx.mp hdevice
          unfold readDs18b20Temperature
          split
          · trivial
          · trivial
        · rw [List.mem_singleton.mp hlast]
          trivial
      · cases hread
  · rcases kickDs18b20Conversion_cases.2 with ⟨-, hnone⟩ | ⟨-, hsome⟩
    · rw [hnone] at hkick
      cases hkick
    · rw [hsome] at hkick
      rw [List.mem_singleton.mp hkick]
      trivial

/-- The model is initialized, and the identifiers in it and in the actions to come are plain. -/
structure TelemetryInv (node : TelemetryNode) : Prop where
  initialized : node.model.initialized = true
  entries : ∀ entry ∈ node.model.current.sht20.toList, PlainId entry
  pending : ∀ action ∈ node.pending, action.Plain

/-- A model that keeps its ambient entries. -/
structure SameAmbient (model other : SensorDataModel) : Prop where
  initialized : other.initialized = model.initialized
  sht20 : other.current.sht20 = model.current.sht20

theorem sameAmbient_update {model : SensorDataModel} {locked : Bool}
    {change : ProtoSensorUpdate → ProtoSensorUpdate}
    (h : (change model.current).sht20 = model.current.sht20) :
    SameAmbient model (model.update locked change) := by
  unfold SensorDataModel.update
  split_ifs
  · exact ⟨rfl, h⟩
  · exact ⟨rfl, rfl⟩

/-- Every action but that of an ambient sensor keeps the ambient entries, and that one stores what
it is given. -/
theorem plain_perform {model : SensorDataModel} {action : SensorsAction} (haction : action.Plain)
    (hinit : model.initialized = true) (h : ∀ entry ∈ model.current.sht20.toList, PlainId entry) :
    (action.perform model).initialized = true ∧
      ∀ entry ∈ (action.perform model).current.sht20.toList, PlainId entry := by
  cases action with
  | setSht20 locked index id temp humidity valid =>
      show (dataModelSetSht20 locked index id temp humidity valid model).initialized = true ∧
        ∀ entry ∈ (dataModelSetSht20 locked index id temp humidity valid
          model).current.sht20.toList,
          PlainId entry
      unfold dataModelSetSht20 SensorDataModel.update
      split_ifs
      · exact ⟨hinit, h⟩
      · refine ⟨hinit, fun entry hmem => ?_⟩
        obtain ⟨i, hi, hget⟩ := List.getElem_of_mem hmem
        have hi : i < 2 := by simpa using hi
        simp only [Vector.getElem_toList, Vector.getElem_setIfInBounds] at hget
        split_ifs at hget
        · rw [← hget]
          exact plain_idField haction
        · rw [← hget]
          exact h _ (by simp)
      · exact ⟨hinit, h⟩
  | setDs18b20 locked measured index romCode temp =>
      have hsame : SameAmbient model (dataModelSetDs18b20 locked index romCode temp model) := by
        unfold dataModelSetDs18b20
        split_ifs
        · exact ⟨rfl, rfl⟩
        · exact sameAmbient_update rfl
      refine ⟨hsame.initialized.trans hinit, ?_⟩
      show ∀ entry ∈ (dataModelSetDs18b20 locked index romCode temp model).current.sht20.toList,
        PlainId entry
      rw [hsame.sht20]
      exact h
  | scanned found => exact ⟨hinit, h⟩
  | completed => exact ⟨hinit, h⟩
  | started devices => exact ⟨hinit, h⟩

theorem TelemetryInv.of_sameAmbient (h : TelemetryInv node) {model : SensorDataModel}
    (hsame : SameAmbient node.model model) (point : AppPoint) :
    TelemetryInv ⟨node.task, node.pending, point, model⟩ where
  initialized := hsame.initialized.trans h.initialized
  entries := by
    show ∀ entry ∈ model.current.sht20.toList, PlainId entry
    rw [hsame.sht20]
    exact h.entries
  pending := h.pending

theorem sameAmbient_build (locked : Bool) (model : SensorDataModel) :
    SameAmbient model (dataModelBuild codec locked useCbor model).2 := by
  unfold dataModelBuild
  split_ifs
  · exact ⟨rfl, rfl⟩
  · generalize protoEncodeSensorUpdateInto codec model.current useCbor
      sensorDataModelMaxMessageSize = encoded
    cases encoded with
    | none => exact ⟨rfl, rfl⟩
    | some staged => exact ⟨rfl, rfl⟩

/-- Every event keeps identifiers plain. -/
theorem TelemetryInv.step (h : TelemetryInv node) :
    TelemetryInv (telemetryStep codec useCbor build node event).1 := by
  cases event with
  | sensors inputs =>
      unfold telemetryStep
      cases hpending : node.pending with
      | nil => exact ⟨h.initialized, h.entries, plain_sensorsTaskStep⟩
      | cons action rest => exact h
  | sensorsAct =>
      unfold telemetryStep
      cases hpending : node.pending with
      | nil => exact h
      | cons action rest =>
          have hplain : ∀ later ∈ action :: rest, later.Plain := hpending ▸ h.pending
          obtain ⟨hinit, hentries⟩ :=
            plain_perform (hplain action List.mem_cons_self) h.initialized h.entries
          exact ⟨hinit, hentries, fun later hmem => hplain later (List.mem_cons_of_mem _ hmem)⟩
  | setGpio locked devIndex porta portb =>
      refine h.of_sameAmbient ?_ node.point
      unfold dataModelSetGpio
      split_ifs
      · exact ⟨rfl, rfl⟩
      · exact sameAmbient_update rfl
  | setPwm locked duty frequencyHz => exact h.of_sameAmbient (sameAmbient_update rfl) node.point
  | app locked monotonicMs =>
      show TelemetryInv (telemetryApp codec useCbor node locked monotonicMs).1
      unfold telemetryApp
      cases hpoint : node.point with
      | setTimestamp => exact h.of_sameAmbient (sameAmbient_update rfl) _
      | shouldPublish =>
          dsimp only
          split_ifs
          · exact h.of_sameAmbient ⟨rfl, rfl⟩ _
          · exact h.of_sameAmbient ⟨rfl, rfl⟩ _
      | incrementSeq => exact h.of_sameAmbient (sameAmbient_update rfl) _
      | build => exact h.of_sameAmbient (sameAmbient_build locked node.model) _

/-- A frame is readable exactly when the values in it are finite. -/
theorem TelemetryInv.frameReadable_iff (h : TelemetryInv node)
    (hcjson : ∀ text, codec.cjson.parse text = Json.parse text)
    (hmode : (codec.configUseCbor && useCbor) = false) (fuel : Nat) :
    FrameReadable codec useCbor fuel node event ↔ ReadingsFinite node event := by
  have hplain : ∀ entry ∈ node.model.current.sht20Entries, PlainId entry := fun entry hmem =>
    h.entries entry (List.mem_of_mem_take hmem)
  cases event with
  | app locked monotonicMs =>
      cases hpoint : node.point with
      | build =>
          simp only [FrameReadable, ReadingsFinite, hpoint]
          cases locked with
          | false =>
              have hnone : dataModelBuild codec false useCbor node.model = (none, node.model) := by
                simp [dataModelBuild]
              simp [hnone]
          | true =>
              obtain ⟨payload, crc32, after, hbuild, -⟩ :=
                @dataModelBuild_eq ι codec useCbor node.model h.initialized
              have hdecode := @decode_json_isOk_iff _ ι codec useCbor fuel _ hcjson hmode hplain
                payload crc32 (encodes_of_build hbuild)
              rw [hbuild]
              constructor
              · intro hreadable _
                exact hdecode.mp (hreadable payload crc32 after rfl)
              · intro hfinite payload' crc32' model hsame
                cases hsame
                exact hdecode.mpr (hfinite rfl)
      | _ => simp only [FrameReadable, ReadingsFinite, hpoint]
  | _ => exact Iff.rfl

end Run

/-- In JSON mode, with a cJSON that accepts JSON texts only, every frame of a run is accepted by
the decoder exactly when at each build the temperatures and humidities in use are finite. -/
theorem frames_readable_iff (hcjson : ∀ text, codec.cjson.parse text = Json.parse text)
    (hmode : (codec.configUseCbor && useCbor) = false) (fuel : Nat) (boot : SensorsInputs)
    (events : List TelemetryEvent) :
    Machine.EachStep (telemetryStep codec useCbor build) (FrameReadable codec useCbor fuel)
        (telemetryStart build boot) events ↔
      Machine.EachStep (telemetryStep codec useCbor build) ReadingsFinite
        (telemetryStart build boot) events := by
  have hstart : TelemetryInv (telemetryStart build boot) := by
    refine ⟨rfl, fun entry hmem octet hoctet => ?_, by simp [telemetryStart]⟩
    have hentry : entry = {} := by
      revert hmem
      simp [telemetryStart, dataModelInit]
    rw [hentry] at hoctet
    cases hoctet
  exact Machine.eachStep_congr (fun node event hinv => hinv.step)
    (fun node event hinv => hinv.frameReadable_iff hcjson hmode fuel) hstart

/-- A board with one SHT20 and no one-wire device. -/
def sht20Build : SensorsBuild := ⟨.sht20, 1000, id⟩

/-- One iteration on that board, with what the SHT20 answers. -/
def sht20Inputs (answer : Except EspErr (Float32 × Float32)) : SensorsInputs where
  muxSelect _ := .ok
  ambientDriver _ := answer
  ambientLock _ := true
  scanTick := 0
  newDeviceIter := .ok
  deviceIter := []
  completeTick := 0
  checkConversion := .ok false
  readTemperature _ := .error .fail
  readTick _ := 0
  dsLock _ := true
  startConversion := .ok
  startTick := 0

/-- A reading of 21 °C and 50 % is published and read. -/
theorem frames_readable_sht20 :
    Machine.EachStep (telemetryStep (Codec.plain false) false sht20Build)
      (FrameReadable (Codec.plain false) false 0)
      (telemetryStart sht20Build (sht20Inputs (.ok (21, 50))))
      [.sensors (sht20Inputs (.ok (21, 50))), .sensorsAct, .app true 0, .app true 0, .app true 0,
        .app true 0] := by
  refine (frames_readable_iff (Codec.plain false) false sht20Build (fun _ => rfl) rfl 0 _ _).mpr ?_
  refine ⟨trivial, trivial, trivial, trivial, trivial, ?_, trivial⟩
  generalize hnode : (telemetryStep _ _ _ _ (.app true 0)).1 = node
  have hpoint : node.point = .build := by
    rw [← hnode]
    decide +kernel
  have hambient : ∀ entry ∈ node.model.current.sht20Entries,
      entry.temperatureC.isFinite = true ∧ entry.humidityPercent.isFinite = true := by
    rw [← hnode]
    decide +kernel
  have honewire : ∀ entry ∈ node.model.current.ds18b20Entries,
      entry.temperatureC.isFinite = true := by
    rw [← hnode]
    decide +kernel
  simp only [ReadingsFinite, hpoint]
  exact fun _ => ⟨hambient, honewire⟩

/-- The first read of the SHT20 fails: NaN is stored, published and refused. -/
theorem not_all_frames_readable :
    ¬ ∀ events : List TelemetryEvent,
      Machine.EachStep (telemetryStep (Codec.plain false) false sht20Build)
        (FrameReadable (Codec.plain false) false 0)
        (telemetryStart sht20Build (sht20Inputs (.error .timeout))) events := by
  intro h
  have hlast := (h [.sensors (sht20Inputs (.error .timeout)), .sensorsAct, .app true 0, .app true 0,
    .app true 0, .app true 0]).2.2.2.2.2.1
  generalize hnode : (telemetryStep _ _ _ _ (.app true 0)).1 = node at hlast
  have hpoint : node.point = .build := by
    rw [← hnode]
    decide +kernel
  have hinit : node.model.initialized = true := by
    rw [← hnode]
    decide +kernel
  have hplain : ∀ entry ∈ node.model.current.sht20Entries, PlainId entry := by
    rw [← hnode]
    unfold PlainId
    decide +kernel
  have hnan : node.model.current.sht20Entries.all (·.temperatureC.isFinite) = false := by
    rw [← hnode]
    decide +kernel
  obtain ⟨payload, crc32, after, hbuild, -⟩ :=
    @dataModelBuild_eq _ (Codec.plain false) false node.model hinit
  simp only [FrameReadable, hpoint] at hlast
  have hfinite := (decode_json_isOk_iff (fun _ => rfl) rfl hplain (encodes_of_build hbuild)).mp
    (hlast payload crc32 after hbuild)
  refine Bool.eq_false_iff.mp hnan (List.all_eq_true.mpr fun entry hmem => ?_)
  exact (hfinite.sht20 entry hmem).1

end SensorHmi
