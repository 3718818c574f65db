import SensorHmi.Lib.IeeeOrder
import SensorHmi.Sensor.Publish

/-!
# What goes unpublished

`data_model_should_publish` as a comparison of two snapshots. It says yes exactly when it sees a
change (`shouldPublish_iff`). What it does not look at are the counts and the valid flags, and it
cannot see a number that is no longer finite: where none of these has changed, the snapshots agree
whenever it says no (`unpublished_agree_iff`).
-/

namespace SensorHmi

open Octets

variable {ι : Type}

/-- A call that changes the data model: by a task, or by the publish loop. -/
inductive DataModelEvent
  | set (locked : Bool) (call : DataModelCall)
  | setTimestamp (locked : Bool) (timestampMs : UInt32)
  | incrementSeq (locked : Bool)
  | build (locked useCbor : Bool)

/-- The data model after a call. -/
def DataModelEvent.perform (codec : Codec ι) (model : SensorDataModel) :
    DataModelEvent → SensorDataModel
  | .set locked call => call.perform locked model
  | .setTimestamp locked timestampMs => dataModelSetTimestamp locked timestampMs model
  | .incrementSeq locked => dataModelIncrementSeq locked model
  | .build locked useCbor => (dataModelBuild codec locked useCbor model).2

/-- The entries at one place are in the relation. -/
def EachPair {α : Type} (related : α → α → Prop) (entries table : List α) : Prop :=
  ∀ (i : Nat) (now before : α), entries[i]? = some now → table[i]? = some before →
    related now before

section Snapshots

variable (tempThreshold humidityThreshold : Float32) (last current : ProtoSensorUpdate)

/-- Neither value is finite, or both are and lie within the threshold. -/
def Agree (threshold now before : Float32) : Prop :=
  (now.isFinite = false ∧ before.isFinite = false) ∨
    (now.isFinite = true ∧ before.isFinite = true ∧ (now - before).abs ≤ threshold)

/-- The snapshots list the same sensors with the same flags, show the same ports and duties, and
agree in each value of a sensor listed. -/
structure SnapshotsAgree : Prop where
  sht20Count : current.sht20Count = last.sht20Count
  ds18b20Count : current.ds18b20Count = last.ds18b20Count
  valid : ∀ i : Fin 2, (current.sht20.get i).valid = (last.sht20.get i).valid
  mcp : current.mcp = last.mcp
  frequencyHz : current.pwm.frequencyHz = last.pwm.frequencyHz
  dutyCycle : current.pwm.dutyCycle = last.pwm.dutyCycle
  sht20 : EachPair (fun now before =>
    Agree tempThreshold now.temperatureC before.temperatureC ∧
      Agree humidityThreshold now.humidityPercent before.humidityPercent)
    current.sht20Entries last.sht20.toList
  ds18b20 : EachPair (fun now before =>
    Agree tempThreshold now.temperatureC before.temperatureC)
    current.ds18b20Entries last.ds18b20.toList

/-- A value of a sensor listed has changed by more than its threshold, or a port, the frequency or
a duty has changed. -/
def ChangeSeen : Prop :=
  (∃ (i : Nat) (now before : ProtoSht20Reading), current.sht20Entries[i]? = some now ∧
    last.sht20.toList[i]? = some before ∧
      (valueChanged now.temperatureC before.temperatureC tempThreshold = true ∨
        valueChanged now.humidityPercent before.humidityPercent humidityThreshold = true)) ∨
  (∃ (i : Nat) (now before : ProtoDs18b20Reading), current.ds18b20Entries[i]? = some now ∧
    last.ds18b20.toList[i]? = some before ∧
      valueChanged now.temperatureC before.temperatureC tempThreshold = true) ∨
  current.mcp ≠ last.mcp ∨ current.pwm.dutyCycle ≠ last.pwm.dutyCycle ∨
    current.pwm.frequencyHz ≠ last.pwm.frequencyHz

/-- No count and no valid flag has changed, and no value of a sensor listed has become finite or
ceased to be. -/
structure NothingUnseen : Prop where
  sht20Count : current.sht20Count = last.sht20Count
  ds18b20Count : current.ds18b20Count = last.ds18b20Count
  valid : ∀ i : Fin 2, (current.sht20.get i).valid = (last.sht20.get i).valid
  sht20 : EachPair (fun now before =>
    now.temperatureC.isFinite = before.temperatureC.isFinite ∧
      now.humidityPercent.isFinite = before.humidityPercent.isFinite)
    current.sht20Entries last.sht20.toList
  ds18b20 : EachPair (fun now before =>
    now.temperatureC.isFinite = before.temperatureC.isFinite)
    current.ds18b20Entries last.ds18b20.toList

end Snapshots

section Comparison

variable {tempThreshold humidityThreshold : Float32} {model : SensorDataModel}

/-- Some pair of entries at one place passes a test. -/
theorem any_zip_iff {α : Type} {changed : α × α → Bool} {entries table : List α} :
    (entries.zip table).any changed = true ↔
      ∃ (i : Nat) (now before : α), entries[i]? = some now ∧ table[i]? = some before ∧
        changed (now, before) = true := by
  rw [List.any_eq_true]
  constructor
  · rintro ⟨⟨now, before⟩, hmem, hchanged⟩
    obtain ⟨i, hi⟩ := List.mem_iff_getElem?.mp hmem
    obtain ⟨hnow, hbefore⟩ := List.getElem?_zip_eq_some.mp hi
    exact ⟨i, now, before, hnow, hbefore, hchanged⟩
  · rintro ⟨i, now, before, hnow, hbefore, hchanged⟩
    have hpair : (entries.zip table)[i]? = some (now, before) :=
      List.getElem?_zip_eq_some.mpr ⟨hnow, hbefore⟩
    exact ⟨(now, before), List.mem_of_getElem? hpair, hchanged⟩

/-- The comparison says yes exactly when nothing was published yet or it sees a change. -/
theorem shouldPublish_iff (hinit : model.initialized = true) :
    dataModelShouldPublish true tempThreshold humidityThreshold model = true ↔
      model.lastPublished.sequenceId = 0 ∨
        ChangeSeen tempThreshold humidityThreshold model.lastPublished model.current := by
  unfold dataModelShouldPublish
  simp only [hinit, Bool.and_true, Bool.not_true, Bool.false_eq_true, if_false]
  by_cases hfirst : model.lastPublished.sequenceId = 0
  · simp [hfirst]
  · rw [if_neg hfirst]
    simp only [hfirst, false_or, Bool.or_eq_true, any_zip_iff, decide_eq_true_eq,
      ChangeSeen, or_assoc]

/-- A value that has not changed visibly agrees with the one before exactly when both are finite or
neither is. -/
theorem agree_iff {threshold now before : Float32} (hthreshold : 0 ≤ threshold)
    (hsame : ¬ valueChanged now before threshold = true) :
    Agree threshold now before ↔ now.isFinite = before.isFinite := by
  have hbound : threshold.isNaN = false := Ieee.isNaN_of_single_le hthreshold
  have hnear : ¬ threshold < (now - before).abs := fun hlt => hsame (decide_eq_true hlt)
  unfold Agree
  cases hnow : now.isFinite <;> cases hbefore : before.isFinite
  · simp
  · simp
  · simp
  · simpa using Ieee.abs_sub_le_of_not_lt hnow hbefore hbound hnear

theorem EachPair.congr {α : Type} {related other : α → α → Prop} {entries table : List α}
    (h : ∀ (i : Nat) (now before : α), entries[i]? = some now → table[i]? = some before →
      (related now before ↔ other now before)) :
    EachPair related entries table ↔ EachPair other entries table :=
  forall_congr' fun i => forall_congr' fun now => forall_congr' fun before =>
    forall_congr' fun hnow => forall_congr' fun hbefore => h i now before hnow hbefore

/-- Where no change is seen, the snapshots agree exactly when there is none unseen. -/
theorem snapshotsAgree_iff {last current : ProtoSensorUpdate} (htemp : 0 ≤ tempThreshold)
    (hhumidity : 0 ≤ humidityThreshold)
    (hquiet : ¬ ChangeSeen tempThreshold humidityThreshold last current) :
    SnapshotsAgree tempThreshold humidityThreshold last current ↔ NothingUnseen last current := by
  unfold ChangeSeen at hquiet
  simp only [not_or, not_not] at hquiet
  obtain ⟨hambient, honewire, hmcp, hduty, hfreq⟩ := hquiet
  have hsht20 : EachPair (fun now before =>
      Agree tempThreshold now.temperatureC before.temperatureC ∧
        Agree humidityThreshold now.humidityPercent before.humidityPercent)
      current.sht20Entries last.sht20.toList ↔ EachPair (fun now before =>
        now.temperatureC.isFinite = before.temperatureC.isFinite ∧
          now.humidityPercent.isFinite = before.humidityPercent.isFinite)
        current.sht20Entries last.sht20.toList := by
    refine EachPair.congr fun i now before hnow hbefore => and_congr ?_ ?_
    · exact agree_iff htemp fun hchanged =>
        hambient ⟨i, now, before, hnow, hbefore, Or.inl hchanged⟩
    · exact agree_iff hhumidity fun hchanged =>
        hambient ⟨i, now, before, hnow, hbefore, Or.inr hchanged⟩
  have hds18b20 : EachPair (fun now before =>
      Agree tempThreshold now.temperatureC before.temperatureC)
      current.ds18b20Entries last.ds18b20.toList ↔ EachPair (fun now before =>
        now.temperatureC.isFinite = before.temperatureC.isFinite)
        current.ds18b20Entries last.ds18b20.toList :=
    EachPair.congr fun i now before hnow hbefore => agree_iff htemp fun hchanged =>
      honewire ⟨i, now, before, hnow, hbefore, hchanged⟩
  constructor
  · intro hagree
    exact ⟨hagree.sht20Count, hagree.ds18b20Count, hagree.valid, hsht20.mp hagree.sht20,
      hds18b20.mp hagree.ds18b20⟩
  · intro hnothing
    exact ⟨hnothing.sht20Count, hnothing.ds18b20Count, hnothing.valid, hmcp, hfreq, hduty,
      hsht20.mpr hnothing.sht20, hds18b20.mpr hnothing.ds18b20⟩

end Comparison

/-- For every initialised data model and all thresholds that are not negative: if the comparison
says no then the snapshot last published agrees with the present one, exactly when a change is seen,
or nothing has been published, or else no change is unseen. -/
theorem unpublished_agree_iff {tempThreshold humidityThreshold : Float32} {model : SensorDataModel}
    (hinit : model.initialized = true) (htemp : 0 ≤ tempThreshold)
    (hhumidity : 0 ≤ humidityThreshold) :
    (dataModelShouldPublish true tempThreshold humidityThreshold model = false →
      SnapshotsAgree tempThreshold humidityThreshold model.lastPublished model.current) ↔
    model.lastPublished.sequenceId = 0 ∨
      ChangeSeen tempThreshold humidityThreshold model.lastPublished model.current ∨
        NothingUnseen model.lastPublished model.current := by
  have hpublish := @shouldPublish_iff tempThreshold humidityThreshold model hinit
  rw [← or_assoc, ← hpublish]
  cases hdecision : dataModelShouldPublish true tempThreshold humidityThreshold model with
  | true => simp
  | false =>
      rw [hdecision] at hpublish
      have hquiet : ¬ ChangeSeen tempThreshold humidityThreshold model.lastPublished
          model.current := fun hseen => Bool.noConfusion (hpublish.mpr (Or.inr hseen))
      simp only [Bool.false_eq_true, false_or, true_imp_iff]
      exact snapshotsAgree_iff htemp hhumidity hquiet

/-- The data model after a sensor has been published and has then failed with its values kept. -/
def failedAfterPublish : SensorDataModel :=
  [DataModelEvent.set true (.setSht20 0 (ascii "SHT20_A") 20 50 true), .incrementSeq true,
    .build true false, .set true (.setSht20 0 (ascii "SHT20_A") 20 50 false)].foldl
      (DataModelEvent.perform (Codec.plain false)) dataModelInit

theorem unpublished_agree_failed :
    (dataModelShouldPublish true 0.3 1 failedAfterPublish = false →
      SnapshotsAgree 0.3 1 failedAfterPublish.lastPublished failedAfterPublish.current) ↔
    failedAfterPublish.lastPublished.sequenceId = 0 ∨
      ChangeSeen 0.3 1 failedAfterPublish.lastPublished failedAfterPublish.current ∨
        NothingUnseen failedAfterPublish.lastPublished failedAfterPublish.current :=
  unpublished_agree_iff (by decide +kernel) (by decide +kernel) (by decide +kernel)

/-- A sensor that fails goes unpublished: only its flag changes. -/
theorem not_unpublished_agree :
    ¬ ∀ (events : List DataModelEvent) (tempThreshold humidityThreshold : Float32),
      0 ≤ tempThreshold → 0 ≤ humidityThreshold →
        dataModelShouldPublish true tempThreshold humidityThreshold
          (events.foldl (DataModelEvent.perform (Codec.plain false)) dataModelInit) = false →
        SnapshotsAgree tempThreshold humidityThreshold
          (events.foldl (DataModelEvent.perform (Codec.plain false)) dataModelInit).lastPublished
          (events.foldl (DataModelEvent.perform (Codec.plain false)) dataModelInit).current := by
  intro h
  have hagree : SnapshotsAgree 0.3 1 failedAfterPublish.lastPublished failedAfterPublish.current :=
    h _ 0.3 1 (by decide +kernel) (by decide +kernel) (by decide +kernel)
  have hflags : (failedAfterPublish.current.sht20.get 0).valid ≠
      (failedAfterPublish.lastPublished.sht20.get 0).valid := by
    decide +kernel
  exact hflags (hagree.valid 0)

end SensorHmi
