import SensorHmi.Sensor.Ds18b20

/-!
# Which devices telemetry lists

The task's list shrinks when a device is unplugged; the count of the data model only grows. So the
entries behind the task's list keep what they were last given. `listsPresent_iff` says at which
reads telemetry lists the devices of the latest scan, each once.
-/

namespace SensorHmi

open Trace

variable (build : SensorsBuild)

/-- The devices the latest successful scan found. -/
def latestScan (history : List SensorsAction) : List RomCode :=
  lastMarked SensorsAction.scannedDevices history

/-- When a read is completed, telemetry lists devices of the latest scan, each once. -/
def ListsPresent (history : List SensorsAction) : SensorsAction → Prop
  | .completed =>
      (performAll dataModelInit history).current.romCodes.Nodup ∧
        ∀ romCode ∈ (performAll dataModelInit history).current.romCodes,
          romCode ∈ latestScan history
  | _ => True

/-- The ROM code in an entry of telemetry. -/
def SensorDataModel.romAt (model : SensorDataModel) (i : Fin 4) : RomCode :=
  (model.current.ds18b20.get i).romCode

/-- The read of a list of devices writes to the entry. -/
def WrittenTo (devices : List RomCode) (inputs : SensorsInputs) (i : Nat) : Prop :=
  i < devices.length ∧ inputs.dsLock i = true

/-- The entry is in use after the read of a list of devices, which does not write to it. -/
def LeftAlone (model : SensorDataModel) (devices : List RomCode) (inputs : SensorsInputs)
    (i : Fin 4) : Prop :=
  ¬ WrittenTo devices inputs i ∧
    (i.val < model.current.ds18b20Count ∨ ∃ j, i.val < j ∧ WrittenTo devices inputs j)

/-- If the conversion is complete, the entries that the read leaves alone hold devices of the list
for which the lock is missed, no two the same. -/
def LeavesOnlyMissed (node : SensorsNode) (inputs : SensorsInputs) : Prop :=
  ds18b20ConversionComplete inputs node.task = true →
    let listed := listedDevices build node.task inputs
    (∀ i, LeftAlone node.model listed inputs i →
        ∃ j, listed[j]? = some (node.model.romAt i) ∧ inputs.dsLock j = false) ∧
      ∀ i j, LeftAlone node.model listed inputs i → LeftAlone node.model listed inputs j →
        node.model.romAt i = node.model.romAt j → i = j

section Entries

variable {model : SensorDataModel} {romCode : RomCode}

/-- The ROM codes listed are those of the entries below the count. -/
theorem mem_romCodes_iff :
    romCode ∈ model.current.romCodes ↔
      ∃ i : Fin 4, i.val < model.current.ds18b20Count ∧ model.romAt i = romCode := by
  unfold ProtoSensorUpdate.romCodes ProtoSensorUpdate.ds18b20Entries
  rw [List.mem_map]
  constructor
  · rintro ⟨entry, hmem, rfl⟩
    obtain ⟨i, hi, rfl⟩ := List.mem_take_iff_getElem.mp hmem
    have hlength : model.current.ds18b20.toList.length = 4 := by simp
    exact ⟨⟨i, by omega⟩, by simp only; omega, rfl⟩
  · rintro ⟨i, hi, rfl⟩
    refine ⟨model.current.ds18b20.get i, List.mem_take_iff_getElem.mpr ⟨i, ?_, rfl⟩, rfl⟩
    simp only [Vector.length_toList]
    omega

/-- They are distinct when the entries are. -/
theorem nodup_romCodes_iff :
    model.current.romCodes.Nodup ↔
      ∀ i j : Fin 4, i.val < model.current.ds18b20Count → j.val < model.current.ds18b20Count →
        model.romAt i = model.romAt j → i = j := by
  have hlength : model.current.romCodes.length = min model.current.ds18b20Count 4 := by
    simp [ProtoSensorUpdate.romCodes, ProtoSensorUpdate.ds18b20Entries]
  have hget : ∀ (i : Fin 4) (h : i.val < model.current.romCodes.length),
      model.current.romCodes[i.val] = model.romAt i := by
    intro i h
    simp [ProtoSensorUpdate.romCodes, ProtoSensorUpdate.ds18b20Entries, SensorDataModel.romAt,
      Vector.get_eq_getElem]
  rw [List.nodup_iff_injective_getElem]
  constructor
  · intro hinj i j hi hj hsame
    have hindex := @hinj ⟨i, by omega⟩ ⟨j, by omega⟩ (by
      show model.current.romCodes[i.val] = model.current.romCodes[j.val]
      rw [hget i (by omega), hget j (by omega), hsame])
    exact Fin.ext (Fin.mk.inj hindex)
  · rintro hdistinct ⟨i, hi⟩ ⟨j, hj⟩ hsame
    have hsame : model.current.romCodes[i] = model.current.romCodes[j] := hsame
    rw [hget ⟨i, by omega⟩ hi, hget ⟨j, by omega⟩ hj] at hsame
    have hindex := hdistinct ⟨i, by omega⟩ ⟨j, by omega⟩ (by simp only; omega) (by simp only; omega)
      hsame
    exact Fin.ext (Fin.mk.inj hindex)

end Entries

section Reads

variable {build} {inputs : SensorsInputs} {model : SensorDataModel}

/-- A model with these entries in use: what a read can change. -/
structure SameEntries (model other : SensorDataModel) : Prop where
  initialized : other.initialized = model.initialized
  romAt : ∀ i, other.romAt i = model.romAt i
  count : other.current.ds18b20Count = model.current.ds18b20Count

/-- The read of a device stores its ROM code. -/
theorem perform_read (device : RomCode) (i : Nat) :
    ∃ temp, ∀ model, (readDs18b20Temperature build inputs device i).perform model =
      dataModelSetDs18b20 (inputs.dsLock i) i device temp model := by
  unfold readDs18b20Temperature
  split
  · exact ⟨_, fun model => rfl⟩
  · exact ⟨_, fun model => rfl⟩

/-- Every other action leaves the one-wire entries alone. -/
theorem perform_of_not_read {action : SensorsAction} (h : action.isRead = false) :
    SameEntries model (action.perform model) := by
  cases action with
  | setSht20 locked index id temp humidity valid =>
      show SameEntries model (dataModelSetSht20 locked index id temp humidity valid model)
      unfold dataModelSetSht20 SensorDataModel.update
      split_ifs
      · exact ⟨rfl, fun _ => rfl, rfl⟩
      · exact ⟨rfl, fun _ => rfl, rfl⟩
      · exact ⟨rfl, fun _ => rfl, rfl⟩
  | scanned found => exact ⟨rfl, fun _ => rfl, rfl⟩
  | started devices => exact ⟨rfl, fun _ => rfl, rfl⟩
  | setDs18b20 locked measured index romCode temp => cases h
  | completed => cases h

theorem performAll_of_not_read {actions : List SensorsAction}
    (h : ∀ action ∈ actions, action.isRead = false) :
    SameEntries model (performAll model actions) := by
  refine List.foldlRecOn actions _ (motive := SameEntries model) ⟨rfl, fun _ => rfl, rfl⟩ ?_
  intro reached hreached action hmem
  have hstep := @perform_of_not_read reached action (h action hmem)
  exact ⟨hstep.initialized.trans hreached.initialized,
    fun i => (hstep.romAt i).trans (hreached.romAt i), hstep.count.trans hreached.count⟩

/-- One write to an entry. -/
theorem dataModelSetDs18b20_entries (hinit : model.initialized = true) {k : Nat} (hk : k < 4)
    (device : RomCode) (temp : Float32) :
    (dataModelSetDs18b20 true k device temp model).initialized = true ∧
      (∀ i : Fin 4, (dataModelSetDs18b20 true k device temp model).romAt i =
        if i.val = k then device else model.romAt i) ∧
      (dataModelSetDs18b20 true k device temp model).current.ds18b20Count =
        max model.current.ds18b20Count (k + 1) := by
  rw [dataModelSetDs18b20, if_neg (by omega), SensorDataModel.update, hinit]
  refine ⟨rfl, fun i => ?_, rfl⟩
  show ((model.current.ds18b20.setIfInBounds k ⟨device, temp⟩)[i.val]).romCode = _
  rw [Vector.getElem_setIfInBounds]
  by_cases hsame : k = i.val
  · rw [if_pos hsame, if_pos hsame.symm]
  · rw [if_neg hsame, if_neg (Ne.symm hsame)]
    rfl

/-- The read of a list of devices writes them to the first entries, where it gets the lock, and
raises the count to the last one written. -/
theorem performAll_reads (hinit : model.initialized = true) (devices : List RomCode)
    (hlength : devices.length ≤ 4) :
    let after := performAll model
      (devices.mapIdx fun i device => readDs18b20Temperature build inputs device i)
    after.initialized = true ∧
      (∀ i : Fin 4, WrittenTo devices inputs i → devices[i.val]? = some (after.romAt i)) ∧
      (∀ i : Fin 4, ¬ WrittenTo devices inputs i → after.romAt i = model.romAt i) ∧
      ∀ i, i < after.current.ds18b20Count ↔
        i < model.current.ds18b20Count ∨ ∃ j, i ≤ j ∧ WrittenTo devices inputs j := by
  induction devices using List.reverseRecOn with
  | nil => simp [performAll, hinit, WrittenTo]
  | append_singleton devices device ih =>
      rw [List.length_append, List.length_singleton] at hlength
      obtain ⟨hreached, hwritten, hleft, hcount⟩ := ih (by omega)
      obtain ⟨temp, htemp⟩ := @perform_read build inputs device devices.length
      simp only [performAll, List.mapIdx_concat, List.foldl_append, List.foldl_cons,
        List.foldl_nil, htemp]
      simp only [performAll] at hreached hwritten hleft hcount
      generalize List.foldl SensorsAction.perform model _ = reached
        at hreached hwritten hleft hcount
      -- the last device is written exactly when its lock is obtained
      have hsplit : ∀ i, WrittenTo (devices ++ [device]) inputs i ↔
          WrittenTo devices inputs i ∨ i = devices.length ∧ inputs.dsLock devices.length =
            true := by
        intro i
        simp only [WrittenTo, List.length_append, List.length_singleton, Nat.lt_succ_iff_lt_or_eq]
        constructor
        · rintro ⟨hlt | rfl, hlock⟩
          · exact Or.inl ⟨hlt, hlock⟩
          · exact Or.inr ⟨rfl, hlock⟩
        · rintro (⟨hlt, hlock⟩ | ⟨rfl, hlock⟩)
          · exact ⟨Or.inl hlt, hlock⟩
          · exact ⟨Or.inr rfl, hlock⟩
      cases hlock : inputs.dsLock devices.length with
      | false =>
          have hsame : dataModelSetDs18b20 false devices.length device temp reached = reached := by
            simp [dataModelSetDs18b20, SensorDataModel.update]
          simp only [hlock, Bool.false_eq_true, and_false, or_false] at hsplit
          simp only [hsame, hsplit]
          refine ⟨hreached, fun i hi => ?_, hleft, hcount⟩
          rw [List.getElem?_append_left hi.1]
          exact hwritten i hi
      | true =>
          obtain ⟨hready, hrom, hmax⟩ :=
            dataModelSetDs18b20_entries hreached (by omega : devices.length < 4) device temp
          simp only [hlock, and_true] at hsplit
          simp only [hsplit, hready, hrom, hmax, true_and]
          refine ⟨fun i hi => ?_, fun i hi => ?_, fun i => ?_⟩
          · rcases hi with hbefore | hlast
            · rw [if_neg (Nat.ne_of_lt hbefore.1), List.getElem?_append_left hbefore.1]
              exact hwritten i hbefore
            · rw [if_pos hlast, hlast, List.getElem?_concat_length]
          · rw [if_neg fun hlast => hi (Or.inr hlast)]
            exact hleft i fun hbefore => hi (Or.inl hbefore)
          · rw [lt_max_iff, hcount i]
            constructor
            · rintro ((hold | ⟨j, hle, hj⟩) | hnew)
              · exact Or.inl hold
              · exact Or.inr ⟨j, hle, Or.inl hj⟩
              · exact Or.inr ⟨devices.length, by omega, Or.inr rfl⟩
            · rintro (hold | ⟨j, hle, hj | rfl⟩)
              · exact Or.inl (Or.inl hold)
              · exact Or.inl (Or.inr ⟨j, hle, hj⟩)
              · exact Or.inr (by omega)

/-- The entries in use after the read are the written ones and those left alone. -/
theorem lt_count_iff {after : SensorDataModel} {devices : List RomCode}
    (hcount : ∀ i, i < after.current.ds18b20Count ↔
      i < model.current.ds18b20Count ∨ ∃ j, i ≤ j ∧ WrittenTo devices inputs j) (i : Fin 4) :
    i.val < after.current.ds18b20Count ↔
      WrittenTo devices inputs i ∨ LeftAlone model devices inputs i := by
  rw [hcount, LeftAlone]
  constructor
  · intro h
    by_cases hwritten : WrittenTo devices inputs i
    · exact Or.inl hwritten
    · refine Or.inr ⟨hwritten, h.imp_right ?_⟩
      rintro ⟨j, hle, hj⟩
      refine ⟨j, Nat.lt_of_le_of_ne hle ?_, hj⟩
      rintro rfl
      exact hwritten hj
  · rintro (hwritten | ⟨-, hold | ⟨j, hlt, hj⟩⟩)
    · exact Or.inr ⟨i, le_rfl, hwritten⟩
    · exact Or.inl hold
    · exact Or.inr ⟨j, hlt.le, hj⟩

/-- After the read telemetry lists devices of the list, each once, exactly when the entries left
alone hold devices that missed the lock, no two the same. -/
theorem listed_after_reads_iff (hinit : model.initialized = true) {devices : List RomCode}
    (hlength : devices.length ≤ 4) (hnodup : devices.Nodup) :
    let after := performAll model
      (devices.mapIdx fun i device => readDs18b20Temperature build inputs device i)
    (after.current.romCodes.Nodup ∧ ∀ romCode ∈ after.current.romCodes, romCode ∈ devices) ↔
      (∀ i, LeftAlone model devices inputs i →
          ∃ j, devices[j]? = some (model.romAt i) ∧ inputs.dsLock j = false) ∧
        ∀ i j, LeftAlone model devices inputs i → LeftAlone model devices inputs j →
          model.romAt i = model.romAt j → i = j := by
  obtain ⟨-, hwritten, hleft, hcount⟩ :=
    @performAll_reads build inputs model hinit devices hlength
  simp only [nodup_romCodes_iff, mem_romCodes_iff, lt_count_iff hcount]
  generalize performAll model _ = after at hwritten hleft
  have hindex : ∀ {i j : Nat} {romCode : RomCode}, devices[i]? = some romCode → devices[j]? =
    some romCode → i = j := by
    intro i j romCode hi hj
    obtain ⟨hlt, -⟩ := List.getElem?_eq_some_iff.mp hi
    exact (List.getElem?_inj hlt hnodup).mp (hi.trans hj.symm)
  constructor
  · rintro ⟨hdistinct, hmem⟩
    refine ⟨fun i hi => ?_, fun i j hi hj hsame => ?_⟩
    · obtain ⟨j, hj⟩ := List.mem_iff_getElem?.mp (hmem (after.romAt i) ⟨i, Or.inr hi, rfl⟩)
      have hlt := (List.getElem?_eq_some_iff.mp hj).1
      refine ⟨j, by rw [hj, hleft i hi.1], ?_⟩
      -- a device that got the lock stands in its own entry already
      by_contra hlock
      have hwrittenj : WrittenTo devices inputs j := ⟨hlt, by simpa using hlock⟩
      have hsame := hwritten ⟨j, by omega⟩ hwrittenj
      rw [hj] at hsame
      have heq := hdistinct i ⟨j, by omega⟩ (Or.inr hi) (Or.inl hwrittenj) (Option.some.inj hsame)
      exact hi.1 (heq ▸ hwrittenj)
    · refine hdistinct i j (Or.inr hi) (Or.inr hj) ?_
      rw [hleft i hi.1, hleft j hj.1, hsame]
  · rintro ⟨hmissed, hdistinct⟩
    -- a device that missed the lock is none that was written
    have hapart : ∀ i j : Fin 4, WrittenTo devices inputs i → LeftAlone model devices inputs j →
        after.romAt i ≠ after.romAt j := by
      intro i j hi hj hsame
      obtain ⟨k, hk, hlock⟩ := hmissed j hj
      rw [← hleft j hj.1, ← hsame] at hk
      have heq := hindex (hwritten i hi) hk
      rw [← heq, hi.2] at hlock
      cases hlock
    refine ⟨?_, ?_⟩
    · rintro i j (hi | hi) (hj | hj) hsame
      · have hromj := hwritten j hj
        rw [← hsame] at hromj
        exact Fin.ext (hindex (hwritten i hi) hromj)
      · exact absurd hsame (hapart i j hi hj)
      · exact absurd hsame.symm (hapart j i hj hi)
      · rw [hleft i hi.1, hleft j hj.1] at hsame
        exact hdistinct i j hi hj hsame
    · rintro romCode ⟨i, hi | hi, rfl⟩
      · exact List.mem_iff_getElem?.mpr ⟨i, hwritten i hi⟩
      · obtain ⟨k, hk, -⟩ := hmissed i hi
        rw [hleft i hi.1]
        exact List.mem_iff_getElem?.mpr ⟨k, hk⟩

end Reads

section Run

variable {build} {node : SensorsNode} {inputs : SensorsInputs} {history : List SensorsAction}

/-- What ties task and model to the actions so far. -/
structure ListInv (node : SensorsNode) (history : List SensorsAction) : Prop where
  model_eq : node.model = performAll dataModelInit history
  initialized : node.model.initialized = true
  scanned : latestScan history = node.task.dsDevices
  length_le : node.task.dsDevices.length ≤ 4
  nodup : node.task.dsDevices.Nodup

theorem nodup_onewireBusScan {maxDevices : Nat} {found : List RomCode}
    (hinputs : inputs.deviceIter.Nodup) (h : onewireBusScan inputs maxDevices = .ok found) :
    found.Nodup := by
  unfold onewireBusScan at h
  split at h
  · rw [← Except.ok.inj h]
    exact hinputs.sublist (List.take_sublist maxDevices _)
  · cases h

/-- A scan of distinct devices leaves a list of distinct devices. -/
theorem nodup_listedDevices {ctx : SensorsTaskCtx} (hinputs : inputs.deviceIter.Nodup)
    (h : ctx.dsDevices.Nodup) : (listedDevices build ctx inputs).Nodup := by
  rcases @ensureDs18b20Devices_cases build inputs ctx with ⟨hsame, -⟩ | ⟨hscan, -⟩
  · rw [hsame]
    exact h
  · exact nodup_onewireBusScan hinputs hscan

/-- The list follows the marks of scans. -/
theorem StepParts.latestScan_eq {ctx : SensorsTaskCtx} (parts : StepParts build ctx inputs)
    (h : latestScan history = ctx.dsDevices) :
    latestScan (history ++ (parts.ambient ++ parts.scan)) = listedDevices build ctx inputs := by
  have hambient : latestScan (history ++ parts.ambient) = ctx.dsDevices := by
    rw [← h]
    refine lastMarked_append_none fun action hmem => ?_
    have := parts.ambient_of_mem action hmem
    cases action <;> first | rfl | cases this
  rw [← List.append_assoc]
  rcases parts.scan_cases with ⟨hsame, hnone⟩ | ⟨-, hsome⟩
  · rw [hnone, List.append_nil, hambient, hsame]
  · rw [hsome]
    exact lastMarked_append_some rfl

/-- No action undoes the initialization. -/
theorem initialized_performAll {model : SensorDataModel} (h : model.initialized = true)
    (actions : List SensorsAction) : (performAll model actions).initialized = true := by
  refine List.foldlRecOn actions _ (motive := fun reached : SensorDataModel =>
    reached.initialized = true) h ?_
  intro reached hreached action _
  have hupdate : ∀ locked change, (reached.update locked change).initialized = true := by
    intro locked change
    unfold SensorDataModel.update
    split_ifs <;> exact hreached
  cases action with
  | setSht20 locked index id temp humidity valid =>
      show (dataModelSetSht20 locked index id temp humidity valid reached).initialized = true
      unfold dataModelSetSht20
      split_ifs
      · exact hreached
      · exact hupdate locked _
  | setDs18b20 locked measured index romCode temp =>
      show (dataModelSetDs18b20 locked index romCode temp reached).initialized = true
      unfold dataModelSetDs18b20
      split_ifs
      · exact hreached
      · exact hupdate locked _
  | scanned found => exact hreached
  | completed => exact hreached
  | started devices => exact hreached

theorem ListInv.step (h : ListInv node history) (hinputs : inputs.deviceIter.Nodup) :
    ListInv (sensorsNodeStep build node inputs).1
      (history ++ (sensorsNodeStep build node inputs).2) := by
  obtain ⟨parts⟩ := exists_stepParts build node.task inputs
  refine ⟨?_, initialized_performAll h.initialized _, ?_, ?_, ?_⟩
  · show performAll node.model (sensorsTaskStep build node.task inputs).2 =
      performAll dataModelInit (history ++ (sensorsTaskStep build node.task inputs).2)
    rw [performAll_append, ← h.model_eq]
  · show latestScan (history ++ (sensorsTaskStep build node.task inputs).2) =
      (sensorsTaskStep build node.task inputs).1.dsDevices
    rw [parts.devices_eq, ← parts.latestScan_eq h.scanned, parts.actions_eq, List.append_assoc,
      ← List.append_assoc history]
    refine lastMarked_append_none fun action hmem => ?_
    rcases List.mem_append.mp hmem with hread | hkick
    · have := isRead_of_mem_readActions build hread
      cases action <;> first | rfl | cases this
    · rcases parts.kick_cases with ⟨-, hnone⟩ | ⟨-, hsome⟩
      · rw [hnone] at hkick
        cases hkick
      · rw [hsome] at hkick
        rw [List.mem_singleton.mp hkick]
        rfl
  · show (sensorsTaskStep build node.task inputs).1.dsDevices.length ≤ 4
    rw [parts.devices_eq]
    exact length_listedDevices_le h.length_le
  · show (sensorsTaskStep build node.task inputs).1.dsDevices.Nodup
    rw [parts.devices_eq]
    exact nodup_listedDevices hinputs h.nodup

/-- Telemetry is right after the read of an iteration exactly when it leaves only missed devices
alone. -/
theorem ListInv.guarded_iff (h : ListInv node history) (hinputs : inputs.deviceIter.Nodup) :
    Guarded ListsPresent history (sensorsNodeStep build node inputs).2 ↔
      LeavesOnlyMissed build node inputs := by
  obtain ⟨parts⟩ := exists_stepParts build node.task inputs
  have hfree : ∀ action : SensorsAction, action.isRead = false →
      ∀ history, ListsPresent history action := by
    intro action hread history
    cases action <;> trivial
  show Guarded ListsPresent history (sensorsTaskStep build node.task inputs).2 ↔ _
  rw [parts.guarded_iff hfree, readActions, LeavesOnlyMissed]
  by_cases hcomplete : ds18b20ConversionComplete inputs node.task = true
  case neg => simp [hcomplete, Guarded]
  rw [if_pos hcomplete, List.take_of_length_le (length_listedDevices_le h.length_le)]
  have hlength := @length_listedDevices_le build _ inputs h.length_le
  have hnodup := @nodup_listedDevices build inputs _ hinputs h.nodup
  have hscanned := parts.latestScan_eq h.scanned
  generalize listedDevices build node.task inputs = listed at hlength hnodup hscanned ⊢
  -- the actions before the read leave the entries alone
  have hbefore : SameEntries node.model (performAll node.model (parts.ambient ++ parts.scan)) :=
    performAll_of_not_read parts.isRead_before
  have hmodel : ∀ actions, performAll dataModelInit
      (history ++ (parts.ambient ++ parts.scan) ++ actions) =
        performAll (performAll node.model (parts.ambient ++ parts.scan)) actions := by
    intro actions
    rw [performAll_append, performAll_append, h.model_eq]
  have hreads : ∀ action ∈ listed.mapIdx fun i device =>
      readDs18b20Temperature build inputs device i,
      action.scannedDevices = none ∧ ∀ history, ListsPresent history action := by
    intro action hmem
    obtain ⟨i, hi, rfl⟩ := List.mem_mapIdx.mp hmem
    unfold readDs18b20Temperature
    split
    · exact ⟨rfl, fun _ => trivial⟩
    · exact ⟨rfl, fun _ => trivial⟩
  have hlatest : latestScan (history ++ (parts.ambient ++ parts.scan) ++
    listed.mapIdx fun i device =>
      readDs18b20Temperature build inputs device i) = listed :=
    (lastMarked_append_none fun action hmem => (hreads action hmem).1).trans hscanned
  have hlisted := @listed_after_reads_iff build inputs _
    (hbefore.initialized.trans h.initialized) listed hlength hnodup
  simp only [LeftAlone, hbefore.count, hbefore.romAt] at hlisted
  simp only [hcomplete, true_imp_iff, LeftAlone]
  rw [← hlisted, guarded_append]
  constructor
  · rintro ⟨-, hcompleted, -⟩
    rw [ListsPresent, hlatest, hmodel] at hcompleted
    exact hcompleted
  · intro hpresent
    refine ⟨guarded_of_free fun action hmem => (hreads action hmem).2, ?_, trivial⟩
    rw [ListsPresent, hlatest, hmodel]
    exact hpresent

/-- Before its loop the task stores nothing. -/
theorem sensorsNodeStart_listInv (boot : SensorsInputs) (hboot : boot.deviceIter.Nodup) :
    ListInv (sensorsNodeStart build boot).1 (sensorsNodeStart build boot).2 := by
  obtain ⟨listed, scan, kick, hactions, hdevices, hscan, hkick⟩ := sensorsTaskStart_cases build boot
  refine ⟨rfl, initialized_performAll rfl _, ?_, ?_, ?_⟩
  · show latestScan (sensorsTaskStart build boot).2 = (sensorsTaskStart build boot).1.dsDevices
    rw [hactions, hdevices]
    have hquiet : ∀ action ∈ kick, action.scannedDevices = none := by
      rcases hkick with ⟨-, rfl⟩ | ⟨-, rfl⟩
      · simp
      · simp [SensorsAction.scannedDevices]
    rw [latestScan, lastMarked_append_none hquiet]
    rcases hscan with ⟨rfl, rfl⟩ | ⟨-, rfl⟩ <;> rfl
  · show (sensorsTaskStart build boot).1.dsDevices.length ≤ 4
    rw [hdevices]
    rcases hscan with ⟨rfl, -⟩ | ⟨hfound, -⟩
    · exact Nat.zero_le 4
    · exact length_onewireBusScan_le hfound
  · show (sensorsTaskStart build boot).1.dsDevices.Nodup
    rw [hdevices]
    rcases hscan with ⟨rfl, -⟩ | ⟨hfound, -⟩
    · exact List.nodup_nil
    · exact nodup_onewireBusScan hboot hfound

end Run

/-- With the lock always obtained, no entry is left alone exactly when the list is not shorter than
what telemetry already lists. -/
theorem leavesOnlyMissed_iff_of_locks {node : SensorsNode} {inputs : SensorsInputs}
    (hlocks : ∀ i, inputs.dsLock i = true) (hcount : node.model.current.ds18b20Count ≤ 4) :
    LeavesOnlyMissed build node inputs ↔
      (ds18b20ConversionComplete inputs node.task = true →
        node.model.current.ds18b20Count ≤ (listedDevices build node.task inputs).length) := by
  refine imp_congr_right fun _ => ?_
  dsimp only
  generalize listedDevices build node.task inputs = listed
  constructor
  · rintro ⟨hmissed, -⟩
    by_contra hlt
    have hleft : LeftAlone node.model listed inputs ⟨listed.length, by omega⟩ :=
      ⟨fun hwritten => absurd hwritten.1 (lt_irrefl _), Or.inl (by simp only; omega)⟩
    obtain ⟨j, -, hlock⟩ := hmissed _ hleft
    rw [hlocks j] at hlock
    cases hlock
  · intro hle
    have hnone : ∀ i, ¬ LeftAlone node.model listed inputs i := by
      rintro i ⟨hunwritten, hold | ⟨j, hlt, hwritten⟩⟩
      · exact hunwritten ⟨by omega, hlocks i⟩
      · exact hunwritten ⟨hlt.trans hwritten.1, hlocks i⟩
    exact ⟨fun i hi => absurd hi (hnone i), fun i _ hi => absurd hi (hnone i)⟩

/-- After every read telemetry lists devices of the latest scan, each once, exactly when no read
leaves an entry in use alone but for devices that missed the lock. -/
theorem listsPresent_iff (boot : SensorsInputs) (hboot : boot.deviceIter.Nodup)
    (events : List SensorsInputs) (hevents : ∀ inputs ∈ events, inputs.deviceIter.Nodup) :
    Guarded ListsPresent [] (sensorsNodeActions build boot events) ↔
      Machine.EachStep (sensorsNodeStep build) (LeavesOnlyMissed build)
        (sensorsNodeStart build boot).1 events := by
  rw [guarded_sensorsNodeActions_iff fun action hread history => by cases action <;> trivial]
  exact guarded_run_iff ListInv (fun inputs => inputs.deviceIter.Nodup)
    (fun node inputs history hinv hinputs => hinv.step hinputs)
    (fun node inputs history hinv hinputs => hinv.guarded_iff hinputs)
    (sensorsNodeStart_listInv boot hboot) hevents

/-- Two devices are found, converted and read. -/
theorem listsPresent_two_devices :
    Guarded ListsPresent []
      (sensorsNodeActions ⟨.none, 1000, id⟩
        (plugged 0 [Vector.replicate 8 1, Vector.replicate 8 2])
        [plugged 750 [Vector.replicate 8 1, Vector.replicate 8 2]]) := by
  refine (listsPresent_iff _ _ (by decide) _ (by decide)).mpr ⟨?_, trivial⟩
  refine (leavesOnlyMissed_iff_of_locks _ (fun _ => rfl) (Nat.zero_le 4)).mpr fun _ => ?_
  exact Nat.zero_le _

/-- The first of two devices is unplugged: the scan a minute later finds the second one, which
telemetry then lists twice. -/
theorem not_all_listed_once :
    ¬ ∀ (build : SensorsBuild) (boot : SensorsInputs), boot.deviceIter.Nodup →
      ∀ events : List SensorsInputs, (∀ inputs ∈ events, inputs.deviceIter.Nodup) →
        Guarded ListsPresent [] (sensorsNodeActions build boot events) := by
  intro h
  have hrun := h ⟨.none, 1000, id⟩ (plugged 0 [Vector.replicate 8 1, Vector.replicate 8 2])
    (by decide)
    [plugged 750 [Vector.replicate 8 1, Vector.replicate 8 2], plugged 60000 [Vector.replicate 8 2]]
    (by decide)
  have hactions : sensorsNodeActions ⟨.none, 1000, id⟩
      (plugged 0 [Vector.replicate 8 1, Vector.replicate 8 2])
      [plugged 750 [Vector.replicate 8 1, Vector.replicate 8 2],
        plugged 60000 [Vector.replicate 8 2]] =
      [.scanned [Vector.replicate 8 1, Vector.replicate 8 2],
        .started [Vector.replicate 8 1, Vector.replicate 8 2],
        .setDs18b20 true true 0 (Vector.replicate 8 1) 21,
        .setDs18b20 true true 1 (Vector.replicate 8 2) 21, .completed,
        .started [Vector.replicate 8 1, Vector.replicate 8 2],
        .scanned [Vector.replicate 8 2], .setDs18b20 true true 0 (Vector.replicate 8 2) 21,
        .completed, .started [Vector.replicate 8 2]] := by decide +kernel
  rw [hactions] at hrun
  have hlisted := guarded_iff.mp hrun
    [.scanned [Vector.replicate 8 1, Vector.replicate 8 2],
      .started [Vector.replicate 8 1, Vector.replicate 8 2],
      .setDs18b20 true true 0 (Vector.replicate 8 1) 21,
      .setDs18b20 true true 1 (Vector.replicate 8 2) 21, .completed,
      .started [Vector.replicate 8 1, Vector.replicate 8 2],
      .scanned [Vector.replicate 8 2], .setDs18b20 true true 0 (Vector.replicate 8 2) 21]
    .completed [.started [Vector.replicate 8 2]] rfl
  exact absurd hlisted.1 (by decide +kernel)

end SensorHmi
