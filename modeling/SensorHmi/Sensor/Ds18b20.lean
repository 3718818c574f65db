import SensorHmi.Lib.Trace
import SensorHmi.Sensor.SensorsTask

/-!
# Which device a one-wire temperature comes from

A scan may fall between the start of a conversion and the read: then the list that is read is not
the list that was started. `converting_iff` says that this is the only way a temperature is stored
of a device that was not converting, and which scans do it.
-/

namespace SensorHmi

open Trace

variable (build : SensorsBuild)

/-- The task with the data model it writes to. -/
structure SensorsNode where
  task : SensorsTaskCtx
  model : SensorDataModel

/-- The data model after actions of the task. -/
def performAll (model : SensorDataModel) (actions : List SensorsAction) : SensorDataModel :=
  actions.foldl SensorsAction.perform model

theorem performAll_append (model : SensorDataModel) (first second : List SensorsAction) :
    performAll model (first ++ second) = performAll (performAll model first) second :=
  List.foldl_append

/-- The node when the loop of the task is reached. -/
def sensorsNodeStart (boot : SensorsInputs) : SensorsNode × List SensorsAction :=
  let (task, actions) := sensorsTaskStart build boot
  (⟨task, performAll dataModelInit actions⟩, actions)

/-- One iteration of the task. -/
def sensorsNodeStep (node : SensorsNode) (inputs : SensorsInputs) :
    SensorsNode × List SensorsAction :=
  let (task, actions) := sensorsTaskStep build node.task inputs
  (⟨task, performAll node.model actions⟩, actions)

/-- Everything the task does from its start on. -/
def sensorsNodeActions (boot : SensorsInputs) (events : List SensorsInputs) : List SensorsAction :=
  let (node, actions) := sensorsNodeStart build boot
  actions ++ (Machine.run (sensorsNodeStep build) node events).2

/-- The devices of the last action with a mark. -/
def lastMarked (mark : SensorsAction → Option (List RomCode)) (history : List SensorsAction) :
    List RomCode :=
  (history.filterMap mark).getLast?.getD []

/-- The devices a conversion is started on. -/
def SensorsAction.startedDevices : SensorsAction → Option (List RomCode)
  | .started devices => some devices
  | _ => none

/-- The devices a scan found. -/
def SensorsAction.scannedDevices : SensorsAction → Option (List RomCode)
  | .scanned found => some found
  | _ => none

/-- The devices the last conversion was started on. -/
def lastStarted (history : List SensorsAction) : List RomCode :=
  lastMarked SensorsAction.startedDevices history

/-- A measured temperature that is stored is that of a device the last conversion was started
on. -/
def OfConverting (history : List SensorsAction) : SensorsAction → Prop
  | .setDs18b20 locked measured _ romCode _ =>
      locked = true → measured = true → romCode ∈ lastStarted history
  | _ => True

/-- The devices the task knows once it has scanned, if it does. -/
def listedDevices (ctx : SensorsTaskCtx) (inputs : SensorsInputs) : List RomCode :=
  (ensureDs18b20Devices build inputs ctx).1.dsDevices

/-- If the conversion is complete, every device on the list that it was not started on fails its
read or misses the lock. -/
def NewcomersFail (node : SensorsNode) (inputs : SensorsInputs) : Prop :=
  ds18b20ConversionComplete inputs node.task = true →
    ∀ i device, (listedDevices build node.task inputs)[i]? = some device →
      device ∉ node.task.converting →
        (∃ err, inputs.readTemperature i = .error err) ∨ inputs.dsLock i = false

section Frames

/-- Contexts that agree in everything about the one-wire bus. -/
structure SameDs (ctx other : SensorsTaskCtx) : Prop where
  devices : other.dsDevices = ctx.dsDevices
  pending : other.dsConversionPending = ctx.dsConversionPending
  ready : other.dsReadyTick = ctx.dsReadyTick
  nextScan : other.nextDsScanTick = ctx.nextDsScanTick
  converting : other.converting = ctx.converting

/-- The actions that concern an ambient sensor. -/
def SensorsAction.isAmbient : SensorsAction → Bool
  | .setSht20 .. => true
  | _ => false

variable {build} {inputs : SensorsInputs} {ctx : SensorsTaskCtx}

theorem updateAmbientReading_frame (sensor : IoAmbientSensor) (i : Fin 2) :
    SameDs ctx (updateAmbientReading build inputs ctx sensor i).1 ∧
      (updateAmbientReading build inputs ctx sensor i).2.isAmbient = true := by
  unfold updateAmbientReading
  split
  · exact ⟨⟨rfl, rfl, rfl, rfl, rfl⟩, rfl⟩
  · exact ⟨⟨rfl, rfl, rfl, rfl, rfl⟩, rfl⟩

/-- Reading the ambient sensors leaves everything about the one-wire bus alone. -/
theorem updateAmbientReadings_frame :
    SameDs ctx (updateAmbientReadings build inputs ctx).1 ∧
      ∀ action ∈ (updateAmbientReadings build inputs ctx).2, action.isAmbient = true := by
  unfold updateAmbientReadings
  generalize (ioMapAmbient build.ambient).zip (List.finRange 2) = sensors
  have hstart : SameDs ctx ctx ∧ ∀ action ∈ ([] : List SensorsAction), action.isAmbient = true :=
    ⟨⟨rfl, rfl, rfl, rfl, rfl⟩, by simp⟩
  refine List.foldlRecOn sensors _ (motive := fun reached : SensorsTaskCtx × List SensorsAction =>
    SameDs ctx reached.1 ∧ ∀ action ∈ reached.2, action.isAmbient = true) hstart ?_
  intro reached hreached sensor _
  obtain ⟨hsame, hambient⟩ :=
    @updateAmbientReading_frame build inputs reached.1 sensor.1 sensor.2
  refine ⟨⟨?_, ?_, ?_, ?_, ?_⟩, ?_⟩
  · exact hsame.devices.trans hreached.1.devices
  · exact hsame.pending.trans hreached.1.pending
  · exact hsame.ready.trans hreached.1.ready
  · exact hsame.nextScan.trans hreached.1.nextScan
  · exact hsame.converting.trans hreached.1.converting
  · intro action hmem
    rcases List.mem_append.mp hmem with hold | hnew
    · exact hreached.2 action hold
    · rw [List.mem_singleton.mp hnew]
      exact hambient

/-- A scan looks only at the list and at its tick. -/
theorem SameDs.listed {other : SensorsTaskCtx} (h : SameDs ctx other) :
    listedDevices build other inputs = listedDevices build ctx inputs := by
  unfold listedDevices ensureDs18b20Devices
  rw [h.devices, h.nextScan]
  split_ifs
  · exact h.devices
  · cases onewireBusScan inputs 4 with
    | ok found => rfl
    | error err => rfl

theorem SameDs.complete {other : SensorsTaskCtx} (h : SameDs ctx other) :
    ds18b20ConversionComplete inputs other = ds18b20ConversionComplete inputs ctx := by
  rw [ds18b20ConversionComplete, h.pending, h.ready]
  rfl

end Frames

section Step

variable {build} {inputs : SensorsInputs} {ctx : SensorsTaskCtx}

/-- A scan that finds something new or nothing leaves a mark; no scan, or a failed one, leaves the
list. -/
theorem ensureDs18b20Devices_cases :
    (listedDevices build ctx inputs = ctx.dsDevices ∧
        (ensureDs18b20Devices build inputs ctx).2 = []) ∨
      (onewireBusScan inputs 4 = .ok (listedDevices build ctx inputs) ∧
        (ensureDs18b20Devices build inputs ctx).2 =
          [.scanned (listedDevices build ctx inputs)]) := by
  unfold listedDevices ensureDs18b20Devices
  split_ifs
  · exact Or.inl ⟨rfl, rfl⟩
  · cases onewireBusScan inputs 4 with
    | ok found => exact Or.inr ⟨rfl, rfl⟩
    | error err => exact Or.inl ⟨rfl, rfl⟩

theorem ensureDs18b20Devices_frame :
    ds18b20ConversionComplete inputs (ensureDs18b20Devices build inputs ctx).1 =
        ds18b20ConversionComplete inputs ctx ∧
      (ensureDs18b20Devices build inputs ctx).1.converting = ctx.converting := by
  unfold ensureDs18b20Devices
  split_ifs
  · exact ⟨rfl, rfl⟩
  · cases onewireBusScan inputs 4 with
    | ok found => exact ⟨rfl, rfl⟩
    | error err => exact ⟨rfl, rfl⟩

/-- The start of a conversion leaves a mark and the ghost. -/
theorem kickDs18b20Conversion_cases :
    (kickDs18b20Conversion build inputs ctx).1.dsDevices = ctx.dsDevices ∧
      (((kickDs18b20Conversion build inputs ctx).1.converting = ctx.converting ∧
          (kickDs18b20Conversion build inputs ctx).2 = []) ∨
        ((kickDs18b20Conversion build inputs ctx).1.converting = ctx.dsDevices ∧
          (kickDs18b20Conversion build inputs ctx).2 = [.started ctx.dsDevices])) := by
  unfold kickDs18b20Conversion
  split_ifs
  · exact ⟨rfl, Or.inl ⟨rfl, rfl⟩⟩
  · cases inputs.startConversion with
    | ok => exact ⟨rfl, Or.inr ⟨rfl, rfl⟩⟩
    | _ => exact ⟨rfl, Or.inl ⟨rfl, rfl⟩⟩

/-- The actions of the read, if the conversion is complete. -/
def readActions (build : SensorsBuild) (ctx : SensorsTaskCtx) (inputs : SensorsInputs) :
    List SensorsAction :=
  if ds18b20ConversionComplete inputs ctx then
    ((listedDevices build ctx inputs).take 4).mapIdx
        (fun i device => readDs18b20Temperature build inputs device i) ++ [.completed]
  else []

/-- What one iteration does: ambient sensors, a scan, a read of the devices then listed, and the
start of a conversion on them. -/
structure StepParts (build : SensorsBuild) (ctx : SensorsTaskCtx) (inputs : SensorsInputs) where
  ambient : List SensorsAction
  scan : List SensorsAction
  kick : List SensorsAction
  actions_eq : (sensorsTaskStep build ctx inputs).2 =
    ambient ++ scan ++ readActions build ctx inputs ++ kick
  ambient_of_mem : ∀ action ∈ ambient, action.isAmbient = true
  scan_cases : (listedDevices build ctx inputs = ctx.dsDevices ∧ scan = []) ∨
    (onewireBusScan inputs 4 = .ok (listedDevices build ctx inputs) ∧
      scan = [.scanned (listedDevices build ctx inputs)])
  kick_cases : ((sensorsTaskStep build ctx inputs).1.converting = ctx.converting ∧ kick = []) ∨
    ((sensorsTaskStep build ctx inputs).1.converting = listedDevices build ctx inputs ∧
      kick = [.started (listedDevices build ctx inputs)])
  devices_eq : (sensorsTaskStep build ctx inputs).1.dsDevices = listedDevices build ctx inputs

theorem readDs18b20Temperatures_eq :
    (readDs18b20Temperatures build inputs ctx).2 =
        (if ds18b20ConversionComplete inputs ctx then
          (ctx.dsDevices.take 4).mapIdx
            (fun i device => readDs18b20Temperature build inputs device i) ++ [.completed]
        else []) ∧
      (readDs18b20Temperatures build inputs ctx).1.dsDevices = ctx.dsDevices ∧
      (readDs18b20Temperatures build inputs ctx).1.converting = ctx.converting := by
  unfold readDs18b20Temperatures
  split_ifs
  · exact ⟨rfl, rfl, rfl⟩
  · exact ⟨rfl, rfl, rfl⟩

theorem exists_stepParts (build : SensorsBuild) (ctx : SensorsTaskCtx) (inputs : SensorsInputs) :
    Nonempty (StepParts build ctx inputs) := by
  obtain ⟨hsame, hambient⟩ := @updateAmbientReadings_frame build inputs ctx
  have hstep : sensorsTaskStep build ctx inputs =
      let ambient := updateAmbientReadings build inputs ctx
      let scan := ensureDs18b20Devices build inputs ambient.1
      let reads := readDs18b20Temperatures build inputs scan.1
      let kick := kickDs18b20Conversion build inputs reads.1
      (kick.1, ambient.2 ++ scan.2 ++ reads.2 ++ kick.2) := rfl
  dsimp only at hstep
  generalize updateAmbientReadings build inputs ctx = ambient at hsame hambient hstep
  have hscan := @ensureDs18b20Devices_cases build inputs ambient.1
  have hframe := @ensureDs18b20Devices_frame build inputs ambient.1
  have hdevices : (ensureDs18b20Devices build inputs ambient.1).1.dsDevices =
      listedDevices build ctx inputs := hsame.listed
  rw [hsame.listed, hsame.devices] at hscan
  rw [hsame.complete, hsame.converting] at hframe
  generalize ensureDs18b20Devices build inputs ambient.1 = scan at hscan hframe hdevices hstep
  have hreads := @readDs18b20Temperatures_eq build inputs scan.1
  rw [hframe.1, hframe.2, hdevices] at hreads
  generalize readDs18b20Temperatures build inputs scan.1 = reads at hreads hstep
  have hkick := @kickDs18b20Conversion_cases build inputs reads.1
  rw [hreads.2.1, hreads.2.2] at hkick
  generalize kickDs18b20Conversion build inputs reads.1 = kick at hkick hstep
  refine ⟨⟨ambient.2, scan.2, kick.2, ?_, hambient, hscan, ?_, ?_⟩⟩
  · rw [hstep, readActions, ← hreads.1]
  · rw [hstep]
    exact hkick.2
  · rw [hstep]
    exact hkick.1

end Step

section Marks

variable {mark : SensorsAction → Option (List RomCode)} {history actions : List SensorsAction}

theorem lastMarked_append_none (h : ∀ action ∈ actions, mark action = none) :
    lastMarked mark (history ++ actions) = lastMarked mark history := by
  rw [lastMarked, List.filterMap_append, List.filterMap_eq_nil_iff.mpr h, List.append_nil]
  rfl

theorem lastMarked_append_some {action : SensorsAction} {devices : List RomCode}
    (h : mark action = some devices) : lastMarked mark (history ++ [action]) = devices := by
  simp [lastMarked, h]

/-- The actions of a read of the one-wire devices. -/
def SensorsAction.isRead : SensorsAction → Bool
  | .setDs18b20 .. | .completed => true
  | _ => false

theorem isRead_of_mem_readActions {action : SensorsAction} {ctx : SensorsTaskCtx}
    {inputs : SensorsInputs} (h : action ∈ readActions build ctx inputs) :
    action.isRead = true := by
  unfold readActions at h
  split_ifs at h
  · rcases List.mem_append.mp h with hread | hlast
    · obtain ⟨i, _, rfl⟩ := List.mem_mapIdx.mp hread
      unfold readDs18b20Temperature
      split <;> rfl
    · rw [List.mem_singleton.mp hlast]
      rfl
  · cases h

variable {build} {ctx : SensorsTaskCtx} {inputs : SensorsInputs}

/-- No conversion is started before the read. -/
theorem StepParts.lastStarted_quiet (parts : StepParts build ctx inputs) :
    lastStarted (history ++ (parts.ambient ++ parts.scan)) = lastStarted history := by
  refine lastMarked_append_none fun action hmem => ?_
  rcases List.mem_append.mp hmem with hambient | hscan
  · have := parts.ambient_of_mem action hambient
    cases action <;> first | rfl | cases this
  · rcases parts.scan_cases with ⟨-, hnone⟩ | ⟨-, hsome⟩
    · rw [hnone] at hscan
      cases hscan
    · rw [hsome] at hscan
      rw [List.mem_singleton.mp hscan]
      rfl

/-- The ghost follows the marks of started conversions. -/
theorem lastStarted_step (h : lastStarted history = ctx.converting) :
    lastStarted (history ++ (sensorsTaskStep build ctx inputs).2) =
      (sensorsTaskStep build ctx inputs).1.converting := by
  obtain ⟨parts⟩ := exists_stepParts build ctx inputs
  have hreads : lastStarted (history ++ (parts.ambient ++ parts.scan) ++
      readActions build ctx inputs) = ctx.converting := by
    refine (lastMarked_append_none fun action hmem => ?_).trans (parts.lastStarted_quiet.trans h)
    have := isRead_of_mem_readActions build hmem
    cases action <;> first | rfl | cases this
  rw [parts.actions_eq, ← List.append_assoc, ← List.append_assoc]
  rcases parts.kick_cases with ⟨hsame, hnone⟩ | ⟨hnew, hsome⟩
  · rw [hnone, List.append_nil, hreads, hsame]
  · rw [hsome, hnew]
    exact lastMarked_append_some rfl

theorem StepParts.isRead_before (parts : StepParts build ctx inputs) :
    ∀ action ∈ parts.ambient ++ parts.scan, action.isRead = false := by
  intro action hmem
  rcases List.mem_append.mp hmem with hambient | hscan
  · have := parts.ambient_of_mem action hambient
    cases action <;> first | rfl | cases this
  · rcases parts.scan_cases with ⟨-, hnone⟩ | ⟨-, hsome⟩
    · rw [hnone] at hscan
      cases hscan
    · rw [hsome] at hscan
      rw [List.mem_singleton.mp hscan]
      rfl

/-- A guard on reads judges an iteration by its reads. -/
theorem StepParts.guarded_iff (parts : StepParts build ctx inputs)
    {guard : List SensorsAction → SensorsAction → Prop}
    (hfree : ∀ action, action.isRead = false → ∀ history, guard history action) :
    Guarded guard history (sensorsTaskStep build ctx inputs).2 ↔
      Guarded guard (history ++ (parts.ambient ++ parts.scan)) (readActions build ctx inputs) := by
  have hbefore : ∀ history, Guarded guard history (parts.ambient ++ parts.scan) := fun history =>
    guarded_of_free fun action hmem => hfree action (parts.isRead_before action hmem)
  have hkick : ∀ history, Guarded guard history parts.kick := fun history => by
    rcases parts.kick_cases with ⟨-, hnone⟩ | ⟨-, hsome⟩
    · rw [hnone]
      trivial
    · rw [hsome]
      exact ⟨hfree _ rfl history, trivial⟩
  rw [parts.actions_eq, guarded_append, guarded_append]
  exact ⟨fun h => h.1.2, fun h => ⟨⟨hbefore _, h⟩, hkick _⟩⟩

/-- What a read of the devices does is right when each measured device was converting. -/
theorem guarded_readActions_iff :
    Guarded OfConverting history (readActions build ctx inputs) ↔
      (ds18b20ConversionComplete inputs ctx = true →
        ∀ i device, ((listedDevices build ctx inputs).take 4)[i]? = some device →
          OfConverting history (readDs18b20Temperature build inputs device i)) := by
  have hstable : ∀ action ∈ readActions build ctx inputs, ∀ history other,
      OfConverting (history ++ [action]) other ↔ OfConverting history other := by
    intro action hmem history other
    have hread := isRead_of_mem_readActions build hmem
    have hsame : lastStarted (history ++ [action]) = lastStarted history := by
      refine lastMarked_append_none fun marked hmarked => ?_
      rw [List.mem_singleton.mp hmarked]
      cases action <;> first | rfl | cases hread
    cases other <;> simp only [OfConverting, hsame]
  rw [guarded_iff_of_stable hstable, readActions]
  by_cases hcomplete : ds18b20ConversionComplete inputs ctx = true
  · rw [if_pos hcomplete]
    simp only [hcomplete, true_imp_iff, List.mem_append, List.mem_singleton]
    constructor
    · intro h i device hdevice
      obtain ⟨hi, rfl⟩ := List.getElem?_eq_some_iff.mp hdevice
      exact h _ (Or.inl (List.mem_mapIdx.mpr ⟨i, hi, rfl⟩))
    · intro h action haction
      rcases haction with hread | rfl
      · obtain ⟨i, hi, rfl⟩ := List.mem_mapIdx.mp hread
        exact h i _ (List.getElem?_eq_getElem hi)
      · trivial
  · simp [hcomplete]

end Marks

section Converting

variable {build} {ctx : SensorsTaskCtx} {inputs : SensorsInputs} {history : List SensorsAction}

/-- A scan finds at most as many devices as it has room for. -/
theorem length_onewireBusScan_le {maxDevices : Nat} {found : List RomCode}
    (h : onewireBusScan inputs maxDevices = .ok found) : found.length ≤ maxDevices := by
  unfold onewireBusScan at h
  split at h
  · rw [← Except.ok.inj h]
    exact List.length_take_le maxDevices _
  · cases h

/-- The array holds four devices. -/
theorem length_listedDevices_le (h : ctx.dsDevices.length ≤ 4) :
    (listedDevices build ctx inputs).length ≤ 4 := by
  rcases @ensureDs18b20Devices_cases build inputs ctx with ⟨hsame, -⟩ | ⟨hscan, -⟩
  · rw [hsame]
    exact h
  · exact length_onewireBusScan_le hscan

/-- A round of the read is right when the device was converting or nothing measured is stored. -/
theorem ofConverting_read_iff {device : RomCode} {i : Nat} :
    OfConverting history (readDs18b20Temperature build inputs device i) ↔
      (device ∉ lastStarted history →
        (∃ err, inputs.readTemperature i = .error err) ∨ inputs.dsLock i = false) := by
  unfold readDs18b20Temperature
  cases hread : inputs.readTemperature i with
  | ok temp =>
      cases hlock : inputs.dsLock i with
      | true => simp [OfConverting]
      | false => simp [OfConverting]
  | error err => simp [OfConverting]

/-- What ties the task to the actions so far. -/
structure ConvertingInv (node : SensorsNode) (history : List SensorsAction) : Prop where
  started : lastStarted history = node.task.converting
  length_le : node.task.dsDevices.length ≤ 4

theorem ConvertingInv.step {node : SensorsNode} (h : ConvertingInv node history) :
    ConvertingInv (sensorsNodeStep build node inputs).1
      (history ++ (sensorsNodeStep build node inputs).2) := by
  obtain ⟨parts⟩ := exists_stepParts build node.task inputs
  refine ⟨lastStarted_step h.started, ?_⟩
  show (sensorsTaskStep build node.task inputs).1.dsDevices.length ≤ 4
  rw [parts.devices_eq]
  exact length_listedDevices_le h.length_le

/-- An iteration stores only what was converting exactly when newcomers fail in it. -/
theorem ConvertingInv.guarded_iff {node : SensorsNode} (h : ConvertingInv node history) :
    Guarded OfConverting history (sensorsNodeStep build node inputs).2 ↔
      NewcomersFail build node inputs := by
  obtain ⟨parts⟩ := exists_stepParts build node.task inputs
  have hfree : ∀ action : SensorsAction, action.isRead = false →
      ∀ history, OfConverting history action := by
    intro action hread history
    cases action <;> trivial
  have hstarted : lastStarted (history ++ (parts.ambient ++ parts.scan)) =
      node.task.converting := by
    rw [← h.started]
    exact parts.lastStarted_quiet
  show Guarded OfConverting history (sensorsTaskStep build node.task inputs).2 ↔ _
  rw [parts.guarded_iff hfree, guarded_readActions_iff,
    List.take_of_length_le (length_listedDevices_le h.length_le)]
  simp only [ofConverting_read_iff, hstarted, NewcomersFail]

/-- Before its loop the task scans and starts a conversion. -/
theorem sensorsTaskStart_cases (build : SensorsBuild) (boot : SensorsInputs) :
    ∃ listed scan kick, (sensorsTaskStart build boot).2 = scan ++ kick ∧
      (sensorsTaskStart build boot).1.dsDevices = listed ∧
      ((listed = [] ∧ scan = []) ∨
        (onewireBusScan boot 4 = .ok listed ∧ scan = [.scanned listed])) ∧
      (((sensorsTaskStart build boot).1.converting = [] ∧ kick = []) ∨
        ((sensorsTaskStart build boot).1.converting = listed ∧ kick = [.started listed])) := by
  let zeroed : SensorsTaskCtx := { nextDsScanTick := boot.scanTick }
  have hscan := @ensureDs18b20Devices_cases build boot zeroed
  have hframe := (@ensureDs18b20Devices_frame build boot zeroed).2
  have hkick := @kickDs18b20Conversion_cases build boot (ensureDs18b20Devices build boot zeroed).1
  have hdevices : (ensureDs18b20Devices build boot zeroed).1.dsDevices =
      listedDevices build zeroed boot := rfl
  rw [hdevices, hframe] at hkick
  exact ⟨listedDevices build zeroed boot, (ensureDs18b20Devices build boot zeroed).2,
    (kickDs18b20Conversion build boot (ensureDs18b20Devices build boot zeroed).1).2, rfl,
    hkick.1, hscan, hkick.2⟩

theorem sensorsNodeStart_spec (boot : SensorsInputs) :
    ConvertingInv (sensorsNodeStart build boot).1 (sensorsNodeStart build boot).2 ∧
      ∀ action ∈ (sensorsNodeStart build boot).2, action.isRead = false := by
  obtain ⟨listed, scan, kick, hactions, hdevices, hscan, hkick⟩ := sensorsTaskStart_cases build boot
  show ConvertingInv ⟨(sensorsTaskStart build boot).1, _⟩ (sensorsTaskStart build boot).2 ∧
    ∀ action ∈ (sensorsTaskStart build boot).2, action.isRead = false
  rw [hactions]
  refine ⟨⟨?_, ?_⟩, ?_⟩
  · show lastStarted (scan ++ kick) = (sensorsTaskStart build boot).1.converting
    rcases hkick with ⟨hsame, rfl⟩ | ⟨hnew, rfl⟩
    · rw [hsame, List.append_nil]
      rcases hscan with ⟨-, rfl⟩ | ⟨-, rfl⟩ <;> rfl
    · rw [hnew]
      exact lastMarked_append_some rfl
  · show (sensorsTaskStart build boot).1.dsDevices.length ≤ 4
    rw [hdevices]
    rcases hscan with ⟨rfl, -⟩ | ⟨hfound, -⟩
    · exact Nat.zero_le 4
    · exact length_onewireBusScan_le hfound
  · intro action hmem
    rcases hscan with ⟨-, rfl⟩ | ⟨-, rfl⟩ <;> rcases hkick with ⟨-, rfl⟩ | ⟨-, rfl⟩
    all_goals
      simp only [List.nil_append, List.append_nil, List.cons_append, List.mem_cons,
        List.not_mem_nil, or_false] at hmem
    · subst hmem
      rfl
    · subst hmem
      rfl
    · rcases hmem with rfl | rfl <;> rfl

/-- A guard on reads judges a run by the iterations of its loop. -/
theorem guarded_sensorsNodeActions_iff {guard : List SensorsAction → SensorsAction → Prop}
    (hfree : ∀ action, action.isRead = false → ∀ history, guard history action)
    {boot : SensorsInputs} {events : List SensorsInputs} :
    Guarded guard [] (sensorsNodeActions build boot events) ↔
      Guarded guard (sensorsNodeStart build boot).2
        (Machine.run (sensorsNodeStep build) (sensorsNodeStart build boot).1 events).2 := by
  have hstart : Guarded guard [] (sensorsNodeStart build boot).2 :=
    guarded_of_free fun action hmem => hfree action ((sensorsNodeStart_spec boot).2 action hmem)
  show Guarded guard [] ((sensorsNodeStart build boot).2 ++ _) ↔ _
  rw [guarded_append, List.nil_append]
  exact ⟨And.right, fun h => ⟨hstart, h⟩⟩

end Converting

/-- Every temperature stored as measured is that of a device that was converting exactly when, at
each complete conversion, the devices that have come on the list since its start fail their reads
or miss the lock. -/
theorem converting_iff (boot : SensorsInputs) (events : List SensorsInputs) :
    Guarded OfConverting [] (sensorsNodeActions build boot events) ↔
      Machine.EachStep (sensorsNodeStep build) (NewcomersFail build)
        (sensorsNodeStart build boot).1 events := by
  rw [guarded_sensorsNodeActions_iff fun action hread history => by cases action <;> trivial]
  exact guarded_run_iff ConvertingInv (fun _ => True)
    (fun node inputs history hinv _ => hinv.step)
    (fun node inputs history hinv _ => hinv.guarded_iff)
    (sensorsNodeStart_spec boot).1 fun _ _ => trivial

/-- Inputs of an iteration at a tick with no ambient sensors: a scan that finds these devices, which
answer, and a free model. -/
def plugged (tick : TickType) (devices : List RomCode) : SensorsInputs where
  muxSelect _ := .ok
  ambientDriver _ := .error .fail
  ambientLock _ := true
  scanTick := tick
  newDeviceIter := .ok
  deviceIter := devices
  completeTick := tick
  checkConversion := .ok true
  readTemperature _ := .ok 21
  readTick _ := tick
  dsLock _ := true
  startConversion := .ok
  startTick := tick

/-- One device is replaced by another between the start of its conversion and the scan a minute
later: the temperature of the new one is stored, and it never converted. -/
theorem not_all_converting :
    ¬ ∀ (build : SensorsBuild) (boot : SensorsInputs) (events : List SensorsInputs),
      Guarded OfConverting [] (sensorsNodeActions build boot events) := by
  intro h
  have hrun := h ⟨.none, 1000, id⟩ (plugged 0 [Vector.replicate 8 1])
    [plugged 60000 [Vector.replicate 8 2]]
  have hactions : sensorsNodeActions ⟨.none, 1000, id⟩ (plugged 0 [Vector.replicate 8 1])
      [plugged 60000 [Vector.replicate 8 2]] =
      [.scanned [Vector.replicate 8 1], .started [Vector.replicate 8 1],
        .scanned [Vector.replicate 8 2], .setDs18b20 true true 0 (Vector.replicate 8 2) 21,
        .completed, .started [Vector.replicate 8 2]] := by decide +kernel
  rw [hactions] at hrun
  exact absurd (hrun.2.2.2.1 rfl rfl) (by decide)

end SensorHmi
