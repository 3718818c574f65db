import SensorHmi.Lib.Machine
import SensorHmi.Hmi.Preferences

/-!
# The traces on the display

`hmi_node/main/display/ui_screens.c`, what reaches the charts. Telemetry adds a point to each
ambient trace, whatever it says, but to a DS18B20 trace only where there is a reading; and a change
of the preferences adds the last telemetry again: `traces_aligned_iff`.
-/

namespace SensorHmi

/-- `s_temp_series`, `s_hum_series` and `s_ds_series` -/
inductive ChartSeries where
  | temp (i : Fin 2)
  | hum (i : Fin 2)
  | ds (i : Fin 4)
  deriving DecidableEq

/-- A call of `lv_chart_set_next_value`: the value before it is converted to a coordinate, or none
for `LV_CHART_POINT_NONE`. -/
structure ChartPoint where
  series : ChartSeries
  value : Option Float32

/-- `NAN` -/
def floatNan : Float32 := .ofBits 0x7FC00000

/-- The temperature in the unit of the display. -/
def displayTemperature (useFahrenheit : Bool) (temp : Float32) : Float32 :=
  if useFahrenheit then temp * 9.0 / 5.0 + 32.0 else temp

/-- The first loop of `update_charts`, for one sensor. -/
def ambientPoints (update : ProtoSensorUpdate) (useFahrenheit : Bool) (i : Fin 2) :
    List ChartPoint :=
  let valid := decide (i.val < update.sht20Count) && (update.sht20.get i).valid
  let temp := if valid then (update.sht20.get i).temperatureC else floatNan
  let hum := if valid then (update.sht20.get i).humidityPercent else floatNan
  (if valid && temp.isFinite then
      [⟨.temp i, some (displayTemperature useFahrenheit temp * 10.0)⟩]
    else [⟨.temp i, none⟩]) ++
  (if valid && hum.isFinite then [⟨.hum i, some (hum * 10.0)⟩]
    else [⟨.hum i, none⟩])

/-- The second loop of `update_charts`, for one sensor. There is no other branch. -/
def dsPoints (update : ProtoSensorUpdate) (useFahrenheit : Bool) (i : Fin 4) : List ChartPoint :=
  let temp := if i.val < update.ds18b20Count then (update.ds18b20.get i).temperatureC else floatNan
  if !temp.isNaN then [⟨.ds i, some (displayTemperature useFahrenheit temp * 10.0)⟩] else []

/-- `update_charts` -/
def updateCharts (update : ProtoSensorUpdate) (useFahrenheit : Bool) : List ChartPoint :=
  (List.finRange 2).flatMap (ambientPoints update useFahrenheit) ++
    (List.finRange 4).flatMap (dsPoints update useFahrenheit)

/-- What the screens remember of preferences and telemetry. -/
structure UiScreens where
  activePrefs : HmiUserPreferences
  lastSequenceId : UInt32 := 0
  lastProtoUpdate : ProtoSensorUpdate := {}
  hasLastProtoUpdate : Bool := false

/-- `ui_update_sensor_data`, without the labels and the widgets of GPIO and PWM. -/
def uiUpdateSensorData (ui : UiScreens) (update : ProtoSensorUpdate) (useFahrenheit : Bool) :
    UiScreens × List ChartPoint :=
  ({ ui with
      lastSequenceId := update.sequenceId
      lastProtoUpdate := update
      hasLastProtoUpdate := true },
    updateCharts update useFahrenheit)

/-- `refresh_localised_text`, which draws the last telemetry again. -/
def refreshLocalisedText (ui : UiScreens) : UiScreens × List ChartPoint :=
  if ui.hasLastProtoUpdate then
    uiUpdateSensorData ui ui.lastProtoUpdate ui.activePrefs.useFahrenheit
  else (ui, [])

/-- `ui_apply_preferences` -/
def uiApplyPreferences (ui : UiScreens) (prefs : HmiUserPreferences) :
    UiScreens × List ChartPoint :=
  refreshLocalisedText { ui with activePrefs := prefs }

/-- What `ui_task` calls: telemetry it received, or preferences that change. -/
inductive UiEvent where
  | telemetry (update : ProtoSensorUpdate) (useFahrenheit : Bool)
  | applyPreferences (prefs : HmiUserPreferences)

/-- One call. -/
def uiStep (ui : UiScreens) : UiEvent → UiScreens × List ChartPoint
  | .telemetry update useFahrenheit => uiUpdateSensorData ui update useFahrenheit
  | .applyPreferences prefs => uiApplyPreferences ui prefs

/-- The event is telemetry. -/
def UiEvent.isTelemetry : UiEvent → Bool
  | .telemetry _ _ => true
  | .applyPreferences _ => false

/-- The points a series has received. -/
def pointsOf (series : ChartSeries) (points : List ChartPoint) : Nat :=
  points.countP fun point => point.series = series

/-- The telemetry has a DS18B20 reading for the trace. -/
def ProtoSensorUpdate.HasDs (update : ProtoSensorUpdate) (i : Fin 4) : Prop :=
  i.val < update.ds18b20Count ∧ (update.ds18b20.get i).temperatureC.isNaN = false

instance (update : ProtoSensorUpdate) (i : Fin 4) : Decidable (update.HasDs i) :=
  inferInstanceAs (Decidable (_ ∧ _))

/-- Telemetry has all four DS18B20 readings, and preferences change only before the first one. -/
def KeepsAligned (ui : UiScreens) : UiEvent → Prop
  | .telemetry update _ => ∀ i, update.HasDs i
  | .applyPreferences _ => ui.hasLastProtoUpdate = false

section Points

variable {update : ProtoSensorUpdate} {useFahrenheit : Bool} {series : ChartSeries}

theorem pointsOf_singleton (series own : ChartSeries) (value : Option Float32) :
    pointsOf series [⟨own, value⟩] = if series = own then 1 else 0 := by
  rw [pointsOf, List.countP_singleton]
  by_cases hown : own = series
  · rw [if_pos (decide_eq_true hown), if_pos hown.symm]
  · rw [if_neg (by simpa using hown), if_neg (Ne.symm hown)]

theorem pointsOf_ambientPoints (series : ChartSeries) (i : Fin 2) :
    pointsOf series (ambientPoints update useFahrenheit i) =
      (if series = .temp i then 1 else 0) + if series = .hum i then 1 else 0 := by
  have happend (first second : List ChartPoint) :
      pointsOf series (first ++ second) = pointsOf series first + pointsOf series second :=
    List.countP_append
  have heither (valid : Bool) (own : ChartSeries) (value : Option Float32) :
      pointsOf series (if valid then [⟨own, value⟩] else [⟨own, none⟩]) =
        if series = own then 1 else 0 := by
    cases valid <;> exact pointsOf_singleton _ _ _
  rw [ambientPoints, happend, heither, heither]

theorem pointsOf_dsPoints (series : ChartSeries) (i : Fin 4) :
    pointsOf series (dsPoints update useFahrenheit i) =
      if series = .ds i ∧ update.HasDs i then 1 else 0 := by
  have hnan : floatNan.isNaN = true := by decide
  by_cases h : update.HasDs i
  · simp only [dsPoints, if_pos h.1, and_iff_left h]
    rw [h.2]
    exact pointsOf_singleton _ _ _
  · rw [if_neg fun hboth => h hboth.2]
    simp only [dsPoints]
    split_ifs with hcount hreading hreading
    · exact absurd ⟨hcount, by rwa [Bool.not_eq_true'] at hreading⟩ h
    · rfl
    · rw [hnan] at hreading
      exact absurd hreading (by decide)
    · rfl

/-- The points one call of `update_charts` adds to a series. -/
theorem pointsOf_updateCharts (series : ChartSeries) :
    pointsOf series (updateCharts update useFahrenheit) =
      (∑ i, pointsOf series (ambientPoints update useFahrenheit i)) +
        ∑ i, pointsOf series (dsPoints update useFahrenheit i) := by
  simp only [pointsOf, updateCharts, List.countP_append, List.countP_flatMap, Fin.sum_univ_def,
    Function.comp_def]

/-- An ambient trace receives one point whatever the telemetry says. -/
theorem pointsOf_updateCharts_ambient (h : ∀ i, series ≠ .ds i) :
    pointsOf series (updateCharts update useFahrenheit) = 1 := by
  have hds (i : Fin 4) : pointsOf series (dsPoints update useFahrenheit i) = 0 := by
    rw [pointsOf_dsPoints, if_neg fun hboth => h i hboth.1]
  simp only [pointsOf_updateCharts, pointsOf_ambientPoints, hds]
  cases series with
  | temp i => simp
  | hum i => simp
  | ds i => exact absurd rfl (h i)

/-- A DS18B20 trace receives one point if the telemetry has a reading for it. -/
theorem pointsOf_updateCharts_ds (i : Fin 4) :
    pointsOf (.ds i) (updateCharts update useFahrenheit) = if update.HasDs i then 1 else 0 := by
  have hother : ∀ j ≠ i, pointsOf (.ds i) (dsPoints update useFahrenheit j) = 0 := by
    intro j hj
    rw [pointsOf_dsPoints, if_neg fun hboth => hj (ChartSeries.ds.inj hboth.1).symm]
  rw [pointsOf_updateCharts, Fintype.sum_eq_single i hother, pointsOf_dsPoints]
  simp [pointsOf_ambientPoints]

/-- Telemetry adds one point to every trace exactly if it has all four readings. -/
theorem pointsOf_updateCharts_iff :
    (∀ series, pointsOf series (updateCharts update useFahrenheit) = 1) ↔
      ∀ i, update.HasDs i := by
  constructor
  · intro h i
    have hone := h (.ds i)
    rw [pointsOf_updateCharts_ds] at hone
    by_contra hmissing
    rw [if_neg hmissing] at hone
    exact absurd hone (by decide)
  · intro h series
    cases series with
    | temp i => exact pointsOf_updateCharts_ambient nofun
    | hum i => exact pointsOf_updateCharts_ambient nofun
    | ds i => rw [pointsOf_updateCharts_ds, if_pos (h i)]

end Points

section Runs

variable {ui : UiScreens} {event : UiEvent} {events : List UiEvent} {series : ChartSeries}

/-- The points one call adds to a series. -/
def addedPoints (series : ChartSeries) (ui : UiScreens) (event : UiEvent) : Nat :=
  pointsOf series (uiStep ui event).2

/-- The telemetry one call brings. -/
def addedTelemetry (_ : UiScreens) (event : UiEvent) : Nat :=
  if event.isTelemetry then 1 else 0

theorem addedPoints_applyPreferences (prefs : HmiUserPreferences) :
    addedPoints series ui (.applyPreferences prefs) =
      if ui.hasLastProtoUpdate then
        pointsOf series (updateCharts ui.lastProtoUpdate prefs.useFahrenheit)
      else 0 := by
  simp only [addedPoints, uiStep, uiApplyPreferences, refreshLocalisedText]
  split_ifs
  · rfl
  · rfl

/-- A call that keeps an ambient trace aligned draws nothing again. -/
theorem addedPoints_ambient_iff (h : ∀ i, series ≠ .ds i) :
    addedPoints series ui event = addedTelemetry ui event ↔
      event.isTelemetry = true ∨ ui.hasLastProtoUpdate = false := by
  cases event with
  | telemetry update useFahrenheit =>
      exact iff_of_true (pointsOf_updateCharts_ambient h) (Or.inl rfl)
  | applyPreferences prefs =>
      rw [addedPoints_applyPreferences, pointsOf_updateCharts_ambient h]
      simp [addedTelemetry, UiEvent.isTelemetry]

theorem addedPoints_iff :
    (∀ series, addedPoints series ui event = addedTelemetry ui event) ↔ KeepsAligned ui event := by
  cases event with
  | telemetry update useFahrenheit => exact pointsOf_updateCharts_iff
  | applyPreferences prefs =>
      constructor
      · intro h
        have hambient : ∀ i, ChartSeries.temp ⟨0, Nat.two_pos⟩ ≠ .ds i := fun i => nofun
        exact ((addedPoints_ambient_iff hambient).mp (h _)).resolve_left Bool.false_ne_true
      · intro h series
        rw [addedPoints_applyPreferences, if_neg (by rw [h]; decide)]
        rfl

/-- An ambient trace can only receive too much. -/
theorem ambient_total_iff (h : ∀ i, series ≠ .ds i) :
    Machine.total uiStep addedTelemetry ui events =
        Machine.total uiStep (addedPoints series) ui events ↔
      Machine.EachStep uiStep
        (fun ui event => addedTelemetry ui event = addedPoints series ui event) ui events := by
  refine Machine.total_eq_iff (Machine.eachStep_of_all fun ui event => ?_)
  cases event with
  | telemetry update useFahrenheit => exact (pointsOf_updateCharts_ambient h).ge
  | applyPreferences prefs => exact Nat.zero_le _

theorem addedPoints_ds_le (i : Fin 4) (h :
    event.isTelemetry = true ∨ ui.hasLastProtoUpdate = false) :
    addedPoints (.ds i) ui event ≤ addedTelemetry ui event := by
  cases event with
  | telemetry update useFahrenheit =>
      rw [addedPoints, uiStep, uiUpdateSensorData, pointsOf_updateCharts_ds]
      split_ifs
      · exact le_rfl
      · exact Nat.zero_le _
  | applyPreferences prefs =>
      have hquiet := h.resolve_left Bool.false_ne_true
      rw [addedPoints_applyPreferences, if_neg (by rw [hquiet]; decide)]
      exact Nat.zero_le _

/-- While nothing is drawn again, a DS18B20 trace can only receive too little. -/
theorem ds_total_iff (i : Fin 4)
    (h : Machine.EachStep uiStep
      (fun ui event => event.isTelemetry = true ∨ ui.hasLastProtoUpdate = false) ui events) :
    Machine.total uiStep (addedPoints (.ds i)) ui events =
        Machine.total uiStep addedTelemetry ui events ↔
      Machine.EachStep uiStep
        (fun ui event => addedPoints (.ds i) ui event = addedTelemetry ui event) ui events :=
  Machine.total_eq_iff (Machine.eachStep_imp (fun _ _ => addedPoints_ds_le i) h)

/-- The totals agree exactly if every step agrees: the ambient traces tell that nothing was drawn
again, and then the others tell that no reading was missing. -/
theorem totals_iff :
    (∀ series, Machine.total uiStep (addedPoints series) ui events =
        Machine.total uiStep addedTelemetry ui events) ↔
      ∀ series, Machine.EachStep uiStep
        (fun ui event => addedPoints series ui event = addedTelemetry ui event) ui events := by
  have hambient {series : ChartSeries} (hseries : ∀ i, series ≠ .ds i) :
      Machine.total uiStep (addedPoints series) ui events =
          Machine.total uiStep addedTelemetry ui events ↔
        Machine.EachStep uiStep
          (fun ui event => addedPoints series ui event = addedTelemetry ui event) ui events := by
    simpa only [eq_comm] using @ambient_total_iff ui events series hseries
  have htemp (i : Fin 2) : ∀ j, ChartSeries.temp i ≠ .ds j := fun j => nofun
  have hhum (i : Fin 2) : ∀ j, ChartSeries.hum i ≠ .ds j := fun j => nofun
  have hquiet (h : Machine.EachStep uiStep (fun ui event =>
        addedPoints (.temp ⟨0, Nat.two_pos⟩) ui event = addedTelemetry ui event) ui events) :
      Machine.EachStep uiStep
        (fun ui event => event.isTelemetry = true ∨ ui.hasLastProtoUpdate = false) ui events :=
    Machine.eachStep_imp (fun _ _ => (addedPoints_ambient_iff (htemp _)).mp) h
  constructor
  · intro h series
    cases series with
    | temp i => exact (hambient (htemp i)).mp (h _)
    | hum i => exact (hambient (hhum i)).mp (h _)
    | ds i => exact (ds_total_iff i (hquiet ((hambient (htemp _)).mp (h _)))).mp (h _)
  · intro h series
    cases series with
    | temp i => exact (hambient (htemp i)).mpr (h _)
    | hum i => exact (hambient (hhum i)).mpr (h _)
    | ds i => exact (ds_total_iff i (hquiet (h _))).mpr (h _)

end Runs

/-- After every run each trace has received one point for each telemetry message exactly if all
telemetry had four DS18B20 readings and no preferences were applied behind telemetry. -/
theorem traces_aligned_iff (ui : UiScreens) (events : List UiEvent) :
    (∀ series, pointsOf series (Machine.run uiStep ui events).2 =
        events.countP UiEvent.isTelemetry) ↔
      Machine.EachStep uiStep KeepsAligned ui events := by
  have hcounts (series : ChartSeries) :
      pointsOf series (Machine.run uiStep ui events).2 =
        Machine.total uiStep (addedPoints series) ui events :=
    Machine.countP_run _
  have hevents : events.countP UiEvent.isTelemetry =
      Machine.total uiStep addedTelemetry ui events :=
    Machine.countP_events _
  simp only [hcounts, hevents]
  rw [totals_iff, ← Machine.eachStep_forall]
  simp only [addedPoints_iff]

/-- Telemetry without DS18B20 readings leaves their traces behind. -/
theorem ds_trace_behind :
    ¬ ∀ series, pointsOf series
        (Machine.run uiStep { activePrefs := zeroedPreferences } [.telemetry {} false]).2 = 1 :=
  fun h => absurd (h (.ds ⟨0, by decide⟩)) (by decide)

end SensorHmi
