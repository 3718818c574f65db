import SensorHmi.Hmi.Widgets

/-!
# The touch screen

What `ui_task` and the user do to the widgets. A label is written only where something changes, yet
in every reachable state the screen is a function of the telemetry shown last, the preferences, the
link and the CRC status (`screen_shows_state`); and the button of the settings saves what the
widgets hold (`apply_saves_form`).
-/

namespace SensorHmi

open Octets Numeral

variable {ι : Type} (codec : Codec ι) (fuel : Nat) (reselect : UInt16 → UInt16)

/-- A call of the screens by `t_ui.c`. -/
inductive UiCall
  | sensorData (update : ProtoSensorUpdate) (useFahrenheit : Bool)
  | connection (connected : Bool)
  | crc (crcOk : Bool)
  | preferences (prefs : HmiUserPreferences)

/-- What the screens remember of it. -/
def UiCall.perform (ui : UiState) : UiCall → UiState
  | .sensorData update useFahrenheit => uiShowTelemetry ui update useFahrenheit
  | .connection connected => uiUpdateConnectionStatus ui connected
  | .crc crcOk => uiUpdateCrcStatus ui crcOk
  | .preferences prefs => uiShowPreferences ui prefs

/-- What it writes. -/
def UiCall.draws (ui : UiState) : UiCall → List Draw
  | .sensorData update useFahrenheit =>
      drawSensorData (getLocale ui.screens.activePrefs) update useFahrenheit
  | .connection connected => drawConnection (getLocale ui.screens.activePrefs) connected
  | .crc crcOk => drawCrc (getLocale ui.screens.activePrefs) crcOk
  | .preferences prefs => drawPreferences reselect ui prefs

/-- The call a step of `ui_task` makes, if it makes one. -/
def taskUiCall (locked : Bool) (node : HmiNode) : Option UiCall :=
  match node.point with
  | .getPreferences => some (.preferences (hmiDataModelGetPreferences locked node.model node.prefs))
  | .peekUpdate =>
      (hmiDataModelPeekUpdate locked node.model).map fun update =>
        .sensorData update node.prefs.useFahrenheit
  | .getUpdate =>
      (hmiDataModelGetUpdate locked node.model).1.map fun update =>
        .sensorData update node.prefs.useFahrenheit
  | .isConnected => some (.connection (hmiDataModelIsConnected locked node.model))
  | .getCrcStatus => some (.crc (hmiDataModelGetCrcStatus locked node.model))
  | .process => none

/-- The call a callback of the screens makes. -/
def touchUiCall (node : HmiNode) : UiAction → Option UiCall
  | .applyPrefs inputs _ _ =>
      some (.preferences (dispatchApplyPreferences node.ui.screens.activePrefs inputs))
  | .resetPrefs resetLocked getLocked _ =>
      some (.preferences (hmiDataModelGetPreferences getLocked
        (hmiDataModelResetPreferences resetLocked node.model) node.prefs))
  | _ => none

/-- The call an event leads to. -/
def hmiUiCall (node : HmiNode) : HmiEvent → Option UiCall
  | .ui locked => taskUiCall locked node
  | .touch action => if node.point = .process then touchUiCall node action else none
  | _ => none

/-- The user works on the settings without pressing a button. -/
inductive FormEdit
  | text (area : TextArea) (typed : Bytes)
  | setting (switch : SettingsSwitch) (on : Bool)
  | textScale (value : Int)
  | language (selected : UInt16)

/-- What that does to the widgets. The label of the text scale follows its slider. -/
def FormEdit.writes : FormEdit → List Draw
  | .text area typed => [⟨.textArea area, cString typed⟩]
  | .setting switch on => [⟨.settingsSwitch switch, on⟩]
  | .textScale value =>
      ⟨.slider .textScale, Slider.clamp .textScale value⟩ ::
        drawTextScale (Slider.clamp .textScale value)
  | .language selected => [⟨.languageDd, selected⟩]

/-- `"%d"` for the value of a slider. -/
def dutyText (value : Int16) : Bytes :=
  (if value < 0 then [45] else []) ++ natText value.toInt.natAbs

/-- What an action does to the widgets: a switch or a slider moves, and `dispatch_pwm_value` and
`dispatch_pwm_frequency` write its label. -/
def UiAction.writes : UiAction → List Draw
  | .gpioSwitch ctx on => [⟨.gpioSwitch ctx.pin, on⟩]
  | .pwmSlider channel value =>
      if h : channel.toNat < 16 then
        [⟨.slider (.pwm ⟨channel.toNat, h⟩), value.toInt⟩,
          ⟨.label (.pwm ⟨channel.toNat, h⟩), dutyText value⟩]
      else []
  | .pwmFreqSlider freq =>
      [⟨.slider .pwmFreq, freq.toNat⟩, ⟨.label .pwmFreq, hertz freq.toNat⟩]
  | _ => []

/-- What `prefs_apply_event_cb` reads from the widgets. -/
def readForm (screen : Screen) : PrefsInputs where
  ssid := (screen (.textArea .ssid)).content
  password := (screen (.textArea .password)).content
  mdns := (screen (.textArea .mdns)).content
  dark := (screen (.settingsSwitch .theme)).content
  fahrenheit := (screen (.settingsSwitch .units)).content
  highContrast := (screen (.settingsSwitch .highContrast)).content
  largeTouchTargets := (screen (.settingsSwitch .touchTargets)).content
  textScalePercent := UInt8.ofInt (screen (.slider .textScale)).content
  selectedLanguage := (screen .languageDd).content

/-- The HMI with its widgets. -/
structure Panel where
  node : HmiNode
  screen : Screen

/-- An event of the tasks, or one of the user on the settings. -/
inductive PanelEvent
  | task (event : HmiEvent)
  | edit (edit : FormEdit)

/-- The button of the settings passes what the widgets hold. -/
def HmiEvent.withForm (screen : Screen) : HmiEvent → HmiEvent
  | .touch (.applyPrefs _ locked results) => .touch (.applyPrefs (readForm screen) locked results)
  | event => event

/-- What the user does to a widget. -/
def HmiEvent.touched (node : HmiNode) : HmiEvent → List Draw
  | .touch action => if node.point = .process then action.writes else []
  | _ => []

/-- An event of the tasks. A widget moves before its callback runs. -/
def panelTask (panel : Panel) (event : HmiEvent) : Panel × List HmiOutput :=
  let event := event.withForm panel.screen
  let draws := ((hmiUiCall panel.node event).map (UiCall.draws reselect panel.node.ui)).getD []
  let (node, outputs) := hmiStep codec fuel panel.node event
  ({ node := node
     screen := Canvas.draw (Canvas.move panel.screen (event.touched panel.node)) draws }, outputs)

/-- One event. The user gets at the widgets while `ui_process` runs. -/
def panelStep (panel : Panel) : PanelEvent → Panel × List HmiOutput
  | .task event => panelTask codec fuel reselect panel event
  | .edit edit =>
      if panel.node.point = .process then
        ({ panel with screen := Canvas.move panel.screen edit.writes }, [])
      else (panel, [])

/-- A boot, with the widgets of `ui_init`. -/
def panelBoot (blob : Cell (Option HmiUserPreferences)) : Panel where
  node := hmiBoot blob
  screen := uiInitScreen reselect

section View

/-- The telemetry shown last. -/
def UiState.telemetry (ui : UiState) : Option ProtoSensorUpdate :=
  if ui.screens.hasLastProtoUpdate then some ui.screens.lastProtoUpdate else none

/-- The texts of the card of an ambient sensor, with its reading or without. -/
def ambientName (locale : UiLocalePack) (i : Fin 2) (reading : Option ProtoSht20Reading) : Bytes :=
  reading.elim (fallbackName locale i) fun reading =>
    cString reading.id.toList ++ utf8 (if reading.valid then "" else " (fault)")

def ambientTemp (locale : UiLocalePack) (useFahrenheit : Bool)
    (reading : Option ProtoSht20Reading) : Bytes :=
  reading.elim (dashes locale.labelTemperaturePrefix) fun reading =>
    if reading.valid && reading.temperatureC.isFinite then
      labelled locale.labelTemperaturePrefix (formatTemperature reading.temperatureC useFahrenheit)
    else dashes locale.labelTemperaturePrefix

def ambientHum (locale : UiLocalePack) (reading : Option ProtoSht20Reading) : Bytes :=
  reading.elim (dashes locale.labelHumidityPrefix) fun reading =>
    if reading.valid && reading.humidityPercent.isFinite then
      labelled locale.labelHumidityPrefix (percentText reading.humidityPercent)
    else dashes locale.labelHumidityPrefix

/-- The temperature on the card of a one-wire sensor. -/
def probeTemp (locale : UiLocalePack) (useFahrenheit : Bool)
    (reading : Option ProtoDs18b20Reading) : Bytes :=
  reading.elim (dashes locale.labelTemperaturePrefix) fun reading =>
    labelled locale.labelTemperaturePrefix (formatTemperature reading.temperatureC useFahrenheit)

/-- The readings in use. -/
def ProtoSensorUpdate.ambient (update : ProtoSensorUpdate) (i : Fin 2) :
    Option ProtoSht20Reading :=
  if i.val < update.sht20Count then some (update.sht20.get i) else none

def ProtoSensorUpdate.probe (update : ProtoSensorUpdate) (i : Fin 4) :
    Option ProtoDs18b20Reading :=
  if i.val < update.ds18b20Count then some (update.ds18b20.get i) else none

/-- The labels as a function of the state. The name of a one-wire card is none where its sensor is
not in the telemetry: it shows the last that was. -/
def labelView (ui : UiState) : Label → Option Bytes
  | .status =>
      let locale := getLocale ui.screens.activePrefs
      some (utf8 (if ui.lastConnected then locale.labelWifiConnected
        else locale.labelWifiDisconnected))
  | .wifiBadge =>
      some (labelled (getLocale ui.screens.activePrefs).labelSequencePrefix
        (ui.telemetry.elim (utf8 "--") fun update => natText update.sequenceId.toNat))
  | .crcBadge =>
      let locale := getLocale ui.screens.activePrefs
      some (utf8 (ui.crcBadge.elim locale.labelCrcUnknown fun crcOk =>
        if crcOk then locale.labelCrcOk else locale.labelCrcError))
  | .sht20Name i =>
      some (ambientName (getLocale ui.screens.activePrefs) i (ui.telemetry.bind (·.ambient i)))
  | .sht20Temp i =>
      some (ambientTemp (getLocale ui.screens.activePrefs) ui.screens.activePrefs.useFahrenheit
        (ui.telemetry.bind (·.ambient i)))
  | .sht20Hum i =>
      some (ambientHum (getLocale ui.screens.activePrefs) (ui.telemetry.bind (·.ambient i)))
  | .ds18Name i =>
      ui.telemetry.elim (some (utf8 "ROM " ++ natText (i.val + 1))) fun update =>
        (update.probe i).map fun reading => formatRomCode reading.romCode
  | .ds18Temp i =>
      some (probeTemp (getLocale ui.screens.activePrefs) ui.screens.activePrefs.useFahrenheit
        (ui.telemetry.bind (·.probe i)))
  | .gpioState pin =>
      let locale := getLocale ui.screens.activePrefs
      some (utf8 (ui.telemetry.elim packEn.labelGpioOff fun update =>
        if gpioOn update pin then locale.labelGpioOn else locale.labelGpioOff))
  | .pwm channel =>
      some (ui.telemetry.elim (utf8 "0") fun update =>
        natText (update.pwm.dutyCycle.get channel).toNat)
  | .pwmFreq =>
      some (ui.telemetry.elim (utf8 "500 Hz") fun update => hertz update.pwm.frequencyHz.toNat)
  | .textScale =>
      let value := Slider.clamp .textScale ui.screens.activePrefs.textScalePercent.toNat
      some (natText value.toNat ++ utf8 "%")
  | .caption caption => some (utf8 ((getLocale ui.screens.activePrefs).caption caption))
  | .freqTitle => some (utf8 packEn.labelFrequency)
  | .channelTitle channel =>
      some (utf8 packEn.labelChannelPrefix ++ utf8 " " ++ natText channel.val)

/-- The screen as a function of the state. What `ui_init` leaves to the first call of
`ui_apply_preferences` is none before it. -/
def uiView (applied : Bool) (ui : UiState) : (widget : Widget) → Option widget.Content
  | .label label => labelView ui label
  | .gpioSwitch pin => some (ui.telemetry.elim false fun update => gpioOn update pin)
  | .settingsSwitch .theme => if applied then some ui.screens.activePrefs.darkTheme else none
  | .settingsSwitch .units => some ui.screens.activePrefs.useFahrenheit
  | .settingsSwitch .highContrast => some ui.screens.activePrefs.highContrast
  | .settingsSwitch .touchTargets => some ui.screens.activePrefs.largeTouchTargets
  | .slider (.pwm channel) =>
      some (ui.telemetry.elim 0 fun update =>
        Slider.clamp (.pwm channel) (update.pwm.dutyCycle.get channel).toNat)
  | .slider .pwmFreq =>
      some (ui.telemetry.elim 40 fun update =>
        Slider.clamp .pwmFreq update.pwm.frequencyHz.toNat)
  | .slider .textScale =>
      some (Slider.clamp .textScale ui.screens.activePrefs.textScalePercent.toNat)
  | .textArea .ssid => some (cString ui.screens.activePrefs.ssid.toList)
  | .textArea .password => some (cString ui.screens.activePrefs.password.toList)
  | .textArea .mdns => some (cString ui.screens.activePrefs.mdnsTarget.toList)
  | .languageDd => some (reselect (selectedLanguage ui.screens.activePrefs))
  | .colour .status => some (.hex (if ui.lastConnected then 0x66FF66 else 0xFF5555))
  | .colour .crcBadge =>
      some (.hex (ui.crcBadge.elim 0xAAAAAA fun crcOk => if crcOk then 0x66FFAA else 0xFF6666))
  | .colour .screen =>
      let prefs := ui.screens.activePrefs
      some (if prefs.highContrast then .hex 0x000000
        else .hex (if prefs.darkTheme then 0x101418 else 0xF5F7FA))
  | .theme =>
      let prefs := ui.screens.activePrefs
      some
        { primary := if prefs.highContrast then .hex 0x000000 else .blueMain
          secondary := if prefs.highContrast then .hex 0xFFD54F else .greyDarken2
          dark := prefs.darkTheme }
  | .zoom => some (displayZoom ui.screens.activePrefs)
  | .pad _ =>
      if applied then some (if ui.screens.activePrefs.largeTouchTargets then 12 else 4) else none
  | .buttonSize _ =>
      if applied then
        some (if ui.screens.activePrefs.largeTouchTargets then (170, 60) else (140, 48))
      else none

end View

section Loops

variable {locale : UiLocalePack} {update : ProtoSensorUpdate} {useFahrenheit : Bool} {key : Widget}

/-- The card of an ambient sensor that a widget is on, and the same for the other loops. -/
@[simp] def Widget.ambientCard : Widget → Option (Fin 2)
  | .label (.sht20Name i) | .label (.sht20Temp i) | .label (.sht20Hum i) => some i
  | _ => none

@[simp] def Widget.probeCard : Widget → Option (Fin 4)
  | .label (.ds18Name i) | .label (.ds18Temp i) => some i
  | _ => none

@[simp] def Widget.gpioCell : Widget → Option Pin
  | .gpioSwitch pin | .label (.gpioState pin) => some pin
  | _ => none

@[simp] def Widget.pwmCell : Widget → Option (Fin 16)
  | .slider (.pwm channel) | .label (.pwm channel) => some channel
  | _ => none

@[simp] def Widget.captionOf : Widget → Option Caption
  | .label (.caption caption) => some caption
  | _ => none

@[simp] def Widget.padCell : Widget → Option Pin
  | .pad (.gpioSwitch pin) => some pin
  | _ => none

theorem written_sht20 :
    Canvas.written ((List.finRange 2).flatMap (sht20Draws locale update useFahrenheit)) key =
      key.ambientCard.bind fun i =>
        Canvas.written (sht20Draws locale update useFahrenheit i) key := by
  refine Canvas.written_loop fun i => ?_
  unfold sht20Draws
  split_ifs <;> simp

theorem written_ds18 :
    Canvas.written ((List.finRange 4).flatMap (ds18Draws locale update useFahrenheit)) key =
      key.probeCard.bind fun i =>
        Canvas.written (ds18Draws locale update useFahrenheit i) key := by
  refine Canvas.written_loop fun i => ?_
  unfold ds18Draws
  split_ifs <;> simp

/-- A loop over the pins of both expanders. -/
theorem written_pins {index : Widget → Option Pin} {body : Pin → List Draw}
    (h : ∀ pin, ∀ write ∈ body pin, index write.1 = some pin) :
    Canvas.written ((List.finRange 2).flatMap fun device =>
        (List.finRange 16).flatMap fun pin => body (device, pin)) key =
      (index key).bind fun pin => Canvas.written (body pin) key := by
  -- the inner loop is over the pins of one device, the outer over the devices
  have hinner (device : Fin 2) :
      Canvas.written ((List.finRange 16).flatMap fun pin => body (device, pin)) key =
        ((index key).map Prod.snd).bind fun pin => Canvas.written (body (device, pin)) key :=
    @Canvas.written_loop Widget Widget.Content _ key 16
      (fun widget => (index widget).map Prod.snd) (fun pin => body (device, pin)) (by
        intro pin write hmem
        rw [h _ write hmem]
        rfl)
  have houter := @Canvas.written_loop Widget Widget.Content _ key 2
    (fun widget => (index widget).map Prod.fst)
    (fun device => (List.finRange 16).flatMap fun pin => body (device, pin)) (by
      intro device write hmem
      obtain ⟨pin, -, hpin⟩ := List.mem_flatMap.mp hmem
      rw [h _ write hpin]
      rfl)
  rw [houter]
  simp only [hinner]
  cases index key <;> rfl

theorem written_gpio :
    Canvas.written (updateGpioState locale update) key =
      key.gpioCell.bind fun pin => Canvas.written (gpioDraws locale update pin) key := by
  refine written_pins fun pin => ?_
  unfold gpioDraws
  split_ifs <;> simp

theorem written_pwm :
    Canvas.written ((List.finRange 16).flatMap (pwmDraws update)) key =
      key.pwmCell.bind fun channel => Canvas.written (pwmDraws update channel) key := by
  refine Canvas.written_loop fun channel => ?_
  unfold pwmDraws
  simp

theorem mem_captions (caption : Caption) : caption ∈ captions := by
  cases caption <;> decide

theorem written_captions {text : Caption → Bytes} :
    Canvas.written (captions.map fun caption =>
        (⟨.label (.caption caption), text caption⟩ : Draw)) key =
      key.captionOf.bind fun caption =>
        Canvas.written [(⟨.label (.caption caption), text caption⟩ : Draw)] key := by
  have hloop := @Canvas.written_flatMap Widget Caption Widget.Content _ key Widget.captionOf
    (fun caption => [⟨.label (.caption caption), text caption⟩]) _ (fun caption write hmem => by
      rw [List.mem_singleton.mp hmem]
      rfl) captions
  rw [List.map_eq_flatMap, hloop]
  simp only [mem_captions, if_true]

end Loops

section Cards

variable {locale : UiLocalePack} {update : ProtoSensorUpdate} {useFahrenheit : Bool}

/-- What the body of the first loop leaves on its card. -/
theorem written_card (i : Fin 2) :
    Canvas.written (sht20Draws locale update useFahrenheit i) (.label (.sht20Name i)) =
        some (ambientName locale i (update.ambient i)) ∧
      Canvas.written (sht20Draws locale update useFahrenheit i) (.label (.sht20Temp i)) =
        some (ambientTemp locale useFahrenheit (update.ambient i)) ∧
      Canvas.written (sht20Draws locale update useFahrenheit i) (.label (.sht20Hum i)) =
        some (ambientHum locale (update.ambient i)) := by
  unfold sht20Draws ProtoSensorUpdate.ambient
  by_cases h : i.val < update.sht20Count
  · simp only [if_pos h]
    refine ⟨?_, ?_, ?_⟩ <;>
      simp [ambientName, ambientTemp, ambientHum]
  · simp only [if_neg h]
    refine ⟨?_, ?_, ?_⟩ <;>
      simp [ambientName, ambientTemp, ambientHum]

/-- What the body of the second does. -/
theorem written_probe (i : Fin 4) :
    Canvas.written (ds18Draws locale update useFahrenheit i) (.label (.ds18Name i)) =
        (update.probe i).map (fun reading => formatRomCode reading.romCode) ∧
      Canvas.written (ds18Draws locale update useFahrenheit i) (.label (.ds18Temp i)) =
        some (probeTemp locale useFahrenheit (update.probe i)) := by
  unfold ds18Draws ProtoSensorUpdate.probe
  by_cases h : i.val < update.ds18b20Count
  · simp only [if_pos h]
    constructor <;> simp [probeTemp]
  · simp only [if_neg h]
    constructor <;> simp [probeTemp]

theorem written_cell (pin : Pin) :
    Canvas.written (gpioDraws locale update pin) (.gpioSwitch pin) = some (gpioOn update pin) ∧
      Canvas.written (gpioDraws locale update pin) (.label (.gpioState pin)) =
        some (utf8 (if gpioOn update pin then locale.labelGpioOn else locale.labelGpioOff)) := by
  unfold gpioDraws
  cases gpioOn update pin <;> constructor <;>
    simp

theorem written_channel (channel : Fin 16) :
    Canvas.written (pwmDraws update channel) (.slider (.pwm channel)) =
        some (Slider.clamp (.pwm channel) (update.pwm.dutyCycle.get channel).toNat) ∧
      Canvas.written (pwmDraws update channel) (.label (.pwm channel)) =
        some (natText (update.pwm.dutyCycle.get channel).toNat) := by
  unfold pwmDraws
  constructor <;> simp

/-- Telemetry without sensors has no readings. -/
theorem ambient_empty (i : Fin 2) : ({} : ProtoSensorUpdate).ambient i = none :=
  if_neg (Nat.not_lt_zero _)

theorem probe_empty (i : Fin 4) : ({} : ProtoSensorUpdate).probe i = none :=
  if_neg (Nat.not_lt_zero _)

/-- Without telemetry the cards are drawn as telemetry without sensors draws them. -/
theorem drawNoTelemetry_eq :
    drawNoTelemetry locale = (List.finRange 2).flatMap (sht20Draws locale {} useFahrenheit) ++
      (List.finRange 4).flatMap (ds18Draws locale {} useFahrenheit) := by
  unfold drawNoTelemetry sht20Draws ds18Draws
  simp

end Cards

section Leads

variable {reselect : UInt16 → UInt16} {applied : Bool} {ui : UiState}

/-- The writes take a screen that shows one view to the other. -/
def Leads (before after : (widget : Widget) → Option widget.Content) (writes : List Draw) : Prop :=
  ∀ widget content, after widget = some content →
    (Canvas.written writes widget).or (before widget) = some content

theorem written_drawSensorData (locale : UiLocalePack) (update : ProtoSensorUpdate)
    (useFahrenheit : Bool) (widget : Widget) :
    Canvas.written (drawSensorData locale update useFahrenheit) widget =
      (((((widget.pwmCell.bind fun channel => Canvas.written (pwmDraws update channel) widget).or
        (Canvas.written
          [⟨.slider .pwmFreq, Slider.clamp .pwmFreq update.pwm.frequencyHz.toNat⟩,
            ⟨.label .pwmFreq, hertz update.pwm.frequencyHz.toNat⟩] widget)).or
        (widget.gpioCell.bind fun pin => Canvas.written (gpioDraws locale update pin) widget)).or
        (Canvas.written
          [⟨.label .wifiBadge,
            labelled locale.labelSequencePrefix (natText update.sequenceId.toNat)⟩] widget)).or
        (widget.probeCard.bind fun i =>
          Canvas.written (ds18Draws locale update useFahrenheit i) widget)).or
        (widget.ambientCard.bind fun i =>
          Canvas.written (sht20Draws locale update useFahrenheit i) widget) := by
  -- what is written last stands first in an `or`
  simp only [drawSensorData, updatePwmState, Canvas.written_append, written_sht20, written_ds18,
    written_gpio, written_pwm]

/-- The widgets that telemetry is shown on. -/
def Widget.showsTelemetry : Widget → Bool
  | .gpioSwitch _ | .slider (.pwm _) | .slider .pwmFreq => true
  | .label .wifiBadge | .label (.sht20Name _) | .label (.sht20Temp _) | .label (.sht20Hum _)
  | .label (.ds18Name _) | .label (.ds18Temp _) | .label (.gpioState _) | .label (.pwm _)
  | .label .pwmFreq => true
  | _ => false

/-- What telemetry writes is what the screen is to show. -/
theorem written_shown {widget : Widget} (update : ProtoSensorUpdate)
    (h : widget.showsTelemetry = true) :
    Canvas.written (drawSensorData (getLocale ui.screens.activePrefs) update
        ui.screens.activePrefs.useFahrenheit) widget =
      uiView reselect applied
        (uiShowTelemetry ui update ui.screens.activePrefs.useFahrenheit) widget := by
  have hcard := @written_card (getLocale ui.screens.activePrefs) update
    ui.screens.activePrefs.useFahrenheit
  have hprobe := @written_probe (getLocale ui.screens.activePrefs) update
    ui.screens.activePrefs.useFahrenheit
  have hcell := @written_cell (getLocale ui.screens.activePrefs) update
  have hchannel := @written_channel update
  rw [written_drawSensorData]
  cases widget with
  | label label =>
      cases label with
      | wifiBadge => rfl
      | sht20Name i => exact Eq.trans (by simp) (hcard i).1
      | sht20Temp i => exact Eq.trans (by simp) (hcard i).2.1
      | sht20Hum i => exact Eq.trans (by simp) (hcard i).2.2
      | ds18Name i => exact Eq.trans (by simp) (hprobe i).1
      | ds18Temp i => exact Eq.trans (by simp) (hprobe i).2
      | gpioState pin => exact Eq.trans (by simp) (hcell pin).2
      | pwm channel => exact Eq.trans (by simp) (hchannel channel).2
      | pwmFreq => rfl
      | _ => cases h
  | slider slider =>
      cases slider with
      | pwm channel => exact Eq.trans (by simp) (hchannel channel).1
      | pwmFreq => rfl
      | textScale => cases h
  | gpioSwitch pin => exact Eq.trans (by simp) (hcell pin).1
  | _ => cases h

/-- It writes nowhere else. -/
theorem written_hidden {widget : Widget} (locale : UiLocalePack) (update : ProtoSensorUpdate)
    (useFahrenheit : Bool) (h : widget.showsTelemetry = false) :
    Canvas.written (drawSensorData locale update useFahrenheit) widget = none := by
  rw [written_drawSensorData]
  cases widget with
  | label label =>
      cases label with
      | status | crcBadge | textScale | caption | freqTitle | channelTitle => rfl
      | _ => cases h
  | slider slider =>
      cases slider with
      | textScale => rfl
      | _ => cases h
  | gpioSwitch pin => cases h
  | _ => rfl

/-- Nor is it shown anywhere else. -/
theorem uiView_hidden {widget : Widget} (update : ProtoSensorUpdate) (useFahrenheit : Bool)
    (h : widget.showsTelemetry = false) :
    uiView reselect applied (uiShowTelemetry ui update useFahrenheit) widget =
      uiView reselect applied ui widget := by
  cases widget with
  | label label =>
      cases label with
      | status | crcBadge | textScale | caption | freqTitle | channelTitle => rfl
      | _ => cases h
  | slider slider =>
      cases slider with
      | textScale => rfl
      | _ => cases h
  | gpioSwitch pin => cases h
  | settingsSwitch switch => cases switch <;> rfl
  | textArea area => cases area <;> rfl
  | colour of => cases of <;> rfl
  | _ => rfl

theorem leads_sensorData (update : ProtoSensorUpdate) :
    Leads (uiView reselect applied ui)
      (uiView reselect applied
        (uiShowTelemetry ui update ui.screens.activePrefs.useFahrenheit))
      (drawSensorData (getLocale ui.screens.activePrefs) update
        ui.screens.activePrefs.useFahrenheit) := by
  intro widget content hafter
  cases hshows : widget.showsTelemetry with
  | true => rw [@written_shown reselect applied ui widget update hshows, hafter, Option.some_or]
  | false =>
      rw [written_hidden _ _ _ hshows, Option.none_or]
      exact (uiView_hidden update _ hshows).symm.trans hafter

theorem leads_connection (connected : Bool) :
    Leads (uiView reselect applied ui)
      (uiView reselect applied (uiUpdateConnectionStatus ui connected))
      (drawConnection (getLocale ui.screens.activePrefs) connected) := by
  intro widget content hafter
  cases widget with
  | label label => cases label <;> cases connected <;> exact hafter
  | colour of => cases of <;> cases connected <;> exact hafter
  | slider slider => cases slider <;> cases connected <;> exact hafter
  | settingsSwitch switch => cases switch <;> cases connected <;> exact hafter
  | textArea area => cases area <;> cases connected <;> exact hafter
  | _ => cases connected <;> exact hafter

theorem leads_crc (crcOk : Bool) :
    Leads (uiView reselect applied ui) (uiView reselect applied (uiUpdateCrcStatus ui crcOk))
      (drawCrc (getLocale ui.screens.activePrefs) crcOk) := by
  intro widget content hafter
  cases widget with
  | label label => cases label <;> cases crcOk <;> exact hafter
  | colour of => cases of <;> cases crcOk <;> exact hafter
  | slider slider => cases slider <;> cases crcOk <;> exact hafter
  | settingsSwitch switch => cases switch <;> cases crcOk <;> exact hafter
  | textArea area => cases area <;> cases crcOk <;> exact hafter
  | _ => cases crcOk <;> exact hafter

/-- The cards where there was no telemetry. -/
theorem written_drawNoTelemetry (locale : UiLocalePack) (useFahrenheit : Bool) (widget : Widget) :
    Canvas.written (drawNoTelemetry locale) widget =
      (widget.probeCard.bind fun i =>
        Canvas.written (ds18Draws locale {} useFahrenheit i) widget).or
        (widget.ambientCard.bind fun i =>
          Canvas.written (sht20Draws locale {} useFahrenheit i) widget) := by
  rw [@drawNoTelemetry_eq locale useFahrenheit, Canvas.written_append, written_sht20, written_ds18]

theorem written_touchTargets (prefs : HmiUserPreferences) (widget : Widget) :
    Canvas.written (applyTouchTargetStyle prefs) widget =
      (Canvas.written
        ([⟨.pad (.settingsSwitch .theme), if prefs.largeTouchTargets then 12 else 4⟩,
          ⟨.pad (.settingsSwitch .units), if prefs.largeTouchTargets then 12 else 4⟩,
          ⟨.pad (.settingsSwitch .highContrast), if prefs.largeTouchTargets then 12 else 4⟩,
          ⟨.pad (.settingsSwitch .touchTargets), if prefs.largeTouchTargets then 12 else 4⟩,
          ⟨.buttonSize .apply, (if prefs.largeTouchTargets then 170 else 140,
            if prefs.largeTouchTargets then 60 else 48)⟩,
          ⟨.buttonSize .reset, (if prefs.largeTouchTargets then 170 else 140,
            if prefs.largeTouchTargets then 60 else 48)⟩,
          ⟨.pad .textScaleMain, if prefs.largeTouchTargets then 12 else 4⟩,
          ⟨.pad .textScaleKnob, if prefs.largeTouchTargets then 12 else 4⟩] : List Draw)
        widget).or
        (widget.padCell.bind fun pin =>
          Canvas.written
            [(⟨.pad (.gpioSwitch pin), if prefs.largeTouchTargets then 12 else 4⟩ : Draw)]
            widget) := by
  have hpins := @written_pins widget Widget.padCell
    (fun pin => [⟨.pad (.gpioSwitch pin), if prefs.largeTouchTargets then 12 else 4⟩]) (by
      intro pin write hmem
      rw [List.mem_singleton.mp hmem]
      rfl)
  rw [applyTouchTargetStyle, Canvas.written_append, hpins]

theorem drawConnection_eq (locale : UiLocalePack) (connected : Bool) :
    drawConnection locale connected =
      [⟨.label .status,
          utf8 (if connected then locale.labelWifiConnected else locale.labelWifiDisconnected)⟩,
        ⟨.colour .status, .hex (if connected then 0x66FF66 else 0xFF5555)⟩] := by
  cases connected <;> rfl

/-- The CRC badge where there was telemetry, and where there was none. -/
theorem drawBadge_eq (locale : UiLocalePack) (crcOk hasLast : Bool) :
    (if hasLast then drawCrc locale crcOk else drawCrcUnknown locale) =
      [⟨.label .crcBadge,
          utf8 ((if hasLast then some crcOk else none).elim locale.labelCrcUnknown fun crcOk =>
            if crcOk then locale.labelCrcOk else locale.labelCrcError)⟩,
        ⟨.colour .crcBadge,
          .hex ((if hasLast then some crcOk else none).elim 0xAAAAAA fun crcOk =>
            if crcOk then 0x66FFAA else 0xFF6666)⟩] := by
  cases hasLast <;> cases crcOk <;> rfl

/-- The state behind `ui_apply_preferences`. -/
theorem uiShowPreferences_eq (prefs : HmiUserPreferences) :
    uiShowPreferences ui prefs =
      { ui with
        screens :=
          { ui.screens with
            activePrefs := prefs
            lastSequenceId :=
              if ui.screens.hasLastProtoUpdate then ui.screens.lastProtoUpdate.sequenceId
              else ui.screens.lastSequenceId }
        crcBadge := if ui.screens.hasLastProtoUpdate then some ui.lastCrcOk else none } := by
  obtain ⟨⟨active, sequence, last, hasLast⟩, connected, crcOk, badge⟩ := ui
  -- with telemetry the refresh draws it again, which sets its number
  cases hasLast <;> rfl

theorem telemetry_uiShowPreferences (prefs : HmiUserPreferences) :
    (uiShowPreferences ui prefs).telemetry = ui.telemetry := by
  rw [uiShowPreferences_eq]
  rfl

/-- The widgets that telemetry is not shown on. -/
theorem leads_preferences_hidden (prefs : HmiUserPreferences) {widget : Widget}
    (hhidden : widget.showsTelemetry = false) {content : widget.Content}
    (hafter : uiView reselect true (uiShowPreferences ui prefs) widget = some content) :
    (Canvas.written (drawPreferences reselect ui prefs) widget).or
      (uiView reselect applied ui widget) = some content := by
  -- the end of `refresh_localised_text` draws the cards alone, with telemetry or without
  have hcards : Canvas.written
      (if ui.screens.hasLastProtoUpdate then
        drawSensorData (getLocale prefs) ui.screens.lastProtoUpdate prefs.useFahrenheit
      else drawNoTelemetry (getLocale prefs)) widget = none := by
    cases ui.screens.hasLastProtoUpdate with
    | true => exact written_hidden _ _ _ hhidden
    | false =>
        rw [if_neg Bool.false_ne_true, written_drawNoTelemetry _ false]
        cases widget with
        | label label =>
            cases label with
            | status | crcBadge | textScale | caption | freqTitle | channelTitle => rfl
            | _ => cases hhidden
        | _ => rfl
  rw [uiShowPreferences_eq] at hafter
  simp only [drawPreferences, drawLocalised, Canvas.written_append, written_captions,
    written_touchTargets, hcards, drawConnection_eq, drawBadge_eq, drawTextScale, applyTheme,
    drawSettings, Option.none_or]
  cases widget with
  | label label =>
      cases label with
      | status | crcBadge | textScale | caption | freqTitle | channelTitle =>
          simpa [uiView, labelView] using hafter
      | _ => cases hhidden
  | slider slider =>
      cases slider with
      | textScale => simpa [uiView] using hafter
      | _ => cases hhidden
  | settingsSwitch switch => cases switch <;> simpa [uiView] using hafter
  | textArea area => cases area <;> simpa [uiView] using hafter
  | colour of => cases of <;> simpa [uiView] using hafter
  | pad of =>
      cases of with
      | settingsSwitch switch => cases switch <;> simpa [uiView] using hafter
      | _ => simpa [uiView] using hafter
  | buttonSize button =>
      cases button <;> cases hlarge : prefs.largeTouchTargets <;>
        simpa [uiView, hlarge] using hafter
  | gpioSwitch pin => cases hhidden
  | _ => simpa [uiView] using hafter

/-- What telemetry is shown on depends on it and on the preferences alone. -/
theorem uiView_shown {other : UiState} {widget : Widget}
    (htelemetry : ui.telemetry = other.telemetry)
    (hactive : ui.screens.activePrefs = other.screens.activePrefs)
    (h : widget.showsTelemetry = true) :
    uiView reselect applied ui widget = uiView reselect applied other widget := by
  cases widget with
  | label label =>
      cases label with
      | status | crcBadge | textScale | caption | freqTitle | channelTitle => cases h
      | _ => simp only [uiView, labelView, htelemetry, hactive]
  | slider slider =>
      cases slider with
      | textScale => cases h
      | _ => simp only [uiView, htelemetry]
  | gpioSwitch pin => simp only [uiView, htelemetry]
  | _ => cases h

/-- Preferences: every text, and the telemetry that is shown already. -/
theorem leads_preferences (prefs : HmiUserPreferences)
    (hnumber : ui.screens.hasLastProtoUpdate = false → ui.screens.lastSequenceId = 0) :
    Leads (uiView reselect applied ui) (uiView reselect true (uiShowPreferences ui prefs))
      (drawPreferences reselect ui prefs) := by
  intro widget content hafter
  cases hshows : widget.showsTelemetry with
  | false => exact leads_preferences_hidden prefs hshows hafter
  | true =>
      have htelemetry := @telemetry_uiShowPreferences ui prefs
      have hactive : (uiShowPreferences ui prefs).screens.activePrefs = prefs :=
        uiShowPreferences_activePrefs ui prefs
      simp only [drawPreferences, drawLocalised, Canvas.written_append]
      cases hlast : ui.screens.hasLastProtoUpdate with
      | true =>
          -- the telemetry is drawn last of all
          have hshown := @written_shown reselect true
            { ui with screens := { ui.screens with activePrefs := prefs } } widget
            ui.screens.lastProtoUpdate hshows
          have hnext : (uiShowPreferences ui prefs).telemetry = some ui.screens.lastProtoUpdate :=
            htelemetry.trans (if_pos hlast)
          have hcards := hshown.trans ((@uiView_shown reselect true
            (uiShowTelemetry { ui with screens := { ui.screens with activePrefs := prefs } }
              ui.screens.lastProtoUpdate prefs.useFahrenheit)
            (uiShowPreferences ui prefs) widget hnext.symm hactive.symm hshows).trans hafter)
          simp only [if_true]
          rw [hcards]
          simp
      | false =>
          -- nothing is drawn but the dashes, and the pins and channels are as they were created
          have hnone : ui.telemetry = none := if_neg (by rw [hlast]; decide)
          have hcard := @written_card (getLocale prefs) {} prefs.useFahrenheit
          have hprobe := @written_probe (getLocale prefs) {} prefs.useFahrenheit
          rw [hnone] at htelemetry
          simp only [Bool.false_eq_true, if_false,
            written_drawNoTelemetry _ prefs.useFahrenheit, hnumber hlast, written_captions,
            written_touchTargets, drawConnection_eq, drawCrcUnknown, drawTextScale, applyTheme,
            drawSettings]
          cases widget with
          | label label =>
              cases label with
              | status | crcBadge | textScale | caption | freqTitle | channelTitle => cases hshows
              | _ =>
                  simpa [uiView, labelView, hnone, htelemetry, hactive, hcard, hprobe,
                    ambient_empty,
                    probe_empty, dashes] using hafter
          | slider slider =>
              cases slider with
              | textScale => cases hshows
              | _ => simpa [uiView, hnone, htelemetry] using hafter
          | gpioSwitch pin => simpa [uiView, hnone, htelemetry] using hafter
          | _ => cases hshows

/-- The widgets of `ui_init`. -/
theorem shows_init : Canvas.Shows (uiView reselect false uiInit) (uiInitScreen reselect) := by
  have hcreated : Canvas.Shows (fun widget => some (createdContent widget))
      (fun widget => { content := createdContent widget }) :=
    fun widget content hcontent _ => Option.some.inj hcontent
  -- `ui_init` draws the theme and the texts; the rest is as it was created
  refine hcreated.draw fun widget content hafter => ?_
  have hlast : uiInit.screens.hasLastProtoUpdate = false := rfl
  have hnumber : uiInit.screens.lastSequenceId = 0 := rfl
  have hnone : uiInit.telemetry = none := rfl
  have hbadge : uiInit.crcBadge = none := rfl
  have hlink : uiInit.lastConnected = false := rfl
  have hunit : uiInit.screens.activePrefs.useFahrenheit = false := rfl
  have hdark : uiInit.screens.activePrefs.darkTheme = true := rfl
  have hlanguage : selectedLanguage uiInit.screens.activePrefs = 0 := by decide
  have hempty : cString uiInit.screens.activePrefs.ssid.toList = [] ∧
      cString uiInit.screens.activePrefs.password.toList = [] ∧
      cString uiInit.screens.activePrefs.mdnsTarget.toList = [] := by decide
  have hcard := @written_card (getLocale uiInit.screens.activePrefs) {} false
  have hprobe := @written_probe (getLocale uiInit.screens.activePrefs) {} false
  simp only [drawLocalised, Canvas.written_append, written_captions, hlast, hnumber,
    Bool.false_eq_true, if_false, written_drawNoTelemetry _ false, drawConnection_eq,
    drawCrcUnknown, drawTextScale, applyTheme]
  cases widget with
  | label label =>
      cases label with
      | textScale => exact hafter
      | _ =>
          simpa [uiView, labelView, hnone, hbadge, hlink, hunit, hcard, hprobe, ambient_empty,
            probe_empty, dashes, createdContent] using hafter
  | slider slider =>
      cases slider with
      | textScale => exact hafter
      | _ => simpa [uiView, hnone, createdContent] using hafter
  | settingsSwitch switch => cases switch <;> first | exact hafter | cases hafter
  | textArea area => cases area <;> simpa [uiView, hempty, createdContent] using hafter
  | colour of => cases of <;> simpa [uiView, hbadge, hlink, hdark] using hafter
  | gpioSwitch pin => simpa [uiView, hnone, createdContent] using hafter
  | languageDd => simpa [uiView, hlanguage] using hafter
  | theme => simpa [uiView, hdark] using hafter
  | zoom => simpa [uiView] using hafter
  | pad of => cases hafter
  | buttonSize button => cases hafter

end Leads

section Node

variable {ι : Type} {codec : Codec ι} {fuel : Nat} {node : HmiNode}

/-- A call of the data model, of a callback or of the tasks leaves the screens as they are, or
makes one call of them. -/
theorem ui_hmiStep (event : HmiEvent) :
    (hmiStep codec fuel node event).1.ui =
      (hmiUiCall node event).elim node.ui (UiCall.perform node.ui) := by
  cases event with
  | receive payload crc32 =>
      unfold hmiStep
      dsimp only
      split_ifs <;> rfl
  | rxCall locked => cases hpending : node.pending <;> simp only [hmiStep, hpending] <;> rfl
  | net locked connected => rfl
  | ui locked =>
      show (uiTaskCall locked node).1.ui = (taskUiCall locked node).elim _ _
      unfold uiTaskCall taskUiCall
      cases node.point with
      | peekUpdate => dsimp only; cases hmiDataModelPeekUpdate locked node.model <;> rfl
      | getUpdate =>
          dsimp only
          generalize hmiDataModelGetUpdate locked node.model = read
          obtain ⟨update, model⟩ := read
          cases update <;> rfl
      | _ => rfl
  | touch action =>
      unfold hmiStep hmiUiCall
      dsimp only
      split_ifs
      · cases action <;> rfl
      · rfl

/-- What a step can do: no call of the screens; preferences, which `s_prefs` has then; or one of the
other calls, behind the first preferences and in the unit of `s_prefs`. -/
inductive StepDraws (node next : HmiNode) : Option UiCall → Prop
  | nothing (prefs : next.prefs = node.prefs)
      (point : next.point = .getPreferences ↔ node.point = .getPreferences) :
      StepDraws node next none
  | preferences (prefs : HmiUserPreferences) (own : next.prefs = prefs)
      (point : next.point ≠ .getPreferences) : StepDraws node next (some (.preferences prefs))
  | other (call : UiCall) (prefs : next.prefs = node.prefs) (before : node.point ≠ .getPreferences)
      (point : next.point ≠ .getPreferences)
      (kind : (∃ update, call = .sensorData update node.prefs.useFahrenheit) ∨
        (∃ connected, call = .connection connected) ∨ ∃ crcOk, call = .crc crcOk) :
      StepDraws node next (some call)

theorem taskCall_draws (locked : Bool) :
    StepDraws node (uiTaskCall locked node).1 (taskUiCall locked node) := by
  unfold uiTaskCall taskUiCall
  by_cases hlate : node.point = .getPreferences
  · rw [hlate]
    exact .preferences _ rfl (fun h => by cases h)
  -- behind the first call `s_prefs` changes only in the callbacks
  cases hpoint : node.point with
  | getPreferences => exact absurd hpoint hlate
  | peekUpdate =>
      dsimp only
      cases hmiDataModelPeekUpdate locked node.model with
      | none => exact .nothing rfl (iff_of_false (fun h => by cases h) hlate)
      | some update => exact .other _ rfl hlate (fun h => by cases h) (Or.inl ⟨update, rfl⟩)
  | getUpdate =>
      dsimp only
      generalize hmiDataModelGetUpdate locked node.model = read
      obtain ⟨update, model⟩ := read
      cases update with
      | none => exact .nothing rfl (iff_of_false (fun h => by cases h) hlate)
      | some update => exact .other _ rfl hlate (fun h => by cases h) (Or.inl ⟨update, rfl⟩)
  | isConnected => exact .other _ rfl hlate (fun h => by cases h) (Or.inr (Or.inl ⟨_, rfl⟩))
  | getCrcStatus => exact .other _ rfl hlate (fun h => by cases h) (Or.inr (Or.inr ⟨_, rfl⟩))
  | process => exact .nothing rfl (iff_of_false (fun h => by cases h) hlate)

theorem hmiStep_draws (event : HmiEvent) :
    StepDraws node (hmiStep codec fuel node event).1 (hmiUiCall node event) := by
  cases event with
  | receive payload crc32 =>
      unfold hmiStep
      dsimp only
      split_ifs <;> exact .nothing rfl Iff.rfl
  | rxCall locked =>
      cases hpending : node.pending <;> simp only [hmiStep, hpending] <;>
        exact .nothing rfl Iff.rfl
  | net locked connected => exact .nothing rfl Iff.rfl
  | ui locked => exact taskCall_draws locked
  | touch action =>
      unfold hmiStep hmiUiCall
      dsimp only
      split_ifs with hpoint
      · have hlate : node.point ≠ .getPreferences := by rw [hpoint]; decide
        cases action with
        | applyPrefs inputs locked results => exact .preferences _ rfl hlate
        | resetPrefs resetLocked getLocked results => exact .preferences _ rfl hlate
        | _ => exact .nothing rfl Iff.rfl
      · exact .nothing rfl Iff.rfl

end Node

section Panels

variable {ι : Type} {codec : Codec ι} {fuel : Nat} {reselect : UInt16 → UInt16} {panel : Panel}

/-- The widgets a user can move, and the labels beside them. -/
def Widget.movable : Widget → Bool
  | .gpioSwitch _ | .settingsSwitch _ | .slider _ | .textArea _ | .languageDd => true
  | .label (.pwm _) | .label .pwmFreq | .label .textScale => true
  | _ => false

theorem movable_edit (edit : FormEdit) : ∀ write ∈ edit.writes, write.1.movable = true := by
  cases edit <;> simp [FormEdit.writes, drawTextScale, Widget.movable]

theorem movable_action (action : UiAction) : ∀ write ∈ action.writes, write.1.movable = true := by
  cases action with
  | pwmSlider channel value =>
      by_cases h : channel.toNat < 16 <;> simp [UiAction.writes, h, Widget.movable]
  | _ => simp [UiAction.writes, Widget.movable]

theorem movable_touched (node : HmiNode) (event : HmiEvent) :
    ∀ write ∈ event.touched node, write.1.movable = true := by
  -- only in `ui_process` does a touch reach a widget
  cases event with
  | touch action =>
      show ∀ write ∈ if node.point = .process then action.writes else [], _
      split_ifs
      · exact movable_action action
      · exact fun write hmem => absurd hmem List.not_mem_nil
  | _ => exact fun write hmem => absurd hmem List.not_mem_nil

/-- The text scale is only a setting: no action of the other tabs moves it. -/
theorem touched_textScale (node : HmiNode) (event : HmiEvent) :
    Canvas.written (event.touched node) (.slider .textScale) = none := by
  cases event with
  | touch action =>
      show Canvas.written (if node.point = .process then action.writes else []) _ = _
      split_ifs
      · cases action with
        | pwmSlider channel value =>
            by_cases h : channel.toNat < 16 <;> simp [UiAction.writes, h]
        | pwmFreqSlider freq => simp [UiAction.writes]
        | gpioSwitch ctx on => simp [UiAction.writes]
        | applyPrefs inputs locked results => rfl
        | resetPrefs resetLocked getLocked results => rfl
      · rfl
  | _ => rfl

theorem clamp_textScale (value : Int) :
    80 ≤ Slider.clamp .textScale value ∧ Slider.clamp .textScale value ≤ 140 := by
  show 80 ≤ max 80 (min 140 value) ∧ max 80 (min 140 value) ≤ 140
  omega

/-- The preferences of `ui_task` are those of the screens once these have any, and the screen shows
what they say but for what the user has moved. -/
structure PanelInv (reselect : UInt16 → UInt16) (panel : Panel) : Prop where
  shows : Canvas.Shows (uiView reselect (decide (panel.node.point ≠ .getPreferences)) panel.node.ui)
    panel.screen
  movable : ∀ widget, (panel.screen widget).byUser = true → widget.movable = true
  scale : (panel.screen (.slider .textScale)).byUser = true →
    80 ≤ (panel.screen (.slider .textScale)).content ∧
      (panel.screen (.slider .textScale)).content ≤ 140
  prefs : panel.node.point ≠ .getPreferences →
    panel.node.prefs = panel.node.ui.screens.activePrefs
  number : panel.node.ui.screens.hasLastProtoUpdate = false →
    panel.node.ui.screens.lastSequenceId = 0

namespace PanelInv

theorem boot (blob : Cell (Option HmiUserPreferences)) :
    PanelInv reselect (panelBoot reselect blob) where
  shows := shows_init
  movable := fun widget huser => by
    -- `ui_init` runs before the user gets at anything
    rw [show (panelBoot reselect blob).screen widget = ⟨createdContent widget, false⟩ from
      Canvas.draw_eq_self huser] at huser
    cases huser
  scale := fun huser => by
    rw [show (panelBoot reselect blob).screen (.slider .textScale) = ⟨100, false⟩ from
      Canvas.draw_eq_self huser] at huser
    cases huser
  prefs := fun hpoint => absurd rfl hpoint
  number := fun _ => rfl

/-- The user moves widgets. -/
theorem move (h : PanelInv reselect panel) {writes : List Draw}
    (hmovable : ∀ write ∈ writes, write.1.movable = true)
    (hscale : ∀ content, Canvas.written writes (.slider .textScale) = some content →
      80 ≤ content ∧ content ≤ 140) :
    PanelInv reselect { panel with screen := Canvas.move panel.screen writes } where
  shows := h.shows.move
  movable := by
    intro widget huser
    dsimp only at huser
    rw [Canvas.move_apply] at huser
    cases hwritten : Canvas.written writes widget with
    | some content =>
        obtain ⟨write, hmem, rfl⟩ := Canvas.exists_of_written hwritten
        exact hmovable write hmem
    | none =>
        rw [hwritten] at huser
        exact h.movable widget huser
  scale := by
    intro huser
    dsimp only at huser ⊢
    rw [Canvas.move_apply] at huser ⊢
    cases hwritten : Canvas.written writes (.slider .textScale) with
    | some content => exact hscale content hwritten
    | none =>
        rw [hwritten] at huser
        exact h.scale huser
  prefs := h.prefs
  number := h.number

/-- What is drawn is not the user's any more. -/
theorem draw (h : PanelInv reselect panel) {next : HmiNode} {writes : List Draw}
    (hshows : Canvas.Shows (uiView reselect (decide (next.point ≠ .getPreferences)) next.ui)
      (Canvas.draw panel.screen writes))
    (hprefs : next.point ≠ .getPreferences → next.prefs = next.ui.screens.activePrefs)
    (hnumber : next.ui.screens.hasLastProtoUpdate = false → next.ui.screens.lastSequenceId = 0) :
    PanelInv reselect ⟨next, Canvas.draw panel.screen writes⟩ where
  shows := hshows
  movable := by
    intro widget huser
    dsimp only at huser
    rw [Canvas.draw_eq_self huser] at huser
    exact h.movable widget huser
  scale := by
    intro huser
    dsimp only at huser ⊢
    rw [Canvas.draw_eq_self huser]
    rw [Canvas.draw_eq_self huser] at huser
    exact h.scale huser
  prefs := hprefs
  number := hnumber

/-- The call of the screens that a step makes. -/
theorem call (h : PanelInv reselect panel) {next : HmiNode} {call : Option UiCall}
    (hdraws : StepDraws panel.node next call)
    (hui : next.ui = call.elim panel.node.ui (UiCall.perform panel.node.ui)) :
    PanelInv reselect
      ⟨next, Canvas.draw panel.screen
        ((call.map (UiCall.draws reselect panel.node.ui)).getD [])⟩ := by
  cases hdraws with
  | nothing prefs point =>
      -- the step may still move `ui_task` on, but not across its first call
      have hsame : next.ui = panel.node.ui := hui
      refine h.draw ?_ ?_ ?_
      · show Canvas.Shows _ panel.screen
        rw [hsame, decide_eq_decide.mpr (not_congr point)]
        exact h.shows
      · rw [hsame, prefs]
        exact fun hpoint => h.prefs fun hbefore => hpoint (point.mpr hbefore)
      · rw [hsame]
        exact h.number
  | preferences prefs own point =>
      have hnext : next.ui = uiShowPreferences panel.node.ui prefs := hui
      refine h.draw ?_ ?_ ?_
      · rw [hnext, decide_eq_true point]
        exact h.shows.draw (leads_preferences prefs h.number)
      · rw [hnext, uiShowPreferences_activePrefs]
        exact fun _ => own
      · rw [hnext, uiShowPreferences_eq]
        intro hlast
        dsimp only at hlast ⊢
        rw [if_neg (by rw [hlast]; decide)]
        exact h.number hlast
  | other call prefs before point kind =>
      -- telemetry is drawn in the unit of `s_prefs`, which is that of the screen
      have hactive := h.prefs before
      have hshows := h.shows
      rw [decide_eq_true before] at hshows
      rcases kind with ⟨update, rfl⟩ | ⟨connected, rfl⟩ | ⟨crcOk, rfl⟩
      · have hnext : next.ui =
            uiShowTelemetry panel.node.ui update panel.node.prefs.useFahrenheit := hui
        refine h.draw ?_ ?_ ?_
        · rw [hnext, decide_eq_true point, hactive]
          exact hshows.draw (leads_sensorData update)
        · rw [hnext, prefs]
          exact fun _ => hactive
        · rw [hnext]
          intro hlast
          have htrue : true = false := hlast
          cases htrue
      · have hnext : next.ui = uiUpdateConnectionStatus panel.node.ui connected := hui
        refine h.draw ?_ ?_ ?_
        · rw [hnext, decide_eq_true point]
          exact hshows.draw (leads_connection connected)
        · rw [hnext, prefs]
          exact fun _ => hactive
        · rw [hnext]
          exact h.number
      · have hnext : next.ui = uiUpdateCrcStatus panel.node.ui crcOk := hui
        refine h.draw ?_ ?_ ?_
        · rw [hnext, decide_eq_true point]
          exact hshows.draw (leads_crc crcOk)
        · rw [hnext, prefs]
          exact fun _ => hactive
        · rw [hnext]
          exact h.number

/-- Any event. -/
theorem step (h : PanelInv reselect panel) (event : PanelEvent) :
    PanelInv reselect (panelStep codec fuel reselect panel event).1 := by
  cases event with
  | task event =>
      show PanelInv reselect (panelTask codec fuel reselect panel event).1
      unfold panelTask
      dsimp only
      generalize event.withForm panel.screen = event
      -- the widget moves, then the callback draws
      exact (h.move (movable_touched panel.node event) fun content hwritten =>
        absurd hwritten (by rw [touched_textScale]; exact (Option.some_ne_none content).symm)).call
          (hmiStep_draws event) (ui_hmiStep event)
  | edit edit =>
      unfold panelStep
      dsimp only
      split_ifs
      · refine h.move (movable_edit edit) fun content hwritten => ?_
        cases edit with
        | textScale value =>
            have hvalue : Slider.clamp .textScale value = content := by
              simpa [FormEdit.writes, drawTextScale] using hwritten
            exact hvalue ▸ clamp_textScale value
        | _ => simp [FormEdit.writes] at hwritten
      · exact h

/-- Every run from a boot. -/
theorem run (blob : Cell (Option HmiUserPreferences)) (events : List PanelEvent) :
    PanelInv reselect
      (Machine.run (panelStep codec fuel reselect) (panelBoot reselect blob) events).1 :=
  @Machine.run_invariant _ _ _ _ _ _ (PanelInv reselect) (fun _ => True)
    (fun _ event h _ => h.step event) (PanelInv.boot blob) fun _ _ => trivial

end PanelInv


/-- In every reachable state a widget shows what the state asks for, unless the user has moved it
since it was drawn last: then it is one a user can move. Nothing on the screen is left over from
telemetry, preferences or a link that are gone. -/
theorem screen_shows_state (codec : Codec ι) (fuel : Nat) (reselect : UInt16 → UInt16)
    (blob : Cell (Option HmiUserPreferences)) (events : List PanelEvent) (widget : Widget) :
    let panel := (Machine.run (panelStep codec fuel reselect) (panelBoot reselect blob) events).1
    let view := uiView reselect (decide (panel.node.point ≠ .getPreferences)) panel.node.ui widget
    (∀ content, view = some content → (panel.screen widget).content = content) ∨
      ((panel.screen widget).byUser = true ∧ widget.movable = true) := by
  have h : PanelInv reselect
      (Machine.run (panelStep codec fuel reselect) (panelBoot reselect blob) events).1 :=
    PanelInv.run blob events
  cases huser : ((Machine.run (panelStep codec fuel reselect)
      (panelBoot reselect blob) events).1.screen widget).byUser with
  | false => exact Or.inl fun content hview => h.shows widget content hview huser
  | true => exact Or.inr ⟨huser, h.movable widget huser⟩

section Form

/-- The language of an entry of the list. -/
def savedLanguage (selected : UInt16) : UInt32 :=
  if selected.toUInt32 < hmiLanguageMax then selected.toUInt32 else hmiLanguageEn

/-- The preferences are what the settings hold, cut to the room of their fields. -/
structure SavesForm (screen : Screen) (saved : HmiUserPreferences) : Prop where
  ssid : cString saved.ssid.toList = (cString (screen (.textArea .ssid)).content).take 32
  password : cString saved.password.toList =
    (cString (screen (.textArea .password)).content).take 64
  mdnsTarget : cString saved.mdnsTarget.toList =
    (cString (screen (.textArea .mdns)).content).take 63
  darkTheme : saved.darkTheme = (screen (.settingsSwitch .theme)).content
  useFahrenheit : saved.useFahrenheit = (screen (.settingsSwitch .units)).content
  highContrast : saved.highContrast = (screen (.settingsSwitch .highContrast)).content
  largeTouchTargets : saved.largeTouchTargets = (screen (.settingsSwitch .touchTargets)).content
  textScalePercent : (saved.textScalePercent.toNat : Int) = (screen (.slider .textScale)).content
  language : saved.language = savedLanguage (screen .languageDd).content

/-- What the user has not touched is as it was; the language only if the list of languages kept its
selection when it was filled again. -/
structure KeepsUntouched (reselect : UInt16 → UInt16) (screen : Screen)
    (active saved : HmiUserPreferences) : Prop where
  ssid : (screen (.textArea .ssid)).byUser = false →
    cString saved.ssid.toList = cString active.ssid.toList
  password : (screen (.textArea .password)).byUser = false →
    cString saved.password.toList = cString active.password.toList
  mdnsTarget : (screen (.textArea .mdns)).byUser = false →
    cString saved.mdnsTarget.toList = cString active.mdnsTarget.toList
  darkTheme : (screen (.settingsSwitch .theme)).byUser = false →
    saved.darkTheme = active.darkTheme
  useFahrenheit : (screen (.settingsSwitch .units)).byUser = false →
    saved.useFahrenheit = active.useFahrenheit
  highContrast : (screen (.settingsSwitch .highContrast)).byUser = false →
    saved.highContrast = active.highContrast
  largeTouchTargets : (screen (.settingsSwitch .touchTargets)).byUser = false →
    saved.largeTouchTargets = active.largeTouchTargets
  textScalePercent : (screen (.slider .textScale)).byUser = false →
    saved.textScalePercent = active.textScalePercent
  language : (screen .languageDd).byUser = false →
    saved.language = savedLanguage (reselect (selectedLanguage active))

theorem toNat_ofInt_scale {value : Int} (h : 80 ≤ value ∧ value ≤ 140) :
    ((UInt8.ofInt value).toNat : Int) = value := by
  unfold UInt8.ofInt
  rw [UInt8.toNat_ofNat']
  omega

theorem clamp_sane {percent : UInt8} (h : 80 ≤ percent ∧ percent ≤ 140) :
    Slider.clamp .textScale percent.toNat = percent.toNat := by
  have hlow : 80 ≤ percent.toNat := UInt8.le_iff_toNat_le.mp h.1
  have hhigh : percent.toNat ≤ 140 := UInt8.le_iff_toNat_le.mp h.2
  show max 80 (min 140 (percent.toNat : Int)) = percent.toNat
  omega

theorem savedLanguage_range (selected : UInt16) : savedLanguage selected < hmiLanguageMax := by
  unfold savedLanguage
  split_ifs with hlanguage
  · exact hlanguage
  · decide

/-- A text scale in range goes through `dispatch_apply_preferences`, and a text up to its room. -/
theorem saves_form (active : HmiUserPreferences) {screen : Screen}
    (hscale : 80 ≤ (screen (.slider .textScale)).content ∧
      (screen (.slider .textScale)).content ≤ 140) :
    SavesForm screen (dispatchApplyPreferences active (readForm screen)) where
  ssid := @cString_strncpy 32 _ _
  password := @cString_strncpy 64 _ _
  mdnsTarget := @cString_strncpy 63 _ _
  darkTheme := rfl
  useFahrenheit := rfl
  highContrast := rfl
  largeTouchTargets := rfl
  textScalePercent := by
    have hkept {value : Int} (h : 80 ≤ value ∧ value ≤ 140) :
        ¬ (UInt8.ofInt value < 80 ∨ 140 < UInt8.ofInt value) := by
      have hnat := toNat_ofInt_scale h
      rw [UInt8.lt_iff_toNat_lt, UInt8.lt_iff_toNat_lt]
      show ¬ ((UInt8.ofInt value).toNat < 80 ∨ 140 < (UInt8.ofInt value).toNat)
      omega
    -- so the check of `dispatch_apply_preferences` keeps it
    have hsaved : (dispatchApplyPreferences active (readForm screen)).textScalePercent =
        UInt8.ofInt (screen (.slider .textScale)).content := if_neg (hkept hscale)
    rw [hsaved]
    exact toNat_ofInt_scale hscale
  language := if_pos (savedLanguage_range _)

end Form

/-- The scale on the slider is in range whoever put it there. -/
theorem PanelInv.scaleShown (h : PanelInv reselect panel) :
    80 ≤ (panel.screen (.slider .textScale)).content ∧
      (panel.screen (.slider .textScale)).content ≤ 140 := by
  cases huser : (panel.screen (.slider .textScale)).byUser with
  | true => exact h.scale huser
  | false =>
      rw [h.shows (.slider .textScale) _ rfl huser]
      exact clamp_textScale _

/-- What nobody has moved since the preferences were drawn is saved as it was. -/
theorem PanelInv.keepsUntouched (h : PanelInv reselect panel)
    (hpoint : panel.node.point ≠ .getPreferences)
    (hsane : panel.node.ui.screens.activePrefs.Sane) :
    KeepsUntouched reselect panel.screen panel.node.ui.screens.activePrefs
      (dispatchApplyPreferences panel.node.ui.screens.activePrefs (readForm panel.screen)) := by
  have hsaves := saves_form panel.node.ui.screens.activePrefs h.scaleShown
  have hkept := sanitizePreferences_alike hsane
  have hshows := h.shows
  rw [decide_eq_true hpoint] at hshows
  -- a sane text fits its field, so `strncpy` cuts nothing off
  refine ⟨fun huser => ?_, fun huser => ?_, fun huser => ?_, fun huser => ?_, fun huser => ?_,
    fun huser => ?_, fun huser => ?_, fun huser => ?_, fun huser => ?_⟩
  · rw [hsaves.ssid, hshows (.textArea .ssid) _ rfl huser, cString_cString]
    exact (@cString_terminated 32 _).symm.trans hkept.ssid
  · rw [hsaves.password, hshows (.textArea .password) _ rfl huser, cString_cString]
    exact (@cString_terminated 64 _).symm.trans hkept.password
  · rw [hsaves.mdnsTarget, hshows (.textArea .mdns) _ rfl huser, cString_cString]
    exact (@cString_terminated 63 _).symm.trans hkept.mdnsTarget
  · exact hsaves.darkTheme.trans (hshows (.settingsSwitch .theme) _ rfl huser)
  · exact hsaves.useFahrenheit.trans (hshows (.settingsSwitch .units) _ rfl huser)
  · exact hsaves.highContrast.trans (hshows (.settingsSwitch .highContrast) _ rfl huser)
  · exact hsaves.largeTouchTargets.trans (hshows (.settingsSwitch .touchTargets) _ rfl huser)
  · have hcontent := hsaves.textScalePercent.trans (hshows (.slider .textScale) _ rfl huser)
    rw [clamp_sane hsane.scale] at hcontent
    exact UInt8.toNat_inj.mp (Int.ofNat_inj.mp hcontent)
  · rw [hsaves.language, hshows .languageDd _ rfl huser]

/-- The apply button. -/
theorem panelStep_apply (hpoint : panel.node.point = .process) (inputs : PrefsInputs)
    (locked : Bool) (results : PrefsNvs) :
    (panelStep codec fuel reselect panel
      (.task (.touch (.applyPrefs inputs locked results)))).1.node
      = (uiCallback panel.node (.applyPrefs (readForm panel.screen) locked results)).1 := by
  show (if panel.node.point = .process then _ else _ : HmiNode × List HmiOutput).1 = _
  rw [if_pos hpoint]

/-- In every reachable state the apply button saves what the settings hold, and what the user has
not touched is as it was, but for the language where the list of languages lost its selection when
it was filled again. The screen and `s_prefs` have it at once, and where locks and NVS answer so do
the model and every boot that follows. -/
theorem apply_saves_form (codec : Codec ι) (fuel : Nat) (reselect : UInt16 → UInt16)
    (blob : Cell (Option HmiUserPreferences)) (events : List PanelEvent) (inputs : PrefsInputs)
    (locked : Bool) (results : PrefsNvs)
    (hpoint : (Machine.run (panelStep codec fuel reselect) (panelBoot reselect blob)
      events).1.node.point = .process) :
    let panel := (Machine.run (panelStep codec fuel reselect) (panelBoot reselect blob) events).1
    let active := panel.node.ui.screens.activePrefs
    let next := (panelStep codec fuel reselect panel
      (.task (.touch (.applyPrefs inputs locked results)))).1.node
    SavesForm panel.screen next.prefs ∧
      (active.Sane → KeepsUntouched reselect panel.screen active next.prefs) ∧
      next.ui.screens.activePrefs = next.prefs ∧
      (locked = true → next.prefs.Alike next.model.preferences) ∧
      (results = {} → ∀ stored, next.blob.MayBe stored →
        (hmiDataModelInit stored).preferences.Alike next.prefs) := by
  have h : PanelInv reselect
      (Machine.run (panelStep codec fuel reselect) (panelBoot reselect blob) events).1 :=
    PanelInv.run blob events
  generalize (Machine.run (panelStep codec fuel reselect) (panelBoot reselect blob) events).1 =
    panel at h hpoint
  dsimp only
  have hlate : panel.node.point ≠ .getPreferences := by rw [hpoint]; decide
  have hsaned := dispatchApplyPreferences_sane panel.node.ui.screens.activePrefs
    (readForm panel.screen)
  rw [panelStep_apply hpoint]
  refine ⟨saves_form _ h.scaleShown, h.keepsUntouched hlate, uiShowPreferences_activePrefs _ _, ?_,
    ?_⟩
  · intro hlocked
    rw [hlocked]
    exact set_alike hsaned panel.node.model
  · intro hresults stored hstored
    rw [hresults] at hstored
    rw [mayBe_flashSavePrefs_answered.mp hstored]
    exact (init_alike _).trans (sanitizePreferences_alike hsaned)

/-- A boot into the settings, a text typed there and the button. -/
theorem apply_saves_form_text :
    let events : List PanelEvent :=
      List.replicate 5 (.task (.ui true)) ++ [.edit (.text .ssid (utf8 "plant"))]
    let panel := (Machine.run (panelStep (Codec.plain true) 0 id) (panelBoot id ⟨none, []⟩)
      events).1
    SavesForm panel.screen (panelStep (Codec.plain true) 0 id panel (.task (.touch
      (.applyPrefs ⟨[], [], [], false, false, false, false, 0, 0⟩ true {})))).1.node.prefs := by
  intro events panel
  have happly := apply_saves_form (Codec.plain true) 0 id ⟨none, []⟩ events
    ⟨[], [], [], false, false, false, false, 0, 0⟩ true {} rfl
  dsimp only at happly
  exact happly.1

end Panels

end SensorHmi
