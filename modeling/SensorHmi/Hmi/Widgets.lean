import SensorHmi.Lib.Canvas
import SensorHmi.Lib.Ieee
import SensorHmi.Hmi.Screen
import SensorHmi.Hmi.PrefsLife

/-!
# The widgets of the HMI

`hmi_node/main/display/ui_screens.c` and `hmi_node/main/display/ui_locale.c`: which widgets there
are, and what each call of the screens writes to them. LVGL keeps what was written. It is not part
of the repository; that `lv_dropdown_set_options` may change the selection of a list is the
parameter `reselect`.
-/

namespace SensorHmi

open Octets Numeral Canvas

/-- The octets of a string literal. -/
def utf8 (text : String) : Bytes :=
  text.toUTF8.data.toList

/-- `ui_locale_pack_t` -/
structure UiLocalePack where
  tabDashboard : String
  tabGpio : String
  tabPwm : String
  tabTraces : String
  tabSettings : String
  tabAccessibility : String
  labelWifiSsid : String
  labelWifiPassword : String
  labelMdnsTarget : String
  labelDarkTheme : String
  labelUseFahrenheit : String
  labelApply : String
  labelReset : String
  labelWifiConnected : String
  labelWifiDisconnected : String
  labelCrcOk : String
  labelCrcError : String
  labelCrcUnknown : String
  labelTemperaturePrefix : String
  labelHumidityPrefix : String
  labelSensorFallback : String
  labelSequencePrefix : String
  labelLanguage : String
  labelHighContrast : String
  labelTextScale : String
  labelTouchTargets : String
  dropdownLanguages : String
  labelGpioOn : String
  labelGpioOff : String
  labelFrequency : String
  labelChannelPrefix : String

/-- `s_pack_en` -/
def packEn : UiLocalePack where
  tabDashboard := "Dashboard"
  tabGpio := "GPIO"
  tabPwm := "PWM"
  tabTraces := "Traces"
  tabSettings := "Settings"
  tabAccessibility := "Accessibility"
  labelWifiSsid := "Wi-Fi SSID"
  labelWifiPassword := "Wi-Fi Password"
  labelMdnsTarget := "mDNS Target Host"
  labelDarkTheme := "Dark Theme"
  labelUseFahrenheit := "Use °F"
  labelApply := "Apply"
  labelReset := "Reset"
  labelWifiConnected := "Wi-Fi: Connected"
  labelWifiDisconnected := "Wi-Fi: Disconnected"
  labelCrcOk := "CRC: OK"
  labelCrcError := "CRC: ERROR"
  labelCrcUnknown := "CRC: N/A"
  labelTemperaturePrefix := "Temp"
  labelHumidityPrefix := "RH"
  labelSensorFallback := "Sensor"
  labelSequencePrefix := "Seq"
  labelLanguage := "Language"
  labelHighContrast := "High Contrast"
  labelTextScale := "Text Scale"
  labelTouchTargets := "Large touch targets"
  dropdownLanguages := "English\nFrançais"
  labelGpioOn := "ON"
  labelGpioOff := "OFF"
  labelFrequency := "Frequency"
  labelChannelPrefix := "Channel"

/-- `s_pack_fr` -/
def packFr : UiLocalePack where
  tabDashboard := "Tableau"
  tabGpio := "GPIO"
  tabPwm := "PWM"
  tabTraces := "Courbes"
  tabSettings := "Réglages"
  tabAccessibility := "Accessibilité"
  labelWifiSsid := "SSID Wi-Fi"
  labelWifiPassword := "Mot de passe Wi-Fi"
  labelMdnsTarget := "Hôte mDNS"
  labelDarkTheme := "Thème sombre"
  labelUseFahrenheit := "Afficher °F"
  labelApply := "Appliquer"
  labelReset := "Réinitialiser"
  labelWifiConnected := "Wi-Fi : Connecté"
  labelWifiDisconnected := "Wi-Fi : Déconnecté"
  labelCrcOk := "CRC : OK"
  labelCrcError := "CRC : ERREUR"
  labelCrcUnknown := "CRC : N/A"
  labelTemperaturePrefix := "Temp"
  labelHumidityPrefix := "HR"
  labelSensorFallback := "Capteur"
  labelSequencePrefix := "Seq"
  labelLanguage := "Langue"
  labelHighContrast := "Contraste élevé"
  labelTextScale := "Taille du texte"
  labelTouchTargets := "Grandes zones tactiles"
  dropdownLanguages := "English\nFrançais"
  labelGpioOn := "ACTIF"
  labelGpioOff := "INACTIF"
  labelFrequency := "Fréquence"
  labelChannelPrefix := "Canal"

/-- `HMI_LANGUAGE_FR` -/
def hmiLanguageFr : UInt32 := 1

/-- `ui_locale_get_pack` -/
def uiLocaleGetPack (language : UInt32) : UiLocalePack :=
  if language = hmiLanguageFr then packFr else packEn

/-- `get_locale`, of the preferences in `s_active_prefs`. -/
def getLocale (active : HmiUserPreferences) : UiLocalePack :=
  uiLocaleGetPack (if hmiLanguageMax ≤ active.language then hmiLanguageEn else active.language)

/-- The texts that `refresh_localised_text` takes from the pack as they are: the titles of the tabs,
the labels of the settings and the entries of the list of languages. -/
inductive Caption
  | dashboardTab
  | gpioTab
  | pwmTab
  | tracesTab
  | settingsTab
  | accessibilityTab
  | ssid
  | password
  | mdns
  | darkTheme
  | useFahrenheit
  | apply
  | reset
  | language
  | highContrast
  | textScale
  | touchTargets
  | languageOptions
  deriving DecidableEq

/-- All of them, in the order they are written. -/
def captions : List Caption :=
  [.dashboardTab, .gpioTab, .pwmTab, .tracesTab, .settingsTab, .accessibilityTab, .ssid, .password,
    .mdns, .darkTheme, .useFahrenheit, .apply, .reset, .language, .highContrast, .textScale,
    .touchTargets, .languageOptions]

/-- The member of the pack. -/
def UiLocalePack.caption (locale : UiLocalePack) : Caption → String
  | .dashboardTab => locale.tabDashboard
  | .gpioTab => locale.tabGpio
  | .pwmTab => locale.tabPwm
  | .tracesTab => locale.tabTraces
  | .settingsTab => locale.tabSettings
  | .accessibilityTab => locale.tabAccessibility
  | .ssid => locale.labelWifiSsid
  | .password => locale.labelWifiPassword
  | .mdns => locale.labelMdnsTarget
  | .darkTheme => locale.labelDarkTheme
  | .useFahrenheit => locale.labelUseFahrenheit
  | .apply => locale.labelApply
  | .reset => locale.labelReset
  | .language => locale.labelLanguage
  | .highContrast => locale.labelHighContrast
  | .textScale => locale.labelTextScale
  | .touchTargets => locale.labelTouchTargets
  | .languageOptions => locale.dropdownLanguages

/-- The labels. `freqTitle` and `channelTitle` are the two that only `create_pwm_tab` writes. -/
inductive Label
  | status
  | wifiBadge
  | crcBadge
  | sht20Name (i : Fin 2)
  | sht20Temp (i : Fin 2)
  | sht20Hum (i : Fin 2)
  | ds18Name (i : Fin 4)
  | ds18Temp (i : Fin 4)
  | gpioState (pin : Pin)
  | pwm (channel : Fin 16)
  | pwmFreq
  | textScale
  | caption (caption : Caption)
  | freqTitle
  | channelTitle (channel : Fin 16)
  deriving DecidableEq

/-- `s_ssid_ta`, `s_password_ta` and `s_mdns_ta` -/
inductive TextArea
  | ssid
  | password
  | mdns
  deriving DecidableEq

/-- The switches of the settings. -/
inductive SettingsSwitch
  | theme
  | units
  | highContrast
  | touchTargets
  deriving DecidableEq

inductive Slider
  | pwm (channel : Fin 16)
  | pwmFreq
  | textScale
  deriving DecidableEq

/-- What has a colour of its own. -/
inductive Coloured
  | status
  | crcBadge
  | screen
  deriving DecidableEq

/-- What `apply_touch_target_style` gives a padding. -/
inductive Padded
  | gpioSwitch (pin : Pin)
  | settingsSwitch (switch : SettingsSwitch)
  | textScaleMain
  | textScaleKnob
  deriving DecidableEq

/-- `s_apply_btn` and `s_reset_btn` -/
inductive PrefsButton
  | apply
  | reset
  deriving DecidableEq

/-- What can be written on the screen. -/
inductive Widget
  | label (label : Label)
  | gpioSwitch (pin : Pin)
  | settingsSwitch (switch : SettingsSwitch)
  | slider (slider : Slider)
  | textArea (area : TextArea)
  | languageDd
  | colour (of : Coloured)
  | theme
  | zoom
  | pad (of : Padded)
  | buttonSize (button : PrefsButton)
  deriving DecidableEq

/-- A colour by its value, or one of LVGL's palettes. -/
inductive LvColor
  | hex (rgb : UInt32)
  | blueMain
  | greyDarken2

/-- What `lv_theme_default_init` is given. -/
structure LvTheme where
  primary : LvColor
  secondary : LvColor
  dark : Bool

/-- What a widget holds. -/
abbrev Widget.Content : Widget → Type
  | .label _ => Bytes
  | .gpioSwitch _ => Bool
  | .settingsSwitch _ => Bool
  | .slider _ => Int
  | .textArea _ => Bytes
  | .languageDd => UInt16
  | .colour _ => LvColor
  | .theme => LvTheme
  | .zoom => UInt16
  | .pad _ => Int
  | .buttonSize _ => Int × Int

/-- A call of LVGL that writes to a widget. -/
abbrev Draw : Type := Canvas.Write Widget.Content

/-- All the widgets. -/
abbrev Screen : Type := (widget : Widget) → Canvas.Place widget.Content

/-- What `lv_slider_set_value` leaves: LVGL keeps it in the range the slider was given by
`lv_slider_set_range`. -/
def Slider.clamp (slider : Slider) (value : Int) : Int :=
  match slider with
  | .pwm _ => max 0 (min 4095 value)
  | .pwmFreq => max 40 (min 2000 value)
  | .textScale => max 80 (min 140 value)

section Texts

/-- `"%.1f %%"` of a single that is finite. -/
def percentText (value : Float32) : Bytes :=
  ((Ieee.toDecimal 1 value).map Decimal.text).getD [] ++ utf8 " %"

/-- `format_rom_code`, into the 17 octets that its caller has. -/
def formatRomCode (romCode : Vector UInt8 8) : Bytes :=
  hexText romCode.toList

/-- `format_temperature`; no single is too long for the 64 octets of its caller. -/
def formatTemperature (celsius : Float32) (useFahrenheit : Bool) : Bytes :=
  if !celsius.isFinite then utf8 "--"
  else
    let value := displayTemperature useFahrenheit celsius
    let unit := if useFahrenheit then "°F" else "°C"
    fixedText value ++ utf8 " " ++ utf8 unit

/-- `"%s: %s"` -/
def labelled (label : String) (value : Bytes) : Bytes :=
  utf8 label ++ utf8 ": " ++ value

/-- `"%s: --"` -/
def dashes (label : String) : Bytes :=
  labelled label (utf8 "--")

/-- `"%s %u"` for a card without a reading. -/
def fallbackName (locale : UiLocalePack) (i : Fin 2) : Bytes :=
  utf8 locale.labelSensorFallback ++ utf8 " " ++ natText (i.val + 1)

end Texts

section Draws

/-- The first loop of `ui_update_sensor_data`, for one card. -/
def sht20Draws (locale : UiLocalePack) (update : ProtoSensorUpdate) (useFahrenheit : Bool)
    (i : Fin 2) : List Draw :=
  if i.val < update.sht20Count then
    let reading := update.sht20.get i
    let suffix := if reading.valid then "" else " (fault)"
    [⟨.label (.sht20Name i), cString reading.id.toList ++ utf8 suffix⟩,
      ⟨.label (.sht20Temp i),
        if reading.valid && reading.temperatureC.isFinite then
          labelled locale.labelTemperaturePrefix
            (formatTemperature reading.temperatureC useFahrenheit)
        else dashes locale.labelTemperaturePrefix⟩,
      ⟨.label (.sht20Hum i),
        if reading.valid && reading.humidityPercent.isFinite then
          labelled locale.labelHumidityPrefix (percentText reading.humidityPercent)
        else dashes locale.labelHumidityPrefix⟩]
  else
    [⟨.label (.sht20Name i), fallbackName locale i⟩,
      ⟨.label (.sht20Temp i), dashes locale.labelTemperaturePrefix⟩,
      ⟨.label (.sht20Hum i), dashes locale.labelHumidityPrefix⟩]

/-- The second loop, for one card. Without a reading the name stays. -/
def ds18Draws (locale : UiLocalePack) (update : ProtoSensorUpdate) (useFahrenheit : Bool)
    (i : Fin 4) : List Draw :=
  if i.val < update.ds18b20Count then
    [⟨.label (.ds18Name i), formatRomCode (update.ds18b20.get i).romCode⟩,
      ⟨.label (.ds18Temp i),
        labelled locale.labelTemperaturePrefix
          (formatTemperature (update.ds18b20.get i).temperatureC useFahrenheit)⟩]
  else [⟨.label (.ds18Temp i), dashes locale.labelTemperaturePrefix⟩]

/-- The level of a pin in `update_gpio_state`. -/
def gpioOn (update : ProtoSensorUpdate) (pin : Pin) : Bool :=
  let porta := (update.mcp.get pin.1).portA
  let portb := (update.mcp.get pin.1).portB
  if pin.2.val < 8 then (porta >>> UInt16.ofNat pin.2.val) &&& 1 != 0
  else (portb >>> UInt16.ofNat (pin.2.val - 8)) &&& 1 != 0

/-- The body of the loops of `update_gpio_state`. -/
def gpioDraws (locale : UiLocalePack) (update : ProtoSensorUpdate) (pin : Pin) : List Draw :=
  if gpioOn update pin then
    [⟨.gpioSwitch pin, true⟩, ⟨.label (.gpioState pin), utf8 locale.labelGpioOn⟩]
  else [⟨.gpioSwitch pin, false⟩, ⟨.label (.gpioState pin), utf8 locale.labelGpioOff⟩]

/-- `update_gpio_state` -/
def updateGpioState (locale : UiLocalePack) (update : ProtoSensorUpdate) : List Draw :=
  (List.finRange 2).flatMap fun device =>
    (List.finRange 16).flatMap fun pin => gpioDraws locale update (device, pin)

/-- `"%u Hz"` -/
def hertz (frequency : Nat) : Bytes :=
  natText frequency ++ utf8 " Hz"

/-- The body of the loop of `update_pwm_state`. -/
def pwmDraws (update : ProtoSensorUpdate) (channel : Fin 16) : List Draw :=
  let duty := (update.pwm.dutyCycle.get channel).toNat
  [⟨.slider (.pwm channel), Slider.clamp (.pwm channel) duty⟩,
    ⟨.label (.pwm channel), natText duty⟩]

/-- `update_pwm_state` -/
def updatePwmState (update : ProtoSensorUpdate) : List Draw :=
  let frequency := update.pwm.frequencyHz.toNat
  [⟨.slider .pwmFreq, Slider.clamp .pwmFreq frequency⟩, ⟨.label .pwmFreq, hertz frequency⟩] ++
    (List.finRange 16).flatMap (pwmDraws update)

/-- `ui_update_sensor_data`, without the charts. -/
def drawSensorData (locale : UiLocalePack) (update : ProtoSensorUpdate) (useFahrenheit : Bool) :
    List Draw :=
  (List.finRange 2).flatMap (sht20Draws locale update useFahrenheit) ++
    ((List.finRange 4).flatMap (ds18Draws locale update useFahrenheit) ++
      ([⟨.label .wifiBadge,
          labelled locale.labelSequencePrefix (natText update.sequenceId.toNat)⟩] ++
        (updateGpioState locale update ++ updatePwmState update)))

/-- `ui_update_connection_status` -/
def drawConnection (locale : UiLocalePack) (connected : Bool) : List Draw :=
  if connected then
    [⟨.label .status, utf8 locale.labelWifiConnected⟩, ⟨.colour .status, .hex 0x66FF66⟩]
  else [⟨.label .status, utf8 locale.labelWifiDisconnected⟩, ⟨.colour .status, .hex 0xFF5555⟩]

/-- `ui_update_crc_status` -/
def drawCrc (locale : UiLocalePack) (crcOk : Bool) : List Draw :=
  if crcOk then
    [⟨.label .crcBadge, utf8 locale.labelCrcOk⟩, ⟨.colour .crcBadge, .hex 0x66FFAA⟩]
  else [⟨.label .crcBadge, utf8 locale.labelCrcError⟩, ⟨.colour .crcBadge, .hex 0xFF6666⟩]

/-- The badge where there was no telemetry. -/
def drawCrcUnknown (locale : UiLocalePack) : List Draw :=
  [⟨.label .crcBadge, utf8 locale.labelCrcUnknown⟩, ⟨.colour .crcBadge, .hex 0xAAAAAA⟩]

/-- The cards where there was no telemetry. -/
def drawNoTelemetry (locale : UiLocalePack) : List Draw :=
  ((List.finRange 2).flatMap fun i =>
      [⟨.label (.sht20Name i), fallbackName locale i⟩,
        ⟨.label (.sht20Temp i), dashes locale.labelTemperaturePrefix⟩,
        ⟨.label (.sht20Hum i), dashes locale.labelHumidityPrefix⟩]) ++
    (List.finRange 4).flatMap fun i =>
      [⟨.label (.ds18Temp i), dashes locale.labelTemperaturePrefix⟩]

/-- `update_text_scale_label`, of the value of the slider. -/
def drawTextScale (value : Int) : List Draw :=
  [⟨.label .textScale, natText value.toNat ++ utf8 "%"⟩]

variable (reselect : UInt16 → UInt16)

/-- `refresh_localised_text`, where the slider of the text scale and the list of languages are at
these values. `lv_dropdown_set_options` is the last of the captions. -/
def drawLocalised (ui : UiState) (textScale : Int) (selected : UInt16) : List Draw :=
  let locale := getLocale ui.screens.activePrefs
  let sequence := ui.screens.lastSequenceId
  (captions.map fun caption => ⟨.label (.caption caption), utf8 (locale.caption caption)⟩) ++
    ([⟨.languageDd, reselect selected⟩,
      ⟨.label .wifiBadge,
        if sequence ≠ 0 then labelled locale.labelSequencePrefix (natText sequence.toNat)
        else dashes locale.labelSequencePrefix⟩] ++
    (drawTextScale textScale ++
    (drawConnection locale ui.lastConnected ++
    ((if ui.screens.hasLastProtoUpdate then drawCrc locale ui.lastCrcOk
      else drawCrcUnknown locale) ++
    if ui.screens.hasLastProtoUpdate then
      drawSensorData locale ui.screens.lastProtoUpdate ui.screens.activePrefs.useFahrenheit
    else drawNoTelemetry locale))))

/-- `apply_display_zoom`: the zoom. -/
def displayZoom (active : HmiUserPreferences) : UInt16 :=
  let percent := if active.textScalePercent ≠ 0 then active.textScalePercent.toNat else 100
  let percent := if percent < 80 then 80 else percent
  let percent := if 140 < percent then 140 else percent
  UInt16.ofNat (percent * 256 / 100)

/-- `apply_theme` -/
def applyTheme (active : HmiUserPreferences) (dark : Bool) : List Draw :=
  [⟨.theme,
      { primary := if active.highContrast then .hex 0x000000 else .blueMain
        secondary := if active.highContrast then .hex 0xFFD54F else .greyDarken2
        dark := dark }⟩,
    ⟨.zoom, displayZoom active⟩,
    ⟨.colour .screen,
      if active.highContrast then .hex 0x000000
      else .hex (if dark then 0x101418 else 0xF5F7FA)⟩]

/-- `apply_touch_target_style` -/
def applyTouchTargetStyle (active : HmiUserPreferences) : List Draw :=
  let pad : Int := if active.largeTouchTargets then 12 else 4
  let height : Int := if active.largeTouchTargets then 60 else 48
  let width : Int := if active.largeTouchTargets then 170 else 140
  ((List.finRange 2).flatMap fun device =>
      (List.finRange 16).flatMap fun pin => [⟨.pad (.gpioSwitch (device, pin)), pad⟩]) ++
    [⟨.pad (.settingsSwitch .theme), pad⟩, ⟨.pad (.settingsSwitch .units), pad⟩,
      ⟨.pad (.settingsSwitch .highContrast), pad⟩, ⟨.pad (.settingsSwitch .touchTargets), pad⟩,
      ⟨.buttonSize .apply, (width, height)⟩, ⟨.buttonSize .reset, (width, height)⟩,
      ⟨.pad .textScaleMain, pad⟩, ⟨.pad .textScaleKnob, pad⟩]

/-- The widgets of the settings in `ui_apply_preferences`, but for the list of languages. -/
def drawSettings (prefs : HmiUserPreferences) : List Draw :=
  [⟨.textArea .ssid, cString prefs.ssid.toList⟩,
    ⟨.textArea .password, cString prefs.password.toList⟩,
    ⟨.textArea .mdns, cString prefs.mdnsTarget.toList⟩,
    ⟨.settingsSwitch .theme, prefs.darkTheme⟩,
    ⟨.settingsSwitch .units, prefs.useFahrenheit⟩,
    ⟨.settingsSwitch .highContrast, prefs.highContrast⟩,
    ⟨.settingsSwitch .touchTargets, prefs.largeTouchTargets⟩,
    ⟨.slider .textScale, Slider.clamp .textScale prefs.textScalePercent.toNat⟩]

/-- What `ui_apply_preferences` selects in the list of languages. -/
def selectedLanguage (prefs : HmiUserPreferences) : UInt16 :=
  (if prefs.language < hmiLanguageMax then prefs.language else hmiLanguageEn).toUInt16

/-- `ui_apply_preferences`. By the time the texts are refreshed the slider and the list are set. -/
def drawPreferences (ui : UiState) (prefs : HmiUserPreferences) : List Draw :=
  let ui := { ui with screens := { ui.screens with activePrefs := prefs } }
  let textScale := Slider.clamp .textScale prefs.textScalePercent.toNat
  applyTheme prefs prefs.darkTheme ++
    (drawSettings prefs ++
      (drawTextScale textScale ++
        ([⟨.languageDd, selectedLanguage prefs⟩] ++
          (applyTouchTargetStyle prefs ++
            drawLocalised reselect ui textScale (selectedLanguage prefs)))))

/-- The widgets as the `create_` functions leave them, with the texts of the first language. The
paddings are LVGL's own. -/
def createdContent : (widget : Widget) → widget.Content
  | .label .pwmFreq => utf8 "500 Hz"
  | .label (.pwm _) => utf8 "0"
  | .label (.gpioState _) => utf8 packEn.labelGpioOff
  | .label (.ds18Name i) => utf8 "ROM " ++ natText (i.val + 1)
  | .label .freqTitle => utf8 packEn.labelFrequency
  | .label (.channelTitle channel) =>
      utf8 packEn.labelChannelPrefix ++ utf8 " " ++ natText channel.val
  | .label _ => []
  | .gpioSwitch _ => false
  | .settingsSwitch _ => false
  | .slider (.pwm _) => 0
  | .slider .pwmFreq => 40
  | .slider .textScale => 100
  | .textArea _ => []
  | .languageDd => 0
  | .colour _ => .hex 0x101418
  | .theme => ⟨.blueMain, .greyDarken2, true⟩
  | .zoom => 256
  | .pad _ => 0
  | .buttonSize _ => (140, 48)

/-- `ui_init`. The other labels get their texts from `refresh_localised_text`. -/
def uiInitScreen : Screen :=
  Canvas.draw (fun widget => { content := createdContent widget })
    (applyTheme uiInit.screens.activePrefs true ++ drawLocalised reselect uiInit 100 0)

end Draws

end SensorHmi
