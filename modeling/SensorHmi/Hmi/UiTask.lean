import SensorHmi.Hmi.Charts
import SensorHmi.Hmi.GpioToggle
import SensorHmi.Lib.Cell

/-!
# The tasks of the HMI

`hmi_node/main/data_model.c`, `hmi_node/main/prefs_store.c`, `hmi_node/main/tasks/t_ui.c` and
`hmi_node/main/tasks/t_net_rx.c` as they run beside the receive callback of
`hmi_node/main/net/ws_client.c`. The tasks meet in the data model, behind a lock that may time out;
between two of its calls a task may wait while the others go on.
-/

namespace SensorHmi

open Octets

variable {ι : Type} (codec : Codec ι) (fuel : Nat)

/-- `hmi_data_model_set_update` -/
def hmiDataModelSetUpdate (locked : Bool) (model : HmiDataModel) (update : ProtoSensorUpdate) :
    HmiDataModel :=
  if locked then { model with lastUpdate := update, hasUpdate := true } else model

/-- `hmi_data_model_get_update`: the update, if it returns true. -/
def hmiDataModelGetUpdate (locked : Bool) (model : HmiDataModel) :
    Option ProtoSensorUpdate × HmiDataModel :=
  if locked then
    if model.hasUpdate then (some model.lastUpdate, { model with hasUpdate := false })
    else (none, model)
  else (none, model)

/-- `hmi_data_model_peek_update`: the update, if it returns true. It fills `out` before it looks at
the number, which its caller does not see. -/
def hmiDataModelPeekUpdate (locked : Bool) (model : HmiDataModel) : Option ProtoSensorUpdate :=
  if locked then
    if model.lastUpdate.sequenceId ≠ 0 then some model.lastUpdate else none
  else none

/-- `hmi_data_model_set_connected` -/
def hmiDataModelSetConnected (locked : Bool) (model : HmiDataModel) (connected : Bool) :
    HmiDataModel :=
  if locked then { model with connected := connected } else model

/-- `hmi_data_model_is_connected` -/
def hmiDataModelIsConnected (locked : Bool) (model : HmiDataModel) : Bool :=
  if locked then model.connected else false

/-- `hmi_data_model_set_crc_status` -/
def hmiDataModelSetCrcStatus (locked : Bool) (model : HmiDataModel) (crcOk : Bool) : HmiDataModel :=
  if locked then { model with lastCrcOk := crcOk } else model

/-- `hmi_data_model_get_crc_status` -/
def hmiDataModelGetCrcStatus (locked : Bool) (model : HmiDataModel) : Bool :=
  if locked then model.lastCrcOk else false

/-- A call of the receive callback, with the lock or without. -/
def HmiModelCall.perform (locked : Bool) (model : HmiDataModel) : HmiModelCall → HmiDataModel
  | .setUpdate update => hmiDataModelSetUpdate locked model update
  | .setCrcStatus crcOk => hmiDataModelSetCrcStatus locked model crcOk

/-- The results of the calls into NVS; `write` is that of `nvs_set_blob` or `nvs_erase_key`. -/
structure PrefsNvs where
  init : EspErr := .ok
  openHandle : EspErr := .ok
  write : EspErr := .ok
  commit : EspErr := .ok

/-- `hmi_prefs_store_save` on flash: what is written is there for good once it is committed. -/
def flashSavePrefs (results : PrefsNvs) (blob : Cell (Option HmiUserPreferences))
    (prefs : HmiUserPreferences) : Cell (Option HmiUserPreferences) :=
  if results.init ≠ .ok ∨ results.openHandle ≠ .ok ∨ results.write ≠ .ok then blob
  else
    let blob := blob.write (some (hmiPrefsStoreSave prefs))
    if results.commit = .ok then blob.settle else blob

/-- What `nvs_erase_key` returns: a key that is not there is not found. -/
def nvsEraseKey (results : PrefsNvs) (blob : Cell (Option HmiUserPreferences)) : EspErr :=
  if results.write = .ok ∧ blob.current.isNone then .nvsNotFound else results.write

/-- `hmi_prefs_store_erase`. A key that is not there is as good as erased. -/
def flashErasePrefs (results : PrefsNvs) (blob : Cell (Option HmiUserPreferences)) :
    Cell (Option HmiUserPreferences) :=
  let erased := nvsEraseKey results blob
  if results.init ≠ .ok ∨ results.openHandle ≠ .ok ∨ erased ≠ .ok ∧ erased ≠ .nvsNotFound then blob
  else
    let blob := if erased = .ok then blob.write none else blob
    if results.commit = .ok then blob.settle else blob

/-- The screens, the link status and the CRC badge; a badge of none is `label_crc_unknown`. -/
structure UiState where
  screens : UiScreens
  lastConnected : Bool := false
  lastCrcOk : Bool := true
  crcBadge : Option Bool := none

/-- `ui_init` -/
def uiInit : UiState where
  screens :=
    { activePrefs := { zeroedPreferences with textScalePercent := 100, darkTheme := true } }

/-- `ui_update_connection_status` -/
def uiUpdateConnectionStatus (ui : UiState) (connected : Bool) : UiState :=
  { ui with lastConnected := connected }

/-- `ui_update_crc_status` -/
def uiUpdateCrcStatus (ui : UiState) (crcOk : Bool) : UiState :=
  { ui with lastCrcOk := crcOk, crcBadge := some crcOk }

/-- `ui_update_sensor_data` and `ui_apply_preferences` on the whole state. Before any telemetry the
second one takes the CRC badge back to unknown. -/
def uiShowTelemetry (ui : UiState) (update : ProtoSensorUpdate) (useFahrenheit : Bool) : UiState :=
  { ui with screens := (uiUpdateSensorData ui.screens update useFahrenheit).1 }

def uiShowPreferences (ui : UiState) (prefs : HmiUserPreferences) : UiState :=
  { ui with
    screens := (uiApplyPreferences ui.screens prefs).1
    crcBadge := if ui.screens.hasLastProtoUpdate then some ui.lastCrcOk else none }

/-- What `prefs_apply_event_cb` reads from the widgets of the settings. -/
structure PrefsInputs where
  ssid : Bytes
  password : Bytes
  mdns : Bytes
  dark : Bool
  fahrenheit : Bool
  highContrast : Bool
  largeTouchTargets : Bool
  textScalePercent : UInt8
  selectedLanguage : UInt16

/-- `prefs_apply_event_cb` and `dispatch_apply_preferences`: the preferences for the callback. -/
def dispatchApplyPreferences (active : HmiUserPreferences) (inputs : PrefsInputs) :
    HmiUserPreferences :=
  let language :=
    if inputs.selectedLanguage.toUInt32 < hmiLanguageMax then inputs.selectedLanguage.toUInt32
    else hmiLanguageEn
  { ssid := (strncpy active.ssid inputs.ssid 32).setIfInBounds 32 0
    password := (strncpy active.password inputs.password 64).setIfInBounds 64 0
    mdnsTarget := (strncpy active.mdnsTarget inputs.mdns 63).setIfInBounds 63 0
    darkTheme := inputs.dark
    useFahrenheit := inputs.fahrenheit
    highContrast := inputs.highContrast
    largeTouchTargets := inputs.largeTouchTargets
    textScalePercent :=
      if inputs.textScalePercent < 80 ∨ 140 < inputs.textScalePercent then 100
      else inputs.textScalePercent
    language := if language < hmiLanguageMax then language else hmiLanguageEn }

/-- `dispatch_pwm_value` and `ui_cb_set_pwm`: the value of a slider, as `int16_t`. -/
def uiCbSetPwm (channel : UInt8) (value : Int16) : ProtoCommand :=
  { hasPwmUpdate := true, pwmUpdate := { channel := channel, dutyCycle := value.toUInt16 } }

/-- `ui_cb_set_pwm_freq` -/
def uiCbSetPwmFreq (freq : UInt16) : ProtoCommand :=
  { hasPwmFrequency := true, pwmFrequency := freq }

/-- What the user does to a widget while `ui_process` runs, and how the locks and NVS answer. -/
inductive UiAction
  | gpioSwitch (ctx : GpioSwitchCtx) (on : Bool)
  | pwmSlider (channel : UInt8) (value : Int16)
  | pwmFreqSlider (freq : UInt16)
  | applyPrefs (inputs : PrefsInputs) (locked : Bool) (results : PrefsNvs)
  | resetPrefs (resetLocked getLocked : Bool) (results : PrefsNvs)

/-- Where `ui_task` is: before its next call into the data model, or in `ui_process`. -/
inductive UiPoint
  | getPreferences
  | peekUpdate
  | getUpdate
  | isConnected
  | getCrcStatus
  | process
  deriving DecidableEq

/-- The HMI. `pending` holds the calls the receive callback has still to make; `prefs` is `s_prefs`
of `t_ui.c`. -/
structure HmiNode where
  model : HmiDataModel
  pending : List HmiModelCall := []
  ui : UiState := uiInit
  prefs : HmiUserPreferences := zeroedPreferences
  point : UiPoint := .getPreferences
  blob : Cell (Option HmiUserPreferences)

/-- What shows of the tasks: telemetry decoded, stored and drawn, the link and the result of the
CRC check stored, and commands for `hmi_ws_client_send_command`. The draw after the peek stands
apart. -/
inductive HmiOutput
  | decoded (update : ProtoSensorUpdate)
  | stored (update : ProtoSensorUpdate)
  | statusStored (crcOk : Bool)
  | linkStored (connected : Bool)
  | peeked (update : ProtoSensorUpdate)
  | drew (update : ProtoSensorUpdate)
  | command (cmd : ProtoCommand)

/-- A payload for `ws_rx`, the next call of one of the tasks, or an action of the user. -/
inductive HmiEvent
  | receive (payload : Bytes) (crc32 : UInt32)
  | rxCall (locked : Bool)
  | net (locked connected : Bool)
  | ui (locked : Bool)
  | touch (action : UiAction)

/-- The telemetry of a payload that is decoded. -/
def decodedUpdate : HmiEvent → Option ProtoSensorUpdate
  | .receive payload crc32 =>
      match protoDecodeSensorUpdate codec fuel payload codec.configUseCbor crc32 with
      | .ok update => some update
      | .error _ => none
  | _ => none

/-- What shows of a call of the receive callback. -/
def HmiModelCall.shows : HmiModelCall → HmiOutput
  | .setUpdate update => .stored update
  | .setCrcStatus crcOk => .statusStored crcOk

/-- The next call of `ui_task`. -/
def uiTaskCall (locked : Bool) (node : HmiNode) : HmiNode × List HmiOutput :=
  match node.point with
  | .getPreferences =>
      let prefs := hmiDataModelGetPreferences locked node.model node.prefs
      ({ node with
          prefs := prefs
          ui := uiShowPreferences node.ui prefs
          point := .peekUpdate }, [])
  | .peekUpdate =>
      match hmiDataModelPeekUpdate locked node.model with
      | some update =>
          ({ node with
              ui := uiShowTelemetry node.ui update node.prefs.useFahrenheit, point := .getUpdate },
            [.peeked update])
      | none => ({ node with point := .getUpdate }, [])
  | .getUpdate =>
      match hmiDataModelGetUpdate locked node.model with
      | (some update, model) =>
          ({ node with
              model := model
              ui := uiShowTelemetry node.ui update node.prefs.useFahrenheit
              point := .isConnected },
            [.drew update])
      | (none, model) => ({ node with model := model, point := .isConnected }, [])
  | .isConnected =>
      ({ node with
          ui := uiUpdateConnectionStatus node.ui (hmiDataModelIsConnected locked node.model)
          point := .getCrcStatus }, [])
  | .getCrcStatus =>
      ({ node with
          ui := uiUpdateCrcStatus node.ui (hmiDataModelGetCrcStatus locked node.model)
          point := .process }, [])
  | .process => ({ node with point := .getUpdate }, [])

/-- The callback of an action: `ui_cb_write_gpio` and its siblings. -/
def uiCallback (node : HmiNode) : UiAction → HmiNode × List HmiOutput
  | .gpioSwitch ctx on => (node, [.command (uiCbWriteGpio (dispatchGpioWrite ctx on))])
  | .pwmSlider channel value => (node, [.command (uiCbSetPwm channel value)])
  | .pwmFreqSlider freq => (node, [.command (uiCbSetPwmFreq freq)])
  | .applyPrefs inputs locked results =>
      let prefs := dispatchApplyPreferences node.ui.screens.activePrefs inputs
      ({ node with
          prefs := prefs
          model := hmiDataModelSetPreferences locked node.model prefs
          blob := flashSavePrefs results node.blob prefs
          ui := uiShowPreferences node.ui prefs }, [])
  | .resetPrefs resetLocked getLocked results =>
      let model := hmiDataModelResetPreferences resetLocked node.model
      let prefs := hmiDataModelGetPreferences getLocked model node.prefs
      ({ node with
          prefs := prefs
          model := model
          ui := uiShowPreferences node.ui prefs
          blob := flashErasePrefs results node.blob }, [])

/-- One event. A callback that has still calls to make is not called again. -/
def hmiStep (node : HmiNode) : HmiEvent → HmiNode × List HmiOutput
  | .receive payload crc32 =>
      if node.pending = [] then
        ({ node with pending := handleSensorUpdate codec fuel payload crc32 },
          (decodedUpdate codec fuel (.receive payload crc32)).toList.map .decoded)
      else (node, [])
  | .rxCall locked =>
      match node.pending with
      | [] => (node, [])
      | call :: rest =>
          ({ node with model := call.perform locked node.model, pending := rest },
            if locked then [call.shows] else [])
  | .net locked connected =>
      ({ node with model := hmiDataModelSetConnected locked node.model connected },
        if locked then [.linkStored connected] else [])
  | .ui locked => uiTaskCall locked node
  | .touch action => if node.point = .process then uiCallback node action else (node, [])

/-- A boot from what is on flash. -/
def hmiBoot (blob : Cell (Option HmiUserPreferences)) : HmiNode where
  model := hmiDataModelInit blob.current
  blob := blob

end SensorHmi
