import SensorHmi.Lib.Machine
import SensorHmi.Lib.Octets
import SensorHmi.Platform

/-!
# Firmware updates

`common/ota/ota_update.c` and the configuration both `app_main` functions pass. A boot runs
`ota_task` once; what the HTTPS OTA library, NVS and the scheduler answer comes with the boot. A
list of answers that ends early is a boot whose power goes.
-/

namespace SensorHmi

open Octets

/-- `esp_app_desc_t`, as far as the task reads it. -/
structure EspAppDesc where
  version : Vector UInt8 32 := Vector.replicate 32 0
  appElfSha256 : Vector UInt8 32 := Vector.replicate 32 0
  deriving DecidableEq

/-- `ota_update_validate_cb_t` with its context. -/
abbrev OtaValidateCb :=
  (newApp : EspAppDesc) → (runningApp : Option EspAppDesc) → (newAppSha256 : Vector UInt8 32) →
    (storedVersion : Option Bytes) → EspErr

/-- `ota_update_config_t`, without the certificate, which only the HTTP client reads, and the
wait for connectivity, which only delays. -/
structure OtaUpdateConfig where
  url : Option Bytes := none
  autoReboot : Bool := false
  checkDelayMs : UInt32 := 0
  validate : Option OtaValidateCb := none
  initialBackoffMs : UInt32 := 0
  maxBackoffMs : UInt32 := 0
  maxRetries : UInt8 := 0
  nvsNamespace : Option Bytes := none
  nvsKey : Option Bytes := none

/-- The strings of NVS by namespace and key. -/
abbrev Nvs := Bytes × Bytes → Option Bytes

/-- `ota_get_namespace` and `ota_get_version_key` -/
def otaVersionPlace (cfg : OtaUpdateConfig) : Bytes × Bytes :=
  (cfg.nvsNamespace.getD (ascii "ota_state"), cfg.nvsKey.getD (ascii "last_version"))

/-- `ota_load_last_version`: the result and the version, if one is found. -/
def otaLoadLastVersion (cfg : OtaUpdateConfig) (nvs : Nvs) (openResult getResult : EspErr) :
    EspErr × Option Bytes :=
  if openResult = .nvsNotFound then (.ok, none)
  else if openResult ≠ .ok then (openResult, none)
  else if getResult = .nvsNotFound then (.ok, none)
  else if getResult ≠ .ok then (getResult, none)
  else (.ok, nvs (otaVersionPlace cfg))

/-- What one attempt meets: the answers of the HTTPS OTA library, the descriptor of the image on
offer, and the answers of NVS when the version is stored. -/
structure OtaTransfer where
  beginResult : EspErr := .ok
  imgDescResult : EspErr := .ok
  newDesc : EspAppDesc
  performResults : List EspErr := [.ok]
  completeDataReceived : Bool := true
  finishResult : EspErr := .ok
  nvsOpenResult : EspErr := .ok
  nvsSetResult : EspErr := .ok
  nvsCommitResult : EspErr := .ok

/-- `ota_store_last_version` -/
def otaStoreLastVersion (cfg : OtaUpdateConfig) (nvs : Nvs) (version : Bytes)
    (transfer : OtaTransfer) : EspErr × Nvs :=
  if transfer.nvsOpenResult ≠ .ok then (transfer.nvsOpenResult, nvs)
  else if transfer.nvsSetResult ≠ .ok then (transfer.nvsSetResult, nvs)
  else (transfer.nvsCommitResult, Function.update nvs (otaVersionPlace cfg) (some version))

/-- The loop around `esp_https_ota_perform`: the first answer other than that it is in progress. -/
def otaPerformLoop : List EspErr → Option EspErr
  | [] => none
  | err :: rest => if err = .httpsOtaInProgress then otaPerformLoop rest else some err

/-- What `ota_perform_update` returns, and whether it gave its handle to `esp_https_ota_abort`. -/
structure OtaResult where
  err : EspErr
  appliedDesc : EspAppDesc := {}
  shouldRetry : Bool := true
  aborted : Bool := false

/-- `ota_perform_update`; nothing comes back when the power goes during the transfer. -/
def otaPerformUpdate (cfg : OtaUpdateConfig) (runningApp : Option EspAppDesc)
    (storedVersion : Option Bytes) (transfer : OtaTransfer) : Option OtaResult :=
  let newDesc := transfer.newDesc
  if transfer.beginResult ≠ .ok then some { err := transfer.beginResult }
  else if transfer.imgDescResult ≠ .ok then
    some { err := transfer.imgDescResult, aborted := true }
  else
    let verdict := match cfg.validate with
      | none => .ok
      | some validate => validate newDesc runningApp newDesc.appElfSha256 storedVersion
    if verdict ≠ .ok then some { err := verdict, shouldRetry := false, aborted := true }
    else match otaPerformLoop transfer.performResults with
      | none => none
      | some err =>
          if err ≠ .ok then some { err := err, aborted := true }
          else if !transfer.completeDataReceived then
            some { err := .invalidResponse, aborted := true }
          else if transfer.finishResult ≠ .ok then
            some { err := transfer.finishResult
                   shouldRetry := transfer.finishResult ≠ .otaValidateFailed }
          else some { err := .ok, appliedDesc := newDesc, shouldRetry := false }

/-- What outlives a boot: the image the bootloader runs, which is the last finished one, and NVS. -/
structure OtaFlash where
  bootApp : EspAppDesc
  nvs : Nvs

/-- What the task does to the device. -/
inductive OtaOutput
  | markAppValid
  | abort
  | delay (ticks : TickType)
  | finished (app : EspAppDesc)
  | restart
  deriving DecidableEq

/-- `max_attempts` of `ota_task` -/
def otaMaxAttempts (cfg : OtaUpdateConfig) : Nat :=
  if cfg.maxRetries ≠ 0 then cfg.maxRetries.toNat else 5

/-- The backoff after one of `backoffMs`. -/
def otaNextBackoff (cfg : OtaUpdateConfig) (backoffMs : UInt32) : UInt32 :=
  let maxBackoffMs := if cfg.maxBackoffMs ≠ 0 then cfg.maxBackoffMs else 60000
  let nextBackoff := backoffMs.toUInt64 * 2
  if maxBackoffMs.toUInt64 < nextBackoff then maxBackoffMs
  else if nextBackoff = 0 then maxBackoffMs
  else nextBackoff.toUInt32

/-- The loop of `ota_task` from an attempt on. -/
def otaTaskLoop (tickRateHz : UInt32) (cfg : OtaUpdateConfig) (runningApp : Option EspAppDesc)
    (storedVersion : Option Bytes) (flash : OtaFlash) :
    (attempt : Nat) → (backoffMs : UInt32) → List OtaTransfer → OtaFlash × List OtaOutput
  | _, _, [] => (flash, [])
  | attempt, backoffMs, transfer :: rest =>
      match otaPerformUpdate cfg runningApp storedVersion transfer with
      | none => (flash, [])
      | some result =>
          let aborts := if result.aborted then [.abort] else []
          if result.err = .ok then
            let version := cString result.appliedDesc.version.toList
            ({ bootApp := result.appliedDesc
               nvs := (otaStoreLastVersion cfg flash.nvs version transfer).2 },
              .finished result.appliedDesc ::
                if cfg.autoReboot then [.delay (pdMsToTicks tickRateHz 1000), .restart] else [])
          else if !result.shouldRetry then (flash, aborts)
          else if attempt < otaMaxAttempts cfg then
            let (flash, later) := otaTaskLoop tickRateHz cfg runningApp storedVersion flash
              (attempt + 1) (otaNextBackoff cfg backoffMs) rest
            (flash, aborts ++ .delay (pdMsToTicks tickRateHz backoffMs) :: later)
          else (flash, aborts)

/-- One boot: whether `ota_update_schedule` gets its memory and its task, whether the descriptor of
the running image is read, what NVS answers to the load, and the attempts as long as the power
lasts. -/
structure OtaBoot where
  mallocOk : Bool := true
  taskCreated : Bool := true
  runningRead : Bool := true
  nvsOpenResult : EspErr := .ok
  nvsGetResult : EspErr := .ok
  transfers : List OtaTransfer

/-- `ota_task` -/
def otaTask (tickRateHz : UInt32) (cfg : OtaUpdateConfig) (flash : OtaFlash) (boot : OtaBoot) :
    OtaFlash × List OtaOutput :=
  let runningApp := if boot.runningRead then some flash.bootApp else none
  let (_, storedVersion) :=
    otaLoadLastVersion cfg flash.nvs boot.nvsOpenResult boot.nvsGetResult
  let backoffMs := if cfg.initialBackoffMs ≠ 0 then cfg.initialBackoffMs else 5000
  let (flash, outputs) :=
    otaTaskLoop tickRateHz cfg runningApp storedVersion flash 1 backoffMs boot.transfers
  (flash, .delay (pdMsToTicks tickRateHz cfg.checkDelayMs) :: .markAppValid :: outputs)

/-- `ota_update_schedule`: the configuration the task gets. -/
def otaUpdateSchedule (config : OtaUpdateConfig) (boot : OtaBoot) :
    Except EspErr OtaUpdateConfig :=
  if config.url.isNone then .error .invalidArg
  else if !boot.mallocOk then .error .noMem
  else if !boot.taskCreated then .error .noMem
  else
    .ok { config with
      checkDelayMs := if config.checkDelayMs = 0 then 1000 else config.checkDelayMs
      initialBackoffMs := if config.initialBackoffMs = 0 then 5000 else config.initialBackoffMs
      maxBackoffMs := if config.maxBackoffMs = 0 then 60000 else config.maxBackoffMs
      maxRetries := if config.maxRetries = 0 then 5 else config.maxRetries }

/-- The configuration of both `app_main` functions. -/
def appOtaConfig (url : Bytes) : OtaUpdateConfig :=
  { url := some url, autoReboot := true, checkDelayMs := 5000 }

/-- A boot of the device; when the update cannot be scheduled, `app_main` gives up. -/
def otaBoot (tickRateHz : UInt32) (url : Bytes) (flash : OtaFlash) (boot : OtaBoot) :
    OtaFlash × List OtaOutput :=
  match otaUpdateSchedule (appOtaConfig url) boot with
  | .error _ => (flash, [])
  | .ok cfg => otaTask tickRateHz cfg flash boot

end SensorHmi
