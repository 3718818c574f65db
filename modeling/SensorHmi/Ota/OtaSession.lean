import SensorHmi.Lib.Trace
import SensorHmi.Ota.OtaUpdate

/-!
# The calls of a firmware update

`ota_perform_update` and `ota_task` once more, this time with every call they make to the HTTPS OTA
library, to the validate callback, to NVS and to the scheduler. Handles are numbered by their
attempts. `OtaPermitted` is the protocol the calls must follow.
-/

namespace SensorHmi

open Octets

/-- A call of the task with its answer. -/
inductive OtaCall
  | begin (attempt : Nat) (result : EspErr)
  | getImgDesc (attempt : Nat) (desc : EspAppDesc) (result : EspErr)
  | validate (attempt : Nat) (desc : EspAppDesc) (result : EspErr)
  | perform (attempt : Nat) (result : EspErr)
  | isCompleteDataReceived (attempt : Nat) (complete : Bool)
  | finish (attempt : Nat) (result : EspErr)
  | abort (attempt : Nat)
  | nvsOpen (result : EspErr)
  | nvsSetStr (version : Bytes) (result : EspErr)
  | nvsCommit (result : EspErr)
  | restart
  | freeConfig
  deriving DecidableEq

/-- The calls of the loop around `esp_https_ota_perform`, and the answer that ended it. -/
def otaPerformCalls (attempt : Nat) : List EspErr → List OtaCall × Option EspErr
  | [] => ([], none)
  | err :: rest =>
      if err = .httpsOtaInProgress then
        (.perform attempt err :: (otaPerformCalls attempt rest).1, (otaPerformCalls attempt rest).2)
      else ([.perform attempt err], some err)

/-- The call of the validate callback, if there is one. -/
def otaValidateCalls (cfg : OtaUpdateConfig) (runningApp : Option EspAppDesc)
    (storedVersion : Option Bytes) (attempt : Nat) (newDesc : EspAppDesc) :
    List OtaCall × EspErr :=
  match cfg.validate with
  | none => ([], .ok)
  | some validate =>
      let verdict := validate newDesc runningApp newDesc.appElfSha256 storedVersion
      ([.validate attempt newDesc verdict], verdict)

/-- The calls of `ota_perform_update` on an image that was validated. -/
def otaTransferCalls (attempt : Nat) (transfer : OtaTransfer) : List OtaCall × Option OtaResult :=
  let (performs, ended) := otaPerformCalls attempt transfer.performResults
  match ended with
  | none => (performs, none)
  | some err =>
      if err ≠ .ok then (performs ++ [.abort attempt], some { err := err, aborted := true })
      else
        let calls := performs ++ [.isCompleteDataReceived attempt transfer.completeDataReceived]
        if !transfer.completeDataReceived then
          (calls ++ [.abort attempt], some { err := .invalidResponse, aborted := true })
        else
          let calls := calls ++ [.finish attempt transfer.finishResult]
          if transfer.finishResult ≠ .ok then
            (calls, some { err := transfer.finishResult
                           shouldRetry := transfer.finishResult ≠ .otaValidateFailed })
          else (calls, some { err := .ok, appliedDesc := transfer.newDesc, shouldRetry := false })

/-- The calls of `ota_perform_update` and what it returns. -/
def otaUpdateCalls (cfg : OtaUpdateConfig) (runningApp : Option EspAppDesc)
    (storedVersion : Option Bytes) (attempt : Nat) (transfer : OtaTransfer) :
    List OtaCall × Option OtaResult :=
  let calls := [.begin attempt transfer.beginResult]
  if transfer.beginResult ≠ .ok then (calls, some { err := transfer.beginResult })
  else
    let calls := calls ++ [.getImgDesc attempt transfer.newDesc transfer.imgDescResult]
    if transfer.imgDescResult ≠ .ok then
      (calls ++ [.abort attempt], some { err := transfer.imgDescResult, aborted := true })
    else
      let (validates, verdict) :=
        otaValidateCalls cfg runningApp storedVersion attempt transfer.newDesc
      let calls := calls ++ validates
      if verdict ≠ .ok then
        (calls ++ [.abort attempt], some { err := verdict, shouldRetry := false, aborted := true })
      else
        let (transfers, result) := otaTransferCalls attempt transfer
        (calls ++ transfers, result)

/-- The calls of `ota_store_last_version`. -/
def otaStoreCalls (version : Bytes) (transfer : OtaTransfer) : List OtaCall :=
  if transfer.nvsOpenResult ≠ .ok then [.nvsOpen transfer.nvsOpenResult]
  else
    [.nvsOpen transfer.nvsOpenResult, .nvsSetStr version transfer.nvsSetResult] ++
      if transfer.nvsSetResult = .ok then [.nvsCommit transfer.nvsCommitResult] else []

/-- The calls of the loop of `ota_task` from an attempt on, and whether the task came to its end,
which it does unless the answers run out. -/
def otaTaskCalls (cfg : OtaUpdateConfig) (runningApp : Option EspAppDesc)
    (storedVersion : Option Bytes) : (attempt : Nat) → List OtaTransfer → List OtaCall × Bool
  | _, [] => ([], false)
  | attempt, transfer :: rest =>
      match otaUpdateCalls cfg runningApp storedVersion attempt transfer with
      | (calls, none) => (calls, false)
      | (calls, some result) =>
          if result.err = .ok then
            (calls ++ otaStoreCalls (cString result.appliedDesc.version.toList) transfer ++
              (if cfg.autoReboot then [.restart] else [.freeConfig]), true)
          else if !result.shouldRetry then (calls ++ [.freeConfig], true)
          else if attempt < otaMaxAttempts cfg then
            let (later, ended) := otaTaskCalls cfg runningApp storedVersion (attempt + 1) rest
            (calls ++ later, ended)
          else (calls ++ [.freeConfig], true)

section Model

/-- The loop ends as the model of the loop without calls does. -/
theorem otaPerformCalls_result (attempt : Nat) (results : List EspErr) :
    (otaPerformCalls attempt results).2 = otaPerformLoop results := by
  induction results with
  | nil => rfl
  | cons err rest ih =>
      simp only [otaPerformCalls, otaPerformLoop]
      split
      · exact ih
      · rfl

/-- The result is that of the model without calls. -/
theorem otaUpdateCalls_result (cfg : OtaUpdateConfig) (runningApp : Option EspAppDesc)
    (storedVersion : Option Bytes) (attempt : Nat) (transfer : OtaTransfer) :
    (otaUpdateCalls cfg runningApp storedVersion attempt transfer).2 =
      otaPerformUpdate cfg runningApp storedVersion transfer := by
  simp only [otaUpdateCalls, otaPerformUpdate, otaTransferCalls,
    ← otaPerformCalls_result attempt transfer.performResults]
  generalize otaPerformCalls attempt transfer.performResults = loop
  obtain ⟨calls, ended⟩ := loop
  cases hvalidate : cfg.validate <;> cases ended <;>
    simp only [otaValidateCalls, hvalidate] <;> split_ifs <;> rfl

end Model

/-- The calls that give the handle of an attempt back. -/
def releases (attempt : Nat) : OtaCall → Bool
  | .finish attempt' _ => attempt' = attempt
  | .abort attempt' => attempt' = attempt
  | _ => false

/-- The calls of `esp_https_ota_perform` on the handle of an attempt. -/
def performs (attempt : Nat) : OtaCall → Bool
  | .perform attempt' _ => attempt' = attempt
  | _ => false

/-- The image of an attempt was described, passed the validate callback if there is one, and was
received in full. -/
def ImageReceived (cfg : OtaUpdateConfig) (before : List OtaCall) (attempt : Nat) : Prop :=
  ∃ desc, .getImgDesc attempt desc .ok ∈ before ∧
    (cfg.validate.isSome = true → .validate attempt desc .ok ∈ before) ∧
    (before.filter (performs attempt)).getLast? = some (.perform attempt .ok) ∧
    .isCompleteDataReceived attempt true ∈ before

/-- A call may follow the calls before it. -/
def OtaPermitted (cfg : OtaUpdateConfig) (before : List OtaCall) : OtaCall → Prop
  | .begin _ _ => (∀ attempt, .finish attempt .ok ∉ before) ∧
      ∀ attempt desc result, .validate attempt desc result ∈ before → result = .ok
  | .abort attempt => .begin attempt .ok ∈ before
  | .finish attempt _ => .begin attempt .ok ∈ before ∧ ImageReceived cfg before attempt
  | .nvsSetStr version _ => ∃ attempt desc, .finish attempt .ok ∈ before ∧
      .getImgDesc attempt desc .ok ∈ before ∧ version = cString desc.version.toList
  | .restart => ∃ attempt, .finish attempt .ok ∈ before
  | _ => True

/-- The calls up to the transfer, for an image the validate callback has nothing against. -/
def OtaDescribed (cfg : OtaUpdateConfig) (attempt : Nat) (desc : EspAppDesc)
    (calls : List OtaCall) : Prop :=
  (cfg.validate = none ∧ calls = [.begin attempt .ok, .getImgDesc attempt desc .ok]) ∨
    calls = [.begin attempt .ok, .getImgDesc attempt desc .ok, .validate attempt desc .ok]

/-- What an attempt can do: its calls and its result. -/
inductive OtaAttempt (cfg : OtaUpdateConfig) (attempt : Nat) :
    List OtaCall → Option OtaResult → Prop
  | beginFailed {err : EspErr} (herr : err ≠ .ok) :
      OtaAttempt cfg attempt [.begin attempt err] (some { err := err })
  | notDescribed {desc : EspAppDesc} {err : EspErr} (herr : err ≠ .ok) :
      OtaAttempt cfg attempt
        [.begin attempt .ok, .getImgDesc attempt desc err, .abort attempt]
        (some { err := err, aborted := true })
  | rejected {desc : EspAppDesc} {verdict : EspErr} (hverdict : verdict ≠ .ok) :
      OtaAttempt cfg attempt
        [.begin attempt .ok, .getImgDesc attempt desc .ok, .validate attempt desc verdict,
          .abort attempt]
        (some { err := verdict, shouldRetry := false, aborted := true })
  | interrupted {desc : EspAppDesc} {described transferred : List OtaCall}
      (hdescribed : OtaDescribed cfg attempt desc described)
      (hperforms : ∀ call ∈ transferred, performs attempt call = true) :
      OtaAttempt cfg attempt (described ++ transferred) none
  | transferFailed {desc : EspAppDesc} {described transferred : List OtaCall} {err : EspErr}
      (hdescribed : OtaDescribed cfg attempt desc described)
      (hperforms : ∀ call ∈ transferred, performs attempt call = true) (herr : err ≠ .ok) :
      OtaAttempt cfg attempt (described ++ transferred ++ [.abort attempt])
        (some { err := err, aborted := true })
  | incomplete {desc : EspAppDesc} {described transferred : List OtaCall}
      (hdescribed : OtaDescribed cfg attempt desc described)
      (hperforms : ∀ call ∈ transferred, performs attempt call = true) :
      OtaAttempt cfg attempt
        (described ++ transferred ++ [.isCompleteDataReceived attempt false, .abort attempt])
        (some { err := .invalidResponse, aborted := true })
  | finished {desc : EspAppDesc} {described transferred : List OtaCall} {result : OtaResult}
      (hdescribed : OtaDescribed cfg attempt desc described)
      (hperforms : ∀ call ∈ transferred, performs attempt call = true)
      (hlast : transferred.getLast? = some (.perform attempt .ok))
      (happlied : result.err = .ok → result.appliedDesc = desc) :
      OtaAttempt cfg attempt
        (described ++ transferred ++
          [.isCompleteDataReceived attempt true, .finish attempt result.err])
        (some result)

section Attempt

variable {cfg : OtaUpdateConfig} {runningApp : Option EspAppDesc} {storedVersion : Option Bytes}
  {attempt : Nat} {transfer : OtaTransfer}

/-- The loop calls `esp_https_ota_perform` only, last with the answer that ended it. -/
theorem otaPerformCalls_spec (attempt : Nat) (results : List EspErr) :
    (∀ call ∈ (otaPerformCalls attempt results).1, performs attempt call = true) ∧
      ∀ err, (otaPerformCalls attempt results).2 = some err →
        (otaPerformCalls attempt results).1.getLast? = some (.perform attempt err) := by
  induction results with
  | nil => exact ⟨by simp [otaPerformCalls], fun err h => by cases h⟩
  | cons first rest ih =>
      obtain ⟨hperforms, hlast⟩ := ih
      simp only [otaPerformCalls]
      split
      · refine ⟨?_, fun err hended => ?_⟩
        · intro call hmem
          rcases List.mem_cons.mp hmem with rfl | hmem
          · simp [performs]
          · exact hperforms call hmem
        · rw [List.getLast?_cons, hlast err hended]
          rfl
      · refine ⟨by simp [performs], fun err hended => ?_⟩
        cases hended
        rfl

/-- `ota_perform_update` does one of these things. -/
theorem otaUpdateCalls_case :
    OtaAttempt cfg attempt (otaUpdateCalls cfg runningApp storedVersion attempt transfer).1
      (otaUpdateCalls cfg runningApp storedVersion attempt transfer).2 := by
  obtain ⟨hperforms, hlast⟩ := otaPerformCalls_spec attempt transfer.performResults
  have htransfer : ∀ {described : List OtaCall},
      OtaDescribed cfg attempt transfer.newDesc described →
      OtaAttempt cfg attempt (described ++ (otaTransferCalls attempt transfer).1)
        (otaTransferCalls attempt transfer).2 := by
    intro described hdescribed
    simp only [otaTransferCalls]
    split
    case h_1 => exact .interrupted hdescribed hperforms
    case h_2 err hended =>
      split
      case isTrue herr =>
        rw [← List.append_assoc]
        exact .transferFailed hdescribed hperforms herr
      case isFalse herr =>
        obtain rfl := not_not.mp herr
        split
        case isTrue hpart =>
          have hfalse : transfer.completeDataReceived = false := by simpa using hpart
          rw [hfalse, List.append_assoc, ← List.append_assoc]
          exact .incomplete hdescribed hperforms
        case isFalse hfull =>
          have htrue : transfer.completeDataReceived = true := by simpa using hfull
          have hfinished : ∀ result : OtaResult, result.err = transfer.finishResult →
              (result.err = .ok → result.appliedDesc = transfer.newDesc) →
              OtaAttempt cfg attempt
                (described ++ ((otaPerformCalls attempt transfer.performResults).1 ++
                  [.isCompleteDataReceived attempt true] ++
                    [.finish attempt transfer.finishResult])) (some result) := by
            intro result hresult happlied
            rw [← hresult, List.append_assoc, ← List.append_assoc]
            exact .finished hdescribed hperforms (hlast _ hended) happlied
          rw [htrue]
          split
          case isTrue herr => exact hfinished _ rfl fun hok => absurd hok herr
          case isFalse hok => exact hfinished _ (not_not.mp hok).symm fun _ => rfl
  simp only [otaUpdateCalls]
  split
  case isTrue herr => exact .beginFailed herr
  case isFalse hbegin =>
    rw [not_not.mp hbegin]
    split
    case isTrue herr => exact .notDescribed herr
    case isFalse hdesc =>
      rw [not_not.mp hdesc]
      cases hvalidate : cfg.validate with
      | none =>
          simp only [otaValidateCalls, hvalidate]
          rw [if_neg (by simp)]
          exact htransfer (.inl ⟨hvalidate, rfl⟩)
      | some validate =>
          simp only [otaValidateCalls, hvalidate]
          split
          case isTrue hverdict => exact .rejected hverdict
          case isFalse hverdict =>
            rw [not_not.mp hverdict]
            exact htransfer (.inr rfl)

end Attempt

end SensorHmi
