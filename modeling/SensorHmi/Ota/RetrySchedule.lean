import SensorHmi.Lib.Backoff
import SensorHmi.Ota.OtaUpdate

/-!
# The retry schedule of updates

The attempts and waits of the loop of `ota_task`. `otaTaskLog` is the loop with its steps written
down instead of carried out; `otaTaskLoop_outputs` says that it is the same loop. The loop caps a
wait only when it doubles it, so the first one is the initial backoff even above the maximum, and
the law holds exactly where that does not show (`retry_schedule_iff`).
-/

namespace SensorHmi

open Octets

/-- A step of the loop of `ota_task`. -/
inductive OtaStep
  | attempt (transfer : OtaTransfer)
  | wait (ms : UInt32)

section Log

variable (tickRateHz : UInt32) (cfg : OtaUpdateConfig) (runningApp : Option EspAppDesc)
  (storedVersion : Option Bytes)

/-- The attempt fails and may be made again. -/
def otaRetryable (transfer : OtaTransfer) : Bool :=
  match otaPerformUpdate cfg runningApp storedVersion transfer with
  | some result => result.err ≠ .ok && result.shouldRetry
  | none => false

/-- The steps of the loop of `ota_task` from an attempt on. -/
def otaTaskLog : (attempt : Nat) → (backoffMs : UInt32) → List OtaTransfer → List OtaStep
  | _, _, [] => []
  | attempt, backoffMs, transfer :: rest =>
      .attempt transfer ::
        if otaRetryable cfg runningApp storedVersion transfer && attempt < otaMaxAttempts cfg then
          .wait backoffMs :: otaTaskLog (attempt + 1) (otaNextBackoff cfg backoffMs) rest
        else []

/-- What the device sees of an attempt. -/
def attemptOutputs (transfer : OtaTransfer) : List OtaOutput :=
  match otaPerformUpdate cfg runningApp storedVersion transfer with
  | none => []
  | some result =>
      if result.err = .ok then
        .finished result.appliedDesc ::
          if cfg.autoReboot then [.delay (pdMsToTicks tickRateHz 1000), .restart] else []
      else if result.aborted then [.abort] else []

/-- What the device sees of a step. -/
def OtaStep.outputs : OtaStep → List OtaOutput
  | .attempt transfer => attemptOutputs tickRateHz cfg runningApp storedVersion transfer
  | .wait ms => [.delay (pdMsToTicks tickRateHz ms)]

variable {tickRateHz} {cfg} {runningApp} {storedVersion}

/-- The steps of the log are what the loop does. -/
theorem otaTaskLoop_outputs (flash : OtaFlash) (attempt : Nat) (backoffMs : UInt32)
    (transfers : List OtaTransfer) :
    (otaTaskLoop tickRateHz cfg runningApp storedVersion flash attempt backoffMs transfers).2 =
      (otaTaskLog cfg runningApp storedVersion attempt backoffMs transfers).flatMap
        (OtaStep.outputs tickRateHz cfg runningApp storedVersion) := by
  induction transfers generalizing attempt backoffMs with
  | nil => rfl
  | cons transfer rest ih =>
      rw [otaTaskLoop, otaTaskLog, List.flatMap_cons]
      cases hresult : otaPerformUpdate cfg runningApp storedVersion transfer with
      | none => simp [OtaStep.outputs, attemptOutputs, otaRetryable, hresult]
      | some result =>
          by_cases hok : result.err = .ok
          · simp [OtaStep.outputs, attemptOutputs, otaRetryable, hresult, hok]
          by_cases hretry : result.shouldRetry = true
          · by_cases hmore : attempt < otaMaxAttempts cfg
            · simp [OtaStep.outputs, attemptOutputs, otaRetryable, hresult, hok, hretry, hmore, ih]
            · simp [OtaStep.outputs, attemptOutputs, otaRetryable, hresult, hok, hretry, hmore]
          · simp [OtaStep.outputs, attemptOutputs, otaRetryable, hresult, hok, hretry]

end Log

/-- The steps of the loop in one boot. -/
def otaBootLog (cfg : OtaUpdateConfig) (flash : OtaFlash) (boot : OtaBoot) : List OtaStep :=
  otaTaskLog cfg (if boot.runningRead then some flash.bootApp else none)
    (otaLoadLastVersion cfg flash.nvs boot.nvsOpenResult boot.nvsGetResult).2 1
    (if cfg.initialBackoffMs ≠ 0 then cfg.initialBackoffMs else 5000) boot.transfers

/-- Behind its start-up a boot is its log. -/
theorem otaTask_outputs (tickRateHz : UInt32) (cfg : OtaUpdateConfig) (flash : OtaFlash)
    (boot : OtaBoot) :
    (otaTask tickRateHz cfg flash boot).2 =
      .delay (pdMsToTicks tickRateHz cfg.checkDelayMs) :: .markAppValid ::
        (otaBootLog cfg flash boot).flatMap
          (OtaStep.outputs tickRateHz cfg (if boot.runningRead then some flash.bootApp else none)
            (otaLoadLastVersion cfg flash.nvs boot.nvsOpenResult boot.nvsGetResult).2) := by
  rw [otaBootLog, ← otaTaskLoop_outputs flash]
  rfl

/-- Whether the attempt fails and may be made again, in the boot it is part of. -/
def bootRetryable (cfg : OtaUpdateConfig) (flash : OtaFlash) (boot : OtaBoot) :
    OtaTransfer → Bool :=
  otaRetryable cfg (if boot.runningRead then some flash.bootApp else none)
    (otaLoadLastVersion cfg flash.nvs boot.nvsOpenResult boot.nvsGetResult).2

/-- Whether a step is an attempt. -/
def OtaStep.isAttempt : OtaStep → Bool
  | .attempt _ => true
  | .wait _ => false

/-- The number of attempts of a log. -/
def attemptsOf (log : List OtaStep) : Nat :=
  log.countP OtaStep.isAttempt

/-- A log that follows a schedule from attempt `made + 1` on: attempts up to the bound with a wait
between two of them, none behind one that succeeds or may not be made again, and behind attempt `i`
the wait of the capped doubling. -/
structure FollowsSchedule (initial cap bound : Nat) (retryable : OtaTransfer → Bool) (made : Nat)
    (log : List OtaStep) : Prop where
  attempts : made + attemptsOf log ≤ bound
  alternates : ∀ earlier step next later, log = earlier ++ step :: next :: later →
    next.isAttempt = !step.isAttempt
  stops : ∀ earlier transfer next later, log = earlier ++ .attempt transfer :: next :: later →
    retryable transfer = true
  waits : ∀ earlier ms later, log = earlier ++ .wait ms :: later →
    0 < attemptsOf earlier ∧
      ms.toNat = Backoff.delay initial cap (made + attemptsOf earlier - 1)

section Schedule

variable {initial cap bound made : Nat} {retryable : OtaTransfer → Bool}

theorem FollowsSchedule.nil (h : made ≤ bound) :
    FollowsSchedule initial cap bound retryable made [] where
  attempts := h
  alternates earlier step next later hlog := by cases earlier <;> cases hlog
  stops earlier transfer next later hlog := by cases earlier <;> cases hlog
  waits earlier ms later hlog := by cases earlier <;> cases hlog

/-- The last attempt. -/
theorem FollowsSchedule.last (h : made < bound) (transfer : OtaTransfer) :
    FollowsSchedule initial cap bound retryable made [.attempt transfer] where
  attempts := h
  alternates earlier step next later hlog := by
    cases earlier with
    | nil => cases hlog
    | cons first rest => cases rest <;> cases hlog
  stops earlier other next later hlog := by
    cases earlier with
    | nil => cases hlog
    | cons first rest => cases rest <;> cases hlog
  waits earlier ms later hlog := by
    cases earlier with
    | nil => cases hlog
    | cons first rest => cases rest <;> cases hlog

/-- An attempt that may be made again, its wait, and the rest of the schedule. -/
theorem FollowsSchedule.cons {transfer : OtaTransfer} {ms : UInt32} {rest : List OtaStep}
    (hretry : retryable transfer = true) (hms : ms.toNat = Backoff.delay initial cap made)
    (hfirst : ∀ step ∈ rest.head?, step.isAttempt = true)
    (h : FollowsSchedule initial cap bound retryable (made + 1) rest) :
    FollowsSchedule initial cap bound retryable made (.attempt transfer :: .wait ms :: rest) := by
  have hcount : ∀ earlier : List OtaStep,
      attemptsOf (.attempt transfer :: .wait ms :: earlier) = attemptsOf earlier + 1 := by
    intro earlier
    rw [attemptsOf, List.countP_cons_of_pos rfl, List.countP_cons_of_neg
      (by simp [OtaStep.isAttempt])]
    rfl
  refine ⟨?_, ?_, ?_, ?_⟩
  · rw [hcount]
    have hattempts := h.attempts
    omega
  · intro earlier step next later hlog
    match earlier with
    | [] =>
        cases hlog
        rfl
    | [_] =>
        cases hlog
        exact hfirst next rfl
    | _ :: _ :: earlier =>
        cases hlog
        exact h.alternates earlier step next later rfl
  · intro earlier other next later hlog
    match earlier with
    | [] =>
        cases hlog
        exact hretry
    | [_] => cases hlog
    | _ :: _ :: earlier =>
        cases hlog
        exact h.stops earlier other next later rfl
  · intro earlier other later hlog
    match earlier with
    | [] => cases hlog
    | [_] =>
        cases hlog
        exact ⟨by simp [attemptsOf, OtaStep.isAttempt], hms⟩
    | _ :: _ :: earlier =>
        cases hlog
        obtain ⟨hpos, hdelay⟩ := h.waits earlier other later rfl
        rw [hcount]
        refine ⟨Nat.succ_pos _, ?_⟩
        rw [hdelay]
        congr 1
        omega

end Schedule

section Law

/-- The initial backoff that is in force. -/
def effectiveInitialBackoff (config : OtaUpdateConfig) : Nat :=
  if config.initialBackoffMs = 0 then 5000 else config.initialBackoffMs.toNat

/-- The largest backoff that is in force. -/
def effectiveMaxBackoff (config : OtaUpdateConfig) : Nat :=
  if config.maxBackoffMs = 0 then 60000 else config.maxBackoffMs.toNat

/-- The most attempts that are made. -/
def effectiveMaxRetries (config : OtaUpdateConfig) : Nat :=
  if config.maxRetries = 0 then 5 else config.maxRetries.toNat

variable {config cfg : OtaUpdateConfig} {boot : OtaBoot}

/-- The settings of an accepted configuration. -/
theorem otaUpdateSchedule_settings (h : otaUpdateSchedule config boot = .ok cfg) :
    (if cfg.initialBackoffMs ≠ 0 then cfg.initialBackoffMs else 5000).toNat =
        effectiveInitialBackoff config ∧
      (if cfg.maxBackoffMs ≠ 0 then cfg.maxBackoffMs else 60000).toNat =
        effectiveMaxBackoff config ∧
      otaMaxAttempts cfg = effectiveMaxRetries config := by
  unfold otaUpdateSchedule at h
  split at h
  · cases h
  split at h
  · cases h
  split at h
  · cases h
  cases h
  refine ⟨?_, ?_, ?_⟩
  · unfold effectiveInitialBackoff
    by_cases hzero : config.initialBackoffMs = 0 <;> simp [hzero]
  · unfold effectiveMaxBackoff
    by_cases hzero : config.maxBackoffMs = 0 <;> simp [hzero]
  · unfold effectiveMaxRetries otaMaxAttempts
    by_cases hzero : config.maxRetries = 0 <;> simp [hzero]

/-- The next backoff is doubled and capped. -/
theorem otaNextBackoff_toNat {backoffMs : UInt32} (hpos : 0 < backoffMs.toNat) :
    (otaNextBackoff cfg backoffMs).toNat =
      min (backoffMs.toNat * 2) (if cfg.maxBackoffMs ≠ 0 then cfg.maxBackoffMs else
        60000).toNat := by
  unfold otaNextBackoff
  generalize (if cfg.maxBackoffMs ≠ 0 then cfg.maxBackoffMs else 60000) = maxBackoffMs
  dsimp only
  have hmax : maxBackoffMs.toNat < 2 ^ 32 := maxBackoffMs.toNat_lt
  have hback : backoffMs.toNat < 2 ^ 32 := backoffMs.toNat_lt
  have hnext : (backoffMs.toUInt64 * 2).toNat = backoffMs.toNat * 2 := by
    rw [UInt64.toNat_mul, UInt32.toNat_toUInt64]
    exact Nat.mod_eq_of_lt (by
      show backoffMs.toNat * 2 < 2 ^ 64
      omega)
  split
  case isTrue hpassed =>
    rw [UInt64.lt_iff_toNat_lt, UInt32.toNat_toUInt64, hnext] at hpassed
    exact (min_eq_right hpassed.le).symm
  case isFalse hwithin =>
    rw [UInt64.lt_iff_toNat_lt, UInt32.toNat_toUInt64, hnext] at hwithin
    split
    case isTrue hzero =>
      rw [← UInt64.toNat_inj, hnext] at hzero
      exact absurd hzero (by
        show ¬ backoffMs.toNat * 2 = 0
        omega)
    case isFalse =>
      rw [min_eq_left (not_lt.mp hwithin), UInt64.toNat_toUInt32, hnext]
      exact Nat.mod_eq_of_lt (by omega)

theorem effectiveInitialBackoff_pos (config : OtaUpdateConfig) :
    0 < effectiveInitialBackoff config := by
  unfold effectiveInitialBackoff
  split
  case isTrue => decide
  case isFalse hne => exact Nat.pos_of_ne_zero fun hzero => hne (UInt32.toNat_inj.mp hzero)

theorem effectiveMaxBackoff_pos (config : OtaUpdateConfig) : 0 < effectiveMaxBackoff config := by
  unfold effectiveMaxBackoff
  split
  case isTrue => decide
  case isFalse hne => exact Nat.pos_of_ne_zero fun hzero => hne (UInt32.toNat_inj.mp hzero)

theorem effectiveMaxRetries_pos (config : OtaUpdateConfig) : 0 < effectiveMaxRetries config := by
  unfold effectiveMaxRetries
  split
  case isTrue => decide
  case isFalse hne => exact Nat.pos_of_ne_zero fun hzero => hne (UInt8.toNat_inj.mp hzero)

/-- The loop starts with an attempt. -/
theorem head_otaTaskLog {runningApp : Option EspAppDesc} {storedVersion : Option Bytes}
    {attempt : Nat} {backoffMs : UInt32} {transfers : List OtaTransfer} :
    ∀ step ∈ (otaTaskLog cfg runningApp storedVersion attempt backoffMs transfers).head?,
      step.isAttempt = true := by
  intro step hhead
  cases transfers with
  | nil => cases hhead
  | cons transfer rest =>
      cases hhead
      rfl

/-- From an attempt with the wait of the law at hand the loop follows the schedule. -/
theorem otaTaskLog_follows (h : otaUpdateSchedule config boot = .ok cfg)
    {runningApp : Option EspAppDesc} {storedVersion : Option Bytes} {made : Nat}
    {backoffMs : UInt32} (hmade : made < effectiveMaxRetries config)
    (hbackoff : backoffMs.toNat =
      Backoff.delay (effectiveInitialBackoff config) (effectiveMaxBackoff config) made)
    (transfers : List OtaTransfer) :
    FollowsSchedule (effectiveInitialBackoff config) (effectiveMaxBackoff config)
      (effectiveMaxRetries config) (otaRetryable cfg runningApp storedVersion) made
      (otaTaskLog cfg runningApp storedVersion (made + 1) backoffMs transfers) := by
  obtain ⟨-, hmax, hattempts⟩ := otaUpdateSchedule_settings h
  induction transfers generalizing made backoffMs with
  | nil => exact .nil hmade.le
  | cons transfer rest ih =>
      rw [otaTaskLog]
      split
      case isTrue hagain =>
        simp only [Bool.and_eq_true, decide_eq_true_eq] at hagain
        obtain ⟨hretry, hmore⟩ := hagain
        rw [hattempts] at hmore
        refine .cons hretry hbackoff head_otaTaskLog (ih hmore ?_)
        have hpos : 0 < backoffMs.toNat := by
          rw [hbackoff]
          exact lt_min (Nat.mul_pos (effectiveInitialBackoff_pos config) (by positivity))
            (effectiveMaxBackoff_pos config)
        rw [otaNextBackoff_toNat hpos, hmax, hbackoff, Backoff.delay_succ]
      case isFalse => exact .last hmade transfer

/-- A boot of an accepted configuration follows its schedule exactly when the initial backoff is
within the maximum, or there is no wait: one attempt is all, or the first one succeeds, may not be
made again or is never made. -/
theorem retry_schedule_iff (h : otaUpdateSchedule config boot = .ok cfg) (flash : OtaFlash) :
    FollowsSchedule (effectiveInitialBackoff config) (effectiveMaxBackoff config)
      (effectiveMaxRetries config) (bootRetryable cfg flash boot) 0 (otaBootLog cfg flash boot) ↔
    effectiveInitialBackoff config ≤ effectiveMaxBackoff config ∨
      effectiveMaxRetries config = 1 ∨
      ∀ transfer ∈ boot.transfers.head?, bootRetryable cfg flash boot transfer = false := by
  obtain ⟨hinitial, -, hattempts⟩ := otaUpdateSchedule_settings h
  have hpos := effectiveMaxRetries_pos config
  by_cases hcap : effectiveInitialBackoff config ≤ effectiveMaxBackoff config
  · refine iff_of_true ?_ (Or.inl hcap)
    exact otaTaskLog_follows h hpos (hinitial.trans (Backoff.delay_zero hcap).symm) _
  rw [or_iff_right hcap]
  unfold otaBootLog bootRetryable
  generalize (if boot.runningRead then some flash.bootApp else none) = runningApp
  generalize (otaLoadLastVersion cfg flash.nvs boot.nvsOpenResult boot.nvsGetResult).2 =
    storedVersion
  generalize (if cfg.initialBackoffMs ≠ 0 then cfg.initialBackoffMs else 5000) =
    backoffMs at hinitial ⊢
  cases boot.transfers with
  | nil =>
      refine iff_of_true (.nil hpos.le) (Or.inr fun transfer hmem => ?_)
      cases hmem
  | cons transfer rest =>
      rw [otaTaskLog]
      split
      case isTrue hagain =>
        simp only [Bool.and_eq_true, decide_eq_true_eq, hattempts] at hagain
        refine iff_of_false (fun hfollows => hcap ?_) ?_
        · -- the first wait is the initial backoff, which the law caps
          obtain ⟨-, hwait⟩ := hfollows.waits [.attempt transfer] _ _ rfl
          rw [hinitial] at hwait
          rw [hwait]
          exact Backoff.delay_le_cap
        · rintro (hone | hnot)
          · omega
          · exact absurd hagain.1 (by rw [hnot transfer rfl]; decide)
      case isFalse honce =>
        refine iff_of_true (.last hpos transfer) ?_
        simp only [Bool.and_eq_true, decide_eq_true_eq, hattempts, not_and, not_lt] at honce
        by_cases hone : effectiveMaxRetries config = 1
        · exact Or.inl hone
        · refine Or.inr fun other hmem => ?_
          cases hmem
          rw [Bool.eq_false_iff]
          intro hretry
          have hfew := honce hretry
          omega

end Law

section Sample

/-- An attempt whose connection fails. -/
def noConnection : OtaTransfer :=
  { beginResult := .fail, newDesc := {} }

/-- A configuration whose initial backoff is above its maximum. -/
def steepConfig : OtaUpdateConfig :=
  { url := some [104], initialBackoffMs := 5000, maxBackoffMs := 1000, maxRetries := 3 }

/-- What `ota_update_schedule` makes of the configuration of the applications. -/
def scheduledAppConfig : OtaUpdateConfig :=
  { appOtaConfig [104] with initialBackoffMs := 5000, maxBackoffMs := 60000, maxRetries := 5 }

/-- The configuration of the applications, in a boot without a connection. -/
theorem retry_schedule_app :
    FollowsSchedule 5000 60000 5
      (bootRetryable scheduledAppConfig ⟨{}, fun _ => none⟩
        { transfers := List.replicate 9 noConnection }) 0
      (otaBootLog scheduledAppConfig ⟨{}, fun _ => none⟩
        { transfers := List.replicate 9 noConnection }) :=
  (@retry_schedule_iff (appOtaConfig [104]) scheduledAppConfig
    { transfers := List.replicate 9 noConnection } rfl ⟨{}, fun _ => none⟩).mpr (Or.inl (by decide))

/-- The wait between the first two attempts is 5000 ms where the maximum is 1000 ms. -/
theorem not_all_waits_capped :
    (∃ cfg, otaUpdateSchedule steepConfig { transfers := [noConnection, noConnection] } = .ok cfg ∧
      ∃ earlier later, otaBootLog cfg ⟨{}, fun _ => none⟩
        { transfers := [noConnection, noConnection] } =
          .attempt earlier :: .wait 5000 :: later) ∧
      effectiveMaxBackoff steepConfig = 1000 ∧
      ¬ ∀ cfg, otaUpdateSchedule steepConfig { transfers := [noConnection, noConnection] } =
        .ok cfg →
        FollowsSchedule (effectiveInitialBackoff steepConfig) (effectiveMaxBackoff steepConfig)
          (effectiveMaxRetries steepConfig)
          (bootRetryable cfg ⟨{}, fun _ => none⟩ { transfers := [noConnection, noConnection] }) 0
          (otaBootLog cfg ⟨{}, fun _ => none⟩ { transfers := [noConnection, noConnection] }) := by
  refine ⟨⟨_, rfl, noConnection, _, rfl⟩, rfl, fun hall => ?_⟩
  have hwait := ((hall _ rfl).waits [.attempt noConnection] 5000 _ rfl).2
  exact absurd hwait (by decide)

end Sample

end SensorHmi
