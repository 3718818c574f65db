import SensorHmi.Ota.OtaUpdate

/-!
# How often an image is installed

No configuration of the firmware has a `validate` callback, so `ota_task` compares no version: it
stores the one it installs and never looks at it. Every boot whose download goes through installs
the image on offer again and restarts. So an image is installed at most once exactly as long as at
most one download goes through.
-/

namespace SensorHmi

open Octets

/-- The task finishes the image that is on offer. -/
def OtaTransfer.succeeds (transfer : OtaTransfer) : Bool :=
  transfer.beginResult = .ok && transfer.imgDescResult = .ok &&
    otaPerformLoop transfer.performResults = some .ok && transfer.completeDataReceived &&
      transfer.finishResult = .ok

/-- The attempt fails in a way after which the task tries again. -/
def OtaTransfer.failsForNow (transfer : OtaTransfer) : Bool :=
  if transfer.beginResult ≠ .ok || transfer.imgDescResult ≠ .ok then true
  else match otaPerformLoop transfer.performResults with
    | none => false
    | some err =>
        err ≠ .ok || !transfer.completeDataReceived ||
          transfer.finishResult ≠ .ok && transfer.finishResult ≠ .otaValidateFailed

/-- One of the first attempts succeeds and those before it fail for now. -/
def someSucceeds : (attempts : Nat) → List OtaTransfer → Bool
  | 0, _ => false
  | _, [] => false
  | attempts + 1, transfer :: rest =>
      transfer.succeeds || transfer.failsForNow && someSucceeds attempts rest

/-- The task is started and one of its five attempts succeeds. -/
def OtaBoot.goesThrough (boot : OtaBoot) : Bool :=
  boot.mallocOk && boot.taskCreated && someSucceeds 5 boot.transfers

/-- The images of a version that were finished. -/
def finishedCount (version : Bytes) (outputs : List OtaOutput) : Nat :=
  outputs.countP fun output => match output with
    | .finished app => cString app.version.toList = version
    | _ => false

/-- The device runs the version or has stored it as its last one. -/
def Installed (url version : Bytes) (flash : OtaFlash) : Prop :=
  cString flash.bootApp.version.toList = version ∨
    flash.nvs (otaVersionPlace (appOtaConfig url)) = some version

/-- The version is finished and the device restarted at most once, and from the boot on that finds
it installed neither happens. -/
def InstalledAtMostOnce (tickRateHz : UInt32) (url version : Bytes) (flash : OtaFlash)
    (boots : List OtaBoot) : Prop :=
  finishedCount version (Machine.run (otaBoot tickRateHz url) flash boots).2 ≤ 1 ∧
    (Machine.run (otaBoot tickRateHz url) flash boots).2.count .restart ≤ 1 ∧
    ∀ before after, boots = before ++ after →
      let reached := (Machine.run (otaBoot tickRateHz url) flash before).1
      Installed url version reached →
        finishedCount version (Machine.run (otaBoot tickRateHz url) reached after).2 = 0 ∧
          (Machine.run (otaBoot tickRateHz url) reached after).2.count .restart = 0

/-- Every descriptor the server sends carries the version. -/
def Offers (version : Bytes) (boot : OtaBoot) : Prop :=
  ∀ transfer ∈ boot.transfers, transfer.imgDescResult = .ok →
    cString transfer.newDesc.version.toList = version

section Boot

theorem finishedCount_append (version : Bytes) (first second : List OtaOutput) :
    finishedCount version (first ++ second) =
      finishedCount version first + finishedCount version second :=
  List.countP_append

variable {tickRateHz : UInt32} {url version : Bytes} {flash : OtaFlash} {boot : OtaBoot}
  {boots : List OtaBoot} {cfg : OtaUpdateConfig} {runningApp : Option EspAppDesc}
  {storedVersion : Option Bytes}

/-- Without a callback an attempt succeeds, fails for now, or ends the task. -/
theorem otaPerformUpdate_cases (hvalidate : cfg.validate = none) (transfer : OtaTransfer) :
    (transfer.succeeds = true ∧ transfer.imgDescResult = .ok ∧
        otaPerformUpdate cfg runningApp storedVersion transfer =
          some { err := .ok, appliedDesc := transfer.newDesc, shouldRetry := false }) ∨
      transfer.succeeds = false ∧
        ((transfer.failsForNow = true ∧ ∃ err aborted, err ≠ .ok ∧
            otaPerformUpdate cfg runningApp storedVersion transfer =
              some { err := err, aborted := aborted }) ∨
          transfer.failsForNow = false ∧
            (otaPerformUpdate cfg runningApp storedVersion transfer = none ∨
              ∃ err aborted, err ≠ .ok ∧
                otaPerformUpdate cfg runningApp storedVersion transfer =
                  some { err := err, shouldRetry := false, aborted := aborted })) := by
  by_cases hbegin : transfer.beginResult = .ok
  swap
  · refine Or.inr ⟨by simp [OtaTransfer.succeeds, hbegin], Or.inl
      ⟨by simp [OtaTransfer.failsForNow, hbegin], transfer.beginResult, false, hbegin, ?_⟩⟩
    exact if_pos hbegin
  by_cases hdesc : transfer.imgDescResult = .ok
  swap
  · refine Or.inr ⟨by simp [OtaTransfer.succeeds, hdesc], Or.inl
      ⟨by simp [OtaTransfer.failsForNow, hdesc], transfer.imgDescResult, true, hdesc, ?_⟩⟩
    rw [otaPerformUpdate, if_neg (not_not.mpr hbegin), if_pos hdesc]
  -- from here on the answers of the transfer itself decide
  cases hloop : otaPerformLoop transfer.performResults with
  | none =>
      refine Or.inr ⟨by simp [OtaTransfer.succeeds, hloop], Or.inr
        ⟨by simp [OtaTransfer.failsForNow, hbegin, hdesc, hloop], Or.inl ?_⟩⟩
      simp [otaPerformUpdate, hvalidate, hbegin, hdesc, hloop]
  | some err =>
      by_cases herr : err = .ok
      swap
      · refine Or.inr ⟨by simp [OtaTransfer.succeeds, hloop, herr], Or.inl
          ⟨by simp [OtaTransfer.failsForNow, hloop, herr], err, true, herr, ?_⟩⟩
        simp [otaPerformUpdate, hvalidate, hbegin, hdesc, hloop, herr]
      subst herr
      by_cases hcomplete : transfer.completeDataReceived = true
      swap
      · refine Or.inr ⟨by simp [OtaTransfer.succeeds, hcomplete], Or.inl
          ⟨by simp [OtaTransfer.failsForNow, hloop, hcomplete], .invalidResponse, true,
            by simp, ?_⟩⟩
        simp [otaPerformUpdate, hvalidate, hbegin, hdesc, hloop, hcomplete]
      by_cases hfinish : transfer.finishResult = .ok
      · refine Or.inl ⟨by simp [OtaTransfer.succeeds, hbegin, hdesc, hloop, hcomplete, hfinish],
          hdesc, ?_⟩
        simp [otaPerformUpdate, hvalidate, hbegin, hdesc, hloop, hcomplete, hfinish]
      · have hrun : otaPerformUpdate cfg runningApp storedVersion transfer =
            some { err := transfer.finishResult
                   shouldRetry := transfer.finishResult ≠ .otaValidateFailed } := by
          simp [otaPerformUpdate, hvalidate, hbegin, hdesc, hloop, hcomplete, hfinish]
        refine Or.inr ⟨by simp [OtaTransfer.succeeds, hfinish], ?_⟩
        by_cases hvalid : transfer.finishResult = .otaValidateFailed
        · refine Or.inr ⟨?_, Or.inr ⟨transfer.finishResult, false, hfinish, ?_⟩⟩
          · simp [OtaTransfer.failsForNow, hbegin, hdesc, hloop, hcomplete, hvalid]
          · rw [hrun]
            simp [hvalid]
        · refine Or.inl ⟨?_, transfer.finishResult, false, hfinish, ?_⟩
          · simp [OtaTransfer.failsForNow, hloop, hfinish, hvalid]
          · rw [hrun]
            simp [hvalid]

/-- The task finishes the offered image and restarts when an attempt succeeds in time, and does
nothing of both otherwise. -/
theorem otaTaskLoop_effect (hvalidate : cfg.validate = none) (hreboot : cfg.autoReboot = true)
    {transfers : List OtaTransfer}
    (hoffer : ∀ transfer ∈ transfers, transfer.imgDescResult = .ok →
      cString transfer.newDesc.version.toList = version)
    {attempt attempts : Nat} (hattempts : attempt + attempts = otaMaxAttempts cfg + 1)
    (hsome : 0 < attempts) (backoffMs : UInt32) :
    let result := otaTaskLoop tickRateHz cfg runningApp storedVersion flash attempt backoffMs
      transfers
    finishedCount version result.2 = (someSucceeds attempts transfers).toNat ∧
      result.2.count .restart = (someSucceeds attempts transfers).toNat ∧
      if someSucceeds attempts transfers then cString result.1.bootApp.version.toList = version
      else result.1 = flash := by
  induction transfers generalizing attempt attempts backoffMs with
  | nil =>
      obtain ⟨attempts, rfl⟩ := Nat.exists_eq_succ_of_ne_zero hsome.ne'
      exact ⟨rfl, rfl, rfl⟩
  | cons transfer rest ih =>
      obtain ⟨attempts, rfl⟩ := Nat.exists_eq_succ_of_ne_zero hsome.ne'
      have haborts : ∀ aborted : Bool,
          finishedCount version (if aborted then [.abort] else []) = 0 ∧
            (if aborted then [OtaOutput.abort] else []).count .restart = 0 := by
        intro aborted
        cases aborted <;> exact ⟨rfl, rfl⟩
      rcases @otaPerformUpdate_cases cfg runningApp storedVersion hvalidate transfer with
        ⟨hsucceeds, hdesc, hrun⟩ | ⟨hfails, hagain | hends⟩
      · have hversion := hoffer transfer List.mem_cons_self hdesc
        simp only [otaTaskLoop, hrun, if_true, hreboot, someSucceeds, hsucceeds, Bool.true_or]
        refine ⟨?_, rfl, hversion⟩
        simp [finishedCount, hversion]
      · obtain ⟨hagain, err, aborted, herr, hrun⟩ := hagain
        simp only [otaTaskLoop, hrun, if_neg herr, someSucceeds, hfails, hagain, Bool.false_or,
          Bool.true_and, Bool.not_true, Bool.false_eq_true, if_false]
        by_cases hmore : attempt < otaMaxAttempts cfg
        · obtain ⟨hfinished, hrestart, hflash⟩ :=
            ih (fun later hmem => hoffer later (List.mem_cons_of_mem _ hmem))
              (show attempt + 1 + attempts = otaMaxAttempts cfg + 1 by omega) (by omega)
              (otaNextBackoff cfg backoffMs)
          simp only [if_pos hmore, finishedCount_append, List.count_append, (haborts aborted).1,
            (haborts aborted).2, Nat.zero_add]
          exact ⟨hfinished, hrestart, hflash⟩
        · obtain rfl : attempts = 0 := by omega
          simp only [if_neg hmore, someSucceeds, Bool.false_eq_true, if_false]
          exact ⟨(haborts aborted).1, (haborts aborted).2, trivial⟩
      · obtain ⟨hnotAgain, hrun | ⟨err, aborted, herr, hrun⟩⟩ := hends
        · simp only [otaTaskLoop, hrun, someSucceeds, hfails, hnotAgain, Bool.false_or,
            Bool.false_and, Bool.false_eq_true, if_false]
          exact ⟨rfl, rfl, trivial⟩
        · simp only [otaTaskLoop, hrun, if_neg herr, someSucceeds, hfails, hnotAgain,
            Bool.false_or, Bool.false_and, Bool.not_false, if_true, Bool.false_eq_true, if_false]
          exact ⟨(haborts aborted).1, (haborts aborted).2, trivial⟩

/-- A boot installs the offered image when it goes through, and else leaves the device as it is. -/
theorem otaBoot_effect (hoffer : Offers version boot) :
    let result := otaBoot tickRateHz url flash boot
    finishedCount version result.2 = boot.goesThrough.toNat ∧
      result.2.count .restart = boot.goesThrough.toNat ∧
      if boot.goesThrough then cString result.1.bootApp.version.toList = version
      else result.1 = flash := by
  obtain ⟨mallocOk, taskCreated, runningRead, nvsOpenResult, nvsGetResult, transfers⟩ := boot
  cases mallocOk with
  | false => exact ⟨rfl, rfl, rfl⟩
  | true =>
      cases taskCreated with
      | false => exact ⟨rfl, rfl, rfl⟩
      | true =>
          intro result
          -- the task runs with the defaults filled in, so with five attempts and no callback
          let cfg : OtaUpdateConfig :=
            { appOtaConfig url with
              initialBackoffMs := 5000, maxBackoffMs := 60000, maxRetries := 5 }
          have hloop := @otaTaskLoop_effect tickRateHz version flash cfg
            (if runningRead then some flash.bootApp else none)
            (otaLoadLastVersion cfg flash.nvs nvsOpenResult nvsGetResult).2 rfl rfl transfers
            hoffer 1 5 rfl (by decide) 5000
          exact hloop

/-- The device is as it was after boots that do not go through, and runs the version after one
that does. -/
theorem run_effect (hoffer : ∀ boot ∈ boots, Offers version boot) :
    let result := Machine.run (otaBoot tickRateHz url) flash boots
    let goneThrough := boots.countP OtaBoot.goesThrough
    finishedCount version result.2 = goneThrough ∧ result.2.count .restart = goneThrough ∧
      if goneThrough = 0 then result.1 = flash
      else cString result.1.bootApp.version.toList = version := by
  induction boots generalizing flash with
  | nil => exact ⟨rfl, rfl, rfl⟩
  | cons boot rest ih =>
      obtain ⟨hfinished, hrestart, hflash⟩ :=
        @otaBoot_effect tickRateHz url version flash boot (hoffer boot List.mem_cons_self)
      obtain ⟨hfinished', hrestart', hflash'⟩ :=
        @ih (otaBoot tickRateHz url flash boot).1 fun later hmem =>
          hoffer later (List.mem_cons_of_mem _ hmem)
      intro result goneThrough
      have hcount : goneThrough = boot.goesThrough.toNat + rest.countP OtaBoot.goesThrough := by
        show (boot :: rest).countP OtaBoot.goesThrough = _
        rw [List.countP_cons, Nat.add_comm]
        cases boot.goesThrough <;> rfl
      refine ⟨?_, ?_, ?_⟩
      · rw [hcount, ← hfinished, ← hfinished']
        exact finishedCount_append version _ _
      · rw [hcount, ← hrestart, ← hrestart']
        exact List.count_append
      · have hresult : result.1 =
          (Machine.run (otaBoot tickRateHz url) (otaBoot tickRateHz url flash boot).1 rest).1 := rfl
        rw [hcount, hresult]
        by_cases hrest : rest.countP OtaBoot.goesThrough = 0
        · rw [if_pos hrest] at hflash'
          rw [hrest, hflash']
          cases hboot : boot.goesThrough with
          | false => simpa [hboot] using hflash
          | true => simpa [hboot] using hflash
        · rw [if_neg hrest] at hflash'
          rw [if_neg (by omega)]
          exact hflash'

end Boot

/-- Against a server that keeps offering one version, the version is installed at most once, and
not again where it is installed, exactly when at most one boot has an attempt that goes through,
and none where the device starts with the version. -/
theorem installed_at_most_once_iff (tickRateHz : UInt32) (url version : Bytes) (flash : OtaFlash)
    {boots : List OtaBoot} (hoffer : ∀ boot ∈ boots, Offers version boot) :
    InstalledAtMostOnce tickRateHz url version flash boots ↔
      boots.countP OtaBoot.goesThrough ≤ 1 ∧
        (Installed url version flash → boots.countP OtaBoot.goesThrough = 0) := by
  obtain ⟨hfinished, hrestart, -⟩ := @run_effect tickRateHz url version flash boots hoffer
  constructor
  · rintro ⟨hfinishes, -, hlater⟩
    refine ⟨hfinished ▸ hfinishes, fun hinstalled => ?_⟩
    have hnone := (hlater [] boots rfl hinstalled).1
    exact hfinished.symm.trans hnone
  · rintro ⟨honce, hnone⟩
    refine ⟨hfinished.le.trans honce, hrestart.le.trans honce, ?_⟩
    rintro before after rfl reached hinstalled
    obtain ⟨hbefore, hafter⟩ := List.forall_mem_append.mp hoffer
    obtain ⟨-, -, hreached⟩ := @run_effect tickRateHz url version flash before hbefore
    obtain ⟨hfinished', hrestart', -⟩ := @run_effect tickRateHz url version reached after hafter
    rw [List.countP_append] at honce hnone
    have hquiet : after.countP OtaBoot.goesThrough = 0 := by
      by_cases hzero : before.countP OtaBoot.goesThrough = 0
      · -- nothing was installed yet, so the device starts with the version
        rw [if_pos hzero] at hreached
        have hstart : Installed url version flash := hreached ▸ hinstalled
        have htotal := hnone hstart
        omega
      · omega
    exact ⟨hfinished'.trans hquiet, hrestart'.trans hquiet⟩

/-- A device that runs version 1. -/
def version1Flash : OtaFlash :=
  { bootApp := { version := (Vector.replicate 32 0).set 0 49 }, nvs := fun _ => none }

/-- A boot that is offered version 2, after a number of attempts without a connection. -/
def version2Boot (lost : Nat) : OtaBoot :=
  let unreached : OtaTransfer := { beginResult := .fail, imgDescResult := .fail, newDesc := {} }
  { transfers := List.replicate lost unreached ++
    [{ newDesc := { version := (Vector.replicate 32 0).set 0 50 } }] }

/-- Five attempts fail in the first boot; in the second the third one goes through. -/
theorem installed_at_most_once_second_boot :
    InstalledAtMostOnce 100 [] [50] version1Flash [version2Boot 5, version2Boot 2] ↔
      [version2Boot 5, version2Boot 2].countP OtaBoot.goesThrough ≤ 1 ∧
        (Installed [] [50] version1Flash →
          [version2Boot 5, version2Boot 2].countP OtaBoot.goesThrough = 0) := by
  refine installed_at_most_once_iff 100 [] [50] version1Flash ?_
  intro boot hmem transfer htransfer hdesc
  simp only [List.mem_cons, List.not_mem_nil, or_false] at hmem
  rcases hmem with rfl | rfl
  all_goals
    rcases List.mem_append.mp htransfer with hlost | hoffered
    · obtain rfl := List.eq_of_mem_replicate hlost
      cases hdesc
    · obtain rfl := List.mem_singleton.mp hoffered
      rfl

/-- The next boot, which runs version 2 and has stored it, installs it again and restarts again. -/
theorem installed_again_on_next_boot :
    ¬ InstalledAtMostOnce 100 [] [50] version1Flash [version2Boot 0, version2Boot 0] := by
  rintro ⟨hfinishes, -, -⟩
  exact absurd hfinishes (by decide)

end SensorHmi
