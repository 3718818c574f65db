import SensorHmi.Ota.OtaSession

/-!
# The update task follows the protocol

Over every run of `ota_task` the calls come in the order the HTTPS OTA library asks for, every
handle is given back once and the configuration is freed once. Each attempt is clean in itself
(`OtaAttempt`), and only an attempt that neither succeeded nor was rejected is followed by another.
-/

namespace SensorHmi

open Trace

/-- No attempt so far has succeeded or was rejected by the validate callback. -/
def Retriable (history : List OtaCall) : Prop :=
  (∀ attempt, .finish attempt .ok ∉ history) ∧
    ∀ attempt desc result, .validate attempt desc result ∈ history → result = .ok

/-- The attempt a call belongs to. -/
def attemptOf : OtaCall → Option Nat
  | .begin attempt _ | .getImgDesc attempt _ _ | .validate attempt _ _ | .perform attempt _
  | .isCompleteDataReceived attempt _ | .finish attempt _ | .abort attempt => some attempt
  | _ => none

/-- The calls of one attempt neither obtain nor release the handle of another, and leave the
configuration and the chip alone. -/
theorem count_of_attempt {attempt : Nat} {calls : List OtaCall}
    (h : ∀ call ∈ calls, attemptOf call = some attempt) :
    (∀ other, other ≠ attempt →
      calls.count (.begin other .ok) = 0 ∧ calls.countP (releases other) = 0) ∧
      calls.count .freeConfig = 0 ∧ .restart ∉ calls := by
  refine ⟨fun other hother => ⟨?_, ?_⟩, ?_, ?_⟩
  · rw [List.count_eq_zero]
    intro hmem
    exact hother (Option.some.inj (h _ hmem))
  · rw [List.countP_eq_zero]
    intro call hmem
    have hcall := h call hmem
    cases call <;> simp [releases, attemptOf] at hcall ⊢ <;> omega
  · rw [List.count_eq_zero]
    intro hmem
    cases h _ hmem
  · intro hmem
    cases h _ hmem

section Described

variable {cfg : OtaUpdateConfig} {attempt : Nat} {desc : EspAppDesc}
  {described transferred history : List OtaCall}

theorem OtaDescribed.own (h : OtaDescribed cfg attempt desc described) :
    ∀ call ∈ described, attemptOf call = some attempt := by
  rcases h with ⟨-, rfl⟩ | rfl <;> simp [attemptOf]

/-- The handle is obtained once and not given back yet, nothing is finished or rejected. -/
theorem OtaDescribed.spec (h : OtaDescribed cfg attempt desc described) :
    described.count (.begin attempt .ok) = 1 ∧ described.countP (releases attempt) = 0 ∧
      .begin attempt .ok ∈ described ∧ .getImgDesc attempt desc .ok ∈ described ∧
      (cfg.validate.isSome = true → .validate attempt desc .ok ∈ described) ∧
      described.filter (performs attempt) = [] ∧ Retriable described := by
  rcases h with ⟨hnone, rfl⟩ | rfl
  · simp [releases, performs, hnone, Retriable]
  · simp [releases, performs, Retriable]

theorem OtaDescribed.guarded (h : OtaDescribed cfg attempt desc described)
    (hretriable : Retriable history) : Guarded (OtaPermitted cfg) history described := by
  rcases h with ⟨-, rfl⟩ | rfl
  · exact ⟨hretriable, trivial, trivial⟩
  · exact ⟨hretriable, trivial, trivial, trivial⟩

/-- Calls of `esp_https_ota_perform` obtain, release, finish and reject nothing. -/
theorem performs_spec (h : ∀ call ∈ transferred, performs attempt call = true) :
    (∀ call ∈ transferred, attemptOf call = some attempt) ∧
      transferred.count (.begin attempt .ok) = 0 ∧ transferred.countP (releases attempt) = 0 ∧
      transferred.filter (performs attempt) = transferred ∧ Retriable transferred ∧
      ∀ history, Guarded (OtaPermitted cfg) history transferred := by
  have hform : ∀ call ∈ transferred, ∃ result, call = .perform attempt result := by
    intro call hmem
    have hcall := h call hmem
    cases call <;> simp [performs] at hcall
    exact ⟨_, by rw [hcall]⟩
  refine ⟨?_, ?_, ?_, List.filter_eq_self.mpr h, ⟨?_, ?_⟩, ?_⟩
  · intro call hmem
    obtain ⟨result, rfl⟩ := hform call hmem
    rfl
  · rw [List.count_eq_zero]
    intro hmem
    obtain ⟨result, hcall⟩ := hform _ hmem
    cases hcall
  · rw [List.countP_eq_zero]
    intro call hmem
    obtain ⟨result, rfl⟩ := hform call hmem
    simp [releases]
  · intro other hmem
    obtain ⟨result, hcall⟩ := hform _ hmem
    cases hcall
  · intro other desc result hmem
    obtain ⟨answer, hcall⟩ := hform _ hmem
    cases hcall
  · refine fun history => guarded_of_free fun call hmem history => ?_
    obtain ⟨result, rfl⟩ := hform call hmem
    trivial

/-- The calls before the data is complete: the handle is held. -/
structure Held (cfg : OtaUpdateConfig) (attempt : Nat) (desc : EspAppDesc)
    (transferred calls : List OtaCall) : Prop where
  own : ∀ call ∈ calls, attemptOf call = some attempt
  obtained : calls.count (.begin attempt .ok) = 1
  released : calls.countP (releases attempt) = 0
  begun : .begin attempt .ok ∈ calls
  described : .getImgDesc attempt desc .ok ∈ calls
  validated : cfg.validate.isSome = true → .validate attempt desc .ok ∈ calls
  performed : calls.filter (performs attempt) = transferred
  retriable : Retriable calls
  guarded : ∀ history, Retriable history → Guarded (OtaPermitted cfg) history calls

theorem OtaDescribed.held (h : OtaDescribed cfg attempt desc described)
    (hperforms : ∀ call ∈ transferred, performs attempt call = true) :
    Held cfg attempt desc transferred (described ++ transferred) := by
  obtain ⟨hcount, hreleases, hbegin, hdesc, hvalidate, hfilter, hfinish, hreject⟩ := h.spec
  obtain ⟨hown, hcount', hreleases', hfilter', ⟨hfinish', hreject'⟩, hfree⟩ :=
    @performs_spec cfg attempt transferred hperforms
  constructor
  · intro call hmem
    exact (List.mem_append.mp hmem).elim (h.own call) (hown call)
  · rw [List.count_append, hcount, hcount']
  · rw [List.countP_append, hreleases, hreleases']
  · exact List.mem_append_left _ hbegin
  · exact List.mem_append_left _ hdesc
  · exact fun hsome => List.mem_append_left _ (hvalidate hsome)
  · rw [List.filter_append, hfilter, hfilter', List.nil_append]
  · refine ⟨fun other hmem => ?_, fun other desc' result hmem => ?_⟩
    · exact (List.mem_append.mp hmem).elim (hfinish other) (hfinish' other)
    · exact (List.mem_append.mp hmem).elim (hreject other desc' result)
        (hreject' other desc' result)
  · exact fun history hretriable => guarded_append.mpr ⟨h.guarded hretriable, hfree _⟩

end Described

/-- What holds of the calls and the result of an attempt. -/
structure AttemptSpec (cfg : OtaUpdateConfig) (attempt : Nat) (calls : List OtaCall)
    (result : Option OtaResult) : Prop where
  guarded : ∀ history, Retriable history → Guarded (OtaPermitted cfg) history calls
  own : ∀ call ∈ calls, attemptOf call = some attempt
  obtained : calls.count (.begin attempt .ok) ≤ 1
  released : calls.countP (releases attempt) =
    if result.isSome then calls.count (.begin attempt .ok) else 0
  success : ∀ r, result = some r → r.err = .ok → .finish attempt .ok ∈ calls ∧
    .getImgDesc attempt r.appliedDesc .ok ∈ calls
  retry : ∀ r, result = some r → r.err ≠ .ok → r.shouldRetry = true → Retriable calls

/-- An attempt that gives its handle back with its last calls. -/
theorem Held.close {cfg : OtaUpdateConfig} {attempt : Nat} {desc : EspAppDesc}
    {transferred calls tail : List OtaCall} {r : OtaResult}
    (h : Held cfg attempt desc transferred calls)
    (hguarded : ∀ history, Guarded (OtaPermitted cfg) (history ++ calls) tail)
    (hown : ∀ call ∈ tail, attemptOf call = some attempt)
    (hbegin : tail.count (.begin attempt .ok) = 0)
    (hreleases : tail.countP (releases attempt) = 1)
    (hsuccess : r.err = .ok → .finish attempt .ok ∈ tail ∧ r.appliedDesc = desc)
    (hretry : r.err ≠ .ok → Retriable tail) : AttemptSpec cfg attempt (calls ++ tail) (some r) := by
  constructor
  · exact fun history hretriable =>
      guarded_append.mpr ⟨h.guarded history hretriable, hguarded history⟩
  · intro call hmem
    exact (List.mem_append.mp hmem).elim (h.own call) (hown call)
  · rw [List.count_append, h.obtained, hbegin]
  · rw [List.countP_append, h.released, hreleases, List.count_append, h.obtained, hbegin]
    rfl
  · intro r' hr hok
    cases hr
    obtain ⟨hfinish, rfl⟩ := hsuccess hok
    exact ⟨List.mem_append_right _ hfinish, List.mem_append_left _ h.described⟩
  · intro r' hr herr _
    cases hr
    obtain ⟨hfinish, hreject⟩ := h.retriable
    obtain ⟨hfinish', hreject'⟩ := hretry herr
    refine ⟨fun other hmem => ?_, fun other desc' result hmem => ?_⟩
    · exact (List.mem_append.mp hmem).elim (hfinish other) (hfinish' other)
    · exact (List.mem_append.mp hmem).elim (hreject other desc' result)
        (hreject' other desc' result)

/-- Complete data was received after the last `esp_https_ota_perform` returned `ESP_OK`. -/
theorem Held.received {cfg : OtaUpdateConfig} {attempt : Nat} {desc : EspAppDesc}
    {transferred calls : List OtaCall} (h : Held cfg attempt desc transferred calls)
    (hlast : transferred.getLast? = some (.perform attempt .ok)) (history : List OtaCall) :
    ImageReceived cfg (history ++ calls ++ [.isCompleteDataReceived attempt true]) attempt := by
  refine ⟨desc, by simp [h.described], fun hsome => by simp [h.validated hsome], ?_, by simp⟩
  have hnone : [OtaCall.isCompleteDataReceived attempt true].filter (performs attempt) = [] := rfl
  rw [List.filter_append, List.filter_append, h.performed, hnone, List.append_nil,
    List.getLast?_append, hlast]
  rfl

theorem OtaAttempt.spec {cfg : OtaUpdateConfig} {attempt : Nat} {calls : List OtaCall}
    {result : Option OtaResult} (h : OtaAttempt cfg attempt calls result) :
    AttemptSpec cfg attempt calls result := by
  cases h with
  | beginFailed herr =>
      refine ⟨fun history h => ⟨h, trivial⟩, by simp [attemptOf], by simp [herr],
        by simp [releases, herr], ?_, ?_⟩
      · intro r hr hok
        cases hr
        exact absurd hok herr
      · intro r hr _ _
        simp [Retriable]
  | notDescribed herr =>
      refine ⟨fun history h => ⟨h, trivial, by simp [OtaPermitted], trivial⟩, by simp [attemptOf],
        by simp, by simp [releases], ?_, ?_⟩
      · intro r hr hok
        cases hr
        exact absurd hok herr
      · intro r hr _ _
        simp [Retriable]
  | rejected hverdict =>
      refine ⟨fun history h => ⟨h, trivial, trivial, by simp [OtaPermitted], trivial⟩,
        by simp [attemptOf], by simp, by simp [releases], ?_, ?_⟩
      · intro r hr hok
        cases hr
        exact absurd hok hverdict
      · intro r hr _ hretry
        cases hr
        cases hretry
  | interrupted hdescribed hperforms =>
      have hheld := hdescribed.held hperforms
      exact ⟨hheld.guarded, hheld.own, hheld.obtained.le, hheld.released,
        fun r hr _ => (by cases hr), fun r hr _ _ => (by cases hr)⟩
  | transferFailed hdescribed hperforms herr =>
      have hheld := hdescribed.held hperforms
      exact hheld.close (fun history => ⟨List.mem_append_right _ hheld.begun, trivial⟩)
        (by simp [attemptOf]) (by simp) (by simp [releases]) (fun hok => absurd hok herr)
        (fun _ => by simp [Retriable])
  | incomplete hdescribed hperforms =>
      have hheld := hdescribed.held hperforms
      exact hheld.close (fun history => ⟨trivial,
          List.mem_append_left _ (List.mem_append_right _ hheld.begun), trivial⟩)
        (by simp [attemptOf]) (by simp) (by simp [releases]) (fun hok => by cases hok)
        (fun _ => by simp [Retriable])
  | finished hdescribed hperforms hlast happlied =>
      have hheld := hdescribed.held hperforms
      exact hheld.close (fun history => ⟨trivial,
          ⟨List.mem_append_left _ (List.mem_append_right _ hheld.begun),
            hheld.received hlast history⟩, trivial⟩)
        (by simp [attemptOf]) (by simp) (by simp [releases])
        (fun hok => ⟨by simp [hok], happlied hok⟩)
        (fun herr => by simp [Retriable, Ne.symm herr])

section Run

variable {cfg : OtaUpdateConfig} {runningApp : Option EspAppDesc} {storedVersion : Option Bytes}

/-- Storing the version after a finished attempt is permitted and touches no handle. -/
theorem otaStoreCalls_spec {history : List OtaCall} {attempt : Nat} {desc : EspAppDesc}
    (hfinish : .finish attempt .ok ∈ history) (hdesc : .getImgDesc attempt desc .ok ∈ history)
    (transfer : OtaTransfer) :
    Guarded (OtaPermitted cfg) history
        (otaStoreCalls (Octets.cString desc.version.toList) transfer) ∧
      ∀ call ∈ otaStoreCalls (Octets.cString desc.version.toList) transfer,
        (∀ other, call ≠ .begin other .ok ∧ releases other call = false) ∧
          call ≠ .freeConfig ∧ call ≠ .restart := by
  unfold otaStoreCalls
  split
  · exact ⟨⟨trivial, trivial⟩, by simp [releases]⟩
  · have hset : OtaPermitted cfg (history ++ [.nvsOpen transfer.nvsOpenResult])
        (.nvsSetStr (Octets.cString desc.version.toList) transfer.nvsSetResult) :=
      ⟨attempt, desc, List.mem_append_left _ hfinish, List.mem_append_left _ hdesc, rfl⟩
    split
    · exact ⟨⟨trivial, hset, trivial, trivial⟩, by simp [releases]⟩
    · exact ⟨⟨trivial, hset, trivial⟩, by simp [releases]⟩

/-- What holds of the calls of `ota_task` from an attempt on. -/
structure TaskSpec (cfg : OtaUpdateConfig) (attempt : Nat) (calls : List OtaCall)
    (ended : Bool) : Prop where
  guarded : ∀ history, Retriable history → Guarded (OtaPermitted cfg) history calls
  earlier : ∀ other, other < attempt →
    calls.count (.begin other .ok) = 0 ∧ calls.countP (releases other) = 0
  obtained : ∀ other, calls.count (.begin other .ok) ≤ 1
  released : ∀ other, calls.countP (releases other) ≤ calls.count (.begin other .ok) ∧
    (ended = true → calls.countP (releases other) = calls.count (.begin other .ok))
  freed : calls.count .freeConfig = if ended = true ∧ .restart ∉ calls then 1 else 0

/-- The task ends behind an attempt. -/
theorem AttemptSpec.last {attempt : Nat} {calls tail : List OtaCall} {r : OtaResult}
    (h : AttemptSpec cfg attempt calls (some r))
    (hguarded : ∀ history, Guarded (OtaPermitted cfg) (history ++ calls) tail)
    (hquiet : ∀ call ∈ tail, ∀ other, call ≠ .begin other .ok ∧ releases other call = false)
    (hfreed : tail.count .freeConfig = if .restart ∈ tail then 0 else 1) :
    TaskSpec cfg attempt (calls ++ tail) true := by
  obtain ⟨hother, hfree, hrestart⟩ := count_of_attempt h.own
  have hbegins : ∀ other, tail.count (.begin other .ok) = 0 := fun other =>
    List.count_eq_zero.mpr fun hmem => (hquiet _ hmem other).1 rfl
  have hreleases : ∀ other, tail.countP (releases other) = 0 := fun other =>
    List.countP_eq_zero.mpr fun call hmem => by simp [(hquiet call hmem other).2]
  have hsame : ∀ other, calls.countP (releases other) = calls.count (.begin other .ok) := by
    intro other
    by_cases heq : other = attempt
    · rw [heq, h.released]
      rfl
    · rw [(hother other heq).1, (hother other heq).2]
  constructor
  · exact fun history hretriable =>
      guarded_append.mpr ⟨h.guarded history hretriable, hguarded history⟩
  · intro other hlt
    rw [List.count_append, List.countP_append, hbegins, hreleases,
      (hother other (by omega)).1, (hother other (by omega)).2]
    exact ⟨rfl, rfl⟩
  · intro other
    rw [List.count_append, hbegins]
    by_cases heq : other = attempt
    · rw [heq]
      exact h.obtained
    · rw [(hother other heq).1]
      exact Nat.zero_le 1
  · intro other
    rw [List.count_append, List.countP_append, hbegins, hreleases, hsame]
    exact ⟨le_rfl, fun _ => rfl⟩
  · rw [List.count_append, hfree, hfreed, Nat.zero_add]
    by_cases htail : .restart ∈ tail <;> simp [htail, hrestart]

/-- The answers run out during an attempt. -/
theorem AttemptSpec.cut {attempt : Nat} {calls : List OtaCall}
    (h : AttemptSpec cfg attempt calls none) : TaskSpec cfg attempt calls false := by
  obtain ⟨hother, hfree, -⟩ := count_of_attempt h.own
  have hreleases : ∀ other, calls.countP (releases other) = 0 := by
    intro other
    by_cases heq : other = attempt
    · rw [heq, h.released]
      rfl
    · exact (hother other heq).2
  refine ⟨h.guarded, fun other hlt => hother other (by omega), fun other => ?_, fun other => ?_,
    by simpa using hfree⟩
  · by_cases heq : other = attempt
    · rw [heq]
      exact h.obtained
    · rw [(hother other heq).1]
      exact Nat.zero_le 1
  · rw [hreleases]
    exact ⟨Nat.zero_le _, by simp⟩

/-- Another attempt follows. -/
theorem AttemptSpec.next {attempt : Nat} {calls later : List OtaCall} {ended : Bool}
    {r : OtaResult} (h : AttemptSpec cfg attempt calls (some r)) (hretriable : Retriable calls)
    (hlater : TaskSpec cfg (attempt + 1) later ended) :
    TaskSpec cfg attempt (calls ++ later) ended := by
  obtain ⟨hother, hfree, hrestart⟩ := count_of_attempt h.own
  obtain ⟨hbegin, hreleases⟩ := hlater.earlier attempt (Nat.lt_succ_self attempt)
  constructor
  · intro history hhistory
    refine guarded_append.mpr ⟨h.guarded history hhistory, hlater.guarded _ ⟨?_, ?_⟩⟩
    · intro other hmem
      exact (List.mem_append.mp hmem).elim (hhistory.1 other) (hretriable.1 other)
    · intro other desc result hmem
      exact (List.mem_append.mp hmem).elim (hhistory.2 other desc result)
        (hretriable.2 other desc result)
  · intro other hlt
    obtain ⟨hbegin', hreleases'⟩ := hlater.earlier other (by omega)
    rw [List.count_append, List.countP_append, hbegin', hreleases', (hother other (by omega)).1,
      (hother other (by omega)).2]
    exact ⟨rfl, rfl⟩
  · intro other
    rw [List.count_append]
    by_cases heq : other = attempt
    · rw [heq, hbegin]
      exact h.obtained
    · rw [(hother other heq).1, Nat.zero_add]
      exact hlater.obtained other
  · intro other
    rw [List.count_append, List.countP_append]
    by_cases heq : other = attempt
    · rw [heq, hbegin, hreleases, h.released]
      exact ⟨le_rfl, fun _ => rfl⟩
    · rw [(hother other heq).1, (hother other heq).2, Nat.zero_add, Nat.zero_add]
      exact hlater.released other
  · rw [List.count_append, hfree, hlater.freed, Nat.zero_add]
    simp [hrestart]

/-- The loop of `ota_task` follows the protocol from every attempt on. -/
theorem otaTaskCalls_spec (attempt : Nat) (transfers : List OtaTransfer) :
    TaskSpec cfg attempt (otaTaskCalls cfg runningApp storedVersion attempt transfers).1
      (otaTaskCalls cfg runningApp storedVersion attempt transfers).2 := by
  induction transfers generalizing attempt with
  | nil =>
      refine ⟨fun _ _ => trivial, fun _ _ => ⟨rfl, rfl⟩, fun _ => Nat.zero_le 1, fun _ => ?_, rfl⟩
      exact ⟨le_rfl, fun _ => rfl⟩
  | cons transfer rest ih =>
      have hspec := (@otaUpdateCalls_case cfg runningApp storedVersion attempt transfer).spec
      rw [otaTaskCalls]
      split
      case h_1 calls hcalls =>
        rw [hcalls] at hspec
        exact hspec.cut
      case h_2 calls result hcalls =>
        rw [hcalls] at hspec
        split
        case isTrue hok =>
          obtain ⟨hfinish, hdesc⟩ := hspec.success result rfl hok
          rw [List.append_assoc]
          refine hspec.last (fun history => ?_) ?_ ?_
          · obtain ⟨hstore, -⟩ := @otaStoreCalls_spec cfg (history ++ calls) attempt
              result.appliedDesc (List.mem_append_right _ hfinish)
              (List.mem_append_right _ hdesc) transfer
            refine guarded_append.mpr ⟨hstore, ?_⟩
            split
            · exact ⟨⟨attempt, List.mem_append_left _ (List.mem_append_right _ hfinish)⟩, trivial⟩
            · exact ⟨trivial, trivial⟩
          · obtain ⟨-, hquiet⟩ := @otaStoreCalls_spec cfg calls attempt result.appliedDesc hfinish
              hdesc transfer
            intro call hmem other
            rcases List.mem_append.mp hmem with hmem | hmem
            · exact (hquiet call hmem).1 other
            · split at hmem <;> rw [List.mem_singleton.mp hmem] <;> simp [releases]
          · obtain ⟨-, hquiet⟩ := @otaStoreCalls_spec cfg calls attempt result.appliedDesc hfinish
              hdesc transfer
            have hfree : (otaStoreCalls (Octets.cString result.appliedDesc.version.toList)
                transfer).count .freeConfig = 0 :=
              List.count_eq_zero.mpr fun hmem => (hquiet _ hmem).2.1 rfl
            have hrestart : .restart ∉ otaStoreCalls
                (Octets.cString result.appliedDesc.version.toList) transfer :=
              fun hmem => (hquiet _ hmem).2.2 rfl
            rw [List.count_append, hfree, Nat.zero_add]
            cases cfg.autoReboot <;> simp [hrestart]
        case isFalse herr =>
          split
          case isTrue hstop =>
            exact hspec.last (fun _ => ⟨trivial, trivial⟩) (by simp [releases]) (by simp)
          case isFalse hretry =>
            split
            case isTrue hmore =>
              exact hspec.next (hspec.retry result rfl herr (by simpa using hretry)) (ih _)
            case isFalse hmax =>
              exact hspec.last (fun _ => ⟨trivial, trivial⟩) (by simp [releases]) (by simp)

/-- An attempt returns when the loop around `esp_https_ota_perform` gets an answer that ends it. -/
theorem otaPerformUpdate_isSome {transfer : OtaTransfer}
    (h : ∃ err ∈ transfer.performResults, err ≠ .httpsOtaInProgress) :
    otaPerformUpdate cfg runningApp storedVersion transfer ≠ none := by
  have hloop : ∀ results : List EspErr, (∃ err ∈ results, err ≠ .httpsOtaInProgress) →
      otaPerformLoop results ≠ none := by
    intro results
    induction results with
    | nil => simp
    | cons first rest ih =>
        rintro ⟨err, hmem, herr⟩
        simp only [otaPerformLoop]
        split
        case isTrue hfirst =>
          rcases List.mem_cons.mp hmem with rfl | hmem
          · exact absurd hfirst herr
          · exact ih ⟨err, hmem, herr⟩
        case isFalse => simp
  intro hnone
  cases hended : otaPerformLoop transfer.performResults with
  | none => exact hloop _ h hended
  | some err =>
      simp only [otaPerformUpdate, hended] at hnone
      split_ifs at hnone

/-- With enough answers the task comes to its end: each `esp_https_ota_perform` loop ends, and
there is one set of answers for each attempt it may make. -/
theorem otaTaskCalls_ends (attempt : Nat) (transfers : List OtaTransfer)
    (hperforms : ∀ transfer ∈ transfers,
      ∃ err ∈ transfer.performResults, err ≠ .httpsOtaInProgress)
    (hattempts : otaMaxAttempts cfg < attempt + transfers.length) (hne : transfers ≠ []) :
    (otaTaskCalls cfg runningApp storedVersion attempt transfers).2 = true := by
  induction transfers generalizing attempt with
  | nil => exact absurd rfl hne
  | cons transfer rest ih =>
      rw [otaTaskCalls]
      split
      case h_1 calls hcalls =>
        have hnone := @otaUpdateCalls_result cfg runningApp storedVersion attempt transfer
        rw [hcalls] at hnone
        exact absurd hnone.symm (otaPerformUpdate_isSome (hperforms transfer List.mem_cons_self))
      case h_2 calls result hcalls =>
        split
        · rfl
        · split
          · rfl
          · split
            case isTrue hmore =>
              refine ih (attempt + 1) (fun other hmem =>
                hperforms other (List.mem_cons_of_mem _ hmem))
                ?_ ?_
              · simp only [List.length_cons] at hattempts
                omega
              · rintro rfl
                simp only [List.length_cons, List.length_nil] at hattempts
                omega
            · rfl

end Run

/-- One run of `ota_task`, with any configuration, any answers and any attempts. Its calls follow
the protocol; every handle is released at most once, and exactly once when the task comes to its
end, as is the configuration freed unless the chip restarts; and it does come to its end when no
transfer is in progress for ever. -/
theorem ota_session_protocol (cfg : OtaUpdateConfig) (runningApp : Option EspAppDesc)
    (storedVersion : Option Bytes) (transfers : List OtaTransfer) :
    let run := otaTaskCalls cfg runningApp storedVersion 1 transfers
    (∀ before call after, run.1 = before ++ call :: after → OtaPermitted cfg before call) ∧
      (∀ attempt, run.1.count (.begin attempt .ok) ≤ 1 ∧
        run.1.countP (releases attempt) ≤ run.1.count (.begin attempt .ok) ∧
        (run.2 = true →
          run.1.countP (releases attempt) = run.1.count (.begin attempt .ok))) ∧
      run.1.count .freeConfig = (if run.2 = true ∧ .restart ∉ run.1 then 1 else 0) ∧
      ((∀ transfer ∈ transfers, ∃ err ∈ transfer.performResults, err ≠ .httpsOtaInProgress) →
        otaMaxAttempts cfg ≤ transfers.length → run.2 = true) := by
  intro run
  have hspec := @otaTaskCalls_spec cfg runningApp storedVersion 1 transfers
  refine ⟨?_, fun attempt => ?_, hspec.freed, fun hperforms hlength => ?_⟩
  · have hguarded := guarded_iff.mp (hspec.guarded [] (by simp [Retriable]))
    exact fun before call after hsplit => hguarded before call after hsplit
  · exact ⟨hspec.obtained attempt, hspec.released attempt⟩
  · have hpositive : 0 < otaMaxAttempts cfg := by
      unfold otaMaxAttempts
      split
      case isTrue hne =>
        have hnat : cfg.maxRetries.toNat ≠ 0 := fun h => hne (UInt8.toNat_inj.mp h)
        omega
      case isFalse => omega
    refine otaTaskCalls_ends 1 transfers hperforms (by omega) ?_
    rintro rfl
    simp at hlength
    omega

end SensorHmi
