import SensorHmi.Platform

/-!
# Connecting to Wi-Fi

`common/net/wifi_manager.c`: the event handler and `wifi_manager_start`. Calls under
`ESP_ERROR_CHECK` succeed or restart the chip and are left out, as are the settings that are only
handed on to the driver. The events come with the waits of the connect loop.

On a device that is already provisioned `WIFI_PROV_DONE_BIT` stays set, so a wait that times out
does not return zero and is not counted: `leaves_after_attempts_iff`.
-/

namespace SensorHmi

/-- The bits of `s_wifi_event_group`. -/
structure WifiBits where
  connected : Bool := false
  fail : Bool := false
  provDone : Bool := false
  deriving DecidableEq

/-- The statics of `wifi_manager.c`. -/
structure WifiManager where
  bits : WifiBits := {}
  connected : Bool := false
  reconnectTimer : Bool := false
  backoffMs : UInt32 := 1000
  forceReprovision : Bool := false
  deriving DecidableEq

/-- What `wifi_event_handler` tells apart. -/
inductive WifiEvent
  | staStart
  | staDisconnected
  | staGotIp
  | other
  deriving DecidableEq

/-- `wifi_event_handler` -/
def wifiEventHandler (mgr : WifiManager) : WifiEvent → WifiManager
  | .staDisconnected =>
      { mgr with
        connected := false, bits := { mgr.bits with connected := false, fail := true }
        backoffMs :=
          if mgr.reconnectTimer && mgr.backoffMs < 32000 then mgr.backoffMs * 2
          else mgr.backoffMs }
  | .staGotIp =>
      { mgr with connected := true, backoffMs := 1000, bits := { mgr.bits with connected := true } }
  | .staStart | .other => mgr

/-- `wifi_manager_config_t`, as far as it decides anything here. -/
structure WifiManagerConfig where
  forceProvisioning : Bool := false
  connectTimeoutMs : UInt32 := 0
  maxConnectAttempts : UInt8 := 0
  saltLen : Nat
  verifierLen : Nat

/-- What `wifi_manager_start` meets before it connects: the driver already runs, the results of
its initialisation and of the two registrations, what the provisioning manager says, and whether
provisioning succeeds in time. -/
structure WifiStartOutcome where
  alreadyInitialised : Bool := false
  initResult : EspErr := .ok
  wifiRegisterResult : EspErr := .ok
  ipRegisterResult : EspErr := .ok
  isProvisioned : Bool
  provisioningSucceeds : Bool := true

/-- One wait of the connect loop: the events since the wait before, and the event that comes while
the task waits. -/
structure ConnectWait where
  before : List WifiEvent := []
  during : Option WifiEvent := none

/-- `xEventGroupWaitBits` for `WIFI_CONNECTED_BIT | WIFI_FAIL_BIT` with clear on exit: the bits at
the time one of the two is set, or all bits when the wait times out. -/
def waitConnectedOrFail (mgr : WifiManager) (during : Option WifiEvent) :
    WifiBits × WifiManager :=
  let cleared (mgr : WifiManager) : WifiManager :=
    { mgr with bits := { mgr.bits with connected := false, fail := false } }
  if mgr.bits.connected || mgr.bits.fail then (mgr.bits, cleared mgr)
  else match during with
    | none => (mgr.bits, mgr)
    | some event =>
        let mgr := wifiEventHandler mgr event
        if mgr.bits.connected || mgr.bits.fail then (mgr.bits, cleared mgr) else (mgr.bits, mgr)

/-- One turn of the connect loop: what it returns, if it does, and the attempts counted. -/
def connectTurn (config : WifiManagerConfig) (attempts : UInt32) (mgr : WifiManager)
    (wait : ConnectWait) : Option EspErr × UInt32 × WifiManager :=
  let (bits, mgr) := waitConnectedOrFail (wait.before.foldl wifiEventHandler mgr) wait.during
  if bits.connected then (some .ok, attempts, mgr)
  else
    let counted := bits = {} ∨ bits.fail = true
    if counted then
      let attempts := attempts + 1
      if config.maxConnectAttempts ≠ 0 ∧ config.maxConnectAttempts.toUInt32 ≤ attempts then
        (some .timeout, attempts, mgr)
      else (none, attempts, mgr)
    else (none, attempts, mgr)

/-- A wait without a timeout whose bits are never set. -/
def WaitsForEver (config : WifiManagerConfig) (mgr : WifiManager) (wait : ConnectWait) : Prop :=
  config.connectTimeoutMs = 0 ∧
    let bits := (waitConnectedOrFail (wait.before.foldl wifiEventHandler mgr) wait.during).1
    bits.connected = false ∧ bits.fail = false

instance (config : WifiManagerConfig) (mgr : WifiManager) (wait : ConnectWait) :
    Decidable (WaitsForEver config mgr wait) :=
  inferInstanceAs (Decidable (_ ∧ _ ∧ _))

/-- The connect loop over some waits: what it returned, unless it is still waiting. -/
def connectLoop (config : WifiManagerConfig) :
    (attempts : UInt32) → WifiManager → List ConnectWait → Option EspErr
  | _, _, [] => none
  | attempts, mgr, wait :: rest =>
      if WaitsForEver config mgr wait then none
      else match connectTurn config attempts mgr wait with
      | (some err, _, _) => some err
      | (none, attempts, mgr) => connectLoop config attempts mgr rest

/-- `wifi_manager_start` up to the connect loop: an error, or the statics the loop starts with. -/
def wifiManagerPrepare (config : WifiManagerConfig) (outcome : WifiStartOutcome)
    (mgr : WifiManager) : Except EspErr WifiManager :=
  if outcome.alreadyInitialised then .error .invalidState
  else if outcome.initResult ≠ .ok then .error outcome.initResult
  else
    let mgr := { mgr with reconnectTimer := true }
    if outcome.wifiRegisterResult ≠ .ok ∧ outcome.wifiRegisterResult ≠ .invalidState then
      .error outcome.wifiRegisterResult
    else if outcome.ipRegisterResult ≠ .ok ∧ outcome.ipRegisterResult ≠ .invalidState then
      .error outcome.ipRegisterResult
    else
      let provisioned :=
        outcome.isProvisioned && !(mgr.forceReprovision || config.forceProvisioning)
      if !provisioned then
        if 65535 < config.saltLen ∨ 65535 < config.verifierLen then .error .invalidSize
        else if !outcome.provisioningSucceeds then .error .timeout
        else
          -- the wait for WIFI_PROV_DONE_BIT clears the bit it waited for
          .ok { mgr with bits := {}, forceReprovision := false }
      else .ok { mgr with bits := { connected := false, fail := false, provDone := true } }

/-- `wifi_manager_start` over some waits of its connect loop. -/
def wifiManagerStart (config : WifiManagerConfig) (outcome : WifiStartOutcome) (mgr : WifiManager)
    (waits : List ConnectWait) : Option EspErr :=
  match wifiManagerPrepare config outcome mgr with
  | .error err => some err
  | .ok mgr => connectLoop config 0 mgr waits

/-- The device uses stored credentials: it is provisioned and nothing asks to do it again. -/
def UsesStored (config : WifiManagerConfig) (outcome : WifiStartOutcome) (mgr : WifiManager) :
    Prop :=
  outcome.isProvisioned = true ∧ mgr.forceReprovision = false ∧ config.forceProvisioning = false

instance (config : WifiManagerConfig) (outcome : WifiStartOutcome) (mgr : WifiManager) :
    Decidable (UsesStored config outcome mgr) :=
  inferInstanceAs (Decidable (_ ∧ _ ∧ _))

/-- A disconnect came before the wait was over. -/
def ConnectWait.SeesDisconnect (wait : ConnectWait) : Prop :=
  .staDisconnected ∈ wait.before ∨ wait.during = some .staDisconnected

instance (wait : ConnectWait) : Decidable wait.SeesDisconnect :=
  inferInstanceAs (Decidable (_ ∨ _))

/-- No address is obtained, so that `WIFI_CONNECTED_BIT` is never set. -/
def ConnectWait.NeverConnects (wait : ConnectWait) : Prop :=
  .staGotIp ∉ wait.before ∧ wait.during ≠ some .staGotIp

/-- The first waits of a sequence. -/
def firstWaits (waits : Nat → ConnectWait) (n : Nat) : List ConnectWait :=
  (List.range n).map waits

/-- The loop is still waiting before wait number `m` is over and returns `ESP_ERR_TIMEOUT` then. -/
def LeavesAfter (run : List ConnectWait → Option EspErr) (waits : Nat → ConnectWait) (m : Nat) :
    Prop :=
  (∀ n < m, run (firstWaits waits n) = none) ∧ run (firstWaits waits m) = some .timeout

section Handler

variable {mgr : WifiManager} {events : List WifiEvent}

/-- Without an address, events leave the connected bit and the provisioning bit alone, and set the
failure bit exactly when one is a disconnect. -/
theorem foldl_wifiEventHandler (hclear : mgr.bits.connected = false)
    (hnever : .staGotIp ∉ events) :
    (events.foldl wifiEventHandler mgr).bits =
      { mgr.bits with fail := mgr.bits.fail || decide (.staDisconnected ∈ events) } := by
  induction events generalizing mgr with
  | nil => simp
  | cons event rest ih =>
      have hrest : .staGotIp ∉ rest := fun h => hnever (List.mem_cons_of_mem _ h)
      have hkeep : (wifiEventHandler mgr event).bits.connected = false := by
        cases event with
        | staGotIp => exact absurd List.mem_cons_self hnever
        | staDisconnected => rfl
        | staStart | other => exact hclear
      rw [List.foldl_cons, ih hkeep hrest]
      cases event with
      | staGotIp => exact absurd List.mem_cons_self hnever
      | staDisconnected => simp [wifiEventHandler, hclear]
      | staStart | other => simp [wifiEventHandler]

/-- A wait that no address ends returns the failure bit exactly when it sees a disconnect, next to
the provisioning bit, and leaves the provisioning bit. -/
theorem waitConnectedOrFail_spec {wait : ConnectWait} {provDone : Bool}
    (hbits : mgr.bits = ⟨false, false, provDone⟩) (hnever : wait.NeverConnects) :
    let result := waitConnectedOrFail (wait.before.foldl wifiEventHandler mgr) wait.during
    result.1 = ⟨false, decide wait.SeesDisconnect, provDone⟩ ∧
      result.2.bits = ⟨false, false, provDone⟩ := by
  have hbefore := @foldl_wifiEventHandler mgr wait.before (by rw [hbits]) hnever.1
  rw [hbits] at hbefore
  simp only [Bool.false_or] at hbefore
  generalize wait.before.foldl wifiEventHandler mgr = before at hbefore
  by_cases hdown : .staDisconnected ∈ wait.before
  · have hsees : wait.SeesDisconnect := .inl hdown
    simp [waitConnectedOrFail, hbefore, hdown, hsees]
  · cases hduring : wait.during with
    | none =>
        have hquiet : ¬ wait.SeesDisconnect := by
          rintro (h | h)
          · exact hdown h
          · rw [hduring] at h
            cases h
        simp [waitConnectedOrFail, hbefore, hdown, hquiet]
    | some event =>
        cases event with
        | staGotIp => exact absurd hduring hnever.2
        | staDisconnected =>
            have hsees : wait.SeesDisconnect := .inr hduring
            simp [waitConnectedOrFail, wifiEventHandler, hbefore, hdown, hsees]
        | staStart | other =>
            have hquiet : ¬ wait.SeesDisconnect := by
              rintro (h | h)
              · exact hdown h
              · rw [hduring] at h
                cases h
            simp [waitConnectedOrFail, wifiEventHandler, hbefore, hdown, hquiet]

end Handler

section Loop

variable {config : WifiManagerConfig} {attempts : UInt32} {mgr : WifiManager} {provDone : Bool}

/-- A wait is counted: it sees a disconnect, or it times out with no bit set at all. -/
def Counts (provDone : Bool) (wait : ConnectWait) : Prop :=
  provDone = false ∨ wait.SeesDisconnect

instance (provDone : Bool) : DecidablePred (Counts provDone) :=
  fun wait => inferInstanceAs (Decidable (provDone = false ∨ wait.SeesDisconnect))

/-- One turn that no address ends. -/
theorem connectTurn_spec {wait : ConnectWait} (hbits : mgr.bits = ⟨false, false, provDone⟩)
    (hnever : wait.NeverConnects) :
    ∃ mgr', mgr'.bits = ⟨false, false, provDone⟩ ∧ connectTurn config attempts mgr wait =
      if Counts provDone wait then
        if config.maxConnectAttempts ≠ 0 ∧ config.maxConnectAttempts.toUInt32 ≤ attempts + 1 then
          (some .timeout, attempts + 1, mgr')
        else (none, attempts + 1, mgr')
      else (none, attempts, mgr') := by
  obtain ⟨hreturned, hleft⟩ := waitConnectedOrFail_spec hbits hnever
  refine ⟨_, hleft, ?_⟩
  have hcounts : ((⟨false, decide wait.SeesDisconnect, provDone⟩ : WifiBits) = {} ∨
      decide wait.SeesDisconnect = true) = Counts provDone wait := by
    rw [eq_iff_iff]
    by_cases hsees : wait.SeesDisconnect <;> simp [Counts, hsees]
  simp only [connectTurn, hreturned, Bool.false_eq_true, if_false, hcounts]

/-- The loop returns when the counted waits reach the limit, and not before. -/
theorem connectLoop_spec (hmax : config.maxConnectAttempts ≠ 0)
    (htimeout : config.connectTimeoutMs ≠ 0) {waits : List ConnectWait}
    (hnever : ∀ wait ∈ waits, wait.NeverConnects) (hbits : mgr.bits = ⟨false, false, provDone⟩)
    (hattempts : attempts.toNat < config.maxConnectAttempts.toNat) :
    connectLoop config attempts mgr waits =
      if config.maxConnectAttempts.toNat ≤
          attempts.toNat + waits.countP (fun wait => Counts provDone wait) then
        some .timeout
      else none := by
  induction waits generalizing attempts mgr with
  | nil => simp [connectLoop, hattempts]
  | cons wait rest ih =>
      have hwaits : ¬ WaitsForEver config mgr wait := fun h => htimeout h.1
      obtain ⟨mgr', hleft, hturn⟩ :=
        @connectTurn_spec config attempts mgr provDone wait hbits
          (hnever wait List.mem_cons_self)
      have hrest : ∀ wait ∈ rest, wait.NeverConnects :=
        fun wait hmem => hnever wait (List.mem_cons_of_mem _ hmem)
      have hsmall : config.maxConnectAttempts.toNat < 256 := config.maxConnectAttempts.toNat_lt
      have hnext : (attempts + 1).toNat = attempts.toNat + 1 := by
        rw [UInt32.toNat_add, UInt32.toNat_one, Nat.mod_eq_of_lt (by omega)]
      have hreach : config.maxConnectAttempts.toUInt32 ≤ attempts + 1 ↔
          config.maxConnectAttempts.toNat ≤ attempts.toNat + 1 := by
        rw [UInt32.le_iff_toNat_le, hnext, UInt8.toNat_toUInt32]
      rw [connectLoop, if_neg hwaits, hturn, List.countP_cons]
      simp only [decide_eq_true_eq]
      by_cases hcount : Counts provDone wait
      · simp only [if_pos hcount]
        by_cases hreached : config.maxConnectAttempts.toNat ≤ attempts.toNat + 1
        · rw [if_pos ⟨hmax, hreach.mpr hreached⟩, if_pos (by omega)]
        · rw [if_neg fun h => hreached (hreach.mp h.2)]
          show connectLoop config (attempts + 1) mgr' rest = _
          rw [ih hrest hleft (by omega), hnext, Nat.add_right_comm, Nat.add_assoc]
      · simp only [if_neg hcount]
        show connectLoop config attempts mgr' rest = _
        rw [ih hrest hleft hattempts, Nat.add_zero]

/-- What the connect loop starts with: the provisioning bit is set when stored credentials are
used, no other bit. -/
theorem wifiManagerPrepare_bits {outcome : WifiStartOutcome} {started : WifiManager}
    (hstarted : wifiManagerPrepare config outcome mgr = .ok started) :
    started.bits = ⟨false, false, decide (UsesStored config outcome mgr)⟩ := by
  simp only [wifiManagerPrepare, UsesStored] at hstarted ⊢
  split_ifs at hstarted with _ _ _ _ hnew _ hfailed
  · rw [← Except.ok.inj hstarted]
    simp only [Bool.not_eq_true', Bool.and_eq_false_iff, Bool.not_eq_false', Bool.or_eq_true]
      at hnew
    rcases hnew with h | h | h <;> simp [h]
  · rw [← Except.ok.inj hstarted]
    simp only [Bool.not_eq_true', Bool.not_eq_false, Bool.and_eq_true, Bool.or_eq_false_iff]
      at hnew
    simp [hnew]

end Loop

section Counting

variable {waits : Nat → ConnectWait} {counts : ConnectWait → Prop} [DecidablePred counts]

/-- All of the first waits count exactly when there are as many counted ones. -/
theorem countP_firstWaits_eq {n : Nat} :
    n ≤ (firstWaits waits n).countP (fun wait => counts wait) ↔ ∀ k < n, counts (waits k) := by
  have hlen : (firstWaits waits n).length = n := by simp [firstWaits]
  have hle := @List.countP_le_length _ (fun wait => decide (counts wait)) (firstWaits waits n)
  have hall := @List.countP_eq_length _ (firstWaits waits n) (fun wait => decide (counts wait))
  constructor
  · intro h k hk
    have hmem : waits k ∈ firstWaits waits n :=
      List.mem_map.mpr ⟨k, List.mem_range.mpr hk, rfl⟩
    simpa using hall.mp (by omega) (waits k) hmem
  · intro h
    have heq := hall.mpr fun wait hmem => by
      obtain ⟨k, hk, rfl⟩ := List.mem_map.mp hmem
      simpa using h k (List.mem_range.mp hk)
    omega

theorem countP_firstWaits_le {n : Nat} :
    (firstWaits waits n).countP (fun wait => counts wait) ≤ n := by
  have h := @List.countP_le_length _ (fun wait => decide (counts wait)) (firstWaits waits n)
  rwa [firstWaits, List.length_map, List.length_range] at h

end Counting

section Start

variable {config : WifiManagerConfig} {outcome : WifiStartOutcome} {mgr started : WifiManager}
  {waits : Nat → ConnectWait}

/-- A started manager that gets no address returns when the counted waits reach the limit. -/
theorem wifiManagerStart_spec (hmax : config.maxConnectAttempts ≠ 0)
    (htimeout : config.connectTimeoutMs ≠ 0)
    (hstarted : wifiManagerPrepare config outcome mgr = .ok started)
    (hnever : ∀ n, (waits n).NeverConnects) (n : Nat) :
    wifiManagerStart config outcome mgr (firstWaits waits n) =
      if config.maxConnectAttempts.toNat ≤ (firstWaits waits n).countP
          (fun wait => Counts (decide (UsesStored config outcome mgr)) wait) then
        some .timeout
      else none := by
  have hpos : 0 < config.maxConnectAttempts.toNat :=
    Nat.pos_of_ne_zero fun h => hmax (UInt8.toNat_inj.mp h)
  have hall : ∀ wait ∈ firstWaits waits n, wait.NeverConnects := by
    intro wait hmem
    obtain ⟨k, -, rfl⟩ := List.mem_map.mp hmem
    exact hnever k
  have hloop := @connectLoop_spec config 0 started _ hmax htimeout _ hall
    (wifiManagerPrepare_bits hstarted) hpos
  simpa only [wifiManagerStart, hstarted, UInt32.toNat_zero, Nat.zero_add] using hloop

/-- With stored credentials and an access point that never answers, not even with a disconnect,
the loop waits for ever. -/
theorem stored_never_leaves (hmax : config.maxConnectAttempts ≠ 0)
    (htimeout : config.connectTimeoutMs ≠ 0)
    (hstarted : wifiManagerPrepare config outcome mgr = .ok started)
    (hnever : ∀ n, (waits n).NeverConnects) (hstored : UsesStored config outcome mgr)
    (hsilent : ∀ n, ¬ (waits n).SeesDisconnect) (n : Nat) :
    wifiManagerStart config outcome mgr (firstWaits waits n) = none := by
  have hnone : (firstWaits waits n).countP
      (fun wait => Counts (decide (UsesStored config outcome mgr)) wait) = 0 := by
    rw [List.countP_eq_zero]
    intro wait hmem
    obtain ⟨k, -, rfl⟩ := List.mem_map.mp hmem
    simp [Counts, hstored, hsilent]
  rw [wifiManagerStart_spec hmax htimeout hstarted hnever, hnone, if_neg]
  exact Nat.not_le.mpr (Nat.pos_of_ne_zero fun h => hmax (UInt8.toNat_inj.mp h))

/-- On every sequence of waits without an address the loop leaves with `ESP_ERR_TIMEOUT` after
exactly as many waits as attempts are allowed, if and only if the device was just provisioned or
each of these waits sees a disconnect. -/
theorem leaves_after_attempts_iff (hmax : config.maxConnectAttempts ≠ 0)
    (htimeout : config.connectTimeoutMs ≠ 0)
    (hstarted : wifiManagerPrepare config outcome mgr = .ok started)
    (hnever : ∀ n, (waits n).NeverConnects) :
    LeavesAfter (wifiManagerStart config outcome mgr) waits config.maxConnectAttempts.toNat ↔
      ¬ UsesStored config outcome mgr ∨
        ∀ n < config.maxConnectAttempts.toNat, (waits n).SeesDisconnect := by
  have hearly : ∀ n < config.maxConnectAttempts.toNat,
      wifiManagerStart config outcome mgr (firstWaits waits n) = none := by
    intro n hn
    rw [wifiManagerStart_spec hmax htimeout hstarted hnever, if_neg]
    exact Nat.not_le.mpr (Nat.lt_of_le_of_lt countP_firstWaits_le hn)
  have hlast : wifiManagerStart config outcome mgr
      (firstWaits waits config.maxConnectAttempts.toNat) = some .timeout ↔
      ∀ n < config.maxConnectAttempts.toNat,
        Counts (decide (UsesStored config outcome mgr)) (waits n) := by
    rw [wifiManagerStart_spec hmax htimeout hstarted hnever, ← countP_firstWaits_eq]
    simp
  rw [LeavesAfter, and_iff_right hearly, hlast]
  by_cases hstored : UsesStored config outcome mgr
  · simp [Counts, hstored]
  · simp [Counts, hstored]

theorem leaves_after_attempts_just_provisioned :
    LeavesAfter (wifiManagerStart ⟨false, 1000, 3, 16, 384⟩ { isProvisioned := false } {})
      (fun _ => {}) 3 :=
  (@leaves_after_attempts_iff ⟨false, 1000, 3, 16, 384⟩ { isProvisioned := false } {} _
    (fun _ => {}) (by decide) (by decide) rfl (fun _ => ⟨List.not_mem_nil, nofun⟩)).mpr
    (.inl (by decide))

/-- One attempt is allowed, the provisioned device times out once, and the loop waits on. -/
theorem stored_credentials_attempt_not_counted :
    ¬ LeavesAfter (wifiManagerStart ⟨false, 1000, 1, 16, 384⟩ { isProvisioned := true } {})
      (fun _ => {}) 1 :=
  fun h => absurd h.2 (by decide)

end Start

end SensorHmi
