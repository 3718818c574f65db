import SensorHmi.Lib.Machine
import SensorHmi.Lib.Octets
import SensorHmi.Platform

/-!
# The discovery cache of the HMI

`load_cached_service`, `store_cached_service` and `invalidate_cached_service` of
`hmi_node/main/net/ws_client.c`. The stored time is that of the boot that stored the entry, the age
is taken on the clock of the boot that loads it. `loads_by_age_iff` says when that goes well.
-/

namespace SensorHmi

/-- The keys of the namespace `hmi_net`. -/
structure DiscoveryNvs where
  lastUri : Option Bytes := none
  lastSni : Option Bytes := none
  lastTs : Option UInt32 := none

/-- When an entry was stored, and the boot before that. -/
structure StoredAt where
  nowMs : Nat
  bootMs : Nat

/-- The HMI at a real time. `storedAt` is a ghost: the store that made the entry there is. -/
structure DiscoveryState where
  nvs : DiscoveryNvs := {}
  /-- `s_discovered_server_name` -/
  serverName : Bytes := []
  bootMs : Nat := 0
  nowMs : Nat := 0
  storedAt : Option StoredAt := none

/-- What the calls of NVS return in one function. A string that does not fit its buffer is a call
that fails; what `nvs_commit` returns changes nothing. -/
structure NvsResults where
  init : EspErr := .ok
  openHandle : EspErr := .ok
  uri : EspErr := .ok
  sni : EspErr := .ok
  ts : EspErr := .ok
  deriving DecidableEq

/-- `monotonic_time_ms`: milliseconds since the boot, in 32 bits. -/
def DiscoveryState.monotonicTimeMs (state : DiscoveryState) : UInt32 :=
  UInt32.ofNat (state.nowMs - state.bootMs)

/-- `nvs_get_*` -/
def nvsGet {α : Type} (result : EspErr) (stored : Option α) : Except EspErr α :=
  match result with
  | .ok => match stored with
    | some value => .ok value
    | none => .error .nvsNotFound
  | err => .error err

/-- `invalidate_cached_service`: each key is erased on its own. -/
def invalidateCachedService (results : NvsResults) (state : DiscoveryState) : DiscoveryState :=
  if results.init ≠ .ok ∨ results.openHandle ≠ .ok then state
  else
    { state with
      nvs :=
        { lastUri := if results.uri = .ok then none else state.nvs.lastUri
          lastSni := if results.sni = .ok then none else state.nvs.lastSni
          lastTs := if results.ts = .ok then none else state.nvs.lastTs }
      storedAt := none }

/-- The reads of `load_cached_service` while its handle is open: the result with the URI, and the
server name they leave. -/
def readCachedService (ttlMinutes : Nat) (results : NvsResults) (state : DiscoveryState) :
    Except EspErr Bytes × Bytes :=
  match nvsGet results.uri state.nvs.lastUri with
  | .error err => (.error err, state.serverName)
  | .ok uri =>
      let (err, serverName) : EspErr × Bytes :=
        match nvsGet results.sni state.nvs.lastSni with
        | .ok sni => (.ok, sni)
        | .error .nvsNotFound => (.ok, [])
        | .error err => (err, state.serverName)
      if err ≠ .ok then (.error err, serverName)
      else match nvsGet results.ts state.nvs.lastTs with
        | .error err => (.error err, serverName)
        | .ok lastSeen =>
            let age := state.monotonicTimeMs - lastSeen
            let ttlMs := UInt64.ofNat ttlMinutes * 60000
            if 0 < ttlMs ∧ ttlMs < age.toUInt64 then (.error .invalidState, serverName)
            else (.ok uri, serverName)

/-- `load_cached_service`: the URI, unless false is returned. `purge` are the results of the calls
`invalidate_cached_service` makes. -/
def loadCachedService (ttlMinutes : Nat) (results purge : NvsResults) (state : DiscoveryState) :
    Option Bytes × DiscoveryState :=
  if results.init ≠ .ok ∨ results.openHandle ≠ .ok then (none, state)
  else
    let (result, serverName) := readCachedService ttlMinutes results state
    let state := { state with serverName := serverName }
    match result with
    | .ok uri => (some uri, state)
    | .error .invalidState => (none, invalidateCachedService purge state)
    | .error _ => (none, state)

/-- `store_cached_service`. What is set before a call fails stays set. -/
def storeCachedService (uri : Bytes) (results : NvsResults) (state : DiscoveryState) :
    DiscoveryState :=
  if uri = [] then state
  else if results.init ≠ .ok ∨ results.openHandle ≠ .ok then state
  else if results.uri ≠ .ok then state
  else
    let nvs := { state.nvs with lastUri := some uri }
    if results.sni ≠ .ok then { state with nvs := nvs }
    else
      let nvs := { nvs with lastSni := some state.serverName }
      if results.ts ≠ .ok then { state with nvs := nvs }
      else
        { state with
          nvs := { nvs with lastTs := some state.monotonicTimeMs }
          storedAt := some ⟨state.nowMs, state.bootMs⟩ }

/-- What happens to the cache. A boot clears the RAM and starts the clock anew. -/
inductive DiscoveryCall
  | boot
  | setServerName (name : Bytes)
  | store (uri : Bytes) (results : NvsResults)
  | load (results purge : NvsResults)
  | invalidate (results : NvsResults)

/-- A call after some time. -/
structure DiscoveryEvent where
  waitMs : Nat
  call : DiscoveryCall

/-- The time that passes before a call. -/
def DiscoveryState.wait (state : DiscoveryState) (waitMs : Nat) : DiscoveryState :=
  { state with nowMs := state.nowMs + waitMs }

/-- One call. The outputs are the URIs that were loaded. -/
def discoveryStep (ttlMinutes : Nat) (state : DiscoveryState) (event : DiscoveryEvent) :
    DiscoveryState × List Bytes :=
  let state := state.wait event.waitMs
  match event.call with
  | .boot => ({ state with bootMs := state.nowMs, serverName := [] }, [])
  | .setServerName name => ({ state with serverName := name.take 63 }, [])
  | .store uri results => (storeCachedService uri results state, [])
  | .load results purge =>
      let (uri, state) := loadCachedService ttlMinutes results purge state
      (state, uri.toList)
  | .invalidate results => (invalidateCachedService results state, [])

/-- All calls of NVS succeed. -/
def DiscoveryCall.Succeeds : DiscoveryCall → Prop
  | .boot | .setServerName _ => True
  | .store _ results | .invalidate results => results = {}
  | .load results purge => results = {} ∧ purge = {}

/-- A load returns true exactly when there is an entry that was stored no longer ago than its time
to live; else there is no entry afterwards. -/
def LoadsByAge (ttlMinutes : Nat) (state : DiscoveryState) (event : DiscoveryEvent) : Prop :=
  match event.call with
  | .load results purge =>
      let state := state.wait event.waitMs
      let (uri, after) := loadCachedService ttlMinutes results purge state
      (uri.isSome = true ↔
          ∃ entry, state.storedAt = some entry ∧ state.nowMs - entry.nowMs ≤ ttlMinutes * 60000) ∧
        (uri = none → after.nvs.lastUri = none)
  | _ => True

/-- Taking the time between the two boots from an entry's age, modulo `2 ^ 32`, does not carry it
over its time to live or back. -/
def AgeAgrees (ttlMinutes : Nat) (state : DiscoveryState) (event : DiscoveryEvent) : Prop :=
  match event.call with
  | .load _ _ =>
      let state := state.wait event.waitMs
      ∀ entry, state.storedAt = some entry →
        (((state.nowMs - entry.nowMs : Int) - (state.bootMs - entry.bootMs)) % 2 ^ 32 ≤
            (ttlMinutes * 60000 : Nat) ↔
          state.nowMs - entry.nowMs ≤ ttlMinutes * 60000)
  | _ => True

section Age

/-- A difference of two 32-bit clocks is that of the times, modulo `2 ^ 32`. -/
theorem toNat_sub_ofNat (now stored : Nat) :
    ((UInt32.ofNat now - UInt32.ofNat stored).toNat : Int) = (now - stored : Int) % 2 ^ 32 := by
  rw [UInt32.toNat_sub, UInt32.toNat_ofNat', UInt32.toNat_ofNat']
  omega

theorem toNat_ttlMs {ttlMinutes : Nat} (h : ttlMinutes ≤ 1440) :
    (UInt64.ofNat ttlMinutes * 60000).toNat = ttlMinutes * 60000 := by
  rw [UInt64.toNat_mul, UInt64.toNat_ofNat']
  show ttlMinutes % 2 ^ 64 * 60000 % 2 ^ 64 = ttlMinutes * 60000
  omega

end Age

section Loads

variable {ttlMinutes : Nat} {state : DiscoveryState} {event : DiscoveryEvent}

/-- What is stored, if anything, is a URI with the clock of its store. -/
structure CacheInv (state : DiscoveryState) : Prop where
  boot_le : state.bootMs ≤ state.nowMs
  of_none : state.storedAt = none → state.nvs.lastUri = none
  of_some : ∀ entry, state.storedAt = some entry →
    (∃ uri, state.nvs.lastUri = some uri) ∧
      state.nvs.lastTs = some (UInt32.ofNat (entry.nowMs - entry.bootMs)) ∧
      entry.bootMs ≤ entry.nowMs ∧ entry.nowMs ≤ state.nowMs

theorem CacheInv.wait (h : CacheInv state) (waitMs : Nat) : CacheInv (state.wait waitMs) where
  boot_le := Nat.le_add_right_of_le h.boot_le
  of_none := h.of_none
  of_some entry hentry :=
    let ⟨huri, hts, hboot, hnow⟩ := h.of_some entry hentry
    ⟨huri, hts, hboot, Nat.le_add_right_of_le hnow⟩

theorem nvsGet_ok {α : Type} {stored : Option α} {value : α} (h : stored = some value) :
    nvsGet .ok stored = .ok value := by
  rw [h]
  rfl

/-- Nothing is read where nothing is stored. -/
theorem loadCachedService_none (h : CacheInv state) (hnone : state.storedAt = none) :
    loadCachedService ttlMinutes {} {} state = (none, state) := by
  have hread : readCachedService ttlMinutes {} state = (.error .nvsNotFound, state.serverName) := by
    rw [readCachedService, h.of_none hnone]
    rfl
  rw [loadCachedService, hread]
  rfl

/-- A stored entry is loaded unless its age on the clock exceeds its time to live; then it is
purged. -/
theorem loadCachedService_some (h : CacheInv state) (hlow : 1 ≤ ttlMinutes)
    (hhigh : ttlMinutes ≤ 1440) {entry : StoredAt} (hentry : state.storedAt = some entry) :
    ∃ uri serverName, state.nvs.lastUri = some uri ∧
      loadCachedService ttlMinutes {} {} state =
        if ((state.nowMs - entry.nowMs : Int) - (state.bootMs - entry.bootMs)) % 2 ^ 32 ≤
            (ttlMinutes * 60000 : Nat) then
          (some uri, { state with serverName := serverName })
        else (none, invalidateCachedService {} { state with serverName := serverName }) := by
  obtain ⟨⟨uri, huri⟩, hts, hbefore, hstored⟩ := h.of_some entry hentry
  have hage : (((state.monotonicTimeMs - UInt32.ofNat (entry.nowMs - entry.bootMs)).toNat : Nat) :
      Int) = ((state.nowMs - entry.nowMs : Int) - (state.bootMs - entry.bootMs)) % 2 ^ 32 := by
    have hboot := h.boot_le
    rw [DiscoveryState.monotonicTimeMs, toNat_sub_ofNat]
    congr 1
    omega
  have hexpired : (0 < UInt64.ofNat ttlMinutes * 60000 ∧ UInt64.ofNat ttlMinutes * 60000 <
      (state.monotonicTimeMs - UInt32.ofNat (entry.nowMs - entry.bootMs)).toUInt64) ↔
      ¬ ((state.nowMs - entry.nowMs : Int) - (state.bootMs - entry.bootMs)) % 2 ^ 32 ≤
        (ttlMinutes * 60000 : Nat) := by
    rw [UInt64.lt_iff_toNat_lt, UInt64.lt_iff_toNat_lt, toNat_ttlMs hhigh, UInt32.toNat_toUInt64,
      UInt64.toNat_zero, ← hage]
    omega
  obtain ⟨serverName, hread⟩ : ∃ serverName, readCachedService ttlMinutes {} state =
      if 0 < UInt64.ofNat ttlMinutes * 60000 ∧ UInt64.ofNat ttlMinutes * 60000 <
          (state.monotonicTimeMs - UInt32.ofNat (entry.nowMs - entry.bootMs)).toUInt64 then
        (.error .invalidState, serverName)
      else (.ok uri, serverName) := by
    refine ⟨state.nvs.lastSni.getD [], ?_⟩
    rw [readCachedService, nvsGet_ok huri, nvsGet_ok hts]
    cases state.nvs.lastSni with
    | none => simp [nvsGet]
    | some sni => simp [nvsGet]
  refine ⟨uri, serverName, huri, ?_⟩
  rw [loadCachedService, if_neg (by decide), hread]
  by_cases hfresh : ((state.nowMs - entry.nowMs : Int) - (state.bootMs - entry.bootMs)) % 2 ^ 32 ≤
      (ttlMinutes * 60000 : Nat)
  · rw [if_neg (fun hold => hexpired.mp hold hfresh), if_pos hfresh]
  · rw [if_pos (hexpired.mpr hfresh), if_neg hfresh]

theorem CacheInv.invalidate (h : CacheInv state) : CacheInv (invalidateCachedService {} state) where
  boot_le := h.boot_le
  of_none _ := rfl
  of_some _ hentry := by cases hentry

theorem CacheInv.load (h : CacheInv state) (hlow : 1 ≤ ttlMinutes) (hhigh : ttlMinutes ≤ 1440) :
    CacheInv (loadCachedService ttlMinutes {} {} state).2 := by
  cases hstored : state.storedAt with
  | none =>
      rw [loadCachedService_none h hstored]
      exact h
  | some entry =>
      obtain ⟨uri, serverName, -, hload⟩ := loadCachedService_some h hlow hhigh hstored
      have hrenamed : CacheInv { state with serverName := serverName } :=
        ⟨h.boot_le, h.of_none, h.of_some⟩
      rw [hload]
      split_ifs
      · exact hrenamed
      · exact hrenamed.invalidate

theorem CacheInv.store (h : CacheInv state) (uri : Bytes) :
    CacheInv (storeCachedService uri {} state) := by
  unfold storeCachedService
  by_cases hempty : uri = []
  · rw [if_pos hempty]
    exact h
  · rw [if_neg hempty, if_neg (by decide), if_neg (by decide)]
    refine ⟨h.boot_le, fun hnone => (by cases hnone), fun entry hentry => ?_⟩
    cases hentry
    exact ⟨⟨uri, rfl⟩, rfl, h.boot_le, le_rfl⟩

/-- Every call keeps the clock of the store with the entry. -/
theorem CacheInv.step (h : CacheInv state) (hlow : 1 ≤ ttlMinutes) (hhigh : ttlMinutes ≤ 1440)
    (hsucceeds : event.call.Succeeds) : CacheInv (discoveryStep ttlMinutes state event).1 := by
  obtain ⟨waitMs, call⟩ := event
  have hwait := h.wait waitMs
  cases call with
  | boot => exact ⟨le_rfl, hwait.of_none, hwait.of_some⟩
  | setServerName name => exact ⟨hwait.boot_le, hwait.of_none, hwait.of_some⟩
  | store uri results =>
      cases hsucceeds
      exact hwait.store uri
  | load results purge =>
      obtain ⟨rfl, rfl⟩ := hsucceeds
      exact hwait.load hlow hhigh
  | invalidate results =>
      cases hsucceeds
      exact hwait.invalidate

/-- A load goes by the age of the entry exactly when the two clocks agree about it. -/
theorem CacheInv.loadsByAge_iff (h : CacheInv state) (hlow : 1 ≤ ttlMinutes)
    (hhigh : ttlMinutes ≤ 1440) (hsucceeds : event.call.Succeeds) :
    LoadsByAge ttlMinutes state event ↔ AgeAgrees ttlMinutes state event := by
  obtain ⟨waitMs, call⟩ := event
  cases call with
  | boot => exact Iff.rfl
  | setServerName name => exact Iff.rfl
  | store uri results => exact Iff.rfl
  | invalidate results => exact Iff.rfl
  | load results purge =>
      obtain ⟨rfl, rfl⟩ := hsucceeds
      have hwait := h.wait waitMs
      simp only [LoadsByAge, AgeAgrees]
      generalize state.wait waitMs = state at hwait ⊢
      cases hstored : state.storedAt with
      | none =>
          rw [loadCachedService_none hwait hstored]
          simp [hwait.of_none hstored]
      | some entry =>
          obtain ⟨uri, serverName, -, hload⟩ := loadCachedService_some hwait hlow hhigh hstored
          rw [hload]
          simp only [Option.some.injEq, exists_eq_left', forall_eq']
          split_ifs with hfresh
          · simp only [Option.isSome_some, true_iff, false_imp_iff, and_true]
            exact ⟨fun hyoung => iff_of_true hfresh hyoung, fun hagree => hagree.mp hfresh⟩
          · have hpurged : ∀ state, (invalidateCachedService {} state).nvs.lastUri = none :=
              fun _ => rfl
            simp only [Option.isSome_none, Bool.false_eq_true, false_iff, hpurged, implies_true,
              and_true]
            exact ⟨fun hold => iff_of_false hfresh hold, fun hagree => fun h =>
              hfresh (hagree.mpr h)⟩

/-- Within one boot the clocks agree until the 32-bit clock comes round. -/
theorem ageAgrees_of_same_boot {results purge : NvsResults} {waitMs : Nat}
    (h : ∀ entry, state.storedAt = some entry → entry.bootMs = state.bootMs ∧
      entry.nowMs ≤ state.nowMs ∧ state.nowMs + waitMs - entry.nowMs < 2 ^ 32) :
    AgeAgrees ttlMinutes state ⟨waitMs, .load results purge⟩ := by
  intro entry hentry
  obtain ⟨hboot, hbefore, hround⟩ := h entry hentry
  simp only [DiscoveryState.wait]
  rw [hboot, sub_self, sub_zero, Int.emod_eq_of_lt (by omega) (by omega)]
  omega

end Loads

/-- In a run in which all calls of NVS succeed, every load goes by the age of the entry exactly
when at every load the clocks of the two boots agree about it. -/
theorem loads_by_age_iff {ttlMinutes : Nat} (hlow : 1 ≤ ttlMinutes) (hhigh : ttlMinutes ≤ 1440)
    (events : List DiscoveryEvent) (hsucceed : ∀ event ∈ events, event.call.Succeeds) :
    Machine.EachStep (discoveryStep ttlMinutes) (LoadsByAge ttlMinutes) {} events ↔
      Machine.EachStep (discoveryStep ttlMinutes) (AgeAgrees ttlMinutes) {} events :=
  Machine.eachStep_congr_of_allowed CacheInv (fun event => event.call.Succeeds)
    (fun state event hinv hallowed => hinv.step hlow hhigh hallowed)
    (fun state event hinv hallowed => hinv.loadsByAge_iff hlow hhigh hallowed)
    ⟨le_rfl, fun _ => rfl, fun _ hentry => (by cases hentry)⟩ hsucceed

/-- An endpoint stored a second after the boot is loaded a minute later. -/
theorem loads_by_age_minute :
    Machine.EachStep (discoveryStep 120) (LoadsByAge 120) {}
      [⟨1000, .store [119] {}⟩, ⟨60000, .load {} {}⟩] := by
  refine (loads_by_age_iff (by decide) (by decide) _ ?_).mpr ⟨trivial, ?_, trivial⟩
  · intro event hmem
    simp only [List.mem_cons, List.not_mem_nil, or_false] at hmem
    rcases hmem with rfl | rfl
    · rfl
    · exact ⟨rfl, rfl⟩
  · refine ageAgrees_of_same_boot fun entry hentry => ?_
    cases hentry
    exact ⟨rfl, le_rfl, by decide⟩

/-- An endpoint stored a second after the boot is loaded after a restart two days later, although
its time to live is two hours: on the new clock it is four seconds old. -/
theorem not_all_loads_by_age :
    ¬ ∀ ttlMinutes : Nat, 1 ≤ ttlMinutes → ttlMinutes ≤ 1440 → ∀ events : List DiscoveryEvent,
      (∀ event ∈ events, event.call.Succeeds) →
        Machine.EachStep (discoveryStep ttlMinutes) (LoadsByAge ttlMinutes) {} events := by
  intro h
  have hrun := h 120 (by decide) (by decide)
    [⟨1000, .store [119] {}⟩, ⟨172800000, .boot⟩, ⟨5000, .load {} {}⟩] (by
      intro event hmem
      simp only [List.mem_cons, List.not_mem_nil, or_false] at hmem
      rcases hmem with rfl | rfl | rfl
      · rfl
      · trivial
      · exact ⟨rfl, rfl⟩)
  obtain ⟨entry, hentry, hyoung⟩ := hrun.2.2.1.1.mp (by decide +kernel)
  cases hentry
  exact absurd hyoung (by decide)

end SensorHmi
