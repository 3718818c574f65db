import SensorHmi.Hmi.DiscoveryCache
import SensorHmi.Lib.Cell

/-!
# The discovery cache without power

The functions of `SensorHmi.Hmi.DiscoveryCache` on a flash where what was not committed may be lost,
each key on its own. A store that fails half way leaves a URI with the server name of another one:
`never_mixed_iff`.
-/

namespace SensorHmi

/-- A string under a key. `call` is a ghost: the call of `store_cached_service` that set it. -/
structure CachedText where
  value : Bytes
  call : Nat
  deriving DecidableEq

/-- The HMI at a real time. `calls` is a ghost: the calls of `store_cached_service` so far. -/
structure FlashCache where
  lastUri : Cell (Option CachedText) := ⟨none, []⟩
  lastSni : Cell (Option CachedText) := ⟨none, []⟩
  lastTs : Cell (Option UInt32) := ⟨none, []⟩
  /-- `s_discovered_server_name` -/
  serverName : Bytes := []
  bootMs : Nat := 0
  nowMs : Nat := 0
  calls : Nat := 0

/-- What the calls of NVS return in one function. Power that is lost in a function is calls that
fail from there on, none of which changes anything, and `powerLoss` after it. -/
structure FlashResults extends NvsResults where
  commit : EspErr := .ok

/-- The cache while power lasts. -/
def FlashCache.view (cache : FlashCache) : DiscoveryState where
  nvs :=
    { lastUri := cache.lastUri.current.map CachedText.value
      lastSni := cache.lastSni.current.map CachedText.value
      lastTs := cache.lastTs.current }
  serverName := cache.serverName
  bootMs := cache.bootMs
  nowMs := cache.nowMs

/-- `nvs_commit` -/
def FlashCache.commit (cache : FlashCache) : FlashCache :=
  { cache with
    lastUri := cache.lastUri.settle
    lastSni := cache.lastSni.settle
    lastTs := cache.lastTs.settle }

/-- `store_cached_service` -/
def flashStore (uri : Bytes) (results : FlashResults) (cache : FlashCache) : FlashCache :=
  let call := cache.calls
  let cache := { cache with calls := call + 1 }
  if uri = [] then cache
  else if results.init ≠ .ok ∨ results.openHandle ≠ .ok then cache
  else if results.uri ≠ .ok then cache
  else
    let cache := { cache with lastUri := cache.lastUri.write (some ⟨uri, call⟩) }
    if results.sni ≠ .ok then cache
    else
      let cache := { cache with lastSni := cache.lastSni.write (some ⟨cache.serverName, call⟩) }
      if results.ts ≠ .ok then cache
      else
        let cache :=
          { cache with lastTs := cache.lastTs.write (some cache.view.monotonicTimeMs) }
        if results.commit ≠ .ok then cache else cache.commit

/-- The calls of `nvs_erase_key`, of which none waits for another. -/
def FlashCache.erase (results : FlashResults) (cache : FlashCache) : FlashCache :=
  { cache with
    lastUri := if results.uri = .ok then cache.lastUri.write none else cache.lastUri
    lastSni := if results.sni = .ok then cache.lastSni.write none else cache.lastSni
    lastTs := if results.ts = .ok then cache.lastTs.write none else cache.lastTs }

/-- `invalidate_cached_service` -/
def flashInvalidate (results : FlashResults) (cache : FlashCache) : FlashCache :=
  if results.init ≠ .ok ∨ results.openHandle ≠ .ok then cache
  else
    let cache := cache.erase results
    if results.commit = .ok then cache.commit else cache

/-- The reads of `load_cached_service`, and whether they end with an entry that is too old. -/
def flashRead (ttlMinutes : Nat) (results : FlashResults) (cache : FlashCache) :
    Except EspErr Bytes × Bytes :=
  readCachedService ttlMinutes results.toNvsResults cache.view

/-- `load_cached_service`: the URI, unless false is returned. -/
def flashLoad (ttlMinutes : Nat) (results purge : FlashResults) (cache : FlashCache) :
    Option Bytes × FlashCache :=
  if results.init ≠ .ok ∨ results.openHandle ≠ .ok then (none, cache)
  else
    let (result, serverName) := flashRead ttlMinutes results cache
    let cache := { cache with serverName := serverName }
    match result with
    | .ok uri => (some uri, cache)
    | .error .invalidState => (none, flashInvalidate purge cache)
    | .error _ => (none, cache)

/-- Which of its values each key is left with when power is lost. -/
structure FlashLoss where
  uri : Nat := 0
  sni : Nat := 0
  ts : Nat := 0

/-- Power is lost and comes back. -/
def FlashCache.lose (loss : FlashLoss) (cache : FlashCache) : FlashCache :=
  { cache with
    lastUri := cache.lastUri.lose loss.uri
    lastSni := cache.lastSni.lose loss.sni
    lastTs := cache.lastTs.lose loss.ts
    serverName := []
    bootMs := cache.nowMs }

/-- What happens to the cache. -/
inductive FlashCall
  | powerLoss (loss : FlashLoss)
  | setServerName (name : Bytes)
  | store (uri : Bytes) (results : FlashResults)
  | load (results purge : FlashResults)
  | invalidate (results : FlashResults)

/-- A call after some time. -/
structure FlashEvent where
  waitMs : Nat
  call : FlashCall

/-- The time that passes before a call. -/
def FlashCache.wait (cache : FlashCache) (waitMs : Nat) : FlashCache :=
  { cache with nowMs := cache.nowMs + waitMs }

/-- One call. The outputs are the endpoints that were loaded. -/
def flashStep (ttlMinutes : Nat) (cache : FlashCache) (event : FlashEvent) :
    FlashCache × List (Bytes × Bytes) :=
  let cache := cache.wait event.waitMs
  match event.call with
  | .powerLoss loss => (cache.lose loss, [])
  | .setServerName name => ({ cache with serverName := name.take 63 }, [])
  | .store uri results => (flashStore uri results cache, [])
  | .load results purge =>
      let (uri, cache) := flashLoad ttlMinutes results purge cache
      (cache, uri.toList.map fun uri => (uri, cache.serverName))
  | .invalidate results => (flashInvalidate results cache, [])

/-- What a load delivers was set by one and the same store. What `nvs_get_str` says of a key that
is there is not that it is missing. -/
def DeliversOneCall (ttlMinutes : Nat) (cache : FlashCache) : Prop :=
  ∀ (results purge : FlashResults) (uri : Bytes), results.sni ≠ .nvsNotFound →
    (flashLoad ttlMinutes results purge cache).1 = some uri →
      ∃ call, cache.lastUri.current = some ⟨uri, call⟩ ∧
        cache.lastSni.current = some ⟨(flashLoad ttlMinutes results purge cache).2.serverName, call⟩

/-- No load delivers a mixture, now or behind a loss of power. -/
def NeverMixed (ttlMinutes : Nat) (cache : FlashCache) : Prop :=
  ∀ waitMs, DeliversOneCall ttlMinutes (cache.wait waitMs) ∧
    ∀ loss, DeliversOneCall ttlMinutes ((cache.lose loss).wait waitMs)

/-- A store goes through to its commit once it has set the URI, or it does not get as far as the
time stamp and there can be none. -/
def StoresWhole (uri : Bytes) (results : FlashResults) (cache : FlashCache) : Prop :=
  uri ≠ [] → results.init = .ok → results.openHandle = .ok → results.uri = .ok →
    (results.sni = .ok ∧ results.ts = .ok ∧ results.commit = .ok) ∨
      (¬ (results.sni = .ok ∧ results.ts = .ok) ∧ ∀ ts, ¬ cache.lastTs.MayBe (some ts))

/-- The server name is not erased alone: with it goes the URI or the time stamp, by the same commit
if it was there. -/
def ErasesWhole (results : FlashResults) (cache : FlashCache) : Prop :=
  results.init = .ok → results.openHandle = .ok → results.sni = .ok →
    if results.commit = .ok then
      (results.uri = .ok ∨ cache.lastUri.current = none) ∨
        (results.ts = .ok ∨ cache.lastTs.current = none)
    else
      (∀ uri, ¬ cache.lastUri.MayBe (some uri)) ∨ ∀ ts, ¬ cache.lastTs.MayBe (some ts)

/-- A call leaves no endpoint half changed. -/
def KeepsWhole (ttlMinutes : Nat) (cache : FlashCache) (event : FlashEvent) : Prop :=
  match event.call with
  | .powerLoss _ | .setServerName _ => True
  | .store uri results => StoresWhole uri results cache
  | .load results purge =>
      results.init = .ok → results.openHandle = .ok →
        (flashRead ttlMinutes results (cache.wait event.waitMs)).1 = .error .invalidState →
          ErasesWhole purge cache
  | .invalidate results => ErasesWhole results cache

/-- Whatever is there behind a loss of power, the server name is that of the URI. -/
def FlashCache.Whole (cache : FlashCache) : Prop :=
  ∀ uri ts sni, cache.lastUri.MayBe (some uri) → cache.lastTs.MayBe (some ts) →
    cache.lastSni.MayBe sni → ∃ name, sni = some name ∧ name.call = uri.call

/-- What is there was set by a call there was. -/
structure FlashCache.Stamped (cache : FlashCache) : Prop where
  uri : ∀ uri, cache.lastUri.MayBe (some uri) → uri.call < cache.calls
  sni : ∀ sni, cache.lastSni.MayBe (some sni) → sni.call < cache.calls

section View

variable (results : FlashResults) (cache : FlashCache)

/-- While power lasts, a store is `storeCachedService`. -/
theorem view_flashStore (uri : Bytes) :
    (flashStore uri results cache).view.nvs =
      (storeCachedService uri results.toNvsResults cache.view).nvs := by
  simp only [flashStore, storeCachedService]
  split_ifs <;> rfl

/-- While power lasts, an erase is `invalidateCachedService`. -/
theorem view_flashInvalidate :
    (flashInvalidate results cache).view.nvs =
      (invalidateCachedService results.toNvsResults cache.view).nvs := by
  have hkey {α : Type} (erased : Prop) [Decidable erased] (cell : Cell (Option α)) :
      (if erased then cell.write none else cell).current =
        if erased then none else cell.current := by
    split_ifs <;> rfl
  have herased : (cache.erase results).view.nvs =
      { lastUri := if results.uri = .ok then none else cache.view.nvs.lastUri
        lastSni := if results.sni = .ok then none else cache.view.nvs.lastSni
        lastTs := if results.ts = .ok then none else cache.view.nvs.lastTs } := by
    simp only [FlashCache.view, FlashCache.erase, hkey, apply_ite (Option.map CachedText.value),
      Option.map_none]
  simp only [flashInvalidate, invalidateCachedService]
  by_cases hopen : results.init ≠ .ok ∨ results.openHandle ≠ .ok
  · rw [if_pos hopen, if_pos hopen]
  · rw [if_neg hopen, if_neg hopen, ← herased]
    split_ifs <;> rfl

/-- While power lasts, a load delivers what `loadCachedService` does. -/
theorem view_flashLoad (ttlMinutes : Nat) (purge : FlashResults) :
    (flashLoad ttlMinutes results purge cache).1 =
      (loadCachedService ttlMinutes results.toNvsResults purge.toNvsResults cache.view).1 := by
  unfold flashLoad loadCachedService flashRead
  by_cases hopen : results.init ≠ .ok ∨ results.openHandle ≠ .ok
  · rw [if_pos hopen, if_pos hopen]
  · rw [if_neg hopen, if_neg hopen]
    generalize readCachedService ttlMinutes results.toNvsResults cache.view = read
    obtain ⟨result, name⟩ := read
    cases result with
    | ok uri => rfl
    | error err => cases err <;> rfl

end View

section Store

variable {cache next : FlashCache} {uri : Bytes} {results : FlashResults}

/-- In a whole cache the URI of a new call is not beside an old server name. -/
theorem FlashCache.Whole.not_mixed {ts : UInt32} (h : next.Whole) (hstamped : cache.Stamped)
    (huri : next.lastUri.MayBe (some ⟨uri, cache.calls⟩)) (hts : next.lastTs.MayBe (some ts))
    (hsni : next.lastSni.MayBe cache.lastSni.current) : False := by
  obtain ⟨name, hname, hcall⟩ := h _ _ _ huri hts hsni
  exact absurd hcall (Nat.ne_of_lt (hstamped.sni name (Or.inl hname.symm)))

/-- A store leaves the cache whole exactly if it goes through, or ends early without a time
stamp. -/
theorem whole_flashStore_iff (h : cache.Whole) (hstamped : cache.Stamped) :
    (flashStore uri results cache).Whole ↔ StoresWhole uri results cache := by
  have hold : FlashCache.Whole { cache with calls := cache.calls + 1 } := h
  have hnew : (cache.lastUri.write (some ⟨uri, cache.calls⟩)).MayBe (some ⟨uri, cache.calls⟩) :=
    Cell.mayBe_write.mpr (Or.inl rfl)
  have hkept : (cache.lastSni.write (some ⟨cache.serverName, cache.calls⟩)).MayBe
      cache.lastSni.current :=
    Cell.mayBe_write.mpr (Or.inr (Cell.mayBe_current _))
  simp only [flashStore, StoresWhole]
  split_ifs with hempty hopen hseturi hsetsni hsetts hcommit
  · exact iff_of_true hold fun hne => absurd hempty hne
  · refine iff_of_true hold fun _ hinit hhandle => ?_
    exact absurd hopen (not_or.mpr ⟨not_not.mpr hinit, not_not.mpr hhandle⟩)
  · exact iff_of_true hold fun _ _ _ hset => absurd hset hseturi
  all_goals
    obtain ⟨hinit, hhandle⟩ := not_or.mp hopen
    rw [imp_iff_right hempty, imp_iff_right (not_not.mp hinit), imp_iff_right (not_not.mp hhandle),
      imp_iff_right (not_not.mp hseturi)]
  · -- The new URI is there with the old server name.
    rw [or_iff_right fun hall => hsetsni hall.1, and_iff_right fun hboth => hsetsni hboth.1]
    constructor
    · exact fun hwhole ts hts => hwhole.not_mixed hstamped hnew hts (Cell.mayBe_current _)
    · exact fun hnone uri ts sni _ hts => absurd hts (hnone ts)
  · -- The same after a loss.
    rw [or_iff_right fun hall => hsetts hall.2.1, and_iff_right fun hboth => hsetts hboth.2]
    constructor
    · exact fun hwhole ts hts => hwhole.not_mixed hstamped hnew hts hkept
    · exact fun hnone uri ts sni _ hts => absurd hts (hnone ts)
  · -- Now there is a time stamp, too.
    refine iff_of_false (fun hwhole => ?_) fun hcond => ?_
    · exact hwhole.not_mixed hstamped hnew (Cell.mayBe_write.mpr (Or.inl rfl)) hkept
    · exact hcond.elim (fun hall => hcommit hall.2.2)
        fun hearly => hearly.1 ⟨not_not.mp hsetsni, not_not.mp hsetts⟩
  · refine iff_of_true ?_ (Or.inl ⟨not_not.mp hsetsni, not_not.mp hsetts, not_not.mp hcommit⟩)
    intro uri' ts sni huri hts hsni
    obtain rfl := Option.some.inj (Cell.mayBe_settle.mp huri)
    exact ⟨_, Cell.mayBe_settle.mp hsni, rfl⟩

/-- With a server name that may be gone, the cache is whole exactly if there is no entry. -/
theorem whole_iff_of_erased (h : cache.lastSni.MayBe none) :
    cache.Whole ↔ (∀ uri, ¬ cache.lastUri.MayBe (some uri)) ∨
      ∀ ts, ¬ cache.lastTs.MayBe (some ts) := by
  constructor
  · intro hwhole
    by_contra hentry
    simp only [not_or, not_forall, not_not] at hentry
    obtain ⟨⟨uri, huri⟩, ts, hts⟩ := hentry
    obtain ⟨name, hname, -⟩ := hwhole _ _ _ huri hts h
    exact absurd hname.symm (Option.some_ne_none name)
  · rintro (hnone | hnone) uri ts sni huri hts hsni
    · exact absurd huri (hnone uri)
    · exact absurd hts (hnone ts)

theorem whole_erase (h : cache.Whole) (hsni : results.sni ≠ .ok) : (cache.erase results).Whole := by
  intro uri ts sni huri hts hname
  simp only [FlashCache.erase, if_neg hsni] at hname
  exact h uri ts sni (Cell.mayBe_some_erase.mp huri) (Cell.mayBe_some_erase.mp hts) hname

theorem FlashCache.Whole.commit (h : cache.Whole) : cache.commit.Whole := by
  intro uri ts sni huri hts hsni
  exact h uri ts sni (Or.inl (Cell.mayBe_settle.mp huri)) (Or.inl (Cell.mayBe_settle.mp hts))
    (Or.inl (Cell.mayBe_settle.mp hsni))

/-- An erase leaves the cache whole exactly if the server name does not go alone. -/
theorem whole_flashInvalidate_iff (h : cache.Whole) :
    (flashInvalidate results cache).Whole ↔ ErasesWhole results cache := by
  simp only [flashInvalidate, ErasesWhole]
  by_cases hopen : results.init ≠ .ok ∨ results.openHandle ≠ .ok
  · rw [if_pos hopen]
    refine iff_of_true h fun hinit hhandle => ?_
    exact absurd hopen (not_or.mpr ⟨not_not.mpr hinit, not_not.mpr hhandle⟩)
  obtain ⟨hinit, hhandle⟩ := not_or.mp hopen
  rw [if_neg hopen, imp_iff_right (not_not.mp hinit), imp_iff_right (not_not.mp hhandle)]
  by_cases hsni : results.sni = .ok
  · rw [imp_iff_right hsni]
    have hgone : (cache.erase results).lastSni.current = none := by
      rw [FlashCache.erase, if_pos hsni]
      rfl
    split_ifs
    · rw [whole_iff_of_erased (Cell.mayBe_settle.mpr hgone.symm)]
      simp only [FlashCache.commit, FlashCache.erase, Cell.settle_erase_iff]
    · rw [whole_iff_of_erased (Or.inl hgone.symm)]
      simp only [FlashCache.erase, Cell.mayBe_some_erase]
  · refine iff_of_true ?_ fun hset => absurd hset hsni
    split_ifs
    · exact (whole_erase h hsni).commit
    · exact whole_erase h hsni

end Store

section Load

variable {ttlMinutes : Nat} {cache : FlashCache} {results purge : FlashResults} {uri name : Bytes}

theorem nvsGet_eq_ok {α : Type} {result : EspErr} {stored : Option α} {value : α}
    (h : nvsGet result stored = .ok value) : stored = some value := by
  cases result with
  | ok =>
      cases stored with
      | none => exact absurd h nofun
      | some found => exact congrArg some (Except.ok.inj h)
  | _ => exact absurd h nofun

theorem nvsGet_eq_error {α : Type} {result err : EspErr} {stored : Option α}
    (h : nvsGet result stored = .error err) :
    (err = .nvsNotFound ∧ stored = none) ∨ (err = result ∧ err ≠ .ok) := by
  cases result with
  | ok =>
      cases stored with
      | none => exact Or.inl ⟨(Except.error.inj h).symm, rfl⟩
      | some found => exact absurd h nofun
  | _ =>
      obtain rfl := Except.error.inj h
      exact Or.inr ⟨rfl, by decide⟩

/-- A load that succeeds finds a URI and a time stamp, and a server name unless none is there. -/
theorem readCachedService_ok {state : DiscoveryState} {results : NvsResults}
    (hresult : results.sni ≠ .nvsNotFound)
    (h : readCachedService ttlMinutes results state = (.ok uri, name)) :
    state.nvs.lastUri = some uri ∧ (∃ ts, state.nvs.lastTs = some ts) ∧
      (state.nvs.lastSni = none ∨ state.nvs.lastSni = some name) := by
  unfold readCachedService at h
  cases huri : nvsGet results.uri state.nvs.lastUri with
  | error err => simp [huri] at h
  | ok found =>
  cases hts : nvsGet results.ts state.nvs.lastTs with
  | error err =>
      simp only [huri, hts] at h
      split_ifs at h <;> simp at h
  | ok lastSeen =>
  have hthere (h : found = uri) : state.nvs.lastUri = some uri := h ▸ nvsGet_eq_ok huri
  cases hsni : nvsGet results.sni state.nvs.lastSni with
  | ok sni =>
      simp only [huri, hts, hsni] at h
      split_ifs at h with herr hold
      · exact absurd h (by simp)
      · exact absurd h (by simp)
      · simp only [Prod.mk.injEq, Except.ok.injEq] at h
        exact ⟨hthere h.1, ⟨lastSeen, nvsGet_eq_ok hts⟩, Or.inr (h.2 ▸ nvsGet_eq_ok hsni)⟩
  | error err =>
      rcases nvsGet_eq_error hsni with ⟨rfl, hnone⟩ | ⟨rfl, hfailed⟩
      · simp only [huri, hts, hsni] at h
        split_ifs at h with herr hold
        · exact absurd h (by simp)
        · exact absurd h (by simp)
        · simp only [Prod.mk.injEq, Except.ok.injEq] at h
          exact ⟨hthere h.1, ⟨lastSeen, nvsGet_eq_ok hts⟩, Or.inl hnone⟩
      · simp [huri, hsni, hfailed] at h

/-- A load that returns true has read its URI, and leaves the server name it read. -/
theorem flashLoad_eq_some (h : (flashLoad ttlMinutes results purge cache).1 = some uri) :
    ∃ name, flashRead ttlMinutes results cache = (.ok uri, name) ∧
      (flashLoad ttlMinutes results purge cache).2 = { cache with serverName := name } := by
  unfold flashLoad at h ⊢
  by_cases hopen : results.init ≠ .ok ∨ results.openHandle ≠ .ok
  · rw [if_pos hopen] at h
    exact absurd h nofun
  · rw [if_neg hopen] at h ⊢
    generalize flashRead ttlMinutes results cache = read at h ⊢
    obtain ⟨result, name⟩ := read
    cases result with
    | ok found =>
        obtain rfl := Option.some.inj h
        exact ⟨name, rfl, rfl⟩
    | error err => cases err <;> cases h

/-- What a whole cache delivers was set by one call. -/
theorem FlashCache.Whole.deliversOneCall (h : cache.Whole) : DeliversOneCall ttlMinutes cache := by
  intro results purge uri hresult hload
  obtain ⟨name, hread, hafter⟩ := flashLoad_eq_some hload
  obtain ⟨huri, ⟨ts, hts⟩, hsni⟩ := readCachedService_ok hresult hread
  obtain ⟨text, htext, rfl⟩ := Option.map_eq_some_iff.mp huri
  obtain ⟨stored, hstored, hcall⟩ := h text ts _ (Or.inl htext.symm) (Or.inl (Eq.symm hts))
    (Cell.mayBe_current _)
  have hname : stored.value = name := by
    simp only [FlashCache.view, hstored, Option.map_some] at hsni
    exact Option.some.inj (hsni.resolve_left (Option.some_ne_none _))
  refine ⟨text.call, htext, ?_⟩
  rw [hafter, hstored, ← hname, ← hcall]

theorem FlashCache.Whole.lose (h : cache.Whole) (loss : FlashLoss) : (cache.lose loss).Whole :=
  fun uri ts sni huri hts hsni =>
    h uri ts sni (Cell.mayBe_lose huri) (Cell.mayBe_lose hts) (Cell.mayBe_lose hsni)

/-- An entry of this very moment is loaded. -/
theorem flashLoad_fresh {text : CachedText} {ts : UInt32}
    (huri : cache.lastUri.current = some text) (hts : cache.lastTs.current = some ts)
    (hnow : cache.view.monotonicTimeMs = ts) :
    (flashLoad ttlMinutes {} {} cache).1 = some text.value := by
  have hread : (flashRead ttlMinutes {} cache).1 = .ok text.value := by
    have hview : cache.view.nvs.lastUri = some text.value ∧ cache.view.nvs.lastTs = some ts :=
      ⟨congrArg (Option.map CachedText.value) huri, hts⟩
    rw [flashRead, readCachedService, nvsGet_ok hview.1, nvsGet_ok hview.2, hnow]
    cases cache.view.nvs.lastSni with
    | none => simp [nvsGet]
    | some sni => simp [nvsGet]
  unfold flashLoad
  rw [if_neg (by decide)]
  generalize flashRead ttlMinutes {} cache = read at hread
  obtain ⟨result, name⟩ := read
  obtain rfl : result = .ok text.value := hread
  rfl

/-- No load delivers a mixture exactly if the cache is whole. -/
theorem neverMixed_iff : NeverMixed ttlMinutes cache ↔ cache.Whole := by
  constructor
  · intro h uri ts sni huri hts hsni
    obtain ⟨uriLoss, hlostUri⟩ := Cell.exists_lose huri
    obtain ⟨tsLoss, hlostTs⟩ := Cell.exists_lose hts
    obtain ⟨sniLoss, hlostSni⟩ := Cell.exists_lose hsni
    -- The power comes back just long enough ago for the time stamp to be of now.
    have hnow : (((cache.lose ⟨uriLoss, sniLoss, tsLoss⟩).wait ts.toNat).view).monotonicTimeMs =
        ts := by
      show UInt32.ofNat (cache.nowMs + ts.toNat - cache.nowMs) = ts
      rw [Nat.add_sub_cancel_left, UInt32.ofNat_toNat]
    obtain ⟨call, hcurrent, hname⟩ := (h ts.toNat).2 ⟨uriLoss, sniLoss, tsLoss⟩ {} {} uri.value
      (by decide) (flashLoad_fresh hlostUri hlostTs hnow)
    have hcall : uri.call = call :=
      congrArg CachedText.call (Option.some.inj (hlostUri.symm.trans hcurrent))
    exact ⟨_, hlostSni.symm.trans hname, hcall.symm⟩
  · exact fun h waitMs => ⟨FlashCache.Whole.deliversOneCall h,
      fun loss => FlashCache.Whole.deliversOneCall (h.lose loss)⟩

end Load

section Step

variable {ttlMinutes : Nat} {cache : FlashCache} {event : FlashEvent}

/-- The texts a key may have were set by the first `calls` calls. -/
def StampedBelow (calls : Nat) (cell : Cell (Option CachedText)) : Prop :=
  ∀ text, cell.MayBe (some text) → text.call < calls

theorem StampedBelow.succ {calls : Nat} {cell : Cell (Option CachedText)}
    (h : StampedBelow calls cell) : StampedBelow (calls + 1) cell :=
  fun text htext => Nat.lt_succ_of_lt (h text htext)

theorem StampedBelow.write {calls : Nat} {cell : Cell (Option CachedText)}
    (h : StampedBelow calls cell) (value : Bytes) :
    StampedBelow (calls + 1) (cell.write (some ⟨value, calls⟩)) := by
  intro text htext
  rcases Cell.mayBe_write.mp htext with hnew | hold
  · obtain rfl := Option.some.inj hnew
    exact Nat.lt_succ_self calls
  · exact h.succ text hold

theorem StampedBelow.settle {calls : Nat} {cell : Cell (Option CachedText)}
    (h : StampedBelow calls cell) : StampedBelow calls cell.settle :=
  fun text htext => h text (Or.inl (Cell.mayBe_settle.mp htext))

theorem FlashCache.Stamped.store (h : cache.Stamped) (uri : Bytes) (results : FlashResults) :
    (flashStore uri results cache).Stamped := by
  have huri : StampedBelow cache.calls cache.lastUri := h.uri
  have hsni : StampedBelow cache.calls cache.lastSni := h.sni
  simp only [flashStore]
  split_ifs
  · exact ⟨huri.succ, hsni.succ⟩
  · exact ⟨huri.succ, hsni.succ⟩
  · exact ⟨huri.succ, hsni.succ⟩
  · exact ⟨huri.write uri, hsni.succ⟩
  · exact ⟨huri.write uri, hsni.write _⟩
  · exact ⟨huri.write uri, hsni.write _⟩
  · exact ⟨(huri.write uri).settle, (hsni.write _).settle⟩

theorem FlashCache.Stamped.invalidate (h : cache.Stamped) (results : FlashResults) :
    (flashInvalidate results cache).Stamped := by
  have herased : (cache.erase results).Stamped :=
    ⟨fun uri huri => h.uri uri (Cell.mayBe_some_erase.mp huri),
      fun sni hsni => h.sni sni (Cell.mayBe_some_erase.mp hsni)⟩
  simp only [flashInvalidate]
  split_ifs
  · exact h
  · exact ⟨StampedBelow.settle herased.uri, StampedBelow.settle herased.sni⟩
  · exact herased

/-- A load changes what is stored only by the purge of an entry that is too old. -/
theorem flashLoad_cases (results purge : FlashResults) :
    (∃ name, (flashLoad ttlMinutes results purge cache).2 = { cache with serverName := name }) ∧
        ¬ (results.init = .ok ∧ results.openHandle = .ok ∧
          (flashRead ttlMinutes results cache).1 = .error .invalidState) ∨
      (results.init = .ok ∧ results.openHandle = .ok ∧
        (flashRead ttlMinutes results cache).1 = .error .invalidState) ∧
        ∃ name, (flashLoad ttlMinutes results purge cache).2 =
          flashInvalidate purge { cache with serverName := name } := by
  unfold flashLoad
  by_cases hopen : results.init ≠ .ok ∨ results.openHandle ≠ .ok
  · rw [if_pos hopen]
    refine Or.inl ⟨⟨_, rfl⟩, fun hall => ?_⟩
    exact absurd hopen (not_or.mpr ⟨not_not.mpr hall.1, not_not.mpr hall.2.1⟩)
  · obtain ⟨hinit, hhandle⟩ := not_or.mp hopen
    rw [if_neg hopen]
    generalize flashRead ttlMinutes results cache = read
    obtain ⟨result, name⟩ := read
    cases result with
    | ok uri => exact Or.inl ⟨⟨name, rfl⟩, fun hall => absurd hall.2.2 (by simp)⟩
    | error err =>
        by_cases herr : err = .invalidState
        · subst herr
          exact Or.inr ⟨⟨not_not.mp hinit, not_not.mp hhandle, rfl⟩, name, rfl⟩
        · refine Or.inl ⟨⟨name, ?_⟩, fun hall => herr (Except.error.inj hall.2.2)⟩
          cases err <;> first | rfl | exact absurd rfl herr

theorem FlashCache.Stamped.step (h : cache.Stamped) :
    (flashStep ttlMinutes cache event).1.Stamped := by
  have hwait : (cache.wait event.waitMs).Stamped := ⟨h.uri, h.sni⟩
  obtain ⟨waitMs, call⟩ := event
  cases call with
  | powerLoss loss =>
      exact ⟨fun uri huri => h.uri uri (Cell.mayBe_lose huri),
        fun sni hsni => h.sni sni (Cell.mayBe_lose hsni)⟩
  | setServerName name => exact ⟨h.uri, h.sni⟩
  | store uri results => exact hwait.store uri results
  | invalidate results => exact hwait.invalidate results
  | load results purge =>
      have hnamed (name : Bytes) :
          FlashCache.Stamped { cache.wait waitMs with serverName := name } := ⟨h.uri, h.sni⟩
      show (flashLoad ttlMinutes results purge (cache.wait waitMs)).2.Stamped
      rcases flashLoad_cases results purge with ⟨⟨name, hload⟩, -⟩ | ⟨-, name, hload⟩
      · rw [hload]
        exact hnamed name
      · rw [hload]
        exact (hnamed name).invalidate purge

theorem whole_flashStep_iff (h : cache.Whole) (hstamped : cache.Stamped) :
    (flashStep ttlMinutes cache event).1.Whole ↔ KeepsWhole ttlMinutes cache event := by
  obtain ⟨waitMs, call⟩ := event
  have hwait : (cache.wait waitMs).Whole := h
  cases call with
  | powerLoss loss => exact iff_of_true (hwait.lose loss) trivial
  | setServerName name => exact iff_of_true h trivial
  | store uri results => exact whole_flashStore_iff hwait ⟨hstamped.uri, hstamped.sni⟩
  | invalidate results => exact whole_flashInvalidate_iff hwait
  | load results purge =>
      have hnamed (name : Bytes) :
          FlashCache.Whole { cache.wait waitMs with serverName := name } := h
      show (flashLoad ttlMinutes results purge (cache.wait waitMs)).2.Whole ↔ _
      simp only [KeepsWhole]
      rcases flashLoad_cases results purge with ⟨⟨name, hload⟩, hkept⟩ | ⟨hpurged, name, hload⟩
      · rw [hload]
        exact iff_of_true (hnamed name) fun hinit hhandle hread =>
          absurd ⟨hinit, hhandle, hread⟩ hkept
      · rw [hload, whole_flashInvalidate_iff (hnamed name), imp_iff_right hpurged.1,
          imp_iff_right hpurged.2.1, imp_iff_right hpurged.2.2]
        exact Iff.rfl

end Step

/-- In a run from an empty flash no load delivers a mixture, at any time and behind any loss of
power, exactly if no call leaves an endpoint half changed. -/
theorem never_mixed_iff (ttlMinutes : Nat) (events : List FlashEvent) :
    (∀ before after, events = before ++ after →
        NeverMixed ttlMinutes (Machine.run (flashStep ttlMinutes) {} before).1) ↔
      Machine.EachStep (flashStep ttlMinutes) (KeepsWhole ttlMinutes) {} events := by
  simp only [neverMixed_iff]
  refine Machine.everyPrefix_iff (fun cache event hstamped => hstamped.step)
    (fun cache event hstamped hwhole => whole_flashStep_iff hwhole hstamped) ?_ ?_
  · exact ⟨fun uri huri => absurd (Cell.mayBe_mk.mp huri) (Option.some_ne_none uri),
      fun sni hsni => absurd (Cell.mayBe_mk.mp hsni) (Option.some_ne_none sni)⟩
  · exact fun uri ts sni huri => absurd (Cell.mayBe_mk.mp huri) (Option.some_ne_none uri)

/-- The second of two endpoints is not stored beyond its URI: it is loaded with the server name of
the first. -/
theorem second_endpoint_mixed :
    ¬ ∀ before after,
      ([⟨0, .setServerName [97]⟩, ⟨0, .store [1] {}⟩, ⟨0, .setServerName [98]⟩,
          ⟨0, .store [2] { sni := .fail }⟩] : List FlashEvent) = before ++ after →
        NeverMixed 60 (Machine.run (flashStep 60) {} before).1 := by
  intro h
  have hnow := (h _ [] (List.append_nil _).symm 0).1
  obtain ⟨call, huri, hname⟩ := hnow {} {} [2] (by decide) (by decide +kernel)
  have hcalls := (congrArg (Option.map CachedText.call) huri).trans
    (congrArg (Option.map CachedText.call) hname).symm
  exact absurd hcalls (by decide)

end SensorHmi
