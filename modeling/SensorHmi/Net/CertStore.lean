import SensorHmi.Lib.Machine
import SensorHmi.Lib.Octets
import SensorHmi.Platform

/-!
# Certificates and where they come from

`components/cert_store/cert_store.c`. A certificate is the one built into the image, or one found in
an NVS partition or in a SPIFFS file. The length counts the final NUL of the first only:
`certStore_counts_iff`.
-/

namespace SensorHmi

open Octets

/-- The three texts of the store. -/
inductive CertFile where
  | serverCert
  | serverKey
  | caCert
  deriving DecidableEq

/-- The name a text is looked for by in SPIFFS. -/
def CertFile.filename : CertFile → Bytes
  | .serverCert => ascii "server_cert.pem"
  | .serverKey => ascii "server_key.pem"
  | .caCert => ascii "ca_cert.pem"

/-- The options of `components/cert_store/Kconfig`. -/
structure CertStoreConfig where
  overrideFromNvs : Bool
  overrideFromSpiffs : Bool
  spiffsMountPoint : Bytes

/-- What the NVS calls for one key give, and the blob under it. -/
structure CertNvsCalls where
  initPartition : EspErr
  openPartition : EspErr
  blob : Bytes
  getSize : EspErr
  allocated : Bool
  getBlob : EspErr

/-- What the SPIFFS and file calls for one name give, and the file of that name. `fread` delivers
the first `read` octets. -/
structure CertSpiffsCalls where
  register : EspErr
  opened : Bool
  file : Bytes
  seeked : Bool
  told : Bool
  allocated : Bool
  read : Nat

/-- The calls of `cert_store_init_once`. -/
structure CertStoreCalls where
  nvs : CertFile → CertNvsCalls
  spiffs : CertFile → CertSpiffsCalls

/-- `cert_store_blob_t`; what a pointer points to stands for it. -/
structure CertStoreBlob where
  embedded : Bytes
  embeddedLen : Nat
  override : Option Bytes := none
  overrideLen : Nat := 0
  deriving DecidableEq

/-- A text of the image: `EMBED_TXTFILES` puts a NUL behind it, and the length is the difference of
its two symbols. -/
def CertStoreBlob.embed (text : Bytes) : CertStoreBlob where
  embedded := text ++ [0]
  embeddedLen := text.length + 1

/-- The static variables. -/
structure CertStore where
  blob : CertFile → CertStoreBlob
  initialized : Bool := false
  spiffsMounted : Bool := false

/-- `cert_store_load_from_nvs` -/
def certStoreLoadFromNvs (config : CertStoreConfig) (calls : CertNvsCalls) (blob : CertStoreBlob) :
    CertStoreBlob :=
  if config.overrideFromNvs then
    if blob.override.isSome then blob
    else if calls.initPartition ≠ .ok then blob
    else if calls.openPartition ≠ .ok then blob
    else if calls.getSize = .ok ∧ 0 < calls.blob.length then
      if !calls.allocated then blob
      else if calls.getBlob = .ok then
        { blob with override := some (calls.blob ++ [0]), overrideLen := calls.blob.length }
      else blob
    else blob
  else blob

/-- `cert_store_mount_spiffs`: the result and `s_spiffs_mounted`. -/
def certStoreMountSpiffs (config : CertStoreConfig) (register : EspErr) (mounted : Bool) :
    EspErr × Bool :=
  if config.overrideFromSpiffs then
    if mounted then (.ok, mounted)
    else if register = .ok then (.ok, true)
    else (register, mounted)
  else (.notSupported, mounted)

/-- The part of `cert_store_load_from_spiffs` behind the mount. -/
def certStoreReadSpiffs (config : CertStoreConfig) (filename : Bytes) (calls : CertSpiffsCalls)
    (blob : CertStoreBlob) : CertStoreBlob :=
  let written := config.spiffsMountPoint.length + 1 + filename.length
  if 128 ≤ written then blob
  else if !calls.opened then blob
  else if !calls.seeked then blob
  else if !calls.told ∨ calls.file.length = 0 then blob
  else if !calls.allocated then blob
  else
    let buffer := calls.file.take calls.read
    if buffer.length ≠ calls.file.length then blob
    else { blob with override := some (buffer ++ [0]), overrideLen := buffer.length }

/-- `cert_store_load_from_spiffs`: `s_spiffs_mounted` and the blob. -/
def certStoreLoadFromSpiffs (config : CertStoreConfig) (filename : Bytes) (calls : CertSpiffsCalls)
    (mounted : Bool) (blob : CertStoreBlob) : Bool × CertStoreBlob :=
  if config.overrideFromSpiffs then
    if blob.override.isSome then (mounted, blob)
    else
      let mount := certStoreMountSpiffs config calls.register mounted
      if mount.1 ≠ .ok then (mount.2, blob)
      else (mount.2, certStoreReadSpiffs config filename calls blob)
  else (mounted, blob)

section Store

variable (config : CertStoreConfig) (calls : CertStoreCalls)

/-- `cert_store_load_from_nvs` on one of the static blobs. -/
def CertStore.loadNvs (store : CertStore) (file : CertFile) : CertStore :=
  { store with
    blob := Function.update store.blob file
      (certStoreLoadFromNvs config (calls.nvs file) (store.blob file)) }

/-- `cert_store_load_from_spiffs` on one of the static blobs. -/
def CertStore.loadSpiffs (store : CertStore) (file : CertFile) : CertStore :=
  let loaded := certStoreLoadFromSpiffs config file.filename (calls.spiffs file)
    store.spiffsMounted (store.blob file)
  { store with blob := Function.update store.blob file loaded.2, spiffsMounted := loaded.1 }

/-- The six loads of `cert_store_init_once`. -/
def CertStore.load (store : CertStore) : CertStore :=
  let store := store.loadNvs config calls .serverCert
  let store := store.loadNvs config calls .serverKey
  let store := store.loadNvs config calls .caCert
  let store := store.loadSpiffs config calls .serverCert
  let store := store.loadSpiffs config calls .serverKey
  store.loadSpiffs config calls .caCert

/-- `cert_store_init_once` -/
def certStoreInitOnce (store : CertStore) : CertStore :=
  if store.initialized then store
  else CertStore.load config calls { store with initialized := true }

/-- `cert_store_select_blob`, the body of `cert_store_server_cert`, `cert_store_server_key` and
`cert_store_ca_cert`: what the pointer points to, and the length. -/
def certStoreSelectBlob (store : CertStore) (file : CertFile) :
    CertStore × List (Bytes × Nat) :=
  let store := certStoreInitOnce config calls store
  let blob := store.blob file
  if blob.override.isSome ∧ 0 < blob.overrideLen then
    (store, [(blob.override.getD [], blob.overrideLen)])
  else (store, [(blob.embedded, blob.embeddedLen)])

end Store

/-- The store of an image with these texts. -/
def CertStore.start (texts : CertFile → Bytes) : CertStore where
  blob := fun file => .embed (texts file)

/-- The length counts a NUL at the end. -/
def CountsNul (result : Bytes × Nat) : Prop :=
  (result.1.take result.2).getLast? = some 0

instance (result : Bytes × Nat) : Decidable (CountsNul result) :=
  inferInstanceAs (Decidable (_ = _))

/-- Every call that a load from NVS needs succeeds. -/
def CertNvsCalls.Loads (config : CertStoreConfig) (calls : CertNvsCalls) : Prop :=
  config.overrideFromNvs = true ∧ calls.initPartition = .ok ∧ calls.openPartition = .ok ∧
    calls.getSize = .ok ∧ 0 < calls.blob.length ∧ calls.allocated = true ∧ calls.getBlob = .ok

/-- Every call behind the mount that a load from SPIFFS needs succeeds. -/
def CertSpiffsCalls.Reads (config : CertStoreConfig) (filename : Bytes) (calls : CertSpiffsCalls) :
    Prop :=
  config.spiffsMountPoint.length + 1 + filename.length < 128 ∧ calls.opened = true ∧
    calls.seeked = true ∧ calls.told = true ∧ 0 < calls.file.length ∧ calls.allocated = true ∧
    calls.file.length ≤ calls.read

/-- The texts that are looked for in SPIFFS up to this one. -/
def CertFile.upTo : CertFile → List CertFile
  | .serverCert => [.serverCert]
  | .serverKey => [.serverCert, .serverKey]
  | .caCert => [.serverCert, .serverKey, .caCert]

/-- An override is loaded: from NVS, or from SPIFFS, which is mounted with the first text that is
looked for there while the mount succeeds. -/
def CertStoreCalls.Overridden (config : CertStoreConfig) (calls : CertStoreCalls)
    (file : CertFile) : Prop :=
  (calls.nvs file).Loads config ∨
    config.overrideFromSpiffs = true ∧ (calls.spiffs file).Reads config file.filename ∧
      ∃ earlier ∈ file.upTo,
        ¬ (calls.nvs earlier).Loads config ∧ (calls.spiffs earlier).register = .ok

/-- A blob with its text from the image, or with an override that has no NUL in it. -/
def CertStoreBlob.WellFormed (text : Bytes) (blob : CertStoreBlob) : Prop :=
  blob = .embed text ∨ ∃ content : Bytes, content ≠ [] ∧ 0 ∉ content ∧
    blob = { CertStoreBlob.embed text with
      override := some (content ++ [0]), overrideLen := content.length }

section Loads

variable {config : CertStoreConfig} {blob : CertStoreBlob} {text filename : Bytes} {mounted : Bool}

theorem certStoreLoadFromNvs_of_not_loads {calls : CertNvsCalls} (h : ¬ calls.Loads config) :
    certStoreLoadFromNvs config calls blob = blob := by
  rw [certStoreLoadFromNvs]
  split_ifs with hconfig hset hinit hopen hsize halloc hget
  · rfl
  · rfl
  · rfl
  · rfl
  · refine absurd ⟨hconfig, not_not.mp hinit, not_not.mp hopen, hsize.1, hsize.2, ?_, hget⟩ h
    simpa using halloc
  · rfl
  · rfl
  · rfl

theorem certStoreLoadFromNvs_of_loads {calls : CertNvsCalls} (h : calls.Loads config)
    (hnone : blob.override = none) :
    certStoreLoadFromNvs config calls blob =
      { blob with override := some (calls.blob ++ [0]), overrideLen := calls.blob.length } := by
  obtain ⟨hconfig, hinit, hopen, hsize, hlength, halloc, hget⟩ := h
  simp [certStoreLoadFromNvs, hconfig, hnone, hinit, hopen, hsize, hlength, halloc, hget]

theorem certStoreReadSpiffs_of_not_reads {calls : CertSpiffsCalls}
    (h : ¬ calls.Reads config filename) :
      certStoreReadSpiffs config filename calls blob = blob := by
  simp only [certStoreReadSpiffs]
  split_ifs with hpath hopen hseek htell halloc hshort
  · rfl
  · rfl
  · rfl
  · rfl
  · rfl
  · rfl
  · obtain ⟨htold, hlength⟩ := not_or.mp htell
    rw [List.length_take] at hshort
    refine absurd ⟨Nat.lt_of_not_le hpath, ?_, ?_, ?_, Nat.pos_of_ne_zero hlength, ?_, ?_⟩ h
    · simpa using hopen
    · simpa using hseek
    · simpa using htold
    · simpa using halloc
    · omega

theorem certStoreReadSpiffs_of_reads {calls : CertSpiffsCalls} (h : calls.Reads config filename) :
    certStoreReadSpiffs config filename calls blob =
      { blob with override := some (calls.file ++ [0]), overrideLen := calls.file.length } := by
  obtain ⟨hpath, hopen, hseek, htell, hlength, halloc, hread⟩ := h
  have hlength' : calls.file.length ≠ 0 := hlength.ne'
  simp only [certStoreReadSpiffs, List.take_of_length_le hread, hopen, hseek, htell, halloc,
    Bool.not_true, Bool.false_eq_true, false_or, if_false, if_neg (Nat.not_le.mpr hpath),
    if_neg hlength', ne_eq, not_true]

/-- SPIFFS is mounted once a text without an override is looked for and the mount succeeds. -/
theorem certStoreLoadFromSpiffs_mounted {calls : CertSpiffsCalls} :
    (certStoreLoadFromSpiffs config filename calls mounted blob).1 = true ↔
      mounted = true ∨
        config.overrideFromSpiffs = true ∧ blob.override = none ∧ calls.register = .ok := by
  cases hconfig : config.overrideFromSpiffs
  · simp [certStoreLoadFromSpiffs, hconfig]
  · cases hset : blob.override
    · cases mounted <;> by_cases hregister : calls.register = .ok <;>
        simp [certStoreLoadFromSpiffs, certStoreMountSpiffs, hconfig, hset, hregister]
    · simp [certStoreLoadFromSpiffs, hconfig, hset]

/-- The blob after a load from SPIFFS. -/
theorem certStoreLoadFromSpiffs_blob {calls : CertSpiffsCalls} :
    (certStoreLoadFromSpiffs config filename calls mounted blob).2 =
      if config.overrideFromSpiffs = true ∧ blob.override = none ∧
          (mounted = true ∨ calls.register = .ok) then
        certStoreReadSpiffs config filename calls blob
      else blob := by
  cases hconfig : config.overrideFromSpiffs
  · simp [certStoreLoadFromSpiffs, hconfig]
  · cases hset : blob.override
    · cases mounted <;> by_cases hregister : calls.register = .ok <;>
        simp [certStoreLoadFromSpiffs, certStoreMountSpiffs, hconfig, hset, hregister]
    · simp [certStoreLoadFromSpiffs, hconfig, hset]

theorem certStoreLoadFromNvs_override {calls : CertNvsCalls} :
    (certStoreLoadFromNvs config calls blob).override = none ↔
      blob.override = none ∧ ¬ calls.Loads config := by
  by_cases hloads : calls.Loads config
  · cases hset : blob.override
    · simp [certStoreLoadFromNvs_of_loads hloads hset, hloads]
    · simp [certStoreLoadFromNvs, hset]
  · simp [certStoreLoadFromNvs_of_not_loads hloads, hloads]

theorem certStoreLoadFromSpiffs_override {calls : CertSpiffsCalls} :
    (certStoreLoadFromSpiffs config filename calls mounted blob).2.override = none ↔
      blob.override = none ∧ ¬ (config.overrideFromSpiffs = true ∧ calls.Reads config filename ∧
        (mounted = true ∨ calls.register = .ok)) := by
  rw [certStoreLoadFromSpiffs_blob]
  by_cases hreads : calls.Reads config filename
  · split_ifs with hmount
    · simp [certStoreReadSpiffs_of_reads hreads, hmount.1, hmount.2.2, hreads]
    · simp only [hreads, true_and]
      exact ⟨fun hnone => ⟨hnone, fun hboth => hmount ⟨hboth.1, hnone, hboth.2⟩⟩, And.left⟩
  · simp [certStoreReadSpiffs_of_not_reads hreads, hreads]

theorem CertStoreBlob.WellFormed.loadFromNvs {calls : CertNvsCalls} (hnul : 0 ∉ calls.blob)
    (h : blob.WellFormed text) : (certStoreLoadFromNvs config calls blob).WellFormed text := by
  by_cases hloads : calls.Loads config
  · rcases h with rfl | ⟨content, hpos, hfree, rfl⟩
    · rw [certStoreLoadFromNvs_of_loads hloads rfl]
      exact Or.inr ⟨calls.blob, List.length_pos_iff.mp hloads.2.2.2.2.1, hnul, rfl⟩
    · refine Or.inr ⟨content, hpos, hfree, ?_⟩
      simp [certStoreLoadFromNvs]
  · rwa [certStoreLoadFromNvs_of_not_loads hloads]

theorem CertStoreBlob.WellFormed.loadFromSpiffs {calls : CertSpiffsCalls} (hnul : 0 ∉ calls.file)
    (h : blob.WellFormed text) :
    (certStoreLoadFromSpiffs config filename calls mounted blob).2.WellFormed text := by
  rw [certStoreLoadFromSpiffs_blob]
  split_ifs with hmount
  · by_cases hreads : calls.Reads config filename
    · rw [certStoreReadSpiffs_of_reads hreads]
      rcases h with rfl | ⟨content, hpos, hfree, rfl⟩
      · exact Or.inr ⟨calls.file, List.length_pos_iff.mp hreads.2.2.2.2.1, hnul, rfl⟩
      · exact absurd hmount.2.1 (Option.some_ne_none _)
    · rwa [certStoreReadSpiffs_of_not_reads hreads]
  · exact h

end Loads

section Load

variable {config : CertStoreConfig} {calls : CertStoreCalls} {store : CertStore}
  {texts : CertFile → Bytes} {file other : CertFile}

/-- Every blob of the store is well formed. -/
def CertStore.WellFormed (texts : CertFile → Bytes) (store : CertStore) : Prop :=
  ∀ file, (store.blob file).WellFormed (texts file)

/-- No override has a NUL in it. -/
def CertStoreCalls.NulFree (calls : CertStoreCalls) : Prop :=
  ∀ file, 0 ∉ (calls.nvs file).blob ∧ 0 ∉ (calls.spiffs file).file

theorem CertStore.WellFormed.loadNvs (hnul : calls.NulFree) (h : store.WellFormed texts)
    (file : CertFile) : (store.loadNvs config calls file).WellFormed texts := by
  intro other
  by_cases hother : other = file
  · subst hother
    simpa [CertStore.loadNvs] using (h other).loadFromNvs (hnul other).1
  · simpa [CertStore.loadNvs, Function.update_of_ne hother] using h other

theorem CertStore.WellFormed.loadSpiffs (hnul : calls.NulFree) (h : store.WellFormed texts)
    (file : CertFile) : (store.loadSpiffs config calls file).WellFormed texts := by
  intro other
  by_cases hother : other = file
  · subst hother
    simpa [CertStore.loadSpiffs] using (h other).loadFromSpiffs (hnul other).2
  · simpa [CertStore.loadSpiffs, Function.update_of_ne hother] using h other

theorem CertStore.WellFormed.load (hnul : calls.NulFree) (h : store.WellFormed texts) :
    (store.load config calls).WellFormed texts :=
  (((((h.loadNvs hnul _).loadNvs hnul _).loadNvs hnul _).loadSpiffs hnul _).loadSpiffs hnul
    _).loadSpiffs hnul _

@[simp] theorem CertStore.spiffsMounted_loadNvs :
    (store.loadNvs config calls file).spiffsMounted = store.spiffsMounted := rfl

theorem CertStore.override_loadNvs :
    ((store.loadNvs config calls file).blob other).override = none ↔
      (store.blob other).override = none ∧
        (other = file → ¬ (calls.nvs file).Loads config) := by
  by_cases hother : other = file
  · subst hother
    simp [CertStore.loadNvs, certStoreLoadFromNvs_override]
  · simp [CertStore.loadNvs, hother]

theorem CertStore.spiffsMounted_loadSpiffs :
    (store.loadSpiffs config calls file).spiffsMounted = true ↔
      store.spiffsMounted = true ∨ config.overrideFromSpiffs = true ∧
        (store.blob file).override = none ∧ (calls.spiffs file).register = .ok :=
  certStoreLoadFromSpiffs_mounted

theorem CertStore.override_loadSpiffs :
    ((store.loadSpiffs config calls file).blob other).override = none ↔
      (store.blob other).override = none ∧ (other = file →
        ¬ (config.overrideFromSpiffs = true ∧ (calls.spiffs file).Reads config file.filename ∧
          (store.spiffsMounted = true ∨ (calls.spiffs file).register = .ok))) := by
  by_cases hother : other = file
  · subst hother
    simp [CertStore.loadSpiffs, certStoreLoadFromSpiffs_override]
  · simp [CertStore.loadSpiffs, hother]

/-- A text has no override after the loads exactly if none is found. -/
theorem CertStore.override_load (texts : CertFile → Bytes) (initialized : Bool) :
    (((CertStore.mk (fun file => .embed (texts file)) initialized false).load config calls).blob
        file).override = none ↔ ¬ calls.Overridden config file := by
  have hnone (text : Bytes) : (CertStoreBlob.embed text).override = none := rfl
  simp only [CertStore.load, CertStore.override_loadSpiffs, CertStore.override_loadNvs,
    CertStore.spiffsMounted_loadSpiffs, CertStore.spiffsMounted_loadNvs, hnone,
    CertStoreCalls.Overridden]
  cases file with
  | serverCert =>
      simp only [CertFile.upTo, List.mem_cons, List.not_mem_nil, exists_eq_left, reduceCtorEq,
        false_imp_iff, true_imp_iff, or_false, and_true]
      tauto
  | serverKey =>
      simp only [CertFile.upTo, List.mem_cons, List.not_mem_nil, exists_eq_or_imp,
        exists_eq_left, reduceCtorEq, false_imp_iff, true_imp_iff, or_false, and_true]
      tauto
  | caCert =>
      simp only [CertFile.upTo, List.mem_cons, List.not_mem_nil, exists_eq_or_imp,
        exists_eq_left, reduceCtorEq, false_imp_iff, true_imp_iff, or_false, and_true]
      tauto

/-- The store after its first use. -/
def CertStore.used (config : CertStoreConfig) (calls : CertStoreCalls) (texts : CertFile → Bytes) :
    CertStore :=
  certStoreInitOnce config calls (.start texts)

/-- The store is initialised by its first use and not again. -/
theorem certStoreInitOnce_used (h : store = .start texts ∨ store = .used config calls texts) :
    certStoreInitOnce config calls store = .used config calls texts := by
  rcases h with rfl | rfl
  · rfl
  · exact if_pos (show (CertStore.used config calls texts).initialized = true from rfl)

/-- What is returned counts a NUL at the end exactly if the text has no override. -/
theorem countsNul_select_iff (h : (certStoreInitOnce config calls store).WellFormed texts) :
    (∀ result ∈ (certStoreSelectBlob config calls store file).2, CountsNul result) ↔
      ((certStoreInitOnce config calls store).blob file).override = none := by
  rw [certStoreSelectBlob]
  rcases h file with hembed | ⟨content, hpos, hfree, hoverride⟩
  · rw [hembed]
    refine iff_of_true (fun result hmem => ?_) rfl
    obtain rfl := List.mem_singleton.mp hmem
    have hall : (texts file ++ [0]).take ((texts file).length + 1) = texts file ++ [0] :=
      List.take_of_length_le (by simp)
    rw [CountsNul, CertStoreBlob.embed, hall]
    exact List.getLast?_concat
  · rw [hoverride]
    refine iff_of_false (fun hall => ?_) (Option.some_ne_none _)
    have hlength := List.length_pos_iff.mpr hpos
    have hcounts := hall (content ++ [0], content.length) (by simp [hlength])
    rw [CountsNul, List.take_left] at hcounts
    exact hfree (List.mem_of_getLast? hcounts)

/-- Each use returns what a first use returns. -/
theorem select_first (h : store = .start texts ∨ store = .used config calls texts) :
    (certStoreSelectBlob config calls store file).1 = .used config calls texts ∧
      (certStoreSelectBlob config calls store file).2 =
        (certStoreSelectBlob config calls (.start texts) file).2 := by
  rw [certStoreSelectBlob, certStoreSelectBlob, certStoreInitOnce_used h,
    certStoreInitOnce_used (Or.inl rfl)]
  split_ifs
  · exact ⟨rfl, rfl⟩
  · exact ⟨rfl, rfl⟩

theorem run_select (files : List CertFile)
    (h : store = .start texts ∨ store = .used config calls texts) :
    (Machine.run (certStoreSelectBlob config calls) store files).2 =
      files.flatMap fun file => (certStoreSelectBlob config calls (.start texts) file).2 := by
  induction files generalizing store with
  | nil => rfl
  | cons file rest ih =>
      obtain ⟨hstore, houtput⟩ := @select_first config calls store texts file h
      rw [Machine.run_cons, List.flatMap_cons, houtput, hstore, ih (Or.inr rfl)]

end Load

/-- A load that fails leaves the blob as it was. -/
def FailedLoadsKeep (config : CertStoreConfig) (calls : CertStoreCalls) : Prop :=
  ∀ (file : CertFile) (mounted : Bool) (blob : CertStoreBlob),
    (¬ (calls.nvs file).Loads config →
      certStoreLoadFromNvs config (calls.nvs file) blob = blob) ∧
    (¬ ((calls.spiffs file).Reads config file.filename ∧
        (mounted = true ∨ (calls.spiffs file).register = .ok)) →
      (certStoreLoadFromSpiffs config file.filename (calls.spiffs file) mounted blob).2 = blob)

theorem failedLoadsKeep (config : CertStoreConfig) (calls : CertStoreCalls) :
    FailedLoadsKeep config calls := by
  intro file mounted blob
  refine ⟨certStoreLoadFromNvs_of_not_loads, fun h => ?_⟩
  rw [certStoreLoadFromSpiffs_blob]
  split_ifs with hmount
  · exact certStoreReadSpiffs_of_not_reads fun hreads => h ⟨hreads, hmount.2.2⟩
  · rfl

/-- However the store is used, failed loads keep the blobs, and every length counts a final NUL,
exactly if no override is loaded for a text that is asked for. -/
theorem certStore_counts_iff (config : CertStoreConfig) (calls : CertStoreCalls)
    (texts : CertFile → Bytes) (files : List CertFile) (hnul : calls.NulFree) :
    ((∀ result ∈ (Machine.run (certStoreSelectBlob config calls) (.start texts) files).2,
        CountsNul result) ∧ FailedLoadsKeep config calls) ↔
      ∀ file ∈ files, ¬ calls.Overridden config file := by
  have hstart : CertStore.WellFormed texts
      (CertStore.mk (fun file => .embed (texts file)) true false) := fun file => Or.inl rfl
  have hselect (file : CertFile) :
      (∀ result ∈ (certStoreSelectBlob config calls (.start texts) file).2, CountsNul result) ↔
        ¬ calls.Overridden config file := by
    rw [← CertStore.override_load texts true]
    exact countsNul_select_iff (hstart.load hnul)
  rw [and_iff_left (failedLoadsKeep config calls), run_select files (Or.inl rfl)]
  simp only [List.forall_mem_flatMap, hselect]

/-- The calls when NVS has this blob under every key, and there is no SPIFFS partition. -/
def nvsBlobCalls (blob : Bytes) : CertStoreCalls where
  nvs := fun _ =>
    { initPartition := .ok
      openPartition := .ok
      blob := blob
      getSize := .ok
      allocated := true
      getBlob := .ok }
  spiffs := fun _ =>
    { register := .notFound
      opened := false
      file := []
      seeked := false
      told := false
      allocated := false
      read := 0 }

/-- The options as they are by default. -/
def certStoreDefaults : CertStoreConfig where
  overrideFromNvs := true
  overrideFromSpiffs := true
  spiffsMountPoint := ascii "/certs"

theorem certStore_counts_iff_single_character :
    ((∀ result ∈ (Machine.run (certStoreSelectBlob certStoreDefaults (nvsBlobCalls [65]))
          (.start fun _ => [66]) [.serverCert]).2, CountsNul result) ∧
        FailedLoadsKeep certStoreDefaults (nvsBlobCalls [65])) ↔
      ∀ file ∈ [CertFile.serverCert], ¬ (nvsBlobCalls [65]).Overridden certStoreDefaults file :=
  certStore_counts_iff certStoreDefaults (nvsBlobCalls [65]) (fun _ => [66]) [.serverCert]
    fun _ => ⟨show (0 : UInt8) ∉ [65] by decide, List.not_mem_nil⟩

/-- A blob of one character is returned with the length one. -/
theorem nvs_blob_not_counted :
    ¬ ((∀ result ∈ (Machine.run (certStoreSelectBlob certStoreDefaults (nvsBlobCalls [65]))
          (.start fun _ => [66]) [.serverCert]).2, CountsNul result) ∧
        FailedLoadsKeep certStoreDefaults (nvsBlobCalls [65])) :=
  fun h => absurd h.1 (by decide)

end SensorHmi
