import SensorHmi.Lib.Machine
import SensorHmi.Lib.Octets
import SensorHmi.Platform
import SensorHmi.Proto.Messages

/-!
# The preferences of the HMI

The preferences in `hmi_node/main/data_model.c` and their store, `hmi_node/main/prefs_store.c`. What
is set is not sanitised like what is stored: `preferences_kept_iff`. A reset clears the first
character of the credentials only: `reset_forgets_iff`.
-/

namespace SensorHmi

open Octets

/-- `hmi_user_preferences_t`; the language is any value the enumeration's type can hold. -/
structure HmiUserPreferences where
  ssid : Vector UInt8 33
  password : Vector UInt8 65
  mdnsTarget : Vector UInt8 64
  darkTheme : Bool
  useFahrenheit : Bool
  highContrast : Bool
  largeTouchTargets : Bool
  textScalePercent : UInt8
  language : UInt32
  deriving DecidableEq

/-- `HMI_LANGUAGE_EN` and `HMI_LANGUAGE_MAX` -/
def hmiLanguageEn : UInt32 := 0

def hmiLanguageMax : UInt32 := 2

/-- `strncpy(dest, src, n)`: what is left of the `n` octets is zero. -/
def strncpy {size : Nat} (dest : Vector UInt8 size) (src : Bytes) (n : Nat) : Vector UInt8 size :=
  Vector.ofFn fun i => if i.val < n then (cString src).getD i 0 else dest.get i

/-- `sanitize_preferences`, the same in both files. -/
def sanitizePreferences (prefs : HmiUserPreferences) : HmiUserPreferences :=
  { prefs with
    ssid := prefs.ssid.setIfInBounds 32 0
    password := prefs.password.setIfInBounds 64 0
    mdnsTarget := prefs.mdnsTarget.setIfInBounds 63 0
    textScalePercent :=
      if prefs.textScalePercent < 80 ∨ 140 < prefs.textScalePercent then 100
      else prefs.textScalePercent
    language := if hmiLanguageMax ≤ prefs.language then hmiLanguageEn else prefs.language }

/-- `hmi_data_model_set_default_preferences` -/
def hmiDataModelSetDefaultPreferences (prefs : HmiUserPreferences) : HmiUserPreferences :=
  sanitizePreferences
    { darkTheme := true
      useFahrenheit := false
      highContrast := false
      largeTouchTargets := false
      textScalePercent := 100
      language := hmiLanguageEn
      ssid := prefs.ssid.setIfInBounds 0 0
      password := prefs.password.setIfInBounds 0 0
      mdnsTarget := (strncpy prefs.mdnsTarget (ascii "sensor-node.local") 63).setIfInBounds 63 0 }

/-- `hmi_data_model_t` -/
structure HmiDataModel where
  lastUpdate : ProtoSensorUpdate := {}
  hasUpdate : Bool := false
  connected : Bool := false
  lastCrcOk : Bool := false
  preferences : HmiUserPreferences
  deriving DecidableEq

/-- Preferences behind `memset`. -/
def zeroedPreferences : HmiUserPreferences where
  ssid := Vector.replicate 33 0
  password := Vector.replicate 65 0
  mdnsTarget := Vector.replicate 64 0
  darkTheme := false
  useFahrenheit := false
  highContrast := false
  largeTouchTargets := false
  textScalePercent := 0
  language := 0

/-- `hmi_prefs_store_load` of the blob there is, if any. -/
def hmiPrefsStoreLoad (blob : Option HmiUserPreferences) : Except EspErr HmiUserPreferences :=
  match blob with
  | none => .error .nvsNotFound
  | some prefs => .ok (sanitizePreferences prefs)

/-- `hmi_prefs_store_save`: the blob it stores. -/
def hmiPrefsStoreSave (prefs : HmiUserPreferences) : HmiUserPreferences :=
  sanitizePreferences prefs

/-- `hmi_data_model_init` -/
def hmiDataModelInit (blob : Option HmiUserPreferences) : HmiDataModel :=
  let model : HmiDataModel :=
    { preferences := hmiDataModelSetDefaultPreferences zeroedPreferences, lastCrcOk := true }
  match hmiPrefsStoreLoad blob with
  | .ok stored => { model with preferences := sanitizePreferences stored }
  | .error _ => model

/-- `hmi_data_model_get_preferences`: what it leaves in `out`. -/
def hmiDataModelGetPreferences (locked : Bool) (model : HmiDataModel) (out : HmiUserPreferences) :
    HmiUserPreferences :=
  if locked then model.preferences else out

/-- `hmi_data_model_set_preferences` -/
def hmiDataModelSetPreferences (locked : Bool) (model : HmiDataModel)
    (prefs : HmiUserPreferences) : HmiDataModel :=
  if locked then
    let own := model.preferences
    { model with
      preferences :=
        { ssid := (strncpy own.ssid prefs.ssid.toList 32).setIfInBounds 32 0
          password := (strncpy own.password prefs.password.toList 64).setIfInBounds 64 0
          mdnsTarget := (strncpy own.mdnsTarget prefs.mdnsTarget.toList 63).setIfInBounds 63 0
          darkTheme := prefs.darkTheme
          useFahrenheit := prefs.useFahrenheit
          highContrast := prefs.highContrast
          largeTouchTargets := prefs.largeTouchTargets
          textScalePercent := prefs.textScalePercent
          language := if prefs.language < hmiLanguageMax then prefs.language else hmiLanguageEn } }
  else model

/-- `hmi_data_model_reset_preferences` -/
def hmiDataModelResetPreferences (locked : Bool) (model : HmiDataModel) : HmiDataModel :=
  if locked then { model with preferences := hmiDataModelSetDefaultPreferences model.preferences }
  else model

/-- The model and the stored blob. -/
structure HmiPrefsState where
  model : HmiDataModel
  blob : Option HmiUserPreferences

/-- The calls on the preferences. A reboot initialises the model from the blob. -/
inductive HmiPrefsEvent
  | reboot
  | set (prefs : HmiUserPreferences)
  | reset
  | save (prefs : HmiUserPreferences)

/-- One call, with NVS and locks succeeding. -/
def hmiPrefsStep (state : HmiPrefsState) : HmiPrefsEvent → HmiPrefsState × List Unit
  | .reboot => ({ state with model := hmiDataModelInit state.blob }, [])
  | .set prefs => ({ state with model := hmiDataModelSetPreferences true state.model prefs }, [])
  | .reset => ({ state with model := hmiDataModelResetPreferences true state.model }, [])
  | .save prefs => ({ state with blob := some (hmiPrefsStoreSave prefs) }, [])

/-- Preferences as they are to be: in range, and strings that end. -/
structure HmiUserPreferences.Sane (prefs : HmiUserPreferences) : Prop where
  scale : 80 ≤ prefs.textScalePercent ∧ prefs.textScalePercent ≤ 140
  language : prefs.language < hmiLanguageMax
  ssid : 0 ∈ prefs.ssid.toList
  password : 0 ∈ prefs.password.toList
  mdnsTarget : 0 ∈ prefs.mdnsTarget.toList

/-- The same preferences, whatever is behind the ends of the strings. -/
structure HmiUserPreferences.Alike (prefs other : HmiUserPreferences) : Prop where
  ssid : cString prefs.ssid.toList = cString other.ssid.toList
  password : cString prefs.password.toList = cString other.password.toList
  mdnsTarget : cString prefs.mdnsTarget.toList = cString other.mdnsTarget.toList
  darkTheme : prefs.darkTheme = other.darkTheme
  useFahrenheit : prefs.useFahrenheit = other.useFahrenheit
  highContrast : prefs.highContrast = other.highContrast
  largeTouchTargets : prefs.largeTouchTargets = other.largeTouchTargets
  textScalePercent : prefs.textScalePercent = other.textScalePercent
  language : prefs.language = other.language

section Strings

variable {n : Nat}

theorem toList_terminated (field : Vector UInt8 (n + 1)) :
    (field.setIfInBounds n 0).toList = field.toList.take n ++ [0] := by
  refine List.ext_getElem (by simp) fun i hleft hright => ?_
  rw [Vector.getElem_toList, Vector.getElem_setIfInBounds]
  have hi : i < n + 1 := by simpa using hleft
  split_ifs with hlast
  · subst hlast
    simp
  · rw [List.getElem_append_left (by simp; omega)]
    simp

/-- A terminated field has the first `n` characters of the string that was there. -/
theorem cString_terminated (field : Vector UInt8 (n + 1)) :
    cString (field.setIfInBounds n 0).toList = (cString field.toList).take n := by
  have hnul (octets : Bytes) : cString (octets ++ [0]) = cString octets := by
    induction octets with
    | nil => rfl
    | cons octet rest ih =>
        rw [List.cons_append, cString, cString, List.takeWhile_cons, List.takeWhile_cons]
        split_ifs
        · exact congrArg (octet :: ·) ih
        · rfl
  rw [toList_terminated, hnul, cString, cString, List.take_takeWhile]

/-- A copied field has the first `n` characters of its source. -/
theorem cString_strncpy (dest : Vector UInt8 (n + 1)) (src : Bytes) :
    cString ((strncpy dest src n).setIfInBounds n 0).toList = (cString src).take n := by
  have hchars : ∀ octet ∈ (cString src).take n, octet ≠ 0 := by
    intro octet hmem
    simpa using List.mem_takeWhile_imp (List.mem_of_mem_take hmem)
  have hlist : ((strncpy dest src n).setIfInBounds n 0).toList =
      (cString src).take n ++ 0 :: List.replicate (n - (cString src).length) 0 := by
    refine List.ext_getElem (by simp; omega) fun i hleft hright => ?_
    have hi : i < n + 1 := by simpa using hleft
    rw [Vector.getElem_toList, Vector.getElem_setIfInBounds]
    by_cases hin : i < ((cString src).take n).length
    · have hboth := hin
      rw [List.length_take] at hboth
      rw [if_neg (by omega), List.getElem_append_left hin]
      simp only [strncpy, Vector.getElem_ofFn]
      rw [if_pos (by omega), List.getD_eq_getElem _ _ (by omega), List.getElem_take]
    · have hpad : ((cString src).take n ++ 0 :: List.replicate (n - (cString src).length) 0)[i] =
          0 := by
        rw [List.getElem_append_right (by omega)]
        exact @List.eq_of_mem_replicate _ _ _ (n - (cString src).length + 1) (List.getElem_mem _)
      rw [hpad]
      split_ifs with hlast
      · rfl
      · rw [List.length_take] at hin
        simp only [strncpy, Vector.getElem_ofFn]
        rw [if_pos (by omega), List.getD_eq_default _ _ (by omega)]
  rw [hlist, cString_append_nul hchars]

theorem zero_mem_terminated (field : Vector UInt8 (n + 1)) :
    0 ∈ (field.setIfInBounds n 0).toList := by
  rw [toList_terminated]
  exact List.mem_append_right _ List.mem_cons_self

end Strings

section Kept

variable {prefs : HmiUserPreferences} {state : HmiPrefsState} {event : HmiPrefsEvent}

theorem sanitizePreferences_sane (prefs : HmiUserPreferences) :
    (sanitizePreferences prefs).Sane where
  scale := by
    simp only [sanitizePreferences]
    split_ifs with hout
    · decide
    · obtain ⟨hlow, hhigh⟩ := not_or.mp hout
      exact ⟨UInt8.not_lt.mp hlow, UInt8.not_lt.mp hhigh⟩
  language := by
    simp only [sanitizePreferences]
    split_ifs with hout
    · decide
    · exact UInt32.not_le.mp hout
  ssid := @zero_mem_terminated 32 prefs.ssid
  password := @zero_mem_terminated 64 prefs.password
  mdnsTarget := @zero_mem_terminated 63 prefs.mdnsTarget

theorem hmiDataModelInit_sane (blob : Option HmiUserPreferences) :
    (hmiDataModelInit blob).preferences.Sane := by
  cases blob with
  | none => exact sanitizePreferences_sane _
  | some stored => exact sanitizePreferences_sane _

/-- Preferences that are set are sane exactly if their text scale is. -/
theorem set_sane_iff (model : HmiDataModel) (prefs : HmiUserPreferences) :
    (hmiDataModelSetPreferences true model prefs).preferences.Sane ↔
      80 ≤ prefs.textScalePercent ∧ prefs.textScalePercent ≤ 140 := by
  simp only [hmiDataModelSetPreferences, if_true]
  constructor
  · exact fun h => h.scale
  · intro h
    refine ⟨h, ?_, @zero_mem_terminated 32 _, @zero_mem_terminated 64 _, @zero_mem_terminated 63 _⟩
    show (if _ then _ else _) < hmiLanguageMax
    split_ifs with hlanguage
    · exact hlanguage
    · decide

theorem HmiUserPreferences.Alike.trans {first second third : HmiUserPreferences}
    (h : first.Alike second) (hnext : second.Alike third) : first.Alike third where
  ssid := h.ssid.trans hnext.ssid
  password := h.password.trans hnext.password
  mdnsTarget := h.mdnsTarget.trans hnext.mdnsTarget
  darkTheme := h.darkTheme.trans hnext.darkTheme
  useFahrenheit := h.useFahrenheit.trans hnext.useFahrenheit
  highContrast := h.highContrast.trans hnext.highContrast
  largeTouchTargets := h.largeTouchTargets.trans hnext.largeTouchTargets
  textScalePercent := h.textScalePercent.trans hnext.textScalePercent
  language := h.language.trans hnext.language

theorem HmiUserPreferences.Alike.symm {first second : HmiUserPreferences}
    (h : first.Alike second) : second.Alike first where
  ssid := h.ssid.symm
  password := h.password.symm
  mdnsTarget := h.mdnsTarget.symm
  darkTheme := h.darkTheme.symm
  useFahrenheit := h.useFahrenheit.symm
  highContrast := h.highContrast.symm
  largeTouchTargets := h.largeTouchTargets.symm
  textScalePercent := h.textScalePercent.symm
  language := h.language.symm

/-- Sane preferences are what they were when they are sanitised. -/
theorem sanitizePreferences_alike (h : prefs.Sane) : (sanitizePreferences prefs).Alike prefs := by
  have hstring {n : Nat} {field : Vector UInt8 (n + 1)} (hends : 0 ∈ field.toList) :
      cString (field.setIfInBounds n 0).toList = cString field.toList := by
    rw [cString_terminated, List.take_of_length_le]
    by_contra hlong
    have hall : cString field.toList = field.toList := by
      refine (List.takeWhile_prefix _).eq_of_length_le ?_
      rw [Vector.length_toList]
      exact Nat.lt_of_not_le hlong
    rw [← hall] at hends
    exact absurd (List.mem_takeWhile_imp hends) (by decide)
  have hscale : ¬ (prefs.textScalePercent < 80 ∨ 140 < prefs.textScalePercent) :=
    not_or.mpr ⟨UInt8.not_lt.mpr h.scale.1, UInt8.not_lt.mpr h.scale.2⟩
  refine ⟨@hstring 32 _ h.ssid, @hstring 64 _ h.password, @hstring 63 _ h.mdnsTarget, rfl, rfl,
    rfl, rfl, ?_, ?_⟩
  · exact if_neg hscale
  · exact if_neg (UInt32.not_le.mpr h.language)

/-- The preferences a boot finds are those that were saved. -/
theorem init_alike (prefs : HmiUserPreferences) :
    (hmiDataModelInit (some (hmiPrefsStoreSave prefs))).preferences.Alike
      (sanitizePreferences prefs) :=
  (sanitizePreferences_alike (sanitizePreferences_sane _)).trans
    (sanitizePreferences_alike (sanitizePreferences_sane prefs))

/-- What was set, saved and loaded is what was set, exactly if the text scale is sane. -/
theorem set_alike_iff (model : HmiDataModel) (prefs : HmiUserPreferences) :
    (hmiDataModelInit (some (hmiPrefsStoreSave prefs))).preferences.Alike
        (hmiDataModelSetPreferences true model prefs).preferences ↔
      80 ≤ prefs.textScalePercent ∧ prefs.textScalePercent ≤ 140 := by
  have hsaved := init_alike prefs
  constructor
  · intro h
    have hscale := hsaved.symm.textScalePercent.trans h.textScalePercent
    simp only [hmiDataModelSetPreferences, if_true, sanitizePreferences] at hscale
    rw [← hscale]
    exact (sanitizePreferences_sane prefs).scale
  · intro h
    refine hsaved.trans ?_
    have hscale : ¬ (prefs.textScalePercent < 80 ∨ 140 < prefs.textScalePercent) :=
      not_or.mpr ⟨UInt8.not_lt.mpr h.1, UInt8.not_lt.mpr h.2⟩
    simp only [hmiDataModelSetPreferences, if_true, sanitizePreferences]
    refine ⟨?_, ?_, ?_, rfl, rfl, rfl, rfl, if_neg hscale, ?_⟩
    · rw [@cString_terminated 32, @cString_strncpy 32]
    · rw [@cString_terminated 64, @cString_strncpy 64]
    · rw [@cString_terminated 63, @cString_strncpy 63]
    · by_cases hlanguage : prefs.language < hmiLanguageMax
      · rw [if_neg (UInt32.not_le.mpr hlanguage), if_pos hlanguage]
      · rw [if_pos (UInt32.not_lt.mp hlanguage), if_neg hlanguage]

/-- A call leaves the preferences sane, and what it sets comes back when it is saved and loaded. -/
def KeepsPreferences (state : HmiPrefsState) (event : HmiPrefsEvent) : Prop :=
  (hmiPrefsStep state event).1.model.preferences.Sane ∧
    ∀ prefs, event = .set prefs →
      (Machine.run hmiPrefsStep state [.set prefs, .save prefs, .reboot]).1.model.preferences.Alike
        (hmiPrefsStep state event).1.model.preferences

/-- What is set has a text scale in range. -/
def HmiPrefsEvent.InRange (event : HmiPrefsEvent) : Prop :=
  ∀ prefs, event = .set prefs → 80 ≤ prefs.textScalePercent ∧ prefs.textScalePercent ≤ 140

theorem keepsPreferences_iff (h : state.model.preferences.Sane) :
    KeepsPreferences state event ↔ event.InRange := by
  cases event with
  | reboot => exact iff_of_true ⟨hmiDataModelInit_sane _, nofun⟩ nofun
  | reset => exact iff_of_true ⟨sanitizePreferences_sane _, nofun⟩ nofun
  | save prefs => exact iff_of_true ⟨h, nofun⟩ nofun
  | set prefs =>
      constructor
      · intro hkeeps other hother
        obtain rfl := HmiPrefsEvent.set.inj hother
        exact (set_sane_iff _ _).mp hkeeps.1
      · intro hrange
        refine ⟨(set_sane_iff _ _).mpr (hrange prefs rfl), fun other hother => ?_⟩
        obtain rfl := HmiPrefsEvent.set.inj hother
        exact (set_alike_iff _ _).mpr (hrange prefs rfl)

end Kept

/-- In a run from a boot the preferences are always sane, and what is set comes back when it is
saved and loaded, exactly if every text scale that is set is in range. -/
theorem preferences_kept_iff (blob : Option HmiUserPreferences) (events : List HmiPrefsEvent) :
    ((hmiDataModelInit blob).preferences.Sane ∧
        Machine.EachStep hmiPrefsStep KeepsPreferences ⟨hmiDataModelInit blob, blob⟩ events) ↔
      ∀ event ∈ events, event.InRange := by
  rw [Machine.eachStep_congr_while (fun state => state.model.preferences.Sane) (fun _ => True)
    (fun state event _ _ hkeeps => hkeeps.1) (fun state event hsane _ => keepsPreferences_iff hsane)
    (hmiDataModelInit_sane blob) fun _ _ => trivial, Machine.eachStep_iff_forall]
  exact and_iff_right (hmiDataModelInit_sane blob)

/-- A text scale of zero is kept as it is. -/
theorem zero_scale_kept :
    ¬ KeepsPreferences ⟨hmiDataModelInit none, none⟩ (.set zeroedPreferences) :=
  fun h => absurd h.1.scale.1 (by decide)

/-- The credentials agree where a reset leaves them alone. -/
def CredentialsAgree (prefs other : HmiUserPreferences) : Prop :=
  (∀ i : Fin 33, 0 < i.val → i.val < 32 → prefs.ssid.get i = other.ssid.get i) ∧
    ∀ i : Fin 65, 0 < i.val → i.val < 64 → prefs.password.get i = other.password.get i

section Reset

variable {n : Nat}

/-- A field is reset to what it was between its ends. -/
theorem reset_field_eq_iff (field other : Vector UInt8 (n + 1)) :
    (field.setIfInBounds 0 0).setIfInBounds n 0 = (other.setIfInBounds 0 0).setIfInBounds n 0 ↔
      ∀ i : Fin (n + 1), 0 < i.val → i.val < n → field.get i = other.get i := by
  have hbetween (field : Vector UInt8 (n + 1)) {i : Nat} (hi : i < n + 1) (hpos : 0 < i)
      (hlt : i < n) : ((field.setIfInBounds 0 0).setIfInBounds n 0)[i] = field[i] := by
    rw [Vector.getElem_setIfInBounds_ne _ (by omega), Vector.getElem_setIfInBounds_ne _ (by omega)]
  have hends (field : Vector UInt8 (n + 1)) {i : Nat} (hi : i < n + 1) (hend : i = 0 ∨ i = n) :
      ((field.setIfInBounds 0 0).setIfInBounds n 0)[i] = 0 := by
    rw [Vector.getElem_setIfInBounds]
    split_ifs with hlast
    · rfl
    · obtain rfl : i = 0 := by omega
      simp
  constructor
  · intro hsame i hpos hlt
    have hi := congrArg (fun v => Vector.get v i) hsame
    simp only [Vector.get_eq_getElem] at hi
    rwa [hbetween field i.isLt hpos hlt, hbetween other i.isLt hpos hlt] at hi
  · intro hsame
    refine Vector.ext fun i hi => ?_
    by_cases hend : i = 0 ∨ i = n
    · rw [hends field hi hend, hends other hi hend]
    · rw [hbetween field hi (by omega) (by omega), hbetween other hi (by omega) (by omega)]
      exact hsame ⟨i, hi⟩ (show 0 < i by omega) (show i < n by omega)

/-- A field that is overwritten with a text does not depend on what it was. -/
theorem strncpy_terminated (field other : Vector UInt8 (n + 1)) (src : Bytes) :
    (strncpy field src n).setIfInBounds n 0 = (strncpy other src n).setIfInBounds n 0 := by
  refine Vector.ext fun i hi => ?_
  rw [Vector.getElem_setIfInBounds, Vector.getElem_setIfInBounds]
  split_ifs with hlast
  · rfl
  · simp only [strncpy, Vector.getElem_ofFn]
    rw [if_pos (by omega), if_pos (by omega)]

/-- The defaults depend on the credentials between their ends. -/
theorem default_eq_iff (prefs other : HmiUserPreferences) :
    hmiDataModelSetDefaultPreferences prefs = hmiDataModelSetDefaultPreferences other ↔
      CredentialsAgree prefs other := by
  have htarget := @strncpy_terminated 63 prefs.mdnsTarget other.mdnsTarget
    (ascii "sensor-node.local")
  rw [CredentialsAgree, ← @reset_field_eq_iff 32, ← @reset_field_eq_iff 64]
  simp only [hmiDataModelSetDefaultPreferences, sanitizePreferences, htarget,
    HmiUserPreferences.mk.injEq, and_true]

end Reset

/-- Two models that differ only in their preferences are the same after a reset, down to the last
character, exactly if the reset had the lock and their credentials agree between the first and the
last character, or if nothing differs. -/
theorem reset_forgets_iff (locked : Bool) (model : HmiDataModel) (prefs other :
    HmiUserPreferences) :
    let reset := hmiDataModelResetPreferences locked { model with preferences := prefs }
    let otherReset := hmiDataModelResetPreferences locked { model with preferences := other }
    (reset.preferences = otherReset.preferences ∧ ∀ (getLocked : Bool) (out : HmiUserPreferences),
        hmiDataModelGetPreferences getLocked reset out =
          hmiDataModelGetPreferences getLocked otherReset out) ↔
      if locked then CredentialsAgree prefs other else prefs = other := by
  intro reset otherReset
  have hget : reset.preferences = otherReset.preferences → ∀ getLocked out,
      hmiDataModelGetPreferences getLocked reset out =
        hmiDataModelGetPreferences getLocked otherReset out := by
    intro hsame getLocked out
    rw [hmiDataModelGetPreferences, hmiDataModelGetPreferences, hsame]
  rw [and_iff_left_of_imp hget]
  cases locked with
  | false => exact Iff.rfl
  | true => exact default_eq_iff prefs other

/-- The second character of a password is still there. -/
theorem second_character_kept :
    (hmiDataModelResetPreferences true { preferences := zeroedPreferences }).preferences ≠
      (hmiDataModelResetPreferences true
        { preferences :=
            { zeroedPreferences with
              password := zeroedPreferences.password.setIfInBounds 1 65 } }).preferences := by
  intro h
  have hsecond := congrArg (fun prefs => prefs.password.toList.getD 1 0) h
  exact absurd hsecond (by decide)

end SensorHmi
