import SensorHmi.Hmi.UiTask

/-!
# Preferences through the life of the HMI

The preferences of the settings screen in the data model, in `s_prefs`, on the screen and on flash,
while power may be lost at any time. `hmi_data_model_set_preferences` takes any text scale, but the
settings never hand it one that is out of range (`ui_preferences_sane`); and where locks and NVS
answer, what a boot reads from flash is what the screen showed (`preferences_survive`).
-/

namespace SensorHmi

variable {ι : Type} (codec : Codec ι) (fuel : Nat)

/-- The boot behind a loss of power. If NVS does not answer, the defaults stay. -/
def hmiReboot (blob : Cell (Option HmiUserPreferences)) (readable : Bool) : HmiNode :=
  if readable then hmiBoot blob else { hmiBoot ⟨none, []⟩ with blob := blob }

/-- An event of the tasks, or a loss of power and the boot behind it. -/
inductive HmiLifeEvent
  | task (event : HmiEvent)
  | powerLoss (choice : Nat) (readable : Bool)

def hmiLifeStep (node : HmiNode) : HmiLifeEvent → HmiNode × List HmiOutput
  | .task event => hmiStep codec fuel node event
  | .powerLoss choice readable => (hmiReboot (node.blob.lose choice) readable, [])

/-- The locks and NVS answer where preferences are read and written. -/
def HmiLifeEvent.Answered (node : HmiNode) : HmiLifeEvent → Prop
  | .task (.ui locked) => node.point = .getPreferences → locked = true
  | .task (.touch (.applyPrefs _ locked results)) => locked = true ∧ results = {}
  | .task (.touch (.resetPrefs resetLocked getLocked results)) =>
      resetLocked = true ∧ getLocked = true ∧ results = {}
  | .task _ => True
  | .powerLoss _ readable => readable = true

variable {codec fuel} {node : HmiNode} {prefs other : HmiUserPreferences}

theorem dispatchApplyPreferences_sane (active : HmiUserPreferences) (inputs : PrefsInputs) :
    (dispatchApplyPreferences active inputs).Sane where
  scale := by
    unfold dispatchApplyPreferences
    dsimp only
    split_ifs with hout
    · decide
    · obtain ⟨hlow, hhigh⟩ := not_or.mp hout
      exact ⟨UInt8.not_lt.mp hlow, UInt8.not_lt.mp hhigh⟩
  language := by
    have hdefault : hmiLanguageEn < hmiLanguageMax := by decide
    unfold dispatchApplyPreferences
    dsimp only
    split_ifs with hlanguage
    · exact hlanguage
    · exact hdefault
  ssid := @zero_mem_terminated 32 _
  password := @zero_mem_terminated 64 _
  mdnsTarget := @zero_mem_terminated 63 _

section Flash

variable {results : PrefsNvs} {cell : Cell (Option HmiUserPreferences)}
  {blob : Option HmiUserPreferences}

/-- Whatever NVS answers, a save leaves what was there or what it writes. -/
theorem mayBe_flashSavePrefs (h : (flashSavePrefs results cell prefs).MayBe blob) :
    cell.MayBe blob ∨ blob = some (hmiPrefsStoreSave prefs) := by
  unfold flashSavePrefs at h
  dsimp only at h
  split_ifs at h
  · exact Or.inl h
  · exact Or.inr (Cell.mayBe_settle.mp h)
  · exact (Cell.mayBe_write.mp h).symm

/-- An erase brings no preferences. -/
theorem mayBe_flashErasePrefs (h : (flashErasePrefs results cell).MayBe blob) :
    cell.MayBe blob ∨ blob = none := by
  unfold flashErasePrefs at h
  dsimp only at h
  split_ifs at h
  · exact Or.inl h
  · exact Or.inr (Cell.mayBe_settle.mp h)
  · exact Or.inl (Cell.mayBe_settle.mp h ▸ cell.mayBe_current)
  · exact (Cell.mayBe_write.mp h).symm
  · exact Or.inl h

theorem mayBe_flashSavePrefs_answered :
    (flashSavePrefs {} cell prefs).MayBe blob ↔ blob = some (hmiPrefsStoreSave prefs) :=
  Cell.mayBe_settle

/-- After an erase nothing is left, whether or not there was anything. -/
theorem mayBe_flashErasePrefs_answered (h : (flashErasePrefs {} cell).MayBe blob) :
    blob = none := by
  obtain ⟨current, others⟩ := cell
  cases current with
  | none => exact Cell.mayBe_settle.mp h
  | some stored => exact Cell.mayBe_settle.mp h

end Flash

/-- The next state has the same preferences everywhere. -/
structure KeepsPrefs (node next : HmiNode) : Prop where
  model : next.model.preferences = node.model.preferences
  blob : next.blob = node.blob
  prefs : next.prefs = node.prefs
  screen : next.ui.screens.activePrefs = node.ui.screens.activePrefs
  point : node.point = .getPreferences → next.point = .getPreferences

theorem KeepsPrefs.refl (node : HmiNode) : KeepsPrefs node node :=
  ⟨rfl, rfl, rfl, rfl, id⟩

/-- Only the start of `ui_task` and what the user does are about preferences. -/
theorem hmiStep_keepsPrefs {event : HmiEvent} (htouch : ∀ action, event ≠ .touch action)
    (hui : ∀ locked, event = .ui locked → node.point ≠ .getPreferences) :
    KeepsPrefs node (hmiStep codec fuel node event).1 := by
  cases event with
  | touch action => exact absurd rfl (htouch action)
  | receive payload crc32 =>
      unfold hmiStep
      dsimp only
      split_ifs
      · exact ⟨rfl, rfl, rfl, rfl, id⟩
      · exact .refl node
  | rxCall locked =>
      cases hpending : node.pending with
      | nil =>
          simp only [hmiStep, hpending]
          exact .refl node
      | cons call rest =>
          simp only [hmiStep, hpending]
          cases locked <;> cases call <;> exact ⟨rfl, rfl, rfl, rfl, id⟩
  | net locked connected => cases locked <;> exact ⟨rfl, rfl, rfl, rfl, id⟩
  | ui locked =>
      have hlater := hui locked rfl
      show KeepsPrefs node (uiTaskCall locked node).1
      unfold uiTaskCall
      cases hpoint : node.point with
      | getPreferences => exact absurd hpoint hlater
      | peekUpdate =>
          dsimp only
          cases hmiDataModelPeekUpdate locked node.model <;>
            exact ⟨rfl, rfl, rfl, rfl, fun h => absurd h hlater⟩
      | getUpdate =>
          have hmodel : (hmiDataModelGetUpdate locked node.model).2.preferences =
              node.model.preferences := by
            unfold hmiDataModelGetUpdate
            split_ifs <;> rfl
          dsimp only
          generalize hmiDataModelGetUpdate locked node.model = read at hmodel ⊢
          obtain ⟨update, model⟩ := read
          cases update <;> exact ⟨hmodel, rfl, rfl, rfl, fun h => absurd h hlater⟩
      | _ => exact ⟨rfl, rfl, rfl, rfl, fun h => absurd h hlater⟩

/-- The call at the start of `ui_task`. -/
theorem uiTaskCall_getPreferences (hpoint : node.point = .getPreferences) (locked : Bool) :
    (uiTaskCall locked node).1 =
      { node with
        prefs := hmiDataModelGetPreferences locked node.model node.prefs
        ui := uiShowPreferences node.ui (hmiDataModelGetPreferences locked node.model node.prefs)
        point := .peekUpdate } := by
  unfold uiTaskCall
  rw [hpoint]

/-- The preferences in the model are sane, and so are those on flash but for what was there. -/
structure SanePrefs (old : Cell (Option HmiUserPreferences)) (node : HmiNode) : Prop where
  model : node.model.preferences.Sane
  blob : ∀ stored, node.blob.MayBe (some stored) → stored.Sane ∨ old.MayBe (some stored)

namespace SanePrefs

variable {old : Cell (Option HmiUserPreferences)}

theorem reboot (blob : Cell (Option HmiUserPreferences)) (readable : Bool)
    (hblob : ∀ stored, blob.MayBe (some stored) → stored.Sane ∨ old.MayBe (some stored)) :
    SanePrefs old (hmiReboot blob readable) := by
  cases readable with
  | false => exact ⟨hmiDataModelInit_sane none, hblob⟩
  | true => exact ⟨hmiDataModelInit_sane blob.current, hblob⟩

/-- A step that keeps the preferences and the flash. -/
theorem keep {next : HmiNode} (h : SanePrefs old node)
    (hmodel : next.model.preferences = node.model.preferences) (hblob : next.blob = node.blob) :
    SanePrefs old next :=
  ⟨hmodel ▸ h.model, hblob ▸ h.blob⟩

/-- What the user does to the preferences. -/
theorem touch (h : SanePrefs old node) (action : UiAction) :
    SanePrefs old (uiCallback node action).1 := by
  cases action with
  | gpioSwitch ctx on => exact h
  | pwmSlider channel value => exact h
  | pwmFreqSlider freq => exact h
  | applyPrefs inputs locked results =>
      have hsane := dispatchApplyPreferences_sane node.ui.screens.activePrefs inputs
      refine ⟨?_, fun stored hstored => ?_⟩
      · cases locked with
        | false => exact h.model
        | true => exact (set_sane_iff node.model _).mpr hsane.scale
      · rcases mayBe_flashSavePrefs hstored with hold | hnew
        · exact h.blob stored hold
        · exact Or.inl (Option.some.inj hnew ▸ sanitizePreferences_sane _)
  | resetPrefs resetLocked getLocked results =>
      refine ⟨?_, fun stored hstored => ?_⟩
      · cases resetLocked with
        | false => exact h.model
        | true => exact sanitizePreferences_sane _
      · rcases mayBe_flashErasePrefs hstored with hold | hnone
        · exact h.blob stored hold
        · cases hnone

theorem step (h : SanePrefs old node) (event : HmiLifeEvent) :
    SanePrefs old (hmiLifeStep codec fuel node event).1 := by
  have hkeep {event : HmiEvent} (hkeeps : KeepsPrefs node (hmiStep codec fuel node event).1) :
      SanePrefs old (hmiLifeStep codec fuel node (.task event)).1 :=
    h.keep hkeeps.model hkeeps.blob
  cases event with
  | powerLoss choice readable =>
      exact reboot _ _ fun stored hstored => h.blob stored (Cell.mayBe_lose hstored)
  | task event =>
      cases event with
      | touch action =>
          show SanePrefs old (hmiStep codec fuel node (.touch action)).1
          unfold hmiStep
          dsimp only
          split_ifs
          · exact h.touch action
          · exact h
      | ui locked =>
          by_cases hpoint : node.point = .getPreferences
          · show SanePrefs old (uiTaskCall locked node).1
            rw [uiTaskCall_getPreferences hpoint]
            exact h.keep rfl rfl
          · exact hkeep (hmiStep_keepsPrefs (fun action => nofun) fun _ _ => hpoint)
      | receive payload crc32 =>
          exact hkeep (hmiStep_keepsPrefs (fun action => nofun) fun _ => nofun)
      | rxCall locked => exact hkeep (hmiStep_keepsPrefs (fun action => nofun) fun _ => nofun)
      | net locked connected =>
          exact hkeep (hmiStep_keepsPrefs (fun action => nofun) fun _ => nofun)

end SanePrefs

/-- Whatever the user does, whenever power is lost and whatever locks and NVS answer, the
preferences in the model are in range and end, and so are those on flash but for what was there
before. -/
theorem ui_preferences_sane (codec : Codec ι) (fuel : Nat)
    (old : Cell (Option HmiUserPreferences)) (readable : Bool) (events : List HmiLifeEvent) :
    SanePrefs old (Machine.run (hmiLifeStep codec fuel) (hmiReboot old readable) events).1 :=
  @Machine.run_invariant _ _ _ _ _ _ (SanePrefs old) (fun _ => True)
    (fun _ event h _ => h.step event)
    (SanePrefs.reboot old readable fun _ hstored => Or.inr hstored) fun _ _ => trivial


section Survive

/-- A field that is cleared holds no text. -/
theorem cString_cleared {n : Nat} (field : Vector UInt8 (n + 1)) :
    Octets.cString (field.setIfInBounds 0 0).toList = [] := by
  have hhead : ((field.setIfInBounds 0 0).toList).head? = some 0 := by
    rw [List.head?_eq_getElem?, Vector.getElem?_toList]
    simp
  generalize (field.setIfInBounds 0 0).toList = octets at hhead
  cases octets with
  | nil => cases hhead
  | cons octet rest =>
      obtain rfl := Option.some.inj hhead
      rfl

/-- The defaults are the same whatever the preferences were. -/
theorem default_alike (prefs other : HmiUserPreferences) :
    (hmiDataModelSetDefaultPreferences prefs).Alike (hmiDataModelSetDefaultPreferences other) := by
  have hcleared {n : Nat} (field own : Vector UInt8 (n + 1)) :
      Octets.cString ((field.setIfInBounds 0 0).setIfInBounds n 0).toList =
        Octets.cString ((own.setIfInBounds 0 0).setIfInBounds n 0).toList := by
    rw [cString_terminated, cString_terminated, cString_cleared, cString_cleared]
  refine ⟨@hcleared 32 _ _, @hcleared 64 _ _, ?_, rfl, rfl, rfl, rfl, rfl, rfl⟩
  simp only [hmiDataModelSetDefaultPreferences, sanitizePreferences]
  rw [@strncpy_terminated 63 prefs.mdnsTarget other.mdnsTarget]

/-- What is set is what the data model has then, if it is sane. -/
theorem set_alike (h : prefs.Sane) (model : HmiDataModel) :
    prefs.Alike (hmiDataModelSetPreferences true model prefs).preferences :=
  ((init_alike prefs).trans (sanitizePreferences_alike h)).symm.trans
    ((set_alike_iff model prefs).mpr h.scale)

theorem uiShowPreferences_activePrefs (ui : UiState) (prefs : HmiUserPreferences) :
    (uiShowPreferences ui prefs).screens.activePrefs = prefs := by
  show (refreshLocalisedText { ui.screens with activePrefs := prefs }).1.activePrefs = prefs
  unfold refreshLocalisedText
  split_ifs <;> rfl

/-- Whatever a loss of power leaves on flash, a boot reads the preferences in the model from it; and
once `ui_task` has read them, these are what it and the screen have. -/
structure Survives (node : HmiNode) : Prop where
  flash : ∀ blob, node.blob.MayBe blob →
    (hmiDataModelInit blob).preferences.Alike node.model.preferences
  prefs : node.point ≠ .getPreferences → node.prefs.Alike node.model.preferences
  screen : node.point ≠ .getPreferences →
    node.ui.screens.activePrefs.Alike node.model.preferences

theorem HmiUserPreferences.Alike.refl (prefs : HmiUserPreferences) : prefs.Alike prefs :=
  ⟨rfl, rfl, rfl, rfl, rfl, rfl, rfl, rfl, rfl⟩

namespace Survives

/-- A boot where flash holds nothing else reads what is there. -/
theorem boot {blob : Cell (Option HmiUserPreferences)}
    (hblob : ∀ stored, blob.MayBe stored →
      (hmiDataModelInit stored).preferences.Alike (hmiDataModelInit blob.current).preferences) :
    Survives (hmiBoot blob) where
  flash := hblob
  prefs := fun hpoint => absurd rfl hpoint
  screen := fun hpoint => absurd rfl hpoint

theorem keep {next : HmiNode} (h : Survives node) (hkeeps : KeepsPrefs node next) :
    Survives next where
  flash := by rw [hkeeps.blob, hkeeps.model]; exact h.flash
  prefs := fun hpoint => by
    rw [hkeeps.prefs, hkeeps.model]
    exact h.prefs fun hstart => hpoint (hkeeps.point hstart)
  screen := fun hpoint => by
    rw [hkeeps.screen, hkeeps.model]
    exact h.screen fun hstart => hpoint (hkeeps.point hstart)

theorem touch (h : Survives node) {action : UiAction}
    (hanswered : (HmiLifeEvent.task (.touch action)).Answered node) :
    Survives (uiCallback node action).1 := by
  cases action with
  | gpioSwitch ctx on => exact h
  | pwmSlider channel value => exact h
  | pwmFreqSlider freq => exact h
  | applyPrefs inputs locked results =>
      obtain ⟨rfl, rfl⟩ := hanswered
      have hsane := dispatchApplyPreferences_sane node.ui.screens.activePrefs inputs
      unfold uiCallback
      dsimp only
      generalize dispatchApplyPreferences node.ui.screens.activePrefs inputs = prefs at hsane ⊢
      have hset := set_alike hsane node.model
      have hback := (set_alike_iff node.model prefs).mpr hsane.scale
      generalize hmiDataModelSetPreferences true node.model prefs = model at hset hback ⊢
      refine ⟨fun blob hblob => ?_, fun _ => hset, fun _ => ?_⟩
      · have hflash : (flashSavePrefs {} node.blob prefs).MayBe blob := hblob
        rw [mayBe_flashSavePrefs_answered.mp hflash]
        exact hback
      · show (uiShowPreferences node.ui prefs).screens.activePrefs.Alike _
        rw [uiShowPreferences_activePrefs]
        exact hset
  | resetPrefs resetLocked getLocked results =>
      obtain ⟨rfl, rfl, rfl⟩ := hanswered
      refine ⟨fun blob hblob => ?_, fun _ => .refl _, fun _ => ?_⟩
      · obtain rfl := mayBe_flashErasePrefs_answered hblob
        exact default_alike zeroedPreferences node.model.preferences
      · show (uiShowPreferences node.ui _).screens.activePrefs.Alike _
        rw [uiShowPreferences_activePrefs]
        exact .refl _

theorem step (h : Survives node) {event : HmiLifeEvent} (hanswered : event.Answered node) :
    Survives (hmiLifeStep codec fuel node event).1 := by
  cases event with
  | powerLoss choice readable =>
      obtain rfl : readable = true := hanswered
      show Survives (hmiBoot (node.blob.lose choice))
      refine boot fun stored hstored => ?_
      -- what is left may be any of the values, and the boot reads the same from each
      have hleft := h.flash _ (Cell.mayBe_lose (Cell.mayBe_current (node.blob.lose choice)))
      exact (h.flash stored (Cell.mayBe_lose hstored)).trans hleft.symm
  | task event =>
      have hkeep (hkeeps : KeepsPrefs node (hmiStep codec fuel node event).1) :
          Survives (hmiStep codec fuel node event).1 := h.keep hkeeps
      cases event with
      | touch action =>
          show Survives (hmiStep codec fuel node (.touch action)).1
          unfold hmiStep
          dsimp only
          split_ifs
          · exact h.touch hanswered
          · exact h
      | ui locked =>
          by_cases hpoint : node.point = .getPreferences
          · obtain rfl : locked = true := hanswered hpoint
            show Survives (uiTaskCall true node).1
            rw [uiTaskCall_getPreferences hpoint]
            refine ⟨h.flash, fun _ => .refl _, fun _ => ?_⟩
            show (uiShowPreferences node.ui _).screens.activePrefs.Alike _
            rw [uiShowPreferences_activePrefs]
            exact .refl _
          · exact hkeep (hmiStep_keepsPrefs (fun action => nofun) fun _ _ => hpoint)
      | receive payload crc32 =>
          exact hkeep (hmiStep_keepsPrefs (fun action => nofun) fun _ => nofun)
      | rxCall locked => exact hkeep (hmiStep_keepsPrefs (fun action => nofun) fun _ => nofun)
      | net locked connected =>
          exact hkeep (hmiStep_keepsPrefs (fun action => nofun) fun _ => nofun)

end Survives

end Survive

/-- Where locks and NVS answer, the screen, the model and flash agree on the preferences after every
event, whatever the user does and whenever power is lost: a boot brings back what the screen
showed. -/
theorem preferences_survive (codec : Codec ι) (fuel : Nat) (blob : Option HmiUserPreferences)
    (events : List HmiLifeEvent)
    (hanswered : Machine.EachStep (hmiLifeStep codec fuel) HmiLifeEvent.Answered
      (hmiBoot ⟨blob, []⟩) events) :
    Survives (Machine.run (hmiLifeStep codec fuel) (hmiBoot ⟨blob, []⟩) events).1 := by
  refine @Machine.run_history _ _ _ _ _ _ (fun node _ => Survives node) HmiLifeEvent.Answered []
    (fun node event _ h hevent => h.step hevent) (Survives.boot fun stored hstored => ?_) hanswered
  rw [Cell.mayBe_mk.mp hstored]
  exact .refl _

/-- A boot into the settings, a reset there and a loss of power. -/
theorem preferences_survive_reset :
    Survives (Machine.run (hmiLifeStep (Codec.plain true) 0) (hmiBoot ⟨none, []⟩)
      (List.replicate 5 (.task (.ui true)) ++
        [.task (.touch (.resetPrefs true true {})), .powerLoss 1 true])).1 :=
  preferences_survive (Codec.plain true) 0 none _
    ⟨fun _ => rfl, fun _ => rfl, fun _ => rfl, fun _ => rfl, fun _ => rfl, ⟨rfl, rfl, rfl⟩, rfl,
      trivial⟩

end SensorHmi
