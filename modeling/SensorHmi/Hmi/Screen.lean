import SensorHmi.Hmi.UiTask
import SensorHmi.Lib.Mailbox

/-!
# What the screen shows of the telemetry

The data model has one place for telemetry, which the receive callback fills and `ui_task` empties.
Whatever the tasks do in between and whichever locks time out, the screen draws in order, each
update once, and behind a call that got the lock it shows what was stored last.
-/

namespace SensorHmi

open Octets Loop

variable {ι : Type} {codec : Codec ι} {fuel : Nat}

/-- What the tasks did: telemetry decoded and stored, drawn by the loop of `ui_task` and before it,
and the results of the CRC check and the states of the link that were stored. -/
structure ScreenLog where
  decoded : List ProtoSensorUpdate := []
  stored : List ProtoSensorUpdate := []
  drawn : List ProtoSensorUpdate := []
  peeked : List ProtoSensorUpdate := []
  statuses : List Bool := []
  links : List Bool := []

/-- One output is noted. -/
def ScreenLog.add (log : ScreenLog) : HmiOutput → ScreenLog
  | .decoded update => { log with decoded := log.decoded ++ [update] }
  | .stored update => { log with stored := log.stored ++ [update] }
  | .drew update => { log with drawn := log.drawn ++ [update] }
  | .peeked update => { log with peeked := log.peeked ++ [update] }
  | .statusStored crcOk => { log with statuses := log.statuses ++ [crcOk] }
  | .linkStored connected => { log with links := log.links ++ [connected] }
  | .command _ => log

/-- The log of a run. -/
def screenLog (outputs : List HmiOutput) : ScreenLog :=
  outputs.foldl ScreenLog.add {}

/-- The telemetry an output says is decoded. -/
def HmiOutput.decodes : HmiOutput → Option ProtoSensorUpdate
  | .decoded update => some update
  | _ => none

theorem decoded_screenLog (outputs : List HmiOutput) :
    (screenLog outputs).decoded = outputs.filterMap HmiOutput.decodes := by
  have hfoldl : ∀ log : ScreenLog, (outputs.foldl ScreenLog.add log).decoded =
      log.decoded ++ outputs.filterMap HmiOutput.decodes := by
    induction outputs with
    | nil => exact fun log => (List.append_nil _).symm
    | cons output rest ih =>
        intro log
        show (rest.foldl ScreenLog.add (log.add output)).decoded = _
        rw [ih, List.filterMap_cons]
        cases output <;> simp [ScreenLog.add, HmiOutput.decodes]
  exact (hfoldl {}).trans (List.nil_append _)

/-- The telemetry the receive callback has still to store. -/
def pendingUpdates (calls : List HmiModelCall) : List ProtoSensorUpdate :=
  calls.filterMap fun
    | .setUpdate update => some update
    | .setCrcStatus _ => none

/-- The place for telemetry in the data model. -/
def HmiDataModel.box (model : HmiDataModel) : Mailbox.Box ProtoSensorUpdate :=
  ⟨model.lastUpdate, model.hasUpdate⟩

/-- The tasks, and what they have done since the boot. -/
structure ScreenInv (node : HmiNode) (log : ScreenLog) : Prop where
  /-- What is decoded is stored in order, or not at all. -/
  decoded : (log.stored ++ pendingUpdates node.pending).Sublist log.decoded
  box : Mailbox.Follows node.model.box log.stored log.drawn
  shown : ∀ update, log.drawn.getLast? = some update → node.ui.screens.lastProtoUpdate = update
  status : node.model.lastCrcOk = log.statuses.getLastD true
  link : node.model.connected = log.links.getLastD false
  /-- Nothing is drawn before `ui_task` comes to its peek. -/
  early : node.point = .getPreferences ∨ node.point = .peekUpdate →
    log.peeked = [] ∧ log.drawn = []
  /-- The telemetry of a boot has no number. -/
  numberless : log.stored = [] → node.model.lastUpdate.sequenceId = 0
  peeked : ∀ update ∈ log.peeked, update ∈ log.stored
  peekedOnce : log.peeked.length ≤ 1

namespace ScreenInv

variable {node next : HmiNode} {log : ScreenLog}

/-- At the boot nothing has been done. -/
theorem boot (blob : Cell (Option HmiUserPreferences)) : ScreenInv (hmiBoot blob) {} := by
  have hmodel : (hmiBoot blob).model.lastCrcOk = true ∧ (hmiBoot blob).model.connected = false ∧
      (hmiBoot blob).model.box = ⟨{}, false⟩ := by
    show (hmiDataModelInit blob.current).lastCrcOk = true ∧
      (hmiDataModelInit blob.current).connected = false ∧
      (hmiDataModelInit blob.current).box = ⟨{}, false⟩
    unfold hmiDataModelInit
    cases hmiPrefsStoreLoad blob.current <;> exact ⟨rfl, rfl, rfl⟩
  exact
    { decoded := .slnil
      box := by rw [hmodel.2.2]; exact Mailbox.follows_start _
      shown := fun _ h => by cases h
      status := hmodel.1
      link := hmodel.2.1
      early := fun _ => ⟨rfl, rfl⟩
      numberless := fun _ => by
        show (hmiBoot blob).model.box.value.sequenceId = 0
        rw [hmodel.2.2]
      peeked := fun _ h => by cases h
      peekedOnce := Nat.zero_le 1 }

/-- A step that stores and draws nothing keeps what has been done. -/
theorem quiet (h : ScreenInv node log)
    (hbox : next.model.box = node.model.box) (hstatus : next.model.lastCrcOk = node.model.lastCrcOk)
    (hlink : next.model.connected = node.model.connected)
    (hpending : (pendingUpdates next.pending).Sublist (pendingUpdates node.pending))
    (hscreen : next.ui.screens.lastProtoUpdate = node.ui.screens.lastProtoUpdate)
    (hpoint : next.point = .getPreferences ∨ next.point = .peekUpdate →
      node.point = .getPreferences ∨ node.point = .peekUpdate) :
    ScreenInv next log where
  decoded := (hpending.append_left _).trans h.decoded
  box := hbox ▸ h.box
  shown := hscreen ▸ h.shown
  status := hstatus.trans h.status
  link := hlink.trans h.link
  early := fun hearly => h.early (hpoint hearly)
  numberless := fun hstored => by
    show next.model.box.value.sequenceId = 0
    rw [hbox]
    exact h.numberless hstored
  peeked := h.peeked
  peekedOnce := h.peekedOnce

/-- The calls that follow a payload store what was decoded of it. -/
theorem pendingUpdates_handleSensorUpdate (payload : Bytes) (crc32 : UInt32) :
    pendingUpdates (handleSensorUpdate codec fuel payload crc32) =
      (decodedUpdate codec fuel (.receive payload crc32)).toList := by
  unfold handleSensorUpdate decodedUpdate
  dsimp only
  cases protoDecodeSensorUpdate codec fuel payload codec.configUseCbor crc32 <;> rfl

theorem receive (h : ScreenInv node log) (payload : Bytes) (crc32 : UInt32) :
    ScreenInv (hmiStep codec fuel node (.receive payload crc32)).1
      ((hmiStep codec fuel node (.receive payload crc32)).2.foldl ScreenLog.add log) := by
  by_cases hidle : node.pending = []
  · have hpending := @pendingUpdates_handleSensorUpdate ι codec fuel payload crc32
    have hstored : log.stored.Sublist log.decoded :=
      (List.sublist_append_left _ _).trans h.decoded
    simp only [hmiStep, if_pos hidle]
    generalize decodedUpdate codec fuel (.receive payload crc32) = update at hpending ⊢
    cases update with
    | none =>
        refine { h with decoded := ?_ }
        show (log.stored ++ pendingUpdates (handleSensorUpdate _ _ _ _)).Sublist log.decoded
        rw [hpending]
        exact (List.append_nil log.stored).symm ▸ hstored
    | some update =>
        refine { h with decoded := ?_ }
        show (log.stored ++ pendingUpdates (handleSensorUpdate _ _ _ _)).Sublist
          (log.decoded ++ [update])
        rw [hpending]
        exact hstored.append (List.Sublist.refl _)
  · simp only [hmiStep, if_neg hidle]
    exact h

/-- The receive callback makes its next call. -/
theorem rxCall (h : ScreenInv node log) (locked : Bool) :
    ScreenInv (hmiStep codec fuel node (.rxCall locked)).1
      ((hmiStep codec fuel node (.rxCall locked)).2.foldl ScreenLog.add log) := by
  cases hpending : node.pending with
  | nil =>
      simp only [hmiStep, hpending]
      exact h
  | cons call rest =>
      have hdecoded := h.decoded
      rw [hpending] at hdecoded
      simp only [hmiStep, hpending]
      cases locked with
      | false =>
          -- the call gives up: the model is as it was
          have hmodel : call.perform false node.model = node.model := by cases call <;> rfl
          rw [hmodel]
          refine { h with decoded := (List.Sublist.append_left ?_ _).trans hdecoded }
          cases call with
          | setUpdate update => exact List.sublist_cons_self _ _
          | setCrcStatus crcOk => exact .refl _
      | true =>
          cases call with
          | setUpdate update =>
              exact
                { decoded := by
                    show (log.stored ++ [update] ++ pendingUpdates rest).Sublist log.decoded
                    rw [List.append_assoc]
                    exact hdecoded
                  box := h.box.put update
                  shown := h.shown
                  status := h.status
                  link := h.link
                  early := h.early
                  numberless := fun hstored =>
                    absurd hstored (List.append_ne_nil_of_right_ne_nil _ (List.cons_ne_nil _ _))
                  peeked := fun update hmem => List.mem_append_left _ (h.peeked update hmem)
                  peekedOnce := h.peekedOnce }
          | setCrcStatus crcOk =>
              refine { h with decoded := hdecoded, status := ?_ }
              show crcOk = (log.statuses ++ [crcOk]).getLastD true
              simp

/-- `net_task` stores the state of the link. -/
theorem net (h : ScreenInv node log) (locked connected : Bool) :
    ScreenInv (hmiStep codec fuel node (.net locked connected)).1
      ((hmiStep codec fuel node (.net locked connected)).2.foldl ScreenLog.add log) := by
  cases locked with
  | false => exact h
  | true =>
      refine { h with link := ?_ }
      show connected = (log.links ++ [connected]).getLastD false
      simp

/-- Preferences that are applied redraw the telemetry that is there, and no other. -/
theorem uiShowPreferences_lastProtoUpdate (ui : UiState) (prefs : HmiUserPreferences) :
    (uiShowPreferences ui prefs).screens.lastProtoUpdate = ui.screens.lastProtoUpdate := by
  show (refreshLocalisedText { ui.screens with activePrefs := prefs }).1.lastProtoUpdate = _
  unfold refreshLocalisedText
  split_ifs <;> rfl

/-- `ui_task` goes on with nothing drawn. -/
theorem onward (h : ScreenInv node log) {ui : UiState} {prefs : HmiUserPreferences}
    {point : UiPoint}
    (hscreen : ui.screens.lastProtoUpdate = node.ui.screens.lastProtoUpdate)
    (hpoint : point = .getPreferences ∨ point = .peekUpdate →
      node.point = .getPreferences ∨ node.point = .peekUpdate) :
    ScreenInv { node with ui := ui, prefs := prefs, point := point } log :=
  h.quiet rfl rfl rfl (List.Sublist.refl _) hscreen hpoint

/-- `ui_task` peeks at what was stored last, if anything was. -/
theorem peek (h : ScreenInv node log) (hpoint : node.point = .peekUpdate) (locked : Bool) :
    ScreenInv (uiTaskCall locked node).1 ((uiTaskCall locked node).2.foldl ScreenLog.add log) := by
  obtain ⟨hpeeked, hdrawn⟩ := h.early (Or.inr hpoint)
  have hlate : ∀ {P : Prop},
      UiPoint.getUpdate = .getPreferences ∨ UiPoint.getUpdate = .peekUpdate → P := by
    intro P hearly
    rcases hearly with hearly | hearly <;> cases hearly
  have hquiet : ScreenInv { node with point := .getUpdate } log := h.onward rfl hlate
  unfold uiTaskCall
  rw [hpoint]
  cases locked with
  | false => exact hquiet
  | true =>
      simp only [hmiDataModelPeekUpdate, if_true]
      by_cases hnumber : node.model.lastUpdate.sequenceId = 0
      · rw [if_neg (not_not.mpr hnumber)]
        exact hquiet
      · rw [if_pos hnumber]
        -- it has a number, so it is not that of the boot
        have hstored : log.stored ≠ [] := fun hnil => hnumber (h.numberless hnil)
        have hlast := h.box.latest _ (List.getLast?_eq_some_getLast hstored)
        refine { hquiet with shown := ?_, early := hlate, peeked := ?_, peekedOnce := ?_ }
        · intro update hupdate
          have hnil : ([] : List ProtoSensorUpdate).getLast? = some update := hdrawn ▸ hupdate
          cases hnil
        · intro update hmem
          have hupdate : update = node.model.lastUpdate := by
            have hmem' : update ∈ log.peeked ++ [node.model.lastUpdate] := hmem
            rw [hpeeked] at hmem'
            exact List.mem_singleton.mp hmem'
          rw [hupdate]
          show node.model.box.value ∈ log.stored
          rw [hlast]
          exact List.getLast_mem hstored
        · show (log.peeked ++ [_]).length ≤ 1
          rw [hpeeked]
          exact le_rfl

/-- The loop of `ui_task` takes the telemetry that is new. -/
theorem getUpdate (h : ScreenInv node log) (hpoint : node.point = .getUpdate) (locked : Bool) :
    ScreenInv (uiTaskCall locked node).1 ((uiTaskCall locked node).2.foldl ScreenLog.add log) := by
  have hlate : ∀ {P : Prop},
      UiPoint.isConnected = .getPreferences ∨ UiPoint.isConnected = .peekUpdate → P := by
    intro P hearly
    rcases hearly with hearly | hearly <;> cases hearly
  have hquiet : ScreenInv { node with point := .isConnected } log := h.onward rfl hlate
  unfold uiTaskCall
  rw [hpoint]
  cases locked with
  | false => exact hquiet
  | true =>
      simp only [hmiDataModelGetUpdate, if_true]
      have htake := h.box.take
      cases hnew : node.model.hasUpdate with
      | false => exact hquiet
      | true =>
          have htaken : node.model.box.taken = some node.model.lastUpdate := by
            show (if node.model.hasUpdate = true then some node.model.lastUpdate else none) = _
            rw [if_pos hnew]
          rw [htaken] at htake
          refine { hquiet with box := htake, shown := ?_, early := hlate }
          intro update hupdate
          have hlast : (log.drawn ++ [node.model.lastUpdate]).getLast? = some update := hupdate
          rw [List.getLast?_concat] at hlast
          exact Option.some.inj hlast

/-- A call of `ui_task`. -/
theorem uiCall (h : ScreenInv node log) (locked : Bool) :
    ScreenInv (uiTaskCall locked node).1 ((uiTaskCall locked node).2.foldl ScreenLog.add log) := by
  have hlate (point : UiPoint) (hpoint : point ≠ .getPreferences ∧ point ≠ .peekUpdate) {P : Prop}
      (hearly : point = .getPreferences ∨ point = .peekUpdate) : P :=
    absurd hearly (not_or.mpr hpoint)
  cases hpoint : node.point with
  | getPreferences =>
      unfold uiTaskCall
      rw [hpoint]
      exact h.onward (uiShowPreferences_lastProtoUpdate _ _) fun _ => Or.inl hpoint
  | peekUpdate => exact h.peek hpoint locked
  | getUpdate => exact h.getUpdate hpoint locked
  | isConnected =>
      unfold uiTaskCall
      rw [hpoint]
      exact h.onward rfl (hlate .getCrcStatus ⟨nofun, nofun⟩)
  | getCrcStatus =>
      unfold uiTaskCall
      rw [hpoint]
      exact h.onward rfl (hlate .process ⟨nofun, nofun⟩)
  | process =>
      unfold uiTaskCall
      rw [hpoint]
      exact h.onward rfl (hlate .getUpdate ⟨nofun, nofun⟩)

/-- Preferences leave the rest of the model as it is. -/
theorem setPreferences_rest (locked : Bool) (model : HmiDataModel) (prefs : HmiUserPreferences) :
    (hmiDataModelSetPreferences locked model prefs).box = model.box ∧
      (hmiDataModelSetPreferences locked model prefs).lastCrcOk = model.lastCrcOk ∧
      (hmiDataModelSetPreferences locked model prefs).connected = model.connected := by
  unfold HmiDataModel.box hmiDataModelSetPreferences
  by_cases hlocked : locked = true
  · simp only [if_pos hlocked, and_self]
  · simp only [if_neg hlocked, and_self]

theorem resetPreferences_rest (locked : Bool) (model : HmiDataModel) :
    (hmiDataModelResetPreferences locked model).box = model.box ∧
      (hmiDataModelResetPreferences locked model).lastCrcOk = model.lastCrcOk ∧
      (hmiDataModelResetPreferences locked model).connected = model.connected := by
  unfold HmiDataModel.box hmiDataModelResetPreferences
  by_cases hlocked : locked = true
  · simp only [if_pos hlocked, and_self]
  · simp only [if_neg hlocked, and_self]

/-- What the user does touches preferences and sends commands. -/
theorem touch (h : ScreenInv node log) (action : UiAction) :
    ScreenInv (uiCallback node action).1 ((uiCallback node action).2.foldl ScreenLog.add log) := by
  cases action with
  | gpioSwitch ctx on => exact h
  | pwmSlider channel value => exact h
  | pwmFreqSlider freq => exact h
  | applyPrefs inputs locked results =>
      unfold uiCallback
      obtain ⟨hbox, hstatus, hlink⟩ := setPreferences_rest locked node.model
        (dispatchApplyPreferences node.ui.screens.activePrefs inputs)
      exact h.quiet hbox hstatus hlink (List.Sublist.refl _)
        (uiShowPreferences_lastProtoUpdate _ _) id
  | resetPrefs resetLocked getLocked results =>
      unfold uiCallback
      obtain ⟨hbox, hstatus, hlink⟩ := resetPreferences_rest resetLocked node.model
      exact h.quiet hbox hstatus hlink (List.Sublist.refl _)
        (uiShowPreferences_lastProtoUpdate _ _) id

/-- Any event. -/
theorem step (h : ScreenInv node log) (event : HmiEvent) :
    ScreenInv (hmiStep codec fuel node event).1
      ((hmiStep codec fuel node event).2.foldl ScreenLog.add log) := by
  cases event with
  | receive payload crc32 => exact h.receive payload crc32
  | rxCall locked => exact h.rxCall locked
  | net locked connected => exact h.net locked connected
  | ui locked => exact h.uiCall locked
  | touch action =>
      unfold hmiStep
      dsimp only
      split_ifs
      · exact h.touch action
      · exact h

/-- After every run the log of its outputs tells what the tasks are in. -/
theorem run (blob : Cell (Option HmiUserPreferences)) (events : List HmiEvent) :
    ScreenInv (Machine.run (hmiStep codec fuel) (hmiBoot blob) events).1
      (screenLog (Machine.run (hmiStep codec fuel) (hmiBoot blob) events).2) := by
  refine @Machine.run_keeps_history _ _ _ _ _ _ (fun node outputs =>
    ScreenInv node (screenLog outputs))
    ?_ (boot blob)
  intro node event outputs h
  show ScreenInv _ ((outputs ++ (hmiStep codec fuel node event).2).foldl ScreenLog.add {})
  rw [List.foldl_append]
  exact ScreenInv.step h event

end ScreenInv

/-- Telemetry comes to be decoded where a payload does. -/
theorem decodes_hmiStep (node : HmiNode) (event : HmiEvent) :
    ((hmiStep codec fuel node event).2.filterMap HmiOutput.decodes).Sublist
      (decodedUpdate codec fuel event).toList := by
  cases event with
  | receive payload crc32 =>
      unfold hmiStep
      dsimp only
      split_ifs
      · cases decodedUpdate codec fuel (.receive payload crc32) <;> exact List.Sublist.refl _
      · exact List.nil_sublist _
  | rxCall locked =>
      cases hpending : node.pending with
      | nil =>
          simp only [hmiStep, hpending]
          exact .slnil
      | cons call rest =>
          simp only [hmiStep, hpending]
          cases locked <;> cases call <;> exact .slnil
  | net locked connected => cases locked <;> exact .slnil
  | ui locked =>
      have hnone : (uiTaskCall locked node).2.filterMap HmiOutput.decodes = [] := by
        unfold uiTaskCall
        cases node.point with
        | peekUpdate => dsimp only; cases hmiDataModelPeekUpdate locked node.model <;> rfl
        | getUpdate =>
            dsimp only
            generalize hmiDataModelGetUpdate locked node.model = read
            obtain ⟨update, model⟩ := read
            cases update <;> rfl
        | _ => rfl
      show ((uiTaskCall locked node).2.filterMap HmiOutput.decodes).Sublist []
      rw [hnone]
  | touch action =>
      unfold hmiStep
      dsimp only
      split_ifs
      · cases action <;> exact .slnil
      · exact .slnil

/-- Whatever order the tasks' calls come in and whichever locks time out, what the loop of `ui_task`
draws is telemetry that came and was decoded, in the order it came and each at most once; before its
loop the task draws once at most, telemetry of those. -/
theorem telemetry_drawn_in_order (codec : Codec ι) (fuel : Nat)
    (blob : Cell (Option HmiUserPreferences)) (events : List HmiEvent) :
    let log := screenLog (Machine.run (hmiStep codec fuel) (hmiBoot blob) events).2
    log.drawn.Sublist (events.filterMap (decodedUpdate codec fuel)) ∧
      log.peeked.length ≤ 1 ∧
      ∀ update ∈ log.peeked, update ∈ events.filterMap (decodedUpdate codec fuel) := by
  intro log
  have h : ScreenInv _ log := @ScreenInv.run ι codec fuel blob events
  have hdecoded : log.decoded.Sublist (events.filterMap (decodedUpdate codec fuel)) := by
    rw [decoded_screenLog]
    exact Machine.filterMap_run_sublist decodes_hmiStep
  have hstored : log.stored.Sublist log.decoded :=
    (List.sublist_append_left _ _).trans h.decoded
  have hdrawn : log.drawn.Sublist log.stored :=
    (List.sublist_append_left _ _).trans h.box.order
  refine ⟨(hdrawn.trans hstored).trans hdecoded, h.peekedOnce, ?_⟩
  intro update hmem
  exact (hstored.trans hdecoded).subset (h.peeked update hmem)

/-- In every reachable state a call of `ui_task` that gets the lock brings the screen up to what the
model was last told: the telemetry stored last, the state of the link and the result of the CRC
check. -/
theorem screen_current (codec : Codec ι) (fuel : Nat) (blob : Cell (Option HmiUserPreferences))
    (events : List HmiEvent) :
    let node := (Machine.run (hmiStep codec fuel) (hmiBoot blob) events).1
    let log := screenLog (Machine.run (hmiStep codec fuel) (hmiBoot blob) events).2
    let next := (hmiStep codec fuel node (.ui true)).1
    (node.point = .getUpdate → ∀ update, log.stored.getLast? = some update →
      next.ui.screens.lastProtoUpdate = update ∧ next.model.hasUpdate = false) ∧
    (node.point = .isConnected → next.ui.lastConnected = log.links.getLastD false) ∧
    (node.point = .getCrcStatus → next.ui.crcBadge = some (log.statuses.getLastD true)) := by
  intro node log next
  have h : ScreenInv node log := @ScreenInv.run ι codec fuel blob events
  refine ⟨?_, ?_, ?_⟩
  · intro hpoint update hstored
    have hlast : node.model.lastUpdate = update := h.box.latest update hstored
    simp only [next, hmiStep, uiTaskCall, hpoint, hmiDataModelGetUpdate, if_true]
    cases hnew : node.model.hasUpdate with
    | false =>
        -- nothing is new, so the screen was brought up to it before
        have hdrawn : log.drawn.getLast? = some update := (h.box.seen hnew).trans hstored
        exact ⟨h.shown update hdrawn, hnew⟩
    | true => exact ⟨hlast, rfl⟩
  · intro hpoint
    have hnext : next = (uiTaskCall true node).1 := rfl
    rw [hnext, ← h.link]
    simp only [uiTaskCall, hpoint]
    rfl
  · intro hpoint
    have hnext : next = (uiTaskCall true node).1 := rfl
    rw [hnext, ← h.status]
    simp only [uiTaskCall, hpoint]
    rfl

end SensorHmi
