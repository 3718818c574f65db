import SensorHmi.System.TelemetryPath

/-!
# Commands from the screen to the pins

In a JSON build every section that the I/O task executes is one the user asked for, in the order
asked and each at most once, or one that another client of the server sent, over every run of the
two nodes. So the latches hold nothing but what they held, what the switches say and what other
clients wrote, and the PWM controller is given nothing but what the sliders can say, as long as the
other clients keep to that too.
-/

namespace SensorHmi

open Octets

variable {ι : Type} {build : SystemBuild ι} {sys : SensorSystem} {events : List SystemEvent}

/-- The command of an action, if it makes one. -/
def UiAction.command : UiAction → Option ProtoCommand
  | .gpioSwitch ctx on => some (uiCbWriteGpio (dispatchGpioWrite ctx on))
  | .pwmSlider channel value => some (uiCbSetPwm channel value)
  | .pwmFreqSlider freq => some (uiCbSetPwmFreq freq)
  | _ => none

/-- The sections the user asks for. -/
def SystemEvent.asked : SystemEvent → List IoCommand
  | .touch action _ _ _ _ => action.command.toList.flatMap commandSections
  | _ => []

section Commands

/-- A command of the screen can be expressed, whatever time and number it gets. -/
theorem uiCommand_expressible {action : UiAction} {cmd : ProtoCommand}
    (h : action.command = some cmd) (nowMs sequenceId : UInt32) :
    ({ cmd with timestampMs := nowMs, sequenceId := sequenceId } : ProtoCommand).Expressible := by
  cases action with
  | gpioSwitch ctx on =>
      obtain rfl := Option.some.inj h
      exact toggle_expressible ctx on nowMs sequenceId
  | pwmSlider channel value =>
      obtain rfl := Option.some.inj h
      exact ⟨Or.inl rfl, Or.inl rfl, fun hnone => Bool.noConfusion hnone, fun _ =>
        rfl, fun _ => rfl⟩
  | pwmFreqSlider freq =>
      obtain rfl := Option.some.inj h
      exact ⟨Or.inl rfl, Or.inl rfl, fun _ => rfl, fun hnone => Bool.noConfusion hnone,
        fun _ => rfl⟩
  | applyPrefs inputs locked results => cases h
  | resetPrefs resetLocked getLocked results => cases h

/-- The only command of an action is its own. -/
theorem command_of_screenStep {action : UiAction} {cmd : ProtoCommand}
    (h : (screenStep build sys (.touch action)).2.findSome? HmiOutput.sends = some cmd) :
    action.command = some cmd := by
  have hstep : (screenStep build sys (.touch action)).2 =
      if sys.hmi.point = .process then (uiCallback sys.hmi action).2 else [] := by
    show (hmiStep build.codec build.fuel sys.hmi (.touch action)).2 = _
    unfold hmiStep
    dsimp only
    split_ifs <;> rfl
  rw [hstep] at h
  split_ifs at h
  · cases action <;> exact h
  · cases h

/-- In a JSON build a framed command arrives at the sensor node as its sections. -/
theorem framed_arrives (hjson : build.codec.configUseCbor = false) {action : UiAction}
    {cmd : ProtoCommand} (hcommand : action.command = some cmd) {link : HmiLink} {nowMs : UInt32}
    {data : Bytes} (h : (hmiWsClientSendCommand build.codec link nowMs cmd).2 = .ok data) :
    sensorWsRx build.codec build.fuel (splitCrc true data).1 (splitCrc true data).2 =
      commandSections cmd := by
  have hconnected : link.connected = true := by
    by_contra hdown
    rw [hmiWsClientSendCommand, if_pos (by simpa using hdown)] at h
    cases h
  rw [hmiWsClientSendCommand_json hjson hconnected] at h
  obtain rfl := Except.ok.inj h
  rw [splitCrc_frame]
  exact sensorWsRx_render hjson build.fuel (uiCommand_expressible hcommand _ _)

end Commands

/-- The sections in the data the client put on the wire. -/
def sectionsSent (build : SystemBuild ι) (outputs : List SystemOutput) : List IoCommand :=
  (clientData (wireOutputs outputs)).flatMap fun data =>
    sensorWsRx build.codec build.fuel (splitCrc true data).1 (splitCrc true data).2

section Sent

theorem sectionsSent_append (first second : List SystemOutput) :
    sectionsSent build (first ++ second) = sectionsSent build first ++ sectionsSent build
      second := by
  have hdata : clientData (wireOutputs first ++ wireOutputs second) =
      clientData (wireOutputs first) ++ clientData (wireOutputs second) := List.filterMap_append
  rw [sectionsSent, wireOutputs_append, hdata, List.flatMap_append]
  rfl

/-- The client puts nothing on the wire but a command, and it once at most. -/
theorem clientSend_once {mb : Mbedtls} {tickRateHz : UInt32} (net : Transport) (data : Bytes)
    (iv : Vector UInt8 12) (allocated : Bool) (sent : Nat) :
    (clientData (transportStep mb tickRateHz net (.clientSend data iv allocated sent)).2).Sublist
      [data] := by
  rcases @wsClientSend_cases mb tickRateHz data iv allocated net.link sent with
    hnothing | ⟨outSize, result, ctx, -, -, hsend⟩
  · simp only [transportStep, hnothing]
    exact List.nil_sublist _
  · simp only [transportStep, hsend]
    cases result with
    | error err => exact List.nil_sublist _
    | ok frame => exact List.Sublist.refl _

theorem clientData_wireStep (build : SystemBuild ι) (sys : SensorSystem) (event : TransportEvent)
    (h : ∀ data iv allocated sent, event ≠ .clientSend data iv allocated sent) :
    clientData (wireStep build sys event).2 = [] :=
  clientData_transportStep h

/-- A step that is no touch of the user sends nothing from the client. -/
theorem clientData_of_not_touch {event : SystemEvent}
    (h : ∀ action nowMs iv allocated sent, event ≠ .touch action nowMs iv allocated sent) :
    clientData (wireOutputs (systemStep build sys event).2) = [] := by
  have hreceives (event : TransportEvent)
      (h : ∀ data iv allocated sent, event ≠ .clientSend data iv allocated sent) :
      clientData (wireOutputs (nodeReceives build sys event).2) = [] := by
    obtain ⟨⟨hwire, -⟩, -⟩ := @nodeReceives_frame _ build sys event
    rw [(Prod.mk.inj hwire).2]
    exact clientData_transportStep h
  cases event with
  | touch action nowMs iv allocated sent => exact absurd rfl (h action nowMs iv allocated sent)
  | sensors inputs => rfl
  | sensorsAct => rfl
  | io event =>
      unfold systemStep
      dsimp only
      split_ifs
      · rfl
      · rw [wireOutputs_io]
        rfl
  | ioReport locked =>
      unfold systemStep
      dsimp only
      cases sys.reports <;> rfl
  | app locked monotonicMs =>
      unfold systemStep
      dsimp only
      split_ifs
      · rfl
      · rw [(@publishCall_frame _ build sys locked monotonicMs).2.2.2.1]
        rfl
  | broadcast iv allocated =>
      unfold systemStep
      dsimp only
      cases hframe : sys.txFrame with
      | none => rfl
      | some frame =>
          rw [wireOutputs_wire]
          exact clientData_wireStep build _ (.serverSend (frameOctets frame) iv allocated)
            fun _ _ _ _ h => by cases h
  | wire event =>
      unfold systemStep
      dsimp only
      split_ifs with hlink
      · refine hreceives event ?_
        rintro data iv allocated sent rfl
        exact hlink
      · rfl
  | atServer now => exact hreceives (.atServer now) fun _ _ _ _ h => by cases h
  | atClient =>
      unfold systemStep
      dsimp only
      split_ifs
      · rw [wireOutputs_append, wireOutputs_wire, wireOutputs_screen, List.append_nil]
        exact clientData_wireStep build sys .atClient fun _ _ _ _ h => by cases h
      · rfl
  | hmi event =>
      unfold systemStep
      dsimp only
      split_ifs
      · rw [wireOutputs_screen]
        rfl
      · rfl

/-- In a JSON build what a step sends are sections the user asks for in it. -/
theorem sectionsSent_step (hjson : build.codec.configUseCbor = false) (event : SystemEvent) :
    (sectionsSent build (systemStep build sys event).2).Sublist event.asked := by
  by_cases htouch : ∃ action nowMs iv allocated sent,
      event = .touch action nowMs iv allocated sent
  · obtain ⟨action, nowMs, iv, allocated, sent, rfl⟩ := htouch
    unfold systemStep
    dsimp only
    split
    case h_1 =>
      rw [sectionsSent, wireOutputs_screen]
      exact List.nil_sublist _
    case h_2 cmd hfound =>
      have hcommand := command_of_screenStep hfound
      rw [sectionsSent, wireOutputs_append, wireOutputs_screen, wireOutputs_wire, List.nil_append]
      obtain ⟨-, hnothing | ⟨data, hframed, hsend⟩⟩ := @sendCommand_frame _ build
        (screenStep build sys (.touch action)).1 nowMs iv allocated sent cmd
      · rw [hnothing.2]
        exact List.nil_sublist _
      · have harrives := framed_arrives hjson hcommand hframed
        have honce := @clientSend_once build.mb build.wsTickRateHz sys.net data iv allocated sent
        rw [(Prod.mk.inj hsend).2]
        refine (honce.flatMap _).trans ?_
        show (sensorWsRx _ _ _ _ ++ []).Sublist (action.command.toList.flatMap commandSections)
        rw [harrives, hcommand]
        exact List.Sublist.refl _
  · have hnone : clientData (wireOutputs (systemStep build sys event).2) = [] :=
      clientData_of_not_touch fun action nowMs iv allocated sent h =>
        htouch ⟨action, nowMs, iv, allocated, sent, h⟩
    rw [sectionsSent, hnone]
    exact List.nil_sublist _

/-- And so over a run. -/
theorem sectionsSent_run (hjson : build.codec.configUseCbor = false) (sys : SensorSystem)
    (events : List SystemEvent) :
    (sectionsSent build (Machine.run (systemStep build) sys events).2).Sublist
      (events.flatMap SystemEvent.asked) := by
  induction events generalizing sys with
  | nil => exact .slnil
  | cons event rest ih =>
      rw [Machine.run_cons, sectionsSent_append, List.flatMap_cons]
      exact (sectionsSent_step hjson event).append (ih _)

end Sent

/-- The sections in the frames the server handed to `ws_rx`, each with whose connection its frame
came over. -/
def receivedSections (build : SystemBuild ι) (outputs : List SystemOutput) :
    List (FrameSource × IoCommand) :=
  (nodeCalls (wireOutputs outputs)).flatMap fun frame =>
    (sensorWsRx build.codec build.fuel frame.2.1 frame.2.2).map fun command => (frame.1, command)

/-- The sections of the HMI, or those of the other clients. -/
def sectionsFrom (source : FrameSource) (sections : List (FrameSource × IoCommand)) :
    List IoCommand :=
  (sections.filter fun entry => entry.1 = source).map Prod.snd

section Executed

variable {codec : Codec ι} {fuel : Nat} {map : IoMap}

/-- Whether or not sections are given up, what is executed and what is still on its way was
accepted, in that order. -/
theorem executed_sublist_accepted (node : IoNode) (hidle : node.inFlight = [])
    (ioEvents : List IoEvent) :
    (executedSections (Machine.run (ioStep codec fuel map) node ioEvents).2 ++
        (Machine.run (ioStep codec fuel map) node ioEvents).1.inFlight).Sublist
      (acceptedSections (Machine.run (ioStep codec fuel map) node ioEvents).2) := by
  refine @Machine.run_keeps_history _ _ _ (ioStep codec fuel map) node ioEvents
    (fun node outputs => (executedSections outputs ++ node.inFlight).Sublist
      (acceptedSections outputs)) ?_ ?_
  · intro node event outputs h
    rw [executedSections_append, acceptedSections_append]
    by_cases hgives : GivesUp node event
    · obtain ⟨hexecuted, haccepted, -⟩ :=
        @length_inFlight_of_givesUp ι codec fuel map node event hgives
      obtain ⟨⟨first, rest, hpending⟩, rfl, hfull⟩ := hgives
      have hshorter : (ioStep codec fuel map node .waitEnds).1.inFlight.Sublist node.inFlight := by
        simp only [ioStep, hpending, if_neg (Nat.not_lt_of_le hfull), IoNode.inFlight]
        exact (List.sublist_cons_self first rest).append_left _
      rw [hexecuted, haccepted, List.append_nil, List.append_nil]
      exact (hshorter.append_left _).trans h
    · have hconserves := @ioStep_conserves ι codec fuel map node event hgives
      rw [List.append_assoc, hconserves, ← List.append_assoc]
      exact h.append (List.Sublist.refl _)
  · rw [hidle]
    exact .slnil

/-- The sections of one source in a row of sections that all have one. -/
theorem sectionsFrom_map (source of : FrameSource) (commands : List IoCommand) :
    sectionsFrom source (commands.map fun command => (of, command)) =
      if of = source then commands else [] := by
  unfold sectionsFrom
  rw [List.filter_map, List.map_map]
  split_ifs with hsame <;> simp [Function.comp_def, hsame]

theorem sectionsFrom_append (source : FrameSource) (first second : List (FrameSource × IoCommand)) :
    sectionsFrom source (first ++ second) =
      sectionsFrom source first ++ sectionsFrom source second := by
  unfold sectionsFrom
  rw [List.filter_append, List.map_append]

/-- The sections received from the HMI are those in the frames of its connection. -/
theorem sectionsFrom_received (outputs : List SystemOutput) :
    sectionsFrom .hmi (receivedSections build outputs) =
      (serverCalls (wireOutputs outputs)).flatMap fun frame =>
        sensorWsRx build.codec build.fuel frame.1 frame.2 := by
  unfold receivedSections
  induction wireOutputs outputs with
  | nil => rfl
  | cons output rest ih =>
      cases output with
      | serverRx payload crc32 =>
          show sectionsFrom _ (_ ++ _) = _ ++ _
          rw [sectionsFrom_append, sectionsFrom_map, if_pos rfl]
          exact congrArg _ ih
      | otherRx payload crc32 =>
          show sectionsFrom _ (_ ++ _) = _
          rw [sectionsFrom_append, sectionsFrom_map, if_neg fun h => by cases h]
          exact ih
      | _ => exact ih

/-- The sections the HMI sent and the server handed on are some the user asked for, in order. -/
theorem systemRun_own (hjson : build.codec.configUseCbor = false) {encryptionEnabled : Bool}
    (hhonest : Honest encryptionEnabled sys.net) (hempty : InOrder sys.net []) :
    (sectionsFrom .hmi
        (receivedSections build (Machine.run (systemStep build) sys events).2)).Sublist
      (events.flatMap SystemEvent.asked) := by
  have hcalls : (serverCalls (wireOutputs (Machine.run (systemStep build) sys events).2)).Sublist
      ((clientData (wireOutputs (Machine.run (systemStep build) sys events).2)).map
        (splitCrc true)) :=
    (List.sublist_append_left _ _).trans
      (@systemRun_inOrder ι build sys encryptionEnabled hhonest hempty events).server
  rw [sectionsFrom_received]
  refine (hcalls.flatMap _).trans ?_
  rw [List.flatMap_map]
  exact sectionsSent_run hjson sys events

/-- What the I/O task executes, and what is on its way to it, was received in that order. -/
theorem systemRun_executed (hidle : sys.io.inFlight = []) :
    let result := Machine.run (systemStep build) sys events
    (executedSections (ioOutputs result.2) ++ result.1.io.inFlight).Sublist
      ((receivedSections build result.2).map Prod.snd) := by
  intro result
  obtain ⟨ioEvents, hrun, hreceives⟩ := @systemRun_io ι build sys events
  have hexecuted := @executed_sublist_accepted ι build.codec build.fuel build.ioMap sys.io hidle
    ioEvents
  have haccepted := @run_accepted ι build.codec build.fuel build.ioMap sys.io ioEvents
  rw [show sys.io = ioPart.state sys from rfl, hrun] at hexecuted haccepted
  have hreceived : (receivedFrames ioEvents).flatMap (fun frame =>
      sensorWsRx build.codec build.fuel frame.1 frame.2) =
        (receivedSections build result.2).map Prod.snd := by
    rw [hreceives, List.flatMap_map, receivedSections, List.map_flatMap]
    simp [Function.comp_def, result]
  rw [haccepted, hreceived] at hexecuted
  exact hexecuted

/-- An executed section is one the user asked for, or one of another client. -/
theorem asked_or_received (hjson : build.codec.configUseCbor = false) {encryptionEnabled : Bool}
    (hhonest : Honest encryptionEnabled sys.net) (hempty : InOrder sys.net [])
    (hidle : sys.io.inFlight = []) {command : IoCommand}
    (hmem : command ∈ executedSections (ioOutputs (Machine.run (systemStep build) sys events).2)) :
    command ∈ events.flatMap SystemEvent.asked ∨
      (.other, command) ∈ receivedSections build (Machine.run (systemStep build) sys events).2 := by
  obtain ⟨entry, hentry, rfl⟩ := List.mem_map.mp
    ((@systemRun_executed ι build sys events hidle).subset (List.mem_append_left _ hmem))
  obtain ⟨source, command⟩ := entry
  cases source with
  | hmi =>
      refine .inl ((systemRun_own hjson hhonest hempty).subset ?_)
      exact List.mem_map_of_mem (List.mem_filter.mpr ⟨hentry, by simp⟩)
  | other => exact .inr hentry

end Executed

section Pins

variable {codec : Codec ι} {fuel : Nat} {map : IoMap}

/-- The section sets the pin to this level, whatever the levels were. -/
def IoCommand.Sets (pin : Pin) (level : Bool) (command : IoCommand) : Prop :=
  ∀ levels, command.drive levels pin = level

/-- A section leaves a pin as it was, or sets it. -/
theorem drive_level (command : IoCommand) (levels : Pin → Bool) (pin : Pin) :
    command.drive levels pin = levels pin ∨ command.Sets pin (command.drive levels pin) := by
  cases command with
  | setPwm channel duty => exact Or.inl rfl
  | setPwmFreq pwmFreq => exact Or.inl rfl
  | writeGpio deviceIndex port mask value =>
      simp only [IoCommand.Sets, IoCommand.drive]
      split_ifs with hpin
      · exact Or.inr fun _ => rfl
      · exact Or.inl rfl

/-- A masked write is made or it fails, and then the chips stay as they are. -/
theorem writeGpio_cases (results : Nat → EspErr) (bus : I2cBus) (addr : UInt8)
    (mask value : UInt16) :
    (mcp23017WriteGpio results bus addr mask value).2 = bus ∨
      (mcp23017WriteGpio results bus addr mask value).2 =
        (mcp23017WriteGpio (fun _ => .ok) bus addr mask value).2 := by
  unfold mcp23017WriteGpio mcp23017Read16
  by_cases hread : results 0 = .ok
  · rw [if_pos hread]
    dsimp only
    unfold mcp23017Write16
    by_cases hwrite : results 1 = .ok
    · rw [if_pos hwrite]
      exact Or.inr rfl
    · rw [if_neg hwrite]
      exact Or.inl rfl
  · rw [if_neg hread]
    exact Or.inl rfl

/-- Executing a section leaves the level of a pin, or the section sets it. -/
theorem ioExecute_level (results : Nat → EspErr) (node : IoNode) (command : IoCommand) (pin : Pin) :
    latchLevels (ioExecute map results node command).1.bus pin = latchLevels node.bus pin ∨
      command.Sets pin (latchLevels (ioExecute map results node command).1.bus pin) := by
  cases command with
  | setPwm channel duty => exact Or.inl rfl
  | setPwmFreq pwmFreq => exact Or.inl rfl
  | writeGpio deviceIndex port mask value =>
      have hall : ∀ n : Nat, (fun _ : Nat => EspErr.ok) n = .ok := fun _ => rfl
      have hdrive := congrFun (@ioExecute_levels map _ hall node
        (.writeGpio deviceIndex port mask value)) pin
      simp only [ioExecute] at hdrive ⊢
      rcases writeGpio_cases results node.bus (gpioUpdate deviceIndex port mask value).1
        (gpioUpdate deviceIndex port mask value).2.1 (gpioUpdate deviceIndex port mask value).2.2
        with hfailed | hmade
      · rw [hfailed]
        exact Or.inl rfl
      · rw [hmade, hdrive]
        exact drive_level _ _ pin

/-- After a run each pin has the level it had, or one that an executed section set. -/
theorem run_level (node : IoNode) (ioEvents : List IoEvent) (pin : Pin) :
    let result := Machine.run (ioStep codec fuel map) node ioEvents
    latchLevels result.1.bus pin = latchLevels node.bus pin ∨
      ∃ command ∈ executedSections result.2, command.Sets pin (latchLevels result.1.bus pin) := by
  refine @Machine.run_keeps_history _ _ _ (ioStep codec fuel map) node ioEvents
    (fun later outputs => latchLevels later.bus pin = latchLevels node.bus pin ∨
      ∃ command ∈ executedSections outputs, command.Sets pin (latchLevels later.bus pin))
    ?_ (Or.inl rfl)
  intro later event outputs h
  have hstays (hbus : (ioStep codec fuel map later event).1.bus = later.bus) :
      latchLevels (ioStep codec fuel map later event).1.bus pin = latchLevels node.bus pin ∨
        ∃ command ∈ executedSections (outputs ++ (ioStep codec fuel map later event).2),
          command.Sets pin (latchLevels (ioStep codec fuel map later event).1.bus pin) := by
    rw [hbus, executedSections_append]
    exact h.imp id fun hset => hset.imp fun command hboth =>
      ⟨List.mem_append_left _ hboth.1, hboth.2⟩
  rcases @ioStep_cases ι codec fuel map later event with
    ⟨_, _, -, -, -, hbus⟩ | ⟨results, command, rest, rfl, -, hexecuted, hbus⟩ | ⟨-, -, -, hbus⟩
  · exact hstays hbus
  · rcases @ioExecute_level map results { later with cmdQueue := rest } command pin with
      hsame | hsets
    · rw [hbus, hsame, executedSections_append]
      exact h.imp id fun hset => hset.imp fun command hboth =>
        ⟨List.mem_append_left _ hboth.1, hboth.2⟩
    · rw [hbus, executedSections_append, hexecuted]
      exact Or.inr ⟨command, List.mem_append_right _ List.mem_cons_self, hsets⟩
  · exact hstays hbus

/-- A section that sets a pin was asked for by the switch of this pin, at this level. -/
theorem switch_of_sets {event : SystemEvent} {command : IoCommand} {pin : Pin} {level : Bool}
    (hasked : command ∈ event.asked) (hsets : command.Sets pin level) :
    ∃ ctx nowMs iv allocated sent,
      event = .touch (.gpioSwitch ctx level) nowMs iv allocated sent ∧ ctx.pin = pin := by
  cases event with
  | touch action nowMs iv allocated sent =>
      cases action with
      | gpioSwitch ctx on =>
          obtain rfl : command = GpioToggle.command ⟨ctx, on, nowMs⟩ := List.mem_singleton.mp hasked
          have hlevel (levels : Pin → Bool) : Function.update levels ctx.pin on pin = level := by
            rw [← hsets levels]
            exact (congrFun (drive_command ⟨ctx, on, nowMs⟩ levels) pin).symm
          by_cases hpin : pin = ctx.pin
          · refine ⟨ctx, nowMs, iv, allocated, sent, ?_, hpin.symm⟩
            have hon := hlevel fun _ => false
            rw [hpin, Function.update_self] at hon
            rw [hon]
          · have hother := hlevel fun _ => !level
            rw [Function.update_of_ne hpin] at hother
            exact absurd hother (by simp)
      | pwmSlider channel value =>
          obtain rfl : command = .setPwm _ _ := List.mem_singleton.mp hasked
          exact absurd (hsets fun _ => !level) (by simp [IoCommand.drive])
      | pwmFreqSlider freq =>
          obtain rfl : command = .setPwmFreq _ := List.mem_singleton.mp hasked
          exact absurd (hsets fun _ => !level) (by simp [IoCommand.drive])
      | applyPrefs inputs locked results => cases hasked
      | resetPrefs resetLocked getLocked results => cases hasked
  | _ => cases hasked

end Pins

section Pwm

/-- The ranges of the sliders: twelve bits for a duty, 40 to 2000 Hz for the frequency. -/
def UiAction.SlidersInRange : UiAction → Prop
  | .pwmSlider _ value => 0 ≤ value ∧ value ≤ 4095
  | .pwmFreqSlider freq => 40 ≤ freq ∧ freq ≤ 2000
  | _ => True

/-- A frequency and a duty the sliders can ask for, in a section and in what comes of it. -/
def IoCommand.InRange : IoCommand → Prop
  | .setPwm _ duty => duty ≤ 4095
  | .setPwmFreq pwmFreq => 40 ≤ pwmFreq ∧ pwmFreq ≤ 2000
  | _ => True

def IoOutput.InRange : IoOutput → Prop
  | .pca9685Init frequencyHz => 40 ≤ frequencyHz ∧ frequencyHz ≤ 2000
  | .pca9685SetPwm channel duty => channel < 16 ∧ duty ≤ 4095
  | .setPwm duty frequencyHz => (∀ i, duty.get i ≤ 4095) ∧ 40 ≤ frequencyHz ∧ frequencyHz ≤ 2000
  | _ => True

variable {codec : Codec ι} {fuel : Nat} {map : IoMap}

theorem inRange_of_asked {action : UiAction} (h : action.SlidersInRange) {nowMs : UInt32}
    {iv : Vector UInt8 12} {allocated : Bool} {sent : Nat} {command : IoCommand}
    (hasked : command ∈ (SystemEvent.touch action nowMs iv allocated sent).asked) :
    command.InRange := by
  cases action with
  | gpioSwitch ctx on =>
      obtain rfl : command = .writeGpio (dispatchGpioWrite ctx on).deviceIndex
        (dispatchGpioWrite ctx on).port (dispatchGpioWrite ctx on).mask
        (dispatchGpioWrite ctx on).value := List.mem_singleton.mp hasked
      trivial
  | pwmSlider channel value =>
      obtain rfl : command = .setPwm channel value.toUInt16 := List.mem_singleton.mp hasked
      have hvalue : value.toUInt16.toNat = value.toNatClampNeg := Int16.toNat_toUInt16_of_le h.1
      have hint : value.toInt ≤ 4095 := Int16.le_iff_toInt_le.mp h.2
      show value.toUInt16 ≤ 4095
      rw [UInt16.le_iff_toNat_le, hvalue]
      show value.toInt.toNat ≤ 4095
      omega
  | pwmFreqSlider freq =>
      obtain rfl : command = .setPwmFreq freq := List.mem_singleton.mp hasked
      exact h
  | applyPrefs inputs locked results => cases hasked
  | resetPrefs resetLocked getLocked results => cases hasked

/-- The statics of `t_io.c` are in range. -/
structure PwmInRange (node : IoNode) : Prop where
  duty : ∀ i, node.pwm.get i ≤ 4095
  freq : 40 ≤ node.pwmFreq ∧ node.pwmFreq ≤ 2000

/-- A section in range is executed in range. -/
theorem ioExecute_inRange {node : IoNode} (h : PwmInRange node) (results : Nat → EspErr)
    {command : IoCommand} (hcommand : command.InRange) :
    PwmInRange (ioExecute map results node command).1 ∧
      ∀ output ∈ (ioExecute map results node command).2, output.InRange := by
  cases command with
  | setPwm channel duty =>
      refine ⟨⟨fun i => ?_, h.freq⟩, fun output hmem => ?_⟩
      · show (node.pwm.set (channel.toNat % 16) duty).get i ≤ 4095
        rw [Vector.get_eq_getElem, Vector.getElem_set]
        split_ifs
        · exact hcommand
        · exact h.duty i
      · simp only [ioExecute] at hmem
        split_ifs at hmem
        · obtain rfl := List.mem_singleton.mp hmem
          refine ⟨?_, hcommand⟩
          rw [UInt8.lt_iff_toNat_lt, UInt8.toNat_mod]
          exact Nat.mod_lt _ (by decide)
        · cases hmem
  | setPwmFreq pwmFreq =>
      refine ⟨⟨h.duty, hcommand⟩, fun output hmem => ?_⟩
      simp only [ioExecute] at hmem
      split_ifs at hmem
      · rcases List.mem_cons.mp hmem with rfl | hsent
        · exact hcommand
        · obtain ⟨i, -, rfl⟩ := List.mem_map.mp hsent
          refine ⟨?_, h.duty i⟩
          have hlt : ∀ i : Fin 16, UInt8.ofNat i.val < 16 := by decide
          exact hlt i
      · cases hmem
  | writeGpio deviceIndex port mask value =>
      exact ⟨⟨h.duty, h.freq⟩, fun output hmem => by cases hmem⟩

theorem gpioReport_inRange (results : Nat → EspErr) (external : UInt8 → UInt8 × UInt8)
    (bus : I2cBus) (i : Fin 2) :
    ∀ output ∈ gpioReport results external bus i, output.InRange := by
  intro output hmem
  unfold gpioReport at hmem
  dsimp only at hmem
  split at hmem
  · obtain rfl := List.mem_singleton.mp hmem
    trivial
  · cases hmem

/-- While only sections in range are executed, all that goes to the controller and to the data
model is in range. -/
theorem ioStep_inRange {node : IoNode} (h : PwmInRange node) (event : IoEvent)
    (hexecuted : ∀ command ∈ executedSections (ioStep codec fuel map node event).2,
      command.InRange) :
    PwmInRange (ioStep codec fuel map node event).1 ∧
      ∀ output ∈ (ioStep codec fuel map node event).2, output.InRange := by
  have hidle : PwmInRange node ∧ ∀ output ∈ ([] : List IoOutput), output.InRange :=
    ⟨h, fun _ hmem => by cases hmem⟩
  cases event with
  | frame data crc =>
      refine ⟨⟨h.duty, h.freq⟩, fun output hmem => ?_⟩
      obtain ⟨command, -, rfl⟩ := List.mem_map.mp hmem
      trivial
  | queueSend =>
      cases hpending : node.pending with
      | nil => simpa only [ioStep, hpending] using hidle
      | cons first rest =>
          simp only [ioStep, hpending]
          split_ifs
          · exact ⟨⟨h.duty, h.freq⟩, hidle.2⟩
          · exact hidle
  | waitEnds =>
      cases hpending : node.pending with
      | nil => simpa only [ioStep, hpending] using hidle
      | cons first rest =>
          simp only [ioStep, hpending]
          split_ifs
          · exact ⟨⟨h.duty, h.freq⟩, hidle.2⟩
          · refine ⟨⟨h.duty, h.freq⟩, fun output hmem => ?_⟩
            obtain rfl := List.mem_singleton.mp hmem
            trivial
  | queueReceive results =>
      by_cases hdraining : node.draining = true
      · cases hqueue : node.cmdQueue with
        | nil =>
            rw [ioStep_receive_nil hdraining hqueue]
            exact ⟨⟨h.duty, h.freq⟩, hidle.2⟩
        | cons command rest =>
            rw [ioStep_receive_cons hdraining hqueue] at hexecuted ⊢
            have hcommand : command.InRange := hexecuted command List.mem_cons_self
            have hrest : PwmInRange { node with cmdQueue := rest } := ⟨h.duty, h.freq⟩
            obtain ⟨hnext, houtputs⟩ := @ioExecute_inRange map _ hrest results command hcommand
            refine ⟨hnext, fun output hmem => ?_⟩
            rcases List.mem_cons.mp hmem with rfl | hlater
            · trivial
            · exact houtputs output hlater
      · rw [ioStep_receive_idle hdraining]
        exact hidle
  | poll results external =>
      simp only [ioStep]
      split_ifs
      · exact hidle
      · refine ⟨⟨h.duty, h.freq⟩, fun output hmem => ?_⟩
        rcases List.mem_append.mp hmem with hreports | hpwm
        · rcases List.mem_append.mp hreports with hfirst | hsecond
          · exact gpioReport_inRange results external node.bus 0 output hfirst
          · exact gpioReport_inRange results external node.bus 1 output hsecond
        · obtain rfl := List.mem_singleton.mp hpwm
          exact ⟨h.duty, h.freq⟩

theorem ioRun_inRange {node : IoNode} (h : PwmInRange node) (ioEvents : List IoEvent)
    (hexecuted : ∀ command ∈ executedSections
      (Machine.run (ioStep codec fuel map) node ioEvents).2, command.InRange) :
    ∀ output ∈ (Machine.run (ioStep codec fuel map) node ioEvents).2, output.InRange := by
  have hinv := @Machine.run_keeps_history _ _ _ (ioStep codec fuel map) node ioEvents
    (fun later outputs => (∀ command ∈ executedSections outputs, command.InRange) →
      PwmInRange later ∧ ∀ output ∈ outputs, output.InRange) ?_ fun _ => ⟨h, fun _ hmem => by
        cases hmem⟩
  · exact (hinv hexecuted).2
  · intro later event outputs hbefore hall
    rw [executedSections_append] at hall
    obtain ⟨hstatics, houtputs⟩ := hbefore fun command hmem =>
      hall command (List.mem_append_left _ hmem)
    obtain ⟨hnext, hshown⟩ := @ioStep_inRange ι codec fuel map later hstatics event
      fun command hmem => hall command (List.mem_append_right _ hmem)
    refine ⟨hnext, fun output hmem => ?_⟩
    rcases List.mem_append.mp hmem with hold | hnew
    · exact houtputs output hold
    · exact hshown output hnew

end Pwm

/-- A frame with a command that switches on pin 3 of the first expander, with no CRC. -/
def otherFrame : Bytes :=
  frameOctets (onPayload firstThird 8 2, 0)

/-- The HMI connects, and so does another client; `ui_task` comes to the widgets, the user sets a
switch and a slider, the other client a pin of its own, and all three commands are executed. -/
def panelEvents : List SystemEvent :=
  [.wire (.accept ⟨[]⟩ 7 0 0 0), .wire .connected, .wire (.elsewhere (.get ⟨[]⟩ 9 0 0 0))] ++
    List.replicate 5 (.hmi (.ui true)) ++
    [.touch (.gpioSwitch secondNinth true) 5 (Vector.replicate 12 0) true 0,
      .touch (.pwmSlider 3 2048) 6 (Vector.replicate 12 0) true 0, .atServer 1,
      .wire (.elsewhere (.frame 9 { type := .binary, payload := otherFrame } 2)), .atServer 3,
      .io .queueSend, .io .queueSend, .io .queueSend, .io (.queueReceive fun _ => .ok),
      .io (.queueReceive fun _ => .ok), .io (.queueReceive fun _ => .ok)]

/-- Where these steps lead, and what shows of them. -/
def panelRun : SensorSystem × List SystemOutput :=
  Machine.run (systemStep (exchangeBuild false)) (exchangeStart false) panelEvents

/-- In a JSON build: over every run of the two nodes the sections the I/O task executed, and behind
them those on their way to it, are sections of the frames it received, in that order and each at
most once. Of these, the ones that came over the connection of the HMI are sections the user asked
for, in that order and each at most once; the others came over connections of other clients. -/
theorem commands_executed_as_asked (build : SystemBuild ι)
    (hjson : build.codec.configUseCbor = false) {srv : WsServer} {link : WsLink}
    (hstarted : StartedAlike build srv link) (boot : SensorsInputs)
    (results : Fin 2 → Nat → EspErr) (bus : I2cBus) (flash : Cell (Option HmiUserPreferences))
    (events : List SystemEvent) :
    let result := Machine.run (systemStep build)
      (startedSystem build boot results bus srv link flash) events
    ∃ sections : List (FrameSource × IoCommand),
      sections.map Prod.snd = executedSections (ioOutputs result.2) ++ result.1.io.inFlight ∧
      sections.Sublist (receivedSections build result.2) ∧
      (sectionsFrom .hmi sections).Sublist (events.flatMap SystemEvent.asked) := by
  intro result
  obtain ⟨encryptionEnabled, hhonest⟩ := hstarted.honest
  have hown := @systemRun_own ι build (startedSystem build boot results bus srv link flash) events
    hjson encryptionEnabled hhonest ⟨List.nil_sublist _, List.nil_sublist _⟩
  obtain ⟨sections, hsections, hvalues⟩ := List.sublist_map_iff.mp
    (@systemRun_executed ι build (startedSystem build boot results bus srv link flash) events rfl)
  exact ⟨sections, hvalues.symm, hsections, ((hsections.filter _).map _).trans hown⟩

/-- All three commands are executed, and the one of the other client is not the user's. -/
theorem commands_executed_as_asked_panel :
    (∃ sections : List (FrameSource × IoCommand),
      sections.map Prod.snd = executedSections (ioOutputs panelRun.2) ++ panelRun.1.io.inFlight ∧
      sections.Sublist (receivedSections (exchangeBuild false) panelRun.2) ∧
      (sectionsFrom .hmi sections).Sublist (panelEvents.flatMap SystemEvent.asked)) ∧
      (executedSections (ioOutputs panelRun.2)).length = 3 ∧
      (panelEvents.flatMap SystemEvent.asked).length = 2 := by
  refine ⟨?_, by decide +kernel, by decide +kernel⟩
  unfold panelRun exchangeStart
  exact commands_executed_as_asked (exchangeBuild false) rfl (exchange_startedAlike false)
    (sht20Inputs (.error .fail)) (fun _ _ => .ok) (fun _ => {}) ⟨none, []⟩ panelEvents

/-- Over every run of the two nodes each pin of the expanders has the level it was given at the
start, or one the user set its own switch to, or one another client wrote to it. -/
theorem latches_follow_switches (build : SystemBuild ι)
    (hjson : build.codec.configUseCbor = false) {srv : WsServer} {link : WsLink}
    (hstarted : StartedAlike build srv link) (boot : SensorsInputs)
    (results : Fin 2 → Nat → EspErr) (bus : I2cBus) (flash : Cell (Option HmiUserPreferences))
    (events : List SystemEvent) (pin : Pin) :
    let result := Machine.run (systemStep build)
      (startedSystem build boot results bus srv link flash) events
    let levels := latchLevels result.1.io.bus
    levels pin = latchLevels (ioTaskStart results bus).bus pin ∨
      (∃ ctx nowMs iv allocated sent,
        SystemEvent.touch (.gpioSwitch ctx (levels pin)) nowMs iv allocated sent ∈ events ∧
          ctx.pin = pin) ∨
      ∃ command, (.other, command) ∈ receivedSections build result.2 ∧
        command.Sets pin (levels pin) := by
  intro result levels
  obtain ⟨encryptionEnabled, hhonest⟩ := hstarted.honest
  have hempty : InOrder (startedSystem build boot results bus srv link flash).net [] :=
    ⟨List.nil_sublist _, List.nil_sublist _⟩
  obtain ⟨ioEvents, hrun, -⟩ := @systemRun_io ι build
    (startedSystem build boot results bus srv link flash) events
  have hlevel := @run_level ι build.codec build.fuel build.ioMap
    (ioPart.state (startedSystem build boot results bus srv link flash)) ioEvents pin
  rw [hrun] at hlevel
  refine hlevel.imp id ?_
  rintro ⟨command, hmem, hsets⟩
  rcases asked_or_received hjson hhonest hempty rfl hmem with hasked | hother
  · obtain ⟨event, hevent, hasked⟩ := List.mem_flatMap.mp hasked
    obtain ⟨ctx, nowMs, iv, allocated, sent, rfl, hpin⟩ := switch_of_sets hasked hsets
    exact .inl ⟨ctx, nowMs, iv, allocated, sent, hevent, hpin⟩
  · exact .inr ⟨command, hother, hsets⟩

/-- The pin of the switch is high, and it was low; and so is the pin the other client set. -/
theorem latches_follow_switches_panel :
    (latchLevels panelRun.1.io.bus (1, 9) =
        latchLevels (ioTaskStart (fun _ _ => .ok) fun _ => {}).bus (1, 9) ∨
      (∃ ctx nowMs iv allocated sent,
        SystemEvent.touch (.gpioSwitch ctx (latchLevels panelRun.1.io.bus (1, 9))) nowMs iv
          allocated sent ∈ panelEvents ∧ ctx.pin = (1, 9)) ∨
      ∃ command, (.other, command) ∈ receivedSections (exchangeBuild false) panelRun.2 ∧
        command.Sets (1, 9) (latchLevels panelRun.1.io.bus (1, 9))) ∧
      latchLevels panelRun.1.io.bus (1, 9) = true ∧
      latchLevels panelRun.1.io.bus (0, 3) = true ∧
      latchLevels (ioTaskStart (fun _ _ => .ok) fun _ => {}).bus (1, 9) = false := by
  refine ⟨?_, by decide +kernel, by decide +kernel, by decide +kernel⟩
  unfold panelRun exchangeStart
  exact latches_follow_switches (exchangeBuild false) rfl (exchange_startedAlike false)
    (sht20Inputs (.error .fail)) (fun _ _ => .ok) (fun _ => {}) ⟨none, []⟩ panelEvents (1, 9)

/-- The user moves a slider within its range. -/
def SystemEvent.SlidersInRange : SystemEvent → Prop
  | .touch action _ _ _ _ => action.SlidersInRange
  | _ => True

/-- Over every run of the two nodes in which sliders move within their ranges and other clients ask
for nothing beyond them, the PWM controller is given duties of twelve bits on its sixteen channels
and frequencies of 40 to 2000 Hz alone, and so is the data model told. -/
theorem pwm_follows_sliders (build : SystemBuild ι)
    (hjson : build.codec.configUseCbor = false) {srv : WsServer} {link : WsLink}
    (hstarted : StartedAlike build srv link) (boot : SensorsInputs)
    (results : Fin 2 → Nat → EspErr) (bus : I2cBus) (flash : Cell (Option HmiUserPreferences))
    (events : List SystemEvent) (hsliders : ∀ event ∈ events, event.SlidersInRange) :
    let outputs := (Machine.run (systemStep build)
      (startedSystem build boot results bus srv link flash) events).2
    (∀ command, (.other, command) ∈ receivedSections build outputs → command.InRange) →
      ∀ output ∈ ioOutputs outputs, output.InRange := by
  intro outputs hothers
  obtain ⟨encryptionEnabled, hhonest⟩ := hstarted.honest
  have hempty : InOrder (startedSystem build boot results bus srv link flash).net [] :=
    ⟨List.nil_sublist _, List.nil_sublist _⟩
  obtain ⟨ioEvents, hrun, -⟩ := @systemRun_io ι build
    (startedSystem build boot results bus srv link flash) events
  have hstart : PwmInRange (startedSystem build boot results bus srv link flash).io := by
    have hduty : ∀ i : Fin 16, (Vector.replicate 16 (0 : UInt16)).get i ≤ 4095 := by decide
    exact ⟨hduty, (by decide : (40 : UInt16) ≤ 500 ∧ (500 : UInt16) ≤ 2000)⟩
  have hinRange := @ioRun_inRange ι build.codec build.fuel build.ioMap
    (ioPart.state (startedSystem build boot results bus srv link flash)) hstart ioEvents
  rw [hrun] at hinRange
  refine hinRange fun command hmem => ?_
  rcases asked_or_received hjson hhonest hempty rfl hmem with hasked | hother
  · obtain ⟨event, hevent, hasked⟩ := List.mem_flatMap.mp hasked
    have hslider := hsliders event hevent
    cases event with
    | touch action nowMs iv allocated sent => exact inRange_of_asked hslider hasked
    | _ => cases hasked
  · exact hothers command hother

/-- The duty of the slider reaches the controller, and the other client asks for no duty. -/
theorem pwm_follows_sliders_panel :
    (∀ output ∈ ioOutputs panelRun.2, output.InRange) ∧
      .pca9685SetPwm 3 2048 ∈ ioOutputs panelRun.2 := by
  have hreceived : ∀ entry ∈ receivedSections (exchangeBuild false) panelRun.2,
      entry.1 = .other → ∃ deviceIndex port mask value,
        entry.2 = .writeGpio deviceIndex port mask value := by
    have hsections : receivedSections (exchangeBuild false) panelRun.2 =
        [(.hmi, .writeGpio 1 1 2 2), (.other, .writeGpio 0 0 8 8), (.hmi, .setPwm 3 2048)] := by
      decide +kernel
    rw [hsections]
    intro entry hmem hother
    simp only [List.mem_cons, List.not_mem_nil, or_false] at hmem
    rcases hmem with rfl | rfl | rfl
    · cases hother
    · exact ⟨_, _, _, _, rfl⟩
    · cases hother
  refine ⟨pwm_follows_sliders (exchangeBuild false) rfl (exchange_startedAlike false) _ _ _ _
    panelEvents ?_ ?_, by decide +kernel⟩
  · intro event hmem
    have hslider : (0 : Int16) ≤ 2048 ∧ (2048 : Int16) ≤ 4095 := by decide
    simp only [panelEvents, List.cons_append, List.nil_append, List.replicate, List.mem_cons,
      List.not_mem_nil, or_false] at hmem
    rcases hmem with rfl | rfl | rfl | rfl | rfl | rfl | rfl | rfl | rfl | rfl | rfl | rfl | rfl |
      rfl | rfl | rfl | rfl | rfl | rfl <;> first | exact hslider | trivial
  · intro command hmem
    obtain ⟨deviceIndex, port, mask, value, hwrite⟩ := hreceived (.other, command) hmem rfl
    obtain rfl : command = .writeGpio deviceIndex port mask value := hwrite
    trivial

end SensorHmi
