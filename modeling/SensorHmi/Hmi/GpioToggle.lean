import SensorHmi.Hmi.WsClient
import SensorHmi.Lib.Writes
import SensorHmi.Net.WsServer
import SensorHmi.Sensor.GpioReport
import SensorHmi.Sensor.IoDelivery

/-!
# From a switch on the screen to a latch

`dispatch_gpio_write` of `hmi_node/main/display/ui_screens.c` and `ui_cb_write_gpio` of
`hmi_node/main/tasks/t_ui.c`. For the user the switches are a store of thirty-two levels and a
toggle is a write to one of them; the latches of the two expanders simulate this store across the
link.
-/

namespace SensorHmi

open Octets Writes

variable {ι : Type} (codec : Codec ι) (fuel : Nat) (map : IoMap)

/-- `gpio_switch_ctx_t`, as the screen fills `s_gpio_ctx`. -/
structure GpioSwitchCtx where
  deviceIndex : UInt8
  pinIndex : UInt8
  device_lt : deviceIndex < 2
  pin_lt : pinIndex < 16

/-- The arguments of `write_gpio` in `dispatch_gpio_write`. -/
def dispatchGpioWrite (ctx : GpioSwitchCtx) (on : Bool) : ProtoGpioWrite :=
  let port : UInt8 := if ctx.pinIndex < 8 then 0 else 1
  let bit := ctx.pinIndex % 8
  let mask := (1 <<< bit.toUInt32 : UInt32).toUInt16
  { deviceIndex := ctx.deviceIndex, port := port, mask := mask, value := if on then mask else 0 }

/-- `ui_cb_write_gpio`: the command it sends. -/
def uiCbWriteGpio (gpioWrite : ProtoGpioWrite) : ProtoCommand :=
  { hasGpioWrite := true, gpioWrite := gpioWrite }

/-- A switch is set, at a time. -/
structure GpioToggle where
  ctx : GpioSwitchCtx
  on : Bool
  nowMs : UInt32

/-- The frames a sequence of toggles sends. -/
def toggleFrames (link : HmiLink) : List GpioToggle → List Bytes
  | [] => []
  | toggle :: rest =>
      let (link, sent) := hmiWsClientSendCommand codec link toggle.nowMs
        (uiCbWriteGpio (dispatchGpioWrite toggle.ctx toggle.on))
      sent.toOption.toList ++ toggleFrames link rest

/-- The frames that reached `ws_rx`, as the transport splits them. -/
def receivedFrames (events : List IoEvent) : List (Bytes × UInt32) :=
  events.filterMap fun event => match event with
    | .frame data crc => some (data, crc)
    | _ => none

/-- A pin of one of the two expanders. -/
abbrev Pin := Fin 2 × Fin 16

/-- The levels of the latches. -/
def latchLevels (bus : I2cBus) : Pin → Bool := fun pin =>
  (bus mcp23017Addresses[pin.1]).latches.toBitVec.getLsbD pin.2

/-- The pin of a switch. -/
def GpioSwitchCtx.pin (ctx : GpioSwitchCtx) : Pin :=
  (⟨ctx.deviceIndex.toNat, UInt8.lt_iff_toNat_lt.mp ctx.device_lt⟩,
    ⟨ctx.pinIndex.toNat, UInt8.lt_iff_toNat_lt.mp ctx.pin_lt⟩)

/-- What a toggle means to the user. -/
def GpioToggle.write (toggle : GpioToggle) : Pin × Bool :=
  (toggle.ctx.pin, toggle.on)

/-- What a section does to the levels. -/
def IoCommand.drive (levels : Pin → Bool) : IoCommand → Pin → Bool
  | .writeGpio deviceIndex port mask value => fun pin =>
      let (addr, mask, value) := gpioUpdate deviceIndex port mask value
      if mcp23017Addresses[pin.1] = addr ∧ mask.toBitVec.getLsbD pin.2 then
        value.toBitVec.getLsbD pin.2
      else levels pin
  | _ => levels

section Latches

variable {codec fuel map} {node : IoNode} {results : Nat → EspErr} {bus : I2cBus}

/-- A masked write merges into the latches of its chip and leaves the other chips. -/
theorem writeGpio_latches (hresults : ∀ n, results n = .ok) (addr other : UInt8)
    (mask value : UInt16) :
    ((mcp23017WriteGpio results bus addr mask value).2 other).latches.toBitVec =
      if other = addr then merge (bus addr).latches.toBitVec mask.toBitVec value.toBitVec
      else (bus other).latches.toBitVec := by
  have hread : mcp23017Read16 (results 0) bus (0, 0) addr 0x14 = .ok (bus addr).latches := by
    rw [mcp23017Read16, if_pos (hresults 0)]
    rfl
  rw [mcp23017WriteGpio, hread]
  simp only [mcp23017Write16, hresults, if_true]
  by_cases hsame : other = addr
  · subst hsame
    rw [Function.update_self, if_pos rfl]
    exact congrArg UInt16.toBitVec (word_octets _)
  · rw [Function.update_of_ne hsame, if_neg hsame]

/-- Executing a section moves the levels as the section says. -/
theorem ioExecute_levels (hresults : ∀ n, results n = .ok) (node : IoNode) (command : IoCommand) :
    latchLevels (ioExecute map results node command).1.bus =
      command.drive (latchLevels node.bus) := by
  cases command with
  | setPwm channel duty => rfl
  | setPwmFreq pwmFreq => rfl
  | writeGpio deviceIndex port mask value =>
      funext pin
      show (_ : UInt16).toBitVec.getLsbD pin.2 = _
      simp only [ioExecute, IoCommand.drive]
      rw [writeGpio_latches hresults]
      by_cases haddr : mcp23017Addresses[pin.1] = (gpioUpdate deviceIndex port mask value).1
      · rw [if_pos haddr, getLsbD_merge _ _ _ pin.2.isLt, ← haddr]
        simp only [true_and, latchLevels]
      · rw [if_neg haddr, if_neg fun h => haddr h.1]
        rfl

/-- What a step accepts, executes and does to the bus: it takes the sections of a frame, executes
one section, or does nothing of all this. -/
theorem ioStep_cases (event : IoEvent) :
    let result := ioStep codec fuel map node event
    (∃ data crc, event = .frame data crc ∧
        acceptedSections result.2 = sensorWsRx codec fuel data crc ∧
        executedSections result.2 = [] ∧ result.1.bus = node.bus) ∨
      (∃ results command rest, event = .queueReceive results ∧
        acceptedSections result.2 = [] ∧ executedSections result.2 = [command] ∧
        result.1.bus =
          (ioExecute map results { node with cmdQueue := rest } command).1.bus) ∨
      receivedFrames [event] = [] ∧ acceptedSections result.2 = [] ∧
        executedSections result.2 = [] ∧ result.1.bus = node.bus := by
  intro result
  cases event with
  | frame data crc =>
      obtain ⟨haccepted, hexecuted⟩ := sections_of_accepted (sensorWsRx codec fuel data crc)
      exact Or.inl ⟨data, crc, rfl, haccepted, hexecuted, rfl⟩
  | queueSend =>
      refine Or.inr (Or.inr ?_)
      simp only [result, ioStep]
      split
      · exact ⟨rfl, rfl, rfl, rfl⟩
      · split_ifs <;> exact ⟨rfl, rfl, rfl, rfl⟩
  | waitEnds =>
      refine Or.inr (Or.inr ?_)
      simp only [result, ioStep]
      split
      · exact ⟨rfl, rfl, rfl, rfl⟩
      · split_ifs <;> exact ⟨rfl, rfl, rfl, rfl⟩
  | queueReceive results =>
      by_cases hdraining : node.draining = true
      · cases hqueue : node.cmdQueue with
        | nil =>
            rw [show result = _ from ioStep_receive_nil hdraining hqueue]
            exact Or.inr (Or.inr ⟨rfl, rfl, rfl, rfl⟩)
        | cons command rest =>
            obtain ⟨-, haccepted, hexecuted⟩ :=
              ioExecute_frame map results { node with cmdQueue := rest } command
            rw [show result = _ from ioStep_receive_cons hdraining hqueue]
            exact Or.inr (Or.inl ⟨results, command, rest, rfl, haccepted,
              congrArg (List.cons command) hexecuted, rfl⟩)
      · rw [show result = _ from ioStep_receive_idle hdraining]
        exact Or.inr (Or.inr ⟨rfl, rfl, rfl, rfl⟩)
  | poll results external =>
      refine Or.inr (Or.inr ⟨rfl, ?_⟩)
      by_cases hdraining : node.draining = true
      · rw [show result = (node, []) from if_pos hdraining]
        exact ⟨rfl, rfl, rfl⟩
      · obtain ⟨haccepted0, hexecuted0⟩ := gpioReport_frame results external node.bus 0
        obtain ⟨haccepted1, hexecuted1⟩ := gpioReport_frame results external node.bus 1
        rw [show result = _ from if_neg hdraining]
        simp only [acceptedSections_append, executedSections_append, haccepted0, haccepted1,
          hexecuted0, hexecuted1]
        exact ⟨rfl, rfl, trivial⟩

/-- A step moves the levels as the sections it executes say. -/
theorem ioStep_levels {event : IoEvent} (hsucceed : TransfersSucceed event) :
    latchLevels (ioStep codec fuel map node event).1.bus =
      (executedSections (ioStep codec fuel map node event).2).foldl IoCommand.drive
        (latchLevels node.bus) := by
  rcases @ioStep_cases ι codec fuel map node event with
    ⟨_, _, -, -, hexecuted, hbus⟩ | ⟨results, command, rest, rfl, -, hexecuted, hbus⟩ |
      ⟨-, -, hexecuted, hbus⟩
  · rw [hexecuted, hbus, List.foldl_nil]
  · rw [hexecuted, hbus]
    exact ioExecute_levels hsucceed { node with cmdQueue := rest } command
  · rw [hexecuted, hbus, List.foldl_nil]

/-- After a run the levels are what the executed sections made of them. -/
theorem run_levels {events : List IoEvent} (hsucceed : ∀ event ∈ events, TransfersSucceed event) :
    latchLevels (Machine.run (ioStep codec fuel map) node events).1.bus =
      (executedSections (Machine.run (ioStep codec fuel map) node events).2).foldl
        IoCommand.drive (latchLevels node.bus) := by
  induction events generalizing node with
  | nil => rfl
  | cons event rest ih =>
      rw [Machine.run_cons, executedSections_append, List.foldl_append,
        ← ioStep_levels (hsucceed event List.mem_cons_self)]
      exact ih fun later hmem => hsucceed later (List.mem_cons_of_mem _ hmem)

/-- A step accepts the sections of the frame it receives. -/
theorem ioStep_accepted (event : IoEvent) :
    acceptedSections (ioStep codec fuel map node event).2 =
      (receivedFrames [event]).flatMap fun frame => sensorWsRx codec fuel frame.1 frame.2 := by
  rcases @ioStep_cases ι codec fuel map node event with
    ⟨data, crc, rfl, haccepted, -⟩ | ⟨results, command, rest, rfl, haccepted, -⟩ |
      ⟨hframes, haccepted, -⟩
  · rw [haccepted]
    exact (List.append_nil _).symm
  · rw [haccepted]
    rfl
  · rw [haccepted, hframes, List.flatMap_nil]

/-- A run accepts the sections of the frames it receives. -/
theorem run_accepted (events : List IoEvent) :
    acceptedSections (Machine.run (ioStep codec fuel map) node events).2 =
      (receivedFrames events).flatMap fun frame => sensorWsRx codec fuel frame.1 frame.2 := by
  induction events generalizing node with
  | nil => rfl
  | cons event rest ih =>
      have hsplit : receivedFrames ([event] ++ rest) =
          receivedFrames [event] ++ receivedFrames rest := List.filterMap_append
      rw [Machine.run_cons, acceptedSections_append, ioStep_accepted, ih, ← List.flatMap_append,
        ← hsplit]
      rfl

end Latches

section Toggle

variable {codec} {fuel : Nat}

/-- The section that a toggle becomes on the sensor node. -/
def GpioToggle.command (toggle : GpioToggle) : IoCommand :=
  let gpioWrite := dispatchGpioWrite toggle.ctx toggle.on
  .writeGpio gpioWrite.deviceIndex gpioWrite.port gpioWrite.mask gpioWrite.value

/-- The mask that `io_task` shifts into place is the bit of the pin. -/
theorem gpioUpdate_dispatch (ctx : GpioSwitchCtx) (on : Bool) :
    let gpioWrite := dispatchGpioWrite ctx on
    gpioUpdate gpioWrite.deviceIndex gpioWrite.port gpioWrite.mask gpioWrite.value =
      (mcp23017Addresses[ctx.pin.1], ⟨BitVec.twoPow 16 ctx.pin.2⟩,
        if on then ⟨BitVec.twoPow 16 ctx.pin.2⟩ else 0) := by
  have hpins : ∀ (pin : Fin 16) (on : Bool),
      let pinIndex := UInt8.ofNat pin
      let port : UInt8 := if pinIndex < 8 then 0 else 1
      let mask := (1 <<< (pinIndex % 8).toUInt32 : UInt32).toUInt16
      let value := if on then mask else 0
      (if port ≠ 0 then ((mask &&& 0x00FF) <<< 8, (value &&& 0x00FF) <<< 8)
        else (mask &&& 0x00FF, value &&& 0x00FF)) =
          ((⟨BitVec.twoPow 16 pin⟩ : UInt16), if on then ⟨BitVec.twoPow 16 pin⟩ else 0) := by
    decide
  have hpin := hpins ctx.pin.2 on
  have hindex : UInt8.ofNat ctx.pin.2 = ctx.pinIndex := UInt8.ofNat_toNat
  have haddr : mcp23017Addresses[ctx.deviceIndex.toNat % 2] = mcp23017Addresses[ctx.pin.1] := by
    have hlt : ctx.deviceIndex.toNat < 2 := UInt8.lt_iff_toNat_lt.mp ctx.device_lt
    simp only [Nat.mod_eq_of_lt hlt]
    rfl
  rw [hindex] at hpin
  intro gpioWrite
  rw [← hpin, ← haddr]
  exact (apply_ite (Prod.mk _) _ _ _).symm

/-- A toggle writes its own pin and no other. -/
theorem drive_command (toggle : GpioToggle) (levels : Pin → Bool) :
    toggle.command.drive levels = Function.update levels toggle.write.1 toggle.write.2 := by
  funext pin
  have haddr : ∀ i j : Fin 2, mcp23017Addresses[i] = mcp23017Addresses[j] ↔ i = j := by decide
  show IoCommand.drive levels (.writeGpio _ _ _ _) pin =
    Function.update levels toggle.ctx.pin toggle.on pin
  simp only [IoCommand.drive]
  rw [gpioUpdate_dispatch]
  simp only [haddr, BitVec.getLsbD_twoPow, toggle.ctx.pin.2.isLt, decide_true, Bool.true_and,
    decide_eq_true_eq, Fin.val_inj]
  by_cases hpin : pin = toggle.ctx.pin
  · subst hpin
    rw [Function.update_self, if_pos ⟨rfl, rfl⟩]
    cases toggle.on <;> simp
  · rw [Function.update_of_ne hpin, if_neg fun h => hpin (Prod.ext h.1 h.2.symm)]

/-- The decoder has a name for the device and the port of every toggle. -/
theorem toggle_expressible (ctx : GpioSwitchCtx) (on : Bool) (nowMs sequenceId : UInt32) :
    ({ uiCbWriteGpio (dispatchGpioWrite ctx on) with
      timestampMs := nowMs, sequenceId := sequenceId } : ProtoCommand).Expressible where
  deviceIndex := by
    have hlt : ctx.deviceIndex.toNat < 2 := UInt8.lt_iff_toNat_lt.mp ctx.device_lt
    show ctx.deviceIndex = 0 ∨ ctx.deviceIndex = 1
    rw [← UInt8.toNat_inj, ← UInt8.toNat_inj]
    exact Nat.le_one_iff_eq_zero_or_eq_one.mp (Nat.le_of_lt_succ hlt)
  port := by
    show (if ctx.pinIndex < 8 then (0 : UInt8) else 1) = 0 ∨
      (if ctx.pinIndex < 8 then (0 : UInt8) else 1) = 1
    split_ifs
    · exact Or.inl rfl
    · exact Or.inr rfl
  pwmUpdate := fun _ => rfl
  pwmFrequency := fun _ => rfl
  gpioWrite := fun h => Bool.noConfusion h

/-- The frames of toggles arrive as their sections. -/
theorem toggleFrames_arrive (hjson : codec.configUseCbor = false) {link : HmiLink}
    (hconnected : link.connected = true) (toggles : List GpioToggle) :
    ((toggleFrames codec link toggles).map (splitCrc true)).flatMap
        (fun frame => sensorWsRx codec fuel frame.1 frame.2) =
      toggles.map GpioToggle.command := by
  induction toggles generalizing link with
  | nil => rfl
  | cons toggle rest ih =>
      have hsend := hmiWsClientSendCommand_json hjson hconnected toggle.nowMs
        (uiCbWriteGpio (dispatchGpioWrite toggle.ctx toggle.on))
      have harrives := sensorWsRx_render hjson fuel
        (toggle_expressible toggle.ctx toggle.on toggle.nowMs (link.nextCommandSeq + 1))
      simp only [toggleFrames, hsend]
      rw [List.map_append, List.flatMap_append, ih]
      · simp only [Except.toOption, Option.toList_some, List.map_cons, List.map_nil,
          List.flatMap_cons, List.flatMap_nil, splitCrc_frame, harrives]
        rfl
      · exact hconnected

/-- Toggles drive the latches as the store of the switches. -/
theorem drive_toggles (toggles : List GpioToggle) (levels : Pin → Bool) :
    (toggles.map GpioToggle.command).foldl IoCommand.drive levels =
      writeAll levels (toggles.map GpioToggle.write) := by
  induction toggles generalizing levels with
  | nil => rfl
  | cons toggle rest ih =>
      show (rest.map GpioToggle.command).foldl _ (toggle.command.drive levels) = _
      rw [drive_command, ih]
      rfl

end Toggle

/-- Whatever the latches hold, however the tasks interleave and whatever the two clocks and
counters show: when the frames of a sequence of toggles have reached `ws_rx` in order, every one
of their sections has been queued and executed and no transfer failed, every pin a toggle named is
at the level last asked for, and every other latch bit is as it was. -/
theorem toggles_reach_latches (hjson : codec.configUseCbor = false) {link : HmiLink}
    (hconnected : link.connected = true) (toggles : List GpioToggle) {node : IoNode}
    (hidle : node.inFlight = []) {events : List IoEvent}
    (hframes : receivedFrames events = (toggleFrames codec link toggles).map (splitCrc true))
    (hqueued : Machine.EachStep (ioStep codec fuel map) (fun node event => ¬ GivesUp node event)
      node events)
    (hexecuted : (Machine.run (ioStep codec fuel map) node events).1.inFlight = [])
    (hsucceed : ∀ event ∈ events, TransfersSucceed event) (pin : Pin) :
    latchLevels (Machine.run (ioStep codec fuel map) node events).1.bus pin =
      (last pin (toggles.map GpioToggle.write)).getD (latchLevels node.bus pin) := by
  have hconserves : Conserves node (Machine.run (ioStep codec fuel map) node events) :=
    run_conserves_iff.mpr hqueued events [] (List.append_nil _).symm
  have hsections : executedSections (Machine.run (ioStep codec fuel map) node events).2 =
      toggles.map GpioToggle.command := by
    rw [Conserves, hidle, hexecuted, List.append_nil, List.nil_append, run_accepted, hframes,
      toggleFrames_arrive hjson hconnected] at hconserves
    exact hconserves
  rw [run_levels hsucceed, hsections, drive_toggles, writeAll_apply]

/-- Pin 9 of the second expander. -/
def secondNinth : GpioSwitchCtx :=
  { deviceIndex := 1, pinIndex := 9, device_lt := by decide, pin_lt := by decide }

/-- Pin 3 of the first. -/
def firstThird : GpioSwitchCtx :=
  { deviceIndex := 0, pinIndex := 3, device_lt := by decide, pin_lt := by decide }

/-- The command that switches a pin on. -/
def onPayload (ctx : GpioSwitchCtx) (nowMs seq : UInt32) : Bytes :=
  Json.render (commandJson
    { uiCbWriteGpio (dispatchGpioWrite ctx true) with timestampMs := nowMs, sequenceId := seq })

/-- Two frames are received, the second one before the section of the first is executed. -/
def twoToggleEvents : List IoEvent :=
  [.frame (onPayload secondNinth 5 1) (protoCrc32 (onPayload secondNinth 5 1)), .queueSend,
    .frame (onPayload firstThird 8 2) (protoCrc32 (onPayload firstThird 8 2)),
    .queueReceive fun _ => .ok, .queueSend, .queueReceive fun _ => .ok]

theorem toggles_reach_latches_two :
    let levels := latchLevels (Machine.run (ioStep (Codec.plain false) 0 {})
      (ioTaskStart (fun _ _ => .ok) fun _ => {}) twoToggleEvents).1.bus
    levels (1, 9) = true ∧ levels (0, 3) = true ∧ levels (0, 9) = false := by
  have hsections (ctx : GpioSwitchCtx) (nowMs seq : UInt32) :
      sensorWsRx (Codec.plain false) 0 (onPayload ctx nowMs seq)
          (protoCrc32 (onPayload ctx nowMs seq)) =
        [GpioToggle.command { ctx := ctx, on := true, nowMs := nowMs }] :=
    sensorWsRx_render rfl 0 (toggle_expressible ctx true nowMs seq)
  have hreach := @toggles_reach_latches _ (Codec.plain false) 0 {} rfl { connected := true } rfl
    [{ ctx := secondNinth, on := true, nowMs := 5 }, { ctx := firstThird, on := true, nowMs := 8 }]
    (ioTaskStart (fun _ _ => .ok) fun _ => {}) rfl
    twoToggleEvents ?_ ?_ ?_ ?_
  · refine ⟨(hreach (1, 9)).trans ?_, (hreach (0, 3)).trans ?_, (hreach (0, 9)).trans ?_⟩
    · decide
    · decide
    · decide
  · have hsend (ctx : GpioSwitchCtx) (nowMs : UInt32) {link : HmiLink}
        (hconnected : link.connected = true) :=
      hmiWsClientSendCommand_json (show (Codec.plain false).configUseCbor = false from rfl)
        hconnected nowMs (uiCbWriteGpio (dispatchGpioWrite ctx true))
    have hstart : ({ connected := true } : HmiLink).connected = true := rfl
    simp only [toggleFrames, hsend _ _ hstart]
    rw [hsend _ _ (by rfl)]
    simp only [Except.toOption, Option.toList_some, List.append_nil, List.map_cons, List.map_nil,
      List.cons_append, List.nil_append, splitCrc_frame]
    rfl
  · simp only [twoToggleEvents, Machine.EachStep, ioStep, hsections]
    simp [GivesUp, ioTaskStart, ioQueueLength]
  · simp only [twoToggleEvents, Machine.run_cons, Machine.run_nil, ioStep, hsections]
    rfl
  · intro event hmem
    simp only [twoToggleEvents, List.mem_cons, List.not_mem_nil, or_false] at hmem
    rcases hmem with rfl | rfl | rfl | rfl | rfl | rfl
    · trivial
    · trivial
    · trivial
    · exact fun _ => rfl
    · trivial
    · exact fun _ => rfl

end SensorHmi
