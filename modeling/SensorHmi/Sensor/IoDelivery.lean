import SensorHmi.Sensor.IoTask

/-!
# Delivery of commands to the I/O task

Every section of an accepted command is executed, or still on its way in the queue or in the
receive callback, or was given up on a full queue. So nothing is lost or reordered in a run if and
only if no wait for room ends on a full queue.
-/

namespace SensorHmi

variable {ι : Type} (codec : Codec ι) (fuel : Nat) (map : IoMap)

/-- The wait of a section for room ends on a full queue. -/
def GivesUp (node : IoNode) (event : IoEvent) : Prop :=
  (∃ first rest, node.pending = first :: rest) ∧ event = .waitEnds ∧
    ioQueueLength ≤ node.cmdQueue.length

/-- The sections on their way to the task, first the one it receives next. -/
def IoNode.inFlight (node : IoNode) : List IoCommand :=
  node.cmdQueue ++ node.pending

section Step

variable {codec fuel map} {node : IoNode}

theorem acceptedSections_append (first second : List IoOutput) :
    acceptedSections (first ++ second) = acceptedSections first ++ acceptedSections second :=
  List.filterMap_append

theorem executedSections_append (first second : List IoOutput) :
    executedSections (first ++ second) = executedSections first ++ executedSections second :=
  List.filterMap_append

/-- What `ws_rx` reports it accepted, and nothing of it is executed yet. -/
theorem sections_of_accepted (sections : List IoCommand) :
    acceptedSections (sections.map .accepted) = sections ∧
      executedSections (sections.map .accepted) = [] := by
  simp [acceptedSections, executedSections, List.filterMap_map]

/-- Executing a command puts nothing on its way and reports no section. -/
theorem ioExecute_frame (map : IoMap) (results : Nat → EspErr) (node : IoNode) (command :
    IoCommand) :
    (ioExecute map results node command).1.inFlight = node.inFlight ∧
      acceptedSections (ioExecute map results node command).2 = [] ∧
      executedSections (ioExecute map results node command).2 = [] := by
  cases command with
  | setPwm channel duty =>
      unfold ioExecute
      split_ifs <;> exact ⟨rfl, rfl, rfl⟩
  | setPwmFreq pwmFreq =>
      have hnone : ∀ (select : IoOutput → Option IoCommand), select (.pca9685Init pwmFreq) = none →
          (∀ channel duty, select (.pca9685SetPwm channel duty) = none) →
          (if pwmHwAvailable map then
            IoOutput.pca9685Init pwmFreq ::
              (List.finRange 16).map fun i : Fin 16 =>
                .pca9685SetPwm (UInt8.ofNat i.val) (node.pwm.get i)
          else []).filterMap select = [] := by
        intro select hinit hset
        split_ifs
        · simp [hinit, hset, List.filterMap_map]
        · rfl
      exact ⟨rfl, hnone _ rfl fun _ _ => rfl, hnone _ rfl fun _ _ => rfl⟩
  | writeGpio deviceIndex port mask value => exact ⟨rfl, rfl, rfl⟩

theorem gpioReport_frame (results : Nat → EspErr) (external : UInt8 → UInt8 × UInt8)
    (bus : I2cBus) (i : Fin 2) :
    acceptedSections (gpioReport results external bus i) = [] ∧
      executedSections (gpioReport results external bus i) = [] := by
  simp only [gpioReport]
  cases mcp23017ReadGpio (results i) bus (external (mcp23017Addresses.get i))
      (mcp23017Addresses.get i) with
  | ok value => exact ⟨rfl, rfl⟩
  | error err => exact ⟨rfl, rfl⟩

/-- A step that does not give up moves sections along and loses none. -/
theorem ioStep_conserves (event : IoEvent) (hkeep : ¬ GivesUp node event) :
    executedSections (ioStep codec fuel map node event).2 ++
        (ioStep codec fuel map node event).1.inFlight =
      node.inFlight ++ acceptedSections (ioStep codec fuel map node event).2 := by
  have hidle : executedSections [] ++ node.inFlight = node.inFlight ++ acceptedSections [] :=
    (List.append_nil _).symm
  have hsent : ∀ first rest, node.pending = first :: rest →
      (node.cmdQueue ++ [first]) ++ rest = node.inFlight := by
    intro first rest hpending
    rw [IoNode.inFlight, hpending, List.append_assoc]
    rfl
  cases event with
  | frame data crc =>
      obtain ⟨haccepted, hexecuted⟩ := sections_of_accepted (sensorWsRx codec fuel data crc)
      simp only [ioStep, haccepted, hexecuted, IoNode.inFlight, List.nil_append, List.append_assoc]
  | queueSend =>
      cases hpending : node.pending with
      | nil => simpa only [ioStep, hpending] using hidle
      | cons first rest =>
          simp only [ioStep, hpending]
          split_ifs
          · exact (hsent first rest hpending).trans (List.append_nil _).symm
          · exact hidle
  | waitEnds =>
      cases hpending : node.pending with
      | nil => simpa only [ioStep, hpending] using hidle
      | cons first rest =>
          have hroom : node.cmdQueue.length < ioQueueLength := by
            by_contra hfull
            exact hkeep ⟨⟨first, rest, hpending⟩, rfl, Nat.le_of_not_lt hfull⟩
          simp only [ioStep, hpending, if_pos hroom]
          exact (hsent first rest hpending).trans (List.append_nil _).symm
  | queueReceive results =>
      by_cases hdraining : node.draining = true
      · cases hqueue : node.cmdQueue with
        | nil =>
            rw [ioStep_receive_nil hdraining hqueue]
            exact hidle
        | cons command rest =>
            obtain ⟨hflight, haccepted, hexecuted⟩ :=
              ioExecute_frame map results { node with cmdQueue := rest } command
            rw [ioStep_receive_cons hdraining hqueue]
            show (command :: executedSections _) ++ IoNode.inFlight _ =
              node.inFlight ++ acceptedSections (ioExecute map results _ command).2
            rw [hflight, hexecuted, haccepted, List.append_nil, IoNode.inFlight, IoNode.inFlight,
              hqueue]
            rfl
      · rw [ioStep_receive_idle hdraining]
        exact hidle
  | poll results external =>
      by_cases hdraining : node.draining = true
      · simp only [ioStep, if_pos hdraining]
        exact hidle
      · obtain ⟨haccepted0, hexecuted0⟩ := gpioReport_frame results external node.bus 0
        obtain ⟨haccepted1, hexecuted1⟩ := gpioReport_frame results external node.bus 1
        simp only [ioStep, if_neg hdraining, acceptedSections_append, executedSections_append,
          haccepted0, haccepted1, hexecuted0, hexecuted1]
        exact hidle

/-- A step that gives up takes a section off its way that nobody executes. -/
theorem length_inFlight_of_givesUp {event : IoEvent} (h : GivesUp node event) :
    executedSections (ioStep codec fuel map node event).2 = [] ∧
      acceptedSections (ioStep codec fuel map node event).2 = [] ∧
      (ioStep codec fuel map node event).1.inFlight.length + 1 = node.inFlight.length := by
  obtain ⟨⟨first, rest, hpending⟩, rfl, hfull⟩ := h
  simp only [ioStep, hpending, if_neg (Nat.not_lt_of_le hfull)]
  refine ⟨rfl, rfl, ?_⟩
  simp [IoNode.inFlight, hpending, Nat.add_assoc]

end Step

section Run

variable {codec fuel map} {node : IoNode} {events : List IoEvent}

/-- What a run executed and what is still on its way is what was on its way and what the run
accepted, in that order. -/
def Conserves (node : IoNode) (result : IoNode × List IoOutput) : Prop :=
  executedSections result.2 ++ result.1.inFlight = node.inFlight ++ acceptedSections result.2

theorem Conserves.trans {result : IoNode × List IoOutput} {final : IoNode}
    {later : List IoOutput} (h : Conserves node result)
      (hlater : Conserves result.1 (final, later)) :
    Conserves node (final, result.2 ++ later) := by
  show executedSections (result.2 ++ later) ++ final.inFlight =
    node.inFlight ++ acceptedSections (result.2 ++ later)
  rw [executedSections_append, acceptedSections_append, List.append_assoc, hlater,
    ← List.append_assoc, h, List.append_assoc]

/-- The later part of a conserving run conserves when the first part does. -/
theorem Conserves.tail {result : IoNode × List IoOutput} {final : IoNode}
    {later : List IoOutput} (h : Conserves node result)
    (hwhole : Conserves node (final, result.2 ++ later)) : Conserves result.1 (final, later) := by
  have hwhole : executedSections (result.2 ++ later) ++ final.inFlight =
      node.inFlight ++ acceptedSections (result.2 ++ later) := hwhole
  rw [executedSections_append, acceptedSections_append, List.append_assoc,
    ← List.append_assoc node.inFlight, ← h, List.append_assoc] at hwhole
  exact List.append_cancel_left hwhole

/-- The sections are conserved after every part of a run exactly when no step of it gives up. -/
theorem run_conserves_iff :
    (∀ before after, events = before ++ after →
        Conserves node (Machine.run (ioStep codec fuel map) node before)) ↔
      Machine.EachStep (ioStep codec fuel map) (fun node event => ¬ GivesUp node event) node
        events := by
  induction events generalizing node with
  | nil =>
      refine ⟨fun _ => trivial, fun _ before after hsplit => ?_⟩
      obtain ⟨rfl, -⟩ := List.append_eq_nil_iff.mp hsplit.symm
      exact (List.append_nil _).symm
  | cons event rest ih =>
      constructor
      · intro h
        have hkeep : ¬ GivesUp node event := by
          intro hgives
          obtain ⟨hexecuted, haccepted, hlength⟩ :=
            @length_inFlight_of_givesUp ι codec fuel map node event hgives
          have hfirst : executedSections (ioStep codec fuel map node event).2 ++
              (ioStep codec fuel map node event).1.inFlight =
                node.inFlight ++ acceptedSections (ioStep codec fuel map node event).2 := by
            simpa [Conserves] using h [event] rest rfl
          rw [hexecuted, haccepted, List.append_nil, List.nil_append] at hfirst
          rw [hfirst] at hlength
          omega
        refine ⟨hkeep, ih.mp fun before after hsplit => ?_⟩
        have hstep : Conserves node (ioStep codec fuel map node event) :=
          ioStep_conserves event hkeep
        exact hstep.tail (h (event :: before) after (by rw [hsplit]; rfl))
      · rintro ⟨hkeep, hrest⟩ before after hsplit
        cases before with
        | nil => exact (List.append_nil _).symm
        | cons first before =>
            obtain ⟨rfl, hlater⟩ := List.cons.inj hsplit
            have hstep : Conserves node (ioStep codec fuel map node event) :=
              ioStep_conserves event hkeep
            exact hstep.trans (ih.mpr hrest before after hlater)

end Run

/-- In every run of the node from its start, the sections `io_task` executed are the first ones of
those `ws_rx` accepted, each once and in order, and the rest of them is still on its way, exactly
as long as no wait for room ends on a full queue. -/
theorem sections_executed_in_order_iff (results : Fin 2 → Nat → EspErr) (bus : I2cBus)
    (events : List IoEvent) :
    (∀ before after, events = before ++ after →
        let result := Machine.run (ioStep codec fuel map) (ioTaskStart results bus) before
        executedSections result.2 ++ result.1.inFlight = acceptedSections result.2) ↔
      Machine.EachStep (ioStep codec fuel map) (fun node event => ¬ GivesUp node event)
        (ioTaskStart results bus) events :=
  run_conserves_iff

/-- A command with all three sections. -/
def fullCommand : ProtoCommand :=
  { hasPwmUpdate := true, pwmUpdate := { channel := 3, dutyCycle := 2048 }
    hasPwmFrequency := true, pwmFrequency := 1000
    hasGpioWrite := true, gpioWrite := { deviceIndex := 0, port := 1, mask := 4, value := 4 } }

/-- Six such commands arrive while the task sleeps; the queue takes sixteen sections and the wait
for room of the next one ends. -/
def burstEvents : List IoEvent :=
  let payload := Json.render (commandJson fullCommand)
  List.replicate 6 (.frame payload (protoCrc32 payload)) ++ List.replicate 16 .queueSend ++
    [.waitEnds]

/-- The last command of the burst is applied in part: the section after the sixteenth is lost. -/
theorem section_lost_on_full_queue :
    ¬ ∀ before after, burstEvents = before ++ after →
      let result := Machine.run (ioStep (Codec.plain false) 0 {})
        (ioTaskStart (fun _ _ => .ok) fun _ => {}) before
      executedSections result.2 ++ result.1.inFlight = acceptedSections result.2 := by
  intro hall
  have hlength := congrArg List.length (hall burstEvents [] (List.append_nil _).symm)
  have hsections : sensorWsRx (Codec.plain false) 0 (Json.render (commandJson fullCommand))
      (protoCrc32 (Json.render (commandJson fullCommand))) =
        [.setPwm 3 2048, .setPwmFreq 1000, .writeGpio 0 1 4 4] :=
    sensorWsRx_render rfl 0
      { deviceIndex := Or.inl rfl
        port := Or.inr rfl
        pwmUpdate := fun h => absurd h (by decide)
        pwmFrequency := fun h => absurd h (by decide)
        gpioWrite := fun h => absurd h (by decide) }
  simp only [burstEvents, List.replicate, List.cons_append, List.nil_append, Machine.run_cons,
    Machine.run_nil, ioStep, hsections] at hlength
  simp [ioTaskStart, ioQueueLength, executedSections, acceptedSections, IoNode.inFlight] at hlength

end SensorHmi
