import SensorHmi.Sensor.IoTask

/-!
# Reports of the port expanders

`io_task` sets every pin of both expanders up as an input and never changes a direction. So its
reports show the external levels whatever the latches hold, and a report shows the commanded
levels exactly when the outside world does.
-/

namespace SensorHmi

variable {ι : Type} (codec : Codec ι) (fuel : Nat) (map : IoMap)

/-- The level of a pin, given the octets of the two ports. -/
def portLevel (ports : UInt8 × UInt8) (portB : Bool) (bit : Nat) : Bool :=
  (if portB then ports.2 else ports.1).toBitVec.getLsbD bit

/-- The level some command last gave a pin that it named in its mask. -/
def commandedLevel (device : Nat) (portB : Bool) (bit : Nat) (commands : List IoCommand) :
    Option Bool :=
  commands.foldl (fun level command => match command with
    | .writeGpio deviceIndex port mask value =>
        if deviceIndex.toNat % 2 = device ∧ decide (port ≠ 0) = portB ∧
            mask.toBitVec.getLsbD bit then
          some (value.toBitVec.getLsbD bit)
        else level
    | _ => level) none

/-- The reports of a poll show every pin some earlier command named at its commanded level. -/
def ReportsCommanded (node : IoNode) (commands : List IoCommand) (results : Nat → EspErr)
    (external : UInt8 → UInt8 × UInt8) : Prop :=
  ∀ (i : Fin 2) (portA portB : UInt16),
    .setGpio i portA portB ∈ (ioStep codec fuel map node (.poll results external)).2 →
      ∀ (inB : Bool) (bit : Nat) (level : Bool), bit < 8 →
        commandedLevel i inB bit commands = some level →
          (if inB then portB else portA).toBitVec.getLsbD bit = level

/-- Outside, every pin some earlier command named is at its commanded level when the task polls. -/
def DrivenFromOutside (node : IoNode) (commands : List IoCommand)
    (external : UInt8 → UInt8 × UInt8) : Prop :=
  node.draining = false → ∀ (i : Fin 2) (inB : Bool) (bit : Nat) (level : Bool), bit < 8 →
    commandedLevel i inB bit commands = some level →
      portLevel (external (mcp23017Addresses.get i)) inB bit = level

/-- All transfers of an event succeed. -/
def TransfersSucceed : IoEvent → Prop
  | .queueReceive results => ∀ n, results n = .ok
  | .poll results _ => ∀ n, results n = .ok
  | _ => True

/-- Every pin of the two expanders is an input. -/
def AllInputs (bus : I2cBus) : Prop :=
  ∀ i : Fin 2, (bus (mcp23017Addresses.get i)).iodirA = 0xFF ∧
    (bus (mcp23017Addresses.get i)).iodirB = 0xFF

section Inputs

variable {codec fuel map} {node : IoNode} {results : Nat → EspErr} {bus : I2cBus}

/-- A latch update touches no direction. -/
theorem writeGpio_directions (addr other : UInt8) (mask value : UInt16) :
    ((mcp23017WriteGpio results bus addr mask value).2 other).iodirA = (bus other).iodirA ∧
      ((mcp23017WriteGpio results bus addr mask value).2 other).iodirB = (bus other).iodirB := by
  unfold mcp23017WriteGpio
  split
  · exact ⟨rfl, rfl⟩
  · unfold mcp23017Write16
    split_ifs
    · by_cases hsame : other = addr
      · subst hsame
        simp only [Function.update_self]
        exact ⟨rfl, rfl⟩
      · simp only [Function.update_of_ne hsame, and_self]
    · exact ⟨rfl, rfl⟩

/-- Setting a chip up writes its own directions and leaves the others. -/
theorem init_directions (hresults : ∀ n, results n = .ok) (addr other : UInt8) :
    ((mcp23017Init results bus addr 0xFFFF 0xFFFF).2 other).iodirA =
        (if other = addr then 0xFF else (bus other).iodirA) ∧
      ((mcp23017Init results bus addr 0xFFFF 0xFFFF).2 other).iodirB =
        (if other = addr then 0xFF else (bus other).iodirB) := by
  simp only [mcp23017Init, mcp23017Write16, hresults, if_true, EspErr.andThen]
  by_cases hsame : other = addr
  · subst hsame
    simp only [Function.update_self, if_true]
    exact ⟨rfl, rfl⟩
  · simp only [Function.update_of_ne hsame, if_neg hsame, and_self]

theorem ioTaskStart_allInputs {results : Fin 2 → Nat → EspErr}
    (hresults : ∀ i n, results i n = .ok) : AllInputs (ioTaskStart results bus).bus := by
  refine Fin.forall_fin_two.mpr ⟨?_, ?_⟩ <;>
    simp [ioTaskStart, init_directions (hresults 1), init_directions (hresults 0)]

/-- No event changes a direction. -/
theorem ioStep_allInputs (event : IoEvent) (h : AllInputs node.bus) :
    AllInputs (ioStep codec fuel map node event).1.bus := by
  have hexecute : ∀ (results : Nat → EspErr) (node : IoNode) (command : IoCommand),
      AllInputs node.bus → AllInputs (ioExecute map results node command).1.bus := by
    intro results node command hnode
    cases command with
    | setPwm channel duty => exact hnode
    | setPwmFreq pwmFreq => exact hnode
    | writeGpio deviceIndex port mask value =>
        intro i
        obtain ⟨hA, hB⟩ := @writeGpio_directions results node.bus
          (gpioUpdate deviceIndex port mask value).1 (mcp23017Addresses.get i)
          (gpioUpdate deviceIndex port mask value).2.1
          (gpioUpdate deviceIndex port mask value).2.2
        exact ⟨hA.trans (hnode i).1, hB.trans (hnode i).2⟩
  cases event with
  | frame data crc => exact h
  | queueSend =>
      simp only [ioStep]
      split
      · exact h
      · split_ifs <;> exact h
  | waitEnds =>
      simp only [ioStep]
      split
      · exact h
      · split_ifs <;> exact h
  | queueReceive results =>
      by_cases hdraining : node.draining = true
      · cases hqueue : node.cmdQueue with
        | nil =>
            rw [ioStep_receive_nil hdraining hqueue]
            exact h
        | cons command rest =>
            rw [ioStep_receive_cons hdraining hqueue]
            exact hexecute results _ command h
      · rw [ioStep_receive_idle hdraining]
        exact h
  | poll results external =>
      simp only [ioStep]
      split_ifs <;> exact h

/-- An input reads its external level. -/
theorem readGpio_inputs {addr : UInt8} (hA : (bus addr).iodirA = 0xFF)
    (hB : (bus addr).iodirB = 0xFF) {result : EspErr} (hresult : result = .ok)
    (external : UInt8 × UInt8) :
    mcp23017ReadGpio result bus external addr = .ok (word external.1 external.2) := by
  have hand : ∀ level latch : UInt8, (0xFF &&& level) ||| (~~~0xFF &&& latch) = level := by
    intro level latch
    apply UInt8.toBitVec_inj.mp
    apply BitVec.eq_of_getLsbD_eq
    intro i hi
    have hones : (255#8).getLsbD i = true := by
      interval_cases i <;> rfl
    simp [hones]
  rw [mcp23017ReadGpio, mcp23017Read16, if_pos hresult]
  show Except.ok (word (((bus addr).iodirA &&& external.1) ||| (~~~(bus addr).iodirA &&& _))
    (((bus addr).iodirB &&& external.2) ||| (~~~(bus addr).iodirB &&& _))) = _
  rw [hA, hB, hand, hand]

end Inputs

section Report

variable {codec fuel map} {node : IoNode} {results : Nat → EspErr}
  {external : UInt8 → UInt8 × UInt8}

/-- The octets of a word, bit by bit. -/
theorem word_bits (low high : UInt8) {bit : Nat} (hbit : bit < 8) :
    (word low high &&& 0xFF).toBitVec.getLsbD bit = low.toBitVec.getLsbD bit ∧
      ((word low high >>> 8) &&& 0xFF).toBitVec.getLsbD bit = high.toBitVec.getLsbD bit := by
  have hones : (255#16).getLsbD bit = true := by
    interval_cases bit <;> rfl
  have hhigh : 8 + bit < 16 := by omega
  have hword : bit < 16 := by omega
  constructor
  · simp [word, hones, hbit]
    omega
  · simp [word, hones, hbit, hhigh, hword]

/-- What a poll reports of an expander whose pins are inputs. -/
theorem setGpio_mem_poll (hinputs : AllInputs node.bus) (hdraining : node.draining = false)
    (hresults : ∀ n, results n = .ok) (i : Fin 2) (portA portB : UInt16) :
    .setGpio i portA portB ∈ (ioStep codec fuel map node (.poll results external)).2 ↔
      portA = word (external (mcp23017Addresses.get i)).1 (external (mcp23017Addresses.get i)).2 &&&
          0xFF ∧
        portB = (word (external (mcp23017Addresses.get i)).1
          (external (mcp23017Addresses.get i)).2 >>> 8) &&& 0xFF := by
  have hreport : ∀ j : Fin 2, gpioReport results external node.bus j =
      [.setGpio j (word (external (mcp23017Addresses.get j)).1
          (external (mcp23017Addresses.get j)).2 &&& 0xFF)
        ((word (external (mcp23017Addresses.get j)).1
          (external (mcp23017Addresses.get j)).2 >>> 8) &&& 0xFF)] := by
    intro j
    simp only [gpioReport, readGpio_inputs (hinputs j).1 (hinputs j).2 (hresults j)]
  simp only [ioStep, hdraining, Bool.false_eq_true, if_false, hreport, List.cons_append,
    List.nil_append, List.mem_cons, List.not_mem_nil, or_false, reduceCtorEq,
      IoOutput.setGpio.injEq]
  rcases Fin.exists_fin_two.mp ⟨i, rfl⟩ with hfirst | hsecond
  · simp [hfirst]
  · simp [hsecond]

/-- A poll reports the commanded levels exactly when they are there outside. -/
theorem reportsCommanded_iff (hinputs : AllInputs node.bus)
    (hresults : ∀ n, results n = .ok) (commands : List IoCommand) :
    ReportsCommanded codec fuel map node commands results external ↔
      DrivenFromOutside node commands external := by
  have hlevel : ∀ (i : Fin 2) (inB : Bool) (bit : Nat), bit < 8 →
      (if inB then
          (word (external (mcp23017Addresses.get i)).1
            (external (mcp23017Addresses.get i)).2 >>> 8) &&& 0xFF
        else word (external (mcp23017Addresses.get i)).1
          (external (mcp23017Addresses.get i)).2 &&& 0xFF).toBitVec.getLsbD bit =
        portLevel (external (mcp23017Addresses.get i)) inB bit := by
    intro i inB bit hbit
    obtain ⟨hA, hB⟩ := word_bits (external (mcp23017Addresses.get i)).1
      (external (mcp23017Addresses.get i)).2 hbit
    cases inB with
    | true => exact hB
    | false => exact hA
  constructor
  · intro h hdraining i inB bit level hbit hcommanded
    rw [← hlevel i inB bit hbit]
    exact h i _ _ ((setGpio_mem_poll hinputs hdraining hresults i _ _).mpr ⟨rfl, rfl⟩) inB bit level
      hbit hcommanded
  · intro h i portA portB hmem inB bit level hbit hcommanded
    have hdraining : node.draining = false := by
      by_contra hdraining
      rw [ioStep, if_pos (by simpa using hdraining)] at hmem
      cases hmem
    obtain ⟨rfl, rfl⟩ := (setGpio_mem_poll hinputs hdraining hresults i portA portB).mp hmem
    rw [hlevel i inB bit hbit]
    exact h hdraining i inB bit level hbit hcommanded

end Report

/-- In every run of the node from its start with all transfers successful, every report shows
every pin some earlier command named at the level it was last commanded to, exactly when the
outside world holds these pins at these levels whenever the task polls. -/
theorem reports_commanded_iff {results : Fin 2 → Nat → EspErr} (hstart : ∀ i n, results i n = .ok)
    (bus : I2cBus) {events : List IoEvent} (hsucceed : ∀ event ∈ events, TransfersSucceed event) :
    (∀ before results' external after, events = before ++ .poll results' external :: after →
        let result := Machine.run (ioStep codec fuel map) (ioTaskStart results bus) before
        ReportsCommanded codec fuel map result.1 (executedSections result.2) results' external) ↔
      ∀ before results' external after, events = before ++ .poll results' external :: after →
        let result := Machine.run (ioStep codec fuel map) (ioTaskStart results bus) before
        DrivenFromOutside result.1 (executedSections result.2) external := by
  have hinputs : ∀ before : List IoEvent, AllInputs
      (Machine.run (ioStep codec fuel map) (ioTaskStart results bus) before).1.bus := by
    intro before
    exact @Machine.run_invariant _ _ _ (ioStep codec fuel map) _ before
      (fun node => AllInputs node.bus) (fun _ => True)
      (fun _ event hnode _ => ioStep_allInputs event hnode) (ioTaskStart_allInputs hstart)
      fun _ _ => trivial
  have hiff : ∀ before results' external after,
      events = before ++ .poll results' external :: after →
        (ReportsCommanded codec fuel map
            (Machine.run (ioStep codec fuel map) (ioTaskStart results bus) before).1
            (executedSections
              (Machine.run (ioStep codec fuel map) (ioTaskStart results bus) before).2)
            results' external ↔
          DrivenFromOutside
            (Machine.run (ioStep codec fuel map) (ioTaskStart results bus) before).1
            (executedSections
              (Machine.run (ioStep codec fuel map) (ioTaskStart results bus) before).2)
            external) := by
    intro before results' external after hsplit
    have hpoll : TransfersSucceed (.poll results' external) :=
      hsucceed _ (by rw [hsplit]; simp)
    exact reportsCommanded_iff (hinputs before) hpoll _
  constructor
  · intro h before results' external after hsplit
    exact (hiff before results' external after hsplit).mp (h before results' external after hsplit)
  · intro h before results' external after hsplit
    exact (hiff before results' external after hsplit).mpr (h before results' external after hsplit)

/-- A single command for pin 0 of the first expander, whose input is low. -/
def lowPinEvents : List IoEvent :=
  let payload := Json.render (commandJson
    { hasGpioWrite := true, gpioWrite := { mask := 1, value := 1 } })
  [.frame payload (protoCrc32 payload), .queueSend, .queueReceive fun _ => .ok,
    .queueReceive fun _ => .ok, .poll (fun _ => .ok) fun _ => (0, 0)]

theorem reports_commanded_low_pin :
    (∀ before results' external after, lowPinEvents = before ++ .poll results' external :: after →
        let result := Machine.run (ioStep (Codec.plain false) 0 {})
          (ioTaskStart (fun _ _ => .ok) fun _ => {}) before
        ReportsCommanded (Codec.plain false) 0 {} result.1 (executedSections result.2) results'
          external) ↔
      ∀ before results' external after, lowPinEvents = before ++ .poll results' external :: after →
        let result := Machine.run (ioStep (Codec.plain false) 0 {})
          (ioTaskStart (fun _ _ => .ok) fun _ => {}) before
        DrivenFromOutside result.1 (executedSections result.2) external := by
  refine reports_commanded_iff (Codec.plain false) 0 {} (fun _ _ => rfl) (fun _ => {}) ?_
  intro event hmem
  simp only [lowPinEvents, List.mem_cons, List.not_mem_nil, or_false] at hmem
  rcases hmem with rfl | rfl | rfl | rfl | rfl
  · trivial
  · trivial
  · exact fun _ => rfl
  · exact fun _ => rfl
  · exact fun _ => rfl

/-- The pin was commanded high and is reported low: its latch is set, but it is an input. -/
theorem commanded_pin_reported_low :
    ¬ ∀ before results' external after,
      lowPinEvents = before ++ .poll results' external :: after →
        let result := Machine.run (ioStep (Codec.plain false) 0 {})
          (ioTaskStart (fun _ _ => .ok) fun _ => {}) before
        ReportsCommanded (Codec.plain false) 0 {} result.1 (executedSections result.2) results'
          external := by
  intro hall
  have hsections : sensorWsRx (Codec.plain false) 0
      (Json.render (commandJson { hasGpioWrite := true, gpioWrite := { mask := 1, value := 1 } }))
      (protoCrc32 (Json.render
        (commandJson { hasGpioWrite := true, gpioWrite := { mask := 1, value := 1 } }))) =
        [.writeGpio 0 0 1 1] :=
    sensorWsRx_render rfl 0
      { deviceIndex := Or.inl rfl
        port := Or.inl rfl
        pwmUpdate := fun _ => rfl
        pwmFrequency := fun _ => rfl
        gpioWrite := fun h => absurd h (by decide) }
  have hreport := hall (lowPinEvents.take 4) (fun _ => .ok) (fun _ => (0, 0)) [] rfl 0 0 0
  simp only [lowPinEvents, List.take, Machine.run_cons, Machine.run_nil, ioStep, hsections]
    at hreport
  have hlevel := hreport (by decide) false 0 true (by decide) (by decide)
  exact absurd hlevel (by decide)

end SensorHmi
