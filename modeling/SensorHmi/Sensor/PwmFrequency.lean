import SensorHmi.Sensor.IoTask

/-!
# Frequencies of the PWM controller

A frequency travels unchecked from a command through the queue to `pca9685_init`. The chip can do
24 Hz to 1743 Hz (`frequencyFits_iff`), and the node keeps to that in all runs on a set of frames
exactly when no frame of the set asks for another one: `pwm_frequency_fits_iff`.
-/

namespace SensorHmi

/-- The prescaler of a frequency over exact rationals, rounded to the nearest integer. -/
def exactPrescale (frequencyHz : UInt16) : Int :=
  round (25000000 / (4096 * (frequencyHz.toNat : ℚ)) - 1)

/-- The frequency has a prescaler, of eight bits, that the chip takes. -/
def FrequencyFits (frequencyHz : UInt16) : Prop :=
  0 < frequencyHz.toNat ∧ 3 ≤ exactPrescale frequencyHz ∧ exactPrescale frequencyHz ≤ 255

theorem frequencyFits_iff {frequencyHz : UInt16} :
    FrequencyFits frequencyHz ↔ 24 ≤ frequencyHz.toNat ∧ frequencyHz.toNat ≤ 1743 := by
  rw [FrequencyFits, exactPrescale, round_eq]
  generalize frequencyHz.toNat = f
  by_cases hpos : 0 < f
  · have hden : (0 : ℚ) < 4096 * f := by positivity
    have hlow : 3 ≤ ⌊25000000 / (4096 * (f : ℚ)) - 1 + 1 / 2⌋ ↔ f ≤ 1743 := by
      rw [Int.le_floor]
      push_cast
      have hmove : (3 : ℚ) ≤ 25000000 / (4096 * f) - 1 + 1 / 2 ↔
          7 / 2 ≤ 25000000 / (4096 * (f : ℚ)) := by
        constructor <;> intro h <;> linarith
      rw [hmove, le_div_iff₀ hden]
      constructor
      · intro h
        have hnat : f * 14336 ≤ 25000000 := by
          have hrat : (f : ℚ) * 14336 ≤ 25000000 := by linarith
          exact_mod_cast hrat
        omega
      · intro h
        have hrat : (f : ℚ) ≤ 1743 := by exact_mod_cast h
        linarith
    have hhigh : ⌊25000000 / (4096 * (f : ℚ)) - 1 + 1 / 2⌋ ≤ 255 ↔ 24 ≤ f := by
      rw [← Int.lt_add_one_iff, Int.floor_lt]
      push_cast
      have hmove : 25000000 / (4096 * (f : ℚ)) - 1 + 1 / 2 < 256 ↔
          25000000 / (4096 * (f : ℚ)) < 513 / 2 := by
        constructor <;> intro h <;> linarith
      rw [hmove, div_lt_iff₀ hden]
      constructor
      · intro h
        have hnat : 25000000 < f * 1050624 := by
          have hrat : 25000000 < (f : ℚ) * 1050624 := by linarith
          exact_mod_cast hrat
        omega
      · intro h
        have hrat : (24 : ℚ) ≤ f := by exact_mod_cast h
        linarith
    rw [hlow, hhigh, and_iff_right hpos, and_comm]
  · omega

/-- A frequency that is asked for fits. -/
def IoCommand.Fits : IoCommand → Prop
  | .setPwmFreq pwmFreq => FrequencyFits pwmFreq
  | .setPwm _ _ | .writeGpio _ _ _ _ => True

/-- A frequency the driver is called with fits. -/
def IoOutput.Fits : IoOutput → Prop
  | .pca9685Init frequencyHz => FrequencyFits frequencyHz
  | .accepted _ | .executed _ | .dropped _ | .pca9685SetPwm _ _ | .setGpio _ _ _ | .setPwm _ _ =>
      True

/-- The calls of the driver before the loop of `io_task`. -/
def ioTaskInitCalls (map : IoMap) (node : IoNode) : List IoOutput :=
  if pwmHwAvailable map then [.pca9685Init node.pwmFreq] else []

section Fits

variable {ι : Type} {codec : Codec ι} {fuel : Nat} {map : IoMap} {node : IoNode}
  {results : Nat → EspErr} {history : List IoOutput}

/-- The frequency of the node and all those on their way to it fit, and so do those of the calls
made so far. -/
structure KeepsFitting (node : IoNode) (history : List IoOutput) : Prop where
  pwmFreq : FrequencyFits node.pwmFreq
  queued : ∀ command ∈ node.cmdQueue, command.Fits
  pending : ∀ command ∈ node.pending, command.Fits
  calls : ∀ output ∈ history, output.Fits

/-- A frame whose sections fit; all that is not a frame. -/
def IoEvent.Fits (codec : Codec ι) (fuel : Nat) : IoEvent → Prop
  | .frame data crc => ∀ command ∈ sensorWsRx codec fuel data crc, command.Fits
  | .queueSend | .waitEnds | .queueReceive _ | .poll _ _ => True

/-- Calls that fit are added to those made so far. -/
theorem KeepsFitting.extend (h : KeepsFitting node history) {later : List IoOutput}
    (hlater : ∀ output ∈ later, output.Fits) : KeepsFitting node (history ++ later) :=
  { h with
    calls := fun output hmem => (List.mem_append.mp hmem).elim (h.calls output) (hlater output) }

/-- Executing a command that fits. -/
theorem KeepsFitting.execute (h : KeepsFitting node history) {command : IoCommand}
    (hcommand : command.Fits) :
    KeepsFitting (ioExecute map results node command).1
      (history ++ .executed command :: (ioExecute map results node command).2) := by
  cases command with
  | setPwm channel duty =>
      have hcalls : ∀ output ∈ (.executed (.setPwm channel duty) ::
          (ioExecute map results node (.setPwm channel duty)).2 : List IoOutput), output.Fits := by
        simp only [ioExecute]
        split_ifs <;> simp [IoOutput.Fits]
      have hnode : KeepsFitting { node with pwm := node.pwm.set (channel.toNat % 16) duty }
        history :=
        { h with }
      exact hnode.extend hcalls
  | setPwmFreq pwmFreq =>
      have hfits : FrequencyFits pwmFreq := hcommand
      have hcalls : ∀ output ∈ (.executed (.setPwmFreq pwmFreq) ::
          (ioExecute map results node (.setPwmFreq pwmFreq)).2 : List IoOutput), output.Fits := by
        simp only [ioExecute]
        split_ifs <;> simp [IoOutput.Fits, hfits]
      have hnode : KeepsFitting { node with pwmFreq := pwmFreq } history :=
        { h with pwmFreq := hfits }
      exact hnode.extend hcalls
  | writeGpio deviceIndex port mask value =>
      have hnode : KeepsFitting (ioExecute map results node
          (.writeGpio deviceIndex port mask value)).1 history := { h with }
      refine hnode.extend fun output hmem => ?_
      rw [List.mem_singleton.mp hmem]
      trivial

/-- A report of an expander is no call of the driver. -/
theorem fits_of_mem_gpioReport {external : UInt8 → UInt8 × UInt8} {bus : I2cBus} {i : Fin 2}
    {output : IoOutput} (h : output ∈ gpioReport results external bus i) : output.Fits := by
  simp only [gpioReport] at h
  split at h
  · rw [List.mem_singleton.mp h]
    trivial
  · cases h

/-- One event that fits. -/
theorem KeepsFitting.step (event : IoEvent) (h : KeepsFitting node history)
    (hevent : event.Fits codec fuel) :
    KeepsFitting (ioStep codec fuel map node event).1
      (history ++ (ioStep codec fuel map node event).2) := by
  have hidle : KeepsFitting node (history ++ []) := by rwa [List.append_nil]
  -- the first of the waiting sections moves to the end of the queue
  have hsent : ∀ first rest, node.pending = first :: rest →
      KeepsFitting { node with cmdQueue := node.cmdQueue ++ [first], pending := rest }
        (history ++ []) := by
    intro first rest hpending
    have hwaiting := h.pending
    rw [hpending] at hwaiting
    rw [List.append_nil]
    refine { h with queued := fun command hmem => ?_, pending := fun command hmem => ?_ }
    · rcases List.mem_append.mp hmem with hold | hnew
      · exact h.queued command hold
      · rw [List.mem_singleton.mp hnew]
        exact hwaiting first List.mem_cons_self
    · exact hwaiting command (List.mem_cons_of_mem _ hmem)
  cases event with
  | frame data crc =>
      have hsections : ∀ command ∈ sensorWsRx codec fuel data crc, command.Fits := hevent
      have hnode : KeepsFitting
          { node with pending := node.pending ++ sensorWsRx codec fuel data crc } history :=
        { h with
          pending := fun command hmem =>
            (List.mem_append.mp hmem).elim (h.pending command) (hsections command) }
      refine hnode.extend fun output hmem => ?_
      obtain ⟨command, -, rfl⟩ := List.mem_map.mp hmem
      trivial
  | queueSend =>
      cases hpending : node.pending with
      | nil => simpa only [ioStep, hpending] using hidle
      | cons first rest =>
          simp only [ioStep, hpending]
          split_ifs
          · exact hsent first rest hpending
          · exact hidle
  | waitEnds =>
      cases hpending : node.pending with
      | nil => simpa only [ioStep, hpending] using hidle
      | cons first rest =>
          simp only [ioStep, hpending]
          split_ifs
          · exact hsent first rest hpending
          · have hwaiting := h.pending
            rw [hpending] at hwaiting
            have hnode : KeepsFitting { node with pending := rest } history :=
              { h with
                pending := fun command hmem => hwaiting command (List.mem_cons_of_mem _ hmem) }
            exact hnode.extend (by simp [IoOutput.Fits])
  | queueReceive results =>
      by_cases hdraining : node.draining = true
      · cases hqueue : node.cmdQueue with
        | nil =>
            rw [ioStep_receive_nil hdraining hqueue, List.append_nil]
            exact { h with }
        | cons command rest =>
            have hwaiting := h.queued
            rw [hqueue] at hwaiting
            rw [ioStep_receive_cons hdraining hqueue]
            have hnode : KeepsFitting { node with cmdQueue := rest } history :=
              { h with queued := fun other hmem => hwaiting other (List.mem_cons_of_mem _ hmem) }
            exact hnode.execute (hwaiting command List.mem_cons_self)
      · rw [ioStep_receive_idle hdraining]
        exact hidle
  | poll results external =>
      by_cases hdraining : node.draining = true
      · simp only [ioStep, if_pos hdraining]
        exact hidle
      · simp only [ioStep, if_neg hdraining]
        refine ({ h with } : KeepsFitting { node with draining := true } history).extend ?_
        intro output hmem
        rcases List.mem_append.mp hmem with hreports | hmodel
        · exact (List.mem_append.mp hreports).elim fits_of_mem_gpioReport fits_of_mem_gpioReport
        · rw [List.mem_singleton.mp hmodel]
          trivial

/-- The started node has a frequency that fits, and its driver is called with it. -/
theorem KeepsFitting.start (results : Fin 2 → Nat → EspErr) (bus : I2cBus) :
    KeepsFitting (ioTaskStart results bus) (ioTaskInitCalls map (ioTaskStart results bus)) := by
  have hfits : FrequencyFits 500 := frequencyFits_iff.mpr (by decide)
  refine ⟨hfits, fun _ hmem => (List.not_mem_nil hmem).elim,
    fun _ hmem => (List.not_mem_nil hmem).elim, fun output hmem => ?_⟩
  rw [ioTaskInitCalls] at hmem
  split_ifs at hmem
  · rw [List.mem_singleton.mp hmem]
    exact hfits
  · cases hmem

/-- After every run on events that fit, the frequency fits and so do all calls. -/
theorem run_keepsFitting {events : List IoEvent} (h : KeepsFitting node history)
    (hevents : ∀ event ∈ events, event.Fits codec fuel) :
    KeepsFitting (Machine.run (ioStep codec fuel map) node events).1
      (history ++ (Machine.run (ioStep codec fuel map) node events).2) :=
  Machine.run_history (fun _ event _ hkeeps hevent => hkeeps.step event hevent) h
    (Machine.eachStep_of_forall hevents)

/-- A command with a frequency is executed in a short run, and the driver called with it. -/
theorem called_with_frequency (hhw : pwmHwAvailable map = true) {data : Bytes} {crc : UInt32}
    {cmd : ProtoCommand}
    (haccepted : protoDecodeCommand codec fuel data codec.configUseCbor crc = .ok cmd)
    (hfreq : cmd.hasPwmFrequency = true) (results : Fin 2 → Nat → EspErr) (bus : I2cBus) :
    IoOutput.pca9685Init cmd.pwmFrequency ∈
      (Machine.run (ioStep codec fuel map) (ioTaskStart results bus)
        [.frame data crc, .queueSend, .queueSend, .queueReceive fun _ => .ok,
          .queueReceive fun _ => .ok]).2 := by
  have hsections : sensorWsRx codec fuel data crc = commandSections cmd := by
    rw [sensorWsRx, haccepted]
  simp only [Machine.run_cons, Machine.run_nil, ioStep, hsections, commandSections, hfreq,
    ioTaskStart]
  by_cases hupdate : cmd.hasPwmUpdate = true <;> by_cases hgpio : cmd.hasGpioWrite = true <;>
    simp [hupdate, hgpio, ioQueueLength, ioExecute, hhw]

end Fits

variable {ι : Type} (codec : Codec ι) (fuel : Nat)

/-- In all runs of the node on frames of a set, the driver is called with frequencies of which the
chip is capable and the node keeps such a frequency, if and only if every command with a frequency
among these frames asks for 24 Hz to 1743 Hz. -/
theorem pwm_frequency_fits_iff {map : IoMap} (hhw : pwmHwAvailable map = true)
    (results : Fin 2 → Nat → EspErr) (bus : I2cBus) (frames : Set (Bytes × UInt32)) :
    (∀ events : List IoEvent, (∀ data crc, .frame data crc ∈ events → (data, crc) ∈ frames) →
      let started := ioTaskStart results bus
      let result := Machine.run (ioStep codec fuel map) started events
      (∀ frequencyHz, .pca9685Init frequencyHz ∈ ioTaskInitCalls map started ++ result.2 →
        FrequencyFits frequencyHz) ∧ FrequencyFits result.1.pwmFreq) ↔
    ∀ data crc cmd, (data, crc) ∈ frames →
      protoDecodeCommand codec fuel data codec.configUseCbor crc = .ok cmd →
      cmd.hasPwmFrequency = true →
        24 ≤ cmd.pwmFrequency.toNat ∧ cmd.pwmFrequency.toNat ≤ 1743 := by
  constructor
  · intro hall data crc cmd hmem haccepted hfreq
    obtain ⟨hcalls, -⟩ := hall [.frame data crc, .queueSend, .queueSend,
      .queueReceive fun _ => .ok, .queueReceive fun _ => .ok] (by
        intro other otherCrc hevent
        simp only [List.mem_cons, IoEvent.frame.injEq, List.not_mem_nil, reduceCtorEq, or_false]
          at hevent
        rwa [hevent.1, hevent.2])
    exact frequencyFits_iff.mp (hcalls _ (List.mem_append_right _
      (called_with_frequency hhw haccepted hfreq results bus)))
  · intro hframes events hevents
    have hfits : ∀ event ∈ events, event.Fits codec fuel := by
      intro event hmem
      cases event with
      | frame data crc =>
          intro command hcommand
          cases hdecode : protoDecodeCommand codec fuel data codec.configUseCbor crc with
          | error err =>
              rw [sensorWsRx, hdecode] at hcommand
              cases hcommand
          | ok cmd =>
              rw [sensorWsRx, hdecode] at hcommand
              cases command with
              | setPwmFreq pwmFreq =>
                  have hasked : cmd.hasPwmFrequency = true ∧ pwmFreq = cmd.pwmFrequency := by
                    simpa [commandSections] using hcommand
                  obtain ⟨hfreq, rfl⟩ := hasked
                  exact frequencyFits_iff.mpr
                    (hframes data crc cmd (hevents data crc hmem) hdecode hfreq)
              | setPwm channel duty => trivial
              | writeGpio deviceIndex port mask value => trivial
      | queueSend | waitEnds | queueReceive results | poll results external => trivial
    have hkeeps := @run_keepsFitting ι codec fuel map _ _ events
      (@KeepsFitting.start map results bus) hfits
    exact ⟨fun frequencyHz hmem => hkeeps.calls _ hmem, hkeeps.pwmFreq⟩

/-- A command for a frequency. -/
def frequencyCommand (frequencyHz : UInt16) : ProtoCommand :=
  { hasPwmFrequency := true, pwmFrequency := frequencyHz }

/-- It is accepted as it was encoded. -/
theorem decode_frequencyCommand (frequencyHz : UInt16) :
    let payload := Json.render (commandJson (frequencyCommand frequencyHz))
    protoDecodeCommand (Codec.plain false) 0 payload false (protoCrc32 payload) =
      .ok (frequencyCommand frequencyHz) :=
  protoDecodeCommand_render
    { deviceIndex := Or.inl rfl
      port := Or.inl rfl
      pwmUpdate := fun _ => rfl
      pwmFrequency := fun h => Bool.noConfusion h
      gpioWrite := fun _ => rfl } rfl (crcAccepts_self _)

/-- A command for 1000 Hz that comes twice. -/
theorem pwm_frequency_fits_twice :
    let payload := Json.render (commandJson (frequencyCommand 1000))
    FrequencyFits (Machine.run (ioStep (Codec.plain false) 0 {})
      (ioTaskStart (fun _ _ => .ok) fun _ => {})
      [.frame payload (protoCrc32 payload), .queueSend, .frame payload (protoCrc32 payload),
        .queueReceive fun _ => .ok, .queueSend, .queueReceive fun _ => .ok]).1.pwmFreq := by
  intro payload
  refine ((@pwm_frequency_fits_iff _ (Codec.plain false) 0 {} rfl (fun _ _ => .ok) (fun _ => {})
    {(payload, protoCrc32 payload)}).mpr ?_ _ ?_).2
  · intro data crc cmd hmem hdecode _
    obtain ⟨rfl, rfl⟩ := Prod.mk.inj hmem
    obtain rfl := Except.ok.inj ((decode_frequencyCommand 1000).symm.trans hdecode)
    decide
  · intro data crc hmem
    simpa using hmem

/-- A command for 0 Hz is accepted, and the driver divides by it. -/
theorem frequency_zero_called :
    let payload := Json.render (commandJson (frequencyCommand 0))
    let result := Machine.run (ioStep (Codec.plain false) 0 {})
      (ioTaskStart (fun _ _ => .ok) fun _ => {})
      [.frame payload (protoCrc32 payload), .queueSend, .queueSend, .queueReceive fun _ => .ok,
        .queueReceive fun _ => .ok]
    IoOutput.pca9685Init 0 ∈ result.2 ∧ ¬ FrequencyFits 0 := by
  intro payload result
  exact ⟨called_with_frequency rfl (decode_frequencyCommand 0) rfl _ _,
    fun h => absurd h.1 (by decide)⟩

end SensorHmi
