import SensorHmi.Lib.Writes
import SensorHmi.Sensor.IoTask
import SensorHmi.Sensor.Pca9685

/-!
# The outputs of the PWM controller

What the chip does after the I/O task executed PWM commands. Every channel that was written, by a
command of its own or by a change of the frequency, shows the duty kept for it
(`run_shows`), which is the commanded on-time below full scale: `pwm_output_follows_iff`.
-/

namespace SensorHmi

/-- A PWM command of the I/O task. -/
inductive PwmCommand
  | setPwm (channel : Fin 16) (duty : UInt16)
  | setPwmFreq (pwmFreq : UInt16)
  deriving DecidableEq

/-- The entry of the command queue. -/
def PwmCommand.toIo : PwmCommand → IoCommand
  | .setPwm channel duty => .setPwm (UInt8.ofNat channel.val) duty
  | .setPwmFreq pwmFreq => .setPwmFreq pwmFreq

/-- The duties the commands set, in order. -/
def pwmWrites (commands : List PwmCommand) : List (Fin 16 × UInt16) :=
  commands.filterMap fun command => match command with
    | .setPwm channel duty => some (channel, duty)
    | .setPwmFreq _ => none

/-- The duty last commanded for a channel, zero at first. -/
def commandedDuty (channel : Fin 16) (commands : List PwmCommand) : UInt16 :=
  (Writes.last channel (pwmWrites commands)).getD 0

/-- The command writes the registers of the channel. -/
def PwmCommand.Writes (channel : Fin 16) : PwmCommand → Prop
  | .setPwm other _ => other = channel
  | .setPwmFreq _ => True

/-- The effect of the task's calls of the driver on the chip, when every transfer succeeds. -/
def pca9685Call (target : CTarget) (chip : Pca9685) : IoOutput → Pca9685
  | .pca9685Init frequencyHz => (pca9685Init target (fun _ => .ok) chip frequencyHz).2
  | .pca9685SetPwm channel duty => (pca9685SetPwm .ok chip channel duty).2
  | .accepted _ | .executed _ | .dropped _ | .setGpio _ _ _ | .setPwm _ _ => chip

/-- The chip after the calls on the way. -/
def pca9685After (target : CTarget) (chip : Pca9685) (outputs : List IoOutput) : Pca9685 :=
  outputs.foldl (pca9685Call target) chip

/-- The chip after `io_task` initialised it. -/
def pca9685Start (target : CTarget) (chip : Pca9685) : Pca9685 :=
  (pca9685Init target (fun _ => .ok) chip 500).2

section Task

variable {map : IoMap} {target : CTarget} {results : Nat → EspErr} {node : IoNode}
  {chip : Pca9685} {channel : Fin 16}

/-- What a channel shows depends on its registers alone while the chip runs. -/
theorem onTime_congr {other : Pca9685} (hrunning : chip.Running) (hother : other.Running)
    (hled : chip.led channel = other.led channel) : chip.onTime channel = other.onTime channel := by
  rw [Pca9685.onTime, Pca9685.onTime, hled, show chip.registers 0x00 = 0xA1 from hrunning,
    show other.registers 0x00 = 0xA1 from hother]

/-- Rewriting channels of a running chip leaves it running; a rewritten channel shows its duty and
the others stay. -/
theorem rewrite_spec (hrunning : chip.Running) (duty : Fin 16 → UInt16) (channels : List (Fin 16)) :
    let after := pca9685After target chip
      (channels.map fun i : Fin 16 => .pca9685SetPwm (UInt8.ofNat i.val) (duty i))
    after.Running ∧ ∀ channel, after.led channel =
      if channel ∈ channels then Pca9685.ledOf (duty channel) else chip.led channel := by
  induction channels generalizing chip with
  | nil => exact ⟨hrunning, fun channel => by simp [pca9685After]⟩
  | cons first rest ih =>
      obtain ⟨chip', hset, hrunning', hfirst, hothers⟩ :=
        @Pca9685.pca9685SetPwm_spec chip first (duty first) hrunning
      have hstep : pca9685Call target chip (.pca9685SetPwm (UInt8.ofNat first.val) (duty first)) =
          chip' := congrArg Prod.snd hset
      obtain ⟨hafter, hled⟩ := ih hrunning'
      simp only [pca9685After, List.map_cons, List.foldl_cons, hstep] at hafter hled ⊢
      refine ⟨hafter, fun channel => ?_⟩
      rw [hled]
      by_cases hrest : channel ∈ rest
      · rw [if_pos hrest, if_pos (List.mem_cons_of_mem _ hrest)]
      · rw [if_neg hrest]
        by_cases hsame : channel = first
        · rw [hsame, if_pos List.mem_cons_self, hfirst]
        · rw [if_neg (by simp [hrest, hsame]), hothers channel hsame]

/-- A channel number is its own remainder. -/
theorem channel_mod (channel : Fin 16) :
    (UInt8.ofNat channel.val).toNat % 16 = channel.val ∧
      UInt8.ofNat channel.val % 16 = UInt8.ofNat channel.val := by
  have hchannel := channel.isLt
  have hvalue : (UInt8.ofNat channel.val).toNat = channel.val := by
    rw [UInt8.toNat_ofNat', Nat.mod_eq_of_lt (by omega)]
  refine ⟨by omega, UInt8.toNat_inj.mp ?_⟩
  rw [UInt8.toNat_mod, hvalue]
  show channel.val % 16 = channel.val
  omega

/-- One command: the duty it sets is kept, the channels it writes show the duty kept for them, the
others stay. -/
theorem execute_shows (hhw : pwmHwAvailable map = true) (hrunning : chip.Running)
    (command : PwmCommand) :
    let result := ioExecute map results node command.toIo
    let after := pca9685After target chip result.2
    after.Running ∧
      (∀ channel, result.1.pwm.get channel =
        (Writes.last channel (pwmWrites [command])).getD (node.pwm.get channel)) ∧
      ∀ channel, (command.Writes channel → after.led channel =
          Pca9685.ledOf (result.1.pwm.get channel)) ∧
        (¬ command.Writes channel → after.led channel = chip.led channel) := by
  cases command with
  | setPwm written duty =>
      obtain ⟨hindex, hchannel⟩ := channel_mod written
      obtain ⟨hafter, hled⟩ := @rewrite_spec target chip hrunning (fun _ => duty) [written]
      have hkept : ∀ channel, (node.pwm.set ((UInt8.ofNat written.val).toNat % 16) duty).get
        channel =
          if written = channel then duty else node.pwm.get channel := by
        intro channel
        simp only [hindex, Vector.get_eq_getElem, Vector.getElem_set, Fin.ext_iff]
      simp only [ioExecute, PwmCommand.toIo, hhw, if_true, hchannel, hkept]
      refine ⟨hafter, fun channel => ?_, fun channel => ⟨fun hwrites => ?_, fun hother => ?_⟩⟩
      · by_cases hsame : written = channel <;> simp [pwmWrites, Writes.last, hsame]
      · have hsame : written = channel := hwrites
        rw [if_pos hsame]
        exact (hled channel).trans (if_pos (List.mem_singleton.mpr hsame.symm))
      · have hdiffer : channel ∉ [written] := fun hmem =>
          hother (List.mem_singleton.mp hmem).symm
        exact (hled channel).trans (if_neg hdiffer)
  | setPwmFreq pwmFreq =>
      obtain ⟨chip', hinit, hrunning', hsame⟩ :=
        @Pca9685.pca9685Init_spec chip target pwmFreq
      have hstep : pca9685Call target chip (.pca9685Init pwmFreq) = chip' :=
        congrArg Prod.snd hinit
      obtain ⟨hafter, hled⟩ := @rewrite_spec target chip' hrunning' node.pwm.get (List.finRange 16)
      simp only [ioExecute, PwmCommand.toIo, hhw, if_true, pca9685After, List.foldl_cons, hstep]
      refine ⟨hafter, fun channel => rfl, fun channel => ⟨fun _ => ?_, fun h => (h trivial).elim⟩⟩
      exact (hled channel).trans (if_pos (List.mem_finRange channel))

/-- Some command writes the registers of the channel. -/
def Written (channel : Fin 16) (commands : List PwmCommand) : Prop :=
  ∃ command ∈ commands, command.Writes channel

/-- A channel that no command writes has no commanded duty. -/
theorem last_of_not_written {commands : List PwmCommand} (h : ¬ Written channel commands) :
    Writes.last channel (pwmWrites commands) = none := by
  induction commands with
  | nil => rfl
  | cons command rest ih =>
      have hrest : ¬ Written channel rest := fun ⟨later, hmem, hwrites⟩ =>
        h ⟨later, List.mem_cons_of_mem _ hmem, hwrites⟩
      have hfirst : ¬ command.Writes channel := fun hwrites =>
        h ⟨command, List.mem_cons_self, hwrites⟩
      cases command with
      | setPwm written duty =>
          have hother : ¬ written = channel := hfirst
          have hlast : Writes.last channel ((written, duty) :: pwmWrites rest) = none := by
            rw [Writes.last, ih hrest, if_neg hother]
            rfl
          exact hlast
      | setPwmFreq pwmFreq => exact ih hrest

/-- The commands one after the other: every channel that was written shows the duty kept for it,
the others stay. -/
theorem run_shows (hhw : pwmHwAvailable map = true) (hrunning : chip.Running)
    (commands : List PwmCommand) :
    let result := Machine.run (ioExecute map results) node (commands.map PwmCommand.toIo)
    let after := pca9685After target chip result.2
    after.Running ∧
      (∀ channel, result.1.pwm.get channel =
        (Writes.last channel (pwmWrites commands)).getD (node.pwm.get channel)) ∧
      ∀ channel, (Written channel commands → after.led channel =
          Pca9685.ledOf (result.1.pwm.get channel)) ∧
        (¬ Written channel commands → after.led channel = chip.led channel) := by
  induction commands generalizing node chip with
  | nil =>
      refine ⟨hrunning, fun _ => rfl, fun _ => ⟨?_, fun _ => rfl⟩⟩
      rintro ⟨_, hmem, -⟩
      cases hmem
  | cons command rest ih =>
      obtain ⟨hfirst, hkept, hled⟩ := @execute_shows map target results node chip hhw
        hrunning command
      obtain ⟨hafter, hduty, hshown⟩ := @ih (ioExecute map results node command.toIo).1
        (pca9685After target chip (ioExecute map results node command.toIo).2) hfirst
      have hwrites : pwmWrites (command :: rest) = pwmWrites [command] ++ pwmWrites rest :=
        @List.filterMap_append _ _ [command] rest _
      simp only [List.map_cons, Machine.run_cons, pca9685After, List.foldl_append] at *
      refine ⟨hafter, fun channel => ?_, fun channel => ⟨fun hwritten => ?_, fun hnot => ?_⟩⟩
      · rw [hduty, hkept, hwrites, Writes.last_append]
        cases Writes.last channel (pwmWrites rest) <;> rfl
      · by_cases hrest : Written channel rest
        · exact (hshown channel).1 hrest
        · have hcommand : command.Writes channel := by
            obtain ⟨writer, hmem, hwriter⟩ := hwritten
            rcases List.mem_cons.mp hmem with rfl | hlater
            · exact hwriter
            · exact absurd ⟨writer, hlater, hwriter⟩ hrest
          rw [(hshown channel).2 hrest, (hled channel).1 hcommand, hduty,
            last_of_not_written hrest, Option.getD_none]
      · have hrest : ¬ Written channel rest := by
          rintro ⟨later, hmem, hlater⟩
          exact hnot ⟨later, List.mem_cons_of_mem _ hmem, hlater⟩
        have hcommand : ¬ command.Writes channel := fun hlater =>
          hnot ⟨command, List.mem_cons_self, hlater⟩
        rw [(hshown channel).2 hrest, (hled channel).2 hcommand]

end Task

/-- After every sequence of PWM commands each channel is on for the commanded duty, at most 4096
ticks, if and only if every commanded duty is below 4096 and every channel that no command wrote
was off at the start. -/
theorem pwm_output_follows_iff {map : IoMap} (hhw : pwmHwAvailable map = true) (target : CTarget)
    (initResults : Fin 2 → Nat → EspErr) (results : Nat → EspErr) (bus : I2cBus) (chip : Pca9685)
    (commands : List PwmCommand) :
    (∀ channel, (pca9685After target (pca9685Start target chip)
        (Machine.run (ioExecute map results) (ioTaskStart initResults bus)
          (commands.map PwmCommand.toIo)).2).onTime channel =
      min (commandedDuty channel commands).toNat 4096) ↔
    ∀ channel, (commandedDuty channel commands).toNat < 4096 ∧
      (Written channel commands ∨ (pca9685Start target chip).onTime channel = 0) := by
  obtain ⟨started, hinit, hrunning, -⟩ := @Pca9685.pca9685Init_spec chip target 500
  have hstart : pca9685Start target chip = started := congrArg Prod.snd hinit
  obtain ⟨hafter, hduty, hshown⟩ := @run_shows map target results (ioTaskStart initResults bus)
    (pca9685Start target chip) hhw (by rw [hstart]; exact hrunning) commands
  refine forall_congr' fun channel => ?_
  have hkept : (Machine.run (ioExecute map results) (ioTaskStart initResults bus)
      (commands.map PwmCommand.toIo)).1.pwm.get channel = commandedDuty channel commands := by
    have hzero : (ioTaskStart initResults bus).pwm.get channel = 0 := by
      simp [ioTaskStart, Vector.get_eq_getElem]
    rw [hduty, hzero, commandedDuty]
  by_cases hwritten : Written channel commands
  · have hled := (hshown channel).1 hwritten
    rw [hkept] at hled
    rw [Pca9685.onTime_shown hafter hled]
    split
    case isTrue hscale => omega
    case isFalse hscale =>
      refine iff_of_true (by omega) ⟨by omega, .inl hwritten⟩
  · have hnone : commandedDuty channel commands = 0 := by
      rw [commandedDuty, last_of_not_written hwritten, Option.getD_none]
    have hsame := onTime_congr hafter (by rw [hstart]; exact hrunning) ((hshown channel).2 hwritten)
    rw [hsame, hnone]
    simp [hwritten]

/-- A target for the conversions of the prescaler. -/
def pwmTarget : CTarget := { outOfRange := fun _ _ => 0, indeterminate := .ofBits 0 }

/-- Half scale on channel 3, through a change of the frequency. -/
theorem pwm_output_half_scale :
    (pca9685After pwmTarget (pca9685Start pwmTarget .powerOn)
        (Machine.run (ioExecute {} fun _ => .ok) (ioTaskStart (fun _ _ => .ok) fun _ => {})
          ([.setPwm 3 2048, .setPwmFreq 1000].map PwmCommand.toIo)).2).onTime 3 =
      min (commandedDuty 3 [.setPwm 3 2048, .setPwmFreq 1000]).toNat 4096 :=
  (pwm_output_follows_iff rfl pwmTarget (fun _ _ => .ok) (fun _ => .ok) (fun _ => {}) .powerOn
    [.setPwm 3 2048, .setPwmFreq 1000]).mpr
      (fun channel =>
        ⟨by revert channel; decide, .inl ⟨.setPwmFreq 1000, by simp, trivial⟩⟩) 3

/-- Full scale on channel 0: the channel is never on. -/
theorem full_scale_is_off :
    (pca9685After pwmTarget (pca9685Start pwmTarget .powerOn)
      (Machine.run (ioExecute {} fun _ => .ok) (ioTaskStart (fun _ _ => .ok) fun _ => {})
        ([.setPwm 0 4096].map PwmCommand.toIo)).2).onTime 0 = 0 ∧
    min (commandedDuty 0 [.setPwm 0 4096]).toNat 4096 = 4096 := by
  decide +kernel

end SensorHmi
