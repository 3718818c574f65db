import SensorHmi.Platform
import SensorHmi.Proto.JsonDecode

/-!
# The PWM controller

`sensor_node/main/drivers/pca9685.c` over a model of the chip: a transfer goes to a register and,
with the auto-increment bit of `MODE1`, on to its successors. `onTime` reads the output of a
channel off its four registers. A failed transfer changes nothing.

The driver writes a full-scale duty as the full-off bit, and masks that bit out again, so that a
channel of full scale is on for no tick: `onTime_shown`.
-/

namespace SensorHmi

/-- The registers of a PCA9685. -/
structure Pca9685 where
  registers : UInt8 → UInt8

namespace Pca9685

/-- The chip after power-on: asleep, all channels fully off. -/
def powerOn : Pca9685 where
  registers register :=
    if register = 0x00 then 0x11
    else if register = 0x01 then 0x04
    else if register = 0xFE then 0x1E
    else if 0x06 ≤ register ∧ register ≤ 0x45 ∧ register &&& 3 = 1 then 0x10
    else 0

/-- The octets of a transfer go to a register and, with auto-increment, to its successors. -/
def transfer (chip : Pca9685) (register : UInt8) : List UInt8 → Pca9685
  | [] => chip
  | value :: rest =>
      let chip : Pca9685 := ⟨Function.update chip.registers register value⟩
      let next := if chip.registers 0x00 &&& 0x20 = 0 then register
        else if register = 0x45 then 0
        else register + 1
      transfer chip next rest

/-- An I2C write: the first octet is the register. -/
def write (chip : Pca9685) : List UInt8 → Pca9685
  | [] => chip
  | register :: values => chip.transfer register values

/-- The four registers of a channel. -/
def led (chip : Pca9685) (channel : Fin 16) : Vector UInt8 4 :=
  Vector.ofFn fun i => chip.registers (0x06 + 4 * UInt8.ofNat channel.val + UInt8.ofNat i.val)

/-- The ticks out of 4096 for which a channel is on. -/
def onTime (chip : Pca9685) (channel : Fin 16) : Nat :=
  let led := chip.led channel
  let ticks (low high : UInt8) : Nat := (high &&& 0x0F).toNat * 256 + low.toNat
  if chip.registers 0x00 &&& 0x10 ≠ 0 then 0
  else if led[3] &&& 0x10 ≠ 0 then 0
  else if led[1] &&& 0x10 ≠ 0 then 4096
  else (ticks led[2] led[3] + 4096 - ticks led[0] led[1]) % 4096

end Pca9685

/-- `pca9685_write8`; `result` is what the transfer returns. -/
def pca9685Write8 (result : EspErr) (chip : Pca9685) (reg value : UInt8) : EspErr × Pca9685 :=
  if result = .ok then (.ok, chip.write [reg, value]) else (result, chip)

/-- `pca9685_write16` -/
def pca9685Write16 (result : EspErr) (chip : Pca9685) (reg : UInt8) (on off : UInt16) :
    EspErr × Pca9685 :=
  if result = .ok then
    (.ok, chip.write [reg, (on &&& 0xFF).toUInt8, ((on >>> 8) &&& 0x0F).toUInt8,
      (off &&& 0xFF).toUInt8, ((off >>> 8) &&& 0x0F).toUInt8])
  else (result, chip)

/-- The prescaler of a frequency, computed in single precision. -/
def pca9685Prescale (target : CTarget) (frequencyHz : UInt16) : UInt8 :=
  let prescale : Float32 := 25000000 / (4096 * frequencyHz.toFloat32) - 1
  UInt8.ofNat (target.toUnsigned 8 (prescale + 0.5).toFloat)

/-- `pca9685_init`; `results` are what its transfers return. -/
def pca9685Init (target : CTarget) (results : Nat → EspErr) (chip : Pca9685)
    (frequencyHz : UInt16) : EspErr × Pca9685 :=
  EspErr.andThen (pca9685Write8 (results 0) chip 0x00 0x10) fun chip =>
    EspErr.andThen (pca9685Write8 (results 1) chip 0xFE (pca9685Prescale target frequencyHz))
      fun chip =>
        EspErr.andThen (pca9685Write8 (results 2) chip 0x00 0xA1) fun chip =>
          pca9685Write8 (results 3) chip 0x01 0x04

/-- `pca9685_set_pwm` -/
def pca9685SetPwm (result : EspErr) (chip : Pca9685) (channel : UInt8) (duty : UInt16) :
    EspErr × Pca9685 :=
  if 16 ≤ channel then (.invalidArg, chip)
  else
    let off := if 4096 ≤ duty then 0x1000 else duty
    pca9685Write16 result chip (0x06 + 4 * channel) 0 off

namespace Pca9685

/-- The four octets `pca9685_set_pwm` writes for a duty. -/
def ledOf (duty : UInt16) : Vector UInt8 4 :=
  let off : UInt16 := if 4096 ≤ duty then 0x1000 else duty
  #v[0, 0, (off &&& 0xFF).toUInt8, ((off >>> 8) &&& 0x0F).toUInt8]

/-- The chip runs with auto-increment, as `pca9685_init` leaves it. -/
def Running (chip : Pca9685) : Prop :=
  chip.registers 0x00 = 0xA1

section Driver

variable {chip : Pca9685} {target : CTarget} {channel other : Fin 16} {duty frequencyHz : UInt16}

theorem register_channel (channel : Fin 16) (i : Fin 4) :
    (0x06 + 4 * UInt8.ofNat channel.val + UInt8.ofNat i.val).toNat =
      6 + 4 * channel.val + i.val := by
  have hchannel := channel.isLt
  have hi := i.isLt
  simp only [UInt8.toNat_add, UInt8.toNat_mul, UInt8.toNat_ofNat', UInt8.reduceToNat]
  omega

/-- Initialising starts the chip and leaves every channel alone. -/
theorem pca9685Init_spec :
    ∃ chip', pca9685Init target (fun _ => .ok) chip frequencyHz = (.ok, chip') ∧ chip'.Running ∧
      ∀ channel, chip'.led channel = chip.led channel := by
  refine ⟨_, rfl, rfl, fun channel => ?_⟩
  ext i hi
  have hregister := register_channel channel ⟨i, hi⟩
  have hchannel := channel.isLt
  have hne : ∀ register : UInt8, register.toNat < 6 ∨ 70 ≤ register.toNat →
      0x06 + 4 * UInt8.ofNat channel.val + UInt8.ofNat i ≠ register := by
    intro register hfar heq
    rw [heq] at hregister
    simp only at hregister
    omega
  simp only [led, Vector.getElem_ofFn, write, transfer]
  rw [Function.update_of_ne (hne 0x01 (by decide)), Function.update_of_ne (hne 0x00 (by decide)),
    Function.update_of_ne (hne 0xFE (by decide)), Function.update_of_ne (hne 0x00 (by decide))]

/-- The first register of a channel. -/
def base (channel : Fin 16) : UInt8 :=
  0x06 + 4 * UInt8.ofNat channel.val

/-- A transfer to the channel registers of a running chip puts its octets one after the other and
leaves all other registers. -/
theorem transfer_registers (hrunning : chip.Running) {values : List UInt8} {register : UInt8}
    (hlow : 6 ≤ register.toNat) (hhigh : register.toNat + values.length ≤ 70) (place : UInt8) :
    (chip.transfer register values).registers place =
      if register.toNat ≤ place.toNat then
        values[place.toNat - register.toNat]?.getD (chip.registers place)
      else chip.registers place := by
  induction values generalizing chip register with
  | nil => simp [transfer]
  | cons value rest ih =>
      have hmode : Function.update chip.registers register value 0x00 = 0xA1 := by
        rw [Function.update_of_ne, hrunning]
        rintro rfl
        exact absurd hlow (by decide)
      have hsame : Function.update chip.registers register value place =
          if place.toNat = register.toNat then value else chip.registers place := by
        rw [Function.update_apply]
        simp only [UInt8.toNat_inj]
      cases rest with
      | nil =>
          simp only [transfer, hsame]
          by_cases hplace : place.toNat = register.toNat
          · simp [hplace]
          · by_cases hle : register.toNat ≤ place.toNat
            · rw [if_neg hplace, if_pos hle, List.getElem?_eq_none (by simp; omega)]
              rfl
            · rw [if_neg hplace, if_neg hle]
      | cons next rest =>
          simp only [List.length_cons] at hhigh
          have hend : register ≠ 0x45 := by
            rintro rfl
            have hlast : UInt8.toNat 0x45 = 69 := rfl
            omega
          have hnext : (register + 1).toNat = register.toNat + 1 := by
            rw [UInt8.toNat_add]
            show (register.toNat + 1) % 256 = _
            omega
          have hrest := @ih ⟨Function.update chip.registers register value⟩ hmode (register + 1)
            (by omega) (by simp only [List.length_cons]; omega)
          have hstep : chip.transfer register (value :: next :: rest) =
              transfer ⟨Function.update chip.registers register value⟩ (register + 1)
                (next :: rest) := by
            rw [transfer]
            simp only [hmode, hend, if_false]
            rfl
          rw [hstep, hrest, hnext]
          simp only [hsame]
          by_cases hplace : place.toNat = register.toNat
          · rw [if_neg (by omega), if_pos hplace, if_pos (by omega), hplace, Nat.sub_self]
            rfl
          · by_cases hle : register.toNat + 1 ≤ place.toNat
            · obtain ⟨k, hk⟩ : ∃ k, place.toNat = register.toNat + 1 + k :=
                ⟨place.toNat - (register.toNat + 1), by omega⟩
              rw [if_pos hle, if_neg hplace, if_pos (by omega), hk, Nat.add_sub_cancel_left,
                Nat.add_assoc, Nat.add_sub_cancel_left, Nat.add_comm 1 k, List.getElem?_cons_succ]
            · rw [if_neg hle, if_neg hplace, if_neg (by omega)]

/-- A transfer of four octets to a channel of a running chip writes its registers and no others. -/
theorem transfer_led (hrunning : chip.Running) (values : Vector UInt8 4) :
    (chip.transfer (base channel) values.toList).Running ∧
      (chip.transfer (base channel) values.toList).led channel = values ∧
      ∀ other, other ≠ channel →
        (chip.transfer (base channel) values.toList).led other = chip.led other := by
  have hchannel := channel.isLt
  have hbase : (base channel).toNat = 6 + 4 * channel.val := by
    simpa [base] using register_channel channel 0
  have hplace := @transfer_registers chip hrunning values.toList (base channel) (by omega)
    (by rw [Vector.length_toList]; omega)
  refine ⟨?_, ?_, ?_⟩
  · rw [Running, hplace, if_neg (by rw [hbase]; exact Nat.not_le.mpr (by simp)), hrunning]
  · ext i hi
    have hregister := register_channel channel ⟨i, hi⟩
    simp only at hregister
    simp only [led, Vector.getElem_ofFn]
    rw [hplace, hregister, hbase, if_pos (by omega), Nat.add_sub_cancel_left,
      List.getElem?_eq_getElem (by simpa using hi), Option.getD_some, Vector.getElem_toList]
  · intro other hother
    have hdiffer : other.val ≠ channel.val := fun h => hother (Fin.ext h)
    ext i hi
    have hregister := register_channel other ⟨i, hi⟩
    simp only at hregister
    simp only [led, Vector.getElem_ofFn]
    rw [hplace, hregister, hbase]
    split
    case isTrue hle => rw [List.getElem?_eq_none (by simp; omega), Option.getD_none]
    case isFalse => rfl

/-- Setting a channel of a running chip writes its four registers and no others. -/
theorem pca9685SetPwm_spec (hrunning : chip.Running) :
    ∃ chip', pca9685SetPwm .ok chip (UInt8.ofNat channel.val) duty = (.ok, chip') ∧
      chip'.Running ∧ chip'.led channel = ledOf duty ∧
      ∀ other, other ≠ channel → chip'.led other = chip.led other := by
  have hsmall : ¬ 16 ≤ UInt8.ofNat channel.val := by
    have hchannel := channel.isLt
    rw [UInt8.le_iff_toNat_le, UInt8.toNat_ofNat']
    show ¬ 16 ≤ channel.val % 2 ^ 8
    omega
  refine ⟨_, ?_, transfer_led hrunning (ledOf duty)⟩
  rw [pca9685SetPwm, if_neg hsmall]
  rfl

/-- A duty below full scale is put together from its low octet and the low four bits of its high
octet, and its full-off bit is clear. -/
theorem duty_octets (hduty : duty.toNat < 4096) :
    (((duty >>> 8) &&& 0x0F).toUInt8 &&& 0x0F).toNat * 256 + ((duty &&& 0xFF).toUInt8).toNat =
        duty.toNat ∧
      ((duty >>> 8) &&& 0x0F).toUInt8 &&& 0x10 = 0 := by
  have hhigh : (duty >>> 8).toNat = duty.toNat / 256 := by
    rw [UInt16.toNat_shiftRight, Nat.shiftRight_eq_div_pow]
    rfl
  have hnibble : ((duty >>> 8) &&& 0x0F).toNat = duty.toNat / 256 := by
    rw [UInt16.toNat_and, hhigh]
    show duty.toNat / 256 &&& 2 ^ 4 - 1 = _
    rw [Nat.and_two_pow_sub_one_eq_mod, Nat.mod_eq_of_lt (by omega)]
  have hoctet : (((duty >>> 8) &&& 0x0F).toUInt8).toNat = duty.toNat / 256 := by
    rw [UInt16.toNat_toUInt8, hnibble, Nat.mod_eq_of_lt (by omega)]
  have hlow : ((duty &&& 0xFF).toUInt8).toNat = duty.toNat % 256 := by
    rw [UInt16.toNat_toUInt8, UInt16.toNat_and]
    show (duty.toNat &&& 2 ^ 8 - 1) % 256 = _
    rw [Nat.and_two_pow_sub_one_eq_mod, Nat.mod_mod]
  constructor
  · rw [UInt8.toNat_and, hoctet, hlow]
    show (duty.toNat / 256 &&& 2 ^ 4 - 1) * 256 + _ = _
    rw [Nat.and_two_pow_sub_one_eq_mod, Nat.mod_eq_of_lt (by omega)]
    omega
  · apply UInt8.toNat_inj.mp
    rw [UInt8.toNat_and, hoctet]
    have hbit : (duty.toNat / 256).testBit 4 = false := Nat.testBit_lt_two_pow (by omega)
    show duty.toNat / 256 &&& 2 ^ 4 = 0
    rw [Nat.and_two_pow, hbit]
    rfl

/-- A running channel that goes on at tick 0. -/
theorem onTime_of_led (hrunning : chip.Running) {low high : UInt8}
    (hled : chip.led channel = #v[0, 0, low, high]) :
    chip.onTime channel =
      if high &&& 0x10 ≠ 0 then 0 else ((high &&& 0x0F).toNat * 256 + low.toNat) % 4096 := by
  have hmode : chip.registers 0x00 = 0xA1 := hrunning
  have hawake : (0xA1 : UInt8) &&& 0x10 = 0 := by decide
  have hpartly : (0 : UInt8) &&& 0x10 = 0 := by decide
  have hzero : ((0 : UInt8) &&& 0x0F).toNat * 256 + (0 : UInt8).toNat = 0 := by decide
  have hon : (#v[0, 0, low, high] : Vector UInt8 4)[0] = 0 ∧
      (#v[0, 0, low, high] : Vector UInt8 4)[1] = 0 ∧
      (#v[0, 0, low, high] : Vector UInt8 4)[2] = low ∧
      (#v[0, 0, low, high] : Vector UInt8 4)[3] = high := ⟨rfl, rfl, rfl, rfl⟩
  simp only [onTime, hled, hmode, hawake, hon, hpartly, hzero, ne_eq, not_true_eq_false, if_false,
    Nat.sub_zero, Nat.add_mod_right]

/-- A running channel is on for its duty, and for no tick at full scale. -/
theorem onTime_shown (hrunning : chip.Running) (hled : chip.led channel = ledOf duty) :
    chip.onTime channel = if 4096 ≤ duty.toNat then 0 else duty.toNat := by
  have hfull : 4096 ≤ duty ↔ 4096 ≤ duty.toNat := by
    rw [UInt16.le_iff_toNat_le]
    rfl
  by_cases hscale : 4096 ≤ duty.toNat
  · have hmasked : (((0x1000 : UInt16) >>> 8) &&& 0x0F).toUInt8 = 0 := by decide
    have hoff : ledOf duty = #v[0, 0, 0, 0] := by
      simp only [ledOf, hfull, hscale, if_true, hmasked]
      rfl
    rw [onTime_of_led hrunning (hled.trans hoff), if_pos hscale]
    decide
  · have hon : ledOf duty =
        #v[0, 0, (duty &&& 0xFF).toUInt8, ((duty >>> 8) &&& 0x0F).toUInt8] := by
      simp only [ledOf, hfull, hscale, if_false]
    obtain ⟨hticks, hbit⟩ := @duty_octets duty (by omega)
    rw [onTime_of_led hrunning (hled.trans hon), if_neg (not_not.mpr hbit), hticks, if_neg hscale]
    omega

end Driver

end Pca9685

end SensorHmi
