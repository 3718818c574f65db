import SensorHmi.Platform

/-!
# The port expander

`sensor_node/main/drivers/mcp23017.c` over a model of the chip: a two-octet transfer goes to a
register and its successor, an input pin reads its external level and an output pin its latch. A
failed transfer changes nothing. `word_octets` says that a word read back is the word written.
-/

namespace SensorHmi

/-- The registers of an MCP23017 that the driver uses. -/
structure Mcp23017 where
  iodirA : UInt8 := 0xFF
  iodirB : UInt8 := 0xFF
  gppuA : UInt8 := 0
  gppuB : UInt8 := 0
  olatA : UInt8 := 0
  olatB : UInt8 := 0
  deriving DecidableEq

namespace Mcp23017

/-- A register write; a write to a port goes to its latch. -/
def writeRegister (chip : Mcp23017) (register value : UInt8) : Mcp23017 :=
  if register = 0x00 then { chip with iodirA := value }
  else if register = 0x01 then { chip with iodirB := value }
  else if register = 0x0C then { chip with gppuA := value }
  else if register = 0x0D then { chip with gppuB := value }
  else if register = 0x12 ∨ register = 0x14 then { chip with olatA := value }
  else if register = 0x13 ∨ register = 0x15 then { chip with olatB := value }
  else chip

/-- A register read at the given external levels of the pins. -/
def readRegister (chip : Mcp23017) (external : UInt8 × UInt8) (register : UInt8) : UInt8 :=
  if register = 0x00 then chip.iodirA
  else if register = 0x01 then chip.iodirB
  else if register = 0x0C then chip.gppuA
  else if register = 0x0D then chip.gppuB
  else if register = 0x12 then (chip.iodirA &&& external.1) ||| (~~~chip.iodirA &&& chip.olatA)
  else if register = 0x13 then (chip.iodirB &&& external.2) ||| (~~~chip.iodirB &&& chip.olatB)
  else if register = 0x14 then chip.olatA
  else if register = 0x15 then chip.olatB
  else 0

end Mcp23017

/-- The chips on the bus by their addresses. -/
abbrev I2cBus := UInt8 → Mcp23017

/-- `((uint16_t)high << 8) | low` -/
def word (low high : UInt8) : UInt16 :=
  (high.toUInt16 <<< 8) ||| low.toUInt16

/-- The levels of the sixteen latches of a chip, port A in the low octet. -/
def Mcp23017.latches (chip : Mcp23017) : UInt16 :=
  word chip.olatA chip.olatB

/-- `mcp23017_write16`; `result` is what the transfer returns. -/
def mcp23017Write16 (result : EspErr) (bus : I2cBus) (addr register : UInt8) (value : UInt16) :
    EspErr × I2cBus :=
  if result = .ok then
    let chip := ((bus addr).writeRegister register (value &&& 0xFF).toUInt8).writeRegister
      (register + 1) (value >>> 8).toUInt8
    (.ok, Function.update bus addr chip)
  else (result, bus)

/-- `mcp23017_read16` at the given external levels. -/
def mcp23017Read16 (result : EspErr) (bus : I2cBus) (external : UInt8 × UInt8)
    (addr register : UInt8) : Except EspErr UInt16 :=
  if result = .ok then
    .ok (word ((bus addr).readRegister external register)
      ((bus addr).readRegister external (register + 1)))
  else .error result

/-- `mcp23017_init`; `results` are what its transfers return. -/
def mcp23017Init (results : Nat → EspErr) (bus : I2cBus) (addr : UInt8)
    (directionMask pullupMask : UInt16) : EspErr × I2cBus :=
  EspErr.andThen (mcp23017Write16 (results 0) bus addr 0x00 directionMask) fun bus =>
    mcp23017Write16 (results 1) bus addr 0x0C pullupMask

/-- `mcp23017_read_gpio` -/
def mcp23017ReadGpio (result : EspErr) (bus : I2cBus) (external : UInt8 × UInt8) (addr : UInt8) :
    Except EspErr UInt16 :=
  mcp23017Read16 result bus external addr 0x12

/-- `mcp23017_write_gpio`; the latches read back whatever the external levels. -/
def mcp23017WriteGpio (results : Nat → EspErr) (bus : I2cBus) (addr : UInt8)
    (mask value : UInt16) : EspErr × I2cBus :=
  match mcp23017Read16 (results 0) bus (0, 0) addr 0x14 with
  | .error err => (err, bus)
  | .ok current =>
      mcp23017Write16 (results 1) bus addr 0x14 ((current &&& ~~~mask) ||| (value &&& mask))

section Words

/-- A word is put together from its own octets. -/
theorem word_octets (value : UInt16) :
    word (value &&& 0xFF).toUInt8 (value >>> 8).toUInt8 = value := by
  apply UInt16.toNat_inj.mp
  have hlt := value.toNat_lt
  have hlow : value.toNat % 256 &&& 255 = value.toNat % 256 := by
    rw [Nat.and_two_pow_sub_one_eq_mod (value.toNat % 256) 8, Nat.mod_mod]
  have hor : value.toNat / 256 * 256 ||| value.toNat % 256 = value.toNat := by
    have hsum := Nat.two_pow_add_eq_or_of_lt
      (Nat.mod_lt value.toNat (show 0 < 2 ^ 8 by decide)) (value.toNat / 256)
    rw [Nat.mul_comm, ← hsum]
    omega
  simp only [word, UInt16.toNat_or, UInt16.toNat_shiftLeft, UInt8.toNat_toUInt16,
    UInt16.toNat_toUInt8, UInt16.toNat_shiftRight, UInt16.toNat_and, UInt16.reduceToNat,
    Nat.reduceMod, Nat.shiftRight_eq_div_pow, Nat.shiftLeft_eq, Nat.reducePow]
  rw [Nat.mod_eq_of_lt (show value.toNat / 256 < 256 by omega),
    Nat.mod_eq_of_lt (show value.toNat / 256 * 256 < 65536 by omega),
    Nat.and_two_pow_sub_one_eq_mod value.toNat 8, Nat.mod_mod]
  exact hor

end Words

end SensorHmi
