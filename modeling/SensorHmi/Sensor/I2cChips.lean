import SensorHmi.Hmi.GpioToggle
import SensorHmi.Sensor.I2cMaster
import SensorHmi.Sensor.Pca9685

/-!
# The port expanders on the wire

The driver of `mcp23017.c` over the transfers of `i2c_bus.c`. A failed transaction may have brought
the chip a part of its octets, and the driver makes it again.

If failed transactions bring nothing, this is the driver over whole transfers of
`SensorHmi.Sensor.Mcp23017` (`writeGpio_refines`). Whatever they bring, a masked write leaves the
pins outside its mask, and each pin has the level it had or one that was asked for:
`pins_survive_failures`.
-/

namespace SensorHmi

open Octets Writes

namespace Mcp23017

/-- The octets of a transfer go to a register and on to its successors. -/
def transfer (chip : Mcp23017) (register : UInt8) : Bytes → Mcp23017
  | [] => chip
  | value :: rest =>
      transfer (chip.writeRegister register value)
        (if register = 0x15 then 0 else register + 1) rest

/-- An I2C write: the first octet is the register. -/
def write (chip : Mcp23017) : Bytes → Mcp23017
  | [] => chip
  | register :: values => chip.transfer register values

end Mcp23017

namespace I2c

/-- The expanders after the calls. -/
def chipsAfter (chips : I2cBus) (calls : List Call) : I2cBus := fun addr =>
  deviceAfter Mcp23017.write addr (chips addr) calls

/-- `mcp23017_write16` -/
def mcp23017Write16 (bus : Bus) (chips : I2cBus) (addr register : UInt8) (value : UInt16)
    (attempts : Vector Attempt 3) : EspErr × Bus × I2cBus :=
  let (result, bus, calls) := busWrite bus addr
    [register, (value &&& 0xFF).toUInt8, (value >>> 8).toUInt8] attempts
  (errOf result, bus, chipsAfter chips calls)

/-- What the chip answers from a register on, at the given external levels of its pins. -/
def Attempt.answered (chip : Mcp23017) (external : UInt8 × UInt8) (register : UInt8)
    (attempt : Attempt) : Attempt :=
  { attempt with received := fun i => chip.readRegister external (register + UInt8.ofNat i) }

/-- `mcp23017_read16` -/
def mcp23017Read16 (bus : Bus) (chips : I2cBus) (external : UInt8 × UInt8) (addr register : UInt8)
    (attempts : Vector Attempt 3) : Except EspErr UInt16 × Bus × I2cBus :=
  let (result, bus, calls) := busWriteRead bus addr [register] 2
    (attempts.map (Attempt.answered (chips addr) external register))
  (result.map fun buf => word (buf.getD 0 0) (buf.getD 1 0), bus, chipsAfter chips calls)

/-- `mcp23017_write_gpio` -/
def mcp23017WriteGpio (bus : Bus) (chips : I2cBus) (external : UInt8 × UInt8) (addr : UInt8)
    (mask value : UInt16) (reads writes : Vector Attempt 3) : EspErr × Bus × I2cBus :=
  match mcp23017Read16 bus chips external addr 0x14 reads with
  | (.error err, bus, chips) => (err, bus, chips)
  | (.ok current, bus, chips) =>
      mcp23017Write16 bus chips addr 0x14 ((current &&& ~~~mask) ||| (value &&& mask)) writes

section Transfers

variable {bus : Bus} {chips : I2cBus} {external : UInt8 × UInt8} {addr register other : UInt8}
  {mask value : UInt16} {attempts reads writes : Vector Attempt 3}

/-- Writing a register number alone, or a part of that, changes no chip. -/
theorem read16_chips : (mcp23017Read16 bus chips external addr register attempts).2.2 = chips := by
  funext device
  obtain ⟨parts, hparts, hbrought⟩ := @masterCmd_brought addr [register] 2 bus (by simp)
    (attempts.map (Attempt.answered (chips addr) external register))
  have hpart (chip : Mcp23017) (taken : Nat) : chip.write ([register].take taken) = chip := by
    cases taken with
    | zero => rfl
    | succ n =>
        rw [List.take_succ_cons, List.take_nil]
        rfl
  have hkeeps (chip : Mcp23017) (parts : List Bytes)
      (h : ∀ part ∈ parts, ∃ taken, part = [register].take taken) :
      parts.foldl Mcp23017.write chip = chip := by
    induction parts with
    | nil => rfl
    | cons part rest ih =>
        obtain ⟨taken, htaken⟩ := h part List.mem_cons_self
        rw [List.foldl_cons, htaken, hpart]
        exact ih fun other hmem => h other (List.mem_cons_of_mem _ hmem)
  show ((masterCmd bus addr [register] 2 _).2.2.filterMap (Call.written device)).foldl _ _ = _
  rw [hbrought device]
  refine hkeeps _ _ fun part hmem => ?_
  split_ifs at hmem with haddr hok
  · rcases List.mem_append.mp hmem with hmem | hmem
    · obtain ⟨attempt, -, hpart⟩ := hparts part hmem
      exact ⟨_, hpart⟩
    · exact ⟨1, List.mem_singleton.mp hmem⟩
  · rw [List.append_nil] at hmem
    obtain ⟨attempt, -, hpart⟩ := hparts part hmem
    exact ⟨_, hpart⟩
  · exact absurd hmem List.not_mem_nil

/-- A read that succeeds returns the registers of the chip. -/
theorem read16_value {current : UInt16}
    (h : (mcp23017Read16 bus chips external addr register attempts).1 = .ok current) :
    current = word ((chips addr).readRegister external register)
      ((chips addr).readRegister external (register + 1)) := by
  unfold mcp23017Read16 busWriteRead at h
  dsimp only at h
  generalize hresult : (masterCmd bus addr [register] 2
    (attempts.map (Attempt.answered (chips addr) external register))).1 = result at h
  cases result with
  | error err => cases h
  | ok data =>
      obtain ⟨attempt, hattempt, hdata⟩ := masterCmd_ok hresult
      obtain ⟨asked, -, rfl⟩ := by simpa using hattempt
      obtain rfl := Except.ok.inj h
      rw [hdata]
      show word ((chips addr).readRegister external (register + UInt8.ofNat 0))
        ((chips addr).readRegister external (register + UInt8.ofNat 1)) = _
      rw [show UInt8.ofNat 0 = 0 from rfl, UInt8.add_zero]
      rfl

/-- A read that fails returns an error. -/
theorem read16_error {err : EspErr}
    (h : (mcp23017Read16 bus chips external addr register attempts).1 = .error err) :
    err ≠ .ok := by
  have herror := @errOf_masterCmd addr [register] 2 bus
    (attempts.map (Attempt.answered (chips addr) external register))
  unfold mcp23017Read16 busWriteRead at h
  dsimp only at h
  generalize (masterCmd bus addr [register] 2
    (attempts.map (Attempt.answered (chips addr) external register))).1 = result at h herror
  cases result with
  | ok data => cases h
  | error err' =>
      obtain rfl := Except.error.inj h
      exact fun hok => absurd (herror.mp hok) (by simp [Except.toOption])

/-- A chip whose latches each are as before or as written. -/
def Torn (chip : Mcp23017) (low high : UInt8) (after : Mcp23017) : Prop :=
  ∃ a b, (a = chip.olatA ∨ a = low) ∧ (b = chip.olatB ∨ b = high) ∧
    after = { chip with olatA := a, olatB := b }

/-- Any part of a write to the latches tears them at most. -/
theorem torn_write {chip after : Mcp23017} {low high : UInt8} (h : Torn chip low high after)
    (taken : Nat) : Torn chip low high (after.write ([0x14, low, high].take taken)) := by
  obtain ⟨a, b, ha, hb, rfl⟩ := h
  rcases taken with _ | _ | _ | n
  · exact ⟨a, b, ha, hb, rfl⟩
  · exact ⟨a, b, ha, hb, rfl⟩
  · exact ⟨low, b, Or.inr rfl, hb, rfl⟩
  · have hall : [0x14, low, high].take (n + 3) = [0x14, low, high] :=
      List.take_of_length_le (by simp)
    rw [hall]
    exact ⟨low, high, Or.inr rfl, Or.inr rfl, rfl⟩

/-- A write to the latches tears those of its chip at most, writes them if it succeeds, and leaves
the chips at other addresses. -/
theorem write16_latches (bus : Bus) (chips : I2cBus) (addr : UInt8) (value : UInt16)
    (attempts : Vector Attempt 3) (device : UInt8) :
    let low := (value &&& 0xFF).toUInt8
    let high := (value >>> 8).toUInt8
    let result := mcp23017Write16 bus chips addr 0x14 value attempts
    if addr <<< 1 = device <<< 1 then
      Torn (chips device) low high (result.2.2 device) ∧
        (result.1 = .ok →
          result.2.2 device = { chips device with olatA := low, olatB := high })
    else result.2.2 device = chips device := by
  intro low high result
  obtain ⟨parts, hparts, hbrought⟩ := @masterCmd_brought addr [0x14, low, high] 0 bus (by simp)
    attempts
  have hchip : result.2.2 device = (if addr <<< 1 = device <<< 1 then parts ++
      (if (masterCmd bus addr [0x14, low, high] 0 attempts).1.toOption.isSome then
        [[0x14, low, high]] else []) else []).foldl Mcp23017.write (chips device) :=
    congrArg (List.foldl Mcp23017.write (chips device)) (hbrought device)
  have htorn (parts : List Bytes) (hparts : Parts [0x14, low, high] attempts.toList parts)
      (chip : Mcp23017) (h : Torn (chips device) low high chip) :
      Torn (chips device) low high (parts.foldl Mcp23017.write chip) := by
    induction parts generalizing chip with
    | nil => exact h
    | cons part rest ih =>
        obtain ⟨attempt, -, hpart⟩ := hparts part List.mem_cons_self
        rw [List.foldl_cons, hpart]
        exact ih (fun other hmem => hparts other (List.mem_cons_of_mem _ hmem)) _ (torn_write h _)
  have hbefore := htorn parts hparts (chips device) ⟨_, _, Or.inl rfl, Or.inl rfl, rfl⟩
  rw [hchip]
  split_ifs with haddr hok
  · rw [List.foldl_append]
    obtain ⟨a, b, -, -, hafter⟩ := hbefore
    rw [hafter]
    exact ⟨⟨low, high, Or.inr rfl, Or.inr rfl, rfl⟩, fun _ => rfl⟩
  · rw [List.append_nil]
    exact ⟨hbefore, fun hdone => absurd (errOf_masterCmd.mp hdone) hok⟩
  · rfl

/-- The low eight bits of a word are those of its low octet, the others those of its high octet. -/
theorem getLsbD_word (low high : UInt8) {i : Nat} (hi : i < 16) :
    (word low high).toBitVec.getLsbD i =
      if i < 8 then low.toBitVec.getLsbD i else high.toBitVec.getLsbD (i - 8) := by
  have hbits : (word low high).toBitVec =
      (high.toBitVec.setWidth 16 <<< 8) ||| low.toBitVec.setWidth 16 := rfl
  rw [hbits, BitVec.getLsbD_or, BitVec.getLsbD_shiftLeft, BitVec.getLsbD_setWidth,
    BitVec.getLsbD_setWidth]
  by_cases hlow : i < 8
  · simp [hlow, hi]
  · have hhigh : i - 8 < 16 := by omega
    have hnone : low.toBitVec.getLsbD i = false := BitVec.getLsbD_of_ge _ _ (by omega)
    simp [hlow, hi, hhigh, hnone]

/-- The levels of a torn chip are as before or as written. -/
theorem torn_level {chip after : Mcp23017} {low high : UInt8} (h : Torn chip low high after)
    {i : Nat} (hi : i < 16) :
    after.latches.toBitVec.getLsbD i = chip.latches.toBitVec.getLsbD i ∨
      after.latches.toBitVec.getLsbD i = (word low high).toBitVec.getLsbD i := by
  obtain ⟨a, b, ha, hb, rfl⟩ := h
  show (word a b).toBitVec.getLsbD i = (word chip.olatA chip.olatB).toBitVec.getLsbD i ∨
    (word a b).toBitVec.getLsbD i = (word low high).toBitVec.getLsbD i
  simp only [getLsbD_word _ _ hi]
  split_ifs
  · exact ha.imp (fun h => by rw [h]) fun h => by rw [h]
  · exact hb.imp (fun h => by rw [h]) fun h => by rw [h]

/-- Seven-bit addresses are told apart by their address octets. -/
theorem octet_inj {addr device : UInt8} (haddr : addr < 0x80) (hdevice : device < 0x80) :
    addr <<< 1 = device <<< 1 ↔ device = addr := by
  have hlt : addr.toNat < 128 := UInt8.lt_iff_toNat_lt.mp haddr
  have hlt' : device.toNat < 128 := UInt8.lt_iff_toNat_lt.mp hdevice
  have hdouble (octet : UInt8) : (octet <<< 1).toNat = octet.toNat * 2 % 256 := by
    rw [UInt8.toNat_shiftLeft, Nat.shiftLeft_eq]
    rfl
  rw [← UInt8.toNat_inj, ← UInt8.toNat_inj, hdouble, hdouble]
  omega

/-- Where failed transactions bring nothing, a masked write is one over whole transfers. -/
theorem writeGpio_refines (haddr : addr < 0x80)
    (hclean : ∀ attempt ∈ writes.toList, attempt.taken = 0) :
    ∃ results : Nat → EspErr,
      let wire := mcp23017WriteGpio bus chips external addr mask value reads writes
      let whole := SensorHmi.mcp23017WriteGpio results chips addr mask value
      wire.1 = whole.1 ∧ ∀ device, device < 0x80 → wire.2.2 device = whole.2 device := by
  have hchips := @read16_chips bus chips external addr 0x14 reads
  have hvalue := @read16_value bus chips external addr 0x14 reads
  have herror := @read16_error bus chips external addr 0x14 reads
  unfold mcp23017WriteGpio
  generalize mcp23017Read16 bus chips external addr 0x14 reads = read at hchips hvalue herror ⊢
  obtain ⟨outcome, later, after⟩ := read
  obtain rfl : after = chips := hchips
  cases outcome with
  | error err =>
      refine ⟨fun _ => err, ?_⟩
      have hread : SensorHmi.mcp23017Read16 err after (0, 0) addr 0x14 = .error err :=
        if_neg (herror rfl)
      rw [SensorHmi.mcp23017WriteGpio, hread]
      exact ⟨rfl, fun _ _ => rfl⟩
  | ok current =>
      obtain rfl : current = (after addr).latches := hvalue rfl
      set merged := ((after addr).latches &&& ~~~mask) ||| (value &&& mask)
      set octets : Bytes := [0x14, (merged &&& 0xFF).toUInt8, (merged >>> 8).toUInt8]
      refine ⟨fun i => if i = 0 then .ok else
        errOf (masterCmd later addr octets 0 writes).1, ?_⟩
      have hself := @deviceAfter_transfer addr octets 0 later _ Mcp23017.write (fun _ => rfl)
        (by simp [octets]) writes hclean (after addr)
      have hother (device : UInt8) (hdevice : device < 0x80) (hne : device ≠ addr) :=
        @deviceAfter_other addr device octets 0 later _ Mcp23017.write (by simp [octets])
          (fun h => hne ((octet_inj haddr hdevice).mp h)) writes (after device)
      have hok := @errOf_masterCmd addr octets 0 later writes
      show errOf (masterCmd later addr octets 0 writes).1 = (SensorHmi.mcp23017Write16
          (errOf (masterCmd later addr octets 0 writes).1) after addr 0x14 merged).1 ∧
        ∀ device, device < 0x80 →
          chipsAfter after (masterCmd later addr octets 0 writes).2.2 device =
            (SensorHmi.mcp23017Write16 (errOf (masterCmd later addr octets 0 writes).1) after addr
              0x14 merged).2 device
      generalize masterCmd later addr octets 0 writes = result at hself hother hok ⊢
      dsimp only at hself
      unfold SensorHmi.mcp23017Write16
      by_cases hdone : errOf result.1 = .ok
      · rw [if_pos (hok.mp hdone)] at hself
        rw [if_pos hdone]
        refine ⟨hdone, fun device hdevice => ?_⟩
        dsimp only
        by_cases hsame : device = addr
        · subst hsame
          rw [Function.update_self]
          exact hself
        · rw [Function.update_of_ne hsame]
          exact hother device hdevice hsame
      · rw [if_neg fun h => hdone (hok.mpr h)] at hself
        rw [if_neg hdone]
        refine ⟨rfl, fun device hdevice => ?_⟩
        by_cases hsame : device = addr
        · subst hsame
          exact hself
        · exact hother device hdevice hsame

end Transfers

/-- A masked write to the latches of an expander, with what the bus does in its read and in its
write. -/
structure MaskedWrite where
  device : Fin 2
  mask : UInt16
  value : UInt16
  external : UInt8 × UInt8
  reads : Vector Attempt 3
  writes : Vector Attempt 3

/-- One masked write, which returns its result. -/
def maskedStep (wire : Bus × I2cBus) (event : MaskedWrite) : (Bus × I2cBus) × List EspErr :=
  let (err, bus, chips) := mcp23017WriteGpio wire.1 wire.2 event.external
    mcp23017Addresses[event.device] event.mask event.value event.reads event.writes
  ((bus, chips), [err])

/-- The masked write asks for this level of the pin. -/
def MaskedWrite.Asks (event : MaskedWrite) (pin : Pin) (level : Bool) : Prop :=
  event.device = pin.1 ∧ event.mask.toBitVec.getLsbD pin.2 = true ∧
    event.value.toBitVec.getLsbD pin.2 = level

section Masked

variable {wire : Bus × I2cBus} {event : MaskedWrite} {events : List MaskedWrite} {pin : Pin}

/-- What a masked write makes of the latches: it fails to read them, or writes the merged word. -/
theorem maskedStep_cases (wire : Bus × I2cBus) (event : MaskedWrite) :
    let addr := mcp23017Addresses[event.device]
    let result := maskedStep wire event
    (result.1.2 = wire.2 ∧ result.2 ≠ [.ok]) ∨
      ∃ bus, let merged := ((wire.2 addr).latches &&& ~~~event.mask) |||
        (event.value &&& event.mask)
        let written := mcp23017Write16 bus wire.2 addr 0x14 merged event.writes
        result = ((written.2.1, written.2.2), [written.1]) := by
  intro addr result
  have hchips := @read16_chips wire.1 wire.2 event.external addr 0x14 event.reads
  have hvalue := @read16_value wire.1 wire.2 event.external addr 0x14 event.reads
  have herror := @read16_error wire.1 wire.2 event.external addr 0x14 event.reads
  generalize hread : mcp23017Read16 wire.1 wire.2 event.external addr 0x14 event.reads = read
    at hchips hvalue herror
  obtain ⟨outcome, bus, chips⟩ := read
  obtain rfl : chips = wire.2 := hchips
  have hresult : result = maskedStep wire event := rfl
  unfold maskedStep mcp23017WriteGpio at hresult
  rw [hread] at hresult
  cases outcome with
  | error err =>
      refine Or.inl ⟨by rw [hresult], fun hok => ?_⟩
      rw [hresult] at hok
      exact herror rfl (List.singleton_inj.mp hok)
  | ok current =>
      refine Or.inr ⟨bus, ?_⟩
      rw [hresult, show current = (wire.2 addr).latches from hvalue rfl]

/-- One masked write: a pin keeps its level or takes the one that is asked for it, and takes it if
the write succeeds. -/
theorem maskedStep_level (wire : Bus × I2cBus) (event : MaskedWrite) (pin : Pin) :
    let result := maskedStep wire event
    (latchLevels result.1.2 pin = latchLevels wire.2 pin ∨
        event.Asks pin (latchLevels result.1.2 pin)) ∧
      ∀ level, result.2 = [.ok] → event.Asks pin level → latchLevels result.1.2 pin = level := by
  intro result
  have haddr : ∀ i j : Fin 2,
      mcp23017Addresses[i] <<< 1 = mcp23017Addresses[j] <<< 1 ↔ i = j := by decide
  rcases maskedStep_cases wire event with ⟨hchips, herr⟩ | ⟨bus, hwritten⟩
  · have hsame : latchLevels result.1.2 = latchLevels wire.2 := congrArg latchLevels hchips
    exact ⟨Or.inl (congrFun hsame pin), fun level hok => absurd hok herr⟩
  -- the merged word, bit by bit
  have hmerged := getLsbD_merge (wire.2 mcp23017Addresses[event.device]).latches.toBitVec
    event.mask.toBitVec event.value.toBitVec pin.2.isLt
  have hlatches := write16_latches bus wire.2 mcp23017Addresses[event.device]
    (((wire.2 mcp23017Addresses[event.device]).latches &&& ~~~event.mask) |||
      (event.value &&& event.mask)) event.writes mcp23017Addresses[pin.1]
  rw [show result = _ from hwritten]
  simp only [haddr] at hlatches
  split_ifs at hlatches with hdevice
  case neg =>
    refine ⟨Or.inl ?_, fun level _ hasks => absurd hasks.1 hdevice⟩
    show (_ : Mcp23017).latches.toBitVec.getLsbD pin.2 = _
    rw [hlatches]
    rfl
  have hchip : mcp23017Addresses[event.device] = mcp23017Addresses[pin.1] :=
    congrArg (fun i : Fin 2 => mcp23017Addresses[i]) hdevice
  rw [hchip] at hlatches hmerged ⊢
  set merged := ((wire.2 mcp23017Addresses[pin.1]).latches &&& ~~~event.mask) |||
    (event.value &&& event.mask) with hmerged_def
  have hword : (word (merged &&& 0xFF).toUInt8 (merged >>> 8).toUInt8).toBitVec.getLsbD pin.2 =
      if event.mask.toBitVec.getLsbD pin.2 then event.value.toBitVec.getLsbD pin.2
      else latchLevels wire.2 pin := by
    rw [word_octets]
    exact hmerged
  generalize mcp23017Write16 bus wire.2 mcp23017Addresses[pin.1] 0x14 merged event.writes =
    written at hlatches ⊢
  obtain ⟨err, later, chips⟩ := written
  dsimp only at hlatches ⊢
  obtain ⟨htorn, hdone⟩ := hlatches
  constructor
  · rcases torn_level htorn pin.2.isLt with hold | hnew
    · exact Or.inl hold
    · rw [hword] at hnew
      by_cases hmask : event.mask.toBitVec.getLsbD pin.2 = true
      · rw [if_pos hmask] at hnew
        exact Or.inr ⟨hdevice, hmask, hnew.symm⟩
      · rw [if_neg hmask] at hnew
        exact Or.inl hnew
  · intro level hok hasks
    rw [if_pos hasks.2.1, hasks.2.2] at hword
    rw [← hword]
    show (chips mcp23017Addresses[pin.1]).latches.toBitVec.getLsbD pin.2 = _
    rw [hdone (List.singleton_inj.mp hok)]
    rfl

/-- Over a run a pin keeps its level or has one that was asked for it. -/
theorem maskedRun_level (wire : Bus × I2cBus) (events : List MaskedWrite) (pin : Pin) :
    latchLevels (Machine.run maskedStep wire events).1.2 pin = latchLevels wire.2 pin ∨
      ∃ event ∈ events, event.Asks pin (latchLevels (Machine.run maskedStep wire events).1.2
        pin) := by
  induction events generalizing wire with
  | nil => exact Or.inl rfl
  | cons event rest ih =>
      rw [Machine.run_cons]
      rcases ih (maskedStep wire event).1 with hsame | ⟨later, hlater, hasks⟩
      · rcases (maskedStep_level wire event pin).1 with hkept | hasks
        · exact Or.inl (hsame.trans hkept)
        · refine Or.inr ⟨event, List.mem_cons_self, ?_⟩
          rw [hsame]
          exact hasks
      · exact Or.inr ⟨later, List.mem_cons_of_mem _ hlater, hasks⟩

/-- Masked writes whose transactions fail in any way, having brought the expander any part of their
octets: in the end each pin has the level it had or one that a write of the run asked for. If a
write succeeded that asked for a level of the pin, it has that level or one that a later write asked
for. -/
theorem pins_survive_failures (wire : Bus × I2cBus) (events : List MaskedWrite) (pin : Pin) :
    let level := latchLevels (Machine.run maskedStep wire events).1.2 pin
    (level = latchLevels wire.2 pin ∨ ∃ event ∈ events, event.Asks pin level) ∧
      ∀ before event after asked, events = before ++ event :: after →
        (maskedStep (Machine.run maskedStep wire before).1 event).2 = [.ok] →
        event.Asks pin asked → level = asked ∨ ∃ later ∈ after, later.Asks pin level := by
  intro level
  refine ⟨maskedRun_level wire events pin, ?_⟩
  intro before event after asked hsplit hok hasks
  have hstep := (maskedStep_level (Machine.run maskedStep wire before).1 event pin).2 asked
    hok hasks
  have hrest := maskedRun_level (maskedStep (Machine.run maskedStep wire before).1 event).1
    after pin
  have hrun : (Machine.run maskedStep wire events).1 =
      (Machine.run maskedStep
        (maskedStep (Machine.run maskedStep wire before).1 event).1 after).1 := by
    rw [hsplit, Machine.run_append, Machine.run_cons]
  rw [← hrun, hstep] at hrest
  exact hrest

end Masked

section Others

variable {bus : Bus} {addr payload : UInt8}

/-- Where failed transactions bring nothing, a write to the PWM controller is one whole transfer. -/
theorem pca9685Write_refines {data : Bytes} (hdata : data ≠ []) {attempts : Vector Attempt 3}
    (hclean : ∀ attempt ∈ attempts.toList, attempt.taken = 0) (chip : Pca9685) :
    let result := busWrite bus addr data attempts
    deviceAfter Pca9685.write addr chip result.2.2 =
      if errOf result.1 = .ok then chip.write data else chip := by
  intro result
  have hok := @errOf_masterCmd addr data 0 bus attempts
  simp only [show result = masterCmd bus addr data 0 attempts from rfl, hok]
  exact @deviceAfter_transfer addr data 0 bus _ Pca9685.write (fun _ => rfl) hdata attempts hclean
    chip

/-- The control register of the multiplexer: the octet written last. -/
def muxWrite (register : UInt8) (data : Bytes) : UInt8 :=
  data.getLast?.getD register

/-- An attempt, as the driver of the multiplexer tells attempts apart. -/
def Attempt.toWrite (addr payload : UInt8) (attempt : Attempt) : I2cAttempt :=
  let filled := fillLink attempt.appends 0 (masterLink addr [payload] 0)
  if attempt.created then
    if filled = .ok then .transaction attempt.begun (decide (0 < attempt.taken))
    else .transaction filled false
  else .noLink

theorem deviceAfter_append {δ : Type} {write : δ → Bytes → δ} (device : δ)
    (first second : List Call) :
    deviceAfter write addr device (first ++ second) =
      deviceAfter write addr (deviceAfter write addr device first) second := by
  rw [deviceAfter, List.filterMap_append, List.foldl_append]
  rfl

/-- One round of the loop, as the driver of the multiplexer tells rounds apart. -/
theorem muxAttempt (k : Nat) (bus : Bus) (attempt : Attempt) (register : UInt8) :
    let round := masterAttempt addr [payload] 0 k bus attempt
    let after := deviceAfter muxWrite addr register round.2.2
    (attempt.toWrite addr payload = .noLink ∧ round.1 = .abort .noMem ∧ after = register) ∨
      ∃ err took, attempt.toWrite addr payload = .transaction err took ∧
        (err = .ok ∧ round.1 = .done [] ∧ after = payload ∨
          err ≠ .ok ∧ round.1 = .again err ∧ after = if took then payload else register) := by
  intro round after
  have hround : after = deviceAfter muxWrite addr register round.2.2 := rfl
  have hwritten := @busCmdBegin_written addr addr [payload] 0 bus attempt (by simp)
  rw [if_pos rfl] at hwritten
  have hcalls (calls pause : List Call) (hpause : pause.filterMap (Call.written addr) = []) :
      deviceAfter muxWrite addr register (.linkCreate true :: calls ++ pause) =
        deviceAfter muxWrite addr register calls := by
    rw [deviceAfter, List.filterMap_append, hpause, List.append_nil]
    rfl
  -- a payload of one octet is taken as a whole or not at all
  rcases masterAttempt_cases addr [payload] 0 k bus attempt with
    ⟨hcreated, h⟩ | ⟨hcreated, hfilled, h⟩ | ⟨hcreated, hfilled, hbegun, h⟩ |
    ⟨hcreated, hfilled, hbegun, h⟩
  · refine Or.inl ⟨if_neg (by rw [hcreated]; exact Bool.false_ne_true), ?_, ?_⟩
    · rw [show round = _ from h]
    · rw [hround, show round = _ from h]
      rfl
  · refine Or.inr ⟨_, false, (if_pos hcreated).trans (if_neg hfilled), Or.inr ⟨hfilled, ?_, ?_⟩⟩
    · rw [show round = _ from h]
    · rw [hround, show round = _ from h]
      rfl
  · refine Or.inr ⟨_, _, (if_pos hcreated).trans (if_pos hfilled), Or.inl ⟨hbegun, ?_, ?_⟩⟩
    · rw [show round = _ from h]
      rfl
    · rw [if_pos hbegun] at hwritten
      rw [busCmdBegin, if_pos hbegun] at hwritten
      rw [hround, show round = _ from h]
      refine (hcalls [_] [_] rfl).trans ?_
      rw [deviceAfter, hwritten]
      rfl
  · refine Or.inr ⟨_, _, (if_pos hcreated).trans (if_pos hfilled), Or.inr ⟨hbegun, ?_, ?_⟩⟩
    · rw [show round = _ from h]
    · rw [if_neg hbegun] at hwritten
      rw [hround, show round = _ from h]
      refine (hcalls _ [_, _] rfl).trans ?_
      rw [deviceAfter, hwritten]
      cases htaken : attempt.taken with
      | zero => rfl
      | succ n =>
          have hone : min (n + 1) [payload].length = 1 := by simp
          rw [hone]
          rfl

/-- The loop of a write to the multiplexer, with the octet taken before or not. -/
theorem muxLoop (inputs : List Attempt) (k : Nat) (err : EspErr) (bus : Bus) (taken : Bool)
    (register : UInt8) :
    let loop := Retry.loop (masterAttempt addr [payload] 0) k err bus inputs
    let write := i2cAttempts err taken (inputs.map (Attempt.toWrite addr payload))
    errOf loop.1 = write.1 ∧
      deviceAfter muxWrite addr (if taken then payload else register) loop.2.2 =
        if write.2 then payload else register := by
  -- the register holds the payload from the first attempt on that was taken
  induction inputs generalizing k err bus taken with
  | nil => exact ⟨rfl, rfl⟩
  | cons attempt rest ih =>
      have hround := @muxAttempt addr payload k bus attempt (if taken then payload else register)
      generalize hfirst : masterAttempt addr [payload] 0 k bus attempt = round at hround
      obtain ⟨outcome, later, calls⟩ := round
      dsimp only at hround ⊢
      rw [List.map_cons]
      rcases hround with ⟨hwrite, houtcome, hafter⟩ | ⟨err', took, hwrite, hboth⟩
      · subst houtcome
        rw [Retry.loop_abort hfirst, hwrite]
        exact ⟨rfl, hafter⟩
      rcases hboth with ⟨hok, houtcome, hafter⟩ | ⟨herr, houtcome, hafter⟩
      · subst houtcome
        rw [Retry.loop_done hfirst, hwrite, i2cAttempts, if_pos hok]
        exact ⟨rfl, hafter⟩
      · subst houtcome
        rw [Retry.loop_again hfirst, hwrite, i2cAttempts, if_neg herr]
        obtain ⟨hresult, hdevice⟩ := ih (k + 1) err' later (taken || took)
        refine ⟨hresult, ?_⟩
        dsimp only
        rw [deviceAfter_append, hafter, ← hdevice]
        cases taken <;> cases took <;> rfl

/-- A write to the multiplexer returns what it does there, and its register has taken the octet
exactly if it has there. -/
theorem muxWrite_refines (register : UInt8) (attempts : Vector Attempt 3) :
    let result := busWrite bus addr [payload] attempts
    let write := i2cMasterCmd ⟨bus.initialized, attempts.map (Attempt.toWrite addr payload)⟩
    errOf result.1 = write.1 ∧
      deviceAfter muxWrite addr register result.2.2 = if write.2 then payload else register := by
  intro result write
  have hloop := @muxLoop addr payload attempts.toList 0 .fail bus false register
  have hlist : (attempts.map (Attempt.toWrite addr payload)).toList =
      attempts.toList.map (Attempt.toWrite addr payload) := Vector.toList_map
  by_cases hready : bus.initialized = true
  · have hresult : result = masterCmd bus addr [payload] 0 attempts := rfl
    rw [masterCmd, if_pos hready] at hresult
    have hwrite : write = i2cMasterCmd _ := rfl
    rw [i2cMasterCmd, if_pos hready, hlist] at hwrite
    rw [hresult, hwrite]
    refine ⟨hloop.1, ?_⟩
    rw [← hloop.2]
    simp only [deviceAfter, List.filterMap_append]
    show List.foldl muxWrite register (_ ++ []) = _
    rw [List.append_nil]
    rfl
  · have hresult : result = masterCmd bus addr [payload] 0 attempts := rfl
    rw [masterCmd, if_neg hready] at hresult
    have hwrite : write = i2cMasterCmd _ := rfl
    rw [i2cMasterCmd, if_neg hready] at hwrite
    rw [hresult, hwrite]
    exact ⟨rfl, rfl⟩

end Others

end I2c

end SensorHmi
