import SensorHmi.Lib.Trace
import SensorHmi.Sensor.SensorsTask

/-!
# The I2C multiplexer

`sensor_node/main/drivers/tca9548a.c` over the write path of `i2c_master_cmd`. A select of the
channel of the last successful write is answered without a write. The driver keeps that channel
through failed writes, which the multiplexer may have taken, so that such an answer is true of the
hardware exactly when none was taken since: `select_true_iff`.
-/

namespace SensorHmi

/-- One attempt of `i2c_master_cmd`: there is no command link, or what the transaction returns and,
where it fails, whether the device took the octets. -/
inductive I2cAttempt
  | noLink
  | transaction (err : EspErr) (taken : Bool)
  deriving DecidableEq

/-- What the bus does during a call of `i2c_bus_write`. -/
structure I2cWrite where
  initialized : Bool := true
  attempts : Vector I2cAttempt 3

/-- The loop of `i2c_master_cmd` over the attempts left, with the last error and whether the device
took the octets of an attempt so far. -/
def i2cAttempts (err : EspErr) (taken : Bool) : List I2cAttempt → EspErr × Bool
  | [] => (err, taken)
  | .noLink :: _ => (.noMem, taken)
  | .transaction err took :: rest =>
      if err = .ok then (.ok, true) else i2cAttempts err (taken || took) rest

/-- `i2c_master_cmd` for a write: what it returns, and whether the device took the octets. -/
def i2cMasterCmd (bus : I2cWrite) : EspErr × Bool :=
  if bus.initialized then i2cAttempts .fail false bus.attempts.toList else (.invalidState, false)

/-- The statics of `tca9548a.c`, and the register of the multiplexer at the address of the calls. -/
structure Tca9548a where
  lastAddr : UInt8 := 0
  lastChannel : Int := ioMuxChannelNone
  hasState : Bool := false
  register : UInt8
  deriving DecidableEq

/-- How a call was answered: after a write with this result, taken by the multiplexer or not, or
without one. -/
inductive MuxOutput
  | wrote (err : EspErr) (taken : Bool)
  | skipped
  deriving DecidableEq

/-- The octet `tca9548a_select` writes. -/
def muxPayload (channel : Int) : UInt8 :=
  if channel ≠ ioMuxChannelNone then UInt8.ofNat (1 <<< channel.toNat) else 0

/-- `tca9548a_select` -/
def tca9548aSelect (bus : I2cWrite) (mux : Tca9548a) (addr : UInt8) (channel : Int) :
    EspErr × Tca9548a × List MuxOutput :=
  if channel < ioMuxChannelNone ∨ 7 < channel then (.invalidArg, mux, [])
  else if addr < 0x08 ∨ 0x77 < addr then (.invalidArg, mux, [])
  else if channel = mux.lastChannel ∧ addr = mux.lastAddr ∧ mux.hasState then
    (.ok, mux, [.skipped])
  else
    let payload := muxPayload channel
    let (err, taken) := i2cMasterCmd bus
    let mux := if taken then { mux with register := payload } else mux
    if err = .ok then
      (.ok, { mux with lastAddr := addr, lastChannel := channel, hasState := true },
        [.wrote err taken])
    else (err, mux, [.wrote err taken])

/-- A call of `tca9548a_select` on the address. -/
structure SelectCall where
  channel : Int
  bus : I2cWrite

/-- One call. -/
def selectStep (addr : UInt8) (mux : Tca9548a) (call : SelectCall) : Tca9548a × List MuxOutput :=
  (tca9548aSelect call.bus mux addr call.channel).2

/-- The multiplexer passes on this channel alone, or none. -/
def Selects (register : UInt8) (channel : Int) : Prop :=
  register.toNat = if channel = ioMuxChannelNone then 0 else 2 ^ channel.toNat

instance (register : UInt8) (channel : Int) : Decidable (Selects register channel) :=
  inferInstanceAs (Decidable (_ = _))

/-- A write failed and the multiplexer took it, and none succeeded since. -/
def disturbed (history : List MuxOutput) : Bool :=
  history.foldl (fun before output => match output with
    | .wrote err taken => err ≠ .ok && (before || taken)
    | .skipped => before) false

section Select

variable {addr register : UInt8} {channel other : Int} {mux : Tca9548a} {bus : I2cWrite}
  {history : List MuxOutput}

/-- A write that succeeds is taken. -/
theorem taken_of_i2cMasterCmd_ok (h : (i2cMasterCmd bus).1 = .ok) :
    (i2cMasterCmd bus).2 = true := by
  have hloop : ∀ attempts err taken, err ≠ EspErr.ok → (i2cAttempts err taken attempts).1 = .ok →
      (i2cAttempts err taken attempts).2 = true := by
    intro attempts
    induction attempts with
    | nil => exact fun err taken herr hok => absurd hok herr
    | cons attempt rest ih =>
        intro err taken _ hok
        cases attempt with
        | noLink => cases hok
        | transaction err took =>
            rw [i2cAttempts] at hok ⊢
            by_cases herr : err = .ok
            · rw [if_pos herr]
            · rw [if_neg herr] at hok ⊢
              exact ih err _ herr hok
  unfold i2cMasterCmd at h ⊢
  split_ifs at h ⊢
  exact hloop _ _ _ (by decide) h

/-- The octet for a channel passes on the channel. -/
theorem selects_muxPayload_iff (hchannel : -1 ≤ channel ∧ channel ≤ 7) :
    Selects register channel ↔ register = muxPayload channel := by
  have hpayload : (muxPayload channel).toNat =
      if channel = ioMuxChannelNone then 0 else 2 ^ channel.toNat := by
    unfold muxPayload
    by_cases hnone : channel = ioMuxChannelNone
    · rw [if_neg (not_not_intro hnone), if_pos hnone]
      rfl
    · have hlt : 2 ^ channel.toNat < 2 ^ 8 := Nat.pow_lt_pow_right (by decide) (by omega)
      rw [if_pos hnone, if_neg hnone, UInt8.toNat_ofNat', Nat.one_shiftLeft, Nat.mod_eq_of_lt hlt]
  rw [Selects, ← hpayload, UInt8.toNat_inj]

/-- Two channels have two octets. -/
theorem muxPayload_injective (hchannel : -1 ≤ channel ∧ channel ≤ 7)
    (hother : -1 ≤ other ∧ other ≤ 7) (h : muxPayload channel = muxPayload other) :
    channel = other := by
  have hfirst : Selects (muxPayload channel) channel := (selects_muxPayload_iff hchannel).mpr rfl
  have hsecond : Selects (muxPayload channel) other := (selects_muxPayload_iff hother).mpr h
  unfold Selects ioMuxChannelNone at hfirst hsecond
  rw [hfirst] at hsecond
  split_ifs at hsecond with hnone hnone' hnone'
  · omega
  · exact absurd hsecond (Nat.two_pow_pos _).ne
  · exact absurd hsecond (Nat.two_pow_pos _).ne'
  · have hexponents := Nat.pow_right_injective (le_refl 2) hsecond
    omega

@[simp] theorem disturbed_wrote (err : EspErr) (taken : Bool) :
    disturbed (history ++ [.wrote err taken]) = (err ≠ .ok && (disturbed history || taken)) :=
  List.foldl_append

@[simp] theorem disturbed_skipped : disturbed (history ++ [.skipped]) = disturbed history :=
  List.foldl_append

/-- The driver remembers a channel of this multiplexer, and the register is still that of the
channel unless it was disturbed. -/
structure Remembers (addr : UInt8) (mux : Tca9548a) (history : List MuxOutput) : Prop where
  addr : mux.hasState = true → mux.lastAddr = addr
  channel : mux.hasState = true → -1 ≤ mux.lastChannel ∧ mux.lastChannel ≤ 7
  register : mux.hasState = true →
    (mux.register = muxPayload mux.lastChannel ↔ disturbed history = false)

/-- Calls that are refused, answered from the statics, or written. -/
theorem tca9548aSelect_cases (bus : I2cWrite) (mux : Tca9548a) (addr : UInt8) (channel : Int) :
    tca9548aSelect bus mux addr channel = (.invalidArg, mux, []) ∨
    (-1 ≤ channel ∧ channel ≤ 7) ∧
      ((channel = mux.lastChannel ∧ addr = mux.lastAddr ∧ mux.hasState = true) ∧
          tca9548aSelect bus mux addr channel = (.ok, mux, [.skipped]) ∨
        ¬ (channel = mux.lastChannel ∧ addr = mux.lastAddr ∧ mux.hasState = true) ∧
          ((∃ after, after = ⟨addr, channel, true, muxPayload channel⟩ ∧
              tca9548aSelect bus mux addr channel = (.ok, after, [.wrote .ok true])) ∨
            ∃ err taken, err ≠ .ok ∧ tca9548aSelect bus mux addr channel =
              (err, if taken then { mux with register := muxPayload channel } else mux,
                [.wrote err taken]))) := by
  unfold tca9548aSelect
  by_cases hrange : channel < ioMuxChannelNone ∨ 7 < channel
  · exact .inl (if_pos hrange)
  rw [if_neg hrange]
  by_cases haddr : addr < 0x08 ∨ 0x77 < addr
  · exact .inl (if_pos haddr)
  rw [if_neg haddr]
  unfold ioMuxChannelNone at hrange
  refine .inr ⟨by omega, ?_⟩
  by_cases hcached : channel = mux.lastChannel ∧ addr = mux.lastAddr ∧ mux.hasState = true
  · exact .inl ⟨hcached, if_pos hcached⟩
  · rw [if_neg hcached]
    refine .inr ⟨hcached, ?_⟩
    have htaken := @taken_of_i2cMasterCmd_ok bus
    rcases hwrite : i2cMasterCmd bus with ⟨err, taken⟩
    rw [hwrite] at htaken
    dsimp only at htaken ⊢
    by_cases hok : err = .ok
    · rw [if_pos hok, htaken hok, hok]
      exact .inl ⟨_, rfl, rfl⟩
    · rw [if_neg hok]
      exact .inr ⟨err, taken, hok, rfl⟩

/-- A call keeps what the driver remembers. -/
theorem Remembers.step (h : Remembers addr mux history) (call : SelectCall) :
    Remembers addr (selectStep addr mux call).1 (history ++ (selectStep addr mux call).2) := by
  unfold selectStep
  rcases tca9548aSelect_cases call.bus mux addr call.channel with
    hrefused | ⟨hchannel, ⟨-, hskipped⟩ |
      ⟨hnew, ⟨after, hafter, hok⟩ | ⟨err, taken, herr, hfailed⟩⟩⟩
  · rw [hrefused, List.append_nil]
    exact h
  · rw [hskipped]
    exact ⟨h.addr, h.channel, fun hstate => by rw [disturbed_skipped]; exact h.register hstate⟩
  · rw [hok, hafter]
    exact ⟨fun _ => rfl, fun _ => hchannel, fun _ => iff_of_true rfl (by simp)⟩
  · rw [hfailed]
    cases taken with
    | false =>
        refine ⟨h.addr, h.channel, fun hstate => ?_⟩
        rw [disturbed_wrote, decide_eq_true herr, Bool.true_and, Bool.or_false]
        exact h.register hstate
    | true =>
        refine ⟨h.addr, h.channel, fun hstate => iff_of_false (fun hsame => ?_) (by simp [herr])⟩
        exact hnew ⟨muxPayload_injective hchannel (h.channel hstate) hsame,
          (h.addr hstate).symm, hstate⟩

/-- A call answered with success is true of the hardware exactly when it is not answered from the
statics on a disturbed register. -/
theorem Remembers.selects_iff (h : Remembers addr mux history) (call : SelectCall) :
    Trace.Guarded (fun history output => output = .skipped → disturbed history = false) history
        (selectStep addr mux call).2 ↔
      ((tca9548aSelect call.bus mux addr call.channel).1 = .ok →
        Selects (selectStep addr mux call).1.register call.channel) := by
  unfold selectStep
  rcases tca9548aSelect_cases call.bus mux addr call.channel with
    hrefused | ⟨hchannel, ⟨⟨hsame, -, hstate⟩, hskipped⟩ |
      ⟨-, ⟨after, hafter, hok⟩ | ⟨err, taken, herr, hfailed⟩⟩⟩
  · rw [hrefused]
    exact iff_of_true trivial fun hok => by cases hok
  · rw [hskipped]
    simp only [Trace.Guarded, forall_const, and_true]
    rw [selects_muxPayload_iff hchannel, hsame]
    exact (h.register hstate).symm
  · rw [hok, hafter]
    refine iff_of_true ⟨fun hskip => (by cases hskip), trivial⟩ fun _ => ?_
    exact (selects_muxPayload_iff hchannel).mpr rfl
  · rw [hfailed]
    exact iff_of_true ⟨fun hskip => (by cases hskip), trivial⟩ fun hok => absurd hok herr

end Select

/-- In every run of calls on a multiplexer, each call that returns success leaves the register at
its channel, if and only if no call is answered without a write after a failed write that the
multiplexer took and before the next successful one. -/
theorem select_true_iff (addr register : UInt8) (calls : List SelectCall) :
    Machine.EachStep (selectStep addr)
        (fun mux call => (tca9548aSelect call.bus mux addr call.channel).1 = .ok →
          Selects (selectStep addr mux call).1.register call.channel)
        { register } calls ↔
      Trace.Guarded (fun history output => output = .skipped → disturbed history = false) []
        (Machine.run (selectStep addr) { register } calls).2 :=
  (Trace.guarded_run_iff (Remembers addr) (fun _ => True)
    (fun _ call _ h _ => h.step call) (fun _ call _ h _ => h.selects_iff call)
    ⟨fun h => (by cases h), fun h => (by cases h), fun h => (by cases h)⟩ fun _ _ => trivial).symm

/-- Every attempt of a write returns this. -/
def allAttempts (err : EspErr) (taken : Bool) : I2cWrite where
  attempts := Vector.replicate 3 (.transaction err taken)

/-- Channel 0 is selected, the write of channel 1 times out after the multiplexer took it, and the
next select of channel 0 succeeds with channel 1 still passed on. -/
theorem select_after_failed_write :
    ¬ Machine.EachStep (selectStep 0x70)
      (fun mux call => (tca9548aSelect call.bus mux 0x70 call.channel).1 = .ok →
        Selects (selectStep 0x70 mux call).1.register call.channel)
      { register := 0 }
      [⟨0, allAttempts .ok true⟩, ⟨1, allAttempts .timeout true⟩, ⟨0, allAttempts .ok true⟩] := by
  rintro ⟨-, -, hthird, -⟩
  exact absurd (hthird rfl) (by decide)

end SensorHmi
