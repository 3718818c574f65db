import SensorHmi.Lib.Machine
import SensorHmi.Lib.Retry
import SensorHmi.Sensor.Tca9548a

/-!
# The I2C bus

`sensor_node/main/i2c_bus.c`. A transfer is attempted three times at most, each time in a command
link of its own, and after repeated failures the driver is installed anew. The functions below
return what they call of the platform; what a device on the bus sees of a run are the links begun
on the way.

`transfer_spec` says what one transfer does. Over a whole run the counter of failures is the number
of failed transactions since the last one that succeeded or the last installation, modulo 256, and
decides on the next installation: `driver_deleted_iff`.
-/

namespace SensorHmi.I2c

open Octets

/-- An entry of a command link. A written octet has to be acknowledged; `read` acknowledges what it
reads and `readByte` does not. -/
inductive LinkOp
  | start
  | writeByte (octet : UInt8)
  | write (data : Bytes)
  | read (len : Nat)
  | readByte
  | stop
  deriving DecidableEq

/-- The calls of `i2c_bus.c`. A transaction carries the link, what it returned, and how many octets
of the data the device took. -/
inductive Call
  | lock
  | unlock
  | linkCreate (created : Bool)
  | linkDelete
  | cmdBegin (link : List LinkOp) (err : EspErr) (taken : Nat)
  | driverDelete
  | forceIdle
  | applyConfig (err : EspErr)
  | delay (ms : UInt32)
  deriving DecidableEq

/-- What the platform answers in one attempt. `appends` are the results of the calls that fill the
link, `received` are the octets the device sends, and `taken` is how many octets of a failed
transaction got through to the device. -/
structure Attempt where
  created : Bool := true
  appends : Nat → EspErr := fun _ => .ok
  begun : EspErr := .ok
  taken : Nat := 0
  received : Nat → UInt8 := fun _ => 0xFF
  paramConfig : EspErr := .ok
  driverInstall : EspErr := .ok

/-- The statics of `i2c_bus.c`. The mutex exists from the initialisation on. -/
structure Bus where
  initialized : Bool := false
  consecutiveFailures : UInt8 := 0
  deriving DecidableEq

/-- `i2c_bus_apply_config` -/
def busApplyConfig (attempt : Attempt) : EspErr :=
  if attempt.paramConfig = .ok then attempt.driverInstall else attempt.paramConfig

/-- `i2c_bus_recover_locked` -/
def busRecoverLocked (attempt : Attempt) : EspErr × List Call :=
  (busApplyConfig attempt, [.driverDelete, .forceIdle, .applyConfig (busApplyConfig attempt)])

/-- `i2c_bus_cmd_begin`; a successful transaction passes on all `size` octets of its data. -/
def busCmdBegin (bus : Bus) (attempt : Attempt) (link : List LinkOp) (size : Nat) :
    EspErr × Bus × List Call :=
  if attempt.begun = .ok then
    (.ok, { bus with consecutiveFailures := 0 }, [.cmdBegin link .ok size])
  else
    let bus := { bus with consecutiveFailures := bus.consecutiveFailures + 1 }
    let call : Call := .cmdBegin link attempt.begun (min attempt.taken size)
    if 3 ≤ bus.consecutiveFailures then
      let (recovered, calls) := busRecoverLocked attempt
      let bus := if recovered = .ok then { bus with consecutiveFailures := 0 } else bus
      (attempt.begun, bus, call :: calls)
    else (attempt.begun, bus, [call])

/-- The entries of the link `i2c_master_cmd` makes. -/
def masterLink (addr : UInt8) (wrData : Bytes) (rdLen : Nat) : List LinkOp :=
  [.start] ++
    (if wrData ≠ [] then [.writeByte ((addr <<< 1) ||| 0), .write wrData] else []) ++
    (if 0 < rdLen then
      (if wrData ≠ [] then [.start] else []) ++ [.writeByte ((addr <<< 1) ||| 1)] ++
        (if 1 < rdLen then [.read (rdLen - 1)] else []) ++ [.readByte]
    else []) ++
    [.stop]

/-- The calls that fill a link, until one fails. -/
def fillLink (appends : Nat → EspErr) : (k : Nat) → List LinkOp → EspErr
  | _, [] => .ok
  | k, _ :: rest => if appends k = .ok then fillLink appends (k + 1) rest else appends k

/-- One round of the loop of `i2c_master_cmd`. -/
def masterAttempt (addr : UInt8) (wrData : Bytes) (rdLen : Nat) (k : Nat) (bus : Bus)
    (attempt : Attempt) : Retry.Outcome EspErr Bytes × Bus × List Call :=
  if attempt.created then
    let link := masterLink addr wrData rdLen
    let filled := fillLink attempt.appends 0 link
    let (err, bus, calls) :=
      if filled = .ok then busCmdBegin bus attempt link wrData.length else (filled, bus, [])
    let calls := .linkCreate true :: calls ++ [.linkDelete]
    if err = .ok then (.done ((List.range rdLen).map attempt.received), bus, calls)
    else (.again err, bus, calls ++ [.delay (5 <<< UInt32.ofNat k)])
  else (.abort .noMem, bus, [.linkCreate false])

/-- `i2c_master_cmd`; the data read is the result. -/
def masterCmd (bus : Bus) (addr : UInt8) (wrData : Bytes) (rdLen : Nat)
    (attempts : Vector Attempt 3) : Except EspErr Bytes × Bus × List Call :=
  if bus.initialized then
    let (result, bus, calls) :=
      Retry.loop (masterAttempt addr wrData rdLen) 0 .fail bus attempts.toList
    (result, bus, .lock :: calls ++ [.unlock])
  else (.error .invalidState, bus, [])

/-- What a transfer returns to a driver. -/
def errOf : Except EspErr Bytes → EspErr
  | .ok _ => .ok
  | .error err => err

/-- `i2c_bus_read` -/
def busRead (bus : Bus) (addr : UInt8) (len : Nat) (attempts : Vector Attempt 3) :
    Except EspErr Bytes × Bus × List Call :=
  masterCmd bus addr [] len attempts

/-- `i2c_bus_write` -/
def busWrite (bus : Bus) (addr : UInt8) (data : Bytes) (attempts : Vector Attempt 3) :
    Except EspErr Bytes × Bus × List Call :=
  masterCmd bus addr data 0 attempts

/-- `i2c_bus_write_read` -/
def busWriteRead (bus : Bus) (addr : UInt8) (wrData : Bytes) (rdLen : Nat)
    (attempts : Vector Attempt 3) : Except EspErr Bytes × Bus × List Call :=
  masterCmd bus addr wrData rdLen attempts

/-- `i2c_bus_probe` for an address of the scan; the result tells whether a device is present. -/
def busProbe (bus : Bus) (addr : UInt8) (attempt : Attempt) : EspErr × Bus × List Call :=
  if addr < 0x08 ∨ 0x77 < addr then (.invalidArg, bus, [])
  else if attempt.created then
    let link : List LinkOp := [.start, .writeByte ((addr <<< 1) ||| 0), .stop]
    let filled := fillLink attempt.appends 0 link
    let (err, bus, calls) :=
      if filled = .ok then busCmdBegin bus attempt link 0 else (filled, bus, [])
    (err, bus, [.lock, .linkCreate true] ++ calls ++ [.linkDelete, .unlock])
  else (.noMem, bus, [.lock, .linkCreate false, .unlock])

section Attempt

variable {addr : UInt8} {wrData : Bytes} {rdLen k : Nat} {bus : Bus} {attempt : Attempt}

/-- What one round of the loop comes to; the bus has no say in it. -/
def attemptOutcome (addr : UInt8) (wrData : Bytes) (rdLen : Nat) (attempt : Attempt) :
    Retry.Outcome EspErr Bytes :=
  if attempt.created then
    let filled := fillLink attempt.appends 0 (masterLink addr wrData rdLen)
    if filled ≠ .ok then .again filled
    else if attempt.begun ≠ .ok then .again attempt.begun
    else .done ((List.range rdLen).map attempt.received)
  else .abort .noMem

/-- A failed transaction counts, and installs the driver anew from the third one on. -/
theorem busCmdBegin_failed (link : List LinkOp) (size : Nat) (h : attempt.begun ≠ .ok) :
    let call : Call := .cmdBegin link attempt.begun (min attempt.taken size)
    let failures := bus.consecutiveFailures + 1
    busCmdBegin bus attempt link size =
      if 3 ≤ failures then
        (attempt.begun,
          { bus with consecutiveFailures :=
              if busApplyConfig attempt = .ok then 0 else failures },
          [call, .driverDelete, .forceIdle, .applyConfig (busApplyConfig attempt)])
      else (attempt.begun, { bus with consecutiveFailures := failures }, [call]) := by
  have hrecovered : (busRecoverLocked attempt).1 = busApplyConfig attempt := rfl
  simp only [busCmdBegin, if_neg h]
  by_cases hthree : 3 ≤ bus.consecutiveFailures + 1
  · rw [if_pos hthree, if_pos hthree]
    by_cases hconfig : busApplyConfig attempt = .ok
    · rw [if_pos hconfig, if_pos (hrecovered.trans hconfig)]
      rfl
    · rw [if_neg hconfig, if_neg (hrecovered ▸ hconfig)]
      rfl
  · rw [if_neg hthree, if_neg hthree]

/-- A round that gets no link, one whose link is not filled, one whose transaction succeeds, and one
whose transaction fails. -/
theorem masterAttempt_cases (addr : UInt8) (wrData : Bytes) (rdLen k : Nat) (bus : Bus)
    (attempt : Attempt) :
    let link := masterLink addr wrData rdLen
    let filled := fillLink attempt.appends 0 link
    let failed := busCmdBegin bus attempt link wrData.length
    let result := masterAttempt addr wrData rdLen k bus attempt
    let pause : Call := .delay (5 <<< UInt32.ofNat k)
    (attempt.created = false ∧ result = (.abort .noMem, bus, [.linkCreate false])) ∨
      (attempt.created = true ∧ filled ≠ .ok ∧
        result = (.again filled, bus, [.linkCreate true, .linkDelete, pause])) ∨
      (attempt.created = true ∧ filled = .ok ∧ attempt.begun = .ok ∧
        result = (.done ((List.range rdLen).map attempt.received),
          { bus with consecutiveFailures := 0 },
          [.linkCreate true, .cmdBegin link .ok wrData.length, .linkDelete])) ∨
      (attempt.created = true ∧ filled = .ok ∧ attempt.begun ≠ .ok ∧
        result = (.again attempt.begun, failed.2.1,
          .linkCreate true :: failed.2.2 ++ [.linkDelete, pause])) := by
  intro link filled failed result pause
  by_cases hcreated : attempt.created = true
  case neg =>
    refine Or.inl ⟨by simpa using hcreated, ?_⟩
    simp only [result, masterAttempt, if_neg hcreated]
  refine Or.inr ?_
  by_cases hfilled : filled = .ok
  case neg =>
    refine Or.inl ⟨hcreated, hfilled, ?_⟩
    simp only [result, masterAttempt, if_pos hcreated]
    rw [if_neg hfilled]
    dsimp only
    rw [if_neg hfilled]
    rfl
  refine Or.inr ?_
  by_cases hbegun : attempt.begun = .ok
  · refine Or.inl ⟨hcreated, hfilled, hbegun, ?_⟩
    simp only [result, masterAttempt, if_pos hcreated]
    rw [if_pos hfilled, busCmdBegin, if_pos hbegun]
    rfl
  · refine Or.inr ⟨hcreated, hfilled, hbegun, ?_⟩
    have herr : failed.1 = attempt.begun := by
      simp only [failed, busCmdBegin_failed _ _ hbegun]
      split_ifs <;> rfl
    simp only [result, masterAttempt, if_pos hcreated]
    rw [if_pos hfilled]
    show (if failed.1 = EspErr.ok then _ else _) = _
    rw [herr, if_neg hbegun]
    simp only [List.cons_append, List.append_assoc, List.nil_append]
    rfl

theorem masterAttempt_outcome :
    (masterAttempt addr wrData rdLen k bus attempt).1 = attemptOutcome addr wrData rdLen
      attempt := by
  rcases masterAttempt_cases addr wrData rdLen k bus attempt with
    ⟨hcreated, h⟩ | ⟨hcreated, hfilled, h⟩ | ⟨hcreated, hfilled, hbegun, h⟩ |
    ⟨hcreated, hfilled, hbegun, h⟩
  · rw [h, attemptOutcome, if_neg (by rw [hcreated]; exact Bool.false_ne_true)]
  · rw [h, attemptOutcome, if_pos hcreated]
    dsimp only
    rw [if_pos hfilled]
  · rw [h, attemptOutcome, if_pos hcreated]
    dsimp only
    rw [if_neg (not_not.mpr hfilled), if_neg (not_not.mpr hbegun)]
  · rw [h, attemptOutcome, if_pos hcreated]
    dsimp only
    rw [if_neg (not_not.mpr hfilled), if_pos hbegun]

end Attempt

/-- A call of the functions of `i2c_bus.c`, each under the mutex. -/
inductive Event
  | transfer (addr : UInt8) (wrData : Bytes) (rdLen : Nat) (attempts : Vector Attempt 3)
  | probe (addr : UInt8) (attempt : Attempt)

def busStep (bus : Bus) : Event → Bus × List Call
  | .transfer addr wrData rdLen attempts => (masterCmd bus addr wrData rdLen attempts).2
  | .probe addr attempt => (busProbe bus addr attempt).2

/-- The link an event begins. -/
def Event.link : Event → List LinkOp
  | .transfer addr wrData rdLen _ => masterLink addr wrData rdLen
  | .probe addr _ => [.start, .writeByte ((addr <<< 1) ||| 0), .stop]

/-- The failed transactions in a row, after a call. -/
def Call.streak (n : Nat) : Call → Nat
  | .cmdBegin _ err _ => if err = .ok then 0 else n + 1
  | .applyConfig err => if err = .ok then 0 else n
  | _ => n

/-- The failed transactions since the last one that succeeded or the last installation of the
driver, with `n` of them before the calls. -/
def streak (n : Nat) (calls : List Call) : Nat :=
  calls.foldl Call.streak n

/-- The call is a failed transaction that makes the count at least three, modulo 256. -/
def Call.Persists (n : Nat) (call : Call) : Prop :=
  ∃ link err taken, call = .cmdBegin link err taken ∧ err ≠ .ok ∧ 3 ≤ (n + 1) % 256

/-- The driver is deleted after these calls of the list and no others. -/
def Recovers : Nat → List Call → Prop
  | _, [] => True
  | n, call :: rest =>
      (rest.head? = some .driverDelete ↔ call.Persists n) ∧ Recovers (call.streak n) rest

section Recovery

variable {addr : UInt8} {wrData : Bytes} {rdLen k n : Nat} {bus : Bus} {attempt : Attempt}
  {first second : List Call}

theorem streak_append : streak n (first ++ second) = streak (streak n first) second :=
  List.foldl_append

theorem recovers_append (hsecond : second.head? ≠ some .driverDelete) :
    Recovers n (first ++ second) ↔ Recovers n first ∧ Recovers (streak n first) second := by
  induction first generalizing n with
  | nil => exact (and_iff_right trivial).symm
  | cons call rest ih =>
      have hhead : (rest ++ second).head? = some .driverDelete ↔
          rest.head? = some .driverDelete := by
        cases rest with
        | nil => exact iff_of_false hsecond (by simp)
        | cons next rest => rfl
      show ((rest ++ second).head? = _ ↔ _) ∧ Recovers _ (rest ++ second) ↔
        ((rest.head? = _ ↔ _) ∧ Recovers _ rest) ∧ Recovers (streak (call.streak n) rest) second
      rw [ih, hhead, and_assoc]

/-- Where the driver is deleted in a list of calls. -/
theorem Recovers.split {calls before after : List Call} {call : Call} (h : Recovers n calls)
    (hsplit : calls = before ++ call :: after) :
    after.head? = some .driverDelete ↔ call.Persists (streak n before) := by
  induction before generalizing n calls with
  | nil =>
      subst hsplit
      exact h.1
  | cons head tail ih =>
      subst hsplit
      exact ih h.2 rfl

theorem Call.not_persists {call : Call} (h : ∀ link err taken, call ≠ .cmdBegin link err taken) :
    ¬ call.Persists n := by
  intro hpersists
  obtain ⟨link, err, taken, hcall, -⟩ := hpersists
  exact h link err taken hcall

/-- The counter of failures follows the calls, and the calls recover as it says. -/
structure Counts (n : Nat) (bus next : Bus) (shown : List Call) : Prop where
  initialized : next.initialized = bus.initialized
  counter : next.consecutiveFailures.toNat = streak n shown % 256
  recovers : Recovers n shown
  head : shown.head? ≠ some .driverDelete

/-- Calls one after the other. -/
theorem Counts.append {middle next : Bus} (hfirst : Counts n bus middle first)
    (hsecond : Counts (streak n first) middle next second) :
    Counts n bus next (first ++ second) where
  initialized := hsecond.initialized.trans hfirst.initialized
  counter := by
    rw [streak_append]
    exact hsecond.counter
  recovers := (recovers_append hsecond.head).mpr ⟨hfirst.recovers, hsecond.recovers⟩
  head := by
    cases first with
    | nil => exact hsecond.head
    | cons call rest => exact hfirst.head

/-- A call that has nothing to do with the driver. -/
def Call.Quiet : Call → Prop
  | .cmdBegin _ _ _ | .driverDelete | .applyConfig _ => False
  | _ => True

theorem counts_nil (hcounter : bus.consecutiveFailures.toNat = n % 256) : Counts n bus bus [] :=
  ⟨rfl, hcounter, trivial, by simp⟩

theorem counts_quiet {call : Call} (h : call.Quiet)
    (hcounter : bus.consecutiveFailures.toNat = n % 256) : Counts n bus bus [call] where
  initialized := rfl
  counter := by
    have hstreak : call.streak n = n := by cases call <;> first | rfl | exact h.elim
    rw [hcounter]
    exact congrArg (· % 256) hstreak.symm
  recovers := by
    refine ⟨iff_of_false (by simp) (Call.not_persists fun link err taken hcall => ?_), trivial⟩
    rw [hcall] at h
    exact h
  head := by
    intro hhead
    rw [Option.some.inj hhead] at h
    exact h

/-- One transaction. -/
theorem busCmdBegin_counts (hcounter : bus.consecutiveFailures.toNat = n % 256)
    (link : List LinkOp) (size : Nat) :
    Counts n bus (busCmdBegin bus attempt link size).2.1
      (busCmdBegin bus attempt link size).2.2 := by
  by_cases hbegun : attempt.begun = .ok
  · rw [busCmdBegin, if_pos hbegun]
    refine ⟨rfl, rfl, ⟨iff_of_false (by simp) ?_, trivial⟩, by simp⟩
    intro h
    obtain ⟨link', err, taken, hcall, herr, -⟩ := h
    cases hcall
    exact herr rfl
  have hcount (taken : Nat) : (Call.cmdBegin link attempt.begun taken).streak n = n + 1 :=
    if_neg hbegun
  -- the counter is an octet: from 255 failures on it starts again at zero
  have hnext : (bus.consecutiveFailures + 1).toNat = (n + 1) % 256 := by
    rw [UInt8.toNat_add, hcounter]
    show (n % 256 + 1) % 256 = _
    omega
  have hthree : 3 ≤ bus.consecutiveFailures + 1 ↔ 3 ≤ (n + 1) % 256 := by
    rw [UInt8.le_iff_toNat_le, hnext]
    rfl
  have hpersists (taken : Nat) :
      (Call.cmdBegin link attempt.begun taken).Persists n ↔ 3 ≤ (n + 1) % 256 := by
    constructor
    · intro h
      obtain ⟨link', err, taken', hcall, herr, hle⟩ := h
      exact hle
    · exact fun hle => ⟨link, attempt.begun, taken, rfl, hbegun, hle⟩
  rw [busCmdBegin_failed link size hbegun]
  by_cases hrecover : 3 ≤ bus.consecutiveFailures + 1
  · rw [if_pos hrecover]
    -- of the calls of the recovery only the first can be the deletion
    have hquiet (m : Nat) (call : Call) (hcall : ∀ link err taken, call ≠ .cmdBegin link err taken)
        (rest : List Call) (hrest : rest.head? ≠ some .driverDelete) :
        rest.head? = some .driverDelete ↔ call.Persists m :=
      iff_of_false hrest (Call.not_persists hcall)
    refine ⟨rfl, ?_, ⟨iff_of_true rfl ((hpersists _).mpr (hthree.mp hrecover)), ?_⟩, by simp⟩
    · simp only [streak, List.foldl_cons, List.foldl_nil, Call.streak, if_neg hbegun]
      by_cases hconfig : busApplyConfig attempt = .ok
      · rw [if_pos hconfig, if_pos hconfig]
        rfl
      · rw [if_neg hconfig, if_neg hconfig]
        exact hnext
    · exact ⟨hquiet _ _ (fun _ _ _ h => by cases h) _ (by simp),
        hquiet _ _ (fun _ _ _ h => by cases h) _ (by simp),
        hquiet _ _ (fun _ _ _ h => by cases h) _ (by simp), trivial⟩
  · rw [if_neg hrecover]
    refine ⟨rfl, ?_, ⟨iff_of_false (by simp) ?_, trivial⟩, by simp⟩
    · simp only [streak, List.foldl_cons, List.foldl_nil, hcount]
      exact hnext
    · rw [hpersists, ← hthree]
      exact hrecover

/-- One round of the loop of `i2c_master_cmd`. -/
theorem masterAttempt_counts (hcounter : bus.consecutiveFailures.toNat = n % 256) :
    let result := masterAttempt addr wrData rdLen k bus attempt
    Counts n bus result.2.1 result.2.2 := by
  intro result
  have hpause : Call.Quiet (.delay (5 <<< UInt32.ofNat k)) := trivial
  have hcreate (created : Bool) : Call.Quiet (.linkCreate created) := trivial
  have hdelete : Call.Quiet .linkDelete := trivial
  have hstart := counts_quiet (hcreate true) hcounter
  -- only `cmdBegin` counts; the calls around it are quiet
  rcases masterAttempt_cases addr wrData rdLen k bus attempt with
    ⟨-, h⟩ | ⟨-, -, h⟩ | ⟨-, -, hbegun, h⟩ | ⟨-, -, -, h⟩
  · rw [show result = _ from h]
    exact counts_quiet (hcreate false) hcounter
  · rw [show result = _ from h]
    have hclosed := hstart.append (counts_quiet hdelete hstart.counter)
    exact hclosed.append (counts_quiet hpause hclosed.counter)
  · rw [show result = _ from h]
    have hbegin := hstart.append (@busCmdBegin_counts _ bus attempt hstart.counter
      (masterLink addr wrData rdLen) wrData.length)
    rw [busCmdBegin, if_pos hbegun] at hbegin
    exact hbegin.append (counts_quiet hdelete hbegin.counter)
  · rw [show result = _ from h]
    have hbegin := hstart.append (@busCmdBegin_counts _ bus attempt hstart.counter
      (masterLink addr wrData rdLen) wrData.length)
    have hclosed := hbegin.append (counts_quiet hdelete hbegin.counter)
    have hend := hclosed.append (counts_quiet hpause hclosed.counter)
    simpa only [List.append_assoc, List.cons_append, List.nil_append] using hend

/-- A transfer. -/
theorem masterCmd_counts (hcounter : bus.consecutiveFailures.toNat = n % 256)
    (attempts : Vector Attempt 3) :
    let result := masterCmd bus addr wrData rdLen attempts
    Counts n bus result.2.1 result.2.2 := by
  intro result
  by_cases hready : bus.initialized = true
  case neg =>
    rw [show result = _ from if_neg hready]
    exact counts_nil hcounter
  have hlock : Call.Quiet .lock := trivial
  have hunlock : Call.Quiet .unlock := trivial
  have hloop := @Retry.loop_rule _ _ _ _ _ (masterAttempt addr wrData rdLen) 0 .fail bus [.lock]
    (fun _ _ next shown => Counts n bus next shown) (fun _ next shown => Counts n bus next shown)
    attempts.toList ?_ ?_ ?_ (fun _ _ _ h => h) (counts_quiet hlock hcounter)
  · rw [show result = _ from if_pos hready]
    exact hloop.append (counts_quiet hunlock hloop.counter)
  all_goals
    intro k err later shown input outcome next more _ _ hcounts hround
    have hmore := @masterAttempt_counts addr wrData rdLen k _ later input hcounts.counter
    rw [hround] at hmore
    exact hcounts.append hmore

/-- An event. -/
theorem busStep_counts (hcounter : bus.consecutiveFailures.toNat = n % 256) (event : Event) :
    Counts n bus (busStep bus event).1 (busStep bus event).2 := by
  cases event with
  | transfer addr wrData rdLen attempts => exact masterCmd_counts hcounter attempts
  | probe addr attempt =>
      show Counts n bus (busProbe bus addr attempt).2.1 (busProbe bus addr attempt).2.2
      have hquiet (call : Call) (h : call.Quiet) {n : Nat} {bus : Bus}
          (hcounter : bus.consecutiveFailures.toNat = n % 256) := counts_quiet h hcounter
      have hlock := hquiet .lock trivial hcounter
      have hopen := hlock.append (hquiet (.linkCreate true) trivial hlock.counter)
      unfold busProbe
      split_ifs with hrange hcreated
      · exact counts_nil hcounter
      · dsimp only
        split_ifs with hfilled
        · have hbegin := hopen.append (@busCmdBegin_counts _ bus attempt hopen.counter
            [.start, .writeByte ((addr <<< 1) ||| 0), .stop] 0)
          have hclosed := hbegin.append (hquiet .linkDelete trivial hbegin.counter)
          have hend := hclosed.append (hquiet .unlock trivial hclosed.counter)
          simpa only [List.append_assoc, List.cons_append, List.nil_append] using hend
        · have hclosed := hopen.append (hquiet .linkDelete trivial hopen.counter)
          exact hclosed.append (hquiet .unlock trivial hclosed.counter)
      · have hrefused := hlock.append (hquiet (.linkCreate false) trivial hlock.counter)
        exact hrefused.append (hquiet .unlock trivial hrefused.counter)

/-- A run. -/
theorem busRun_counts (hcounter : bus.consecutiveFailures.toNat = n % 256) (events : List Event) :
    Counts n bus (Machine.run busStep bus events).1 (Machine.run busStep bus events).2 := by
  refine @Machine.run_keeps_history _ _ _ busStep bus events
    (fun next shown => Counts n bus next shown) ?_ (counts_nil hcounter)
  exact fun later event shown h => h.append (busStep_counts h.counter event)

end Recovery

/-- What the task that runs holds: nothing, the mutex, or the mutex and a command link, which has
not been begun yet or has been. -/
inductive Hold
  | free
  | locked
  | linked
  | begun
  deriving DecidableEq

/-- What the task holds after a call, if the call is in order. A link that has been begun can only
be deleted; the driver may be installed anew before. -/
def Call.after : Hold → Call → Option Hold
  | .free, .lock => some .locked
  | .locked, .unlock => some .free
  | .locked, .delay _ => some .locked
  | .locked, .linkCreate created => some (if created then .linked else .locked)
  | .linked, .linkDelete | .begun, .linkDelete => some .locked
  | .linked, .cmdBegin _ _ _ | .begun, .driverDelete | .begun, .forceIdle
  | .begun, .applyConfig _ => some .begun
  | _, _ => none

/-- A part of a transaction: an address octet and the octets written, or how many are read. -/
inductive Message
  | write (octet : UInt8) (data : Bytes)
  | read (octet : UInt8) (len : Nat)
  deriving DecidableEq

/-- The parts of a link that is complete: after each start an address octet, whose lowest bit tells
what follows; of the octets read all but the last are acknowledged; and at the end a stop. -/
def messages : List LinkOp → Option (List Message)
  | [.start, .stop] => some []
  | [.start, .writeByte octet, .stop] => if octet &&& 1 = 0 then some [.write octet []] else none
  | [.start, .writeByte octet, .readByte, .stop] =>
      if octet &&& 1 = 1 then some [.read octet 1] else none
  | [.start, .writeByte octet, .read len, .readByte, .stop] =>
      if octet &&& 1 = 1 then some [.read octet (len + 1)] else none
  | [.start, .writeByte octet, .write data, .stop] =>
      if octet &&& 1 = 0 then some [.write octet data] else none
  | .start :: .writeByte octet :: .write data :: .start :: rest =>
      if octet &&& 1 = 0 then (messages (.start :: rest)).map (.write octet data :: ·) else none
  | _ => none

/-- What an event is to say on the wire. -/
def Event.messages : Event → List Message
  | .transfer addr wrData rdLen _ =>
      (if wrData ≠ [] then [.write (addr <<< 1) wrData] else []) ++
        (if 0 < rdLen then [.read ((addr <<< 1) ||| 1) rdLen] else [])
  | .probe addr _ => [.write (addr <<< 1) []]

/-- The links of the transactions among the calls. -/
def Call.begun : Call → Option (List LinkOp)
  | .cmdBegin link _ _ => some link
  | _ => none

section Discipline

variable {addr : UInt8} {wrData : Bytes} {rdLen k : Nat} {bus : Bus} {attempt : Attempt}
  {first second : List Call}

theorem octet_low (addr : UInt8) :
    (addr <<< 1) ||| (0 : UInt8) = addr <<< 1 ∧ (addr <<< 1) &&& 1 = 0 ∧
      ((addr <<< 1) ||| 1) &&& 1 = 1 := by
  have hall : ∀ n : Fin 256, let octet := UInt8.ofNat n.val
      (octet <<< 1) ||| (0 : UInt8) = octet <<< 1 ∧ (octet <<< 1) &&& 1 = 0 ∧
        ((octet <<< 1) ||| 1) &&& 1 = 1 := by decide +kernel
  have haddr := hall ⟨addr.toNat, addr.toNat_lt⟩
  rwa [UInt8.ofNat_toNat] at haddr

/-- The link of an event is complete and says what the event is to say. -/
theorem messages_link (event : Event) : messages event.link = some event.messages := by
  cases event with
  | probe addr attempt =>
      obtain ⟨hsame, hwrite, -⟩ := octet_low addr
      simp only [Event.link, hsame, messages, hwrite, if_true, Event.messages]
  | transfer addr wrData rdLen attempts =>
      obtain ⟨hsame, hwrite, hread⟩ := octet_low addr
      show messages (masterLink addr wrData rdLen) = _
      simp only [masterLink, Event.messages, hsame]
      by_cases hempty : wrData = []
      · by_cases hnone : 0 < rdLen
        · by_cases hmore : 1 < rdLen
          · have hlen : rdLen - 1 + 1 = rdLen := by omega
            simp [hempty, hnone, hmore, messages, hread, hlen]
          · have hlen : rdLen = 1 := by omega
            simp [hempty, hlen, messages, hread]
        · simp [hempty, hnone, messages]
      · by_cases hnone : 0 < rdLen
        · by_cases hmore : 1 < rdLen
          · have hlen : rdLen - 1 + 1 = rdLen := by omega
            simp [hempty, hnone, hmore, messages, hwrite, hread, hlen]
          · have hlen : rdLen = 1 := by omega
            simp [hempty, hlen, messages, hwrite, hread]
        · simp [hempty, hnone, messages, hwrite]

/-- The calls are in order from one hold to another, and their transactions, at most so many, have
this link. -/
structure Orderly (start finish : Hold) (link : List LinkOp) (bound : Nat) (calls : List Call) :
    Prop where
  held : calls.foldlM Call.after start = some finish
  link_eq : ∀ begun ∈ calls.filterMap Call.begun, begun = link
  bounded : (calls.filterMap Call.begun).length ≤ bound

theorem Orderly.append {start middle finish : Hold} {link : List LinkOp} {bound more : Nat}
    (hfirst : Orderly start middle link bound first)
    (hsecond : Orderly middle finish link more second) :
    Orderly start finish link (bound + more) (first ++ second) where
  held := by
    rw [List.foldlM_append, hfirst.held]
    exact hsecond.held
  link_eq := by
    intro begun hmem
    rw [List.filterMap_append] at hmem
    exact (List.mem_append.mp hmem).elim (hfirst.link_eq begun) (hsecond.link_eq begun)
  bounded := by
    rw [List.filterMap_append, List.length_append]
    exact Nat.add_le_add hfirst.bounded hsecond.bounded

theorem Orderly.weaken {start finish : Hold} {link : List LinkOp} {bound more : Nat}
    {calls : List Call} (h : Orderly start finish link bound calls) (hle : bound ≤ more) :
    Orderly start finish link more calls :=
  ⟨h.held, h.link_eq, h.bounded.trans hle⟩

/-- A transaction. -/
theorem busCmdBegin_orderly (link : List LinkOp) (size : Nat) :
    Orderly .linked .begun link 1 (busCmdBegin bus attempt link size).2.2 := by
  have hlink (begun : List LinkOp) (h : begun ∈ [link]) : begun = link := List.mem_singleton.mp h
  by_cases hbegun : attempt.begun = .ok
  · rw [busCmdBegin, if_pos hbegun]
    exact ⟨rfl, hlink, le_rfl⟩
  · rw [busCmdBegin_failed link size hbegun]
    by_cases hthree : 3 ≤ bus.consecutiveFailures + 1
    · rw [if_pos hthree]
      exact ⟨rfl, hlink, le_rfl⟩
    · rw [if_neg hthree]
      exact ⟨rfl, hlink, le_rfl⟩

/-- Calls without a transaction. -/
theorem orderly_of_none {start finish : Hold} {link : List LinkOp} {calls : List Call}
    (hheld : calls.foldlM Call.after start = some finish)
    (hnone : calls.filterMap Call.begun = []) : Orderly start finish link 0 calls :=
  ⟨hheld, fun begun hmem => absurd (hnone ▸ hmem) List.not_mem_nil, by rw [hnone]; exact le_rfl⟩

/-- One round of the loop of `i2c_master_cmd`. -/
theorem masterAttempt_orderly :
    Orderly .locked .locked (masterLink addr wrData rdLen) 1
      (masterAttempt addr wrData rdLen k bus attempt).2.2 := by
  have hbegin := @busCmdBegin_orderly bus attempt (masterLink addr wrData rdLen) wrData.length
  have hcreate : Orderly .locked .linked (masterLink addr wrData rdLen) 0 [.linkCreate true] :=
    orderly_of_none rfl rfl
  have hdelete : Orderly .begun .locked (masterLink addr wrData rdLen) 0 [.linkDelete] :=
    orderly_of_none rfl rfl
  have hpause (hold : Hold) (h : hold = .linked ∨ hold = .begun) :
      Orderly hold .locked (masterLink addr wrData rdLen) 0
        [.linkDelete, .delay (5 <<< UInt32.ofNat k)] := by
    rcases h with rfl | rfl <;> exact orderly_of_none rfl rfl
  rcases masterAttempt_cases addr wrData rdLen k bus attempt with
    ⟨-, h⟩ | ⟨-, -, h⟩ | ⟨-, -, hbegun, h⟩ | ⟨-, -, -, h⟩
  · rw [h]
    exact (orderly_of_none rfl rfl).weaken (Nat.zero_le 1)
  · rw [h]
    exact (hcreate.append (hpause .linked (.inl rfl))).weaken (Nat.zero_le 1)
  · rw [h]
    rw [busCmdBegin, if_pos hbegun] at hbegin
    exact (hcreate.append hbegin).append hdelete
  · rw [h]
    have hround := (hcreate.append hbegin).append (hpause .begun (.inr rfl))
    simpa only [List.cons_append, List.nil_append] using hround

/-- An event begins its own link three times at most, and in the end holds nothing. -/
theorem busStep_orderly (event : Event) :
    Orderly .free .free event.link 3 (busStep bus event).2 := by
  have hnothing : Orderly .free .free event.link 0 [] := orderly_of_none rfl rfl
  cases event with
  | transfer addr wrData rdLen attempts =>
      show Orderly _ _ (masterLink addr wrData rdLen) 3
        (masterCmd bus addr wrData rdLen attempts).2.2
      unfold masterCmd
      split_ifs with hready
      case neg => exact hnothing.weaken (Nat.zero_le 3)
      have hlock : Orderly .free .locked (masterLink addr wrData rdLen) 0 [.lock] :=
        orderly_of_none rfl rfl
      have hunlock : Orderly .locked .free (masterLink addr wrData rdLen) 0 [.unlock] :=
        orderly_of_none rfl rfl
      -- before the `k`-th round at most `k` transactions were made
      have hloop := @Retry.loop_rule _ _ _ _ _ (masterAttempt addr wrData rdLen) 0 .fail bus [.lock]
        (fun k _ _ shown => Orderly .free .locked (masterLink addr wrData rdLen) k shown)
        (fun _ _ shown => Orderly .free .locked (masterLink addr wrData rdLen) 3 shown)
        attempts.toList ?_ ?_ ?_ ?_ hlock
      · exact hloop.append hunlock
      · intro k err later shown input err' next more _ _ hbefore hround
        have hmore := @masterAttempt_orderly addr wrData rdLen k later input
        rw [hround] at hmore
        exact hbefore.append hmore
      · intro k err later shown input value next more hk _ hbefore hround
        have hmore := @masterAttempt_orderly addr wrData rdLen k later input
        rw [hround] at hmore
        exact (hbefore.append hmore).weaken (by simpa using hk)
      · intro k err later shown input err' next more hk _ hbefore hround
        have hmore := @masterAttempt_orderly addr wrData rdLen k later input
        rw [hround] at hmore
        exact (hbefore.append hmore).weaken (by simpa using hk)
      · intro err later shown hbefore
        exact hbefore.weaken (by simp)
  | probe addr attempt =>
      show Orderly _ _ (Event.link (.probe addr attempt)) 3 (busProbe bus addr attempt).2.2
      unfold busProbe
      split_ifs with hrange hcreated
      · exact hnothing.weaken (Nat.zero_le 3)
      · dsimp only
        have hopen : Orderly .free .linked (Event.link (.probe addr attempt)) 0
            [.lock, .linkCreate true] := orderly_of_none rfl rfl
        have hclose (hold : Hold) (h : hold = .linked ∨ hold = .begun) :
            Orderly hold .free (Event.link (.probe addr attempt)) 0 [.linkDelete, .unlock] := by
          rcases h with rfl | rfl <;> exact orderly_of_none rfl rfl
        split_ifs with hfilled
        · have hbegin := @busCmdBegin_orderly bus attempt (Event.link (.probe addr attempt)) 0
          exact ((hopen.append hbegin).append (hclose .begun (.inr rfl))).weaken (by decide)
        · exact (hopen.append (hclose .linked (.inl rfl))).weaken (Nat.zero_le 3)
      · exact (orderly_of_none rfl rfl).weaken (Nat.zero_le 3)

/-- A step takes the mutex and a link and gives both back, so the calls of a run are in order. -/
theorem busRun_held (bus : Bus) (events : List Event) :
    (Machine.run busStep bus events).2.foldlM Call.after .free = some .free := by
  induction events generalizing bus with
  | nil => rfl
  | cons event rest ih =>
      simp only [Machine.run_cons]
      rw [List.foldlM_append, (busStep_orderly event).held]
      exact ih (busStep bus event).1

/-- Every run of transfers and probes, with any calls failing: the mutex is taken and given back in
turn, command links are made and deleted in turn, each begun once at most, and the driver is
installed anew and pauses are made only in between. Every transaction is complete and says what some
event is to say, and an event makes three at most. -/
theorem transactions_complete (bus : Bus) (events : List Event) :
    let calls := (Machine.run busStep bus events).2
    calls.foldlM Call.after .free = some .free ∧
      (∀ link ∈ calls.filterMap Call.begun, ∃ event ∈ events,
        messages link = some event.messages) ∧
      (calls.filterMap Call.begun).length ≤ 3 * events.length := by
  refine ⟨busRun_held bus events, ?_⟩
  induction events generalizing bus with
  | nil => exact ⟨fun link hmem => absurd hmem List.not_mem_nil, le_rfl⟩
  | cons event rest ih =>
      have hevent := @busStep_orderly bus event
      obtain ⟨hlinks, hbound⟩ := ih (busStep bus event).1
      simp only [Machine.run_cons]
      refine ⟨?_, ?_⟩
      · intro link hmem
        rw [List.filterMap_append] at hmem
        rcases List.mem_append.mp hmem with hfirst | hlater
        · refine ⟨event, List.mem_cons_self, ?_⟩
          rw [hevent.link_eq link hfirst]
          exact messages_link event
        · obtain ⟨other, hother, hsays⟩ := hlinks link hlater
          exact ⟨other, List.mem_cons_of_mem _ hother, hsays⟩
      · rw [List.filterMap_append, List.length_append, List.length_cons]
        have hfirst := hevent.bounded
        omega

end Discipline

/-- After the initialisation, over every run of transfers and probes with any calls failing: the
counter of failures is the number of failed transactions since the last one that succeeded or the
last installation of the driver, modulo 256, and the driver is deleted, to be installed anew, after
exactly the failed transactions that make this number at least three; no run begins with it. -/
theorem driver_deleted_iff (events : List Event) :
    let result := Machine.run busStep { initialized := true } events
    result.1.consecutiveFailures.toNat = streak 0 result.2 % 256 ∧
      (∀ before call after, result.2 = before ++ call :: after →
        (after.head? = some .driverDelete ↔
          ∃ link err taken, call = .cmdBegin link err taken ∧ err ≠ .ok ∧
            3 ≤ (streak 0 before + 1) % 256)) ∧
      result.2.head? ≠ some .driverDelete := by
  intro result
  have hcounts := @busRun_counts 0 { initialized := true } rfl events
  refine ⟨hcounts.counter, fun before call after hsplit => hcounts.recovers.split hsplit, ?_⟩
  -- the driver is installed anew while a link is held, and a run begins without one
  intro hfirst
  obtain ⟨later, hcalls⟩ := List.head?_eq_some_iff.mp hfirst
  have hheld := busRun_held { initialized := true } events
  rw [show (Machine.run busStep { initialized := true } events).2 = _ from hcalls] at hheld
  cases hheld

/-- What a transaction brings to the device that answers to the address. -/
def Call.written (addr : UInt8) : Call → Option Bytes
  | .cmdBegin (.start :: .writeByte octet :: .write data :: _) _ taken =>
      if octet = addr <<< 1 then some (data.take taken) else none
  | _ => none

/-- A device after the calls, if `write` is what octets written to it do. -/
def deviceAfter {δ : Type} (write : δ → Bytes → δ) (addr : UInt8) (device : δ)
    (calls : List Call) : δ :=
  (calls.filterMap (Call.written addr)).foldl write device

section Written

variable {addr other : UInt8} {wrData : Bytes} {rdLen k : Nat} {bus : Bus} {attempt : Attempt}
  {calls : List Call}

theorem written_begin (hdata : wrData ≠ []) (err : EspErr) (taken : Nat) :
    Call.written other (.cmdBegin (masterLink addr wrData rdLen) err taken) =
      if addr <<< 1 = other <<< 1 then some (wrData.take taken) else none := by
  rw [masterLink, if_pos hdata, (octet_low addr).1]
  rfl

/-- A transaction of a transfer brings its part of the data to the device at its address. -/
theorem busCmdBegin_written (hdata : wrData ≠ []) :
    (busCmdBegin bus attempt (masterLink addr wrData rdLen) wrData.length).2.2.filterMap
        (Call.written other) =
      if addr <<< 1 = other <<< 1 then
        [wrData.take (if attempt.begun = .ok then wrData.length
          else min attempt.taken wrData.length)]
      else [] := by
  have hlist (part : Bytes) : (if addr <<< 1 = other <<< 1 then some part else none).toList =
      if addr <<< 1 = other <<< 1 then [part] else [] := by
    split_ifs <;> rfl
  by_cases hbegun : attempt.begun = .ok
  · rw [busCmdBegin, if_pos hbegun, if_pos hbegun, ← hlist, ← written_begin hdata .ok]
    simp only [List.filterMap_cons, List.filterMap_nil]
    cases Call.written other _ <;> rfl
  · rw [busCmdBegin_failed _ _ hbegun, if_neg hbegun, ← hlist, ← written_begin hdata attempt.begun]
    by_cases hthree : 3 ≤ bus.consecutiveFailures + 1
    · rw [if_pos hthree]
      simp only [List.filterMap_cons, List.filterMap_nil]
      cases Call.written other (.cmdBegin (masterLink addr wrData rdLen) _ _) <;> rfl
    · rw [if_neg hthree]
      simp only [List.filterMap_cons, List.filterMap_nil]
      cases Call.written other _ <;> rfl

/-- The calls brought this to the device at the address and nothing to others. -/
def Brought (addr : UInt8) (parts : List Bytes) (calls : List Call) : Prop :=
  ∀ device, calls.filterMap (Call.written device) = if addr <<< 1 = device <<< 1 then parts else []

theorem Brought.append {parts more : List Bytes} {second : List Call}
    (hfirst : Brought addr parts calls) (hsecond : Brought addr more second) :
    Brought addr (parts ++ more) (calls ++ second) := by
  intro device
  rw [List.filterMap_append, hfirst, hsecond]
  split_ifs <;> rfl

theorem brought_nothing (hnone : calls.filterMap Call.begun = []) : Brought addr [] calls := by
  intro device
  rw [ite_self, List.filterMap_eq_nil_iff]
  intro call hmem
  have hcall := List.filterMap_eq_nil_iff.mp hnone call hmem
  cases call <;> first | rfl | cases hcall

/-- Parts of the data, each as many octets as an attempt let through. -/
def Parts (wrData : Bytes) (attempts : List Attempt) (parts : List Bytes) : Prop :=
  ∀ part ∈ parts, ∃ attempt ∈ attempts, part = wrData.take (min attempt.taken wrData.length)

/-- One round of the loop of `i2c_master_cmd`. -/
theorem masterAttempt_brought (hdata : wrData ≠ []) :
    let round := masterAttempt addr wrData rdLen k bus attempt
    ∃ parts, Parts wrData [attempt] parts ∧
      Brought addr (parts ++ if round.1.value?.isSome then [wrData] else []) round.2.2 := by
  intro round
  have hnothing : Parts wrData [attempt] [] := fun _ hmem => absurd hmem List.not_mem_nil
  have hlink {parts : List Bytes} {calls after : List Call} (h : Brought addr parts calls)
      (hafter : after.filterMap Call.begun = []) :
      Brought addr parts (.linkCreate true :: calls ++ after) := by
    have hcreate : Brought addr [] [.linkCreate true] := brought_nothing rfl
    have hall := (hcreate.append h).append (brought_nothing hafter)
    rwa [List.nil_append, List.append_nil] at hall
  rcases masterAttempt_cases addr wrData rdLen k bus attempt with
    ⟨-, h⟩ | ⟨-, -, h⟩ | ⟨-, -, hbegun, h⟩ | ⟨-, -, hbegun, h⟩
  · rw [show round = _ from h]
    exact ⟨[], hnothing, brought_nothing rfl⟩
  · rw [show round = _ from h]
    exact ⟨[], hnothing, brought_nothing rfl⟩
  · rw [show round = _ from h]
    have hcall : Brought addr [wrData] (busCmdBegin bus attempt (masterLink addr wrData rdLen)
        wrData.length).2.2 := by
      intro device
      rw [busCmdBegin_written hdata, if_pos hbegun, List.take_length]
    rw [busCmdBegin, if_pos hbegun] at hcall
    exact ⟨[], hnothing, hlink hcall rfl⟩
  · rw [show round = _ from h]
    have hcall : Brought addr [wrData.take (min attempt.taken wrData.length)]
        (busCmdBegin bus attempt (masterLink addr wrData rdLen) wrData.length).2.2 := by
      intro device
      rw [busCmdBegin_written hdata, if_neg hbegun]
    refine ⟨[wrData.take (min attempt.taken wrData.length)], ?_, hlink hcall rfl⟩
    exact fun part hmem => ⟨attempt, List.mem_cons_self, List.mem_singleton.mp hmem⟩

/-- A transfer brings parts of its data to the device at its address, and then all of it if and only
if it succeeds; it brings nothing to other devices. -/
theorem masterCmd_brought (hdata : wrData ≠ []) (attempts : Vector Attempt 3) :
    let result := masterCmd bus addr wrData rdLen attempts
    ∃ parts, Parts wrData attempts.toList parts ∧
      Brought addr (parts ++ if result.1.toOption.isSome then [wrData] else []) result.2.2 := by
  intro result
  have hnothing : Parts wrData attempts.toList [] := fun _ hmem => absurd hmem List.not_mem_nil
  by_cases hready : bus.initialized = true
  case neg =>
    rw [show result = _ from if_neg hready]
    exact ⟨[], hnothing, fun device => (ite_self _).symm⟩
  -- what the attempts so far brought is a list of prefixes; one that succeeds brings it all
  have hjoin {parts others : List Bytes} {input : Attempt} (hinput : input ∈ attempts.toList)
      (hparts : Parts wrData attempts.toList parts) (hothers : Parts wrData [input] others) :
      Parts wrData attempts.toList (parts ++ others) := by
    intro part hmem
    rcases List.mem_append.mp hmem with hpart | hother
    · exact hparts part hpart
    · obtain ⟨attempt, hattempt, hpart⟩ := hothers part hother
      exact ⟨attempt, List.mem_singleton.mp hattempt ▸ hinput, hpart⟩
  have hloop := @Retry.loop_rule _ _ _ _ _ (masterAttempt addr wrData rdLen) 0 .fail bus [.lock]
    (fun _ _ _ shown => ∃ parts, Parts wrData attempts.toList parts ∧ Brought addr parts shown)
    (fun outcome _ shown => ∃ parts, Parts wrData attempts.toList parts ∧
      Brought addr (parts ++ if outcome.toOption.isSome then [wrData] else []) shown)
    attempts.toList ?_ ?_ ?_ ?_ ⟨[], hnothing, brought_nothing rfl⟩
  · obtain ⟨parts, hparts, hbrought⟩ := hloop
    refine ⟨parts, hparts, ?_⟩
    rw [show result = _ from if_pos hready]
    have hunlock : Brought addr [] [.unlock] := brought_nothing rfl
    have hall := hbrought.append hunlock
    rwa [List.append_nil] at hall
  · intro k err later shown input err' next more _ hinput hbefore hround
    obtain ⟨parts, hparts, hbrought⟩ := hbefore
    obtain ⟨others, hothers, hmore⟩ := @masterAttempt_brought addr wrData rdLen k later input hdata
    rw [hround] at hmore
    exact ⟨parts ++ others, hjoin hinput hparts hothers,
      hbrought.append (by simpa [Retry.Outcome.value?] using hmore)⟩
  · intro k err later shown input value next more _ hinput hbefore hround
    obtain ⟨parts, hparts, hbrought⟩ := hbefore
    obtain ⟨others, hothers, hmore⟩ := @masterAttempt_brought addr wrData rdLen k later input hdata
    rw [hround] at hmore
    refine ⟨parts ++ others, hjoin hinput hparts hothers, ?_⟩
    rw [List.append_assoc]
    exact hbrought.append hmore
  · intro k err later shown input err' next more _ hinput hbefore hround
    obtain ⟨parts, hparts, hbrought⟩ := hbefore
    obtain ⟨others, hothers, hmore⟩ := @masterAttempt_brought addr wrData rdLen k later input hdata
    rw [hround] at hmore
    refine ⟨parts ++ others, hjoin hinput hparts hothers, ?_⟩
    rw [List.append_assoc]
    exact hbrought.append hmore
  · intro err later shown hbefore
    obtain ⟨parts, hparts, hbrought⟩ := hbefore
    exact ⟨parts, hparts, by simpa [Except.toOption] using hbrought⟩

/-- A transfer that fails returns an error. -/
theorem errOf_masterCmd {attempts : Vector Attempt 3} :
    errOf (masterCmd bus addr wrData rdLen attempts).1 = .ok ↔
      (masterCmd bus addr wrData rdLen attempts).1.toOption.isSome = true := by
  have hfails (attempt : Attempt) (err : EspErr)
      (h : attemptOutcome addr wrData rdLen attempt = .again err ∨
        attemptOutcome addr wrData rdLen attempt = .abort err) : err ≠ .ok := by
    unfold attemptOutcome at h
    dsimp only at h
    split_ifs at h with hcreated hfilled hbegun
    · rcases h with h | h <;> cases h
      exact hfilled
    · rcases h with h | h <;> cases h
      exact hbegun
    · rcases h with h | h <;> cases h
    · rcases h with h | h <;> cases h
      exact fun h => by cases h
  have hresult : ∀ err, (masterCmd bus addr wrData rdLen attempts).1 = .error err → err ≠ .ok := by
    unfold masterCmd
    split_ifs with hready
    case neg =>
      intro err h
      obtain rfl := Except.error.inj h
      exact fun h => by cases h
    refine @Retry.loop_rule _ _ _ _ _ (masterAttempt addr wrData rdLen) 0 .fail bus []
      (fun _ err _ _ => err ≠ .ok) (fun outcome _ _ => ∀ err, outcome = .error err → err ≠ .ok)
      attempts.toList ?_ ?_ ?_ ?_ fun h => by cases h
    · intro k err later shown input err' next more _ _ _ hround
      have houtcome := @masterAttempt_outcome addr wrData rdLen k later input
      rw [hround] at houtcome
      exact hfails input err' (Or.inl houtcome.symm)
    · intro k err later shown input value next more _ _ _ hround err' h
      cases h
    · intro k err later shown input err' next more _ _ _ hround err'' h
      have houtcome := @masterAttempt_outcome addr wrData rdLen k later input
      rw [hround] at houtcome
      obtain rfl := Except.error.inj h
      exact hfails input _ (Or.inr houtcome.symm)
    · intro err later shown herr err' h
      obtain rfl := Except.error.inj h
      exact herr
  -- a failure never carries `ok`, so the code of the result tells the two apart
  generalize (masterCmd bus addr wrData rdLen attempts).1 = result at hresult
  cases result with
  | ok data => exact iff_of_true rfl rfl
  | error err => exact iff_of_false (hresult err rfl) (by simp [Except.toOption])

/-- A transfer that succeeds returns what the device sent in the round that was done. -/
theorem masterCmd_ok {attempts : Vector Attempt 3} {data : Bytes}
    (h : (masterCmd bus addr wrData rdLen attempts).1 = .ok data) :
    ∃ attempt ∈ attempts.toList, data = (List.range rdLen).map attempt.received := by
  unfold masterCmd at h
  split_ifs at h with hready
  have hloop : (Retry.loop (masterAttempt addr wrData rdLen) 0 .fail bus attempts.toList).1 =
      .ok data := h
  rw [Retry.loop_ok_iff fun k bus attempt => @masterAttempt_outcome addr wrData rdLen k bus attempt]
    at hloop
  obtain ⟨failed, attempt, unused, hsplit, -, hdone⟩ := hloop
  refine ⟨attempt, by simp [hsplit], ?_⟩
  unfold attemptOutcome at hdone
  dsimp only at hdone
  split_ifs at hdone
  cases hdone
  rfl

/-- A transfer leaves the devices at other addresses. -/
theorem deviceAfter_other {δ : Type} {write : δ → Bytes → δ} (hdata : wrData ≠ [])
    (hother : addr <<< 1 ≠ other <<< 1) (attempts : Vector Attempt 3) (device : δ) :
    deviceAfter write other device (masterCmd bus addr wrData rdLen attempts).2.2 = device := by
  obtain ⟨parts, -, hbrought⟩ := @masterCmd_brought addr wrData rdLen bus hdata attempts
  rw [deviceAfter, hbrought other, if_neg hother]
  rfl

/-- Where failed transactions bring nothing, a device has taken all of a transfer if it succeeds and
is as before if it fails. -/
theorem deviceAfter_transfer {δ : Type} {write : δ → Bytes → δ} (hempty : ∀ d, write d [] = d)
    (hdata : wrData ≠ []) {attempts : Vector Attempt 3}
    (hclean : ∀ attempt ∈ attempts.toList, attempt.taken = 0) (device : δ) :
    let result := masterCmd bus addr wrData rdLen attempts
    deviceAfter write addr device result.2.2 =
      if result.1.toOption.isSome then write device wrData else device := by
  intro result
  obtain ⟨parts, hparts, hbrought⟩ := @masterCmd_brought addr wrData rdLen bus hdata attempts
  have hnothing (d : δ) (parts : List Bytes) (hparts : Parts wrData attempts.toList parts) :
      parts.foldl write d = d := by
    induction parts with
    | nil => rfl
    | cons part rest ih =>
        obtain ⟨attempt, hattempt, hpart⟩ := hparts part List.mem_cons_self
        rw [List.foldl_cons, hpart, hclean attempt hattempt, Nat.zero_min, List.take_zero, hempty]
        exact ih fun other hmem => hparts other (List.mem_cons_of_mem _ hmem)
  rw [deviceAfter, hbrought addr, if_pos rfl, List.foldl_append, hnothing device parts hparts]
  split_ifs <;> rfl

end Written

end SensorHmi.I2c
