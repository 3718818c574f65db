import SensorHmi.Lib.Crc
import SensorHmi.Lib.IeeeOrder
import SensorHmi.Lib.Retry
import SensorHmi.Platform

/-!
# The humidity sensor

`sensor_node/main/drivers/sht20.c` over the results of its transfers. A measurement comes with a
check sum, and one that is not good is made again, four times at most; from the third failure on the
sensor is reset before that.

The check sum is a CRC over the bits from the most significant on (`good_iff`). It is wrong for
every frame that differs from a good one in one to three bits or within eight bits in a row
(`sent_of_good`), so that a reading that was disturbed like this on the bus is never taken for one:
`sht20_reading_measured`. -/

namespace SensorHmi

open Octets Ieee

/-- One round of the inner loop of `sht20_crc8`. -/
def sht20Crc8Bit (crc : UInt8) : UInt8 :=
  if crc &&& 0x80 ≠ 0 then ((crc.toUInt32 <<< 1) ^^^ 0x131).toUInt8 else crc <<< 1

/-- `sht20_crc8` -/
def sht20Crc8 (data : Bytes) : UInt8 :=
  data.foldl (fun crc octet => Nat.repeat sht20Crc8Bit 8 (crc ^^^ octet)) 0

/-- What the bus answers in one attempt to measure: to the command, to the read with what it leaves
in the buffer, and to a reset. -/
structure Sht20Attempt where
  command : EspErr := .ok
  read : EspErr := .ok
  buffer : Vector UInt8 3
  reset : EspErr := .ok

/-- What the driver asks of the bus, and its pauses. -/
inductive Sht20Call
  | write (octet : UInt8)
  | read
  | delay (ms : Nat)
  deriving DecidableEq

/-- `sht20_measure_once` -/
def sht20MeasureOnce (command : UInt8) (attempt : Sht20Attempt) : EspErr × List Sht20Call :=
  if attempt.command ≠ .ok then (attempt.command, [.write command])
  else (attempt.read, [.write command, .delay (if command = 0xF3 then 85 else 29), .read])

/-- `fmaxf` -/
def fmaxf (x y : Float32) : Float32 :=
  if x.isNaN then y else if y.isNaN then x else if x < y then y else x

/-- `fminf` -/
def fminf (x y : Float32) : Float32 :=
  if x.isNaN then y else if y.isNaN then x else if y < x then y else x

/-- The value of a frame. -/
def sht20Value (isTemp : Bool) (buffer : Vector UInt8 3) : Float32 :=
  let raw : UInt16 := ((buffer[0].toUInt16 <<< 8) ||| buffer[1].toUInt16) &&& ~~~0x0003
  if isTemp then -46.85 + 175.72 * raw.toFloat32 / 65536
  else fminf (fmaxf (-6 + 125 * raw.toFloat32 / 65536) 0) 100

/-- The check sum of a frame is right. -/
def Sht20Good (buffer : Vector UInt8 3) : Prop :=
  sht20Crc8 [buffer[0], buffer[1]] = buffer[2]

instance (buffer : Vector UInt8 3) : Decidable (Sht20Good buffer) :=
  inferInstanceAs (Decidable (_ = _))

/-- What follows a failed attempt, the `k`-th from 0 on. -/
def sht20Recover (k : Nat) (reset : EspErr) : List Sht20Call :=
  (if 2 ≤ k then [.write 0xFE] ++ (if reset = .ok then [.delay 20] else []) else []) ++
    [.delay (10 <<< k)]

/-- One round of the loop of `sht20_read_measurement`. -/
def sht20Round (command : UInt8) (isTemp : Bool) (k : Nat) (_ : Unit) (attempt : Sht20Attempt) :
    Retry.Outcome EspErr Float32 × Unit × List Sht20Call :=
  let (lastErr, calls) := sht20MeasureOnce command attempt
  if lastErr ≠ .ok then (.again lastErr, (), calls ++ sht20Recover k attempt.reset)
  else if ¬ Sht20Good attempt.buffer then
    (.again .invalidCrc, (), calls ++ sht20Recover k attempt.reset)
  else (.done (sht20Value isTemp attempt.buffer), (), calls)

/-- `sht20_read_measurement` -/
def sht20ReadMeasurement (command : UInt8) (isTemp : Bool) (attempts : Vector Sht20Attempt 5) :
    Except EspErr Float32 × List Sht20Call :=
  let (result, _, calls) := Retry.loop (sht20Round command isTemp) 0 .fail () attempts.toList
  (result, calls)

/-- `sht20_read_temperature_humidity`: the result, and what it left in `temperature_c` and
`humidity`. -/
def sht20ReadTemperatureHumidity (temps hums : Vector Sht20Attempt 5) :
    EspErr × Option Float32 × Option Float32 :=
  match (sht20ReadMeasurement 0xF3 true temps).1 with
  | .error err => (err, none, none)
  | .ok temp =>
      match (sht20ReadMeasurement 0xF5 false hums).1 with
      | .error err => (err, some temp, none)
      | .ok hum => (.ok, some temp, some hum)

/-- The bits of a frame as they are sent. -/
def frameBits (buffer : Vector UInt8 3) : List Bool :=
  buffer.toList.flatMap fun octet => (List.range 8).map octet.toBitVec.getMsbD

/-- The polynomial of the check sum, read backwards. -/
def sht20Polynomial : BitVec 8 := 0x8C#8

section CheckSum

open Crc

theorem toBitVec_sht20Crc8Bit (crc : UInt8) :
    (sht20Crc8Bit crc).toBitVec = stepUp 0x31#8 crc.toBitVec := by
  have hall : ∀ n : Fin 256, (sht20Crc8Bit (UInt8.ofNat n)).toBitVec =
      stepUp 0x31#8 (UInt8.ofNat n).toBitVec := by decide +kernel
  have hcrc := hall ⟨crc.toNat, crc.toNat_lt⟩
  rwa [UInt8.ofNat_toNat] at hcrc

/-- An octet read backwards. -/
def reversed (octet : UInt8) : UInt8 :=
  .ofBitVec octet.toBitVec.reverse

/-- The check sum is the register of the octets read backwards. -/
theorem reverse_sht20Crc8 (data : Bytes) :
    (sht20Crc8 data).toBitVec.reverse = register sht20Polynomial 0#8 (data.map reversed) := by
  have hpoly : (0x31#8).reverse = sht20Polynomial := by decide
  have hbits (n : Nat) (crc : UInt8) :
      (Nat.repeat sht20Crc8Bit n crc).toBitVec = (stepUp 0x31#8)^[n] crc.toBitVec := by
    induction n with
    | zero => rfl
    | succ n ih => rw [Nat.repeat, toBitVec_sht20Crc8Bit, ih, Function.iterate_succ_apply']
  have hoctets (crc : UInt8) :
      (data.foldl (fun crc octet => Nat.repeat sht20Crc8Bit 8 (crc ^^^ octet))
        crc).toBitVec.reverse =
        register sht20Polynomial crc.toBitVec.reverse (data.map reversed) := by
    induction data generalizing crc with
    | nil => rfl
    | cons octet rest ih =>
        rw [List.foldl_cons, ih, hbits, reverse_iterate, hpoly, UInt8.toBitVec_xor, reverse_xor]
        rfl
  exact hoctets 0

theorem frameBits_eq (buffer : Vector UInt8 3) :
    frameBits buffer = (buffer.toList.map reversed).flatMap octetBits := by
  rw [frameBits, List.flatMap_map]
  refine congrArg (fun bits => buffer.toList.flatMap bits) (funext fun octet => ?_)
  refine List.map_congr_left fun i _ => ?_
  exact BitVec.getLsbD_reverse.symm

theorem frame_octets (buffer : Vector UInt8 3) :
    ∃ first second sum, buffer = #v[first, second, sum] := by
  refine ⟨buffer[0], buffer[1], buffer[2], Vector.ext fun i hi => ?_⟩
  rcases i with _ | _ | _ | i
  · rfl
  · rfl
  · rfl
  · exact absurd hi (by omega)

/-- A frame is good if and only if it leaves the zero register. -/
theorem good_iff (buffer : Vector UInt8 3) :
    Sht20Good buffer ↔ feed sht20Polynomial 0#8 (frameBits buffer) = 0#8 := by
  have hpoly : sht20Polynomial.msb = true := rfl
  obtain ⟨first, second, sum, rfl⟩ := frame_octets buffer
  have hframe : feed sht20Polynomial 0#8 (frameBits #v[first, second, sum]) =
      (step sht20Polynomial)^[8] ((sht20Crc8 [first, second]).toBitVec.reverse ^^^
        sum.toBitVec.reverse) := by
    rw [frameBits_eq, ← register_eq_feed le_rfl, reverse_sht20Crc8]
    rfl
  rw [hframe]
  constructor
  · intro hgood
    have hsum : sht20Crc8 [first, second] = sum := hgood
    rw [hsum, BitVec.xor_self, iterate_zero]
  · intro hzero
    have hsame := BitVec.xor_eq_zero_iff.mp (eq_zero_of_iterate hpoly hzero)
    have hreverse := congrArg BitVec.reverse hsame
    rw [BitVec.reverse_reverse_eq, BitVec.reverse_reverse_eq] at hreverse
    exact UInt8.toBitVec_inj.mp hreverse

/-- A frame that was sent may be received with one to three bits changed, or with changes that all
lie within eight bits in a row. -/
def Disturbed (sent received : Vector UInt8 3) : Prop :=
  (List.zipWith Bool.xor (frameBits sent) (frameBits received)).count true ≤ 3 ∨
    ∃ start, ∀ i, (frameBits sent).getD i false ≠ (frameBits received).getD i false →
      start ≤ i ∧ i < start + 8

theorem length_frameBits (buffer : Vector UInt8 3) : (frameBits buffer).length = 24 := by
  rw [frameBits, List.length_flatMap]
  simp

theorem frameBits_injective : Function.Injective frameBits := by
  intro a b hbits
  obtain ⟨a₁, a₂, a₃, rfl⟩ := frame_octets a
  obtain ⟨b₁, b₂, b₃, rfl⟩ := frame_octets b
  have hoctet {x y : UInt8} (h : (List.range 8).map x.toBitVec.getMsbD =
      (List.range 8).map y.toBitVec.getMsbD) : x = y := by
    refine UInt8.toBitVec_inj.mp (BitVec.eq_of_getMsbD_eq fun i hi => ?_)
    exact List.map_inj_left.mp h i (List.mem_range.mpr hi)
  have hlength (x y : UInt8) : ((List.range 8).map x.toBitVec.getMsbD).length =
      ((List.range 8).map y.toBitVec.getMsbD).length := by
    rw [List.length_map, List.length_map]
  obtain ⟨hfirst, hrest⟩ := List.append_inj hbits (hlength _ _)
  obtain ⟨hsecond, hlast⟩ := List.append_inj hrest (hlength _ _)
  obtain ⟨hthird, -⟩ := List.append_inj hlast (hlength _ _)
  rw [hoctet hfirst, hoctet hsecond, hoctet hthird]

/-- A good frame that is received where a good frame was sent and disturbed was not disturbed. -/
theorem sent_of_good {sent received : Vector UInt8 3} (hsent : Sht20Good sent)
    (hreceived : Sht20Good received) (h : Disturbed sent received) : received = sent := by
  by_contra hne
  have hpoly : sht20Polynomial.msb = true := rfl
  have hlength : (frameBits sent).length = (frameBits received).length := by
    rw [length_frameBits, length_frameBits]
  have hbits : frameBits sent ≠ frameBits received := fun hsame =>
    hne (frameBits_injective hsame).symm
  have hsame : feed sht20Polynomial 0#8 (frameBits sent) =
      feed sht20Polynomial 0#8 (frameBits received) :=
    ((good_iff sent).mp hsent).trans ((good_iff received).mp hreceived).symm
  -- both frames leave the same remainder, which neither few bits nor a short burst allow
  rcases h with hfew | ⟨start, hburst⟩
  · have hperiod : ∀ k < 24, 0 < k → (step sht20Polynomial)^[k] 1#8 ≠ 1#8 := by
      decide +kernel
    refine feed_ne_of_few (Nat.succ_pos _) hpoly (by decide) hlength ?_ ?_ hfew hsame
    · rw [length_frameBits]
      exact fun k hk hlt => hperiod k hlt hk
    · refine Nat.pos_of_ne_zero fun hzero => hbits ?_
      refine List.ext_getElem hlength fun i hfirst hsecond => ?_
      have hmem := List.count_eq_zero.mp hzero
      by_contra hdiffer
      refine hmem (List.mem_iff_getElem.mpr ⟨i, by simpa using ⟨hfirst, hsecond⟩, ?_⟩)
      rw [List.getElem_zipWith]
      generalize (frameBits sent)[i] = a at hdiffer ⊢
      generalize (frameBits received)[i] = b at hdiffer ⊢
      cases a <;> cases b <;> simp at hdiffer ⊢
  · exact feed_ne_of_burst hpoly hlength hbits hburst hsame

end CheckSum

/-- What `sht20_measure_once` returns. -/
def Sht20Attempt.measured (attempt : Sht20Attempt) : EspErr :=
  if attempt.command ≠ .ok then attempt.command else attempt.read

/-- What a round of `sht20_read_measurement` comes to. -/
def sht20Outcome (isTemp : Bool) (attempt : Sht20Attempt) : Retry.Outcome EspErr Float32 :=
  if attempt.measured ≠ .ok then .again attempt.measured
  else if ¬ Sht20Good attempt.buffer then .again .invalidCrc
  else .done (sht20Value isTemp attempt.buffer)

/-- The sensor sends good frames, which the bus may disturb. -/
structure Sht20Bus (attempts : Vector Sht20Attempt 5) (sent : Vector (Vector UInt8 3) 5) :
    Prop where
  good : ∀ i, Sht20Good (sent.get i)
  disturbed : ∀ i, (attempts.get i).measured = .ok →
    Disturbed (sent.get i) (attempts.get i).buffer

/-- The frame of this attempt was read as it was sent. -/
def ReadAsSent (attempts : Vector Sht20Attempt 5) (sent : Vector (Vector UInt8 3) 5) (i : Fin 5) :
    Prop :=
  (attempts.get i).measured = .ok ∧ (attempts.get i).buffer = sent.get i

/-- The first frame that was read as it was sent. -/
def FirstRead (attempts : Vector Sht20Attempt 5) (sent : Vector (Vector UInt8 3) 5) (i : Fin 5) :
    Prop :=
  (∀ j < i, ¬ ReadAsSent attempts sent j) ∧ ReadAsSent attempts sent i

section Reading

variable {command : UInt8} {isTemp : Bool} {attempts temps hums : Vector Sht20Attempt 5}
  {sent sentTemps sentHums : Vector (Vector UInt8 3) 5} {value : Float32} {err : EspErr}

theorem round_outcome (k : Nat) (state : Unit) (attempt : Sht20Attempt) :
    (sht20Round command isTemp k state attempt).1 = sht20Outcome isTemp attempt := by
  have hmeasured : (sht20MeasureOnce command attempt).1 = attempt.measured := by
    unfold sht20MeasureOnce Sht20Attempt.measured
    split_ifs <;> rfl
  unfold sht20Round sht20Outcome
  rw [← hmeasured]
  dsimp only
  split_ifs <;> rfl

/-- A measurement has the value of the first frame that was read as it was sent, and fails if there
is none. -/
theorem readMeasurement_iff (hbus : Sht20Bus attempts sent) :
    (sht20ReadMeasurement command isTemp attempts).1 = .ok value ↔
      ∃ i, FirstRead attempts sent i ∧ value = sht20Value isTemp (sent.get i) := by
  have hread (i : Fin 5) : ReadAsSent attempts sent i ↔
      (attempts.get i).measured = .ok ∧ Sht20Good (attempts.get i).buffer := by
    refine and_congr_right fun hmeasured => ⟨fun hsame => hsame ▸ hbus.good i, fun hgood => ?_⟩
    exact sent_of_good (hbus.good i) hgood (hbus.disturbed i hmeasured)
  -- an attempt fails exactly if its frame does not arrive as it was sent
  have hfails (i : Fin 5) : (sht20Outcome isTemp (attempts.get i)).Fails ↔
      ¬ ReadAsSent attempts sent i := by
    rw [hread]
    unfold sht20Outcome
    by_cases hmeasured : (attempts.get i).measured = .ok
    · rw [if_neg (not_not.mpr hmeasured)]
      by_cases hgood : Sht20Good (attempts.get i).buffer
      · rw [if_neg (not_not.mpr hgood)]
        exact iff_of_false Retry.done_not_fails (not_not.mpr ⟨hmeasured, hgood⟩)
      · rw [if_pos hgood]
        exact iff_of_true ⟨_, rfl⟩ fun h => hgood h.2
    · rw [if_pos hmeasured]
      exact iff_of_true ⟨_, rfl⟩ fun h => hmeasured h.1
  have hdone (i : Fin 5) : sht20Outcome isTemp (attempts.get i) = .done value ↔
      ReadAsSent attempts sent i ∧ value = sht20Value isTemp (sent.get i) := by
    constructor
    · intro h
      have hcame : ReadAsSent attempts sent i := by
        by_contra hcame
        have hagain := (hfails i).mpr hcame
        rw [h] at hagain
        exact Retry.done_not_fails hagain
      have hgood := (hread i).mp hcame
      rw [sht20Outcome, if_neg (not_not.mpr hgood.1), if_neg (not_not.mpr hgood.2), hcame.2] at h
      cases h
      exact ⟨hcame, rfl⟩
    · intro h
      have hgood := (hread i).mp h.1
      rw [sht20Outcome, if_neg (not_not.mpr hgood.1), if_neg (not_not.mpr hgood.2), h.1.2, h.2]
  show (Retry.loop (sht20Round command isTemp) 0 .fail () attempts.toList).1 = .ok value ↔ _
  rw [Retry.loop_vector_ok_iff attempts round_outcome]
  refine exists_congr fun i => ?_
  rw [hdone, FirstRead, and_assoc]
  exact and_congr_left' (forall₂_congr fun j _ => hfails j)

/-- A measurement that fails returns an error. -/
theorem readMeasurement_error
    (h : (sht20ReadMeasurement command isTemp attempts).1 = .error err) : err ≠ .ok := by
  have hloop := @Retry.loop_rule _ _ _ _ _ (sht20Round command isTemp) 0 .fail () []
    (fun _ err _ _ => err ≠ .ok) (fun result _ _ => ∀ err, result = .error err → err ≠ .ok)
    attempts.toList ?_ ?_ ?_ ?_ fun h => by cases h
  · exact hloop err h
  · intro k err state shown attempt err' next more _ _ _ hround
    have houtcome := @round_outcome command isTemp k state attempt
    rw [hround, sht20Outcome] at houtcome
    split_ifs at houtcome with hmeasured hgood
    · cases houtcome
      exact hmeasured
    · cases houtcome
      exact fun h => by cases h
  · intro k err state shown attempt value next more _ _ _ _ err' h
    cases h
  · intro k err state shown attempt err' next more _ _ _ hround
    have houtcome := @round_outcome command isTemp k state attempt
    rw [hround, sht20Outcome] at houtcome
    split_ifs at houtcome
  · intro err state shown herr err' h
    cases h
    exact herr

/-- The relative humidity is a percentage, whatever was measured. -/
theorem clamp_range (x : Float32) :
    0 ≤ fminf (fmaxf x 0) 100 ∧ fminf (fmaxf x 0) 100 ≤ 100 := by
  have hzero : (0 : Float32).isNaN = false := by decide +kernel
  have hhundred : (100 : Float32).isNaN = false := by decide +kernel
  have hends : (0 : Float32) ≤ 100 := by decide +kernel
  have hpositive : (fmaxf x 0).isNaN = false ∧ 0 ≤ fmaxf x 0 := by
    unfold fmaxf
    by_cases hx : x.isNaN = true
    · rw [if_pos hx]
      exact ⟨hzero, by decide +kernel⟩
    · have hx : x.isNaN = false := eq_false_of_ne_true hx
      rw [if_neg (ne_true_of_eq_false hx), if_neg (ne_true_of_eq_false hzero)]
      by_cases hlt : x < 0
      · rw [if_pos hlt]
        exact ⟨hzero, by decide +kernel⟩
      · rw [if_neg hlt]
        exact ⟨hx, single_le_of_not_lt hzero hx hlt⟩
  obtain ⟨hnan, hle⟩ := hpositive
  generalize fmaxf x 0 = y at hnan hle
  unfold fminf
  rw [if_neg (ne_true_of_eq_false hnan), if_neg (ne_true_of_eq_false hhundred)]
  by_cases hlt : 100 < y
  · rw [if_pos hlt]
    exact ⟨hends, by decide +kernel⟩
  · rw [if_neg hlt]
    exact ⟨hle, single_le_of_not_lt hnan hhundred hlt⟩

/-- A sensor that sends good frames, over a bus that may disturb each of them or fail: the
temperature and the humidity are read if and only if one frame of each came as it was sent, and are
the values of the first that did; and the humidity is a percentage. -/
theorem sht20_reading_measured (htemps : Sht20Bus temps sentTemps) (hhums :
    Sht20Bus hums sentHums) :
    let result := sht20ReadTemperatureHumidity temps hums
    (result.1 = .ok ↔
        (∃ i, ReadAsSent temps sentTemps i) ∧ ∃ i, ReadAsSent hums sentHums i) ∧
      (result.1 = .ok → ∃ i j, FirstRead temps sentTemps i ∧ FirstRead hums sentHums j ∧
        result.2 = (some (sht20Value true (sentTemps.get i)),
          some (sht20Value false (sentHums.get j))) ∧
        0 ≤ sht20Value false (sentHums.get j) ∧ sht20Value false (sentHums.get j) ≤ 100) := by
  intro result
  have htemp (value : Float32) := @readMeasurement_iff 0xF3 true temps sentTemps value htemps
  have hhum (value : Float32) := @readMeasurement_iff 0xF5 false hums sentHums value hhums
  have htempErr (err : EspErr) := @readMeasurement_error 0xF3 true temps err
  have hhumErr (err : EspErr) := @readMeasurement_error 0xF5 false hums err
  -- the first of the frames that came as they were sent decides
  have hfirst (attempts : Vector Sht20Attempt 5) (sent : Vector (Vector UInt8 3) 5)
      (h : ∃ i, ReadAsSent attempts sent i) : ∃ i, FirstRead attempts sent i := by
    obtain ⟨i, hi⟩ := h
    obtain ⟨first, hfirst, hmin⟩ := WellFounded.has_min (@wellFounded_lt (Fin 5) _ _)
      {i | ReadAsSent attempts sent i} ⟨i, hi⟩
    exact ⟨first, fun j hj hcame => hmin j hcame hj, hfirst⟩
  have hresult : result = sht20ReadTemperatureHumidity temps hums := rfl
  unfold sht20ReadTemperatureHumidity at hresult
  generalize (sht20ReadMeasurement 0xF3 true temps).1 = temp at htemp htempErr hresult
  generalize (sht20ReadMeasurement 0xF5 false hums).1 = hum at hhum hhumErr hresult
  cases temp with
  | error err =>
      rw [hresult]
      refine ⟨iff_of_false (htempErr err rfl) fun h => ?_, fun h => absurd h (htempErr err rfl)⟩
      obtain ⟨i, hi⟩ := hfirst _ _ h.1
      cases (htemp _).mpr ⟨i, hi, rfl⟩
  | ok temp =>
      obtain ⟨i, hi, rfl⟩ := (htemp temp).mp rfl
      cases hum with
      | error err =>
          rw [hresult]
          refine ⟨iff_of_false (hhumErr err rfl) fun h => ?_, fun h => absurd h (hhumErr err rfl)⟩
          obtain ⟨j, hj⟩ := hfirst _ _ h.2
          cases (hhum _).mpr ⟨j, hj, rfl⟩
      | ok hum =>
          obtain ⟨j, hj, rfl⟩ := (hhum hum).mp rfl
          rw [hresult]
          exact ⟨iff_of_true rfl ⟨⟨i, hi.2⟩, ⟨j, hj.2⟩⟩,
            fun _ => ⟨i, j, hi, hj, rfl, clamp_range _⟩⟩

/-- Two bits of the first temperature come wrong, and the second command for the humidity is not
acknowledged. -/
theorem sht20_reading_measured_retry :
    let temp : Vector UInt8 3 := #v[0x66, 0x3C, 0xB7]
    let hum : Vector UInt8 3 := #v[0x7C, 0x82, 0x97]
    let temps : Vector Sht20Attempt 5 :=
      #v[{ buffer := #v[0x67, 0x3C, 0xA7] }, { buffer := temp }, { buffer := temp },
        { buffer := temp }, { buffer := temp }]
    let hums : Vector Sht20Attempt 5 :=
      #v[{ command := .timeout, buffer := hum }, { buffer := hum }, { buffer := hum },
        { buffer := hum }, { buffer := hum }]
    (sht20ReadTemperatureHumidity temps hums).1 = .ok := by
  intro temp hum temps hums
  have hgood : (∀ i, Sht20Good ((Vector.replicate 5 temp).get i)) ∧
      ∀ i, Sht20Good ((Vector.replicate 5 hum).get i) := by decide +kernel
  have hfew : (∀ i, (List.zipWith Bool.xor (frameBits ((Vector.replicate 5 temp).get i))
        (frameBits (temps.get i).buffer)).count true ≤ 3) ∧
      ∀ i, (List.zipWith Bool.xor (frameBits ((Vector.replicate 5 hum).get i))
        (frameBits (hums.get i).buffer)).count true ≤ 3 := by decide +kernel
  have htemps : Sht20Bus temps (Vector.replicate 5 temp) := ⟨hgood.1, fun i _ => Or.inl (hfew.1 i)⟩
  have hhums : Sht20Bus hums (Vector.replicate 5 hum) := ⟨hgood.2, fun i _ => Or.inl (hfew.2 i)⟩
  exact (sht20_reading_measured htemps hhums).1.mpr ⟨⟨1, rfl, rfl⟩, ⟨1, rfl, rfl⟩⟩

end Reading

/-- The command of a measurement. -/
def sht20Command (isTemp : Bool) : UInt8 :=
  if isTemp then 0xF3 else 0xF5

/-- The pause after a command. -/
def sht20Wait (isTemp : Bool) : Nat :=
  if isTemp then 85 else 29

def Sht20Call.ms : Sht20Call → Nat
  | .delay ms => ms
  | _ => 0

/-- How often the sensor was told to measure and to reset, and how long was paused. -/
structure Tally where
  triggers : Nat
  resets : Nat
  paused : Nat

def tally (isTemp : Bool) (calls : List Sht20Call) : Tally where
  triggers := calls.count (.write (sht20Command isTemp))
  resets := calls.count (.write 0xFE)
  paused := (calls.map Sht20Call.ms).sum

section Calls

variable {isTemp : Bool} {k : Nat} {attempt : Sht20Attempt}

theorem tally_append (first second : List Sht20Call) :
    tally isTemp (first ++ second) =
      ⟨(tally isTemp first).triggers + (tally isTemp second).triggers,
        (tally isTemp first).resets + (tally isTemp second).resets,
        (tally isTemp first).paused + (tally isTemp second).paused⟩ := by
  simp only [tally, List.count_append, List.map_append, List.sum_append]

theorem tally_measureOnce :
    let calls := (sht20MeasureOnce (sht20Command isTemp) attempt).2
    (tally isTemp calls).triggers = 1 ∧ (tally isTemp calls).resets = 0 ∧
      (tally isTemp calls).paused ≤ sht20Wait isTemp := by
  unfold sht20MeasureOnce
  by_cases hcommand : attempt.command ≠ .ok
  · rw [if_pos hcommand]
    dsimp only
    cases isTemp <;> decide
  · rw [if_neg hcommand]
    dsimp only
    cases isTemp <;> decide

theorem tally_recover (k : Nat) (reset : EspErr) :
    let calls := sht20Recover k reset
    (tally isTemp calls).triggers = 0 ∧ (tally isTemp calls).resets = (if 2 ≤ k then 1 else 0) ∧
      (tally isTemp calls).paused ≤ (if 2 ≤ k then 20 else 0) + 10 * 2 ^ k := by
  have hother : sht20Command isTemp ≠ 0xFE := by cases isTemp <;> decide
  have hpause : tally isTemp [.delay (10 <<< k)] = ⟨0, 0, 10 * 2 ^ k⟩ := by
    simp [tally, Sht20Call.ms, Nat.shiftLeft_eq]
  have hreset : tally isTemp [.write 0xFE] = ⟨0, 1, 0⟩ := by
    simp [tally, Sht20Call.ms, hother.symm]
  intro calls
  rw [show calls = sht20Recover k reset from rfl, sht20Recover, tally_append, hpause]
  by_cases htwo : 2 ≤ k
  · rw [if_pos htwo, if_pos htwo, if_pos htwo, tally_append, hreset]
    by_cases hok : reset = .ok
    · rw [if_pos hok]
      exact ⟨rfl, rfl, le_of_eq rfl⟩
    · rw [if_neg hok]
      exact ⟨rfl, rfl, by simp [tally]⟩
  · rw [if_neg htwo, if_neg htwo, if_neg htwo]
    exact ⟨rfl, rfl, le_of_eq rfl⟩

/-- A round of a measurement: one command, and behind a failure what follows it. -/
theorem tally_round (k : Nat) (state : Unit) (attempt : Sht20Attempt) :
    let round := sht20Round (sht20Command isTemp) isTemp k state attempt
    let calls := tally isTemp round.2.2
    calls.triggers = 1 ∧
      (round.1.Fails → calls.resets = (if 2 ≤ k then 1 else 0) ∧
        calls.paused ≤ sht20Wait isTemp + ((if 2 ≤ k then 20 else 0) + 10 * 2 ^ k)) ∧
      (¬ round.1.Fails → calls.resets = 0 ∧ calls.paused ≤ sht20Wait isTemp) := by
  have hmeasure := @tally_measureOnce isTemp attempt
  have hrecover := @tally_recover isTemp k attempt.reset
  unfold sht20Round
  generalize sht20MeasureOnce (sht20Command isTemp) attempt = measured at hmeasure
  obtain ⟨lastErr, calls⟩ := measured
  dsimp only at hmeasure hrecover ⊢
  -- a failed round ends in the recovery whatever failed in it
  have hfailed (err : EspErr) :
      let calls := tally isTemp (calls ++ sht20Recover k attempt.reset)
      calls.triggers = 1 ∧
        ((Retry.Outcome.again err : Retry.Outcome EspErr Float32).Fails →
          calls.resets = (if 2 ≤ k then 1 else 0) ∧
          calls.paused ≤ sht20Wait isTemp + ((if 2 ≤ k then 20 else 0) + 10 * 2 ^ k)) ∧
        (¬ (Retry.Outcome.again err : Retry.Outcome EspErr Float32).Fails →
          calls.resets = 0 ∧ calls.paused ≤ sht20Wait isTemp) := by
    rw [tally_append]
    dsimp only
    rw [hmeasure.1, hmeasure.2.1, hrecover.1, hrecover.2.1, Nat.zero_add]
    exact ⟨rfl, fun _ => ⟨rfl, Nat.add_le_add hmeasure.2.2 hrecover.2.2⟩,
      fun h => absurd ⟨err, rfl⟩ h⟩
  by_cases herr : lastErr ≠ .ok
  · rw [if_pos herr]
    exact hfailed lastErr
  · rw [if_neg herr]
    by_cases hgood : ¬ Sht20Good attempt.buffer
    · rw [if_pos hgood]
      exact hfailed .invalidCrc
    · rw [if_neg hgood]
      exact ⟨hmeasure.1, fun h => absurd h Retry.done_not_fails, fun _ => hmeasure.2⟩

/-- A measurement gives one to five commands. With the third failure and every one after it the
sensor is reset, and the pauses take 795 ms at most for a temperature and 515 ms for a humidity. -/
theorem sht20_calls_bounded (isTemp : Bool) (attempts : Vector Sht20Attempt 5) :
    let result := sht20ReadMeasurement (sht20Command isTemp) isTemp attempts
    let calls := tally isTemp result.2
    (∀ value, result.1 = .ok value →
        0 < calls.triggers ∧ calls.triggers ≤ 5 ∧ calls.resets = calls.triggers - 3) ∧
      (∀ err, result.1 = .error err → calls.triggers = 5 ∧ calls.resets = 3) ∧
      calls.paused ≤ if isTemp then 795 else 515 := by
  -- before the `k`-th round
  have hloop := @Retry.loop_rule _ _ _ _ _ (sht20Round (sht20Command isTemp) isTemp) 0 .fail () []
    (fun k _ _ shown => (tally isTemp shown).triggers = k ∧ (tally isTemp shown).resets = k - 2 ∧
      (tally isTemp shown).paused ≤ k * sht20Wait isTemp + (20 * (k - 2) + 10 * (2 ^ k - 1)))
    (fun result _ shown => (∀ value, result = .ok value → 0 < (tally isTemp shown).triggers ∧
        (tally isTemp shown).triggers ≤ 5 ∧
        (tally isTemp shown).resets = (tally isTemp shown).triggers - 3) ∧
      (∀ err, result = .error err → (tally isTemp shown).triggers = 5 ∧
        (tally isTemp shown).resets = 3) ∧
      (tally isTemp shown).paused ≤ 5 * sht20Wait isTemp + (20 * 3 + 10 * (2 ^ 5 - 1)))
    attempts.toList ?_ ?_ ?_ ?_ ⟨rfl, rfl, Nat.zero_le _⟩
  · refine ⟨hloop.1, hloop.2.1, hloop.2.2.trans ?_⟩
    cases isTemp <;> decide
  · intro k err state shown attempt err' next more _ _ hbefore hround
    have hmore := @tally_round isTemp k state attempt
    rw [hround] at hmore
    obtain ⟨htriggers, hfails, -⟩ := hmore
    obtain ⟨hresets, hpaused⟩ := hfails ⟨err', rfl⟩
    rw [tally_append]
    dsimp only at htriggers hresets hpaused ⊢
    have hwait : (k + 1) * sht20Wait isTemp = k * sht20Wait isTemp + sht20Wait isTemp :=
      Nat.succ_mul _ _
    have hdouble : 2 ^ (k + 1) = 2 * 2 ^ k := Nat.pow_succ'
    have hpos : 0 < 2 ^ k := Nat.two_pow_pos k
    rw [hwait, hdouble, hbefore.1, hbefore.2.1, htriggers, hresets]
    refine ⟨rfl, ?_, ?_⟩
    · split_ifs <;> omega
    · have hsum := Nat.add_le_add hbefore.2.2 hpaused
      split_ifs at hsum <;> omega
  · intro k err state shown attempt value next more hk _ hbefore hround
    have hmore := @tally_round isTemp k state attempt
    rw [hround] at hmore
    obtain ⟨htriggers, -, hdone⟩ := hmore
    obtain ⟨hresets, hpaused⟩ := hdone Retry.done_not_fails
    rw [Vector.length_toList, Nat.zero_add] at hk
    have hrounds : (k + 1) * sht20Wait isTemp ≤ 5 * sht20Wait isTemp := Nat.mul_le_mul_right _ hk
    have hwait : (k + 1) * sht20Wait isTemp = k * sht20Wait isTemp + sht20Wait isTemp :=
      Nat.succ_mul _ _
    have hpow : 2 ^ k ≤ 2 ^ 5 := Nat.pow_le_pow_right Nat.two_pos hk.le
    rw [tally_append]
    dsimp only at htriggers hresets hpaused ⊢
    rw [hbefore.1, hbefore.2.1, htriggers, hresets]
    refine ⟨fun _ _ => ⟨Nat.succ_pos k, hk, by omega⟩, (fun err h => by cases h), ?_⟩
    have hsum := Nat.add_le_add hbefore.2.2 hpaused
    omega
  · intro k err state shown attempt err' next more _ _ _ hround
    have houtcome := @round_outcome (sht20Command isTemp) isTemp k state attempt
    rw [hround, sht20Outcome] at houtcome
    split_ifs at houtcome
  · intro err state shown hend
    rw [Vector.length_toList, Nat.zero_add] at hend
    exact ⟨(fun value h => by cases h), fun _ _ => ⟨hend.1, hend.2.1⟩, hend.2.2⟩

end Calls

end SensorHmi
