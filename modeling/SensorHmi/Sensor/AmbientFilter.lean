import SensorHmi.Lib.Blend
import SensorHmi.Sensor.SensorsTask

/-!
# The filter of the ambient readings

`ema_update` and the loop of `update_ambient_readings` over any kind of number, and what they
compute over the rationals. The two averages of a slot share one flag, which the temperature
takes: the humidity is blended from the first reading on, and into a zero. So the averages stay
within what was read exactly if the first humidity read is a zero too (`filterWithin_iff`).
-/

namespace SensorHmi

open Blend

/-- `ema_update` over any kind of number. -/
def emaUpdateOver {K : Type} [Add K] [Sub K] [Mul K] (alpha prev sample : K) (initialized : Bool) :
    K × Bool :=
  if !initialized then (sample, true) else (blend alpha prev sample, initialized)

/-- `ambient_temp_ema`, `ambient_hum_ema` and `ambient_initialized` of `s_ctx`. -/
structure AmbientFilters (K : Type) where
  temp : Vector K 2
  hum : Vector K 2
  initialized : Vector Bool 2

/-- What an iteration reads: nothing of a slot whose read fails. -/
abbrev AmbientReads (K : Type) := Fin 2 → Option (K × K)

namespace AmbientFilters

variable {K : Type}

/-- The filters of the zeroed `s_ctx`. -/
def start [Zero K] : AmbientFilters K :=
  ⟨Vector.replicate 2 0, Vector.replicate 2 0, Vector.replicate 2 false⟩

variable [Add K] [Sub K] [Mul K] (alpha : K) (ambientCount : Nat) (filters : AmbientFilters K)

/-- One round of the loop of `update_ambient_readings`, with what `ambient_sensor_read` returned. -/
def round (i : Fin 2) : Option (K × K) → AmbientFilters K
  | none => filters
  | some (temp, hum) =>
      let (filteredTemp, initialized) :=
        emaUpdateOver alpha (filters.temp.get i) temp (filters.initialized.get i)
      let (filteredHum, initialized) := emaUpdateOver alpha (filters.hum.get i) hum initialized
      { temp := filters.temp.setIfInBounds i filteredTemp
        hum := filters.hum.setIfInBounds i filteredHum
        initialized := filters.initialized.setIfInBounds i initialized }

/-- The loop of `update_ambient_readings`. -/
def update (reads : AmbientReads K) : AmbientFilters K :=
  ((List.finRange 2).take ambientCount).foldl (fun filters i => filters.round alpha i (reads i))
    filters

end AmbientFilters

theorem finRange_two : List.finRange 2 = [0, 1] := rfl

section Task

variable (build : SensorsBuild) (inputs : SensorsInputs) (ctx : SensorsTaskCtx)

/-- The filters in the context of the task. -/
def SensorsTaskCtx.filters : AmbientFilters Float32 :=
  ⟨ctx.ambientTempEma, ctx.ambientHumEma, ctx.ambientInitialized⟩

/-- What the sensors of a build return in an iteration. -/
def ambientReads : AmbientReads Float32 := fun i =>
  (ioMapAmbient build.ambient)[i.val]?.bind fun sensor =>
    (ambientSensorRead build.ambient (inputs.muxSelect i) (inputs.ambientDriver i) sensor).toOption

variable {build inputs ctx} in
/-- A round of the loop of the task filters what is read. -/
theorem filters_updateAmbientReading {sensor : IoAmbientSensor} {i : Fin 2} :
    (updateAmbientReading build inputs ctx sensor i).1.filters =
      ctx.filters.round 0.25 i (ambientSensorRead build.ambient (inputs.muxSelect i)
        (inputs.ambientDriver i) sensor).toOption := by
  unfold updateAmbientReading
  cases ambientSensorRead build.ambient (inputs.muxSelect i) (inputs.ambientDriver i) sensor with
  | error err => rfl
  | ok reading => rfl

/-- The task filters its readings with a quarter for the part of the way. -/
theorem filters_updateAmbientReadings :
    (updateAmbientReadings build inputs ctx).1.filters =
      ctx.filters.update 0.25 (ioMapAmbient build.ambient).length (ambientReads build inputs) := by
  rw [updateAmbientReadings]
  refine Eq.trans (Eq.symm (@List.foldl_hom _ _ _
    (fun state : SensorsTaskCtx × List SensorsAction => state.1.filters) _
    (fun filters (slot : IoAmbientSensor × Fin 2) => filters.round 0.25 slot.2
      (ambientSensorRead build.ambient (inputs.muxSelect slot.2) (inputs.ambientDriver slot.2)
        slot.1).toOption)
    _ (ctx, []) fun state slot => filters_updateAmbientReading.symm)) ?_
  rw [AmbientFilters.update, finRange_two]
  unfold ambientReads
  -- the loop ends with the list of sensors or with the slots
  rcases ioMapAmbient build.ambient with _ | ⟨first, _ | ⟨second, rest⟩⟩
  · rfl
  · rfl
  · simp only [List.zip_cons_cons, List.zip_nil_right, List.length_cons, List.take_succ_cons,
      List.take_nil, List.foldl_cons, List.foldl_nil]
    rfl

end Task

section Slot

variable {K : Type} [Field K] {alpha : K} {ambientCount : Nat} {filters : AmbientFilters K}
  {i : Fin 2} {iterations : List (AmbientReads K)}

/-- The averages and the flag of one slot. -/
def AmbientFilters.slot (filters : AmbientFilters K) (i : Fin 2) : K × K × Bool :=
  (filters.temp.get i, filters.hum.get i, filters.initialized.get i)

/-- What was read of a slot, in order. -/
def readings (i : Fin 2) (iterations : List (AmbientReads K)) : List (K × K) :=
  iterations.filterMap fun reads => reads i

/-- A slot after a reading: the humidity finds the flag taken. -/
def slotRead (alpha : K) : K × K × Bool → K × K → K × K × Bool
  | (tempEma, humEma, initialized), (temp, hum) =>
      (if initialized then blend alpha tempEma temp else temp, blend alpha humEma hum, true)

theorem vector_get_set {α : Type} (v : Vector α 2) (i j : Fin 2) (x : α) :
    (v.setIfInBounds i x).get j = if j = i then x else v.get j := by
  rw [Vector.get_eq_getElem, Vector.getElem_setIfInBounds, Vector.get_eq_getElem]
  simp only [Fin.ext_iff, eq_comm]

/-- A round changes its own slot only. -/
theorem slot_round {j : Fin 2} {reading : Option (K × K)} :
    (filters.round alpha i reading).slot j =
      if j = i then (reading.map (slotRead alpha (filters.slot i))).getD (filters.slot i)
      else filters.slot j := by
  cases reading with
  | none =>
      split_ifs with hsame
      · rw [hsame]
        rfl
      · rfl
  | some sample =>
      obtain ⟨temp, hum⟩ := sample
      simp only [AmbientFilters.slot, AmbientFilters.round, vector_get_set]
      split_ifs with hsame
      · cases hflag : filters.initialized.get i <;> simp [emaUpdateOver, slotRead]
      · rfl

/-- An iteration adds to each slot in use what is read of it. -/
theorem slot_update {reads : AmbientReads K} (hi : i.val < ambientCount) :
    (filters.update alpha ambientCount reads).slot i =
      ((reads i).map (slotRead alpha (filters.slot i))).getD (filters.slot i) := by
  rw [AmbientFilters.update, finRange_two]
  match ambientCount with
  | 1 =>
      obtain rfl : i = 0 := by omega
      exact slot_round.trans (if_pos rfl)
  | count + 2 =>
      simp only [List.take_succ_cons, List.take_nil, List.foldl_cons, List.foldl_nil]
      rw [slot_round]
      split_ifs with hlast
      · rw [slot_round, if_neg (by decide), hlast]
      · obtain rfl : i = 0 := by omega
        exact slot_round.trans (if_pos rfl)

/-- After a run a slot in use has seen its readings. -/
theorem slot_run (hi : i.val < ambientCount) :
    (iterations.foldl (AmbientFilters.update alpha ambientCount) filters).slot i =
      (readings i iterations).foldl (slotRead alpha) (filters.slot i) := by
  induction iterations generalizing filters with
  | nil => rfl
  | cons reads rest ih =>
      rw [List.foldl_cons, ih, slot_update hi]
      unfold readings
      rw [List.filterMap_cons]
      cases reads i <;> rfl

/-- Once the flag is taken both averages are blended. -/
theorem slotRead_foldl {samples : List (K × K)} {temp hum : K} :
    samples.foldl (slotRead alpha) (temp, hum, true) =
      ((samples.map Prod.fst).foldl (blend alpha) temp,
        (samples.map Prod.snd).foldl (blend alpha) hum, true) := by
  induction samples generalizing temp hum with
  | nil => rfl
  | cons sample rest ih => exact ih

/-- A fresh slot after its readings: the temperatures are blended into the first, the humidities
into a zero. -/
theorem slotRead_start {first : K × K} {rest : List (K × K)} :
    (first :: rest).foldl (slotRead alpha) (AmbientFilters.start.slot i) =
      ((rest.map Prod.fst).foldl (blend alpha) first.1,
        ((first :: rest).map Prod.snd).foldl (blend alpha) 0, true) := by
  have hstart : AmbientFilters.start.slot i = ((0 : K), (0 : K), false) := by
    simp [AmbientFilters.slot, AmbientFilters.start, Vector.get_eq_getElem]
  rw [List.foldl_cons, hstart]
  exact slotRead_foldl

omit [Field K] in
/-- The first reading of a slot stands behind a run without one. -/
theorem head?_readings {sample : K × K} :
    (readings i iterations).head? = some sample ↔
      ∃ before reads after, iterations = before ++ reads :: after ∧ reads i = some sample ∧
        readings i before = [] := by
  unfold readings
  rw [List.head?_filterMap, List.findSome?_eq_some_iff]
  simp only [List.filterMap_eq_nil_iff]

end Slot

section Run

variable {ambientCount : Nat} {iterations : List (AmbientReads ℚ)} {i : Fin 2}

/-- `AMBIENT_EMA_ALPHA` -/
def ambientEmaAlpha : ℚ := 1 / 4

/-- The filters after a run of `update_ambient_readings`. -/
def filtersAfter (ambientCount : Nat) (iterations : List (AmbientReads ℚ)) : AmbientFilters ℚ :=
  iterations.foldl (AmbientFilters.update ambientEmaAlpha ambientCount) AmbientFilters.start

/-- After each successful read of a slot in use, both averages lie within what has been read of it
so far, and the first reading is stored unchanged. -/
def FilterWithin (ambientCount : Nat) (iterations : List (AmbientReads ℚ)) : Prop :=
  ∀ before reads after, iterations = before ++ reads :: after →
    ∀ i : Fin 2, i.val < ambientCount → ∀ temp hum, reads i = some (temp, hum) →
      let filters := filtersAfter ambientCount (before ++ [reads])
      let samples := readings i (before ++ [reads])
      Between (samples.map Prod.fst) (filters.temp.get i) ∧
        Between (samples.map Prod.snd) (filters.hum.get i) ∧
        (readings i before = [] → filters.temp.get i = temp ∧ filters.hum.get i = hum)

/-- The averages of a slot in use after a run that has read it. -/
theorem filtersAfter_get (hi : i.val < ambientCount) {first : ℚ × ℚ} {rest : List (ℚ × ℚ)}
    (hread : readings i iterations = first :: rest) :
    (filtersAfter ambientCount iterations).temp.get i =
        (rest.map Prod.fst).foldl (blend ambientEmaAlpha) first.1 ∧
      (filtersAfter ambientCount iterations).hum.get i =
        ((first :: rest).map Prod.snd).foldl (blend ambientEmaAlpha) 0 := by
  have hslot : (filtersAfter ambientCount iterations).slot i = _ :=
    (slot_run hi).trans ((congrArg _ hread).trans slotRead_start)
  obtain ⟨htemp, hrest⟩ := Prod.mk.inj hslot
  exact ⟨htemp, (Prod.mk.inj hrest).1⟩

theorem readings_append {before after : List (AmbientReads ℚ)} :
    readings i (before ++ after) = readings i before ++ readings i after :=
  List.filterMap_append

end Run

/-- Over every run of iterations, with any reads failing, both averages of every slot stay within
what is read of it, exactly when the first humidity read of each slot is zero. -/
theorem filterWithin_iff (ambientCount : Nat) (iterations : List (AmbientReads ℚ)) :
    FilterWithin ambientCount iterations ↔
      ∀ i : Fin 2, i.val < ambientCount → ∀ first,
        (readings i iterations).head? = some first → first.2 = 0 := by
  have hpos : (0 : ℚ) ≤ ambientEmaAlpha := by norm_num [ambientEmaAlpha]
  have hone : ambientEmaAlpha < 1 := by norm_num [ambientEmaAlpha]
  constructor
  · intro hwithin i hi first hfirst
    obtain ⟨before, reads, after, hsplit, hread, hnone⟩ := head?_readings.mp hfirst
    obtain ⟨-, -, hkept⟩ := hwithin before reads after hsplit i hi first.1 first.2 hread
    have hsamples : readings i (before ++ [reads]) = [first] := by
      rw [readings_append, hnone, readings, List.filterMap_cons, hread]
      rfl
    have hhum := (filtersAfter_get hi hsamples).2
    rw [(hkept hnone).2] at hhum
    exact (blend_zero_iff hone).mp hhum.symm
  · intro hzero before reads after hsplit i hi temp hum hread
    dsimp only
    have hlast : readings i (before ++ [reads]) = readings i before ++ [(temp, hum)] := by
      rw [readings_append, readings, readings, List.filterMap_cons, hread]
      rfl
    cases hsamples : readings i (before ++ [reads]) with
    | nil =>
        rw [hsamples] at hlast
        exact absurd hlast.symm (by simp)
    | cons first rest =>
        obtain ⟨htemp, hhum⟩ := filtersAfter_get hi hsamples
        have hfirst : first.2 = 0 := by
          refine hzero i hi first ?_
          rw [hsplit, List.append_cons, readings_append, hsamples]
          rfl
        -- a zero blended into the initial zero is stored unchanged
        have hkept : blend ambientEmaAlpha 0 first.2 = first.2 := (blend_zero_iff hone).mpr hfirst
        rw [List.map_cons, List.foldl_cons, hkept] at hhum
        refine ⟨?_, ?_, ?_⟩
        · rw [htemp]
          exact between_foldl_first hpos hone.le
        · rw [hhum]
          exact between_foldl_first hpos hone.le
        · intro hnone
          rw [hsamples, hnone] at hlast
          obtain ⟨rfl, rfl⟩ := List.cons.inj hlast
          exact ⟨htemp, hhum⟩

/-- The first humidity of a sensor is stored as a quarter of what was read. -/
theorem not_filterWithin :
    ¬ ∀ (ambientCount : Nat) (iterations : List (AmbientReads ℚ)),
      FilterWithin ambientCount iterations := by
  intro h
  have hkept := (h 1 [fun _ => some (20, 50)] [] (fun _ => some (20, 50)) [] rfl 0 (by decide) 20 50
    rfl).2.2 rfl
  have hhum := (@filtersAfter_get 1 [fun _ => some (20, 50)] 0 (by decide) (20, 50) [] rfl).2
  have hquarter : (filtersAfter 1 [fun _ => some (20, 50)]).hum.get 0 = ambientEmaAlpha * 50 := by
    simpa [blend] using hhum
  have hsame : (50 : ℚ) = ambientEmaAlpha * 50 := hkept.2.symm.trans hquarter
  norm_num [ambientEmaAlpha] at hsame

end SensorHmi
