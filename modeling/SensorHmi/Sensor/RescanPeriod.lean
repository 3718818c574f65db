import SensorHmi.Sensor.Ds18b20

/-!
# The period of the one-wire scan

`ensure_ds18b20_devices` compares the tick counter with its deadline as numbers, other than
`ds18b20_conversion_complete`, which takes their difference. Times are counted in ticks that do not
wrap. The scan keeps its period in a run exactly when, at each iteration with devices, the time and
the deadline fall into the same turn of the counter: `rescan_period_iff`.
-/

namespace SensorHmi

/-- The tick counter at a time, when it stood at `start` at time 0. -/
def tickAt (start : TickType) (time : Nat) : TickType :=
  start + UInt32.ofNat time

/-- An iteration: the ticks since the one before, and what the platform answers. -/
structure TimedInputs where
  gap : Nat
  inputs : SensorsInputs

/-- The task, the time of its last iteration, and that of its last attempt to scan. -/
structure TimedSensors where
  task : SensorsTaskCtx
  lastTime : Nat := 0
  lastScan : Nat := 0

/-- `ensure_ds18b20_devices` calls `onewire_bus_scan`. -/
def ScansBus (ctx : SensorsTaskCtx) (now : TickType) : Prop :=
  ¬ (0 < ctx.dsDevices.length ∧ now < ctx.nextDsScanTick)

instance (ctx : SensorsTaskCtx) (now : TickType) : Decidable (ScansBus ctx now) :=
  inferInstanceAs (Decidable (¬ _))

variable (build : SensorsBuild) (start : TickType)

/-- The task when its loop is reached, at time 0. -/
def timedSensorsStart (boot : SensorsInputs) : TimedSensors where
  task := (sensorsTaskStart build { boot with scanTick := tickAt start 0 }).1

/-- One iteration of the loop of `sensors_task`. -/
def timedSensorsStep (node : TimedSensors) (event : TimedInputs) :
    TimedSensors × List SensorsAction :=
  let time := node.lastTime + event.gap
  let now := tickAt start time
  let (task, actions) := sensorsTaskStep build node.task { event.inputs with scanTick := now }
  (⟨task, time, if ScansBus node.task now then time else node.lastScan⟩, actions)

/-- With devices known, the iteration scans if and only if `DS18B20_SCAN_INTERVAL_MS` have passed
since the last attempt. -/
def KeepsScanPeriod (node : TimedSensors) (event : TimedInputs) : Prop :=
  let time := node.lastTime + event.gap
  0 < node.task.dsDevices.length →
    (ScansBus node.task (tickAt start time) ↔
      60000 * build.tickRateHz.toNat ≤ 1000 * (time - node.lastScan))

/-- With devices known, the time of the iteration and 60 seconds after the last attempt fall into
the same turn of the tick counter. -/
def InTurnOfDeadline (node : TimedSensors) (event : TimedInputs) : Prop :=
  0 < node.task.dsDevices.length →
    (start.toNat + node.lastTime + event.gap) / 2 ^ 32 =
      (start.toNat + node.lastScan + 60 * build.tickRateHz.toNat) / 2 ^ 32

section Period

variable {build start} {inputs : SensorsInputs} {ctx : SensorsTaskCtx} {node : TimedSensors}
  {event : TimedInputs}

/-- Numbers less than a turn apart compare like their remainders exactly within a turn. -/
theorem not_mod_lt_mod_iff {time deadline : Nat} (hearly : deadline < time + 2 ^ 32)
    (hlate : time < deadline + 2 ^ 32) :
    ((¬ time % 2 ^ 32 < deadline % 2 ^ 32) ↔ deadline ≤ time) ↔
      time / 2 ^ 32 = deadline / 2 ^ 32 := by
  omega

theorem toNat_tickAt (start : TickType) (time : Nat) :
    (tickAt start time).toNat = (start.toNat + time) % 2 ^ 32 := by
  rw [tickAt, UInt32.toNat_add, UInt32.toNat_ofNat']
  omega

/-- The interval in ticks; no tick rate is above 1000. -/
theorem toNat_scanInterval (hrate : build.tickRateHz.toNat ≤ 1000) :
    (pdMsToTicks build.tickRateHz 60000).toNat = 60 * build.tickRateHz.toNat := by
  rw [pdMsToTicks, UInt32.toNat_div, UInt32.toNat_mul]
  simp only [UInt32.reduceToNat]
  omega

/-- A scan puts the deadline off, whatever the bus answers; without one nothing changes. -/
theorem ensureDs18b20Devices_deadline (build : SensorsBuild) (inputs : SensorsInputs)
    (ctx : SensorsTaskCtx) :
    (ensureDs18b20Devices build inputs ctx).1.nextDsScanTick =
      if ScansBus ctx inputs.scanTick then inputs.scanTick + pdMsToTicks build.tickRateHz 60000
      else ctx.nextDsScanTick := by
  by_cases hscan : ScansBus ctx inputs.scanTick
  · have hdue : ¬ (0 < ctx.dsDevices.length ∧ inputs.scanTick < ctx.nextDsScanTick) := hscan
    rw [if_pos hscan, ensureDs18b20Devices, if_neg hdue]
    cases onewireBusScan inputs 4 <;> rfl
  · rw [if_neg hscan, ensureDs18b20Devices, if_pos (not_not.mp hscan)]

/-- Reading and starting conversions leave the deadline alone. -/
theorem readDs18b20Temperatures_deadline :
    (readDs18b20Temperatures build inputs ctx).1.nextDsScanTick = ctx.nextDsScanTick := by
  unfold readDs18b20Temperatures
  split_ifs <;> rfl

theorem kickDs18b20Conversion_deadline :
    (kickDs18b20Conversion build inputs ctx).1.nextDsScanTick = ctx.nextDsScanTick := by
  unfold kickDs18b20Conversion
  split_ifs
  · rfl
  · cases inputs.startConversion <;> rfl

theorem sensorsTaskStep_deadline (build : SensorsBuild) (inputs : SensorsInputs)
    (ctx : SensorsTaskCtx) :
    (sensorsTaskStep build ctx inputs).1.nextDsScanTick =
      if ScansBus ctx inputs.scanTick then inputs.scanTick + pdMsToTicks build.tickRateHz 60000
      else ctx.nextDsScanTick := by
  obtain ⟨hsame, -⟩ := @updateAmbientReadings_frame build inputs ctx
  have hscans : ScansBus (updateAmbientReadings build inputs ctx).1 inputs.scanTick ↔
      ScansBus ctx inputs.scanTick := by
    rw [ScansBus, ScansBus, hsame.devices, hsame.nextScan]
  simp only [sensorsTaskStep, kickDs18b20Conversion_deadline, readDs18b20Temperatures_deadline,
    ensureDs18b20Devices_deadline, hscans, hsame.nextScan]

/-- The deadline is 60 seconds after the last attempt, and the last iteration was not after it. -/
structure ScanDue (build : SensorsBuild) (start : TickType) (node : TimedSensors) : Prop where
  deadline : node.task.nextDsScanTick =
    tickAt start node.lastScan + pdMsToTicks build.tickRateHz 60000
  scanned : node.lastScan ≤ node.lastTime
  due : node.lastTime ≤ node.lastScan + 60 * build.tickRateHz.toNat

/-- An iteration that keeps the period. -/
theorem ScanDue.step (h : ScanDue build start node)
    (hperiod : KeepsScanPeriod build start node event) :
    ScanDue build start (timedSensorsStep build start node event).1 := by
  have hdeadline := sensorsTaskStep_deadline build
    { event.inputs with scanTick := tickAt start (node.lastTime + event.gap) } node.task
  have hscanned := h.scanned
  dsimp only at hdeadline
  by_cases hscan : ScansBus node.task (tickAt start (node.lastTime + event.gap))
  · rw [if_pos hscan] at hdeadline
    refine ⟨?_, ?_, ?_⟩
    · simp only [timedSensorsStep, if_pos hscan, hdeadline]
    · simp only [timedSensorsStep, if_pos hscan, le_refl]
    · simp only [timedSensorsStep, if_pos hscan]
      exact Nat.le_add_right _ _
  · rw [if_neg hscan] at hdeadline
    have hdevices : 0 < node.task.dsDevices.length := (not_not.mp hscan).1
    have hearly : ¬ 60000 * build.tickRateHz.toNat ≤
        1000 * (node.lastTime + event.gap - node.lastScan) :=
      fun hlate => hscan ((hperiod hdevices).mpr hlate)
    refine ⟨?_, ?_, ?_⟩
    · simp only [timedSensorsStep, if_neg hscan, hdeadline, h.deadline]
    · simp only [timedSensorsStep, if_neg hscan]
      omega
    · simp only [timedSensorsStep, if_neg hscan]
      omega

/-- An iteration at most 10 seconds after the last one. -/
theorem ScanDue.keepsScanPeriod_iff (hrate : build.tickRateHz.toNat ≤ 1000)
    (h : ScanDue build start node) (hgap : 1000 * event.gap ≤ 10000 * build.tickRateHz.toNat) :
    KeepsScanPeriod build start node event ↔ InTurnOfDeadline build start node event := by
  have hscanned := h.scanned
  have hdue := h.due
  refine forall_congr' fun hdevices => ?_
  have hdeadline : node.task.nextDsScanTick.toNat =
      (start.toNat + node.lastScan + 60 * build.tickRateHz.toNat) % 2 ^ 32 := by
    rw [h.deadline, UInt32.toNat_add, toNat_tickAt, toNat_scanInterval hrate]
    omega
  have hscans : ScansBus node.task (tickAt start (node.lastTime + event.gap)) ↔
      ¬ (start.toNat + node.lastTime + event.gap) % 2 ^ 32 <
        (start.toNat + node.lastScan + 60 * build.tickRateHz.toNat) % 2 ^ 32 := by
    rw [ScansBus, and_iff_right hdevices, UInt32.lt_iff_toNat_lt, toNat_tickAt, hdeadline,
      ← Nat.add_assoc start.toNat node.lastTime]
  have hreal : 60000 * build.tickRateHz.toNat ≤
      1000 * (node.lastTime + event.gap - node.lastScan) ↔
        start.toNat + node.lastScan + 60 * build.tickRateHz.toNat ≤
          start.toNat + node.lastTime + event.gap := by
    omega
  rw [hscans, hreal]
  exact not_mod_lt_mod_iff (by omega) (by omega)

/-- At the start of the loop the bus was just scanned. -/
theorem scanDue_start (boot : SensorsInputs) :
    ScanDue build start (timedSensorsStart build start boot) := by
  refine ⟨?_, le_refl _, Nat.zero_le _⟩
  have hscans : ScansBus { nextDsScanTick := tickAt start 0 } (tickAt start 0) :=
    fun hdevices => absurd hdevices.1 (Nat.lt_irrefl 0)
  simp only [timedSensorsStart, sensorsTaskStart, kickDs18b20Conversion_deadline,
    ensureDs18b20Devices_deadline, if_pos hscans]

end Period

/-- In every run whose iterations are at most 10 seconds apart, the scan keeps its period at each
iteration if and only if at each iteration with devices the time and the deadline fall into the
same turn of the tick counter. -/
theorem rescan_period_iff (hrate : build.tickRateHz.toNat ≤ 1000) (boot : SensorsInputs)
    (events : List TimedInputs)
    (hgaps : ∀ event ∈ events, 1000 * event.gap ≤ 10000 * build.tickRateHz.toNat) :
    Machine.EachStep (timedSensorsStep build start) (KeepsScanPeriod build start)
        (timedSensorsStart build start boot) events ↔
      Machine.EachStep (timedSensorsStep build start) (InTurnOfDeadline build start)
        (timedSensorsStart build start boot) events :=
  Machine.eachStep_congr_while (ScanDue build start)
    (fun event => 1000 * event.gap ≤ 10000 * build.tickRateHz.toNat)
    (fun _ _ hdue _ hperiod => hdue.step hperiod)
    (fun _ _ hdue hgap => hdue.keepsScanPeriod_iff hrate hgap) (scanDue_start boot) hgaps

/-- At 1000 ticks a second with one device on the bus, the first iteration 200 ms after the start.
-/
theorem rescan_period_from_zero :
    Machine.EachStep (timedSensorsStep ⟨.none, 1000, id⟩ 0) (KeepsScanPeriod ⟨.none, 1000, id⟩ 0)
      (timedSensorsStart ⟨.none, 1000, id⟩ 0 (plugged 0 [Vector.replicate 8 1]))
      [⟨200, plugged 0 [Vector.replicate 8 1]⟩] :=
  (rescan_period_iff ⟨.none, 1000, id⟩ 0 (by decide) (plugged 0 [Vector.replicate 8 1])
    [⟨200, plugged 0 [Vector.replicate 8 1]⟩] (by simp)).mpr ⟨fun _ => rfl, trivial⟩

/-- The same 30 seconds before the counter wraps: the deadline has wrapped, and the bus is scanned
again after 200 ms. -/
theorem rescan_early_before_wrap :
    ¬ Machine.EachStep (timedSensorsStep ⟨.none, 1000, id⟩ 4294937296)
      (KeepsScanPeriod ⟨.none, 1000, id⟩ 4294937296)
      (timedSensorsStart ⟨.none, 1000, id⟩ 4294937296 (plugged 0 [Vector.replicate 8 1]))
      [⟨200, plugged 0 [Vector.replicate 8 1]⟩] := by
  rintro ⟨hfirst, -⟩
  have hperiod := ((scanDue_start (plugged 0 [Vector.replicate 8 1])).keepsScanPeriod_iff
    (by decide) (by decide)).mp hfirst
  exact absurd (hperiod (by decide)) (by decide)

end SensorHmi
