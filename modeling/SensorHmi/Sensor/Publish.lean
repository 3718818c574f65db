import SensorHmi.Lib.Machine
import SensorHmi.Net.Broadcast
import SensorHmi.Sensor.DataModel

/-!
# The publish loop

The loop of `app_main` of the sensor node with `sensor_ws_server_send_update`, between the tasks
that write to the data model and the clients that come and go. The loop compares the snapshot with
the one it encoded last, not with what each client has. `upToDate_iff` says at which iterations
every client is up to date all the same.
-/

namespace SensorHmi

open Octets

variable {ι : Type} (codec : Codec ι) (useCbor : Bool)

/-- A call of one of the setters the tasks use. -/
inductive DataModelCall
  | setSht20 (index : Nat) (id : Bytes) (temp humidity : Float32) (valid : Bool)
  | setDs18b20 (index : Nat) (romCode : RomCode) (temp : Float32)
  | setGpio (devIndex : Nat) (porta portb : UInt16)
  | setPwm (duty : List UInt16) (frequencyHz : UInt16)

/-- The data model after a call that gets the lock or not. -/
def DataModelCall.perform (locked : Bool) (model : SensorDataModel) :
    DataModelCall → SensorDataModel
  | .setSht20 index id temp humidity valid =>
      dataModelSetSht20 locked index id temp humidity valid model
  | .setDs18b20 index romCode temp => dataModelSetDs18b20 locked index romCode temp model
  | .setGpio devIndex porta portb => dataModelSetGpio locked devIndex porta portb model
  | .setPwm duty frequencyHz => dataModelSetPwm locked duty frequencyHz model

/-- A frame of telemetry: the snapshot it was made from, its CRC and its encoding. -/
structure TelemetryFrame (codec : Codec ι) (useCbor : Bool) where
  snapshot : ProtoSensorUpdate
  payload : Bytes
  crc32 : UInt32
  encodes : protoEncodeSensorUpdateInto codec snapshot useCbor sensorDataModelMaxMessageSize =
    some (payload, crc32)

/-- What `ws_server_send` is given: `s_tx_frame`. -/
def TelemetryFrame.octets {codec : Codec ι} {useCbor : Bool} (frame :
    TelemetryFrame codec useCbor) :
    Bytes :=
  leBytes 4 frame.crc32.toNat ++ frame.payload

/-- A client in the table of the server, with the last frame it was sent since it connected. -/
structure Dashboard (codec : Codec ι) (useCbor : Bool) where
  fd : Int
  received : Option (TelemetryFrame codec useCbor) := none

/-- Where the loop is: before its next call. `send` stands inside `sensor_ws_server_send_update`,
between the encoding and `ws_server_send`. -/
inductive PublishPoint (codec : Codec ι) (useCbor : Bool)
  | setTimestamp
  | shouldPublish
  | incrementSeq
  | build
  | send (frame : TelemetryFrame codec useCbor)

/-- The loop, the data model and the clients. -/
structure PublishNode (codec : Codec ι) (useCbor : Bool) where
  point : PublishPoint codec useCbor := .setTimestamp
  model : SensorDataModel := dataModelInit
  clients : List (Dashboard codec useCbor) := []

/-- The node when `app_main` reaches its loop. -/
def publishStart (codec : Codec ι) (useCbor : Bool) : PublishNode codec useCbor := {}

/-- A task writes to the data model, a client comes or goes, or the loop makes its next call. -/
inductive PublishEvent
  | modelSet (call : DataModelCall)
  | connect (fd : Int)
  | disconnect (fd : Int)
  | loop (monotonicMs : UInt32)

/-- The thresholds of the loop. -/
def tempThreshold : Float32 := 0.3

def humidityThreshold : Float32 := 1

variable {codec useCbor}

/-- What a build returns encodes the snapshot. -/
theorem encodes_of_build {model after : SensorDataModel} {payload : Bytes} {crc32 : UInt32}
    (h : dataModelBuild codec true useCbor model = (some (payload, crc32), after)) :
    protoEncodeSensorUpdateInto codec model.current useCbor sensorDataModelMaxMessageSize =
      some (payload, crc32) := by
  unfold dataModelBuild at h
  split_ifs at h
  · cases h
  · generalize protoEncodeSensorUpdateInto codec model.current useCbor
      sensorDataModelMaxMessageSize = encoded at h
    cases encoded with
    | none => cases h
    | some staged => exact (Prod.mk.inj h).1

/-- The next call of the loop. All locks, allocations and sends succeed, and no frame is larger
than `s_tx_frame`; a client whose send fails is one that goes. -/
def publishLoop (node : PublishNode codec useCbor) (monotonicMs : UInt32) :
    PublishNode codec useCbor :=
  match node.point with
  | .setTimestamp =>
      { node with
        model := dataModelSetTimestamp true monotonicMs node.model
        point := .shouldPublish }
  | .shouldPublish =>
      if dataModelShouldPublish true tempThreshold humidityThreshold node.model then
        { node with point := .incrementSeq }
      else { node with point := .setTimestamp }
  | .incrementSeq => { node with model := dataModelIncrementSeq true node.model, point := .build }
  | .build =>
      match h : dataModelBuild codec true useCbor node.model with
      | (none, model) => { node with model := model, point := .setTimestamp }
      | (some (payload, crc32), model) =>
          { node with
            model := model
            point := .send ⟨node.model.current, payload, crc32, encodes_of_build h⟩ }
  | .send frame =>
      { node with
        clients := node.clients.map fun client => { client with received := some frame }
        point := .setTimestamp }

/-- The clients of the loop are the descriptors in the table of the server. -/
def Serves (srv : WsServer) (node : PublishNode codec useCbor) : Prop :=
  (node.clients.map (·.fd)).Perm ((registeredSlots srv).map (·.1.fd))

/-- What the loop does with its clients is what `ws_server_send` does where every send succeeds:
each of them is sent the frame once, nobody else is, and none is dropped. -/
theorem publishLoop_send {mb : Mbedtls} {srv : WsServer} {node : PublishNode codec useCbor}
    {frame : TelemetryFrame codec useCbor} {sealed : Bytes} {ctx : WsSecurityContext}
    {iv : Vector UInt8 12} {allocated : Bool} (hpoint : node.point = .send frame)
    (hserves : Serves srv node) (hserver : srv.httpServer = true)
    (hunique : ∀ fd, 0 ≤ fd → slotsOf srv fd ≤ 1)
    (hallocated : (srv.securityCtx.encryptionEnabled && !allocated) = false)
    (hencrypt : wsSecurityEncrypt mb.toGcm iv srv.securityCtx frame.octets
      (wsSecurityEncryptedSize srv.securityCtx frame.octets.length) = (.ok sealed, ctx))
    (monotonicMs : UInt32) :
    let next := publishLoop node monotonicMs
    let done := wsServerSend mb srv frame.octets iv allocated fun _ => .ok
    (∀ client ∈ next.clients, client.received = some frame) ∧
      (next.clients.map fun client => .sent client.fd .binary sealed).Perm done.2 ∧
      done.1.2.clients = srv.clients ∧ Serves done.1.2 next := by
  have hnext : (publishLoop node monotonicMs).clients =
      node.clients.map fun client => { client with received := some frame } := by
    simp only [publishLoop, hpoint]
  have hdata : frame.octets ≠ [] := by
    rw [TelemetryFrame.octets, leBytes]
    exact List.cons_ne_nil _ _
  have hloop := @sendLoop_reaches { srv with securityCtx := ctx } sealed hunique
  dsimp only
  rw [wsServerSend_loop hserver hdata hallocated hencrypt]
  simp only [hnext]
  have hslots : srv.clients.length = ({ srv with securityCtx := ctx } : WsServer).clients.length :=
    rfl
  rw [hslots, hloop]
  refine ⟨fun client hclient => ?_, ?_, rfl, ?_⟩
  · obtain ⟨before, -, rfl⟩ := List.mem_map.mp hclient
    rfl
  · have hsent := hserves.map fun fd => WsServerOutput.sent fd .binary sealed
    simp only [List.map_map, Function.comp_def] at hsent ⊢
    exact hsent
  · rw [Serves, hnext, List.map_map]
    exact hserves

/-- One event; nothing is put out but the frames that are sent. -/
def publishStep (node : PublishNode codec useCbor) :
    PublishEvent → PublishNode codec useCbor × List (TelemetryFrame codec useCbor)
  | .modelSet call => ({ node with model := call.perform true node.model }, [])
  | .connect fd =>
      ({ node with clients := node.clients.filter (·.fd ≠ fd) ++ [⟨fd, none⟩] }, [])
  | .disconnect fd => ({ node with clients := node.clients.filter (·.fd ≠ fd) }, [])
  | .loop monotonicMs =>
      (publishLoop node monotonicMs,
        match node.point with
        | .send frame => [frame]
        | _ => [])

/-- Two values are the same or differ by a number not above the threshold. -/
def Within (threshold a b : Float32) : Prop :=
  a = b ∨ ((a - b).isNaN = false ∧ valueChanged a b threshold = false)

/-- Each entry in use has its entry in the frame. -/
def EachShown {α : Type} (shows : α → α → Prop) (frame current : List α) : Prop :=
  ∀ (i : Nat) (now : α), current[i]? = some now → ∃ shown, frame[i]? = some shown ∧ shows now shown

/-- An entry shown for an ambient sensor. -/
def ShowsSht20 (now shown : ProtoSht20Reading) : Prop :=
  Within tempThreshold now.temperatureC shown.temperatureC ∧
    Within humidityThreshold now.humidityPercent shown.humidityPercent

/-- An entry shown for a one-wire device. -/
def ShowsDs18b20 (now shown : ProtoDs18b20Reading) : Prop :=
  Within tempThreshold now.temperatureC shown.temperatureC

/-- A frame shows a snapshot: each temperature and humidity in use within its threshold, and the
same expanders and PWM. -/
structure Shows (frame current : ProtoSensorUpdate) : Prop where
  sht20 : EachShown ShowsSht20 frame.sht20Entries current.sht20Entries
  ds18b20 : EachShown ShowsDs18b20 frame.ds18b20Entries current.ds18b20Entries
  mcp : frame.mcp = current.mcp
  pwm : frame.pwm = current.pwm

/-- Every client has been sent a frame since it connected, and the last one shows the snapshot. -/
def UpToDate (node : PublishNode codec useCbor) : Prop :=
  ∀ client ∈ node.clients, ∃ frame, client.received = some frame ∧
    Shows frame.snapshot node.model.current

/-- The event ends an iteration of the loop. -/
def EndsIteration (node : PublishNode codec useCbor) : PublishEvent → Prop
  | .loop monotonicMs => (publishLoop node monotonicMs).point = .setTimestamp
  | _ => False

/-- If the event ends an iteration, every client is up to date. -/
def UpToDateAfter (node : PublishNode codec useCbor) (event : PublishEvent) : Prop :=
  EndsIteration node event → UpToDate (publishStep node event).1

/-- Two values that differ, differ by a number. -/
def Comparable (a b : Float32) : Prop :=
  a = b ∨ (a - b).isNaN = false

/-- No entry has come into use, and the entries in use can be compared. -/
def NoneOverlooked {α : Type} (comparable : α → α → Prop) (last current : List α) : Prop :=
  current.length ≤ last.length ∧ ∀ (i : Nat) (now before : α),
    current[i]? = some now → last[i]? = some before → comparable now before

def ComparableSht20 (now before : ProtoSht20Reading) : Prop :=
  Comparable now.temperatureC before.temperatureC ∧
    Comparable now.humidityPercent before.humidityPercent

def ComparableDs18b20 (now before : ProtoDs18b20Reading) : Prop :=
  Comparable now.temperatureC before.temperatureC

/-- The comparison with the snapshot last encoded overlooks nothing: it sees neither an entry that
has come into use nor a value whose difference is not a number. -/
structure NothingOverlooked (last current : ProtoSensorUpdate) : Prop where
  sht20 : NoneOverlooked ComparableSht20 last.sht20Entries current.sht20Entries
  ds18b20 : NoneOverlooked ComparableDs18b20 last.ds18b20Entries current.ds18b20Entries

/-- When the loop decides not to publish while clients are connected, each was there when the last
frame was sent and the comparison overlooks nothing; when it sends to a client, the frame still
shows the snapshot. -/
def NobodyMisses (node : PublishNode codec useCbor) (event : PublishEvent) : Prop :=
  match event, node.point with
  | .loop _, .shouldPublish =>
      dataModelShouldPublish true tempThreshold humidityThreshold node.model = false →
        ∀ client ∈ node.clients, client.received.isSome = true ∧
          NothingOverlooked node.model.lastPublished node.model.current
  | .loop _, .send frame => node.clients ≠ [] → Shows frame.snapshot node.model.current
  | _, _ => True

section Comparison

variable {last current : ProtoSensorUpdate}

theorem within_iff {threshold a b : Float32} (h : valueChanged a b threshold = false) :
    Within threshold a b ↔ Comparable a b := by
  simp [Within, Comparable, h]

/-- Where the entries that are compared have not changed, each is shown exactly when none is
overlooked. -/
theorem eachShown_iff {α : Type} {shows comparable : α → α → Prop} {frame entries : List α}
    (h : ∀ (i : Nat) (now before : α), entries[i]? = some now → frame[i]? = some before →
      (shows now before ↔ comparable now before)) :
    EachShown shows frame entries ↔ NoneOverlooked comparable frame entries := by
  constructor
  · intro hshown
    refine ⟨?_, fun i now before hnow hbefore => ?_⟩
    · by_contra hlt
      obtain ⟨now, hnow⟩ : ∃ now, entries[frame.length]? = some now :=
        ⟨_, List.getElem?_eq_getElem (by omega)⟩
      obtain ⟨shown, hnone, -⟩ := hshown frame.length now hnow
      rw [List.getElem?_eq_none le_rfl] at hnone
      cases hnone
    · obtain ⟨shown, hget, hshows⟩ := hshown i now hnow
      rw [hbefore] at hget
      cases hget
      exact (h i now before hnow hbefore).mp hshows
  · rintro ⟨hlength, hcomparable⟩ i now hnow
    have hlt := (List.getElem?_eq_some_iff.mp hnow).1
    obtain ⟨before, hbefore⟩ : ∃ before, frame[i]? = some before :=
      ⟨_, List.getElem?_eq_getElem (by omega)⟩
    exact ⟨before, hbefore, (h i now before hnow hbefore).mpr
      (hcomparable i now before hnow hbefore)⟩

/-- A comparison over two arrays that finds no change finds none in any entry. -/
theorem unchanged_of_any {α : Type} {changed : α × α → Bool} {entries array : List α} {count : Nat}
    (h : (entries.zip array).any changed = false) {i : Nat} {now before : α}
    (hnow : entries[i]? = some now) (hbefore : (array.take count)[i]? = some before) :
    changed (now, before) = false := by
  have harray : array[i]? = some before := by
    rw [List.getElem?_take] at hbefore
    split_ifs at hbefore
    exact hbefore
  have hzip : (entries.zip array)[i]? = some (now, before) := by
    rw [List.getElem?_zip_eq_some]
    exact ⟨hnow, harray⟩
  exact Bool.eq_false_iff.mpr fun hchanged =>
    Bool.eq_false_iff.mp h (List.any_eq_true.mpr ⟨_, List.mem_of_getElem? hzip, hchanged⟩)

/-- If the loop decides not to publish, the snapshot last encoded shows the present one exactly
when nothing is overlooked. -/
theorem shows_lastPublished_iff {model : SensorDataModel} (hinit : model.initialized = true)
    (h : dataModelShouldPublish true tempThreshold humidityThreshold model = false) :
    Shows model.lastPublished model.current ↔
      NothingOverlooked model.lastPublished model.current := by
  unfold dataModelShouldPublish at h
  simp only [hinit, Bool.and_true, Bool.not_true, Bool.false_eq_true, if_false] at h
  split_ifs at h
  simp only [Bool.or_eq_false_iff, decide_eq_false_iff_not, not_not, ne_eq] at h
  obtain ⟨⟨⟨⟨hsht20, hds18b20⟩, hmcp⟩, hduty⟩, hfreq⟩ := h
  have hambient : EachShown ShowsSht20 model.lastPublished.sht20Entries model.current.sht20Entries ↔
      NoneOverlooked ComparableSht20 model.lastPublished.sht20Entries
        model.current.sht20Entries := by
    refine eachShown_iff fun i now before hnow hbefore => ?_
    have hsame := unchanged_of_any hsht20 hnow hbefore
    have hsame := Bool.or_eq_false_iff.mp hsame
    exact and_congr (within_iff hsame.1) (within_iff hsame.2)
  have honewire : EachShown ShowsDs18b20 model.lastPublished.ds18b20Entries
      model.current.ds18b20Entries ↔ NoneOverlooked ComparableDs18b20
        model.lastPublished.ds18b20Entries model.current.ds18b20Entries :=
    eachShown_iff fun i now before hnow hbefore =>
      within_iff (unchanged_of_any hds18b20 hnow hbefore)
  constructor
  · intro hshows
    exact ⟨hambient.mp hshows.sht20, honewire.mp hshows.ds18b20⟩
  · intro hnothing
    refine ⟨hambient.mpr hnothing.sht20, honewire.mpr hnothing.ds18b20, hmcp.symm, ?_⟩
    have hext : ∀ pwm other : ProtoPca9685State, pwm.frequencyHz = other.frequencyHz →
        pwm.dutyCycle = other.dutyCycle → other = pwm := by
      rintro ⟨freq, duty⟩ ⟨freq', duty'⟩ rfl rfl
      rfl
    exact hext _ _ hfreq hduty

end Comparison

section Run

variable {node : PublishNode codec useCbor} {event : PublishEvent}

/-- The frames clients have show the snapshot encoded last, while none is on its way; the one on
its way shows it too. -/
structure PublishInv (node : PublishNode codec useCbor) : Prop where
  initialized : node.model.initialized = true
  received : (∀ frame, node.point ≠ .send frame) → ∀ client ∈ node.clients,
    ∀ frame, client.received = some frame → frame.snapshot = node.model.lastPublished
  sending : ∀ frame, node.point = .send frame → frame.snapshot = node.model.lastPublished

/-- A setter changes nothing but the snapshot. -/
theorem update_frame (model : SensorDataModel) (locked : Bool)
    (change : ProtoSensorUpdate → ProtoSensorUpdate) :
    (model.update locked change).initialized = model.initialized ∧
      (model.update locked change).lastPublished = model.lastPublished := by
  unfold SensorDataModel.update
  split_ifs
  · exact ⟨rfl, rfl⟩
  · exact ⟨rfl, rfl⟩

theorem DataModelCall.perform_frame (call : DataModelCall) (locked : Bool)
    (model : SensorDataModel) :
    (call.perform locked model).initialized = model.initialized ∧
      (call.perform locked model).lastPublished = model.lastPublished := by
  cases call with
  | setSht20 index id temp humidity valid =>
      rw [DataModelCall.perform, dataModelSetSht20]
      split_ifs
      · exact ⟨rfl, rfl⟩
      · exact update_frame model locked _
  | setDs18b20 index romCode temp =>
      rw [DataModelCall.perform, dataModelSetDs18b20]
      split_ifs
      · exact ⟨rfl, rfl⟩
      · exact update_frame model locked _
  | setGpio devIndex porta portb =>
      rw [DataModelCall.perform, dataModelSetGpio]
      split_ifs
      · exact ⟨rfl, rfl⟩
      · exact update_frame model locked _
  | setPwm duty frequencyHz => exact update_frame model locked _

/-- A build that gets the lock stages the snapshot. -/
theorem dataModelBuild_eq {model : SensorDataModel} (hinit : model.initialized = true) :
    ∃ payload crc32 after, dataModelBuild codec true useCbor model =
      (some (payload, crc32), after) ∧
      after.initialized = true ∧ after.current = model.current ∧
      after.lastPublished = model.current := by
  obtain ⟨⟨payload, crc32⟩, hencode⟩ := Option.isSome_iff_exists.mp
    (protoEncodeSensorUpdateInto_isSome codec model.current useCbor)
  have hencode : protoEncodeSensorUpdateInto codec model.current useCbor
      sensorDataModelMaxMessageSize = some (payload, crc32) := hencode
  refine ⟨payload, crc32,
    { model with
      lastPublished := model.current
      encodeBuffers := model.encodeBuffers.setIfInBounds
        (model.nextEncodeIndex % sensorDataModelBufferCount) payload
      nextEncodeIndex := (model.nextEncodeIndex % sensorDataModelBufferCount + 1) %
        sensorDataModelBufferCount }, ?_, hinit, rfl, rfl⟩
  rw [dataModelBuild, hinit]
  simp only [Bool.and_true, Bool.not_true, Bool.false_eq_true, if_false, hencode]

/-- The build makes a frame of the snapshot, which is then the one encoded last. -/
theorem publishLoop_build (hpoint : node.point = .build) (hinit : node.model.initialized = true)
    (monotonicMs : UInt32) :
    ∃ frame after, publishLoop node monotonicMs = ⟨.send frame, after, node.clients⟩ ∧
      frame.snapshot = node.model.current ∧ after.initialized = true ∧
      after.lastPublished = node.model.current := by
  obtain ⟨payload, crc32, after, hbuild, hready, -, hlast⟩ :=
    @dataModelBuild_eq ι codec useCbor node.model hinit
  refine ⟨⟨node.model.current, payload, crc32, encodes_of_build hbuild⟩, after, ?_, rfl, hready,
    hlast⟩
  unfold publishLoop
  simp only [hpoint]
  split
  case h_1 model hnone =>
    rw [hbuild] at hnone
    cases hnone
  case h_2 payload' crc32' model hsome =>
    rw [hbuild] at hsome
    cases hsome
    rfl

/-- Every event keeps what clients have and what was encoded last together. -/
theorem PublishInv.step (h : PublishInv node) : PublishInv (publishStep node event).1 := by
  cases event with
  | modelSet call =>
      obtain ⟨hready, hlast⟩ := call.perform_frame true node.model
      refine ⟨hready.trans h.initialized, fun hidle client hclient frame hframe => ?_,
        fun frame hframe => ?_⟩
      · exact (h.received hidle client hclient frame hframe).trans hlast.symm
      · exact (h.sending frame hframe).trans hlast.symm
  | connect fd =>
      refine ⟨h.initialized, fun hidle client hclient frame hframe => ?_, h.sending⟩
      rcases List.mem_append.mp hclient with hold | hnew
      · exact h.received hidle client (List.mem_filter.mp hold).1 frame hframe
      · rw [List.mem_singleton.mp hnew] at hframe
        cases hframe
  | disconnect fd =>
      exact ⟨h.initialized, fun hidle client hclient =>
        h.received hidle client (List.mem_filter.mp hclient).1, h.sending⟩
  | loop monotonicMs =>
      show PublishInv (publishLoop node monotonicMs)
      cases hpoint : node.point with
      | setTimestamp =>
          obtain ⟨hready, hlast⟩ := update_frame node.model true
            fun current => { current with timestampMs := monotonicMs }
          have hidle : ∀ frame, node.point ≠ .send frame := by simp [hpoint]
          unfold publishLoop
          simp only [hpoint]
          exact ⟨hready.trans h.initialized, fun _ client hclient frame hframe =>
            (h.received hidle client hclient frame hframe).trans hlast.symm, by simp⟩
      | shouldPublish =>
          have hidle : ∀ frame, node.point ≠ .send frame := by simp [hpoint]
          unfold publishLoop
          simp only [hpoint]
          split_ifs
          · exact ⟨h.initialized, fun _ => h.received hidle, by simp⟩
          · exact ⟨h.initialized, fun _ => h.received hidle, by simp⟩
      | incrementSeq =>
          obtain ⟨hready, hlast⟩ := update_frame node.model true
            fun current => { current with sequenceId := current.sequenceId + 1 }
          have hidle : ∀ frame, node.point ≠ .send frame := by simp [hpoint]
          unfold publishLoop
          simp only [hpoint]
          exact ⟨hready.trans h.initialized, fun _ client hclient frame hframe =>
            (h.received hidle client hclient frame hframe).trans hlast.symm, by simp⟩
      | build =>
          obtain ⟨frame, after, hloop, hsnapshot, hready, hlast⟩ :=
            publishLoop_build hpoint h.initialized monotonicMs
          rw [hloop]
          refine ⟨hready, fun hidle => absurd rfl (hidle frame), fun sent hsent => ?_⟩
          cases hsent
          exact hsnapshot.trans hlast.symm
      | send frame =>
          unfold publishLoop
          simp only [hpoint]
          refine ⟨h.initialized, fun _ client hclient received hreceived => ?_, by simp⟩
          obtain ⟨before, -, rfl⟩ := List.mem_map.mp hclient
          cases hreceived
          exact h.sending frame hpoint

/-- An iteration leaves every client up to date exactly when nobody misses anything in its last
step. -/
theorem PublishInv.upToDateAfter_iff (h : PublishInv node) :
    UpToDateAfter node event ↔ NobodyMisses node event := by
  cases event with
  | modelSet call => exact iff_of_true (fun hends => hends.elim) trivial
  | connect fd => exact iff_of_true (fun hends => hends.elim) trivial
  | disconnect fd => exact iff_of_true (fun hends => hends.elim) trivial
  | loop monotonicMs =>
      show ((publishLoop node monotonicMs).point = .setTimestamp →
        UpToDate (publishLoop node monotonicMs)) ↔ _
      cases hpoint : node.point with
      | setTimestamp =>
          refine iff_of_true (fun hends => ?_) (by simp [NobodyMisses, hpoint])
          unfold publishLoop at hends
          simp [hpoint] at hends
      | incrementSeq =>
          refine iff_of_true (fun hends => ?_) (by simp [NobodyMisses, hpoint])
          unfold publishLoop at hends
          simp [hpoint] at hends
      | build =>
          obtain ⟨frame, after, hloop, -⟩ := publishLoop_build hpoint h.initialized monotonicMs
          refine iff_of_true (fun hends => ?_) (by simp [NobodyMisses, hpoint])
          rw [hloop] at hends
          cases hends
      | shouldPublish =>
          have hidle : ∀ frame, node.point ≠ .send frame := by simp [hpoint]
          have hmisses : NobodyMisses node (.loop monotonicMs) ↔
              (dataModelShouldPublish true tempThreshold humidityThreshold node.model = false →
                ∀ client ∈ node.clients, client.received.isSome = true ∧
                  NothingOverlooked node.model.lastPublished node.model.current) := by
            simp only [NobodyMisses, hpoint]
          rw [hmisses]
          unfold publishLoop
          simp only [hpoint]
          cases hpublish : dataModelShouldPublish true tempThreshold humidityThreshold
            node.model with
          | true => simp
          | false =>
              simp only [Bool.false_eq_true, if_false, true_imp_iff, UpToDate]
              refine forall₂_congr fun client hclient => ?_
              rw [← shows_lastPublished_iff h.initialized hpublish]
              constructor
              · rintro ⟨frame, hframe, hshows⟩
                rw [h.received hidle client hclient frame hframe] at hshows
                exact ⟨by rw [hframe]; rfl, hshows⟩
              · rintro ⟨hsome, hshows⟩
                obtain ⟨frame, hframe⟩ := Option.isSome_iff_exists.mp hsome
                refine ⟨frame, hframe, ?_⟩
                rw [h.received hidle client hclient frame hframe]
                exact hshows
      | send frame =>
          have hmisses : NobodyMisses node (.loop monotonicMs) ↔
              (node.clients ≠ [] → Shows frame.snapshot node.model.current) := by
            simp only [NobodyMisses, hpoint]
          rw [hmisses]
          unfold publishLoop
          simp only [hpoint, true_imp_iff, UpToDate]
          constructor
          · intro hall hsome
            obtain ⟨client, hclient⟩ := List.exists_mem_of_ne_nil _ hsome
            obtain ⟨received, hreceived, hshows⟩ := hall _ (List.mem_map_of_mem hclient)
            cases hreceived
            exact hshows
          · intro hshows client hclient
            obtain ⟨before, hbefore, rfl⟩ := List.mem_map.mp hclient
            exact ⟨frame, rfl, hshows (List.ne_nil_of_mem hbefore)⟩

end Run

/-- After every iteration every client is up to date exactly when in every iteration nobody misses
anything: no client has come since the last frame and nothing is overlooked when the loop does not
publish, and no write between the encoding and the send makes the frame stale. -/
theorem upToDate_iff (codec : Codec ι) (useCbor : Bool) (events : List PublishEvent) :
    Machine.EachStep publishStep UpToDateAfter (publishStart codec useCbor) events ↔
      Machine.EachStep publishStep NobodyMisses (publishStart codec useCbor) events := by
  have hstart : PublishInv (publishStart codec useCbor) :=
    ⟨rfl, fun _ client hclient => (by cases hclient), fun _ hpoint => (by cases hpoint)⟩
  exact Machine.eachStep_congr (fun node event hinv => PublishInv.step hinv)
    (fun node event hinv => PublishInv.upToDateAfter_iff hinv) hstart

/-- The loop has just stamped the snapshot. -/
def PublishPoint.isShouldPublish : PublishPoint codec useCbor → Bool
  | .shouldPublish => true
  | _ => false

/-- A client that connects when the loop has published and nothing changes afterwards is left
without a frame. -/
theorem not_always_upToDate :
    ¬ ∀ events : List PublishEvent,
      Machine.EachStep publishStep UpToDateAfter (publishStart (Codec.plain false) false)
        events := by
  intro h
  have hlast := (h [.loop 0, .loop 0, .loop 0, .loop 0, .loop 0, .connect 7, .loop 200,
    .loop 200]).2.2.2.2.2.2.2.1
  generalize hnode : (publishStep _ (.loop 200)).1 = node at hlast
  have hpoint : node.point.isShouldPublish = true := by
    rw [← hnode]
    decide +kernel
  have hquiet : dataModelShouldPublish true tempThreshold humidityThreshold node.model = false := by
    rw [← hnode]
    decide +kernel
  have hclients : node.clients.map (·.received.isSome) = [false] := by
    rw [← hnode]
    decide +kernel
  have hstep : publishLoop node 200 = { node with point := .setTimestamp } := by
    unfold publishLoop
    cases hat : node.point with
    | shouldPublish => simp only [hquiet, Bool.false_eq_true, if_false]
    | _ =>
        rw [hat] at hpoint
        cases hpoint
  have hdone : UpToDate (publishLoop node 200) := hlast (by
    show (publishLoop node 200).point = .setTimestamp
    rw [hstep])
  rw [hstep] at hdone
  obtain ⟨client, hclient, hnone⟩ : ∃ client ∈ node.clients, client.received.isSome = false := by
    have hmem : false ∈ node.clients.map (·.received.isSome) := by
      rw [hclients]
      exact List.mem_cons_self
    exact List.mem_map.mp hmem
  obtain ⟨frame, hframe, -⟩ := hdone client hclient
  rw [hframe] at hnone
  cases hnone

end SensorHmi
