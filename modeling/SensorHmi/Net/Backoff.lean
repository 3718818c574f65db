import SensorHmi.Lib.Backoff
import SensorHmi.Net.WsClient

/-!
# The back-off of the client

The delays with which DISCONNECTED arms the reconnect timer. `ReconnectDelays` ties the stored
delay to the number of disconnects since the last CONNECTED; every event keeps it, whatever else
happens in between.
-/

namespace SensorHmi

/-- The smallest delay `ws_client_start` works with. -/
def effectiveMinMs (config : WsClientConfig) : Nat :=
  if config.reconnectMinDelayMs = 0 then 2000 else config.reconnectMinDelayMs.toNat

/-- The largest one: never below the smallest. -/
def effectiveMaxMs (config : WsClientConfig) : Nat :=
  max (effectiveMinMs config)
    (if config.reconnectMaxDelayMs = 0 then 60000 else config.reconnectMaxDelayMs.toNat)

/-- The disconnects since the start or the last CONNECTED. -/
def disconnectsSince (events : List WsLinkEvent) : Nat :=
  events.foldl (fun k event =>
    match event with
    | .transport .connected => 0
    | .transport .disconnected => k + 1
    | _ => k) 0

/-- The stored delays of a running client, `k` disconnects after the last CONNECTED. -/
structure ReconnectDelays (config : WsClientConfig) (k : Nat) (link : WsLink) : Prop where
  shouldRun : link.shouldRun = true
  reconnectTimer : link.reconnectTimer = true
  min : link.reconnectMinMs.toNat = effectiveMinMs config
  max : link.reconnectMaxMs.toNat = effectiveMaxMs config
  delay : link.reconnectDelayMs.toNat =
    Backoff.delay (effectiveMinMs config) (effectiveMaxMs config) k

variable {mb : Mbedtls} {tickRateHz : UInt32} {outcome : ClientStartOutcome}
  {config : WsClientConfig} {hasRxCb : Bool} {before link : WsLink} {k : Nat}

theorem effectiveMin_le_max (config : WsClientConfig) :
    effectiveMinMs config ≤ effectiveMaxMs config :=
  le_max_left _ _

theorem effectiveMax_lt (config : WsClientConfig) : effectiveMaxMs config < 2 ^ 32 := by
  have hmin : config.reconnectMinDelayMs.toNat < 2 ^ 32 := config.reconnectMinDelayMs.toNat_lt
  have hmax : config.reconnectMaxDelayMs.toNat < 2 ^ 32 := config.reconnectMaxDelayMs.toNat_lt
  unfold effectiveMaxMs effectiveMinMs
  split_ifs <;> omega

/-- `if (min > max) max = min;` -/
theorem toNat_raised (minMs maxMs : UInt32) :
    (if maxMs < minMs then minMs else maxMs).toNat = max minMs.toNat maxMs.toNat := by
  split
  case isTrue hless => exact (max_eq_left (UInt32.lt_iff_toNat_lt.mp hless).le).symm
  case isFalse hless =>
    exact (max_eq_right (not_lt.mp fun hlt => hless (UInt32.lt_iff_toNat_lt.mpr hlt))).symm

/-- A successful start stores the effective delays. -/
theorem wsClientStart_delays
    (h : wsClientStart mb outcome config hasRxCb before = (.ok, link)) :
    ReconnectDelays config 0 link := by
  unfold wsClientStart at h
  split at h
  · cases h
  split at h
  · cases h
  split at h
  case h_1 ctx hinit =>
    dsimp only at h
    split at h
    case h_1 headerBlock hheaders =>
      split at h
      · cases h
      split at h
      · cases h
      split at h
      case isTrue hstart => exact absurd (congrArg Prod.fst h) hstart
      case isFalse =>
        cases h
        have hmin : (if config.reconnectMinDelayMs = 0 then 2000
            else config.reconnectMinDelayMs).toNat = effectiveMinMs config := by
          unfold effectiveMinMs
          split_ifs <;> rfl
        refine ⟨rfl, rfl, hmin, ?_, ?_⟩
        · have hmax : (if config.reconnectMaxDelayMs = 0 then 60000
              else config.reconnectMaxDelayMs).toNat =
                if config.reconnectMaxDelayMs = 0 then 60000
                else config.reconnectMaxDelayMs.toNat := by
            split_ifs <;> rfl
          rw [effectiveMaxMs, ← hmin, ← hmax]
          exact toNat_raised _ _
        · rw [Backoff.delay_zero (effectiveMin_le_max config)]
          exact hmin
    case h_2 err headerBlock hne hheaders =>
      obtain ⟨rfl, -⟩ := Prod.mk.inj h
      exact absurd rfl hne
  case h_2 err ctx hne hinit =>
    obtain ⟨rfl, -⟩ := Prod.mk.inj h
    exact absurd rfl hne

/-- DISCONNECTED arms the timer with the delay of the law and stores the next one. -/
theorem disconnected_delays (h : ReconnectDelays config k link) :
    (wsLinkStep mb tickRateHz link (.transport .disconnected)).2 =
        [.timerPeriod (pdMsToTicks tickRateHz (UInt32.ofNat
          (Backoff.delay (effectiveMinMs config) (effectiveMaxMs config) k))), .timerStart] ∧
      ReconnectDelays config (k + 1)
        (wsLinkStep mb tickRateHz link (.transport .disconnected)).1 := by
  have hcap := @Backoff.delay_le_cap (effectiveMinMs config) (effectiveMaxMs config) k
  have harmed : min link.reconnectDelayMs link.reconnectMaxMs = UInt32.ofNat
      (Backoff.delay (effectiveMinMs config) (effectiveMaxMs config) k) := by
    rw [← h.delay, UInt32.ofNat_toNat]
    have hle : link.reconnectDelayMs ≤ link.reconnectMaxMs := by
      rw [UInt32.le_iff_toNat_le, h.delay, h.max]
      exact hcap
    exact (UInt32.min_def _ _).trans (if_pos hle)
  have hruns : (link.shouldRun && link.reconnectTimer) = true := by
    rw [h.shouldRun, h.reconnectTimer]
    rfl
  simp only [wsLinkStep, websocketEventHandler, hruns, if_true, harmed]
  split
  case isTrue hbelow =>
    refine ⟨rfl, ⟨h.shouldRun, h.reconnectTimer, h.min, h.max, ?_⟩⟩
    show UInt32.toNat (if _ then _ else _) = _
    rw [Backoff.delay_succ, ← h.delay, ← h.max]
    have hmax : link.reconnectMaxMs.toNat < 2 ^ 32 := link.reconnectMaxMs.toNat_lt
    split
    case isTrue hpassed => exact (min_eq_right hpassed.le).symm
    case isFalse hwithin =>
      rw [min_eq_left (not_lt.mp hwithin)]
      exact UInt32.toNat_ofNat_of_lt' (by
        show _ < 2 ^ 32
        omega)
  case isFalse hreached =>
    refine ⟨rfl, ⟨h.shouldRun, h.reconnectTimer, h.min, h.max, ?_⟩⟩
    have hfull : Backoff.delay (effectiveMinMs config) (effectiveMaxMs config) k =
        effectiveMaxMs config := by
      rw [← h.delay, ← h.max] at hcap ⊢
      exact le_antisymm hcap <| not_lt.mp fun hlt => hreached (UInt32.lt_iff_toNat_lt.mpr hlt)
    rw [Backoff.delay_succ_of_cap hfull, ← hfull]
    exact h.delay

/-- What one event does to the count of disconnects, it does to the stored delay. -/
theorem wsLinkStep_delays (h : ReconnectDelays config k link) (event : WsLinkEvent) :
    ReconnectDelays config (match event with
        | .transport .connected => 0
        | .transport .disconnected => k + 1
        | _ => k) (wsLinkStep mb tickRateHz link event).1 := by
  cases event with
  | transport event =>
      cases event with
      | connected =>
          refine ⟨h.shouldRun, h.reconnectTimer, h.min, h.max, ?_⟩
          rw [Backoff.delay_zero (effectiveMin_le_max config)]
          exact h.min
      | disconnected => exact (disconnected_delays h).2
      | data opCode payload =>
          simp only [wsLinkStep, websocketEventHandler]
          split
          · exact h
          split
          · split
            · exact h
            · exact ⟨h.shouldRun, h.reconnectTimer, h.min, h.max, h.delay⟩
          · exact h
      | error | other => exact h
  | reconnectTimer nonce unixTime allocated =>
      simp only [wsLinkStep, reconnectTimerCb]
      split
      · split
        · split <;> exact ⟨h.shouldRun, h.reconnectTimer, h.min, h.max, h.delay⟩
        · exact h
      · exact h
  | send data iv allocated sent =>
      simp only [wsLinkStep, wsClientSend]
      split
      · exact h
      split
      · exact h
      split <;> exact ⟨h.shouldRun, h.reconnectTimer, h.min, h.max, h.delay⟩

/-- Every run counts its disconnects in the stored delay. -/
theorem run_delays (h : ReconnectDelays config k link) (events : List WsLinkEvent) :
    ReconnectDelays config
      (events.foldl (fun k event =>
        match event with
        | .transport .connected => 0
        | .transport .disconnected => k + 1
        | _ => k) k) (Machine.run (wsLinkStep mb tickRateHz) link events).1 := by
  induction events generalizing k link with
  | nil => exact h
  | cons event rest ih => exact ih (wsLinkStep_delays h event)

/-- After any run of a started client, with `k` disconnects since the start or the last CONNECTED,
the next DISCONNECTED arms the timer with `min (lo * 2 ^ k) hi` milliseconds. -/
theorem reconnect_delay_law
    (hstart : wsClientStart mb outcome config hasRxCb before = (.ok, link))
    (events : List WsLinkEvent) :
    (wsLinkStep mb tickRateHz (Machine.run (wsLinkStep mb tickRateHz) link events).1
        (.transport .disconnected)).2 =
      [.timerPeriod (pdMsToTicks tickRateHz (UInt32.ofNat
        (min (effectiveMinMs config * 2 ^ disconnectsSince events) (effectiveMaxMs config)))),
        .timerStart] ∧
    min (effectiveMinMs config * 2 ^ disconnectsSince events) (effectiveMaxMs config) < 2 ^ 32 :=
  ⟨(disconnected_delays (run_delays (wsClientStart_delays hstart) events)).1,
    (min_le_right _ _).trans_lt (effectiveMax_lt config)⟩

section Sample

/-- A client with delays of 300 ms to one second. -/
def hastyConfig : WsClientConfig :=
  { uri := [119], reconnectMinDelayMs := 300, reconnectMaxDelayMs := 1000 }

/-- An mbedTLS that is not asked for anything. -/
def idleMbedtls : Mbedtls :=
  .zero .empty

/-- The client after its start. -/
def hastyLink : WsLink :=
  (wsClientStart idleMbedtls { nonce := Vector.replicate 16 0 } hastyConfig true {}).2

/-- Its third disconnect in a row waits for the full second. -/
theorem reconnect_delay_law_third :
    (wsLinkStep idleMbedtls 100 (Machine.run (wsLinkStep idleMbedtls 100) hastyLink
      [.transport .disconnected, .transport .disconnected]).1 (.transport .disconnected)).2 =
        [.timerPeriod (pdMsToTicks 100 1000), .timerStart] := by
  have hstart : wsClientStart idleMbedtls { nonce := Vector.replicate 16 0 } hastyConfig true {} =
      (.ok, hastyLink) := by
    decide +kernel
  exact (reconnect_delay_law hstart [.transport .disconnected, .transport .disconnected]).1

end Sample

end SensorHmi
