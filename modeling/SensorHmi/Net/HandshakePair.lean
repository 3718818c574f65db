import SensorHmi.Net.HandshakeAgree
import SensorHmi.Net.WsServerStep

/-!
# Agreement on the handshake

A client and a server that were started with one secret, one token and one set of
one-time-password settings. The server accepts what the client presents, except where the loop of
`totp_verify` does not reach the step of the client (`handshake_accepted_iff`).
-/

namespace SensorHmi

open Octets

/-- What `authorize_request` reads of the statics. -/
def WsServer.authorizeEnv (srv : WsServer) (now : TickType) (unixTime : UInt64) : AuthorizeEnv where
  authToken := srv.cfg.authToken
  ctx := srv.securityCtx
  nonceTtlTicks := srv.nonceTtlTicks
  now := now
  unixTime := unixTime

/-- The one-time-password settings of a client. -/
def clientTotp (config : WsClientConfig) : TotpConfig where
  secret := config.totpSecret
  periodS := config.totpPeriodS
  digits := config.totpDigits

/-- Settings of one deployment: the token, the secret and the flags of both sides are the same,
and each side starts with them. The windows of the two may differ, and so may the encryption. -/
structure Paired (config : WsClientConfig) (server : WsServerConfig) : Prop where
  authToken : server.authToken = config.authToken
  cryptoSecret : server.cryptoSecret = config.cryptoSecret
  handshake : server.enableHandshakeToken = config.enableHandshakeToken
  totp : server.enableTotp = config.enableTotp
  totpSecret : server.totpSecret = config.totpSecret
  totpPeriodS : server.totpPeriodS = config.totpPeriodS
  totpDigits : server.totpDigits = config.totpDigits
  tokenFits : TokenFits config.authToken
  uri_ne : config.uri ≠ []
  certificate_ne : server.serverCert ≠ [] ∧ server.serverKey ≠ []
  secret_ne : (config.enableFrameEncryption || server.enableFrameEncryption ||
    config.enableHandshakeToken) = true → config.cryptoSecret ≠ []
  totp_valid : config.enableTotp = true →
    config.totpSecret ≠ [] ∧ config.totpSecret.length ≤ 64 ∧ 6 ≤ config.totpDigits ∧
      config.totpDigits ≤ 8 ∧ config.totpPeriodS ≠ 0

section Pair

variable {mb : Mbedtls} {tickRateHz : UInt32} {config : WsClientConfig} {server : WsServerConfig}

/-- Contexts of one deployment agree. -/
theorem Paired.contexts (h : Paired config server) {client srv : WsSecurityContext}
    (hclient : client.Of mb (clientSecurityConfig config))
    (hserver : srv.Of mb (serverSecurityConfig (withDefaults server))) :
    ContextsAgree client srv where
  handshakeEnabled := by
    rw [hserver.handshake, hclient.handshake]
    exact h.handshake
  handshakeKey hon := by
    rw [hclient.handshake] at hon
    have hkey := hclient.handshakeKey hon
    have hkey' := hserver.handshakeKey (h.handshake.trans hon)
    rw [show (serverSecurityConfig (withDefaults server)).secret =
      (clientSecurityConfig config).secret from h.cryptoSecret, hkey] at hkey'
    exact (Except.ok.inj hkey').symm
  totpEnabled := by
    rw [hserver.totp, hclient.totp]
    exact h.totp
  totpSettings hon := by
    rw [hclient.totp] at hon
    obtain ⟨hsecret, hperiod, hdigits, -⟩ := hclient.totpSettings hon
    obtain ⟨hsecret', hperiod', hdigits', -⟩ := hserver.totpSettings (h.totp.trans hon)
    rw [totpConfig, totpConfig, hsecret, hperiod, hdigits, hsecret', hperiod', hdigits',
      show (serverSecurityConfig (withDefaults server)).totpSecret =
        (clientSecurityConfig config).totpSecret from h.totpSecret,
      show (serverSecurityConfig (withDefaults server)).totpPeriodS =
        (clientSecurityConfig config).totpPeriodS from h.totpPeriodS,
      show (serverSecurityConfig (withDefaults server)).totpDigits =
        (clientSecurityConfig config).totpDigits from h.totpDigits]

/-- The password settings are valid where passwords are used. -/
theorem Paired.valid (h : Paired config server) (hon : config.enableTotp = true) :
    (clientTotp config).Valid := by
  obtain ⟨hsecret, -, hge, hle, hperiod⟩ := h.totp_valid hon
  exact ⟨hsecret, hge, hle, hperiod⟩

/-- A started client and a started server: the client builds its header block, which fills the
room reserved for it, and the server accepts it exactly when `totp_verify` accepts the code. -/
theorem Paired.regenerate (h : Paired config server) (hmb : mb.Lawful)
    {clientOutcome : ClientStartOutcome} {clientCb : Bool} {link₀ link : WsLink}
    (hlink : wsClientStart mb clientOutcome config clientCb link₀ = (.ok, link))
    {serverOutcome : StartOutcome} {serverCb : Bool} {srv₀ srv : WsServer}
    (hsrv : wsServerStart mb tickRateHz serverOutcome server serverCb srv₀ = (.ok, srv))
    {nonce : Vector UInt8 16} {cache : List WsNonceEntry}
    (hnew : ∀ entry ∈ cache, entry.valid = true → entry.nonce ≠ nonce.toList)
    {before after : List (Bytes × Bytes)} (hbefore : ∀ field ∈ before, field.1 ∉ handshakeNames)
    (clientTime serverTime : UInt64) (allocated : Bool) (now : TickType) :
    ∃ headerBlock code,
      regenerateHeaders mb link nonce clientTime allocated = (.ok, headerBlock) ∧
      { link with headerBlock := headerBlock }.headerText.length = link.headerLen ∧
      (config.enableTotp = true → totpCompute mb (clientTotp config) clientTime = .ok code) ∧
      ((authorizeRequest mb (srv.authorizeEnv now serverTime)
        (requestWith before after
          (HeaderLines.parse { link with headerBlock := headerBlock }.headerText)) cache).1 = true ↔
        (config.enableTotp = true →
          totpVerify mb (clientTotp config) serverTime server.totpWindow code = .ok true)) := by
  obtain ⟨ctx, hctx, hprepared, hheld⟩ := wsClientStart_prepared hlink
  obtain ⟨srvCtx, hinit, rfl⟩ := wsServerStart_spec hsrv
  have hsrvCtx := wsSecurityContextInit_spec hinit
  have hagree : ContextsAgree ctx (wsSecurityResetCounters srvCtx) := by
    obtain ⟨hhandshake, hkey, htotp, hsettings⟩ := h.contexts hctx hsrvCtx
    exact ⟨hhandshake, hkey, htotp, hsettings⟩
  have henabled : ctx.totpEnabled = config.enableTotp := hctx.totp
  have hconfig : ctx.totpEnabled = true → totpConfig ctx = clientTotp config := by
    intro hon
    obtain ⟨hsecret, hperiod, hdigits, -⟩ := hctx.totpSettings (henabled.symm.trans hon)
    rw [totpConfig, hsecret, hperiod, hdigits]
    rfl
  have hvalid : ctx.totpEnabled = true → (totpConfig ctx).Valid := hctx.valid
  obtain ⟨signature, code, hsignature, hcode, hlength, hregenerate⟩ :=
    @regenerateHeaders_text mb link ctx config.authToken nonce clientTime hmb hprepared hvalid
      allocated fun hlen => .inl (hheld hlen)
  obtain ⟨fields, hfields⟩ :
      ∃ fields, fields = headerFields mb ctx config.authToken nonce signature code := ⟨_, rfl⟩
  rw [← hfields] at hlength hregenerate
  have htext : { link with headerBlock :=
      if link.headerLen = 0 then link.headerBlock else some (HeaderLines.text fields)
      }.headerText = HeaderLines.text fields := by
    by_cases hempty : link.headerLen = 0
    · rw [hempty] at hlength
      rw [List.eq_nil_of_length_eq_zero hlength]
      exact if_pos hempty
    · simp only [WsLink.headerText, if_neg hempty, Option.getD_some]
  refine ⟨_, code, hregenerate, by rw [htext, hlength], ?_, ?_⟩
  · intro hon
    rw [← hconfig (henabled.trans hon)]
    exact (hcode (henabled.trans hon)).1
  have hparse := HeaderLines.parse_text (@wellFormed_headerFields mb ctx config.authToken nonce
    signature code hmb fun octet hmem => (h.tokenFits.octets octet hmem).2.2)
  rw [htext, hfields, hparse, authorizeRequest_headerFields hmb hagree h.tokenFits h.authToken
    hsignature
    (fun hon => ⟨hvalid hon, (hcode hon).2⟩) hnew hbefore, henabled]
  refine forall_congr' fun hon => ?_
  have hwindow : (wsSecurityResetCounters srvCtx).totpWindow = server.totpWindow :=
    (hsrvCtx.totpSettings (h.totp.trans hon)).2.2.2
  rw [hconfig (henabled.trans hon)]
  show totpVerify mb (clientTotp config) serverTime (wsSecurityResetCounters srvCtx).totpWindow
    code = .ok true ↔ _
  rw [hwindow]

/-- With these settings the client starts. -/
theorem Paired.client_starts (h : Paired config server) (hmb : mb.Lawful) (nonce :
    Vector UInt8 16) :
    ∃ link, wsClientStart mb { nonce := nonce } config true {} = (.ok, link) := by
  have hsecret : (config.enableFrameEncryption || config.enableHandshakeToken) = true →
      config.cryptoSecret ≠ [] := by
    intro hneeded
    apply h.secret_ne
    rcases Bool.or_eq_true_iff.mp hneeded with hon | hon <;> simp [hon]
  obtain ⟨ctx, hinit⟩ := @wsSecurityContextInit_total mb (clientSecurityConfig config) hmb hsecret
    h.totp_valid
  have hctx := wsSecurityContextInit_spec hinit
  have hprepared : (preparedLink config ctx {}).Prepared ctx config.authToken :=
    ⟨⟨0, rfl⟩, rfl, rfl, rfl, rfl, rfl⟩
  obtain ⟨signature, code, -, -, -, hregenerate⟩ :=
    @regenerateHeaders_text mb _ ctx config.authToken nonce 0 hmb hprepared hctx.valid true
      fun _ => .inr rfl
  exact wsClientStart_total h.uri_ne rfl hinit hregenerate rfl rfl rfl

/-- With these settings the server starts. -/
theorem Paired.server_starts (h : Paired config server) (hmb : mb.Lawful) (tickRateHz : UInt32) :
    ∃ srv, wsServerStart mb tickRateHz {} server true {} = (.ok, srv) := by
  have hsecret : (server.enableFrameEncryption || server.enableHandshakeToken) = true →
      server.cryptoSecret ≠ [] := by
    intro hneeded
    rw [h.cryptoSecret]
    apply h.secret_ne
    rw [← h.handshake]
    rcases Bool.or_eq_true_iff.mp hneeded with hon | hon <;> simp [hon]
  have htotp : server.enableTotp = true → server.totpSecret ≠ [] ∧ server.totpSecret.length ≤ 64 ∧
      6 ≤ server.totpDigits ∧ server.totpDigits ≤ 8 ∧ server.totpPeriodS ≠ 0 := by
    intro hon
    rw [h.totpSecret, h.totpDigits, h.totpPeriodS]
    exact h.totp_valid (h.totp.symm.trans hon)
  obtain ⟨ctx, hinit⟩ := @wsSecurityContextInit_total mb
    (serverSecurityConfig (withDefaults server))
    hmb hsecret htotp
  have hcertificate : ¬ (server.serverCert.isEmpty || server.serverKey.isEmpty) = true := by
    simp [h.certificate_ne.1, h.certificate_ne.2]
  have hguard : ¬ (((withDefaults server).enableFrameEncryption ||
      (withDefaults server).enableHandshakeToken) &&
        (withDefaults server).cryptoSecret.isEmpty) = true := by
    intro hboth
    obtain ⟨hneeded, hempty⟩ := Bool.and_eq_true_iff.mp hboth
    exact hsecret hneeded (List.isEmpty_iff.mp hempty)
  have hpassword : ¬ ((withDefaults server).enableTotp &&
      ((withDefaults server).totpSecret.isEmpty || (withDefaults server).totpDigits < 6 ||
        (withDefaults server).totpDigits > 8 || (withDefaults server).totpPeriodS = 0)) = true := by
    intro hboth
    obtain ⟨hon, hbad⟩ := Bool.and_eq_true_iff.mp hboth
    obtain ⟨hne, -, hge, hle, hperiod⟩ := htotp hon
    simp only [Bool.or_eq_true, List.isEmpty_iff, decide_eq_true_eq] at hbad
    rcases hbad with ((hempty | hlow) | hhigh) | hzero
    · exact hne hempty
    · exact UInt8.not_lt.mpr hge hlow
    · exact UInt8.not_lt.mpr hle hhigh
    · exact hperiod hzero
  rw [wsServerStart, if_neg hcertificate, if_neg (by decide)]
  dsimp only
  rw [if_neg hguard, if_neg hpassword, hinit]
  simp only [startResources]
  rw [if_neg (by simp), if_neg (by decide), if_neg (by decide)]
  exact ⟨_, rfl⟩

end Pair

/-- Whatever the cryptography, every started client and every started server agree on a handshake:
the header block is built, it fills the room reserved for it, and a request that carries its fields
is authorized unless the nonce is in the cache. -/
def HandshakeAccepted (tickRateHz : UInt32) (config : WsClientConfig) (server : WsServerConfig)
    (nonce : Vector UInt8 16) (clientTime serverTime : UInt64) : Prop :=
  ∀ mb : Mbedtls, mb.Lawful →
    ∀ clientOutcome clientCb link₀ link,
      wsClientStart mb clientOutcome config clientCb link₀ = (.ok, link) →
    ∀ serverOutcome serverCb srv₀ srv,
      wsServerStart mb tickRateHz serverOutcome server serverCb srv₀ = (.ok, srv) →
    ∀ cache : List WsNonceEntry, (∀ entry ∈ cache, entry.valid = true →
      entry.nonce ≠ nonce.toList) →
    ∀ before after : List (Bytes × Bytes), (∀ field ∈ before, field.1 ∉ handshakeNames) →
    ∀ (allocated : Bool) (now : TickType),
      ∃ headerBlock, regenerateHeaders mb link nonce clientTime allocated = (.ok, headerBlock) ∧
        { link with headerBlock := headerBlock }.headerText.length = link.headerLen ∧
        (authorizeRequest mb (srv.authorizeEnv now serverTime) (requestWith before after
          (HeaderLines.parse { link with headerBlock := headerBlock }.headerText)) cache).1 = true

/-- The time step of a time under the settings of a server. -/
def WsServerConfig.totpStep (server : WsServerConfig) (unixTime : UInt64) : Nat :=
  unixTime.toNat / server.totpPeriodS.toNat

/-- The steps of both sides are at most the window apart. -/
def StepsClose (server : WsServerConfig) (clientTime serverTime : UInt64) : Prop :=
  |(server.totpStep clientTime : Int) - server.totpStep serverTime| ≤ server.totpWindow.toNat

/-- The loop of `totp_verify` reaches the step of the client: its bound is not negative as a signed
number, and the time of that step does not pass the largest 64-bit number. -/
def WindowReaches (server : WsServerConfig) (clientTime serverTime : UInt64) : Prop :=
  server.totpWindow.toNat < 2 ^ 31 ∧
    serverTime.toNat +
      (server.totpStep clientTime - server.totpStep serverTime) * server.totpPeriodS.toNat < 2 ^ 64

instance (server : WsServerConfig) (clientTime serverTime : UInt64) :
    Decidable (StepsClose server clientTime serverTime) :=
  inferInstanceAs (Decidable (_ ≤ _))

instance (server : WsServerConfig) (clientTime serverTime : UInt64) :
    Decidable (WindowReaches server clientTime serverTime) :=
  inferInstanceAs (Decidable (_ ∧ _))

section Distinguish

/-- An HMAC that tells one time step from all others. -/
def stepHmac (step : Nat) (_key message : Bytes) : Vector UInt8 20 :=
  if message = beBytes 8 step then (Vector.replicate 20 0).set 3 1 else Vector.replicate 20 0

/-- The mbedTLS with this HMAC. -/
def stepMbedtls (step : Nat) : Mbedtls :=
  Mbedtls.ofHmac .empty
    (fun _ _ => Vector.replicate 32 0) (stepHmac step)

/-- The code is one in the given step and zero in any other. -/
theorem totpCompute_stepMbedtls {cfg : TotpConfig} (h : cfg.Valid) {step : Nat}
    (hstep : step < 2 ^ 64) (unixTime : UInt64) :
    totpCompute (stepMbedtls step) cfg unixTime =
      .ok (if cfg.step unixTime = step then 1 else 0) := by
  have hvalid : ¬ (cfg.secret.isEmpty || cfg.digits < 6 || cfg.digits > 8 || cfg.periodS = 0) := by
    simp [h.secret_ne, h.period_ne, h.digits_ge, h.digits_le]
  have hcounter : (unixTime / cfg.periodS.toUInt64).toNat = cfg.step unixTime := by
    rw [UInt64.toNat_div, UInt32.toNat_toUInt64]
    rfl
  have hsame : beBytes 8 (cfg.step unixTime) = beBytes 8 step ↔ cfg.step unixTime = step := by
    refine ⟨fun hbytes => ?_, fun hequal => by rw [hequal]⟩
    have hvalue := congrArg ofBe hbytes
    have hlt : cfg.step unixTime < 2 ^ 64 :=
      Nat.lt_of_le_of_lt (Nat.div_le_self _ _) unixTime.toNat_lt
    rwa [ofBe_beBytes, ofBe_beBytes, show 256 ^ 8 = 2 ^ 64 by decide, Nat.mod_eq_of_lt hlt,
      Nat.mod_eq_of_lt hstep] at hvalue
  have hone : (1 : UInt32) % pow10U32 cfg.digits = 1 := by
    have hge : 6 ≤ cfg.digits.toNat := UInt8.le_iff_toNat_le.mp h.digits_ge
    apply UInt32.toNat_inj.mp
    rw [UInt32.toNat_mod, toNat_pow10U32 h]
    exact Nat.mod_eq_of_lt (Nat.one_lt_pow (by omega) (by decide))
  rw [totpCompute, if_neg hvalid]
  simp only [stepMbedtls, Mbedtls.ofHmac, stepHmac, hcounter, hsame]
  by_cases hequal : cfg.step unixTime = step
  · rw [if_pos hequal, if_pos hequal]
    exact congrArg Except.ok hone
  · rw [if_neg hequal, if_neg hequal]
    exact congrArg Except.ok (UInt32.zero_mod)

end Distinguish

variable {config : WsClientConfig} {server : WsServerConfig}

/-- Both sides have the same time steps. -/
theorem Paired.step_eq (h : Paired config server) (unixTime : UInt64) :
    (clientTotp config).step unixTime = server.totpStep unixTime := by
  rw [TotpConfig.step, WsServerConfig.totpStep, h.totpPeriodS]
  rfl

/-- A client and a server of one deployment agree on every handshake within the window, if and only
if no one-time passwords are used or the loop of `totp_verify` reaches the step of the client. -/
theorem handshake_accepted_iff (tickRateHz : UInt32) (h : Paired config server)
    (nonce : Vector UInt8 16) {clientTime serverTime : UInt64}
    (hclose : server.enableTotp = true → StepsClose server clientTime serverTime) :
    HandshakeAccepted tickRateHz config server nonce clientTime serverTime ↔
      (server.enableTotp = true → WindowReaches server clientTime serverTime) := by
  constructor
  · intro haccepted hon
    -- an HMAC under which no other step has the code of the client
    let mb := stepMbedtls (server.totpStep clientTime)
    have hmb : mb.Lawful := Mbedtls.ofHmac_lawful _ _ _
    have henabled : config.enableTotp = true := h.totp.symm.trans hon
    have hvalid := h.valid henabled
    obtain ⟨link, hlink⟩ := h.client_starts hmb nonce
    obtain ⟨srv, hsrv⟩ := h.server_starts hmb tickRateHz
    have hnew : ∀ entry ∈ ([] : List WsNonceEntry), entry.valid = true →
        entry.nonce ≠ nonce.toList := fun _ hmem => absurd hmem List.not_mem_nil
    have hbefore : ∀ field ∈ ([] : List (Bytes × Bytes)), field.1 ∉ handshakeNames :=
      fun _ hmem => absurd hmem List.not_mem_nil
    obtain ⟨headerBlock, hbuilt, -, hauthorized⟩ :=
      haccepted mb hmb _ _ _ _ hlink _ _ _ _ hsrv [] hnew [] [] hbefore true 0
    obtain ⟨headerBlock', code, hbuilt', -, hcode, hiff⟩ :=
      @Paired.regenerate mb tickRateHz config server h hmb _ _ _ _ hlink _ _ _ _ hsrv nonce []
        hnew [] [] hbefore clientTime serverTime true 0
    obtain rfl : headerBlock' = headerBlock := (Prod.mk.inj (hbuilt'.symm.trans hbuilt)).2
    have hverified := hiff.mp hauthorized henabled
    have hlt : server.totpStep clientTime < 2 ^ 64 :=
      Nat.lt_of_le_of_lt (Nat.div_le_self _ _) clientTime.toNat_lt
    have hcompute := @totpCompute_stepMbedtls _ hvalid _ hlt
    have hone : code = 1 := by
      have hclient := (hcode henabled).symm.trans (hcompute clientTime)
      rw [if_pos (h.step_eq clientTime)] at hclient
      exact Except.ok.inj hclient
    by_contra hunreached
    have hbeyond : 2 ^ 31 ≤ server.totpWindow.toNat ∨ 2 ^ 64 ≤ serverTime.toNat +
        ((clientTotp config).step clientTime - (clientTotp config).step serverTime) *
          (clientTotp config).periodS.toNat := by
      rw [h.step_eq, h.step_eq, show (clientTotp config).periodS = server.totpPeriodS from
        h.totpPeriodS.symm]
      simpa only [WindowReaches, not_and_or, Nat.not_lt] using hunreached
    have honly : ∀ time, totpCompute mb (clientTotp config) time = .ok code →
        (clientTotp config).step time = (clientTotp config).step clientTime := by
      intro time htime
      rw [hcompute, hone] at htime
      by_contra hother
      rw [if_neg (by rwa [← h.step_eq])] at htime
      exact absurd (Except.ok.inj htime) (by decide)
    exact totpVerify_unreached hmb hvalid hbeyond honly hverified
  · intro hreaches mb hmb _ _ _ link hlink _ _ _ srv hsrv cache hnew before after hbefore allocated
      now
    obtain ⟨headerBlock, code, hbuilt, hlength, hcode, hiff⟩ :=
      @Paired.regenerate mb tickRateHz config server h hmb _ _ _ _ hlink _ _ _ _ hsrv nonce cache
        hnew before after hbefore clientTime serverTime allocated now
    refine ⟨headerBlock, hbuilt, hlength, hiff.mpr fun henabled => ?_⟩
    have hon : server.enableTotp = true := h.totp.trans henabled
    obtain ⟨hwindow, hbound⟩ := hreaches hon
    have hsteps := hclose hon
    rw [StepsClose, ← h.step_eq, ← h.step_eq] at hsteps
    rw [← h.step_eq, ← h.step_eq, h.totpPeriodS] at hbound
    exact totpVerify_close hmb (h.valid henabled) hwindow hsteps hbound (hcode henabled)

/-- The settings of a client that uses everything. -/
def pairConfig : WsClientConfig where
  uri := ascii "wss://node/ws"
  authToken := ascii "token"
  cryptoSecret := ascii "secret"
  enableFrameEncryption := true
  enableHandshakeToken := true
  enableTotp := true
  totpSecret := ascii "totp"
  totpPeriodS := 30
  totpDigits := 6
  totpWindow := 1

/-- The settings of its server, with the given window. -/
def pairServer (window : UInt32) : WsServerConfig where
  authToken := ascii "token"
  serverCert := [1]
  serverKey := [1]
  cryptoSecret := ascii "secret"
  enableFrameEncryption := true
  enableHandshakeToken := true
  enableTotp := true
  totpSecret := ascii "totp"
  totpPeriodS := 30
  totpDigits := 6
  totpWindow := window

theorem pair_paired (window : UInt32) : Paired pairConfig (pairServer window) where
  authToken := rfl
  cryptoSecret := rfl
  handshake := rfl
  totp := rfl
  totpSecret := rfl
  totpPeriodS := rfl
  totpDigits := rfl
  tokenFits := ⟨by decide +kernel, by decide⟩
  uri_ne := by decide
  certificate_ne := ⟨List.cons_ne_nil _ _, List.cons_ne_nil _ _⟩
  secret_ne _ := by decide
  totp_valid _ := by decide

/-- A nonce. -/
def pairNonce : Vector UInt8 16 := Vector.replicate 16 7

/-- With a window of one the server accepts a client that is one step ahead. -/
theorem handshake_accepted_one_step :
    HandshakeAccepted 100 pairConfig (pairServer 1) pairNonce 1000030 1000000 :=
  (handshake_accepted_iff 100 (pair_paired 1) pairNonce (fun _ => by decide)).mpr
    fun _ => by decide

/-- The mbedTLS whose HMACs are all zero. -/
def pairMbedtls : Mbedtls :=
  Mbedtls.ofHmac .empty
    (fun _ _ => Vector.replicate 32 0) (fun _ _ => Vector.replicate 20 0)

/-- The client of the pair, as it starts. -/
def pairLink : WsLink := (wsClientStart pairMbedtls { nonce := pairNonce } pairConfig true {}).2

/-- The server of the pair, as it starts with the given window. -/
def pairSrv (window : UInt32) : WsServer :=
  (wsServerStart pairMbedtls 100 {} (pairServer window) true {}).2

/-- With the widest window the server rejects a client whose clock agrees with its own. -/
theorem handshake_rejected_widest_window :
    Paired pairConfig (pairServer 0xFFFFFFFF) ∧
      StepsClose (pairServer 0xFFFFFFFF) 1000000 1000000 ∧
      ¬ HandshakeAccepted 100 pairConfig (pairServer 0xFFFFFFFF) pairNonce 1000000 1000000 := by
  refine ⟨pair_paired _, by decide, ?_⟩
  intro haccepted
  have hlink : wsClientStart pairMbedtls { nonce := pairNonce } pairConfig true {} =
      (.ok, pairLink) := by
    decide +kernel
  have hsrv : wsServerStart pairMbedtls 100 {} (pairServer 0xFFFFFFFF) true {} =
      (.ok, pairSrv 0xFFFFFFFF) := by
    decide +kernel
  obtain ⟨headerBlock, hbuilt, -, hauthorized⟩ :=
    haccepted pairMbedtls (Mbedtls.ofHmac_lawful _ _ _) _ _ _ _ hlink _ _ _ _ hsrv []
      (fun _ hmem => absurd hmem List.not_mem_nil) [] []
        (fun _ hmem => absurd hmem List.not_mem_nil)
      true 0
  have hrejected : (authorizeRequest pairMbedtls ((pairSrv 0xFFFFFFFF).authorizeEnv 0 1000000)
      (requestWith [] [] (HeaderLines.parse { pairLink with
        headerBlock := (regenerateHeaders pairMbedtls pairLink pairNonce 1000000 true).2
        }.headerText)) []).1 = false := by
    decide +kernel
  rw [hbuilt, hauthorized] at hrejected
  cases hrejected

end SensorHmi
