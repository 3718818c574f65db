import SensorHmi.Platform

/-!
# Sealed WebSocket frames

`common/net/ws_security.c`: the security context, key derivation, and sealing and opening of
frames. A sealed frame is version, flags, a little-endian 64-bit counter, the IV, the ciphertext
and the tag; the first ten octets are authenticated.

Pointer arguments are never null at the call sites, so the null checks are not modelled; an empty
secret stands for a null pointer or a zero length. Opening hands `mbedtls_gcm_auth_decrypt` its last
four arguments in the order of `mbedtls_gcm_crypt_and_tag`, so the tag's length is an address and
nothing ever opens: `wsSecurityDecrypt_eq_ok_iff`.
-/

namespace SensorHmi

open Octets

/-- `WS_SECURITY_VERSION` -/
def wsSecurityVersion : UInt8 := 1

/-- `WS_SECURITY_IV_LEN` -/
def wsSecurityIvLen : Nat := 12

/-- `WS_SECURITY_TAG_LEN` -/
def wsSecurityTagLen : Nat := 16

/-- `WS_SECURITY_COUNTER_LEN` -/
def wsSecurityCounterLen : Nat := 8

/-- `WS_SECURITY_FIXED_HEADER_LEN` -/
def wsSecurityFixedHeaderLen : Nat := 1 + 1 + wsSecurityCounterLen

/-- `WS_SECURITY_HEADER_LEN` -/
def wsSecurityHeaderLen : Nat := wsSecurityFixedHeaderLen + wsSecurityIvLen

/-- `ws_security_config_t` -/
structure WsSecurityConfig where
  secret : Bytes
  enableEncryption : Bool
  enableHandshake : Bool
  enableTotp : Bool
  totpSecret : Bytes
  totpPeriodS : UInt32
  totpDigits : UInt8
  totpWindow : UInt32
  deriving DecidableEq

/-- `ws_security_context_t`; `totpSecret` is the first `totp_secret_len` octets. -/
structure WsSecurityContext where
  handshakeEnabled : Bool := false
  encryptionEnabled : Bool := false
  totpEnabled : Bool := false
  handshakeKey : Vector UInt8 32 := Vector.replicate 32 0
  frameKey : Vector UInt8 32 := Vector.replicate 32 0
  txCounter : UInt64 := 0
  totpSecret : Bytes := []
  totpPeriodS : UInt32 := 0
  totpDigits : UInt8 := 0
  totpWindow : UInt32 := 0
  deriving DecidableEq

/-- `derive_key` for the 32-byte keys of the context. -/
def deriveKey (mb : Mbedtls) (secret label : Bytes) : Except EspErr (Vector UInt8 32) :=
  if secret.isEmpty then .error .invalidArg
  else match mb.hmacSha256 secret label with
    | none => .error .fail
    | some digest => .ok digest

/-- The handshake key of `ws_security_context_init`. -/
def initHandshake (mb : Mbedtls) (config : WsSecurityConfig) (ctx : WsSecurityContext) :
    EspErr × WsSecurityContext :=
  if !config.enableHandshake then (.ok, ctx)
  else match deriveKey mb config.secret (ascii "ws-handshake") with
    | .error err => (err, ctx)
    | .ok key => (.ok, { ctx with handshakeKey := key, handshakeEnabled := true })

/-- The frame key of `ws_security_context_init`. -/
def initEncryption (mb : Mbedtls) (config : WsSecurityConfig) (ctx : WsSecurityContext) :
    EspErr × WsSecurityContext :=
  if !config.enableEncryption then (.ok, ctx)
  else match deriveKey mb config.secret (ascii "ws-frame") with
    | .error err => (err, ctx)
    | .ok key => (.ok, { ctx with frameKey := key, encryptionEnabled := true, txCounter := 0 })

/-- The one-time-password settings of `ws_security_context_init`. -/
def initTotp (config : WsSecurityConfig) (ctx : WsSecurityContext) : EspErr × WsSecurityContext :=
  if !config.enableTotp then (.ok, ctx)
  else if config.totpSecret.isEmpty || config.totpSecret.length > 64 then (.invalidArg, ctx)
  else if config.totpDigits < 6 || config.totpDigits > 8 || config.totpPeriodS = 0 then
    (.invalidArg, ctx)
  else
    (.ok, { ctx with
      totpSecret := config.totpSecret
      totpDigits := config.totpDigits
      totpPeriodS := config.totpPeriodS
      totpWindow := config.totpWindow
      totpEnabled := true })

/-- `ws_security_context_init`: the result code and the context, partly filled on an error. -/
def wsSecurityContextInit (mb : Mbedtls) (config : Option WsSecurityConfig) :
    EspErr × WsSecurityContext :=
  match config with
  | none => (.ok, {})
  | some config =>
      if config.secret.isEmpty && (config.enableEncryption || config.enableHandshake) then
        (.invalidArg, {})
      else
        EspErr.andThen (initHandshake mb config {}) fun ctx =>
          EspErr.andThen (initEncryption mb config ctx) fun ctx => initTotp config ctx

theorem deriveKey_ne_ok {mb : Mbedtls} {secret label : Bytes} {err : EspErr}
    (h : deriveKey mb secret label = .error err) : err ≠ .ok := by
  unfold deriveKey at h
  split at h
  · cases h
    decide
  · split at h <;> cases h
    decide

section Init

variable {mb : Mbedtls} {config : WsSecurityConfig} {start next ctx : WsSecurityContext}

theorem initHandshake_ok (h : initHandshake mb config start = (.ok, next)) :
    (config.enableHandshake = false ∧ next = start) ∨
      ∃ key, config.enableHandshake = true ∧
        deriveKey mb config.secret (ascii "ws-handshake") = .ok key ∧
        next = { start with handshakeKey := key, handshakeEnabled := true } := by
  unfold initHandshake at h
  cases henable : config.enableHandshake <;> simp only [henable] at h
  · cases h
    exact .inl ⟨rfl, rfl⟩
  · simp only [Bool.not_true, Bool.false_eq_true, if_false] at h
    split at h
    case h_1 err hderive => exact absurd (Prod.mk.inj h).1 (deriveKey_ne_ok hderive)
    case h_2 key hderive =>
      cases h
      exact .inr ⟨key, rfl, hderive, rfl⟩

theorem initEncryption_ok (h : initEncryption mb config start = (.ok, next)) :
    (config.enableEncryption = false ∧ next = start) ∨
      ∃ key, config.enableEncryption = true ∧
        deriveKey mb config.secret (ascii "ws-frame") = .ok key ∧
        next = { start with frameKey := key, encryptionEnabled := true, txCounter := 0 } := by
  unfold initEncryption at h
  cases henable : config.enableEncryption <;> simp only [henable] at h
  · cases h
    exact .inl ⟨rfl, rfl⟩
  · simp only [Bool.not_true, Bool.false_eq_true, if_false] at h
    split at h
    case h_1 err hderive => exact absurd (Prod.mk.inj h).1 (deriveKey_ne_ok hderive)
    case h_2 key hderive =>
      cases h
      exact .inr ⟨key, rfl, hderive, rfl⟩

theorem initTotp_ok (h : initTotp config start = (.ok, next)) :
    (config.enableTotp = false ∧ next = start) ∨
      (config.enableTotp = true ∧ config.totpSecret ≠ [] ∧ 6 ≤ config.totpDigits ∧
        config.totpDigits ≤ 8 ∧ config.totpPeriodS ≠ 0 ∧
        next = { start with
          totpSecret := config.totpSecret, totpDigits := config.totpDigits
          totpPeriodS := config.totpPeriodS, totpWindow := config.totpWindow
          totpEnabled := true }) := by
  unfold initTotp at h
  cases henable : config.enableTotp <;> simp only [henable] at h
  · cases h
    exact .inl ⟨rfl, rfl⟩
  · simp only [Bool.not_true, Bool.false_eq_true, if_false] at h
    split_ifs at h with hsecret hform
    · cases h
    · cases h
    · cases h
      simp only [Bool.or_eq_true, decide_eq_true_eq, not_or, UInt8.not_lt, gt_iff_lt,
        List.isEmpty_iff] at hsecret hform
      exact .inr ⟨rfl, hsecret.1, hform.1.1, hform.1.2, hform.2, rfl⟩

/-- The context has the features, the keys and the settings of its configuration. -/
structure WsSecurityContext.Of (mb : Mbedtls) (config : WsSecurityConfig)
    (ctx : WsSecurityContext) : Prop where
  encryption : ctx.encryptionEnabled = config.enableEncryption
  handshake : ctx.handshakeEnabled = config.enableHandshake
  totp : ctx.totpEnabled = config.enableTotp
  frameKey : config.enableEncryption = true →
    deriveKey mb config.secret (ascii "ws-frame") = .ok ctx.frameKey
  handshakeKey : config.enableHandshake = true →
    deriveKey mb config.secret (ascii "ws-handshake") = .ok ctx.handshakeKey
  totpSettings : config.enableTotp = true →
    ctx.totpSecret = config.totpSecret ∧ ctx.totpPeriodS = config.totpPeriodS ∧
      ctx.totpDigits = config.totpDigits ∧ ctx.totpWindow = config.totpWindow
  totpValid : config.enableTotp = true →
    config.totpSecret ≠ [] ∧ 6 ≤ config.totpDigits ∧ config.totpDigits ≤ 8 ∧
      config.totpPeriodS ≠ 0

/-- A context that was initialised without an error is the one its settings ask for. -/
theorem wsSecurityContextInit_spec (h : wsSecurityContextInit mb (some config) = (.ok, ctx)) :
    ctx.Of mb config := by
  simp only [wsSecurityContextInit] at h
  split at h
  · cases h
  obtain ⟨first, hfirst, h⟩ := EspErr.andThen_eq_ok_iff.mp h
  obtain ⟨second, hsecond, hthird⟩ := EspErr.andThen_eq_ok_iff.mp h
  rcases initHandshake_ok hfirst with ⟨hoff₁, rfl⟩ | ⟨key₁, hon₁, hkey₁, rfl⟩ <;>
    rcases initEncryption_ok hsecond with ⟨hoff₂, rfl⟩ | ⟨key₂, hon₂, hkey₂, rfl⟩ <;>
    rcases initTotp_ok hthird with ⟨hoff₃, rfl⟩ | ⟨hon₃, hsecret, hge, hle, hperiod, rfl⟩ <;>
    constructor <;> simp [*]

/-- With an HMAC and valid settings the initialisation succeeds. -/
theorem wsSecurityContextInit_total (hmb : mb.Lawful)
    (hsecret : (config.enableEncryption || config.enableHandshake) = true → config.secret ≠ [])
    (htotp : config.enableTotp = true →
      config.totpSecret ≠ [] ∧ config.totpSecret.length ≤ 64 ∧ 6 ≤ config.totpDigits ∧
        config.totpDigits ≤ 8 ∧ config.totpPeriodS ≠ 0) :
    ∃ ctx, wsSecurityContextInit mb (some config) = (.ok, ctx) := by
  have hderive : config.secret ≠ [] → ∀ label, ∃ key, deriveKey mb config.secret label =
    .ok key := by
    intro hne label
    obtain ⟨key, hkey⟩ := hmb.hmacSha256_total config.secret label
    exact ⟨key, by simp [deriveKey, hne, hkey]⟩
  have hfirst : ∃ first, initHandshake mb config {} = (.ok, first) := by
    cases hon : config.enableHandshake with
    | false => exact ⟨_, by simp [initHandshake, hon]; rfl⟩
    | true =>
        obtain ⟨key, hkey⟩ := hderive (hsecret (by simp [hon])) (ascii "ws-handshake")
        exact ⟨_, by simp [initHandshake, hon, hkey]; rfl⟩
  obtain ⟨first, hfirst⟩ := hfirst
  have hsecond : ∃ second, initEncryption mb config first = (.ok, second) := by
    cases hon : config.enableEncryption with
    | false => exact ⟨_, by simp [initEncryption, hon]; rfl⟩
    | true =>
        obtain ⟨key, hkey⟩ := hderive (hsecret (by simp [hon])) (ascii "ws-frame")
        exact ⟨_, by simp [initEncryption, hon, hkey]; rfl⟩
  obtain ⟨second, hsecond⟩ := hsecond
  have hthird : ∃ third, initTotp config second = (.ok, third) := by
    cases hon : config.enableTotp with
    | false => exact ⟨_, by simp [initTotp, hon]; rfl⟩
    | true =>
        obtain ⟨hne, hshort, hge, hle, hperiod⟩ := htotp hon
        have hsize : ¬ (config.totpSecret.isEmpty || config.totpSecret.length > 64) = true := by
          simp [hne, hshort]
        have hform : ¬ (config.totpDigits < 6 || config.totpDigits > 8 ||
            config.totpPeriodS = 0) = true := by
          simp [hge, hle, hperiod]
        rw [initTotp, hon, if_neg (by decide), if_neg hsize, if_neg hform]
        exact ⟨_, rfl⟩
  obtain ⟨third, hthird⟩ := hthird
  have hguard : ¬ (config.secret.isEmpty &&
      (config.enableEncryption || config.enableHandshake)) = true := by
    intro hboth
    obtain ⟨hempty, hneeded⟩ := Bool.and_eq_true_iff.mp hboth
    exact hsecret hneeded (List.isEmpty_iff.mp hempty)
  refine ⟨third, ?_⟩
  simp only [wsSecurityContextInit]
  rw [if_neg hguard]
  exact EspErr.andThen_eq_ok_iff.mpr
    ⟨first, hfirst, EspErr.andThen_eq_ok_iff.mpr ⟨second, hsecond, hthird⟩⟩

end Init

/-- `ws_security_reset_counters` -/
def wsSecurityResetCounters (ctx : WsSecurityContext) : WsSecurityContext :=
  { ctx with txCounter := 0 }

/-- `ws_security_encrypted_size` -/
def wsSecurityEncryptedSize (ctx : WsSecurityContext) (plaintextLen : Nat) : Nat :=
  if !ctx.encryptionEnabled then plaintextLen
  else wsSecurityHeaderLen + plaintextLen + wsSecurityTagLen

/-- The octets of a sealed frame that are authenticated but not encrypted. -/
def sealedHeader (counter : UInt64) : Bytes :=
  wsSecurityVersion :: 0 :: leBytes wsSecurityCounterLen counter.toNat

/-- A sealed frame from its parts. -/
def sealedFrame (counter : UInt64) (iv ciphertext tag : Bytes) : Bytes :=
  sealedHeader counter ++ iv ++ ciphertext ++ tag

/-- `ws_security_encrypt` into `outSize` octets, with the IV that `generate_iv` draws: the frame
or the error, and the context after the call. -/
def wsSecurityEncrypt (gcm : Gcm) (iv : Vector UInt8 12) (ctx : WsSecurityContext)
    (plaintext : Bytes) (outSize : Nat) : Except EspErr Bytes × WsSecurityContext :=
  if !ctx.encryptionEnabled then
    if outSize < plaintext.length then (.error .noMem, ctx) else (.ok plaintext, ctx)
  else if outSize < wsSecurityEncryptedSize ctx plaintext.length then (.error .noMem, ctx)
  else
    let ctx := { ctx with txCounter := ctx.txCounter + 1 }
    match gcm.cryptAndTag ctx.frameKey.toList iv.toList (sealedHeader ctx.txCounter) plaintext with
    | none => (.error .fail, ctx)
    | some (ciphertext, tag) => (.ok (sealedFrame ctx.txCounter iv.toList ciphertext tag), ctx)

section Fields

variable (buffer : Bytes)

/-- `cursor + 2` read as a `uint64_t` on a little-endian core. -/
def frameCounter : UInt64 :=
  UInt64.ofNat (ofLe ((buffer.drop 2).take wsSecurityCounterLen))

/-- The authenticated octets of a frame. -/
def frameHeader : Bytes :=
  buffer.take wsSecurityFixedHeaderLen

/-- The IV of a frame. -/
def frameIv : Bytes :=
  (buffer.drop wsSecurityFixedHeaderLen).take wsSecurityIvLen

/-- The ciphertext of a frame. -/
def frameCiphertext : Bytes :=
  (buffer.drop wsSecurityHeaderLen).take (buffer.length - wsSecurityHeaderLen - wsSecurityTagLen)

/-- The tag of a frame. -/
def frameTag : Bytes :=
  buffer.drop (wsSecurityHeaderLen + (buffer.length - wsSecurityHeaderLen - wsSecurityTagLen))

/-- What is checked of a frame before its counter: it has room for its header and its tag, and its
version and its flags are known. -/
def FrameShaped : Prop :=
  wsSecurityHeaderLen + wsSecurityTagLen ≤ buffer.length ∧ buffer[0]? = some wsSecurityVersion ∧
    buffer[1]? = some 0

end Fields

/-- `ws_security_decrypt`: what it leaves in the buffer or the error, and `counter_state` after the
call. -/
def wsSecurityDecrypt (gcm : Gcm) (ctx : WsSecurityContext) (buffer : Bytes)
    (counterState : UInt64) : Except EspErr Bytes × UInt64 :=
  if !ctx.encryptionEnabled then (.ok buffer, counterState)
  else if buffer.length < wsSecurityHeaderLen + wsSecurityTagLen then
    (.error .invalidSize, counterState)
  else if buffer[0]? ≠ some wsSecurityVersion then (.error .invalidVersion, counterState)
  else if buffer[1]? ≠ some 0 then (.error .invalidState, counterState)
  else if frameCounter buffer ≤ counterState then (.error .invalidResponse, counterState)
  else
    let ciphertextLen := buffer.length - wsSecurityHeaderLen - wsSecurityTagLen
    let ciphertext := wsSecurityHeaderLen
    -- the ciphertext is passed as the tag, its address as the tag's length and the length of the
    -- tag as the input; the output goes to the tag
    match gcm.authDecrypt ctx.frameKey.toList ciphertextLen (frameIv buffer) (frameHeader buffer)
        (buffer.drop ciphertext) (gcm.bufferAddress + ciphertext) (.address wsSecurityTagLen) with
    | none => (.error .invalidResponse, counterState)
    | some _ => (.ok (frameCiphertext buffer), frameCounter buffer)

section SealedFields

variable {counter : UInt64} {iv ciphertext tag : Bytes}

@[simp] theorem length_sealedHeader : (sealedHeader counter).length = wsSecurityFixedHeaderLen := by
  simp [sealedHeader, wsSecurityFixedHeaderLen]
  omega

theorem frameHeader_sealedFrame :
    frameHeader (sealedFrame counter iv ciphertext tag) = sealedHeader counter := by
  rw [frameHeader, sealedFrame, List.append_assoc, List.append_assoc,
    List.take_left' length_sealedHeader]

theorem frameCounter_sealedFrame :
    frameCounter (sealedFrame counter iv ciphertext tag) = counter := by
  have hfield : ((sealedFrame counter iv ciphertext tag).drop 2).take wsSecurityCounterLen =
      leBytes wsSecurityCounterLen counter.toNat := by
    simp only [sealedFrame, sealedHeader, List.cons_append, List.append_assoc, List.drop_succ_cons,
      List.drop_zero]
    exact List.take_left' (length_leBytes _ _)
  have hbound : counter.toNat < 256 ^ wsSecurityCounterLen := counter.toNat_lt
  rw [frameCounter, hfield, ofLe_leBytes, Nat.mod_eq_of_lt hbound, UInt64.ofNat_toNat]

theorem frameIv_sealedFrame (hiv : iv.length = wsSecurityIvLen) :
    frameIv (sealedFrame counter iv ciphertext tag) = iv := by
  rw [frameIv, sealedFrame, List.append_assoc, List.append_assoc,
    List.drop_left' length_sealedHeader, List.take_left' hiv]

theorem length_sealedFrame (hiv : iv.length = wsSecurityIvLen)
    (htag : tag.length = wsSecurityTagLen) :
    (sealedFrame counter iv ciphertext tag).length =
      wsSecurityHeaderLen + ciphertext.length + wsSecurityTagLen := by
  simp only [sealedFrame, List.length_append, length_sealedHeader, hiv, htag, wsSecurityHeaderLen]

theorem drop_sealedFrame (hiv : iv.length = wsSecurityIvLen) :
    (sealedFrame counter iv ciphertext tag).drop wsSecurityHeaderLen = ciphertext ++ tag := by
  rw [sealedFrame, List.append_assoc, List.drop_left']
  simp only [List.length_append, length_sealedHeader, hiv, wsSecurityHeaderLen]

theorem frameCiphertext_sealedFrame (hiv : iv.length = wsSecurityIvLen)
    (htag : tag.length = wsSecurityTagLen) :
    frameCiphertext (sealedFrame counter iv ciphertext tag) = ciphertext := by
  rw [frameCiphertext, drop_sealedFrame hiv, length_sealedFrame hiv htag]
  exact List.take_left' (by omega)

theorem frameTag_sealedFrame (hiv : iv.length = wsSecurityIvLen)
    (htag : tag.length = wsSecurityTagLen) :
    frameTag (sealedFrame counter iv ciphertext tag) = tag := by
  rw [frameTag, ← List.drop_drop, drop_sealedFrame hiv, length_sealedFrame hiv htag]
  exact List.drop_left' (by omega)

end SealedFields

section Encrypt

variable {gcm : Gcm} {iv : Vector UInt8 12} {ctx ctx' : WsSecurityContext}
  {plaintext frame : Bytes} {outSize : Nat} {result : Except EspErr Bytes}

/-- A call of `ws_security_encrypt` changes at most the counter, by one. -/
theorem wsSecurityEncrypt_context
    (h : wsSecurityEncrypt gcm iv ctx plaintext outSize = (result, ctx')) :
    ctx' = ctx ∨ ctx' = { ctx with txCounter := ctx.txCounter + 1 } := by
  unfold wsSecurityEncrypt at h
  split_ifs at h
  · exact Or.inl (Prod.mk.inj h).2.symm
  · exact Or.inl (Prod.mk.inj h).2.symm
  · exact Or.inl (Prod.mk.inj h).2.symm
  · dsimp only at h
    split at h <;> exact Or.inr (Prod.mk.inj h).2.symm

/-- A frame made with encryption on carries the next counter and what AES-GCM sealed. -/
theorem wsSecurityEncrypt_ok (henabled : ctx.encryptionEnabled = true)
    (h : wsSecurityEncrypt gcm iv ctx plaintext outSize = (.ok frame, ctx')) :
    ctx' = { ctx with txCounter := ctx.txCounter + 1 } ∧
      ∃ ciphertext tag,
        gcm.cryptAndTag ctx.frameKey.toList iv.toList (sealedHeader (ctx.txCounter + 1)) plaintext =
          some (ciphertext, tag) ∧
        frame = sealedFrame (ctx.txCounter + 1) iv.toList ciphertext tag := by
  unfold wsSecurityEncrypt at h
  simp only [henabled, Bool.not_true, Bool.false_eq_true, if_false] at h
  split_ifs at h
  · cases h
  · split at h
    case h_1 => cases h
    case h_2 ciphertext tag hcrypt =>
      cases h
      exact ⟨by rw [henabled], ciphertext, tag, hcrypt, rfl⟩

/-- A sealed frame has the shape that is checked, and carries the counter after the sender's. -/
theorem frameShaped_of_encrypt (henabled : ctx.encryptionEnabled = true)
    (h : wsSecurityEncrypt gcm iv ctx plaintext outSize = (.ok frame, ctx')) :
    FrameShaped frame ∧ frameCounter frame = ctx.txCounter + 1 := by
  obtain ⟨-, ciphertext, tag, hcrypt, rfl⟩ := wsSecurityEncrypt_ok henabled h
  have hiv : iv.toList.length = wsSecurityIvLen := by simp [wsSecurityIvLen]
  have htag : tag.length = wsSecurityTagLen := (gcm.length_of_crypt hcrypt).2
  refine ⟨⟨?_, rfl, rfl⟩, frameCounter_sealedFrame⟩
  rw [length_sealedFrame hiv htag]
  omega

/-- A sealed frame is authentic: with each argument in its place the call opens it. -/
theorem authDecrypt_of_encrypt (henabled : ctx.encryptionEnabled = true)
    (h : wsSecurityEncrypt gcm iv ctx plaintext outSize = (.ok frame, ctx')) :
    gcm.authDecrypt ctx.frameKey.toList (frameCiphertext frame).length (frameIv frame)
      (frameHeader frame) (frameTag frame) wsSecurityTagLen (.octets (frameCiphertext frame)) =
        some plaintext := by
  obtain ⟨-, ciphertext, tag, hcrypt, rfl⟩ := wsSecurityEncrypt_ok henabled h
  have hiv : iv.toList.length = wsSecurityIvLen := by simp [wsSecurityIvLen]
  have htag : tag.length = wsSecurityTagLen := (gcm.length_of_crypt hcrypt).2
  rw [frameIv_sealedFrame hiv, frameHeader_sealedFrame, frameCiphertext_sealedFrame hiv htag,
    frameTag_sealedFrame hiv htag]
  exact gcm.decrypt_of_crypt hcrypt

end Encrypt

section Decrypt

variable {gcm : Gcm} {ctx : WsSecurityContext} {buffer data : Bytes} {state state' : UInt64}

/-- With encryption on every buffer is refused, and `counter_state` stays. -/
theorem wsSecurityDecrypt_sealed (henabled : ctx.encryptionEnabled = true) :
    ∃ err, wsSecurityDecrypt gcm ctx buffer state = (.error err, state) := by
  rw [wsSecurityDecrypt, henabled, if_neg (by decide)]
  split_ifs
  · exact ⟨_, rfl⟩
  · exact ⟨_, rfl⟩
  · exact ⟨_, rfl⟩
  · exact ⟨_, rfl⟩
  · dsimp only
    split
    case h_1 => exact ⟨_, rfl⟩
    case h_2 output hopened =>
      -- no buffer lies so low that the address of its ciphertext is the length of a tag
      have hheader : wsSecurityHeaderLen = 22 := rfl
      have hlength := (gcm.tagLen_of_decrypt hopened).2
      omega

/-- A buffer is accepted exactly when encryption is off; it then stays as it is. -/
theorem wsSecurityDecrypt_eq_ok_iff :
    wsSecurityDecrypt gcm ctx buffer state = (.ok data, state') ↔
      ctx.encryptionEnabled = false ∧ data = buffer ∧ state' = state := by
  cases henabled : ctx.encryptionEnabled with
  | false =>
      rw [wsSecurityDecrypt, henabled, if_pos (by decide)]
      constructor
      · intro h
        cases h
        exact ⟨rfl, rfl, rfl⟩
      · rintro ⟨-, rfl, rfl⟩
        rfl
  | true =>
      obtain ⟨err, hrefused⟩ := @wsSecurityDecrypt_sealed gcm ctx buffer state henabled
      rw [hrefused]
      constructor
      · intro h
        cases h
      · rintro ⟨hoff, -, -⟩
        cases hoff

end Decrypt

end SensorHmi
