import SensorHmi.Net.WsSecurity
import SensorHmi.Util.Totp

/-!
# Authorization of a WebSocket handshake

The part of `common/net/ws_server.c` that decides whether a GET on `/ws` becomes a connection,
with the handshake checks of `ws_security.c` and `base64_utils_decode`. Authorization changes
nothing but the nonce cache.
-/

namespace SensorHmi

open Octets

/-- An HTTP request as far as the server reads it: its header fields. -/
structure HttpdReq where
  headers : List (Bytes × Bytes)

/-- `httpd_req_get_hdr_value_str` with a buffer of `size` octets, as ESP-IDF documents it: the value
as a C string, or `none` when the field is missing or does not fit. -/
def httpdReqGetHdrValueStr (req : HttpdReq) (field : Bytes) (size : Nat) : Option Bytes :=
  match req.headers.find? fun header => header.1 = field with
  | none => none
  | some (_, value) => if size ≤ value.length then none else some (cString value)

/-- `WS_SECURITY_NONCE_LEN` -/
def wsSecurityNonceLen : Nat := 16

/-- `ws_nonce_entry_t` -/
structure WsNonceEntry where
  valid : Bool := false
  timestamp : TickType := 0
  nonce : Bytes := List.replicate wsSecurityNonceLen 0
  deriving DecidableEq

/-- `hex_value`; `0xFF` for anything but a hexadecimal digit. -/
def hexValue (c : UInt8) : UInt8 :=
  if 48 ≤ c ∧ c ≤ 57 then c - 48
  else
    let c := if 65 ≤ c ∧ c ≤ 90 then c + 32 else c
    if 97 ≤ c ∧ c ≤ 102 then c - 97 + 10 else 0xFF

/-- `parse_nonce_hex` -/
def parseNonceHex (hex : Bytes) : Option Bytes :=
  (List.range wsSecurityNonceLen).mapM fun i =>
    let hi := hexValue (hex.getD (2 * i) 0)
    let lo := hexValue (hex.getD (2 * i + 1) 0)
    if hi > 0x0F ∨ lo > 0x0F then none else some (hi <<< 4 ||| lo)

/-- `parse_decimal_header` -/
def parseDecimalHeader (value : Bytes) (digits : UInt8) : Option UInt32 :=
  if digits < 1 ∨ digits > 8 ∨ value.length ≠ digits.toNat then none
  else value.foldlM (fun acc c =>
    if 48 ≤ c ∧ c ≤ 57 then some (acc * 10 + (c - 48).toUInt32) else none) 0

/-- `base64_utils_decode` into a buffer of `outSize` octets. -/
def base64UtilsDecode (mb : Mbedtls) (encoded : Bytes) (outSize : Nat) : Except EspErr Bytes :=
  if encoded.isEmpty then .error .invalidArg
  else match mb.base64Decode encoded with
    | none => .error .fail
    | some decoded => if outSize < decoded.length then .error .noMem else .ok decoded

/-- `handshake_hmac` over the nonce and the bearer token. -/
def handshakeHmac (mb : Mbedtls) (ctx : WsSecurityContext) (nonce authToken : Bytes) :
    Except EspErr (Vector UInt8 32) :=
  if nonce.isEmpty then .error .invalidArg
  else if !ctx.handshakeEnabled then .error .invalidState
  else match mb.hmacSha256 ctx.handshakeKey.toList (nonce ++ authToken) with
    | none => .error .fail
    | some digest => .ok digest

/-- `ws_security_verify_handshake` -/
def wsSecurityVerifyHandshake (mb : Mbedtls) (ctx : WsSecurityContext)
    (nonce authToken signature : Bytes) : EspErr :=
  if signature.length < 32 then .invalidArg
  else match handshakeHmac mb ctx nonce authToken with
    | .error err => err
    | .ok expected => if expected.toList = signature.take 32 then .ok else .invalidResponse

/-- `ws_security_totp_digits` -/
def wsSecurityTotpDigits (ctx : WsSecurityContext) : UInt8 :=
  if ctx.totpEnabled then ctx.totpDigits else 0

/-- `ws_security_verify_totp` -/
def wsSecurityVerifyTotp (mb : Mbedtls) (ctx : WsSecurityContext) (unixTime : UInt64)
    (code : UInt32) : Except EspErr Bool :=
  if !ctx.totpEnabled then .error .invalidState
  else
    totpVerify mb { secret := ctx.totpSecret, periodS := ctx.totpPeriodS, digits := ctx.totpDigits }
      unixTime ctx.totpWindow code

/-- `nonce_is_duplicate`: entries past their lifetime are invalidated on the way. -/
def nonceIsDuplicate (ttlTicks now : TickType) (nonce : Bytes) :
    List WsNonceEntry → Bool × List WsNonceEntry
  | [] => (false, [])
  | entry :: rest =>
      if !entry.valid then
        let (duplicate, rest) := nonceIsDuplicate ttlTicks now nonce rest
        (duplicate, entry :: rest)
      else if ttlTicks > 0 ∧ now - entry.timestamp > ttlTicks then
        let (duplicate, rest) := nonceIsDuplicate ttlTicks now nonce rest
        (duplicate, { entry with valid := false } :: rest)
      else if entry.nonce = nonce then (true, entry :: rest)
      else
        let (duplicate, rest) := nonceIsDuplicate ttlTicks now nonce rest
        (duplicate, entry :: rest)

/-- The slot search of `nonce_store`: the first free entry, else the oldest one. -/
def nonceSlot (now : TickType) :
    List WsNonceEntry → (i : Nat) → (slot : Option Nat) → (oldestAge : TickType) → Option Nat
  | [], _, slot, _ => slot
  | entry :: rest, i, slot, oldestAge =>
      if !entry.valid then some i
      else
        let age := now - entry.timestamp
        if slot.isNone ∨ age > oldestAge then nonceSlot now rest (i + 1) (some i) age
        else nonceSlot now rest (i + 1) slot oldestAge

/-- `nonce_store` -/
def nonceStore (nonce : Bytes) (now : TickType) (cache : List WsNonceEntry) : List WsNonceEntry :=
  let slot := (nonceSlot now cache 0 none 0).getD 0
  cache.set slot { valid := true, timestamp := now, nonce := nonce }

/-- What authorization reads besides the request. -/
structure AuthorizeEnv where
  authToken : Bytes
  ctx : WsSecurityContext
  nonceTtlTicks : TickType
  now : TickType
  unixTime : UInt64

/-- The bearer check of `authorize_request`. -/
def authorizeBearer (authToken : Bytes) (req : HttpdReq) : Bool :=
  if authToken.isEmpty then true
  else match httpdReqGetHdrValueStr req (ascii "Authorization") 192 with
    | none => false
    | some header => header.take 7 = ascii "Bearer " ∧ header.drop 7 = authToken

/-- The nonce and the signature a request presents. -/
def presentedHandshake (mb : Mbedtls) (req : HttpdReq) : Option (Bytes × Bytes) :=
  match httpdReqGetHdrValueStr req (ascii "X-WS-Nonce") (2 * wsSecurityNonceLen + 1) with
  | none => none
  | some nonceHex =>
      if nonceHex.length ≠ 2 * wsSecurityNonceLen then none
      else match parseNonceHex nonceHex with
        | none => none
        | some nonce =>
            match httpdReqGetHdrValueStr req (ascii "X-WS-Signature") 160 with
            | none => none
            | some signatureB64 =>
                match base64UtilsDecode mb signatureB64 64 with
                | .error _ => none
                | .ok signature => some (nonce, signature)

/-- The handshake check of `authorize_request`, with the nonce cache it leaves. -/
def authorizeHandshake (mb : Mbedtls) (env : AuthorizeEnv) (req : HttpdReq)
    (cache : List WsNonceEntry) : Bool × List WsNonceEntry :=
  if !env.ctx.handshakeEnabled then (true, cache)
  else match presentedHandshake mb req with
    | none => (false, cache)
    | some (nonce, signature) =>
        match nonceIsDuplicate env.nonceTtlTicks env.now nonce cache with
        | (true, cache) => (false, cache)
        | (false, cache) =>
            if wsSecurityVerifyHandshake mb env.ctx nonce env.authToken signature = .ok then
              (true, nonceStore nonce env.now cache)
            else (false, cache)

/-- The one-time-password check of `authorize_request`. -/
def authorizeTotp (mb : Mbedtls) (env : AuthorizeEnv) (req : HttpdReq) : Bool :=
  if !env.ctx.totpEnabled then true
  else match httpdReqGetHdrValueStr req (ascii "X-WS-TOTP") 16 with
    | none => false
    | some header =>
        match parseDecimalHeader header (wsSecurityTotpDigits env.ctx) with
        | none => false
        | some code =>
            match wsSecurityVerifyTotp mb env.ctx env.unixTime code with
            | .error _ => false
            | .ok isMatch => isMatch

/-- `authorize_request`: the decision and the nonce cache after it. -/
def authorizeRequest (mb : Mbedtls) (env : AuthorizeEnv) (req : HttpdReq)
    (cache : List WsNonceEntry) : Bool × List WsNonceEntry :=
  if !authorizeBearer env.authToken req then (false, cache)
  else match authorizeHandshake mb env req cache with
    | (false, cache) => (false, cache)
    | (true, cache) => (authorizeTotp mb env req, cache)

/-- Looking a nonce up keeps the number of entries. -/
theorem length_nonceIsDuplicate (ttlTicks now : TickType) (nonce : Bytes)
    (cache : List WsNonceEntry) :
    (nonceIsDuplicate ttlTicks now nonce cache).2.length = cache.length := by
  induction cache with
  | nil => rfl
  | cons entry rest ih =>
      simp only [nonceIsDuplicate]
      split_ifs <;> simp [ih]

end SensorHmi
