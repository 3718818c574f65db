import SensorHmi.Lib.HeaderLines
import SensorHmi.Net.WsClient

/-!
# The header block of the client

What `regenerate_headers` writes, field by field, and that `ws_client_start` reserves exactly as
much room as this takes.
-/

namespace SensorHmi

open Octets Numeral

/-- The field with the bearer token. -/
def bearerFields (token : Bytes) : List (Bytes × Bytes) :=
  if token.isEmpty then [] else [(ascii "Authorization", ascii "Bearer " ++ token)]

/-- The fields of a handshake. -/
def handshakeFields (mb : Mbedtls) (nonce : Vector UInt8 16) (signature : Vector UInt8 32) :
    List (Bytes × Bytes) :=
  [(ascii "X-WS-Nonce", bytesToHex nonce.toList),
    (ascii "X-WS-Signature", mb.base64Encode signature.toList)]

/-- A code as `%0*u` prints it. -/
def codeText (digits : UInt8) (code : UInt32) : Bytes :=
  List.replicate (digits.toNat - (natText code.toNat).length) 48 ++ natText code.toNat

/-- The settings of one-time passwords in a context. -/
def totpConfig (ctx : WsSecurityContext) : TotpConfig :=
  { secret := ctx.totpSecret, periodS := ctx.totpPeriodS, digits := ctx.totpDigits }

/-- The header text the transport is given. -/
def WsLink.headerText (link : WsLink) : Bytes :=
  if link.headerLen = 0 then [] else link.headerBlock.getD []

/-- The statics that `regenerate_headers` reads, as `ws_client_start` sets them. -/
structure WsLink.Prepared (link : WsLink) (ctx : WsSecurityContext) (token : Bytes) : Prop where
  securityCtx : ∃ txCounter, link.securityCtx = { ctx with txCounter := txCounter }
  tokenRef : link.token = token
  handshakeEnabled : link.handshakeEnabled = ctx.handshakeEnabled
  totpEnabled : link.totpEnabled = ctx.totpEnabled
  totpDigits : link.totpDigits = wsSecurityTotpDigits ctx
  headerLen : link.headerLen =
    headerLength token ctx.handshakeEnabled ctx.totpEnabled (wsSecurityTotpDigits ctx)

/-- The password settings of an initialised context are valid. -/
theorem WsSecurityContext.Of.valid {mb : Mbedtls} {config : WsSecurityConfig}
    {ctx : WsSecurityContext} (h : ctx.Of mb config) (hon : ctx.totpEnabled = true) :
    (totpConfig ctx).Valid := by
  have henabled : config.enableTotp = true := h.totp.symm.trans hon
  obtain ⟨hsecret, hperiod, hdigits, -⟩ := h.totpSettings henabled
  obtain ⟨hne, hge, hle, hperiod_ne⟩ := h.totpValid henabled
  rw [totpConfig, hsecret, hperiod, hdigits]
  exact ⟨hne, hge, hle, hperiod_ne⟩

/-- What an event keeps of a client, it keeps prepared. -/
theorem WsLink.Prepared.keeps {before after : WsLink} {ctx : WsSecurityContext} {token : Bytes}
    (h : before.Prepared ctx token) (hkeeps : before.Keeps after) : after.Prepared ctx token where
  securityCtx := by
    obtain ⟨txCounter, hctx⟩ := h.securityCtx
    obtain ⟨txCounter', hctx'⟩ := hkeeps.securityCtx
    exact ⟨txCounter', by rw [hctx', hctx]⟩
  tokenRef := hkeeps.token.trans h.tokenRef
  handshakeEnabled := hkeeps.handshakeEnabled.trans h.handshakeEnabled
  totpEnabled := hkeeps.totpEnabled.trans h.totpEnabled
  totpDigits := hkeeps.totpDigits.trans h.totpDigits
  headerLen := hkeeps.headerLen.trans h.headerLen

section Text

variable {mb : Mbedtls} {limit : Nat} {block line : Bytes} {link : WsLink}
  {ctx : WsSecurityContext} {token : Bytes} {nonce : Vector UInt8 16} {unixTime : UInt64}

/-- A line that fits is written in full. -/
theorem appendHeader_fits (h : block.length + line.length ≤ limit) :
    appendHeader limit block line = (.ok, block ++ line) := by
  rw [appendHeader, if_neg (by omega), List.take_of_length_le (by omega)]

theorem length_bytesToHex (octets : Bytes) : (bytesToHex octets).length = 2 * octets.length := by
  induction octets with
  | nil => rfl
  | cons octet rest ih =>
      rw [bytesToHex, List.flatMap_cons, List.length_append, ← bytesToHex, ih]
      simp
      omega

/-- A code of at most the given digits is printed with exactly as many. -/
theorem length_codeText {digits : UInt8} {code : UInt32} (hdigits : 0 < digits.toNat)
    (h : code.toNat < 10 ^ digits.toNat) : (codeText digits code).length = digits.toNat := by
  have hlength := length_natText_le hdigits h
  rw [codeText, List.length_append, List.length_replicate]
  omega

theorem line_bearer (token : Bytes) :
    ascii "Authorization: Bearer " ++ token ++ ascii "\r\n" =
      HeaderLines.line (ascii "Authorization") (ascii "Bearer " ++ token) := by
  rw [show ascii "Authorization: Bearer " =
    ascii "Authorization" ++ 58 :: 32 :: ascii "Bearer " from rfl]
  simp only [HeaderLines.line, List.append_assoc, List.cons_append]
  rfl

theorem line_nonce (value : Bytes) :
    ascii "X-WS-Nonce: " ++ value ++ ascii "\r\n" =
      HeaderLines.line (ascii "X-WS-Nonce") value := rfl

theorem line_signature (value : Bytes) :
    ascii "X-WS-Signature: " ++ value ++ ascii "\r\n" =
      HeaderLines.line (ascii "X-WS-Signature") value := rfl

theorem line_totp (value : Bytes) :
    ascii "X-WS-TOTP: " ++ value ++ ascii "\r\n" =
      HeaderLines.line (ascii "X-WS-TOTP") value := rfl

/-- The fields of a header block. -/
def headerFields (mb : Mbedtls) (ctx : WsSecurityContext) (token : Bytes)
    (nonce : Vector UInt8 16) (signature : Vector UInt8 32) (code : UInt32) :
    List (Bytes × Bytes) :=
  bearerFields token ++
    (if ctx.handshakeEnabled then handshakeFields mb nonce signature else []) ++
    (if ctx.totpEnabled then [(ascii "X-WS-TOTP", codeText ctx.totpDigits code)] else [])

/-- The text of the fields has the length `ws_client_start` computes. -/
theorem length_headerFields (hmb : mb.Lawful) {signature : Vector UInt8 32} {code : UInt32}
    (hcode : ctx.totpEnabled = true →
      0 < ctx.totpDigits.toNat ∧ code.toNat < 10 ^ ctx.totpDigits.toNat) :
    (HeaderLines.text (headerFields mb ctx token nonce signature code)).length =
      headerLength token ctx.handshakeEnabled ctx.totpEnabled (wsSecurityTotpDigits ctx) := by
  have hbearer : (HeaderLines.text (bearerFields token)).length =
      if token.isEmpty then 0 else (ascii "Authorization: Bearer ").length + token.length + 2 := by
    unfold bearerFields
    split_ifs
    · rfl
    · rw [HeaderLines.text, List.flatMap_singleton, ← line_bearer]
      simp only [List.length_append]
      rfl
  have hhandshake : (HeaderLines.text
      (if ctx.handshakeEnabled then handshakeFields mb nonce signature else [])).length =
        if ctx.handshakeEnabled then
          (ascii "X-WS-Nonce: ").length + 2 * wsSecurityNonceLen + 2 +
            ((ascii "X-WS-Signature: ").length + 44 + 2)
        else 0 := by
    split_ifs
    · simp only [HeaderLines.text, handshakeFields, List.flatMap_cons, List.flatMap_nil,
        List.append_nil, ← line_nonce, ← line_signature, List.length_append, length_bytesToHex,
        hmb.base64_length, Vector.length_toList]
      rfl
    · rfl
  have htotp : (HeaderLines.text
      (if ctx.totpEnabled then [(ascii "X-WS-TOTP", codeText ctx.totpDigits code)] else
        [])).length =
        if ctx.totpEnabled && 0 < wsSecurityTotpDigits ctx then
          (ascii "X-WS-TOTP: ").length + (wsSecurityTotpDigits ctx).toNat + 2
        else 0 := by
    cases hon : ctx.totpEnabled with
    | false => rfl
    | true =>
        obtain ⟨hpos, hlt⟩ := hcode hon
        have hdigits : wsSecurityTotpDigits ctx = ctx.totpDigits := by
          rw [wsSecurityTotpDigits, hon]
          rfl
        have hpositive : (0 : UInt8) < ctx.totpDigits := UInt8.lt_iff_toNat_lt.mpr hpos
        simp only [hdigits, hpositive, decide_true, Bool.and_self, if_true]
        rw [HeaderLines.text, List.flatMap_singleton, ← line_totp]
        simp only [List.length_append, length_codeText hpos hlt]
        rfl
  rw [headerLength, ← hbearer, ← hhandshake, ← htotp]
  simp only [headerFields, HeaderLines.text, List.flatMap_append, List.length_append]

/-- The handshake lines are written where they fit. -/
theorem handshakeHeaders_text (hmb : mb.Lawful) (h : link.Prepared ctx token)
    {signature : Vector UInt8 32}
    (hsignature : handshakeHmac mb ctx nonce.toList token = .ok signature)
    (hfits : block.length + (HeaderLines.text (handshakeFields mb nonce signature)).length ≤
      link.headerLen) :
    handshakeHeaders mb link nonce block =
      (.ok, block ++ HeaderLines.text (handshakeFields mb nonce signature)) := by
  obtain ⟨txCounter, hctx⟩ := h.securityCtx
  have hhmac : handshakeHmac mb link.securityCtx nonce.toList link.token = .ok signature := by
    rw [hctx, h.tokenRef]
    exact hsignature
  have hencode : base64UtilsEncode mb signature.toList 96 =
      .ok (mb.base64Encode signature.toList) := by
    refine if_neg ?_
    rw [hmb.base64_length, Vector.length_toList]
    decide
  have htext : HeaderLines.text (handshakeFields mb nonce signature) =
      HeaderLines.line (ascii "X-WS-Nonce") (bytesToHex nonce.toList) ++
        HeaderLines.line (ascii "X-WS-Signature") (mb.base64Encode signature.toList) := by
    simp only [HeaderLines.text, handshakeFields, List.flatMap_cons, List.flatMap_nil,
      List.append_nil]
  rw [htext, List.length_append] at hfits
  rw [handshakeHeaders, hhmac]
  simp only [hencode]
  rw [line_nonce, appendHeader_fits (by omega)]
  simp only
  rw [line_signature, appendHeader_fits (by rw [List.length_append]; omega), htext,
    List.append_assoc]

/-- The line with the code is written where it fits. -/
theorem totpHeader_text (h : link.Prepared ctx token) (hon : ctx.totpEnabled = true)
    (hdigits : ctx.totpDigits ≤ 8) {code : UInt32}
    (hcode : totpCompute mb (totpConfig ctx) unixTime = .ok code)
    (hlength : (codeText ctx.totpDigits code).length = ctx.totpDigits.toNat)
    (hfits : block.length +
      (HeaderLines.line (ascii "X-WS-TOTP") (codeText ctx.totpDigits code)).length ≤
        link.headerLen) :
    totpHeader mb link unixTime block =
      (.ok, block ++ HeaderLines.line (ascii "X-WS-TOTP") (codeText ctx.totpDigits code)) := by
  obtain ⟨txCounter, hctx⟩ := h.securityCtx
  have hlinkDigits : link.totpDigits = ctx.totpDigits := by
    rw [h.totpDigits, wsSecurityTotpDigits, hon]
    rfl
  have hshort : ¬ 12 ≤ (codeText ctx.totpDigits code).length := by
    have hle : ctx.totpDigits.toNat ≤ 8 := UInt8.le_iff_toNat_le.mp hdigits
    omega
  have hcompute : totpCompute mb
      { secret := link.securityCtx.totpSecret, periodS := link.securityCtx.totpPeriodS
        digits := link.securityCtx.totpDigits } unixTime = .ok code := by
    rw [hctx]
    exact hcode
  have henabled : link.securityCtx.totpEnabled = true := by
    rw [hctx]
    exact hon
  simp only [totpHeader, hcompute, henabled, Bool.not_true, Bool.false_eq_true, if_false,
    hlinkDigits]
  rw [show List.replicate (ctx.totpDigits.toNat - (natText code.toNat).length) 48 ++
    natText code.toNat = codeText ctx.totpDigits code from rfl, if_neg hshort, line_totp,
    appendHeader_fits hfits]

/-- The header block is built: it is the text of its fields and fills the room `ws_client_start`
reserved for it. -/
theorem regenerateHeaders_text (hmb : mb.Lawful) (h : link.Prepared ctx token)
    (htotp : ctx.totpEnabled = true → (totpConfig ctx).Valid) {allocated : Bool}
    (hblock : link.headerLen ≠ 0 → link.headerBlock.isSome = true ∨ allocated = true) :
    ∃ signature code,
      (ctx.handshakeEnabled = true →
        handshakeHmac mb ctx nonce.toList token = .ok signature) ∧
      (ctx.totpEnabled = true → totpCompute mb (totpConfig ctx) unixTime = .ok code ∧
        code.toNat < 10 ^ ctx.totpDigits.toNat) ∧
      (HeaderLines.text (headerFields mb ctx token nonce signature code)).length =
        link.headerLen ∧
      regenerateHeaders mb link nonce unixTime allocated =
        (.ok, if link.headerLen = 0 then link.headerBlock
          else some (HeaderLines.text (headerFields mb ctx token nonce signature code))) := by
  obtain ⟨signature, hsignature⟩ :=
    hmb.hmacSha256_total ctx.handshakeKey.toList (nonce.toList ++ token)
  obtain ⟨code, hcode⟩ : ∃ code, ctx.totpEnabled = true →
      totpCompute mb (totpConfig ctx) unixTime = .ok code ∧
        code.toNat < 10 ^ ctx.totpDigits.toNat := by
    cases hon : ctx.totpEnabled with
    | false => exact ⟨0, fun h => Bool.noConfusion h⟩
    | true =>
        obtain ⟨code, hcompute, hlt⟩ := totpCompute_ok hmb (htotp hon) unixTime
        exact ⟨code, fun _ => ⟨hcompute, hlt⟩⟩
  have hhmac : ctx.handshakeEnabled = true →
      handshakeHmac mb ctx nonce.toList token = .ok signature := by
    intro hon
    have hnonce : nonce.toList.isEmpty = false := by
      rw [List.isEmpty_eq_false_iff, ← List.length_pos_iff, Vector.length_toList]
      decide
    simp only [handshakeHmac, hnonce, hon, Bool.not_true, Bool.false_eq_true, if_false, hsignature]
  have hlength : (HeaderLines.text (headerFields mb ctx token nonce signature code)).length =
      link.headerLen := by
    rw [h.headerLen]
    refine length_headerFields hmb fun hon => ⟨?_, (hcode hon).2⟩
    exact Nat.lt_of_lt_of_le (by decide) (UInt8.le_iff_toNat_le.mp (htotp hon).digits_ge)
  refine ⟨signature, code, hhmac, hcode, hlength, ?_⟩
  by_cases hempty : link.headerLen = 0
  · rw [regenerateHeaders, if_pos hempty, if_pos hempty]
  have hallocated : ¬ (link.headerBlock.isNone && !allocated) = true := by
    rcases hblock hempty with hsome | halloc
    · simp [Option.isNone_iff_eq_none, ← Option.not_isSome_iff_eq_none, hsome]
    · simp [halloc]
  have htext : HeaderLines.text (headerFields mb ctx token nonce signature code) =
      HeaderLines.text (bearerFields token) ++
        HeaderLines.text (if ctx.handshakeEnabled then handshakeFields mb nonce signature
          else []) ++
        HeaderLines.text (if ctx.totpEnabled then
          [(ascii "X-WS-TOTP", codeText ctx.totpDigits code)] else []) := by
    simp only [headerFields, HeaderLines.text, List.flatMap_append]
  have hrooms := hlength
  rw [htext, List.length_append, List.length_append] at hrooms
  rw [regenerateHeaders, if_neg hempty, if_neg hallocated, if_neg hempty, htext, h.tokenRef,
    h.handshakeEnabled, h.totpEnabled]
  -- the three parts of the block, each written behind the one before
  have hbearer : (if token.isEmpty then (EspErr.ok, []) else appendHeader link.headerLen []
      (ascii "Authorization: Bearer " ++ token ++ ascii "\r\n")) =
        (.ok, HeaderLines.text (bearerFields token)) := by
    have hroom : (HeaderLines.text (bearerFields token)).length ≤ link.headerLen := by omega
    by_cases htoken : token.isEmpty = true
    · rw [bearerFields, if_pos htoken, if_pos htoken]
      rfl
    · rw [bearerFields, if_neg htoken, HeaderLines.text, List.flatMap_singleton] at hroom
      rw [bearerFields, if_neg htoken, if_neg htoken, HeaderLines.text, List.flatMap_singleton,
        line_bearer, appendHeader_fits (by rwa [List.length_nil, Nat.zero_add]), List.nil_append]
  have hhandshake : (if ctx.handshakeEnabled then
      handshakeHeaders mb link nonce (HeaderLines.text (bearerFields token))
      else (EspErr.ok, HeaderLines.text (bearerFields token))) =
        (.ok, HeaderLines.text (bearerFields token) ++
          HeaderLines.text (if ctx.handshakeEnabled then handshakeFields mb nonce signature
            else [])) := by
    cases hon : ctx.handshakeEnabled with
    | false => exact congrArg (Prod.mk _) (List.append_nil _).symm
    | true =>
        rw [hon] at hrooms
        refine handshakeHeaders_text hmb h (hhmac hon) ?_
        simp only [if_true] at hrooms
        omega
  simp only [hbearer, hhandshake]
  cases hon : ctx.totpEnabled with
  | false => exact congrArg (fun block => (EspErr.ok, some block)) (List.append_nil _).symm
  | true =>
      obtain ⟨hcompute, hlt⟩ := hcode hon
      have hge : 6 ≤ ctx.totpDigits.toNat := UInt8.le_iff_toNat_le.mp (htotp hon).digits_ge
      rw [hon] at hrooms
      simp only [if_true, HeaderLines.text, List.flatMap_singleton] at hrooms ⊢
      rw [totpHeader_text h hon (htotp hon).digits_le hcompute (length_codeText (by omega) hlt)
        (by rw [List.length_append]; omega)]

/-- A header block that was built is held. -/
theorem isSome_of_regenerateHeaders {allocated : Bool} {headerBlock : Option Bytes}
    (h : regenerateHeaders mb link nonce unixTime allocated = (.ok, headerBlock))
    (hlen : link.headerLen ≠ 0) :
    headerBlock.isSome = true ∧ (link.headerBlock.isSome = true ∨ allocated = true) := by
  rw [regenerateHeaders, if_neg hlen] at h
  split at h
  · cases h
  case isFalse hmemory =>
    refine ⟨?_, ?_⟩
    · rw [← (Prod.mk.inj h).2]
      rfl
    · simpa [Option.isNone_iff_eq_none, ← Option.isSome_iff_ne_none, or_iff_not_imp_left]
        using hmemory

/-- A started client is prepared, and holds a header block unless it sends no headers. -/
theorem wsClientStart_prepared {outcome : ClientStartOutcome} {config : WsClientConfig}
    {hasRxCb : Bool} {before : WsLink}
    (h : wsClientStart mb outcome config hasRxCb before = (.ok, link)) :
    ∃ ctx, ctx.Of mb (clientSecurityConfig config) ∧ link.Prepared ctx config.authToken ∧
      (link.headerLen ≠ 0 → link.headerBlock.isSome = true) := by
  obtain ⟨ctx, headerBlock, minMs, maxMs, hinit, hheaders, rfl⟩ := wsClientStart_spec h
  refine ⟨ctx, wsSecurityContextInit_spec hinit, ⟨⟨0, rfl⟩, rfl, rfl, rfl, rfl, rfl⟩, ?_⟩
  intro hlen
  exact (isSome_of_regenerateHeaders hheaders hlen).1

/-- A client that was started with handshakes on presents the text of its header fields, with a
nonce and a signature among them. -/
theorem wsClientStart_headerText (hmb : mb.Lawful) {outcome : ClientStartOutcome}
    {config : WsClientConfig} {hasRxCb : Bool} {before : WsLink}
    (h : wsClientStart mb outcome config hasRxCb before = (.ok, link))
    (hon : config.enableHandshakeToken = true) :
    ∃ ctx signature code, ctx.handshakeEnabled = true ∧ link.headerText =
      HeaderLines.text (headerFields mb ctx config.authToken outcome.nonce signature code) := by
  obtain ⟨ctx, headerBlock, minMs, maxMs, hinit, hheaders, rfl⟩ := wsClientStart_spec h
  have hctx := wsSecurityContextInit_spec hinit
  have henabled : ctx.handshakeEnabled = true := hctx.handshake.trans hon
  have hlen : (preparedLink config ctx before).headerLen ≠ 0 := by
    show headerLength config.authToken ctx.handshakeEnabled ctx.totpEnabled
      (wsSecurityTotpDigits ctx) ≠ 0
    rw [henabled, headerLength, if_pos rfl]
    omega
  have hprepared : (preparedLink config ctx before).Prepared ctx config.authToken :=
    ⟨⟨0, rfl⟩, rfl, rfl, rfl, rfl, rfl⟩
  obtain ⟨signature, code, -, -, -, hregenerate⟩ :=
    @regenerateHeaders_text mb _ ctx config.authToken outcome.nonce outcome.unixTime hmb hprepared
      hctx.valid outcome.headerBlock fun _ => (isSome_of_regenerateHeaders hheaders hlen).2
  rw [if_neg hlen] at hregenerate
  have hblock : headerBlock = some (HeaderLines.text
      (headerFields mb ctx config.authToken outcome.nonce signature code)) :=
    (Prod.mk.inj (hheaders.symm.trans hregenerate)).2
  refine ⟨ctx, signature, code, henabled, ?_⟩
  rw [hblock]
  exact if_neg hlen

end Text

end SensorHmi
