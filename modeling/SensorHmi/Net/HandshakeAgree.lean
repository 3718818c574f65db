import SensorHmi.Net.HandshakeHeaders
import SensorHmi.Net.WsAuthorize

/-!
# Reading the header block of the client

What `authorize_request` makes of the fields that `regenerate_headers` writes: every field is read
back as it was written, and the request is authorized exactly when `totp_verify` accepts the code
(`authorizeRequest_headerFields`).
-/

namespace SensorHmi

open Octets Numeral

section Fields

variable {mb : Mbedtls} {ctx : WsSecurityContext} {token : Bytes} {nonce : Vector UInt8 16}
  {signature : Vector UInt8 32} {code : UInt32}

/-- A hexadecimal digit of `bytes_to_hex` is read by `hex_value`. -/
theorem hexValue_digit {d : Nat} (h : d < 16) :
    hexValue ((ascii "0123456789abcdef").getD d 0) = UInt8.ofNat d := by
  interval_cases d <;> rfl

/-- The octets of a nonce are read back. -/
theorem parseNonceHex_bytesToHex (nonce : Vector UInt8 16) :
    parseNonceHex (bytesToHex nonce.toList) = some nonce.toList := by
  -- the pairs of digits, octet by octet
  have hpairs : ∀ octets : Bytes, ((List.range octets.length).mapM fun i =>
      let hi := hexValue ((bytesToHex octets).getD (2 * i) 0)
      let lo := hexValue ((bytesToHex octets).getD (2 * i + 1) 0)
      if hi > 0x0F ∨ lo > 0x0F then none else some (hi <<< 4 ||| lo)) = some octets := by
    intro octets
    induction octets with
    | nil => rfl
    | cons octet rest ih =>
        have hlt : octet.toNat < 256 := octet.toNat_lt
        have hhi := @hexValue_digit (octet.toNat / 16) (by omega)
        have hlo := @hexValue_digit (octet.toNat % 16) (by omega)
        have hoctet : ∀ hi lo : Fin 16, ¬ (UInt8.ofNat hi > 0x0F ∨ UInt8.ofNat lo > 0x0F) ∧
            UInt8.ofNat hi <<< 4 ||| UInt8.ofNat lo = UInt8.ofNat (16 * hi + lo) := by
          decide
        obtain ⟨hdigits, hvalue⟩ := hoctet ⟨octet.toNat / 16, by omega⟩ ⟨octet.toNat % 16, by omega⟩
        have hsplit : 16 * (octet.toNat / 16) + octet.toNat % 16 = octet.toNat := by omega
        simp only [hsplit, UInt8.ofNat_toNat] at hvalue
        have htext : bytesToHex (octet :: rest) =
            (ascii "0123456789abcdef").getD (octet.toNat / 16) 0 ::
              (ascii "0123456789abcdef").getD (octet.toNat % 16) 0 :: bytesToHex rest := rfl
        rw [List.length_cons, List.range_succ_eq_map, List.mapM_cons, List.mapM_map, htext]
        simp only [Nat.mul_zero, Nat.zero_add, List.getD_cons_zero, List.getD_cons_succ, hhi, hlo,
          if_neg hdigits, hvalue, Function.comp_def, Nat.succ_eq_add_one, Nat.mul_add, Nat.mul_one]
        simp only [ih]
        rfl
  have hall := hpairs nonce.toList
  rwa [Vector.length_toList] at hall

/-- `parse_decimal_header` computes the value of the digits, in 32 bits. -/
theorem parseDecimalHeader_digits {value : Bytes} {digits : UInt8} (hlow : 1 ≤ digits)
    (hhigh : digits ≤ 8) (hlength : value.length = digits.toNat)
    (hdigits : ∀ octet ∈ value, isDigit octet = true) :
    parseDecimalHeader value digits = some (UInt32.ofNat (digitsValue value)) := by
  have hloop : ∀ (rest : Bytes) (acc : Nat), (∀ octet ∈ rest, isDigit octet = true) →
      rest.foldlM (fun (acc : UInt32) c =>
        if 48 ≤ c ∧ c ≤ 57 then some (acc * 10 + (c - 48).toUInt32) else none) (UInt32.ofNat acc) =
        some (UInt32.ofNat (rest.foldl (fun value octet => 10 * value + digitValue octet)
          acc)) := by
    intro rest
    induction rest with
    | nil => exact fun acc _ => rfl
    | cons octet rest ih =>
        intro acc hrest
        have hoctet : 48 ≤ octet ∧ octet ≤ 57 := by
          simpa [isDigit] using hrest octet List.mem_cons_self
        have hdigit : (octet - 48).toUInt32 = UInt32.ofNat (digitValue octet) := by
          apply UInt32.toNat_inj.mp
          have hle : (48 : UInt8).toNat ≤ octet.toNat := UInt8.le_iff_toNat_le.mp hoctet.1
          have hlt : octet.toNat < 256 := octet.toNat_lt
          rw [UInt8.toNat_toUInt32, UInt8.toNat_sub_of_le _ _ hoctet.1,
            UInt32.toNat_ofNat_of_lt' (by show digitValue octet < 2 ^ 32; rw [digitValue]; omega)]
          rfl
        rw [List.foldlM_cons, if_pos hoctet, hdigit,
          show UInt32.ofNat acc * 10 + UInt32.ofNat (digitValue octet) =
            UInt32.ofNat (10 * acc + digitValue octet) by
              rw [UInt32.ofNat_add, Nat.mul_comm, UInt32.ofNat_mul]; rfl]
        exact ih _ fun other hmem => hrest other (List.mem_cons_of_mem _ hmem)
  have hform : ¬ (digits < 1 ∨ digits > 8 ∨ value.length ≠ digits.toNat) := by
    rintro (hlt | hgt | hne)
    · exact UInt8.not_lt.mpr hlow hlt
    · exact UInt8.not_lt.mpr hhigh hgt
    · exact hne hlength
  rw [parseDecimalHeader, if_neg hform]
  exact hloop value 0 hdigits

/-- A printed code consists of digits. -/
theorem isDigit_of_mem_codeText {digits octet : UInt8} {code : UInt32}
    (h : octet ∈ codeText digits code) : isDigit octet = true := by
  rcases List.mem_append.mp h with hzero | hdigit
  · rw [(List.mem_replicate.mp hzero).2]
    rfl
  · exact isDigit_of_mem_natText hdigit

/-- A code is read back. -/
theorem parseDecimalHeader_codeText {digits : UInt8} (hlow : 6 ≤ digits) (hhigh : digits ≤ 8)
    {code : UInt32} (hcode : code.toNat < 10 ^ digits.toNat) :
    parseDecimalHeader (codeText digits code) digits = some code := by
  have hpositive : 6 ≤ digits.toNat := UInt8.le_iff_toNat_le.mp hlow
  have hzeros : ∀ n : Nat,
      (List.replicate n (48 : UInt8)).foldl (fun value octet => 10 * value + digitValue octet) 0 =
        0 := by
    intro n
    induction n with
    | zero => rfl
    | succ n ih =>
        rw [List.replicate_succ, List.foldl_cons]
        exact ih
  have hvalue : digitsValue (codeText digits code) = code.toNat := by
    rw [codeText, digitsValue, List.foldl_append, hzeros]
    exact digitsValue_natText code.toNat
  rw [parseDecimalHeader_digits (UInt8.le_trans (by decide) hlow) hhigh
    (length_codeText (by omega) hcode) fun _ => isDigit_of_mem_codeText, hvalue,
    UInt32.ofNat_toNat]

/-- The hexadecimal digits are printable. -/
theorem le_of_mem_bytesToHex {octets : Bytes} {octet : UInt8} (h : octet ∈ bytesToHex octets) :
    48 ≤ octet := by
  obtain ⟨source, -, hmem⟩ := List.mem_flatMap.mp h
  have hlt : source.toNat < 256 := source.toNat_lt
  have hdigit : ∀ d : Fin 16, 48 ≤ (ascii "0123456789abcdef").getD d 0 := by decide
  rcases List.mem_cons.mp hmem with rfl | hmem
  · exact hdigit ⟨source.toNat / 16, by omega⟩
  · rw [List.mem_singleton.mp hmem]
    exact hdigit ⟨source.toNat % 16, by omega⟩

/-- The names `authorize_request` looks for. -/
def handshakeNames : List Bytes :=
  [ascii "Authorization", ascii "X-WS-Nonce", ascii "X-WS-Signature", ascii "X-WS-TOTP"]

theorem octets_of_handshakeNames :
    ∀ name ∈ handshakeNames, ∀ octet ∈ name, octet ≠ 58 ∧ octet ≠ 13 := by
  simp [handshakeNames, ascii]

/-- A field that `authorize_request` looks for survives its line if its value has no line end and
no blank at its front. -/
theorem wellFormed_of_name {name value : Bytes} (hname : name ∈ handshakeNames)
    (hvalue : ∀ octet ∈ value, octet ≠ 13) (hhead : value.head? ≠ some 32) :
    HeaderLines.WellFormed (name, value) where
  name_colon octet hmem := (octets_of_handshakeNames name hname octet hmem).1
  name_cr octet hmem := (octets_of_handshakeNames name hname octet hmem).2
  value_cr := hvalue
  value_blank := hhead

theorem wellFormed_of_printable {name value : Bytes} (hname : name ∈ handshakeNames)
    (hvalue : ∀ octet ∈ value, 33 ≤ octet) : HeaderLines.WellFormed (name, value) := by
  refine wellFormed_of_name hname ?_ ?_
  · rintro _ hmem rfl
    exact absurd (hvalue _ hmem) (by decide)
  · intro hhead
    exact absurd (hvalue _ (List.mem_of_head? hhead)) (by decide)

/-- Every field of a header block is one that `authorize_request` looks for, and survives its
line. -/
theorem wellFormed_headerFields (hmb : mb.Lawful) (htoken : ∀ octet ∈ token, octet ≠ 13) :
    ∀ field ∈ headerFields mb ctx token nonce signature code, HeaderLines.WellFormed field := by
  rintro ⟨name, value⟩ hmem
  rcases List.mem_append.mp hmem with hmem | htotp
  · rcases List.mem_append.mp hmem with hbearer | hhandshake
    · rw [bearerFields] at hbearer
      split_ifs at hbearer
      · cases hbearer
      · cases List.mem_singleton.mp hbearer
        refine wellFormed_of_name (by decide) ?_ (by rintro ⟨⟩)
        intro octet hmem
        rcases List.mem_append.mp hmem with hscheme | htail
        · have hall : (ascii "Bearer ").all (· ≠ 13) = true := by decide
          exact of_decide_eq_true (List.all_eq_true.mp hall octet hscheme)
        · exact htoken octet htail
    · split_ifs at hhandshake
      · rcases List.mem_cons.mp hhandshake with hnonce | hhandshake
        · cases hnonce
          exact wellFormed_of_printable (by decide) fun _ hmem =>
            UInt8.le_trans (by decide) (le_of_mem_bytesToHex hmem)
        · cases List.mem_singleton.mp hhandshake
          exact wellFormed_of_printable (by decide) fun octet hmem =>
            UInt8.le_trans (by decide) (hmb.base64_printable _ octet hmem)
      · cases hhandshake
  · split_ifs at htotp
    · cases List.mem_singleton.mp htotp
      refine wellFormed_of_printable (by decide) fun octet hmem => ?_
      have hdigit := isDigit_of_mem_codeText hmem
      rw [isDigit, Bool.and_eq_true, decide_eq_true_eq] at hdigit
      exact UInt8.le_trans (by decide) hdigit.1
    · cases htotp

/-- No field of a header block is repeated. -/
theorem names_headerFields :
    ((headerFields mb ctx token nonce signature code).map Prod.fst).Nodup := by
  unfold headerFields bearerFields handshakeFields
  split_ifs <;> simp only [List.nil_append, List.append_nil, List.cons_append, List.map_cons,
    List.map_nil] <;> decide

/-- A field of the header block is found in a request that carries it behind other fields. -/
theorem httpdReqGetHdrValueStr_headerFields {before after : List (Bytes × Bytes)}
    (hbefore : ∀ field ∈ before, field.1 ∉ handshakeNames) {name value : Bytes} {size : Nat}
    (hname : name ∈ handshakeNames)
    (hmem : (name, value) ∈ headerFields mb ctx token nonce signature code)
    (hvalue : ∀ octet ∈ value, octet ≠ 0) (hsize : value.length < size) :
    httpdReqGetHdrValueStr
      ⟨before ++ headerFields mb ctx token nonce signature code ++ after⟩ name size =
        some value := by
  have hskip : (before.find? fun field => field.1 = name) = none := by
    rw [List.find?_eq_none]
    intro field hfield hsame
    rw [decide_eq_true_eq] at hsame
    exact hbefore field hfield (by rw [hsame]; exact hname)
  have hfind : (⟨before ++ headerFields mb ctx token nonce signature code ++ after⟩ :
      HttpdReq).headers.find? (fun field => field.1 = name) = some (name, value) := by
    rw [List.find?_append, List.find?_append, hskip,
      HeaderLines.find?_of_mem names_headerFields hmem]
    rfl
  simp only [httpdReqGetHdrValueStr, hfind]
  rw [if_neg (Nat.not_le.mpr hsize), cString_eq_self hvalue]

end Fields

section Authorize

variable {mb : Mbedtls} {client : WsSecurityContext} {token : Bytes} {nonce : Vector UInt8 16}
  {signature : Vector UInt8 32} {code : UInt32} {env : AuthorizeEnv}
  {before after : List (Bytes × Bytes)} {cache : List WsNonceEntry}

/-- The contexts of a client and of a server check the same handshakes and passwords. -/
structure ContextsAgree (client server : WsSecurityContext) : Prop where
  handshakeEnabled : server.handshakeEnabled = client.handshakeEnabled
  handshakeKey : client.handshakeEnabled = true → server.handshakeKey = client.handshakeKey
  totpEnabled : server.totpEnabled = client.totpEnabled
  totpSettings : client.totpEnabled = true → totpConfig server = totpConfig client

/-- A request with the header block of the client among its fields. -/
def requestWith (before after fields : List (Bytes × Bytes)) : HttpdReq :=
  ⟨before ++ fields ++ after⟩

/-- The token reaches the server as a C string and fits its buffer. -/
structure TokenFits (token : Bytes) : Prop where
  octets : ∀ octet ∈ token, octet ≠ 0 ∧ octet ≠ 10 ∧ octet ≠ 13
  length_lt : (ascii "Bearer ").length + token.length < 192

/-- The bearer check accepts the token of the header block. -/
theorem authorizeBearer_headerFields (htoken : TokenFits token)
    (hbefore : ∀ field ∈ before, field.1 ∉ handshakeNames) :
    authorizeBearer token
      (requestWith before after (headerFields mb client token nonce signature code)) = true := by
  rw [authorizeBearer]
  by_cases hempty : token.isEmpty = true
  · rw [if_pos hempty]
  have hmem : (ascii "Authorization", ascii "Bearer " ++ token) ∈
      headerFields mb client token nonce signature code := by
    refine List.mem_append_left _ (List.mem_append_left _ ?_)
    rw [bearerFields, if_neg hempty]
    exact List.mem_singleton_self _
  have hnul : ∀ octet ∈ ascii "Bearer " ++ token, octet ≠ 0 := by
    intro octet hoctet
    rcases List.mem_append.mp hoctet with hscheme | htail
    · have hall : (ascii "Bearer ").all (· ≠ 0) = true := by decide
      exact of_decide_eq_true (List.all_eq_true.mp hall octet hscheme)
    · exact (htoken.octets octet htail).1
  have hvalue := @httpdReqGetHdrValueStr_headerFields mb client token nonce signature code before
    after hbefore _ _ 192 (by decide) hmem hnul
    (by rw [List.length_append]; exact htoken.length_lt)
  rw [if_neg hempty]
  simp only [requestWith, hvalue]
  have hscheme : (ascii "Bearer ").length = 7 := rfl
  rw [List.take_left' hscheme, List.drop_left' hscheme]
  simp

/-- A nonce that no valid entry has is no duplicate. -/
theorem nonceIsDuplicate_of_new {ttlTicks now : TickType} {nonce : Bytes}
    (h : ∀ entry ∈ cache, entry.valid = true → entry.nonce ≠ nonce) :
    (nonceIsDuplicate ttlTicks now nonce cache).1 = false := by
  induction cache with
  | nil => rfl
  | cons entry rest ih =>
      have hrest := ih fun other hmem => h other (List.mem_cons_of_mem _ hmem)
      simp only [nonceIsDuplicate]
      split_ifs with hvalid hold hsame
      · exact hrest
      · exact hrest
      · exact absurd hsame (h entry List.mem_cons_self (by simpa using hvalid))
      · exact hrest

/-- The handshake check accepts the nonce and the signature of the header block. -/
theorem authorizeHandshake_headerFields (hmb : mb.Lawful) (hagree : ContextsAgree client env.ctx)
    (htoken : env.authToken = token)
    (hsignature : client.handshakeEnabled = true →
      handshakeHmac mb client nonce.toList token = .ok signature)
    (hnew : ∀ entry ∈ cache, entry.valid = true → entry.nonce ≠ nonce.toList)
    (hbefore : ∀ field ∈ before, field.1 ∉ handshakeNames) :
    (authorizeHandshake mb env
      (requestWith before after (headerFields mb client token nonce signature code)) cache).1 =
        true := by
  cases hon : client.handshakeEnabled with
  | false => rw [authorizeHandshake, hagree.handshakeEnabled, hon]; rfl
  | true =>
      have hfields : ∀ field ∈ handshakeFields mb nonce signature,
          field ∈ headerFields mb client token nonce signature code := by
        intro field hmem
        refine List.mem_append_left _ (List.mem_append_right _ ?_)
        rw [if_pos hon]
        exact hmem
      have hlength : (bytesToHex nonce.toList).length = 2 * wsSecurityNonceLen := by
        rw [length_bytesToHex, Vector.length_toList]
        rfl
      have hbase64 : (mb.base64Encode signature.toList).length = 44 := by
        rw [hmb.base64_length, Vector.length_toList]
      have hhex := @httpdReqGetHdrValueStr_headerFields mb client token nonce signature code before
        after hbefore (ascii "X-WS-Nonce") (bytesToHex nonce.toList) (2 * wsSecurityNonceLen + 1)
        (by decide) (hfields _ List.mem_cons_self)
        (by rintro _ hmem rfl; exact absurd (le_of_mem_bytesToHex hmem) (by decide))
        (by rw [hlength]; exact Nat.lt_succ_self _)
      have hsig := @httpdReqGetHdrValueStr_headerFields mb client token nonce signature code before
        after hbefore (ascii "X-WS-Signature") (mb.base64Encode signature.toList) 160
        (by decide) (hfields _ (List.mem_cons_of_mem _ (List.mem_singleton_self _)))
        (by rintro _ hmem rfl; exact absurd (hmb.base64_printable _ _ hmem) (by decide))
        (by rw [hbase64]; decide)
      have hdecode : base64UtilsDecode mb (mb.base64Encode signature.toList) 64 =
          .ok signature.toList := by
        have hne : (mb.base64Encode signature.toList).isEmpty = false := by
          rw [List.isEmpty_eq_false_iff, ← List.length_pos_iff, hbase64]
          decide
        simp only [base64UtilsDecode, hne, hmb.base64_decode, Vector.length_toList]
        rfl
      have hpresented : presentedHandshake mb
          (requestWith before after (headerFields mb client token nonce signature code)) =
            some (nonce.toList, signature.toList) := by
        simp only [presentedHandshake, requestWith, hhex, hsig, hlength, hdecode,
          parseNonceHex_bytesToHex, ne_eq, not_true_eq_false, if_false]
      have hverify : wsSecurityVerifyHandshake mb env.ctx nonce.toList token signature.toList =
          .ok := by
        have hhmac : handshakeHmac mb env.ctx nonce.toList token = .ok signature := by
          rw [← hsignature hon]
          simp only [handshakeHmac, hagree.handshakeEnabled, hagree.handshakeKey hon]
        have htake : signature.toList.take 32 = signature.toList :=
          List.take_of_length_le (by rw [Vector.length_toList])
        simp only [wsSecurityVerifyHandshake, Vector.length_toList, hhmac, htake]
        rfl
      have hduplicate := @nonceIsDuplicate_of_new cache env.nonceTtlTicks env.now _ hnew
      rw [authorizeHandshake, hagree.handshakeEnabled, hon]
      simp only [Bool.not_true, Bool.false_eq_true, if_false, hpresented]
      cases hlookup : nonceIsDuplicate env.nonceTtlTicks env.now nonce.toList cache with
      | mk duplicate kept =>
          rw [hlookup] at hduplicate
          obtain rfl : duplicate = false := hduplicate
          simp only [htoken, hverify, if_true]

/-- The password check accepts the code of the header block as `totp_verify` does. -/
theorem authorizeTotp_headerFields (hagree : ContextsAgree client env.ctx)
    (hvalid : client.totpEnabled = true →
      (totpConfig client).Valid ∧ code.toNat < 10 ^ client.totpDigits.toNat)
    (hbefore : ∀ field ∈ before, field.1 ∉ handshakeNames) :
    authorizeTotp mb env
        (requestWith before after (headerFields mb client token nonce signature code)) = true ↔
      (client.totpEnabled = true →
        totpVerify mb (totpConfig client) env.unixTime env.ctx.totpWindow code = .ok true) := by
  cases hon : client.totpEnabled with
  | false =>
      rw [authorizeTotp, hagree.totpEnabled, hon]
      simp
  | true =>
      obtain ⟨hconfig, hcode⟩ := hvalid hon
      have hge : 6 ≤ client.totpDigits.toNat := UInt8.le_iff_toNat_le.mp hconfig.digits_ge
      have hle : client.totpDigits.toNat ≤ 8 := UInt8.le_iff_toNat_le.mp hconfig.digits_le
      have hlength := length_codeText (by omega) hcode
      have hmem : (ascii "X-WS-TOTP", codeText client.totpDigits code) ∈
          headerFields mb client token nonce signature code := by
        refine List.mem_append_right _ ?_
        rw [if_pos hon]
        exact List.mem_singleton_self _
      have hnul : ∀ octet ∈ codeText client.totpDigits code, octet ≠ 0 := by
        rintro _ hdigit rfl
        exact absurd (isDigit_of_mem_codeText hdigit) (by decide)
      have hvalue := @httpdReqGetHdrValueStr_headerFields mb client token nonce signature code
        before after hbefore _ _ 16 (by decide) hmem hnul (by omega)
      have hsettings := hagree.totpSettings hon
      have hdigits : wsSecurityTotpDigits env.ctx = client.totpDigits := by
        rw [wsSecurityTotpDigits, hagree.totpEnabled, hon]
        exact congrArg TotpConfig.digits hsettings
      have hverify : wsSecurityVerifyTotp mb env.ctx env.unixTime code =
          totpVerify mb (totpConfig client) env.unixTime env.ctx.totpWindow code := by
        rw [wsSecurityVerifyTotp, hagree.totpEnabled, hon, ← hsettings]
        rfl
      have hparse : parseDecimalHeader (codeText client.totpDigits code) client.totpDigits =
          some code :=
        parseDecimalHeader_codeText hconfig.digits_ge hconfig.digits_le hcode
      rw [authorizeTotp, hagree.totpEnabled, hon]
      simp only [Bool.not_true, Bool.false_eq_true, if_false, requestWith, hvalue, hdigits, hparse,
        hverify, forall_const]
      cases totpVerify mb (totpConfig client) env.unixTime env.ctx.totpWindow code <;> simp

/-- `authorize_request` accepts the header block exactly when the code is accepted. -/
theorem authorizeRequest_headerFields (hmb : mb.Lawful) (hagree : ContextsAgree client env.ctx)
    (hfits : TokenFits token) (htoken : env.authToken = token)
    (hsignature : client.handshakeEnabled = true →
      handshakeHmac mb client nonce.toList token = .ok signature)
    (hvalid : client.totpEnabled = true →
      (totpConfig client).Valid ∧ code.toNat < 10 ^ client.totpDigits.toNat)
    (hnew : ∀ entry ∈ cache, entry.valid = true → entry.nonce ≠ nonce.toList)
    (hbefore : ∀ field ∈ before, field.1 ∉ handshakeNames) :
    (authorizeRequest mb env
      (requestWith before after (headerFields mb client token nonce signature code)) cache).1 =
        true ↔
      (client.totpEnabled = true →
        totpVerify mb (totpConfig client) env.unixTime env.ctx.totpWindow code = .ok true) := by
  have hbearer := @authorizeBearer_headerFields mb client token nonce signature code before after
    hfits hbefore
  have hhandshake := @authorizeHandshake_headerFields mb client token nonce signature code env
    before after cache hmb hagree htoken hsignature hnew hbefore
  have htotp := @authorizeTotp_headerFields mb client token nonce signature code env before after
    hagree hvalid hbefore
  rw [authorizeRequest, htoken, hbearer]
  cases hcheck : authorizeHandshake mb env
    (requestWith before after (headerFields mb client token nonce signature code)) cache with
  | mk authorized kept =>
      rw [hcheck] at hhandshake
      obtain rfl : authorized = true := hhandshake
      exact htotp

end Authorize

end SensorHmi
