import SensorHmi.Lib.Base64
import SensorHmi.Lib.Octets

/-!
# What the firmware gets from its platform

Result codes and ticks of ESP-IDF and FreeRTOS, and the mbedTLS primitives. The primitives are
parameters of everything that uses them: `Mbedtls` lists their operations together with the
documented lengths and the documented correctness of AES-GCM.
-/

namespace SensorHmi

/-- `esp_err_t`, as far as the firmware tells results apart. -/
inductive EspErr
  | ok
  | fail
  | noMem
  | invalidArg
  | invalidState
  | invalidSize
  | notFound
  | notSupported
  | timeout
  | invalidResponse
  | invalidCrc
  | invalidVersion
  | nvsNotFound
  | otaValidateFailed
  | httpsOtaInProgress
  deriving DecidableEq, Repr

/-- `if (err != ESP_OK) return err;` between two calls on one object: the second runs on what the
first left behind. -/
def EspErr.andThen {α : Type} (result : EspErr × α) (next : α → EspErr × α) : EspErr × α :=
  match result with
  | (.ok, value) => next value
  | (err, value) => (err, value)

theorem EspErr.andThen_eq_ok_iff {α : Type} {result : EspErr × α} {next : α → EspErr × α}
    {final : α} :
    EspErr.andThen result next = (.ok, final) ↔
      ∃ value, result = (.ok, value) ∧ next value = (.ok, final) := by
  obtain ⟨err, value⟩ := result
  cases err <;> simp [EspErr.andThen]

/-- `TickType_t`: a 32-bit tick counter that wraps. -/
abbrev TickType := UInt32

/-- `pdMS_TO_TICKS` of FreeRTOS at `configTICK_RATE_HZ = tickRateHz`, in 32-bit arithmetic. -/
def pdMsToTicks (tickRateHz ms : UInt32) : TickType :=
  ms * tickRateHz / 1000

/-- What stands where an input pointer points to: octets of the caller, or whatever is at an address
that is none of the caller's. -/
inductive Pointed
  | octets (octets : Bytes)
  | address (address : Nat)
  deriving DecidableEq

/-- AES-GCM. `none` is a nonzero return code. -/
structure Gcm where
  /-- `mbedtls_gcm_crypt_and_tag` in encryption mode: ciphertext and 16-byte tag. -/
  cryptAndTag : (key iv header plaintext : Bytes) → Option (Bytes × Bytes)
  /-- `mbedtls_gcm_auth_decrypt`: what it writes to `output`. `tag` are the octets from the tag
  pointer on, and `tagLen` is the length given for them. -/
  authDecrypt : (key : Bytes) → (length : Nat) → (iv header tag : Bytes) → (tagLen : Nat) →
    (input : Pointed) → Option Bytes
  /-- The address of the buffer that `ws_security_decrypt` is given. -/
  bufferAddress : Nat
  length_of_crypt : ∀ {key iv header plaintext ciphertext tag : Bytes},
    cryptAndTag key iv header plaintext = some (ciphertext, tag) →
      ciphertext.length = plaintext.length ∧ tag.length = 16
  /-- What was sealed opens, given its length, its tag and the tag's length. -/
  decrypt_of_crypt : ∀ {key iv header plaintext ciphertext tag : Bytes},
    cryptAndTag key iv header plaintext = some (ciphertext, tag) →
      authDecrypt key ciphertext.length iv header tag 16 (.octets ciphertext) = some plaintext
  /-- A tag has 4 to 16 octets; any other length is `MBEDTLS_ERR_GCM_BAD_INPUT`. -/
  tagLen_of_decrypt : ∀ {key : Bytes} {length : Nat} {iv header tag : Bytes} {tagLen : Nat}
    {input : Pointed} {output : Bytes},
    authDecrypt key length iv header tag tagLen input = some output → 4 ≤ tagLen ∧ tagLen ≤ 16

/-- The AES-GCM under which one message was sealed and nothing else was, on a core whose data
memory begins at `0x3FC88000`. -/
def Gcm.single (key iv header plaintext ciphertext tag : Bytes)
    (hciphertext : ciphertext.length = plaintext.length) (htag : tag.length = 16) : Gcm where
  cryptAndTag key' iv' header' plaintext' :=
    if key' = key ∧ iv' = iv ∧ header' = header ∧ plaintext' = plaintext then
      some (ciphertext, tag)
    else none
  authDecrypt key' length iv' header' tag' tagLen input :=
    if key' = key ∧ length = ciphertext.length ∧ iv' = iv ∧ header' = header ∧ tag' = tag ∧
        tagLen = 16 ∧ input = .octets ciphertext then
      some plaintext
    else none
  bufferAddress := 0x3FC88000
  length_of_crypt h := by
    split_ifs at h with hsame
    cases h
    rw [hsame.2.2.2]
    exact ⟨hciphertext, htag⟩
  decrypt_of_crypt h := by
    split_ifs at h with hsame
    cases h
    rw [if_pos ⟨hsame.1, rfl, hsame.2.1, hsame.2.2.1, rfl, rfl, rfl⟩, hsame.2.2.2]
  tagLen_of_decrypt h := by
    split_ifs at h with hsame
    obtain ⟨-, -, -, -, -, rfl, -⟩ := hsame
    decide

/-- A cipher whose one message is empty. -/
def Gcm.empty : Gcm := .single [] [] [] [] [] (List.replicate 16 0) rfl rfl

/-- The mbedTLS primitives the firmware calls. -/
structure Mbedtls extends Gcm where
  /-- `mbedtls_md_hmac_*` with SHA-256. -/
  hmacSha256 : (key message : Bytes) → Option (Vector UInt8 32)
  /-- `mbedtls_md_hmac_*` with SHA-1. -/
  hmacSha1 : (key message : Bytes) → Option (Vector UInt8 20)
  /-- `mbedtls_base64_decode` into a buffer that is large enough. -/
  base64Decode : Bytes → Option Bytes
  /-- `mbedtls_base64_encode` into a buffer that is large enough. -/
  base64Encode : Bytes → Bytes

/-- The mbedTLS over a given AES-GCM in which every HMAC is zero and Base64 does nothing. -/
def Mbedtls.zero (gcm : Gcm) : Mbedtls where
  toGcm := gcm
  hmacSha256 _ _ := some (Vector.replicate 32 0)
  hmacSha1 _ _ := some (Vector.replicate 20 0)
  base64Decode text := some text
  base64Encode octets := octets

/-- What the documentation promises of the HMACs and of Base64: an HMAC of any key and message can
be computed, and Base64 texts have their standard length and characters and are read back. -/
structure Mbedtls.Lawful (mb : Mbedtls) : Prop where
  hmacSha256_total : ∀ key message, ∃ digest, mb.hmacSha256 key message = some digest
  hmacSha1_total : ∀ key message, ∃ digest, mb.hmacSha1 key message = some digest
  base64_decode : ∀ octets, mb.base64Decode (mb.base64Encode octets) = some octets
  base64_length : ∀ octets, (mb.base64Encode octets).length = 4 * ((octets.length + 2) / 3)
  base64_printable : ∀ octets, ∀ octet ∈ mb.base64Encode octets, 43 ≤ octet

/-- The mbedTLS over a given AES-GCM and given HMACs. -/
def Mbedtls.ofHmac (gcm : Gcm) (hmacSha256 : (key message : Bytes) → Vector UInt8 32)
    (hmacSha1 : (key message : Bytes) → Vector UInt8 20) : Mbedtls where
  toGcm := gcm
  hmacSha256 key message := some (hmacSha256 key message)
  hmacSha1 key message := some (hmacSha1 key message)
  base64Decode := Base64.decode
  base64Encode := Base64.encode

theorem Mbedtls.ofHmac_lawful (gcm : Gcm) (hmacSha256 : (key message : Bytes) → Vector UInt8 32)
    (hmacSha1 : (key message : Bytes) → Vector UInt8 20) :
    (Mbedtls.ofHmac gcm hmacSha256 hmacSha1).Lawful where
  hmacSha256_total key message := ⟨hmacSha256 key message, rfl⟩
  hmacSha1_total key message := ⟨hmacSha1 key message, rfl⟩
  base64_decode := Base64.decode_encode
  base64_length := Base64.length_encode
  base64_printable _ _ := Base64.le_of_mem_encode

end SensorHmi
