import SensorHmi.Platform

/-!
# Time-based one-time passwords

`common/util/totp.c`. HMAC-SHA-1 is a parameter; the truncation, the modulus and the window loop
are the source's own. A code belongs to a time step, and the loop accepts the codes of the steps
within the window (`totpVerify_close`) as far as its arithmetic reaches (`totpVerify_unreached`).
-/

namespace SensorHmi

open Octets

/-- `totp_config_t` -/
structure TotpConfig where
  secret : Bytes
  periodS : UInt32
  digits : UInt8

/-- `pow10_u32` -/
def pow10U32 (digits : UInt8) : UInt32 :=
  (List.range digits.toNat).foldl (fun value _ => value * 10) 1

/-- `totp_compute` -/
def totpCompute (mb : Mbedtls) (cfg : TotpConfig) (unixTime : UInt64) : Except EspErr UInt32 :=
  if cfg.secret.isEmpty || cfg.digits < 6 || cfg.digits > 8 || cfg.periodS = 0 then
    .error .invalidArg
  else
    let counter := unixTime / cfg.periodS.toUInt64
    match mb.hmacSha1 cfg.secret (beBytes 8 counter.toNat) with
    | none => .error .fail
    | some digest =>
        let octet (i : Nat) : UInt32 := (digest.toList.getD i 0).toUInt32
        let offset := (octet 19 &&& 0x0F).toNat
        let binary := (octet offset &&& 0x7F) <<< 24 ||| octet (offset + 1) <<< 16 |||
          octet (offset + 2) <<< 8 ||| octet (offset + 3)
        .ok (binary % pow10U32 cfg.digits)

/-- The offsets of the loop of `totp_verify`: from `-(int32_t)window` to `(int32_t)window`. -/
def totpOffsets (window : UInt32) : List Int :=
  let bound : Int := window.toInt32.toInt
  (List.range (2 * bound + 1).toNat).map fun i : Nat => (i : Int) - bound

/-- The loop of `totp_verify` over the offsets that are left. -/
def totpVerifyLoop (mb : Mbedtls) (cfg : TotpConfig) (unixTime : UInt64) (code : UInt32) :
    List Int → Except EspErr Bool
  | [] => .ok false
  | offset :: rest =>
      let delta := offset * cfg.periodS.toNat
      if offset < 0 ∧ -delta > unixTime.toNat then totpVerifyLoop mb cfg unixTime code rest
      else match totpCompute mb cfg (UInt64.ofInt (unixTime.toNat + delta)) with
        | .error err => .error err
        | .ok expected =>
            if expected = code then .ok true else totpVerifyLoop mb cfg unixTime code rest

/-- `totp_verify`: whether the code matches. The source never leaves the loop by its bound when
`window` is the largest 32-bit signed number; the model does. -/
def totpVerify (mb : Mbedtls) (cfg : TotpConfig) (unixTime : UInt64) (window code : UInt32) :
    Except EspErr Bool :=
  if cfg.secret.isEmpty then .error .invalidArg
  else totpVerifyLoop mb cfg unixTime code (totpOffsets window)

/-- The settings `ws_security_context_init` accepts. -/
structure TotpConfig.Valid (cfg : TotpConfig) : Prop where
  secret_ne : cfg.secret ≠ []
  digits_ge : 6 ≤ cfg.digits
  digits_le : cfg.digits ≤ 8
  period_ne : cfg.periodS ≠ 0

/-- The time step of a time. -/
def TotpConfig.step (cfg : TotpConfig) (unixTime : UInt64) : Nat :=
  unixTime.toNat / cfg.periodS.toNat

/-- A period has seconds. -/
theorem TotpConfig.Valid.period_pos {cfg : TotpConfig} (h : cfg.Valid) : 0 < cfg.periodS.toNat :=
  Nat.pos_of_ne_zero fun hzero => h.period_ne (UInt32.toNat_inj.mp hzero)

/-- A time is its step and the seconds into it. -/
theorem step_split (cfg : TotpConfig) (unixTime : UInt64) :
    cfg.step unixTime * cfg.periodS.toNat + unixTime.toNat % cfg.periodS.toNat =
      unixTime.toNat := by
  rw [TotpConfig.step, Nat.div_add_mod']

section Compute

variable {mb : Mbedtls} {cfg : TotpConfig} {unixTime otherTime : UInt64} {window code : UInt32}

theorem toNat_pow10U32 (h : cfg.Valid) : (pow10U32 cfg.digits).toNat = 10 ^ cfg.digits.toNat := by
  have hge : 6 ≤ cfg.digits.toNat := UInt8.le_iff_toNat_le.mp h.digits_ge
  have hle : cfg.digits.toNat ≤ 8 := UInt8.le_iff_toNat_le.mp h.digits_le
  rw [pow10U32]
  interval_cases cfg.digits.toNat <;> rfl

/-- With valid settings and an HMAC every time has a code of at most the configured digits. -/
theorem totpCompute_ok (hmb : mb.Lawful) (h : cfg.Valid) (unixTime : UInt64) :
    ∃ code, totpCompute mb cfg unixTime = .ok code ∧ code.toNat < 10 ^ cfg.digits.toNat := by
  have hvalid : ¬ (cfg.secret.isEmpty || cfg.digits < 6 || cfg.digits > 8 || cfg.periodS = 0) := by
    simp [h.secret_ne, h.period_ne, h.digits_ge, h.digits_le]
  obtain ⟨digest, hdigest⟩ := hmb.hmacSha1_total cfg.secret
    (beBytes 8 (unixTime / cfg.periodS.toUInt64).toNat)
  rw [totpCompute, if_neg hvalid]
  simp only [hdigest]
  refine ⟨_, rfl, ?_⟩
  rw [UInt32.toNat_mod, toNat_pow10U32 h]
  exact Nat.mod_lt _ (Nat.pow_pos (by decide))

/-- The code depends on the time step only. -/
theorem totpCompute_congr (h : cfg.step unixTime = cfg.step otherTime) :
    totpCompute mb cfg unixTime = totpCompute mb cfg otherTime := by
  have hcounter : unixTime / cfg.periodS.toUInt64 = otherTime / cfg.periodS.toUInt64 := by
    apply UInt64.toNat_inj.mp
    rw [UInt64.toNat_div, UInt64.toNat_div, UInt32.toNat_toUInt64]
    exact h
  simp only [totpCompute, hcounter]

/-- The loop accepts a code exactly when it is the code of some offset that it tries. -/
theorem totpVerifyLoop_eq_true_iff (htotal : ∀ time, ∃ code, totpCompute mb cfg time = .ok code)
    {offsets : List Int} :
    totpVerifyLoop mb cfg unixTime code offsets = .ok true ↔
      ∃ offset ∈ offsets, 0 ≤ unixTime.toNat + offset * cfg.periodS.toNat ∧
        totpCompute mb cfg (UInt64.ofInt (unixTime.toNat + offset * cfg.periodS.toNat)) =
          .ok code := by
  induction offsets with
  | nil => simp [totpVerifyLoop]
  | cons offset rest ih =>
      simp only [totpVerifyLoop, List.exists_mem_cons_iff]
      have hskipped : (offset < 0 ∧ -(offset * cfg.periodS.toNat) > unixTime.toNat) ↔
          ¬ 0 ≤ unixTime.toNat + offset * cfg.periodS.toNat := by
        constructor
        · omega
        · intro hnegative
          refine ⟨?_, by omega⟩
          by_contra hoffset
          have hproduct : 0 ≤ offset * cfg.periodS.toNat :=
            Int.mul_nonneg (Int.not_lt.mp hoffset) (Int.natCast_nonneg _)
          omega
      by_cases hskip : offset < 0 ∧ -(offset * cfg.periodS.toNat) > unixTime.toNat
      · rw [if_pos hskip, ih]
        refine ⟨Or.inr, ?_⟩
        rintro (⟨hreached, -⟩ | hrest)
        · exact absurd hreached (hskipped.mp hskip)
        · exact hrest
      · rw [if_neg hskip]
        have hreached := not_not.mp fun hnot => hskip (hskipped.mpr hnot)
        obtain ⟨expected, hexpected⟩ :=
          htotal (UInt64.ofInt (unixTime.toNat + offset * cfg.periodS.toNat))
        simp only [hexpected]
        by_cases hsame : expected = code
        · simp [hsame, hreached]
        · rw [if_neg hsame, ih]
          refine ⟨Or.inr, ?_⟩
          rintro (⟨-, hcode⟩ | hrest)
          · exact absurd (Except.ok.inj hcode) hsame
          · exact hrest

/-- A time is taken modulo 2^64. -/
theorem toNat_ofInt (time : Int) : (UInt64.ofInt time).toNat = (time % 2 ^ 64).toNat := by
  rw [UInt64.ofInt, UInt64.toNat_ofNat_of_lt']
  show (time % 2 ^ 64).toNat < 2 ^ 64
  omega

/-- The offsets the loop tries, for a window that is not negative as a signed number. -/
theorem mem_totpOffsets (hwindow : window.toNat < 2 ^ 31) {offset : Int} :
    offset ∈ totpOffsets window ↔ -(window.toNat : Int) ≤ offset ∧ offset ≤ window.toNat := by
  have hbound : window.toInt32.toInt = window.toNat := by
    show window.toBitVec.toInt = window.toBitVec.toNat
    rw [BitVec.toInt_eq_toNat_cond, if_pos]
    show 2 * window.toNat < 2 ^ 32
    omega
  simp only [totpOffsets, hbound, List.mem_map, List.mem_range]
  constructor
  · rintro ⟨i, hi, rfl⟩
    omega
  · intro hoffset
    exact ⟨(offset + window.toNat).toNat, by omega, by omega⟩

/-- A window from 2^31 on is negative as a signed number, and the loop tries nothing. -/
theorem totpOffsets_eq_nil (hwindow : 2 ^ 31 ≤ window.toNat) : totpOffsets window = [] := by
  have hbound : window.toInt32.toInt = window.toNat - 2 ^ 32 := by
    show window.toBitVec.toInt = window.toBitVec.toNat - 2 ^ 32
    rw [BitVec.toInt_eq_toNat_cond, if_neg]
    · rfl
    · show ¬ 2 * window.toNat < 2 ^ 32
      omega
  have hlt : window.toNat < 2 ^ 32 := window.toNat_lt
  simp only [totpOffsets, hbound]
  rw [Int.toNat_of_nonpos (by omega)]
  rfl

/-- The code of a close step is accepted, if the time of its offset does not pass the largest
64-bit number. -/
theorem totpVerify_close (hmb : mb.Lawful) (h : cfg.Valid) (hwindow : window.toNat < 2 ^ 31)
    (hclose : |(cfg.step otherTime : Int) - cfg.step unixTime| ≤ window.toNat)
    (hbound : unixTime.toNat + (cfg.step otherTime - cfg.step unixTime) *
      cfg.periodS.toNat < 2 ^ 64)
    (hcode : totpCompute mb cfg otherTime = .ok code) :
    totpVerify mb cfg unixTime window code = .ok true := by
  have hpos := h.period_pos
  have hstep := step_split cfg unixTime
  have hother := step_split cfg otherTime
  obtain ⟨hlow, hhigh⟩ := abs_le.mp hclose
  rw [totpVerify, if_neg (by simpa using h.secret_ne), totpVerifyLoop_eq_true_iff
    fun time => (totpCompute_ok hmb h time).imp fun _ => And.left]
  refine ⟨(cfg.step otherTime : Int) - cfg.step unixTime,
    (mem_totpOffsets hwindow).mpr ⟨hlow, hhigh⟩, ?_⟩
  -- the time of the offset is the time of the same second of the other step
  have htime : (unixTime.toNat : Int) +
      ((cfg.step otherTime : Int) - cfg.step unixTime) * cfg.periodS.toNat =
        (cfg.step otherTime * cfg.periodS.toNat + unixTime.toNat % cfg.periodS.toNat : Nat) := by
    rw [Int.sub_mul]
    omega
  have hsmall : cfg.step otherTime * cfg.periodS.toNat + unixTime.toNat % cfg.periodS.toNat <
      2 ^ 64 := by
    have hlt : unixTime.toNat < 2 ^ 64 := unixTime.toNat_lt
    rw [Nat.sub_mul] at hbound
    omega
  rw [htime]
  refine ⟨Int.natCast_nonneg _, ?_⟩
  rw [← hcode]
  apply totpCompute_congr
  rw [TotpConfig.step, toNat_ofInt,
    show ((_ : Nat) : Int) % 2 ^ 64 = _ from Int.emod_eq_of_lt (Int.natCast_nonneg _)
      (by exact_mod_cast hsmall), Int.toNat_natCast, Nat.mul_comm, Nat.mul_add_div hpos,
    Nat.div_eq_of_lt (Nat.mod_lt _ hpos), Nat.add_zero]

/-- A code that only one step has is rejected when the window is negative as a signed number, or
when the time of its offset passes the largest 64-bit number. -/
theorem totpVerify_unreached (hmb : mb.Lawful) (h : cfg.Valid)
    (hbeyond : 2 ^ 31 ≤ window.toNat ∨ 2 ^ 64 ≤
      unixTime.toNat + (cfg.step otherTime - cfg.step unixTime) * cfg.periodS.toNat)
    (honly : ∀ time, totpCompute mb cfg time = .ok code → cfg.step time = cfg.step otherTime) :
    totpVerify mb cfg unixTime window code ≠ .ok true := by
  have hpos := h.period_pos
  rw [totpVerify, if_neg (by simpa using h.secret_ne), Ne, totpVerifyLoop_eq_true_iff
    fun time => (totpCompute_ok hmb h time).imp fun _ => And.left]
  rintro ⟨offset, hmem, hreached, hcode⟩
  by_cases hwindow : window.toNat < 2 ^ 31
  swap
  · rw [totpOffsets_eq_nil (Nat.le_of_not_lt hwindow)] at hmem
    cases hmem
  obtain ⟨hlow, hhigh⟩ := (mem_totpOffsets hwindow).mp hmem
  have hfar := hbeyond.resolve_left (Nat.not_le_of_lt hwindow)
  have hstep := honly _ hcode
  have hsplit := step_split cfg unixTime
  have hrest : unixTime.toNat % cfg.periodS.toNat < cfg.periodS.toNat := Nat.mod_lt _ hpos
  have hperiod : cfg.periodS.toNat < 2 ^ 32 := cfg.periodS.toNat_lt
  have htime : unixTime.toNat < 2 ^ 64 := unixTime.toNat_lt
  have hproduct : offset * cfg.periodS.toNat ≤ 2 ^ 31 * 2 ^ 32 :=
    Int.mul_le_mul (by omega) (by omega) (Int.natCast_nonneg _) (by decide)
  rw [TotpConfig.step, toNat_ofInt] at hstep
  rw [Nat.sub_mul] at hfar
  by_cases hwraps : (unixTime.toNat : Int) + offset * cfg.periodS.toNat < 2 ^ 64
  · -- the time of the offset is reached, so the offset is the difference of the steps
    rw [Int.emod_eq_of_lt hreached hwraps] at hstep
    have hdiv : ((unixTime.toNat : Int) + offset * cfg.periodS.toNat) / cfg.periodS.toNat =
        cfg.step unixTime + offset := by
      have hsum : (unixTime.toNat : Int) + offset * cfg.periodS.toNat =
          (unixTime.toNat % cfg.periodS.toNat : Nat) +
            (cfg.step unixTime + offset) * cfg.periodS.toNat := by
        rw [Int.add_mul]
        omega
      rw [hsum, Int.add_mul_ediv_right _ _ (by omega),
        Int.ediv_eq_zero_of_lt (Int.natCast_nonneg _) (by exact_mod_cast hrest), Int.zero_add]
    have hoffset : (cfg.step otherTime : Int) = cfg.step unixTime + offset := by
      rw [← hdiv, ← hstep]
      push_cast
      rw [Int.toNat_of_nonneg hreached]
    have hsame : (cfg.step otherTime : Int) * cfg.periodS.toNat =
        cfg.step unixTime * cfg.periodS.toNat + offset * cfg.periodS.toNat := by
      rw [hoffset, Int.add_mul]
    omega
  · -- the time wraps to a small one, whose step cannot be the one far ahead
    have hwrapped : (((unixTime.toNat : Int) + offset * cfg.periodS.toNat) % 2 ^ 64).toNat <
        2 ^ 63 := by omega
    have hsmall : cfg.step otherTime * cfg.periodS.toNat < 2 ^ 63 := by
      rw [← hstep]
      exact Nat.lt_of_le_of_lt (Nat.div_mul_le_self _ _) hwrapped
    omega

end Compute

end SensorHmi
