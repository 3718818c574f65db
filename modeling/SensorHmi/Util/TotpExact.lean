import SensorHmi.Util.Totp

/-!
# One-time passwords as the standard defines them

The value of a time step by dynamic truncation, over any HMAC, and that `totp_verify` accepts
exactly the values of the steps within its window (`totp_verify_exact`).
-/

namespace SensorHmi

open Octets

section Standard

variable (hmac : (key message : Bytes) → Vector UInt8 20)

/-- Dynamic truncation: four octets from the place the last one names, without the top bit. -/
def dynamicTruncation (digest : Vector UInt8 20) : Nat :=
  ofBe ((digest.toList.drop (digest[19].toNat % 16)).take 4) % 2 ^ 31

/-- The one-time password of a counter. -/
def rfc6238 (cfg : TotpConfig) (counter : Nat) : Nat :=
  dynamicTruncation (hmac cfg.secret (beBytes 8 counter)) % 10 ^ cfg.digits.toNat

end Standard

/-- Four octets put together by shifts are their big-endian value; the mask takes the top bit. -/
theorem toNat_truncated (first second third fourth : UInt8) :
    ((first.toUInt32 &&& 0x7F) <<< 24 ||| second.toUInt32 <<< 16 ||| third.toUInt32 <<< 8 |||
      fourth.toUInt32).toNat = ofBe [first, second, third, fourth] % 2 ^ 31 := by
  have hfirst : first.toNat < 256 := first.toNat_lt
  have hsecond : second.toNat < 256 := second.toNat_lt
  have hthird : third.toNat < 256 := third.toNat_lt
  have hfourth : fourth.toNat < 256 := fourth.toNat_lt
  have hmask : (first.toUInt32 &&& 0x7F).toNat = first.toNat % 128 := by
    rw [UInt32.toNat_and, UInt8.toNat_toUInt32]
    exact Nat.and_two_pow_sub_one_eq_mod first.toNat 7
  have hvalue : ofBe [first, second, third, fourth] =
      fourth.toNat + 256 * (third.toNat + 256 * (second.toNat + 256 * first.toNat)) := by
    simp [ofBe, ofLe]
  have hhigh : ((first.toUInt32 &&& 0x7F) <<< 24).toNat = 2 ^ 24 * (first.toNat % 128) := by
    rw [UInt32.toNat_shiftLeft, hmask, Nat.shiftLeft_eq, Nat.mul_comm]
    exact Nat.mod_eq_of_lt (by
      show 2 ^ 24 * (first.toNat % 128) < 2 ^ 32
      omega)
  have hnext : (second.toUInt32 <<< 16).toNat = 2 ^ 16 * second.toNat := by
    rw [UInt32.toNat_shiftLeft, UInt8.toNat_toUInt32, Nat.shiftLeft_eq, Nat.mul_comm]
    exact Nat.mod_eq_of_lt (by
      show 2 ^ 16 * second.toNat < 2 ^ 32
      omega)
  have hlow : (third.toUInt32 <<< 8).toNat = 2 ^ 8 * third.toNat := by
    rw [UInt32.toNat_shiftLeft, UInt8.toNat_toUInt32, Nat.shiftLeft_eq, Nat.mul_comm]
    exact Nat.mod_eq_of_lt (by
      show 2 ^ 8 * third.toNat < 2 ^ 32
      omega)
  rw [UInt32.toNat_or, UInt32.toNat_or, UInt32.toNat_or, hhigh, hnext, hlow, UInt8.toNat_toUInt32,
    hvalue]
  -- the octets stand apart, so each or is a sum
  have hor8 : 2 ^ 8 * third.toNat ||| fourth.toNat = 2 ^ 8 * third.toNat + fourth.toNat :=
    (Nat.two_pow_add_eq_or_of_lt hfourth third.toNat).symm
  have hor16 : 2 ^ 16 * second.toNat ||| (2 ^ 8 * third.toNat + fourth.toNat) =
      2 ^ 16 * second.toNat + (2 ^ 8 * third.toNat + fourth.toNat) :=
    (Nat.two_pow_add_eq_or_of_lt (by omega) second.toNat).symm
  have hor24 : 2 ^ 24 * (first.toNat % 128) |||
      (2 ^ 16 * second.toNat + (2 ^ 8 * third.toNat + fourth.toNat)) =
        2 ^ 24 * (first.toNat % 128) +
          (2 ^ 16 * second.toNat + (2 ^ 8 * third.toNat + fourth.toNat)) :=
    (Nat.two_pow_add_eq_or_of_lt (by omega) (first.toNat % 128)).symm
  rw [Nat.or_assoc, Nat.or_assoc, hor8, hor16, hor24]
  omega

/-- Four octets of a string from a place on. -/
theorem take_four_drop {octets : Bytes} {offset : Nat} (h : offset + 4 ≤ octets.length) :
    (octets.drop offset).take 4 = [octets.getD offset 0, octets.getD (offset + 1) 0,
      octets.getD (offset + 2) 0, octets.getD (offset + 3) 0] := by
  refine List.ext_getElem (by simp; omega) fun i hi hi' => ?_
  have hlt : i < 4 := by simpa using hi'
  rw [List.getElem_take, List.getElem_drop]
  interval_cases i <;> simp [List.getD_eq_getElem?_getD,
    show offset < octets.length by omega, show offset + 1 < octets.length by omega,
    show offset + 2 < octets.length by omega, show offset + 3 < octets.length by omega]

section Exact

variable {mb : Mbedtls} {hmac : (key message : Bytes) → Vector UInt8 20} {cfg : TotpConfig}
  {unixTime : UInt64} {window code : UInt32}

/-- `totp_compute` computes the password of the time step. -/
theorem totpCompute_eq_rfc6238 (hhmac :
    ∀ key message, mb.hmacSha1 key message = some (hmac key message))
    (h : cfg.Valid) (unixTime : UInt64) :
    ∃ value, totpCompute mb cfg unixTime = .ok value ∧
      value.toNat = rfc6238 hmac cfg (cfg.step unixTime) := by
  have hvalid : ¬ (cfg.secret.isEmpty || cfg.digits < 6 || cfg.digits > 8 || cfg.periodS = 0) := by
    simp [h.secret_ne, h.period_ne, h.digits_ge, h.digits_le]
  have hcounter : (unixTime / cfg.periodS.toUInt64).toNat = cfg.step unixTime := by
    rw [UInt64.toNat_div, UInt32.toNat_toUInt64, TotpConfig.step]
  rw [totpCompute, if_neg hvalid]
  simp only [hhmac, hcounter]
  refine ⟨_, rfl, ?_⟩
  rw [rfc6238, dynamicTruncation]
  generalize hmac cfg.secret (beBytes 8 (cfg.step unixTime)) = digest
  have hoffset : ((digest.toList.getD 19 0).toUInt32 &&& 0x0F).toNat = digest[19].toNat % 16 := by
    rw [UInt32.toNat_and, UInt8.toNat_toUInt32, List.getD_eq_getElem _ _ (by simp),
      Vector.getElem_toList]
    exact Nat.and_two_pow_sub_one_eq_mod _ 4
  have hroom : digest[19].toNat % 16 + 4 ≤ digest.toList.length := by
    rw [Vector.length_toList]
    omega
  rw [hoffset, UInt32.toNat_mod, toNat_pow10U32 h, toNat_truncated, take_four_drop hroom]

/-- The loop returns an answer. -/
theorem totpVerifyLoop_total (htotal : ∀ time, ∃ code, totpCompute mb cfg time = .ok code)
    (offsets : List Int) : ∃ matched, totpVerifyLoop mb cfg unixTime code offsets =
      .ok matched := by
  induction offsets with
  | nil => exact ⟨false, rfl⟩
  | cons offset rest ih =>
      rw [totpVerifyLoop]
      split
      · exact ih
      · obtain ⟨expected, hexpected⟩ :=
          htotal (UInt64.ofInt (unixTime.toNat + offset * cfg.periodS.toNat))
        rw [hexpected]
        dsimp only
        split
        · exact ⟨true, rfl⟩
        · exact ih

/-- The time of an offset is reached exactly when its step is, and has that step. -/
theorem step_of_offset (h : cfg.Valid) {offset : Int} (hoffset : offset ≤ window.toNat)
    (hbound : unixTime.toNat + window.toNat * cfg.periodS.toNat < 2 ^ 64) :
    (0 ≤ (unixTime.toNat : Int) + offset * cfg.periodS.toNat ↔
      0 ≤ (cfg.step unixTime : Int) + offset) ∧
    (0 ≤ (unixTime.toNat : Int) + offset * cfg.periodS.toNat →
      cfg.step (UInt64.ofInt (unixTime.toNat + offset * cfg.periodS.toNat)) =
        ((cfg.step unixTime : Int) + offset).toNat) := by
  have hpos := h.period_pos
  have hquotient : ((unixTime.toNat : Int) + offset * cfg.periodS.toNat) / cfg.periodS.toNat =
      cfg.step unixTime + offset := by
    rw [Int.add_mul_ediv_right _ _ (by omega), TotpConfig.step]
    push_cast
    rfl
  constructor
  · rw [← hquotient]
    exact (Int.ediv_nonneg_iff_of_pos (by omega)).symm
  · intro hreached
    have hproduct : offset * cfg.periodS.toNat ≤ window.toNat * cfg.periodS.toNat :=
      Int.mul_le_mul_of_nonneg_right hoffset (Int.natCast_nonneg _)
    have hsmall : (unixTime.toNat : Int) + offset * cfg.periodS.toNat < 2 ^ 64 := by
      have hcast : ((unixTime.toNat + window.toNat * cfg.periodS.toNat : Nat) : Int) < 2 ^ 64 := by
        exact_mod_cast hbound
      push_cast at hcast
      omega
    rw [TotpConfig.step, toNat_ofInt, Int.emod_eq_of_lt hreached hsmall, ← hquotient,
      ← Int.natCast_inj]
    push_cast
    rw [Int.toNat_of_nonneg hreached, Int.toNat_of_nonneg]
    exact Int.ediv_nonneg hreached (Int.natCast_nonneg _)

/-- `totp_verify` answers, and a code matches exactly when it is the password of a step that is not
negative and at most `window` steps away. -/
theorem totp_verify_exact (hhmac : ∀ key message, mb.hmacSha1 key message = some (hmac key message))
    (h : cfg.Valid) (hwindow : window.toNat < 2 ^ 31 - 1)
    (hbound : unixTime.toNat + window.toNat * cfg.periodS.toNat < 2 ^ 64) :
    ∃ matched, totpVerify mb cfg unixTime window code = .ok matched ∧
      (matched = true ↔ ∃ k : Int, -(window.toNat : Int) ≤ k ∧ k ≤ window.toNat ∧
        0 ≤ ((unixTime.toNat / cfg.periodS.toNat : Nat) : Int) + k ∧
        code.toNat =
          rfc6238 hmac cfg (((unixTime.toNat / cfg.periodS.toNat : Nat) : Int) + k).toNat) := by
  have htotal : ∀ time, ∃ code, totpCompute mb cfg time = .ok code := fun time =>
    (totpCompute_eq_rfc6238 hhmac h time).imp fun _ => And.left
  obtain ⟨matched, hmatched⟩ := @totpVerifyLoop_total mb cfg unixTime code htotal
    (totpOffsets window)
  refine ⟨matched, ?_, ?_⟩
  · rw [totpVerify, if_neg (by simpa using h.secret_ne), hmatched]
  have htrue : matched = true ↔
      totpVerifyLoop mb cfg unixTime code (totpOffsets window) = .ok true := by
    rw [hmatched, Except.ok.injEq]
  rw [htrue, totpVerifyLoop_eq_true_iff htotal]
  have hcode : ∀ time, totpCompute mb cfg time = .ok code ↔
      code.toNat = rfc6238 hmac cfg (cfg.step time) := by
    intro time
    obtain ⟨value, hvalue, hrfc⟩ := totpCompute_eq_rfc6238 hhmac h time
    rw [hvalue, Except.ok.injEq, ← hrfc, eq_comm, UInt32.toNat_inj]
  simp only [hcode, mem_totpOffsets (show window.toNat < 2 ^ 31 by omega)]
  constructor
  · rintro ⟨offset, ⟨hlow, hhigh⟩, hreached, hvalue⟩
    obtain ⟨hiff, hstep⟩ := @step_of_offset cfg unixTime window h offset hhigh hbound
    rw [hstep hreached] at hvalue
    exact ⟨offset, hlow, hhigh, hiff.mp hreached, hvalue⟩
  · rintro ⟨offset, hlow, hhigh, hnonneg, hvalue⟩
    obtain ⟨hiff, hstep⟩ := @step_of_offset cfg unixTime window h offset hhigh hbound
    have hreached := hiff.mpr hnonneg
    refine ⟨offset, ⟨hlow, hhigh⟩, hreached, ?_⟩
    rw [hstep hreached]
    exact hvalue

end Exact

/-- At the start of the epoch, with a window of one step and the HMAC that is zero. -/
theorem totp_verify_exact_epoch :
    ∃ matched, totpVerify (.zero (.single [] [] [] [] [] (List.replicate 16 0) rfl rfl))
        { secret := [1], periodS := 30, digits := 6 } 5 1 0 = .ok matched ∧
      (matched = true ↔ ∃ k : Int, -((1 : UInt32).toNat : Int) ≤ k ∧ k ≤ (1 : UInt32).toNat ∧
        0 ≤ (((5 : UInt64).toNat / (30 : UInt32).toNat : Nat) : Int) + k ∧
        (0 : UInt32).toNat = rfc6238 (fun _ _ => Vector.replicate 20 0)
          { secret := [1], periodS := 30, digits := 6 }
          ((((5 : UInt64).toNat / (30 : UInt32).toNat : Nat) : Int) + k).toNat) :=
  totp_verify_exact (fun _ _ => rfl) ⟨by decide, by decide, by decide, by decide⟩ (by decide)
    (by decide)

end SensorHmi
