import SensorHmi.Lib.Crc
import SensorHmi.Proto.Messages

/-!
# The CRC of the frames

`proto_crc32` as the reflected CRC with the polynomial `0xEDB88320`, and the CRC of the tools and of
the test bench. Every difference within 32 bits of a message is detected (`burst_detected`). The
bench starts its register with zero: `computeCrc32_eq_iff`.
-/

namespace SensorHmi

open Crc

/-- The polynomial of `proto_crc32`. -/
def crcPolynomial : BitVec 32 := 0xEDB88320#32

/-- The bits of a message, octet by octet, the least significant of each first. -/
def messageBit (data : Bytes) (k : Nat) : Bool :=
  (data.getD (k / 8) 0).toBitVec.getLsbD (k % 8)

/-- `zlib.crc32` of Python. -/
def zlibCrc32 (data : Bytes) (value : UInt32) : UInt32 :=
  ~~~ .ofBitVec (register crcPolynomial (value ^^^ 0xFFFFFFFF).toBitVec data)

/-- `compute_crc32` of `tests/e2e/proto.py` -/
def computeCrc32 (payload : Bytes) : UInt32 :=
  let crcPolyInit : UInt32 := 0xFFFFFFFF
  let crcXorOut : UInt32 := 0xFFFFFFFF
  let crc := zlibCrc32 payload crcPolyInit ^^^ crcXorOut
  crc &&& 0xFFFFFFFF

section Register

theorem toBitVec_protoCrc32Bit (crc : UInt32) :
    (protoCrc32Bit crc).toBitVec = step crcPolynomial crc.toBitVec := by
  have hlow : (crc &&& 1).toBitVec = (BitVec.ofBool (crc.toBitVec.getLsbD 0)).setWidth 32 :=
    BitVec.and_one_eq_setWidth_ofBool_getLsbD
  rw [protoCrc32Bit, UInt32.toBitVec_xor, UInt32.toBitVec_and, UInt32.toBitVec_neg, hlow, step]
  cases crc.toBitVec.getLsbD 0 <;> rfl

/-- The loop of `proto_crc32` runs the register. -/
theorem protoCrc32_eq (data : Bytes) :
    protoCrc32 data = ~~~ .ofBitVec (register crcPolynomial (BitVec.allOnes 32) data) := by
  have hbits (n : Nat) (crc : UInt32) :
      (Nat.repeat protoCrc32Bit n crc).toBitVec = (step crcPolynomial)^[n] crc.toBitVec := by
    induction n with
    | zero => rfl
    | succ n ih => rw [Nat.repeat, toBitVec_protoCrc32Bit, ih, Function.iterate_succ_apply']
  have hoctets (crc : UInt32) :
      (data.foldl (fun crc octet => Nat.repeat protoCrc32Bit 8 (crc ^^^ octet.toUInt32)) crc) =
        .ofBitVec (register crcPolynomial crc.toBitVec data) := by
    induction data generalizing crc with
    | nil => rfl
    | cons octet rest ih =>
        rw [List.foldl_cons, ih, hbits, UInt32.toBitVec_xor]
        rfl
  rw [protoCrc32, hoctets]
  rfl

/-- The diagnostic tool takes the CRC of the firmware. -/
theorem zlibCrc32_zero (data : Bytes) : zlibCrc32 data 0 = protoCrc32 data := by
  rw [zlibCrc32, protoCrc32_eq]
  rfl

theorem computeCrc32_eq (payload : Bytes) :
    computeCrc32 payload = .ofBitVec (register crcPolynomial 0#32 payload) := by
  have hcomplement (x : UInt32) : (~~~ x ^^^ 0xFFFFFFFF) &&& 0xFFFFFFFF = x := by
    have hones : (0xFFFFFFFF : UInt32) = -1 := rfl
    rw [hones, UInt32.xor_neg_one, UInt32.and_neg_one, UInt32.not_not]
  exact hcomplement _

end Register

section Length

/-- The two agree where the all-ones register comes back behind the message. -/
theorem computeCrc32_eq_iff_periodic (payload : Bytes) :
    computeCrc32 payload = protoCrc32 payload ↔
      Function.IsPeriodicPt (step crcPolynomial) (8 * payload.length) (BitVec.allOnes 32) := by
  have hxor := @register_xor 32 crcPolynomial (BitVec.allOnes 32) 0#32 payload
  rw [BitVec.xor_zero] at hxor
  rw [computeCrc32_eq, protoCrc32_eq, Function.IsPeriodicPt, Function.IsFixedPt, ← hxor,
    ← UInt32.toBitVec_inj, UInt32.toBitVec_not]
  generalize register crcPolynomial (BitVec.allOnes 32) payload = started
  generalize register crcPolynomial 0#32 payload = zeroed
  show zeroed = ~~~ started ↔ started ^^^ zeroed = BitVec.allOnes 32
  constructor
  · rintro rfl
    rw [← BitVec.xor_allOnes, ← BitVec.xor_assoc, BitVec.xor_self, BitVec.zero_xor]
  · intro h
    rw [← BitVec.xor_allOnes, ← h, ← BitVec.xor_assoc, BitVec.xor_self, BitVec.zero_xor]

/-- The register takes every other state before it comes back to all ones. -/
theorem minimalPeriod_allOnes :
    Function.minimalPeriod (step crcPolynomial) (BitVec.allOnes 32) = 2 ^ 32 - 1 := by
  have hones : (BitVec.allOnes 32).toNat = 0xFFFFFFFF := rfl
  have hpower {n : Nat} (hn : n < 2 ^ 32) :
      power 32 (images (step crcPolynomial)) n 0xFFFFFFFF =
        ((step crcPolynomial)^[n] (BitVec.allOnes 32)).toNat :=
    power_images step_zero (fun _ _ => step_xor) hn (BitVec.allOnes 32)
  have hfull : power 32 (images (step crcPolynomial)) (2 ^ 32 - 1) 0xFFFFFFFF = 0xFFFFFFFF := by
    decide +kernel
  have hparts : ∀ q ∈ [3, 5, 17, 257, 65537],
      power 32 (images (step crcPolynomial)) ((2 ^ 32 - 1) / q) 0xFFFFFFFF ≠ 0xFFFFFFFF := by
    decide +kernel
  refine minimalPeriod_eq ?_ fun q hq hdvd hperiod => ?_
  · exact BitVec.eq_of_toNat_eq ((hpower (by decide)).symm.trans hfull)
  · have hfactor : q ∈ [3, 5, 17, 257, 65537] := by
      refine mem_list_primes_of_dvd_prod hq.prime ?_ hdvd
      simp only [List.mem_cons, List.not_mem_nil, or_false, ← Nat.prime_iff]
      rintro p (rfl | rfl | rfl | rfl | rfl) <;> norm_num
    refine hparts q hfactor ?_
    rw [hpower (Nat.lt_of_le_of_lt (Nat.div_le_self _ _) (by decide)), hperiod]
    rfl

end Length

/-- The bench computes the CRC of the firmware for the payloads whose length is a multiple of
`2 ^ 32 - 1`, and for no other. -/
theorem computeCrc32_eq_iff (payload : Bytes) :
    computeCrc32 payload = protoCrc32 payload ↔ 2 ^ 32 - 1 ∣ payload.length := by
  rw [computeCrc32_eq_iff_periodic, Function.isPeriodicPt_iff_minimalPeriod_dvd,
    minimalPeriod_allOnes]
  exact Nat.Coprime.dvd_mul_left (by norm_num)

/-- The bench frames a single zero octet with another CRC. -/
theorem computeCrc32_zero_octet : computeCrc32 [0] ≠ protoCrc32 [0] := by
  decide

section Bits

theorem getD_flatMap_octetBits (data : Bytes) (k : Nat) :
    (data.flatMap octetBits).getD k false = messageBit data k := by
  induction data generalizing k with
  | nil => simp [messageBit]
  | cons octet rest ih =>
      have hlength : (octetBits octet).length = 8 := by simp [octetBits]
      rw [List.flatMap_cons]
      by_cases hin : k < 8
      · rw [List.getD_append _ _ _ _ (by omega), messageBit, Nat.div_eq_of_lt hin,
          Nat.mod_eq_of_lt hin]
        simp [octetBits, List.getD_eq_getElem?_getD, hin]
      · have hdiv : k / 8 = (k - 8) / 8 + 1 := by omega
        have hmod : k % 8 = (k - 8) % 8 := by omega
        rw [List.getD_append_right _ _ _ _ (by omega), hlength, ih, messageBit, messageBit, hdiv,
          hmod, List.getD_cons_succ]

theorem length_flatMap_octetBits (data : Bytes) :
    (data.flatMap octetBits).length = 8 * data.length := by
  induction data with
  | nil => rfl
  | cons octet rest ih =>
      rw [List.flatMap_cons, List.length_append, ih, List.length_cons, octetBits, List.length_map,
        List.length_range]
      omega

/-- Messages of one length with the same bits are the same. -/
theorem eq_of_messageBit {p q : Bytes} (hlength : p.length = q.length)
    (h : ∀ k, messageBit p k = messageBit q k) : p = q := by
  refine List.ext_getElem hlength fun i hp hq => ?_
  rw [← UInt8.toBitVec_inj]
  apply BitVec.eq_of_getLsbD_eq
  intro j hj
  have hbit := h (8 * i + j)
  have hdiv : (8 * i + j) / 8 = i := by omega
  have hmod : (8 * i + j) % 8 = j := by omega
  rw [messageBit, messageBit, hdiv, hmod, List.getD_eq_getElem _ _ hp,
    List.getD_eq_getElem _ _ hq] at hbit
  exact hbit

end Bits

/-- Two messages of one length that differ, but only within 32 successive bits, have different
CRCs. -/
theorem burst_detected (p q : Bytes) (hlength : p.length = q.length) (hne : p ≠ q) (start : Nat)
    (hburst : ∀ k, messageBit p k ≠ messageBit q k → start ≤ k ∧ k < start + 32) :
    protoCrc32 p ≠ protoCrc32 q := by
  have hdiffer : p.flatMap octetBits ≠ q.flatMap octetBits := by
    intro hsame
    refine hne (eq_of_messageBit hlength fun k => ?_)
    rw [← getD_flatMap_octetBits, hsame, getD_flatMap_octetBits]
  have hregister : register crcPolynomial (BitVec.allOnes 32) p ≠
      register crcPolynomial (BitVec.allOnes 32) q := by
    rw [register_eq_feed (by decide), register_eq_feed (by decide)]
    refine @feed_ne_of_burst 32 crcPolynomial _ rfl _ _ ?_ hdiffer start fun k hk => ?_
    · rw [length_flatMap_octetBits, length_flatMap_octetBits, hlength]
    · rw [getD_flatMap_octetBits, getD_flatMap_octetBits] at hk
      exact hburst k hk
  rw [protoCrc32_eq, protoCrc32_eq]
  intro hsame
  exact hregister (UInt32.ofBitVec.inj (UInt32.not_inj.mp hsame))

/-- A burst over two of four octets is detected. -/
theorem burst_detected_two_octets :
    protoCrc32 [65, 0xFF, 0x0F, 66] ≠ protoCrc32 [65, 0x10, 0xF0, 66] := by
  refine burst_detected [65, 0xFF, 0x0F, 66] [65, 0x10, 0xF0, 66] rfl (by decide) 8 fun k hk => ?_
  by_contra hfar
  have houtside : k / 8 = 0 ∨ 3 ≤ k / 8 := by omega
  rcases houtside with hfirst | hlast
  · simp [messageBit, hfirst] at hk
  · obtain ⟨octet, hoctet⟩ : ∃ octet, k / 8 = octet + 3 := ⟨k / 8 - 3, by omega⟩
    simp [messageBit, hoctet] at hk

end SensorHmi
