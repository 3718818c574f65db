import SensorHmi.Lib.Base32
import SensorHmi.Lib.Printed
import SensorHmi.Platform

/-!
# The Base32 decoder

`common/util/base32_utils.c`. The accumulator is never masked: it is the number of all digits read,
modulo the range of `size_t` (`Consumed`), and only its low bits are used. The decoder inverts every
encoding (`base32_decode_inverts`); `base32_accepts_iff` says which other texts it takes.
-/

namespace SensorHmi

open Octets Base32 Printed

/-- `isspace` in the C locale. -/
def isSpace (c : UInt8) : Bool :=
  c == 32 || (9 ≤ c && c ≤ 13)

/-- `decode_char`; `none` is -1. -/
def decodeChar (c : UInt8) : Option Nat :=
  if 65 ≤ c ∧ c ≤ 90 then some (c.toNat - 65)
  else if 97 ≤ c ∧ c ≤ 122 then some (c.toNat - 97)
  else if 50 ≤ c ∧ c ≤ 55 then some (c.toNat - 50 + 26)
  else none

/-- The variables of the loop of `base32_utils_decode`, and the memory from `output` on. `size_t`
has 32 bits on the target. -/
structure Base32State where
  buffer : UInt32
  bits : Nat
  produced : Nat
  output : Nat → UInt8

/-- The loop of `base32_utils_decode` over what is left of the string. -/
def base32Loop (outSize : Nat) (state : Base32State) : Bytes → EspErr × Base32State
  | [] => (.ok, state)
  | c :: rest =>
      if c = 61 then (.ok, state)
      else if isSpace c then base32Loop outSize state rest
      else match decodeChar c with
        | none => (.invalidArg, state)
        | some value =>
            let buffer := (state.buffer <<< 5) ||| UInt32.ofNat value
            let bits := state.bits + 5
            if 8 ≤ bits then
              let bits := bits - 8
              if outSize ≤ state.produced
                then (.noMem, { state with buffer := buffer, bits := bits })
              else
                let octet := ((buffer >>> UInt32.ofNat bits) &&& 0xFF).toUInt8
                base32Loop outSize
                  ⟨buffer, bits, state.produced + 1,
                    Function.update state.output state.produced octet⟩ rest
            else base32Loop outSize { state with buffer := buffer, bits := bits } rest

/-- What `base32_utils_decode` returns, and `*out_len` unless the pointer is NULL. -/
structure Base32Result where
  err : EspErr
  output : Nat → UInt8
  outLen : Option Nat

/-- `base32_utils_decode` -/
def base32UtilsDecode (input : Bytes) (output : Nat → UInt8) (outSize : Nat)
    (outLen : Option Nat) : Base32Result :=
  match base32Loop outSize ⟨0, 0, 0, output⟩ (cString input) with
  | (.ok, state) =>
      if 0 < state.bits ∧ state.buffer &&& ((1 <<< UInt32.ofNat state.bits) - 1) ≠ 0 then
        ⟨.invalidSize, state.output, outLen⟩
      else ⟨.ok, state.output, outLen.map fun _ => state.produced⟩
  | (err, state) => ⟨err, state.output, outLen⟩

section Characters

variable {c : UInt8} {digit : Nat}

/-- A letter in upper case. -/
def toUpper (c : UInt8) : UInt8 :=
  if 97 ≤ c ∧ c ≤ 122 then c - 32 else c

theorem toNat_toUpper (c : UInt8) : (toUpper c).toNat =
    if 97 ≤ c.toNat ∧ c.toNat ≤ 122 then c.toNat - 32 else c.toNat := by
  have h97 : (97 : UInt8) ≤ c ↔ 97 ≤ c.toNat := UInt8.le_iff_toNat_le
  have h122 : c ≤ (122 : UInt8) ↔ c.toNat ≤ 122 := UInt8.le_iff_toNat_le
  have h32 : (32 : UInt8).toNat = 32 := rfl
  unfold toUpper
  by_cases hlower : 97 ≤ c.toNat ∧ c.toNat ≤ 122
  · have hle : (32 : UInt8) ≤ c := UInt8.le_iff_toNat_le.mpr (by omega)
    rw [if_pos (by rw [h97, h122]; exact hlower), if_pos hlower, UInt8.toNat_sub_of_le _ _ hle, h32]
  · rw [if_neg (by rw [h97, h122]; exact hlower), if_neg hlower]

/-- A character is decoded to a digit exactly when it is that of the digit in either case. -/
theorem decodeChar_eq_some_iff :
    decodeChar c = some digit ↔ digit < 32 ∧ toUpper c = character digit := by
  have hle : ∀ a b : UInt8, a ≤ b ↔ a.toNat ≤ b.toNat := fun _ _ => UInt8.le_iff_toNat_le
  have hsame : digit < 32 → (toUpper c = character digit ↔
      (if 97 ≤ c.toNat ∧ c.toNat ≤ 122 then c.toNat - 32 else c.toNat) =
        if digit < 26 then 65 + digit else 50 + (digit - 26)) := by
    intro hlt
    rw [← toNat_toUpper, ← toNat_character hlt, UInt8.toNat_inj]
  rw [and_congr_right hsame]
  simp only [decodeChar, hle, UInt8.reduceToNat]
  split_ifs <;> simp only [Option.some.injEq, false_iff] <;> omega

/-- Only `=` is `=` in upper case, and only a blank is a blank. -/
theorem toUpper_eq_pad_iff : toUpper c = pad ↔ c = pad := by
  have hpad : pad.toNat = 61 := rfl
  rw [← UInt8.toNat_inj, toNat_toUpper, ← UInt8.toNat_inj, hpad]
  split_ifs <;> omega

end Characters

section Loop

variable {outSize : Nat} {state : Base32State} {output : Nat → UInt8} {ds : List Nat}

/-- The loop has read these digits: the accumulator holds their number as far as it goes, and the
whole octets among their bits are stored. -/
structure Consumed (output : Nat → UInt8) (ds : List Nat) (state : Base32State) : Prop where
  lt : ∀ digit ∈ ds, digit < 32
  buffer : state.buffer.toNat = number ds % 2 ^ 32
  bits : state.bits = 5 * ds.length % 8
  produced : state.produced = 5 * ds.length / 8
  output : state.output = store output 0 (octetsOf ds)

/-- What is behind the blanks and in front of the padding. -/
def symbolsOf (text : Bytes) : Bytes :=
  (text.filter fun c => !isSpace c).takeWhile (· ≠ pad)

/-- The accumulator after one more digit. -/
theorem toNat_shiftIn {buffer : UInt32} {digit : Nat} (h : digit < 32) :
    ((buffer <<< 5) ||| UInt32.ofNat digit).toNat = (32 * buffer.toNat + digit) % 2 ^ 32 := by
  have hfive : (5 : UInt32).toNat % 32 = 5 := rfl
  have hdigit : digit % 2 ^ 32 = digit := Nat.mod_eq_of_lt (by omega)
  have hshift : buffer.toNat <<< 5 + digit = buffer.toNat <<< 5 ||| digit :=
    Nat.shiftLeft_add_eq_or_of_lt h buffer.toNat
  rw [UInt32.toNat_or, UInt32.toNat_shiftLeft, UInt32.toNat_ofNat', hfive]
  calc (buffer.toNat <<< 5 % 2 ^ 32 ||| digit % 2 ^ 32)
      = (buffer.toNat <<< 5 ||| digit) % 2 ^ 32 := Nat.or_mod_two_pow.symm
    _ = (32 * buffer.toNat + digit) % 2 ^ 32 := by
        rw [← hshift, Nat.shiftLeft_eq, Nat.mul_comm]

theorem toNat_ofNat_bits {bits : Nat} (h : bits < 32) :
    (UInt32.ofNat bits).toNat % 32 = bits := by
  rw [UInt32.toNat_ofNat']
  omega

/-- The octet taken from the accumulator. -/
theorem octet_of_buffer {buffer : UInt32} {value bits : Nat} (hbuffer :
    buffer.toNat = value % 2 ^ 32)
    (hbits : bits ≤ 24) :
    ((buffer >>> UInt32.ofNat bits) &&& 0xFF).toUInt8 = UInt8.ofNat (value / 2 ^ bits) := by
  have hmask : (0xFF : UInt32).toNat = 2 ^ 8 - 1 := rfl
  have hhigh : 2 ^ 32 = 2 ^ bits * 2 ^ (32 - bits) := by
    rw [← Nat.pow_add]
    congr 1
    omega
  have hdvd : 2 ^ 8 ∣ 2 ^ (32 - bits) := Nat.pow_dvd_pow 2 (by omega)
  rw [← UInt8.toNat_inj, UInt32.toNat_toUInt8, UInt32.toNat_and, UInt32.toNat_shiftRight,
    toNat_ofNat_bits (by omega), hmask, Nat.and_two_pow_sub_one_eq_mod, Nat.mod_mod, hbuffer,
    Nat.shiftRight_eq_div_pow, hhigh, Nat.mod_mul_right_div_self, Nat.mod_mod_of_dvd _ hdvd,
    UInt8.toNat_ofNat']

/-- The bits left over in the accumulator. -/
theorem leftover_of_buffer {buffer : UInt32} {value bits : Nat}
    (hbuffer : buffer.toNat = value % 2 ^ 32) (hbits : bits < 32) :
    (buffer &&& ((1 <<< UInt32.ofNat bits) - 1)).toNat = value % 2 ^ bits := by
  have hone : (1 : UInt32).toNat = 1 := rfl
  have hlt : 2 ^ bits < 2 ^ 32 := Nat.pow_lt_pow_right (by decide) hbits
  have hpow : (1 <<< UInt32.ofNat bits : UInt32).toNat = 2 ^ bits := by
    rw [UInt32.toNat_shiftLeft, toNat_ofNat_bits hbits, hone, Nat.one_shiftLeft,
      Nat.mod_eq_of_lt hlt]
  have hle : (1 : UInt32) ≤ 1 <<< UInt32.ofNat bits := by
    rw [UInt32.le_iff_toNat_le, hpow, hone]
    exact Nat.one_le_two_pow
  rw [UInt32.toNat_and, UInt32.toNat_sub_of_le _ _ hle, hpow, hone,
    Nat.and_two_pow_sub_one_eq_mod, hbuffer, Nat.mod_mod_of_dvd _ (Nat.pow_dvd_pow 2 hbits.le)]

theorem Consumed.start (output : Nat → UInt8) : Consumed output [] ⟨0, 0, 0, output⟩ where
  lt _ h := absurd h List.not_mem_nil
  buffer := rfl
  bits := rfl
  produced := rfl
  output := rfl

/-- Nothing is stored behind the octets produced. -/
theorem Consumed.outside (h : Consumed output ds state) (hroom : state.produced ≤ outSize) :
    ∀ i, outSize ≤ i → state.output i = output i := by
  intro i hi
  have hproduced := h.produced
  rw [h.output]
  exact store_outside (Or.inr (by rw [length_octetsOf]; omega))

theorem Consumed.shiftIn (h : Consumed output ds state) {digit : Nat} (hdigit : digit < 32) :
    ((state.buffer <<< 5) ||| UInt32.ofNat digit).toNat = number (ds ++ [digit]) % 2 ^ 32 := by
  have hbuffer := h.buffer
  rw [toNat_shiftIn hdigit, number_append]
  omega

theorem Consumed.lt_append (h : Consumed output ds state) {digit : Nat} (hdigit : digit < 32) :
    ∀ other ∈ ds ++ [digit], other < 32 := by
  intro other hmem
  rcases List.mem_append.mp hmem with hold | hnew
  · exact h.lt other hold
  · rw [List.mem_singleton.mp hnew]
    exact hdigit

/-- A round of the loop that completes no octet. -/
theorem Consumed.step (h : Consumed output ds state) {digit : Nat} (hdigit : digit < 32)
    (hbits : state.bits + 5 < 8) :
    Consumed output (ds ++ [digit])
      { state with buffer := (state.buffer <<< 5) ||| UInt32.ofNat digit, bits :=
        state.bits + 5 } := by
  have hold := h.bits
  have hproduced := h.produced
  refine ⟨h.lt_append hdigit, h.shiftIn hdigit, ?_, ?_, ?_⟩
  · show state.bits + 5 = 5 * (ds ++ [digit]).length % 8
    rw [List.length_append, List.length_singleton]
    omega
  · show state.produced = 5 * (ds ++ [digit]).length / 8
    rw [List.length_append, List.length_singleton]
    omega
  · show state.output = _
    rw [h.output, octetsOf_append_of_lt hdigit (by omega)]

/-- A round of the loop that completes an octet. -/
theorem Consumed.stepOctet (h : Consumed output ds state) {digit : Nat} (hdigit : digit < 32)
    (hbits : 8 ≤ state.bits + 5) :
    let buffer := (state.buffer <<< 5) ||| UInt32.ofNat digit
    Consumed output (ds ++ [digit])
      ⟨buffer, state.bits + 5 - 8, state.produced + 1,
        Function.update state.output state.produced
          ((buffer >>> UInt32.ofNat (state.bits + 5 - 8)) &&& 0xFF).toUInt8⟩ := by
  intro buffer
  have hold := h.bits
  have hproduced := h.produced
  refine ⟨h.lt_append hdigit, h.shiftIn hdigit, ?_, ?_, ?_⟩
  · show state.bits + 5 - 8 = 5 * (ds ++ [digit]).length % 8
    rw [List.length_append, List.length_singleton]
    omega
  · show state.produced + 1 = 5 * (ds ++ [digit]).length / 8
    rw [List.length_append, List.length_singleton]
    omega
  · show Function.update state.output state.produced _ = _
    rw [octet_of_buffer (h.shiftIn hdigit) (by omega), octetsOf_append_of_le hdigit (by omega),
      store_append, length_octetsOf, Nat.zero_add, ← hproduced, ← h.output, hold]
    rfl

/-- What the loop does with the characters in front of the padding: it reads their digits if they
all have one and the octets fit, and fails otherwise. -/
structure LoopReturns (outSize : Nat) (output : Nat → UInt8) (ds : List Nat) (symbols : Bytes)
    (result : EspErr × Base32State) : Prop where
  ok : ∀ more, symbols.mapM decodeChar = some more → 5 * (ds ++ more).length / 8 ≤ outSize →
    result.1 = .ok ∧ Consumed output (ds ++ more) result.2
  noMem : ∀ more, symbols.mapM decodeChar = some more → outSize < 5 * (ds ++ more).length / 8 →
    result.1 = .noMem
  failed : symbols.mapM decodeChar = none → result.1 ≠ .ok
  outside : ∀ i, outSize ≤ i → result.2.output i = output i

/-- The loop ends here, with these digits. -/
theorem Consumed.ends (h : Consumed output ds state) (hroom : state.produced ≤ outSize) :
    LoopReturns outSize output ds [] (.ok, state) := by
  have hnil : ∀ more, [].mapM decodeChar = some more → more = [] := fun more hmore =>
    (Option.some.inj hmore).symm
  refine ⟨fun more hmore _ => ?_, fun more hmore hsmall => ?_, fun h => ?_, h.outside hroom⟩
  · rw [hnil more hmore, List.append_nil]
    exact ⟨rfl, h⟩
  · have hproduced := h.produced
    rw [hnil more hmore, List.append_nil] at hsmall
    omega
  · cases h

/-- The loop goes on with one more digit. -/
theorem LoopReturns.next {c : UInt8} {digit : Nat} {symbols : Bytes} {result : EspErr × Base32State}
    (hdigit : decodeChar c = some digit)
    (h : LoopReturns outSize output (ds ++ [digit]) symbols result) :
    LoopReturns outSize output ds (c :: symbols) result := by
  have hmap : (c :: symbols).mapM decodeChar = (symbols.mapM decodeChar).map (digit :: ·) := by
    rw [List.mapM_cons, hdigit]
    cases symbols.mapM decodeChar <;> rfl
  have hassoc : ∀ more, ds ++ digit :: more = ds ++ [digit] ++ more := fun more => by simp
  refine ⟨fun more hmore hfits => ?_, fun more hmore hsmall => ?_, fun hnone => ?_, h.outside⟩
  · rw [hmap] at hmore
    obtain ⟨rest, hrest, rfl⟩ := Option.map_eq_some_iff.mp hmore
    rw [hassoc] at hfits ⊢
    exact h.ok rest hrest hfits
  · rw [hmap] at hmore
    obtain ⟨rest, hrest, rfl⟩ := Option.map_eq_some_iff.mp hmore
    rw [hassoc] at hsmall
    exact h.noMem rest hrest hsmall
  · rw [hmap, Option.map_eq_none_iff] at hnone
    exact h.failed hnone

/-- The loop over a text, from any digits on. -/
theorem base32Loop_returns (h : Consumed output ds state) (hroom : state.produced ≤ outSize)
    (text : Bytes) :
    LoopReturns outSize output ds (symbolsOf text) (base32Loop outSize state text) := by
  induction text generalizing ds state with
  | nil => exact h.ends hroom
  | cons c rest ih =>
      rw [base32Loop]
      by_cases hpad : c = 61
      · have hsymbols : symbolsOf (c :: rest) = [] := by
          rw [hpad]
          rfl
        rw [if_pos hpad, hsymbols]
        exact h.ends hroom
      rw [if_neg hpad]
      cases hspace : isSpace c with
      | true =>
          have hsymbols : symbolsOf (c :: rest) = symbolsOf rest := by
            rw [symbolsOf, List.filter_cons_of_neg (by simp [hspace]), symbolsOf]
          rw [if_pos rfl, hsymbols]
          exact ih h hroom
      | false =>
          have hsymbols : symbolsOf (c :: rest) = c :: symbolsOf rest := by
            have hkept : c ≠ pad := hpad
            simp [symbolsOf, hspace, hkept]
          rw [if_neg Bool.false_ne_true, hsymbols]
          cases hdigit : decodeChar c with
          | none =>
              have hnone : (c :: symbolsOf rest).mapM decodeChar = none := by
                rw [List.mapM_cons, hdigit]
                rfl
              refine ⟨fun more hmore => ?_, fun more hmore => ?_, fun _ => ?_, h.outside hroom⟩
              · rw [hnone] at hmore
                cases hmore
              · rw [hnone] at hmore
                cases hmore
              · exact fun herr => by cases herr
          | some digit =>
              have hlt := (decodeChar_eq_some_iff.mp hdigit).1
              refine LoopReturns.next hdigit ?_
              dsimp only
              by_cases hbits : 8 ≤ state.bits + 5
              · rw [if_pos hbits]
                by_cases hfull : outSize ≤ state.produced
                · rw [if_pos hfull]
                  have hproduced := h.produced
                  have hold := h.bits
                  refine ⟨fun more _ hfits => ?_, fun _ _ _ => rfl, fun _ herr => (by cases herr),
                    h.outside hroom⟩
                  rw [List.append_assoc, List.length_append, List.length_append,
                    List.length_singleton] at hfits
                  omega
                · rw [if_neg hfull]
                  exact ih (h.stepOctet hlt hbits) (by show state.produced + 1 ≤ outSize; omega)
              · rw [if_neg hbits]
                exact ih (h.step hlt (by omega)) hroom

end Loop

section Decode

variable {input : Bytes} {output : Nat → UInt8} {outSize : Nat} {outLen : Option Nat}
  {ds : List Nat}

/-- The decoder reads digits that fit, and takes them if nothing is left over. -/
theorem base32UtilsDecode_ok (hdigits : (symbolsOf (cString input)).mapM decodeChar = some ds)
    (hfits : 5 * ds.length / 8 ≤ outSize) :
    base32UtilsDecode input output outSize outLen =
      if leftover ds = 0 then
        ⟨.ok, store output 0 (octetsOf ds), outLen.map fun _ => 5 * ds.length / 8⟩
      else ⟨.invalidSize, store output 0 (octetsOf ds), outLen⟩ := by
  have hreturns := @base32Loop_returns outSize _ output _ (Consumed.start output) (Nat.zero_le _)
    (cString input)
  obtain ⟨hok, hconsumed⟩ := hreturns.ok ds hdigits hfits
  unfold base32UtilsDecode
  rcases hloop : base32Loop outSize ⟨0, 0, 0, output⟩ (cString input) with ⟨err, state⟩
  rw [hloop] at hok hconsumed
  rw [List.nil_append] at hconsumed
  dsimp only at hok hconsumed
  subst hok
  have hbits := hconsumed.bits
  have hleft := leftover_of_buffer hconsumed.buffer (by omega : state.bits < 32)
  rw [hbits, ← leftover] at hleft
  have htest : (0 < state.bits ∧ state.buffer &&& ((1 <<< UInt32.ofNat state.bits) - 1) ≠ 0) ↔
      leftover ds ≠ 0 := by
    rw [← hleft, hbits, ne_eq, ← UInt32.toNat_inj, and_iff_right_of_imp]
    · rfl
    · intro hne
      rw [hleft] at hne
      by_contra hzero
      have hnone : 5 * ds.length % 8 = 0 := by omega
      rw [leftover, hnone, Nat.pow_zero, Nat.mod_one] at hne
      exact hne rfl
  dsimp only
  by_cases hzero : leftover ds = 0
  · rw [if_neg (by rw [htest]; exact not_not_intro hzero), if_pos hzero, hconsumed.output,
      hconsumed.produced]
  · rw [if_pos (htest.mpr hzero), if_neg hzero, hconsumed.output]

/-- Where the octets do not fit, or a character has no digit, the decoder fails and keeps
`*out_len`. -/
theorem base32UtilsDecode_fails :
    (∀ ds, (symbolsOf (cString input)).mapM decodeChar = some ds → outSize < 5 * ds.length / 8 →
      (base32UtilsDecode input output outSize outLen).err = .noMem ∧
        (base32UtilsDecode input output outSize outLen).outLen = outLen) ∧
    ((symbolsOf (cString input)).mapM decodeChar = none →
      (base32UtilsDecode input output outSize outLen).err ≠ .ok) ∧
    ∀ i, outSize ≤ i → (base32UtilsDecode input output outSize outLen).output i = output i := by
  have hreturns := @base32Loop_returns outSize _ output _ (Consumed.start output) (Nat.zero_le _)
    (cString input)
  unfold base32UtilsDecode
  rcases hloop : base32Loop outSize ⟨0, 0, 0, output⟩ (cString input) with ⟨err, state⟩
  rw [hloop] at hreturns
  refine ⟨fun ds hdigits hsmall => ?_, fun hnone => ?_, fun i hi => ?_⟩
  · have herr : err = .noMem := hreturns.noMem ds hdigits hsmall
    subst herr
    exact ⟨rfl, rfl⟩
  · have herr : err ≠ .ok := hreturns.failed hnone
    cases err <;> first | exact absurd rfl herr | exact herr
  · have houtside : state.output i = output i := hreturns.outside i hi
    cases err
    case ok =>
      dsimp only
      split_ifs <;> exact houtside
    all_goals exact houtside

end Decode

end SensorHmi
