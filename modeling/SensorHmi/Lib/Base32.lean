import SensorHmi.Lib.Octets

/-!
# Base32

The alphabet of RFC 4648 with padding, and the regrouping of digits of five bits into octets.
`encode_eq` reads an encoding as one number, its digits and its padding; `octetsOf_append_of_le`
says what one more digit adds to the octets. The digits of an encoding make its octets again
(`octetsOf_digits`), and so do all digits of a possible number with nothing left over
(`digits_octetsOf`).
-/

namespace Base32

open Octets

/-- The character of a digit below 32. -/
def character (digit : Nat) : UInt8 :=
  UInt8.ofNat (if digit < 26 then 65 + digit else 50 + (digit - 26))

/-- The character for padding, `=`. -/
def pad : UInt8 := 61

/-- The `count` low-order digits of a number to the base 32, most significant first. -/
def digits : (count value : Nat) → List Nat
  | 0, _ => []
  | count + 1, value => digits count (value / 32) ++ [value % 32]

/-- The number with these digits. -/
def number (ds : List Nat) : Nat :=
  ds.foldl (fun value digit => 32 * value + digit) 0

/-- The number of digits for so many octets. -/
def digitCount (octets : Nat) : Nat :=
  (8 * octets + 4) / 5

/-- Up to five octets, filled with zero bits to a whole number of digits, and padding for the
digits missing to eight. -/
def quantum (group : Bytes) : Bytes :=
  let count := digitCount group.length
  (digits count (ofBe group * 2 ^ (5 * count - 8 * group.length))).map character ++
    List.replicate (8 - count) pad

/-- The text of octets: eight characters for five of them, padded at the end. -/
def encode : Bytes → Bytes
  | [] => []
  | a :: b :: c :: d :: e :: rest => quantum [a, b, c, d, e] ++ encode rest
  | group => quantum group

/-- An encoding without its padding. -/
def unpadded (octets : Bytes) : Bytes :=
  (encode octets).takeWhile (· ≠ pad)

section Digits

variable {count value : Nat} {ds : List Nat}

@[simp] theorem length_digits (count value : Nat) : (digits count value).length = count := by
  induction count generalizing value with
  | zero => rfl
  | succ count ih => rw [digits, List.length_append, ih, List.length_singleton]

theorem lt_of_mem_digits {digit : Nat} (h : digit ∈ digits count value) : digit < 32 := by
  induction count generalizing value with
  | zero => cases h
  | succ count ih =>
      rcases List.mem_append.mp h with hrest | hlast
      · exact ih hrest
      · rw [List.mem_singleton.mp hlast]
        exact Nat.mod_lt _ (by decide)

@[simp] theorem number_append (ds : List Nat) (digit : Nat) :
    number (ds ++ [digit]) = 32 * number ds + digit :=
  List.foldl_append

theorem number_lt (h : ∀ digit ∈ ds, digit < 32) : number ds < 32 ^ ds.length := by
  induction ds using List.reverseRecOn with
  | nil => exact Nat.one_pos
  | append_singleton ds digit ih =>
      have hdigit : digit < 32 := h digit (by simp)
      have hds := ih fun other hmem => h other (List.mem_append_left _ hmem)
      rw [number_append, List.length_append, List.length_singleton, Nat.pow_succ]
      omega

theorem number_digits (h : value < 32 ^ count) : number (digits count value) = value := by
  induction count generalizing value with
  | zero =>
      rw [Nat.pow_zero] at h
      rw [Nat.lt_one_iff.mp h]
      rfl
  | succ count ih =>
      have hquotient : value / 32 < 32 ^ count := by
        rw [Nat.pow_succ] at h
        omega
      rw [digits, number_append, ih hquotient, Nat.div_add_mod]

theorem digits_number (h : ∀ digit ∈ ds, digit < 32) : digits ds.length (number ds) = ds := by
  induction ds using List.reverseRecOn with
  | nil => rfl
  | append_singleton ds digit ih =>
      have hdigit : digit < 32 := h digit (by simp)
      have hds := ih fun other hmem => h other (List.mem_append_left _ hmem)
      have hquotient : (32 * number ds + digit) / 32 = number ds := by omega
      have hrest : (32 * number ds + digit) % 32 = digit := by omega
      rw [List.length_append, List.length_singleton, digits, number_append, hquotient, hrest, hds]

/-- The digits of a number that is put behind another one. -/
theorem digits_add (first : Nat) {second more : Nat} (h : second < 32 ^ more) :
    digits (count + more) (first * 32 ^ more + second) = digits count first ++ digits more
      second := by
  induction more generalizing second with
  | zero =>
      rw [Nat.pow_zero] at h
      rw [Nat.lt_one_iff.mp h, Nat.pow_zero, Nat.mul_one, Nat.add_zero, Nat.add_zero, digits,
        List.append_nil]
  | succ more ih =>
      have hsplit : first * 32 ^ (more + 1) = 32 * (first * 32 ^ more) := by
        rw [Nat.pow_succ, ← Nat.mul_assoc, Nat.mul_comm]
      have hquotient : (first * 32 ^ (more + 1) + second) / 32 =
        first * 32 ^ more + second / 32 := by
        omega
      have hrest : (first * 32 ^ (more + 1) + second) % 32 = second % 32 := by omega
      have hlt : second / 32 < 32 ^ more := by
        rw [Nat.pow_succ] at h
        omega
      rw [← Nat.add_assoc, digits, hquotient, hrest, ih hlt, digits, List.append_assoc]

end Digits

section Encoding

/-- The octets as one number, filled with zero bits to a whole number of digits. -/
def value (octets : Bytes) : Nat :=
  ofBe octets * 2 ^ (5 * digitCount octets.length - 8 * octets.length)

/-- The characters of padding behind so many octets. -/
def padCount (octets : Nat) : Nat :=
  (8 - digitCount octets % 8) % 8

/-- The bits of whole octets and the zero bits behind them are those of whole digits. -/
theorem pow_digitCount (octets : Nat) :
    256 ^ octets * 2 ^ (5 * digitCount octets - 8 * octets) = 32 ^ digitCount octets := by
  have hbits : 8 * octets + (5 * digitCount octets - 8 * octets) = 5 * digitCount octets := by
    unfold digitCount
    omega
  have h256 : 256 = 2 ^ 8 := rfl
  have h32 : 32 = 2 ^ 5 := rfl
  rw [h256, h32, ← Nat.pow_mul, ← Nat.pow_add, hbits, ← Nat.pow_mul]

theorem value_lt (octets : Bytes) : value octets < 32 ^ digitCount octets.length := by
  rw [← pow_digitCount, value]
  exact Nat.mul_lt_mul_of_pos_right (ofBe_lt octets) (Nat.two_pow_pos _)

/-- Five octets in front are eight digits in front. -/
theorem value_append {group : Bytes} (hgroup : group.length = 5) (rest : Bytes) :
    digitCount (group ++ rest).length = 8 + digitCount rest.length ∧
      value (group ++ rest) = ofBe group * 32 ^ digitCount rest.length + value rest := by
  have hcount : digitCount (group ++ rest).length = 8 + digitCount rest.length := by
    rw [List.length_append, hgroup]
    unfold digitCount
    omega
  have hfill : 5 * digitCount (group ++ rest).length - 8 * (group ++ rest).length =
      5 * digitCount rest.length - 8 * rest.length := by
    rw [hcount, List.length_append, hgroup]
    omega
  refine ⟨hcount, ?_⟩
  rw [value, hfill, ofBe_append, Nat.add_mul, Nat.mul_assoc, pow_digitCount, value]

/-- An encoding is the digits of one number and padding to a multiple of eight. -/
theorem encode_eq (octets : Bytes) :
    encode octets = (digits (digitCount octets.length) (value octets)).map character ++
      List.replicate (padCount octets.length) pad := by
  fun_induction encode octets with
  | case1 => rfl
  | case2 a b c d e rest ih =>
      have hgroup : [a, b, c, d, e].length = 5 := rfl
      obtain ⟨hcount, hvalue⟩ := value_append hgroup rest
      have hpad : padCount ([a, b, c, d, e] ++ rest).length = padCount rest.length := by
        rw [padCount, hcount, padCount, Nat.add_mod_left]
      have hquantum : quantum [a, b, c, d, e] = (digits 8 (ofBe [a, b, c, d, e])).map
        character := by
        simp [quantum, digitCount]
      show quantum [a, b, c, d, e] ++ encode rest =
        (digits (digitCount ([a, b, c, d, e] ++ rest).length)
          (value ([a, b, c, d, e] ++ rest))).map character ++
          List.replicate (padCount ([a, b, c, d, e] ++ rest).length) pad
      rw [ih, hquantum, hpad, hcount, hvalue, digits_add _ (value_lt rest), List.map_append,
        List.append_assoc]
  | case3 group hnil hlong =>
      -- one to four octets leave a quantum that is not full
      have hpad : 8 - digitCount group.length = padCount group.length := by
        have hshort : 0 < group.length ∧ group.length < 5 := by
          match group, hnil, hlong with
          | [_], _, _ | [_, _], _, _ | [_, _, _], _, _ | [_, _, _, _], _, _ => simp
          | a :: b :: c :: d :: e :: rest, _, hlong => exact absurd rfl (hlong a b c d e rest)
        unfold padCount digitCount
        omega
      rw [quantum, hpad, value]

theorem toNat_character {digit : Nat} (h : digit < 32) :
    (character digit).toNat = if digit < 26 then 65 + digit else 50 + (digit - 26) := by
  rw [character, UInt8.toNat_ofNat']
  split_ifs <;> omega

theorem character_ne_pad {digit : Nat} (h : digit < 32) : character digit ≠ pad := by
  intro hsame
  have hnat := congrArg UInt8.toNat hsame
  have hpad : pad.toNat = 61 := rfl
  rw [toNat_character h, hpad] at hnat
  split_ifs at hnat <;> omega

/-- An encoding has no NUL. -/
theorem ne_zero_of_mem_encode {octets : Bytes} {octet : UInt8} (h : octet ∈ encode octets) :
    octet ≠ 0 := by
  rw [encode_eq] at h
  rcases List.mem_append.mp h with hdigit | hpad
  · obtain ⟨digit, hmem, rfl⟩ := List.mem_map.mp hdigit
    have hnat := toNat_character (lt_of_mem_digits hmem)
    intro hzero
    have hsame : (character digit).toNat = 0 := congrArg UInt8.toNat hzero
    rw [hnat] at hsame
    split_ifs at hsame <;> omega
  · rw [List.eq_of_mem_replicate hpad]
    decide

/-- Without padding an encoding is its digits. -/
theorem unpadded_eq (octets : Bytes) :
    unpadded octets = (digits (digitCount octets.length) (value octets)).map character := by
  have hdigits : ∀ octet ∈ (digits (digitCount octets.length) (value octets)).map character,
      decide (octet ≠ pad) = true := by
    intro octet hmem
    obtain ⟨digit, hdigit, rfl⟩ := List.mem_map.mp hmem
    exact decide_eq_true (character_ne_pad (lt_of_mem_digits hdigit))
  have hpad : (List.replicate (padCount octets.length) pad).takeWhile (· ≠ pad) = [] := by
    cases padCount octets.length <;> simp [List.replicate_succ]
  rw [unpadded, encode_eq, List.takeWhile_append_of_pos hdigits, hpad, List.append_nil]

theorem ne_pad_of_mem_unpadded {octets : Bytes} {octet : UInt8} (h : octet ∈ unpadded octets) :
    octet ≠ pad := by
  rw [unpadded_eq] at h
  obtain ⟨digit, hdigit, rfl⟩ := List.mem_map.mp h
  exact character_ne_pad (lt_of_mem_digits hdigit)

end Encoding

section Octets

variable {ds : List Nat} {digit : Nat}

/-- The whole octets in the bits of these digits. -/
def octetsOf (ds : List Nat) : Bytes :=
  beBytes (5 * ds.length / 8) (number ds / 2 ^ (5 * ds.length % 8))

/-- The bits behind the last whole octet. -/
def leftover (ds : List Nat) : Nat :=
  number ds % 2 ^ (5 * ds.length % 8)

@[simp] theorem length_octetsOf (ds : List Nat) : (octetsOf ds).length = 5 * ds.length / 8 :=
  length_beBytes _ _

/-- A digit that completes no octet adds to the bits left over. -/
theorem octetsOf_append_of_lt (hdigit : digit < 32) (h : 5 * ds.length % 8 + 5 < 8) :
    octetsOf (ds ++ [digit]) = octetsOf ds := by
  have hcount : 5 * (ds.length + 1) / 8 = 5 * ds.length / 8 := by omega
  have hbits : 5 * (ds.length + 1) % 8 = 5 + 5 * ds.length % 8 := by omega
  have hdropped : (32 * number ds + digit) / 2 ^ 5 = number ds := by omega
  rw [octetsOf, List.length_append, List.length_singleton, hcount, hbits, number_append,
    Nat.pow_add, ← Nat.div_div_eq_div_mul, hdropped, octetsOf]

/-- A digit that completes an octet adds it. -/
theorem octetsOf_append_of_le (hdigit : digit < 32) (h : 8 ≤ 5 * ds.length % 8 + 5) :
    octetsOf (ds ++ [digit]) = octetsOf ds ++
      [UInt8.ofNat (number (ds ++ [digit]) / 2 ^ (5 * ds.length % 8 + 5 - 8))] := by
  have hcount : 5 * (ds.length + 1) / 8 = 5 * ds.length / 8 + 1 := by omega
  have hbits : 5 * (ds.length + 1) % 8 = 5 * ds.length % 8 + 5 - 8 := by omega
  have hdropped : number (ds ++ [digit]) / 2 ^ (5 * ds.length % 8 + 5 - 8) / 256 =
      number ds / 2 ^ (5 * ds.length % 8) := by
    have hpow : 2 ^ (5 * ds.length % 8 + 5 - 8) * 256 = 2 ^ 5 * 2 ^ (5 * ds.length % 8) := by
      rw [← Nat.pow_add]
      have h256 : 256 = 2 ^ 8 := rfl
      rw [h256, ← Nat.pow_add]
      congr 1
      omega
    have hwhole : number (ds ++ [digit]) / 2 ^ 5 = number ds := by
      rw [number_append]
      omega
    rw [Nat.div_div_eq_div_mul, hpow, ← Nat.div_div_eq_div_mul, hwhole]
  rw [octetsOf, List.length_append, List.length_singleton, hcount, hbits, beBytes_succ, hdropped,
    octetsOf]

/-- A number of digits that encodes some octets. -/
def PossibleCount (count : Nat) : Prop :=
  count % 8 = 0 ∨ count % 8 = 2 ∨ count % 8 = 4 ∨ count % 8 = 5 ∨ count % 8 = 7

instance (count : Nat) : Decidable (PossibleCount count) :=
  inferInstanceAs (Decidable (_ ∨ _))

/-- The digits of an encoding: their number is possible, they make the octets again, and nothing is
left over. -/
theorem octetsOf_digits (octets : Bytes) :
    let ds := digits (digitCount octets.length) (value octets)
    PossibleCount ds.length ∧ octetsOf ds = octets ∧ leftover ds = 0 := by
  intro ds
  have hlength : ds.length = digitCount octets.length := length_digits _ _
  have hnumber : number ds = value octets := number_digits (value_lt octets)
  have hbits : 5 * ds.length % 8 = 5 * digitCount octets.length - 8 * octets.length := by
    rw [hlength]
    unfold digitCount
    omega
  have hcount : 5 * ds.length / 8 = octets.length := by
    rw [hlength]
    unfold digitCount
    omega
  refine ⟨?_, ?_, ?_⟩
  · rw [hlength]
    unfold PossibleCount digitCount
    omega
  · rw [octetsOf, hcount, hbits, hnumber, value, Nat.mul_div_cancel _ (Nat.two_pow_pos _),
      beBytes_ofBe]
  · rw [leftover, hbits, hnumber, value, Nat.mul_mod_left]

/-- Digits of a possible number with nothing left over are those of an encoding. -/
theorem digits_octetsOf (hlt : ∀ digit ∈ ds, digit < 32) (hcount : PossibleCount ds.length)
    (hleft : leftover ds = 0) :
    digits (digitCount (octetsOf ds).length) (value (octetsOf ds)) = ds := by
  have hdigits : digitCount (octetsOf ds).length = ds.length := by
    rw [length_octetsOf]
    unfold PossibleCount at hcount
    unfold digitCount
    omega
  have hbits : 5 * ds.length - 8 * (octetsOf ds).length = 5 * ds.length % 8 := by
    rw [length_octetsOf]
    omega
  have hsmall : number ds / 2 ^ (5 * ds.length % 8) < 256 ^ (5 * ds.length / 8) := by
    rw [Nat.div_lt_iff_lt_mul (Nat.two_pow_pos _)]
    have hpow : 256 ^ (5 * ds.length / 8) * 2 ^ (5 * ds.length % 8) = 32 ^ ds.length := by
      have h256 : 256 = 2 ^ 8 := rfl
      have h32 : 32 = 2 ^ 5 := rfl
      rw [h256, h32, ← Nat.pow_mul, ← Nat.pow_add, Nat.div_add_mod, ← Nat.pow_mul]
    rw [hpow]
    exact number_lt hlt
  have hvalue : value (octetsOf ds) = number ds := by
    rw [value, hdigits, hbits, octetsOf, ofBe_beBytes, Nat.mod_eq_of_lt hsmall]
    exact Nat.div_mul_cancel (Nat.dvd_of_mod_eq_zero hleft)
  rw [hdigits, hvalue, digits_number hlt]

end Octets

end Base32
