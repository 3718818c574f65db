import SensorHmi.Lib.Octets

/-!
# Base64

The standard alphabet with padding. `decode_encode` is the round trip, `length_encode` the length
of the text, and `le_of_mem_encode` keeps blanks and control characters out of it.
-/

namespace Base64

/-- The character of `n < 64`. -/
def character (n : Nat) : UInt8 :=
  UInt8.ofNat
    (if n < 26 then 65 + n
    else if n < 52 then 97 + (n - 26)
    else if n < 62 then 48 + (n - 52)
    else if n = 62 then 43
    else 47)

/-- The value of a character of the alphabet. -/
def value (octet : UInt8) : Option Nat :=
  let n := octet.toNat
  if 65 ≤ n ∧ n ≤ 90 then some (n - 65)
  else if 97 ≤ n ∧ n ≤ 122 then some (n - 97 + 26)
  else if 48 ≤ n ∧ n ≤ 57 then some (n - 48 + 52)
  else if n = 43 then some 62
  else if n = 47 then some 63
  else none

/-- The text of octets: four characters for three of them, padded at the end. -/
def encode : Bytes → Bytes
  | [] => []
  | [a] => [character (a.toNat / 4), character (a.toNat % 4 * 16), 61, 61]
  | [a, b] =>
      [character (a.toNat / 4), character (a.toNat % 4 * 16 + b.toNat / 16),
        character (b.toNat % 16 * 4), 61]
  | a :: b :: c :: rest =>
      character (a.toNat / 4) :: character (a.toNat % 4 * 16 + b.toNat / 16) ::
        character (b.toNat % 16 * 4 + c.toNat / 64) :: character (c.toNat % 64) :: encode rest

/-- The octets of a text. -/
def decode : Bytes → Option Bytes
  | [] => some []
  | first :: second :: third :: fourth :: rest => do
      let p ← value first
      let q ← value second
      let a := UInt8.ofNat (p * 4 + q / 16)
      if third = 61 ∧ fourth = 61 ∧ rest = [] then some [a]
      else
        let r ← value third
        let b := UInt8.ofNat (q % 16 * 16 + r / 4)
        if fourth = 61 ∧ rest = [] then some [a, b]
        else
          let s ← value fourth
          let later ← decode rest
          some (a :: b :: UInt8.ofNat (r % 4 * 64 + s) :: later)
  | _ => none

theorem value_character {n : Nat} (h : n < 64) : value (character n) = some n := by
  interval_cases n <;> rfl

theorem character_ne_pad {n : Nat} (h : n < 64) : character n ≠ 61 := by
  intro hpad
  have hvalue := value_character h
  rw [hpad] at hvalue
  cases hvalue

theorem le_character (n : Nat) (h : n < 64) : 43 ≤ character n := by
  interval_cases n <;> decide

/-- The text of octets is read back. -/
theorem decode_encode (octets : Bytes) : decode (encode octets) = some octets := by
  have hsplit : ∀ (octet : UInt8) (n : Nat), n = octet.toNat → UInt8.ofNat n = octet := by
    rintro octet n rfl
    exact UInt8.ofNat_toNat
  fun_induction encode octets with
  | case1 => rfl
  | case2 a =>
      have ha := a.toNat_lt
      simp only [decode, value_character (show a.toNat / 4 < 64 by omega),
        value_character (show a.toNat % 4 * 16 < 64 by omega), Option.bind_eq_bind,
        Option.bind_some, and_self, if_true]
      rw [hsplit a _ (by omega)]
  | case3 a b =>
      have ha := a.toNat_lt
      have hb := b.toNat_lt
      have hthird := character_ne_pad (show b.toNat % 16 * 4 < 64 by omega)
      simp only [decode, value_character (show a.toNat / 4 < 64 by omega),
        value_character (show a.toNat % 4 * 16 + b.toNat / 16 < 64 by omega),
        value_character (show b.toNat % 16 * 4 < 64 by omega), Option.bind_eq_bind,
        Option.bind_some, hthird, false_and, if_false, and_self, if_true]
      rw [hsplit a _ (by omega), hsplit b _ (by omega)]
  | case4 a b c rest ih =>
      have ha := a.toNat_lt
      have hb := b.toNat_lt
      have hc := c.toNat_lt
      have hthird := character_ne_pad (show b.toNat % 16 * 4 + c.toNat / 64 < 64 by omega)
      have hfourth := character_ne_pad (show c.toNat % 64 < 64 by omega)
      simp only [decode, value_character (show a.toNat / 4 < 64 by omega),
        value_character (show a.toNat % 4 * 16 + b.toNat / 16 < 64 by omega),
        value_character (show b.toNat % 16 * 4 + c.toNat / 64 < 64 by omega),
        value_character (show c.toNat % 64 < 64 by omega), Option.bind_eq_bind,
        Option.bind_some, hthird, hfourth, false_and, if_false, ih]
      rw [hsplit a _ (by omega), hsplit b _ (by omega), hsplit c _ (by omega)]

/-- The text has four characters for every three octets or part of them. -/
theorem length_encode (octets : Bytes) :
    (encode octets).length = 4 * ((octets.length + 2) / 3) := by
  fun_induction encode octets with
  | case1 => rfl
  | case2 a => simp
  | case3 a b => simp
  | case4 a b c rest ih =>
      simp only [List.length_cons, ih]
      omega

/-- A text has no blanks and no control characters. -/
theorem le_of_mem_encode {octets : Bytes} {octet : UInt8} (h : octet ∈ encode octets) :
    43 ≤ octet := by
  fun_induction encode octets with
  | case1 => cases h
  | case2 a =>
      have ha := a.toNat_lt
      simp only [List.mem_cons, List.not_mem_nil, or_false] at h
      rcases h with rfl | rfl | rfl | rfl
      · exact le_character _ (by omega)
      · exact le_character _ (by omega)
      · decide
      · decide
  | case3 a b =>
      have ha := a.toNat_lt
      have hb := b.toNat_lt
      simp only [List.mem_cons, List.not_mem_nil, or_false] at h
      rcases h with rfl | rfl | rfl | rfl
      · exact le_character _ (by omega)
      · exact le_character _ (by omega)
      · exact le_character _ (by omega)
      · decide
  | case4 a b c rest ih =>
      have ha := a.toNat_lt
      have hb := b.toNat_lt
      have hc := c.toNat_lt
      simp only [List.mem_cons] at h
      rcases h with rfl | rfl | rfl | rfl | hrest
      · exact le_character _ (by omega)
      · exact le_character _ (by omega)
      · exact le_character _ (by omega)
      · exact le_character _ (by omega)
      · exact ih hrest

end Base64
