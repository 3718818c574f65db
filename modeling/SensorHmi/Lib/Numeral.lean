import SensorHmi.Lib.Octets

/-!
# Number texts

Decimal and hexadecimal texts of natural numbers, decimal fractions, and a scanner for the
decimal numbers of data formats: an optional minus sign, an integer without leading zeros, a
fraction and an exponent. Read `scanNumber_text` first: the scanner reads back every decimal from
its text.
-/

namespace Numeral

/-- The ASCII digit of `d < 10`. -/
def digitOctet (d : Nat) : UInt8 :=
  UInt8.ofNat (48 + d)

/-- An ASCII decimal digit. -/
def isDigit (octet : UInt8) : Bool :=
  48 ≤ octet && octet ≤ 57

/-- The value of an ASCII decimal digit. -/
def digitValue (octet : UInt8) : Nat :=
  octet.toNat - 48

/-- The value of decimal digits, most significant first. -/
def digitsValue (digits : Bytes) : Nat :=
  digits.foldl (fun value octet => 10 * value + digitValue octet) 0

/-- The shortest decimal text of a number. -/
def natText (n : Nat) : Bytes :=
  (Nat.toDigits 10 n).map fun c => UInt8.ofNat c.toNat

/-- The `width` low-order decimal digits of a number. -/
def padText : (width n : Nat) → Bytes
  | 0, _ => []
  | width + 1, n => padText width (n / 10) ++ [digitOctet (n % 10)]

/-- The upper-case hexadecimal digit of `d < 16`. -/
def hexDigitUpper (d : Nat) : UInt8 :=
  if d < 10 then digitOctet d else UInt8.ofNat (55 + d)

/-- Two upper-case hexadecimal digits for each octet. -/
def hexText (octets : Bytes) : Bytes :=
  octets.flatMap fun octet => [hexDigitUpper (octet.toNat / 16), hexDigitUpper (octet.toNat % 16)]

/-- The value of a hexadecimal digit of either case. -/
def hexDigitValue (octet : UInt8) : Option Nat :=
  if isDigit octet then some (digitValue octet)
  else if 65 ≤ octet ∧ octet ≤ 70 then some (octet.toNat - 55)
  else if 97 ≤ octet ∧ octet ≤ 102 then some (octet.toNat - 87)
  else none

/-- The integer nearest to `numerator / denominator`, the even one of two. -/
def roundHalfEven (numerator denominator : Nat) : Nat :=
  let quotient := numerator / denominator
  let twice := 2 * (numerator % denominator)
  if twice < denominator ∨ (twice = denominator ∧ quotient % 2 = 0) then quotient
  else quotient + 1

section Digits

theorem isDigit_digitOctet {d : Nat} (h : d < 10) : isDigit (digitOctet d) = true := by
  interval_cases d <;> rfl

theorem digitValue_digitOctet {d : Nat} (h : d < 10) : digitValue (digitOctet d) = d := by
  interval_cases d <;> rfl

theorem hexDigitValue_hexDigitUpper {d : Nat} (h : d < 16) :
    hexDigitValue (hexDigitUpper d) = some d := by
  interval_cases d <;> rfl

theorem digitsValue_append_digit (digits : Bytes) (octet : UInt8) :
    digitsValue (digits ++ [octet]) = 10 * digitsValue digits + digitValue octet := by
  simp [digitsValue, List.foldl_append]

/-- The last digit of a decimal text comes off the end. -/
theorem natText_eq (n : Nat) :
    natText n = (if n < 10 then [] else natText (n / 10)) ++ [digitOctet (n % 10)] := by
  have hdigit : ∀ d < 10, UInt8.ofNat (Nat.digitChar d).toNat = digitOctet d := by
    intro d hd
    interval_cases d <;> rfl
  rw [natText, Nat.toDigits_eq_if (by decide)]
  split
  case isTrue hlt => simp [hdigit n hlt, Nat.mod_eq_of_lt hlt]
  case isFalse =>
    simp only [List.map_append, List.map_cons, List.map_nil, natText]
    rw [hdigit _ (Nat.mod_lt _ (by decide))]

theorem natText_ne_nil (n : Nat) : natText n ≠ [] := by
  rw [natText_eq]
  simp

theorem isDigit_of_mem_natText {n : Nat} {octet : UInt8} (h : octet ∈ natText n) :
    isDigit octet = true := by
  induction n using Nat.strongRecOn generalizing octet with
  | ind n ih =>
      rw [natText_eq, List.mem_append] at h
      rcases h with hprefix | hlast
      · split at hprefix
        case isTrue => simp at hprefix
        case isFalse hge => exact ih (n / 10) (by omega) hprefix
      · rw [List.mem_singleton.mp hlast]
        exact isDigit_digitOctet (Nat.mod_lt _ (by decide))

theorem digitsValue_natText (n : Nat) : digitsValue (natText n) = n := by
  induction n using Nat.strongRecOn with
  | ind n ih =>
      rw [natText_eq, digitsValue_append_digit, digitValue_digitOctet (Nat.mod_lt _ (by decide))]
      split
      case isTrue => simp [digitsValue]; omega
      case isFalse => rw [ih (n / 10) (by omega)]; omega

/-- A decimal text starts with a zero only when it is the text of zero. -/
theorem natText_head (n : Nat) : (natText n).head? = some 48 → natText n = [48] := by
  induction n using Nat.strongRecOn with
  | ind n ih =>
      intro hhead
      rw [natText_eq] at hhead ⊢
      split at hhead
      case isTrue hlt =>
        rw [if_pos hlt]
        simpa using hhead
      case isFalse hge =>
        have hrest : (natText (n / 10)).head? = some 48 := by
          rwa [List.head?_append_of_ne_nil _ (natText_ne_nil _)] at hhead
        have hzero := congrArg digitsValue (ih (n / 10) (by omega) hrest)
        rw [digitsValue_natText, show digitsValue [48] = 0 from rfl] at hzero
        omega

theorem length_natText_le {n k : Nat} (hk : 0 < k) (h : n < 10 ^ k) : (natText n).length ≤ k := by
  rw [natText, List.length_map]
  exact (Nat.length_toDigits_le_iff (by decide) hk).mpr h

@[simp] theorem length_padText (width n : Nat) : (padText width n).length = width := by
  induction width generalizing n with
  | zero => rfl
  | succ width ih => simp [padText, ih]

theorem isDigit_of_mem_padText {width n : Nat} {octet : UInt8} (h : octet ∈ padText width n) :
    isDigit octet = true := by
  induction width generalizing n with
  | zero => simp [padText] at h
  | succ width ih =>
      rcases List.mem_append.mp h with hprefix | hlast
      · exact ih hprefix
      · rw [List.mem_singleton.mp hlast]
        exact isDigit_digitOctet (Nat.mod_lt _ (by decide))

/-- Padded digits after a number shift it and add their value. -/
theorem digitsValue_append_padText (digits : Bytes) (width n : Nat) :
    digitsValue (digits ++ padText width n) =
      digitsValue digits * 10 ^ width + n % 10 ^ width := by
  induction width generalizing n with
  | zero => simp [padText, Nat.mod_one]
  | succ width ih =>
      rw [padText, ← List.append_assoc, digitsValue_append_digit, ih,
        digitValue_digitOctet (Nat.mod_lt _ (by decide)), Nat.pow_succ, Nat.mul_comm (10 ^ width),
        Nat.mod_mul]
      ring

end Digits

/-- A decimal number: `± mantissa * 10 ^ exponent`. -/
structure Decimal where
  negative : Bool
  mantissa : Nat
  exponent : Int
  deriving DecidableEq, Repr

/-- The text of a decimal: digits with a point for a negative exponent, and an exponent part for
a positive one. -/
def Decimal.text (d : Decimal) : Bytes :=
  (if d.negative then [45] else []) ++
    match d.exponent with
    | .ofNat 0 => natText d.mantissa
    | .ofNat (e + 1) => natText d.mantissa ++ 101 :: natText (e + 1)
    | .negSucc k =>
        natText (d.mantissa / 10 ^ (k + 1)) ++ 46 :: padText (k + 1) (d.mantissa % 10 ^ (k + 1))

/-- An optional sign octet in front of a text. -/
def scanSign (sign : UInt8) : Bytes → Bool × Bytes
  | [] => (false, [])
  | octet :: rest => if octet = sign then (true, rest) else (false, octet :: rest)

/-- The digits of an optional fraction. -/
def scanFraction : Bytes → Option (Bytes × Bytes)
  | [] => some ([], [])
  | octet :: rest =>
      if octet = 46 then
        let (digits, rest) := rest.span isDigit
        if digits = [] then none else some (digits, rest)
      else some ([], octet :: rest)

/-- The value of an optional exponent part. -/
def scanExponent : Bytes → Option (Int × Bytes)
  | [] => some (0, [])
  | octet :: rest =>
      if octet = 101 ∨ octet = 69 then
        let (negative, rest) := scanSign 45 rest
        let rest := if negative then rest else (scanSign 43 rest).2
        let (digits, rest) := rest.span isDigit
        if digits = [] then none
        else some (if negative then -(digitsValue digits : Int) else digitsValue digits, rest)
      else some (0, octet :: rest)

/-- The decimal number a text starts with, and the text after it. -/
def scanNumber (text : Bytes) : Option (Decimal × Bytes) :=
  let (negative, text) := scanSign 45 text
  let (whole, text) := text.span isDigit
  if whole = [] ∨ (whole.head? = some 48 ∧ whole ≠ [48]) then none
  else match scanFraction text with
    | none => none
    | some (fraction, text) =>
        match scanExponent text with
        | none => none
        | some (exponent, text) =>
            some (⟨negative, digitsValue (whole ++ fraction), exponent - fraction.length⟩, text)

/-- Nothing a text starts with could continue a number. -/
def Delimits (rest : Bytes) : Prop :=
  ∀ octet, rest.head? = some octet →
    isDigit octet = false ∧ octet ≠ 46 ∧ octet ≠ 101 ∧ octet ≠ 69

theorem delimits_nil : Delimits [] := by
  intro octet h
  simp at h

section Scan

theorem span_digits {digits rest : Bytes} (hdigits : ∀ octet ∈ digits, isDigit octet = true)
    (hrest : ∀ octet, rest.head? = some octet → isDigit octet = false) :
    (digits ++ rest).span isDigit = (digits, rest) := by
  rw [List.span_eq_takeWhile_dropWhile]
  have hstop : rest.takeWhile isDigit = [] ∧ rest.dropWhile isDigit = rest := by
    cases rest with
    | nil => simp
    | cons octet tail =>
        have := hrest octet rfl
        simp [this]
  rw [List.takeWhile_append_of_pos hdigits, List.dropWhile_append_of_pos hdigits, hstop.1, hstop.2,
    List.append_nil]

theorem scanSign_digits {sign : UInt8} (hsign : isDigit sign = false) {digits rest : Bytes}
    (hne : digits ≠ []) (hdigits : ∀ octet ∈ digits, isDigit octet = true) :
    scanSign sign (digits ++ rest) = (false, digits ++ rest) := by
  cases digits with
  | nil => exact absurd rfl hne
  | cons octet tail =>
      have hoctet : octet ≠ sign := by
        intro heq
        have := hdigits octet List.mem_cons_self
        rw [heq, hsign] at this
        cases this
      simp [scanSign, hoctet]

theorem scanFraction_delimits {rest : Bytes} (h : Delimits rest) :
    scanFraction rest = some ([], rest) := by
  cases rest with
  | nil => rfl
  | cons octet tail => simp [scanFraction, (h octet rfl).2.1]

theorem scanExponent_delimits {rest : Bytes} (h : Delimits rest) :
    scanExponent rest = some (0, rest) := by
  cases rest with
  | nil => rfl
  | cons octet tail => simp [scanExponent, (h octet rfl).2.2.1, (h octet rfl).2.2.2]

theorem scanExponent_natText {rest : Bytes} (h : Delimits rest) (n : Nat) :
    scanExponent (101 :: (natText n ++ rest)) = some ((n : Int), rest) := by
  have hdigits : ∀ octet ∈ natText n, isDigit octet = true := fun _ => isDigit_of_mem_natText
  have hminus : scanSign 45 (natText n ++ rest) = (false, natText n ++ rest) :=
    scanSign_digits rfl (natText_ne_nil n) hdigits
  have hplus : scanSign 43 (natText n ++ rest) = (false, natText n ++ rest) :=
    scanSign_digits rfl (natText_ne_nil n) hdigits
  have hspan : (natText n ++ rest).span isDigit = (natText n, rest) :=
    span_digits hdigits fun octet hhead => (h octet hhead).1
  simp only [scanExponent, true_or, if_true, hminus, Bool.false_eq_true, if_false, hplus, hspan,
    natText_ne_nil, digitsValue_natText]

theorem scanFraction_padText {rest : Bytes} (h : Delimits rest) (k n : Nat) :
    scanFraction (46 :: (padText (k + 1) n ++ rest)) = some (padText (k + 1) n, rest) := by
  have hspan : (padText (k + 1) n ++ rest).span isDigit = (padText (k + 1) n, rest) :=
    span_digits (fun _ => isDigit_of_mem_padText) fun octet hhead => (h octet hhead).1
  have hne : padText (k + 1) n ≠ [] := by simp [padText]
  simp only [scanFraction, if_true, hspan, if_neg hne]

/-- After the sign, a whole part and what scans as a fraction and an exponent make a number. -/
theorem scanNumber_parts (negative : Bool) (n : Nat) {tail text rest fraction : Bytes}
    {exponent : Int} (htail : ∀ octet, tail.head? = some octet → isDigit octet = false)
    (hfraction : scanFraction tail = some (fraction, text))
    (hexponent : scanExponent text = some (exponent, rest)) :
    scanNumber ((if negative then [45] else []) ++ (natText n ++ tail)) =
      some (⟨negative, digitsValue (natText n ++ fraction), exponent - fraction.length⟩, rest) := by
  have hdigits : ∀ octet ∈ natText n, isDigit octet = true := fun _ => isDigit_of_mem_natText
  have hsign : scanSign 45 ((if negative then [45] else []) ++ (natText n ++ tail)) =
      (negative, natText n ++ tail) := by
    cases negative with
    | true => simp [scanSign]
    | false =>
        have hplain : scanSign 45 (natText n ++ tail) = (false, natText n ++ tail) :=
          scanSign_digits rfl (natText_ne_nil n) hdigits
        simpa using hplain
  have hwhole : ¬ (natText n = [] ∨ ((natText n).head? = some 48 ∧ natText n ≠ [48])) := by
    rintro (hnil | ⟨hhead, hne⟩)
    · exact natText_ne_nil n hnil
    · exact hne (natText_head n hhead)
  simp only [scanNumber, hsign, span_digits hdigits htail, if_neg hwhole, hfraction, hexponent]

/-- The scanner reads back a decimal from its text. -/
theorem scanNumber_text (d : Decimal) {rest : Bytes} (h : Delimits rest) :
    scanNumber (d.text ++ rest) = some (d, rest) := by
  obtain ⟨negative, mantissa, exponent⟩ := d
  rw [Decimal.text, List.append_assoc]
  match exponent with
  | .ofNat 0 =>
      rw [scanNumber_parts negative mantissa (fun octet hhead => (h octet hhead).1)
        (scanFraction_delimits h) (scanExponent_delimits h)]
      simp [digitsValue_natText]
  | .ofNat (e + 1) =>
      have htail : ∀ octet, (101 :: (natText (e + 1) ++ rest)).head? = some octet →
          isDigit octet = false := by
        intro octet hhead
        cases hhead
        rfl
      have hfraction : scanFraction (101 :: (natText (e + 1) ++ rest)) =
          some ([], 101 :: (natText (e + 1) ++ rest)) := rfl
      simp only [List.append_assoc, List.cons_append]
      rw [scanNumber_parts negative mantissa htail hfraction (scanExponent_natText h (e + 1))]
      simp [digitsValue_natText]
  | .negSucc k =>
      have htail : ∀ octet,
          (46 :: (padText (k + 1) (mantissa % 10 ^ (k + 1)) ++ rest)).head? = some octet →
          isDigit octet = false := by
        intro octet hhead
        cases hhead
        rfl
      simp only [List.append_assoc, List.cons_append]
      rw [scanNumber_parts negative _ htail (scanFraction_padText h k _) (scanExponent_delimits h),
        digitsValue_append_padText, digitsValue_natText, Nat.mod_mod, Nat.div_add_mod']
      simp [Int.negSucc_eq]

end Scan

end Numeral
