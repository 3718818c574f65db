import SensorHmi.Proto.JsonDecode

/-!
# ROM codes as text

What `parse_rom` of `common/proto/messages.c` accepts and writes. The scanner skips white space and
takes a sign or a single digit for a pair, and what it has written stays when a later pair fails:
`parseRom_eq_strictRom_iff` says when the result is that of a strict parser.
-/

namespace SensorHmi

open Octets Numeral

variable (romStr : Bytes)

/-- The first sixteen characters are hexadecimal digits. -/
def HexRom : Prop :=
  16 ≤ romStr.length ∧ ∀ i < 16, (hexDigitValue (romStr.getD i 0)).isSome

instance : Decidable (HexRom romStr) :=
  inferInstanceAs (Decidable (_ ∧ _))

/-- The value of a pair of digits. -/
def romPair (i : Nat) : Nat :=
  16 * (hexDigitValue (romStr.getD (2 * i) 0)).getD 0 +
    (hexDigitValue (romStr.getD (2 * i + 1) 0)).getD 0

/-- A strict parser: all sixteen digits, or nothing. -/
def strictRom (out : Vector UInt8 8) : Bool × Vector UInt8 8 :=
  if HexRom romStr then (true, Vector.ofFn fun i => UInt8.ofNat (romPair romStr i))
  else (false, out)

/-- What the scanner makes of the text from pair `i` on. -/
def scanPair (i : Nat) : Option Nat :=
  sscanfHex2 (romStr.drop (2 * i))

/-- A pair fails, and the pairs before it scan to what is there already. -/
def FailsUnwritten (out : Vector UInt8 8) : Prop :=
  ∃ k < 8, scanPair romStr k = none ∧
    ∀ i : Fin 8, i.val < k → (scanPair romStr i).map UInt8.ofNat = some (out.get i)

section Scan

variable {romStr} {octet first second : UInt8}

theorem not_space_of_hex (h : (hexDigitValue octet).isSome) :
    isCSpace octet = false ∧ octet ≠ 45 ∧ octet ≠ 43 := by
  have hlow : 48 ≤ octet.toNat := by
    unfold hexDigitValue isDigit at h
    split_ifs at h with hdigit hupper hlower
    · exact UInt8.le_iff_toNat_le.mp (by simpa using (Bool.and_eq_true_iff.mp hdigit).1)
    · exact le_trans (by decide) (UInt8.le_iff_toNat_le.mp hupper.1)
    · exact le_trans (by decide) (UInt8.le_iff_toNat_le.mp hlower.1)
    · cases h
  refine ⟨?_, ?_, ?_⟩
  · have hspace : octet ≠ 32 := by
      rintro rfl
      exact absurd hlow (by decide)
    have hcontrol : ¬ octet ≤ 13 := fun hle =>
      absurd (hlow.trans (UInt8.le_iff_toNat_le.mp hle)) (by decide)
    simp [isCSpace, hspace, hcontrol]
  · rintro rfl
    exact absurd hlow (by decide)
  · rintro rfl
    exact absurd hlow (by decide)

/-- Two digits are scanned as their value. -/
theorem sscanfHex2_pair (hfirst : (hexDigitValue first).isSome)
    (hsecond : (hexDigitValue second).isSome) (rest : Bytes) :
    sscanfHex2 (first :: second :: rest) =
      some (16 * (hexDigitValue first).getD 0 + (hexDigitValue second).getD 0) := by
  obtain ⟨hspace, hminus, hplus⟩ := not_space_of_hex hfirst
  obtain ⟨high, hhigh⟩ := Option.isSome_iff_exists.mp hfirst
  obtain ⟨low, hlow⟩ := Option.isSome_iff_exists.mp hsecond
  rw [sscanfHex2]
  simp [hspace, scanSign, hminus, hplus, hhigh, hlow]

theorem scanPair_of_hex (h : HexRom romStr) {i : Nat} (hi : i < 8) :
    scanPair romStr i = some (romPair romStr i) := by
  obtain ⟨hlength, hdigits⟩ := h
  have hfirst := hdigits (2 * i) (by omega)
  have hsecond := hdigits (2 * i + 1) (by omega)
  rw [List.getD_eq_getElem _ _ (by omega)] at hfirst hsecond
  rw [scanPair, List.drop_eq_getElem_cons (by omega), List.drop_eq_getElem_cons (by omega),
    sscanfHex2_pair hfirst hsecond, romPair, List.getD_eq_getElem _ _ (by omega),
    List.getD_eq_getElem _ _ (by omega)]

/-- The loop writes the pairs that are scanned before the first that is not. -/
theorem parseRomFrom_eq {out : Vector UInt8 8} {i n todo : Nat} (hn : n ≤ todo)
    (hscanned : ∀ j, i ≤ j → j < i + n → (scanPair romStr j).isSome)
    (hend : n < todo → scanPair romStr (i + n) = none) :
    (parseRomFrom romStr out i todo).1 = decide (n = todo) ∧ ∀ j : Fin 8,
      (parseRomFrom romStr out i todo).2.get j =
        if i ≤ j.val ∧ j.val < i + n then UInt8.ofNat ((scanPair romStr j).getD 0)
        else out.get j := by
  induction todo generalizing out i n with
  | zero =>
      obtain rfl : n = 0 := by omega
      refine ⟨rfl, fun j => ?_⟩
      rw [if_neg (by omega)]
      rfl
  | succ todo ih =>
      cases n with
      | zero =>
          have hfails : sscanfHex2 (romStr.drop (2 * i)) = none := hend (by omega)
          rw [parseRomFrom, hfails]
          refine ⟨by simp, fun j => ?_⟩
          rw [if_neg (by omega)]
      | succ n =>
          obtain ⟨value, hvalue⟩ := Option.isSome_iff_exists.mp (hscanned i le_rfl (by omega))
          have hscan : sscanfHex2 (romStr.drop (2 * i)) = some value := hvalue
          obtain ⟨hresult, hwritten⟩ := @ih (out.setIfInBounds i (UInt8.ofNat value)) (i + 1) n
            (by omega) (fun j hle hlt => hscanned j (by omega) (by omega)) (fun hlt => by
              have := hend (by omega)
              rwa [Nat.add_assoc, Nat.add_comm 1 n])
          rw [parseRomFrom, hscan]
          refine ⟨by simpa using hresult, fun j => ?_⟩
          show (parseRomFrom romStr _ (i + 1) todo).2.get j = _
          rw [hwritten j]
          by_cases hsame : j.val = i
          · rw [if_neg (by omega), if_pos (by omega), hsame, hvalue]
            simp [Vector.get_eq_getElem, hsame]
          · have hother : (out.setIfInBounds i (UInt8.ofNat value)).get j = out.get j := by
              simp [Vector.get_eq_getElem, Ne.symm hsame]
            rw [hother]
            congr 1
            exact propext (by omega)

end Scan

/-- A text is parsed strictly and atomically exactly when it is too short, has sixteen digits, or
has a pair that fails and before it only pairs that are there already. -/
theorem parseRom_eq_strictRom_iff (romStr : Bytes) (out : Vector UInt8 8) :
    parseRom romStr out = strictRom romStr out ↔
      romStr.length < 16 ∨ HexRom romStr ∨ FailsUnwritten romStr out := by
  by_cases hshort : romStr.length < 16
  · have hnot : ¬ HexRom romStr := fun h => absurd h.1 (by omega)
    rw [parseRom, if_pos hshort, strictRom, if_neg hnot]
    exact iff_of_true rfl (Or.inl hshort)
  rw [parseRom, if_neg hshort]
  by_cases hhex : HexRom romStr
  · have hscanned (j : Nat) (hj : j < 8) := scanPair_of_hex hhex hj
    obtain ⟨hresult, hwritten⟩ := @parseRomFrom_eq romStr out 0 8 8 le_rfl
      (fun j _ hj => by rw [hscanned j (by omega)]; rfl) (fun h => absurd h (by omega))
    refine iff_of_true ?_ (Or.inr (Or.inl hhex))
    rw [strictRom, if_pos hhex]
    refine Prod.ext (by simpa using hresult) (Vector.ext fun j hj => ?_)
    have hget := hwritten ⟨j, hj⟩
    rw [if_pos (by omega), hscanned j hj] at hget
    simpa [Vector.get_eq_getElem] using hget
  rw [strictRom, if_neg hhex]
  constructor
  · intro hsame
    refine Or.inr (Or.inr ?_)
    have hfails : ∃ k, k < 8 ∧ scanPair romStr k = none := by
      by_contra hnone
      obtain ⟨hresult, -⟩ := @parseRomFrom_eq romStr out 0 8 8 le_rfl
        (fun j _ hj => Option.ne_none_iff_isSome.mp fun h => hnone ⟨j, by omega, h⟩)
        (fun h => absurd h (by omega))
      rw [hsame] at hresult
      simp at hresult
    -- the first pair that fails
    obtain ⟨k, ⟨hk, hnone⟩, hleast⟩ :
        ∃ k, (k < 8 ∧ scanPair romStr k = none) ∧
          ∀ j < k, ¬ (j < 8 ∧ scanPair romStr j = none) :=
      ⟨Nat.find hfails, Nat.find_spec hfails, fun j => Nat.find_min hfails⟩
    have hbefore (j : Nat) (hj : j < k) : (scanPair romStr j).isSome :=
      Option.ne_none_iff_isSome.mp fun h => hleast j hj ⟨by omega, h⟩
    obtain ⟨-, hwritten⟩ := @parseRomFrom_eq romStr out 0 k 8 hk.le
      (fun j _ hj => hbefore j (by omega)) (fun _ => by rwa [Nat.zero_add])
    refine ⟨k, hk, hnone, fun i hi => ?_⟩
    obtain ⟨value, hvalue⟩ := Option.isSome_iff_exists.mp (hbefore i hi)
    have hget := hwritten i
    rw [hsame, if_pos (by omega), hvalue] at hget
    rw [hvalue, hget]
    rfl
  · rintro (hlt | hdigits | ⟨k, hk, hnone, hunwritten⟩)
    · exact absurd hlt hshort
    · exact absurd hdigits hhex
    · have hbefore (j : Nat) (hj : j < k) : (scanPair romStr j).isSome := by
        have hmap := hunwritten ⟨j, by omega⟩ hj
        cases hscan : scanPair romStr j with
        | none => simp [hscan] at hmap
        | some value => rfl
      obtain ⟨hresult, hwritten⟩ := @parseRomFrom_eq romStr out 0 k 8 hk.le
        (fun j _ hj => hbefore j (by omega)) (fun _ => by rwa [Nat.zero_add])
      refine Prod.ext (by simpa [hk.ne] using hresult) (Vector.ext fun j hj => ?_)
      have hget := hwritten ⟨j, hj⟩
      rw [Vector.get_eq_getElem] at hget
      refine hget.trans ?_
      split_ifs with hin
      · have hlt : j < k := by simpa using hin.2
        obtain ⟨value, hvalue⟩ := Option.isSome_iff_exists.mp (hbefore j hlt)
        have hmap := hunwritten ⟨j, hj⟩ hlt
        rw [hvalue] at hmap
        rw [hvalue]
        exact Option.some.inj hmap
      · rfl

/-- A text that starts with blanks and signs is accepted. -/
theorem signs_accepted :
    parseRom (ascii " 1 2 3 4-1-2-3-4") (Vector.replicate 8 0) =
        (true, #v[0x01, 0x02, 0x03, 0x04, 0xFF, 0xFE, 0xFD, 0xFC]) ∧
      strictRom (ascii " 1 2 3 4-1-2-3-4") (Vector.replicate 8 0) =
        (false, Vector.replicate 8 0) := by
  decide

end SensorHmi
