import SensorHmi.Util.Base32Utils

/-!
# The texts the Base32 decoder takes

Encodings with letters in either case, blanks anywhere, and all or none of the padding
(`IsVariant`). The decoder inverts them (`base32_decode_inverts`). It does not look at the number of
symbols, nor at what follows the first `=`, so it takes other texts as well: `base32_accepts_iff`.
-/

namespace SensorHmi

open Octets Base32 Printed

/-- A text without its blanks. -/
def withoutSpace (text : Bytes) : Bytes :=
  text.filter fun c => !isSpace c

/-- The text is an encoding of the octets, up to the case of letters and blanks anywhere, with its
padding or without. -/
def IsVariant (octets text : Bytes) : Prop :=
  (withoutSpace text).map toUpper = encode octets ∨
    (withoutSpace text).map toUpper = unpadded octets

/-- From the first `=` on, without blanks. -/
def paddingOf (text : Bytes) : Bytes :=
  (withoutSpace text).dropWhile (· ≠ pad)

/-- What follows this many symbols is nothing, or completes them to a multiple of eight. -/
def WellPadded (symbols : Nat) (padding : Bytes) : Prop :=
  padding = [] ∨ padding = List.replicate ((8 - symbols % 8) % 8) pad

section Variants

variable {octets text symbols : Bytes} {ds : List Nat}

/-- The digits of symbols are those of their characters in upper case. -/
theorem mapM_decodeChar_iff :
    symbols.mapM decodeChar = some ds ↔
      (∀ digit ∈ ds, digit < 32) ∧ symbols.map toUpper = ds.map character := by
  induction symbols generalizing ds with
  | nil =>
      rw [List.mapM_nil]
      constructor
      · intro hds
        cases hds
        exact ⟨fun _ hmem => (List.not_mem_nil hmem).elim, rfl⟩
      · rintro ⟨-, hds⟩
        rw [List.map_eq_nil_iff.mp hds.symm]
        rfl
  | cons c rest ih =>
      have hcons : (c :: rest).mapM decodeChar = (decodeChar c).bind fun digit =>
          (rest.mapM decodeChar).map (digit :: ·) := by
        rw [List.mapM_cons]
        cases decodeChar c with
        | none => rfl
        | some digit => cases rest.mapM decodeChar <;> rfl
      rw [hcons, Option.bind_eq_some_iff]
      constructor
      · rintro ⟨digit, hdigit, hrest⟩
        obtain ⟨more, hmore, rfl⟩ := Option.map_eq_some_iff.mp hrest
        obtain ⟨hlt, hchar⟩ := decodeChar_eq_some_iff.mp hdigit
        obtain ⟨hall, hmap⟩ := ih.mp hmore
        refine ⟨fun other hmem => ?_, ?_⟩
        · rcases List.mem_cons.mp hmem with rfl | hold
          · exact hlt
          · exact hall other hold
        · rw [List.map_cons, List.map_cons, hchar, hmap]
      · rintro ⟨hall, hmap⟩
        cases ds with
        | nil => cases hmap
        | cons digit more =>
            obtain ⟨hchar, htail⟩ := List.cons.inj hmap
            refine ⟨digit, decodeChar_eq_some_iff.mpr ⟨hall digit List.mem_cons_self, hchar⟩, ?_⟩
            rw [ih.mpr ⟨fun other hmem => hall other (List.mem_cons_of_mem _ hmem), htail⟩]
            rfl

/-- Changing the case of letters does not move the first `=`. -/
theorem ne_pad_comp_toUpper :
    ((fun c : UInt8 => decide (c ≠ pad)) ∘ toUpper) = fun c => decide (c ≠ pad) := by
  funext c
  simp only [Function.comp_apply, ne_eq, toUpper_eq_pad_iff]

theorem map_toUpper_symbolsOf (text : Bytes) :
    (symbolsOf text).map toUpper = ((withoutSpace text).map toUpper).takeWhile (· ≠ pad) := by
  rw [List.takeWhile_map, ne_pad_comp_toUpper]
  rfl

theorem map_toUpper_paddingOf (text : Bytes) :
    (paddingOf text).map toUpper = ((withoutSpace text).map toUpper).dropWhile (· ≠ pad) := by
  rw [List.dropWhile_map, ne_pad_comp_toUpper]
  rfl

theorem symbolsOf_append_paddingOf (text : Bytes) :
    symbolsOf text ++ paddingOf text = withoutSpace text :=
  List.takeWhile_append_dropWhile

/-- Only padding is padding in upper case. -/
theorem map_toUpper_eq_replicate_iff {padding : Bytes} {count : Nat} :
    padding.map toUpper = List.replicate count pad ↔ padding = List.replicate count pad := by
  rw [List.eq_replicate_iff, List.eq_replicate_iff, List.length_map, List.forall_mem_map]
  simp only [toUpper_eq_pad_iff]

/-- The symbols of a variant are the digits of the octets, and its padding is complete or absent. -/
theorem isVariant_iff :
    IsVariant octets text ↔
      (symbolsOf text).mapM decodeChar = some (digits (digitCount octets.length) (value octets)) ∧
        WellPadded (digitCount octets.length) (paddingOf text) := by
  have hsymbols : (symbolsOf text).mapM decodeChar =
      some (digits (digitCount octets.length) (value octets)) ↔
        (symbolsOf text).map toUpper = unpadded octets := by
    rw [mapM_decodeChar_iff, unpadded_eq, and_iff_right fun _ => lt_of_mem_digits]
  have hencode : encode octets = unpadded octets ++ List.replicate (padCount octets.length)
    pad := by
    rw [encode_eq, unpadded_eq]
  have htext : (withoutSpace text).map toUpper =
      (symbolsOf text).map toUpper ++ (paddingOf text).map toUpper := by
    rw [← List.map_append, symbolsOf_append_paddingOf]
  have hnone : (unpadded octets).dropWhile (· ≠ pad) = [] :=
    List.dropWhile_eq_nil_iff.mpr fun c hmem => decide_eq_true (ne_pad_of_mem_unpadded hmem)
  have hwhole : (unpadded octets).takeWhile (· ≠ pad) = unpadded octets :=
    List.takeWhile_eq_self_iff.mpr fun c hmem => decide_eq_true (ne_pad_of_mem_unpadded hmem)
  have hpadding : (encode octets).dropWhile (· ≠ pad) =
      List.replicate (padCount octets.length) pad :=
    List.append_cancel_left (List.takeWhile_append_dropWhile.trans hencode)
  rw [hsymbols, WellPadded, ← padCount]
  constructor
  · rintro (hcomplete | habsent)
    · rw [map_toUpper_symbolsOf, hcomplete, unpadded]
      refine ⟨rfl, Or.inr (map_toUpper_eq_replicate_iff.mp ?_)⟩
      rw [map_toUpper_paddingOf, hcomplete, hpadding]
    · rw [map_toUpper_symbolsOf, habsent, hwhole]
      have hempty : (paddingOf text).map toUpper = [] := by
        rw [map_toUpper_paddingOf, habsent, hnone]
      exact ⟨rfl, Or.inl (List.map_eq_nil_iff.mp hempty)⟩
  · rintro ⟨hmap, habsent | hcomplete⟩
    · right
      rw [htext, hmap, habsent, List.map_nil, List.append_nil]
    · left
      rw [htext, hmap, map_toUpper_eq_replicate_iff.mpr hcomplete, hencode]

/-- A text is a variant of some encoding exactly when it has a possible number of symbols with
nothing left over, and its padding is complete or absent. -/
theorem exists_isVariant_iff (hdigits : (symbolsOf text).mapM decodeChar = some ds) :
    (∃ octets, IsVariant octets text) ↔
      leftover ds = 0 ∧ PossibleCount ds.length ∧ WellPadded ds.length (paddingOf text) := by
  constructor
  · rintro ⟨octets, hvariant⟩
    obtain ⟨hsame, hpadded⟩ := isVariant_iff.mp hvariant
    obtain ⟨hcount, -, hleft⟩ := octetsOf_digits octets
    rw [hdigits] at hsame
    rw [Option.some.inj hsame]
    refine ⟨hleft, hcount, ?_⟩
    rw [length_digits]
    exact hpadded
  · rintro ⟨hleft, hcount, hpadded⟩
    have hlt := (mapM_decodeChar_iff.mp hdigits).1
    have hsame := digits_octetsOf hlt hcount hleft
    refine ⟨octetsOf ds, isVariant_iff.mpr ⟨?_, ?_⟩⟩
    · rw [hsame, hdigits]
    · rw [← length_digits (digitCount (octetsOf ds).length) (value (octetsOf ds)), hsame]
      exact hpadded

/-- A variant has no NUL. -/
theorem IsVariant.cString_eq (h : IsVariant octets text) : cString text = text := by
  refine cString_eq_self fun c hmem hzero => ?_
  have hkept : toUpper c ∈ (withoutSpace text).map toUpper := by
    refine List.mem_map_of_mem (List.mem_filter.mpr ⟨hmem, ?_⟩)
    rw [hzero]
    rfl
  have hencode : toUpper c ∈ encode octets := by
    rcases h with hcomplete | habsent
    · rwa [hcomplete] at hkept
    · rw [habsent] at hkept
      exact (List.takeWhile_prefix _).subset hkept
  apply ne_zero_of_mem_encode hencode
  rw [hzero]
  rfl

end Variants

section Decode

variable (octets text input : Bytes) (output : Nat → UInt8) (outSize : Nat) (outLen : Option Nat)

/-- The decoder inverts every encoding, in whatever case, with blanks and with or without padding;
where the octets do not fit it says so and stores nothing behind the buffer. -/
theorem base32_decode_inverts (h : IsVariant octets text) :
    let result := base32UtilsDecode text output outSize outLen
    (octets.length ≤ outSize →
      result.err = .ok ∧ (∀ i, (hi : i < octets.length) → result.output i = octets.get ⟨i, hi⟩) ∧
        (∀ i, octets.length ≤ i → result.output i = output i) ∧
        result.outLen = outLen.map fun _ => octets.length) ∧
      (outSize < octets.length →
        result.err = .noMem ∧ (∀ i, outSize ≤ i → result.output i = output i) ∧
          result.outLen = outLen) := by
  intro result
  obtain ⟨hdigits, -⟩ := isVariant_iff.mp h
  obtain ⟨-, hoctets, hleft⟩ := octetsOf_digits octets
  rw [← h.cString_eq] at hdigits
  have hlength : octets.length =
    5 * (digits (digitCount octets.length) (value octets)).length / 8 := by
    rw [← length_octetsOf, hoctets]
  constructor
  · intro hfits
    have hresult : result = _ := base32UtilsDecode_ok hdigits (by omega)
    rw [if_pos hleft, hoctets, ← hlength] at hresult
    rw [hresult]
    refine ⟨rfl, fun i hi => ?_, fun i hi => ?_, rfl⟩
    · have hstored := @Printed.store_inside _ output 0 octets i hi
      rwa [Nat.zero_add] at hstored
    · exact store_outside (Or.inr (by omega))
  · intro hsmall
    obtain ⟨hnoMem, -, houtside⟩ := @base32UtilsDecode_fails text output outSize outLen
    obtain ⟨herr, hlen⟩ := hnoMem _ hdigits (by omega)
    exact ⟨herr, houtside, hlen⟩

/-- `f` decoded from `m y`. -/
theorem base32_decode_inverts_f :
    (base32UtilsDecode [109, 32, 121] (fun _ => 0) 4 (some 7)).outLen = some 1 :=
  ((base32_decode_inverts [102] [109, 32, 121] (fun _ => 0) 4 (some 7)
    (Or.inr (by decide))).1 (by decide)).2.2.2

/-- With room for all octets, the decoder takes no other text exactly when the digits with nothing
left over have a possible number and are followed by complete padding or none: it looks at neither.
-/
theorem base32_accepts_iff (hroom : 5 * (symbolsOf (cString input)).length / 8 ≤ outSize) :
    ((base32UtilsDecode input output outSize outLen).err = .ok ↔
        ∃ octets, IsVariant octets (cString input)) ↔
      ∀ ds, (symbolsOf (cString input)).mapM decodeChar = some ds → leftover ds = 0 →
        PossibleCount ds.length ∧ WellPadded ds.length (paddingOf (cString input)) := by
  cases hdigits : (symbolsOf (cString input)).mapM decodeChar with
  | none =>
      have herr := (@base32UtilsDecode_fails input output outSize outLen).2.1 hdigits
      constructor
      · intro _ ds hds
        cases hds
      · intro _
        refine iff_of_false herr ?_
        rintro ⟨octets, hvariant⟩
        rw [(isVariant_iff.mp hvariant).1] at hdigits
        cases hdigits
  | some ds =>
      have hlength : ds.length = (symbolsOf (cString input)).length := by
        have hmap := congrArg List.length (mapM_decodeChar_iff.mp hdigits).2
        rwa [List.length_map, List.length_map, eq_comm] at hmap
      rw [base32UtilsDecode_ok hdigits (by rwa [hlength]), exists_isVariant_iff hdigits]
      by_cases hleft : leftover ds = 0
      · rw [if_pos hleft]
        constructor
        · intro hsame other hother _
          rw [← Option.some.inj hother]
          exact (hsame.mp rfl).2
        · intro hall
          exact iff_of_true rfl ⟨hleft, hall ds rfl hleft⟩
      · rw [if_neg hleft]
        constructor
        · intro _ other hother hzero
          rw [← Option.some.inj hother] at hzero
          exact absurd hzero hleft
        · intro _
          exact iff_of_false (fun herr => by cases herr) fun hvariant => hleft hvariant.1

/-- `my` is taken, and it is an encoding. -/
theorem base32_accepts_iff_my :
    (base32UtilsDecode [109, 121] (fun _ => 0) 4 none).err = .ok ↔
      ∃ octets, IsVariant octets (cString [109, 121]) := by
  refine (base32_accepts_iff [109, 121] (fun _ => 0) 4 none (by decide)).mpr fun ds hdigits _ => ?_
  have hds : [12, 24] = ds := Option.some.inj hdigits
  rw [← hds]
  exact ⟨by decide, Or.inl rfl⟩

/-- A single `A` is taken, and it encodes nothing. -/
theorem base32_accepts_one_symbol :
    ¬((base32UtilsDecode [65] (fun _ => 0) 4 none).err = .ok ↔
      ∃ octets, IsVariant octets (cString [65])) := by
  intro hsame
  obtain ⟨-, hcount, -⟩ := (exists_isVariant_iff rfl).mp (hsame.mp rfl)
  exact absurd hcount (by decide)

/-- Complete padding behind a possible number of symbols is not looked at: text may follow it. -/
example : (base32UtilsDecode [77, 89, 61, 33] (fun _ => 0) 4 none).err = .ok := by decide

end Decode

end SensorHmi
