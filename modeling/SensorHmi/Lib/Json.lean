import SensorHmi.Lib.Numeral

/-!
# JSON texts

JSON values over octet strings, a writer and a parser of RFC 8259 texts. Numbers are exact
decimals. Strings are octets: the parser checks escapes and control characters but not UTF-8.
Read `parse_render` first: the parser gives back every value from its text.
-/

open Numeral Octets

/-- A JSON value. Members of an object keep their order. -/
inductive Json
  | null
  | bool (value : Bool)
  | num (value : Decimal)
  | str (octets : Bytes)
  | arr (items : List Json)
  | obj (members : List (Bytes × Json))

namespace Json

section Write

/-- An octet of a string as it stands in the text. -/
def escapeOctet (octet : UInt8) : Bytes :=
  if octet = 34 then [92, 34]
  else if octet = 92 then [92, 92]
  else if octet < 32 then 92 :: 117 :: 48 :: 48 :: hexText [octet]
  else [octet]

/-- A string in quotes. -/
def renderString (octets : Bytes) : Bytes :=
  34 :: (octets.flatMap escapeOctet ++ [34])

mutual

/-- The text of a value, without white space. -/
def render : Json → Bytes
  | .null => ascii "null"
  | .bool true => ascii "true"
  | .bool false => ascii "false"
  | .num value => value.text
  | .str octets => renderString octets
  | .arr [] => [91, 93]
  | .arr (item :: items) => 91 :: (render item ++ renderItems items)
  | .obj [] => [123, 125]
  | .obj ((key, value) :: members) =>
      123 :: (renderString key ++ 58 :: (render value ++ renderMembers members))

/-- The items of an array after the first, up to the closing bracket. -/
def renderItems : List Json → Bytes
  | [] => [93]
  | item :: items => 44 :: (render item ++ renderItems items)

/-- The members of an object after the first, up to the closing brace. -/
def renderMembers : List (Bytes × Json) → Bytes
  | [] => [125]
  | (key, value) :: members =>
      44 :: (renderString key ++ 58 :: (render value ++ renderMembers members))

end

/-- A member as it stands after the first. -/
def memberText (member : Bytes × Json) : Bytes :=
  44 :: (renderString member.1 ++ 58 :: render member.2)

/-- The members after the first, one after the other. -/
theorem renderMembers_eq (members : List (Bytes × Json)) :
    renderMembers members = members.flatMap memberText ++ [125] := by
  induction members with
  | nil => rfl
  | cons member rest ih =>
      obtain ⟨key, value⟩ := member
      simp [renderMembers, memberText, ih]

/-- The items after the first, one after the other. -/
theorem renderItems_eq (items : List Json) :
    renderItems items = (items.flatMap fun item => 44 :: render item) ++ [93] := by
  induction items with
  | nil => rfl
  | cons item rest ih => simp [renderItems, ih]

end Write

section Read

/-- White space between tokens. -/
def isSpace (octet : UInt8) : Bool :=
  octet = 32 || octet = 9 || octet = 10 || octet = 13

/-- A text without the white space it starts with. -/
def skipSpace (text : Bytes) : Bytes :=
  text.dropWhile isSpace

/-- A text after the given octet. -/
def expect (octet : UInt8) : Bytes → Option Bytes
  | [] => none
  | first :: rest => if first = octet then some rest else none

/-- The value of four hexadecimal digits. -/
def parseHex4 : Bytes → Option (Nat × Bytes)
  | a :: b :: c :: d :: rest => do
      let a ← hexDigitValue a
      let b ← hexDigitValue b
      let c ← hexDigitValue c
      let d ← hexDigitValue d
      some (((a * 16 + b) * 16 + c) * 16 + d, rest)
  | _ => none

/-- The UTF-8 octets of a code point. -/
def utf8 (codepoint : Nat) : Bytes :=
  if codepoint < 0x80 then [UInt8.ofNat codepoint]
  else if codepoint < 0x800 then
    [UInt8.ofNat (0xC0 + codepoint / 0x40), UInt8.ofNat (0x80 + codepoint % 0x40)]
  else if codepoint < 0x10000 then
    [UInt8.ofNat (0xE0 + codepoint / 0x1000), UInt8.ofNat (0x80 + codepoint / 0x40 % 0x40),
      UInt8.ofNat (0x80 + codepoint % 0x40)]
  else
    [UInt8.ofNat (0xF0 + codepoint / 0x40000), UInt8.ofNat (0x80 + codepoint / 0x1000 % 0x40),
      UInt8.ofNat (0x80 + codepoint / 0x40 % 0x40), UInt8.ofNat (0x80 + codepoint % 0x40)]

/-- What follows `\u`: a code unit, or two that form a surrogate pair. -/
def parseUnicode (text : Bytes) : Option (Bytes × Bytes) := do
  let (unit, rest) ← parseHex4 text
  if unit < 0xD800 ∨ 0xE000 ≤ unit then some (utf8 unit, rest)
  else if 0xDC00 ≤ unit then none
  else
    let rest ← expect 92 rest
    let rest ← expect 117 rest
    let (low, rest) ← parseHex4 rest
    if low < 0xDC00 ∨ 0xE000 ≤ low then none
    else some (utf8 (0x10000 + (unit - 0xD800) * 0x400 + (low - 0xDC00)), rest)

/-- What follows a backslash. -/
def parseEscape : Bytes → Option (Bytes × Bytes)
  | [] => none
  | octet :: rest =>
      if octet = 34 ∨ octet = 92 ∨ octet = 47 then some ([octet], rest)
      else if octet = 98 then some ([8], rest)
      else if octet = 102 then some ([12], rest)
      else if octet = 110 then some ([10], rest)
      else if octet = 114 then some ([13], rest)
      else if octet = 116 then some ([9], rest)
      else if octet = 117 then parseUnicode rest
      else none

/-- The characters of a string up to its closing quote. -/
def parseChars : (fuel : Nat) → Bytes → Option (Bytes × Bytes)
  | 0, _ => none
  | _ + 1, [] => none
  | fuel + 1, octet :: rest =>
      if octet = 34 then some ([], rest)
      else if octet = 92 then do
        let (decoded, rest) ← parseEscape rest
        let (octets, rest) ← parseChars fuel rest
        some (decoded ++ octets, rest)
      else if octet < 32 then none
      else do
        let (octets, rest) ← parseChars fuel rest
        some (octet :: octets, rest)

/-- A string in quotes. -/
def parseString (text : Bytes) : Option (Bytes × Bytes) := do
  let rest ← expect 34 text
  parseChars rest.length rest

/-- The value of a literal name. -/
def parseLiteral (name : Bytes) (value : Json) (text : Bytes) : Option (Json × Bytes) :=
  if name.isPrefixOf text then some (value, text.drop name.length) else none

mutual

/-- The value a text starts with. -/
def parseValue : (fuel : Nat) → Bytes → Option (Json × Bytes)
  | 0, _ => none
  | _ + 1, [] => none
  | fuel + 1, octet :: rest =>
      if octet = 123 then
        match expect 125 (skipSpace rest) with
        | some rest => some (.obj [], rest)
        | none => do
            let (first, rest) ← parseMember fuel (skipSpace rest)
            let (members, rest) ← parseMembers fuel (skipSpace rest)
            some (.obj (first :: members), rest)
      else if octet = 91 then
        match expect 93 (skipSpace rest) with
        | some rest => some (.arr [], rest)
        | none => do
            let (first, rest) ← parseValue fuel (skipSpace rest)
            let (items, rest) ← parseItems fuel (skipSpace rest)
            some (.arr (first :: items), rest)
      else if octet = 34 then do
        let (octets, rest) ← parseString (octet :: rest)
        some (.str octets, rest)
      else if octet = 110 then parseLiteral (ascii "null") .null (octet :: rest)
      else if octet = 116 then parseLiteral (ascii "true") (.bool true) (octet :: rest)
      else if octet = 102 then parseLiteral (ascii "false") (.bool false) (octet :: rest)
      else do
        let (value, rest) ← scanNumber (octet :: rest)
        some (.num value, rest)

/-- The items of an array after the first, up to and with the closing bracket. -/
def parseItems : (fuel : Nat) → Bytes → Option (List Json × Bytes)
  | 0, _ => none
  | fuel + 1, text =>
      match expect 93 text with
      | some rest => some ([], rest)
      | none => do
          let rest ← expect 44 text
          let (item, rest) ← parseValue fuel (skipSpace rest)
          let (items, rest) ← parseItems fuel (skipSpace rest)
          some (item :: items, rest)

/-- A member of an object. -/
def parseMember : (fuel : Nat) → Bytes → Option ((Bytes × Json) × Bytes)
  | 0, _ => none
  | fuel + 1, text => do
      let (key, rest) ← parseString text
      let rest ← expect 58 (skipSpace rest)
      let (value, rest) ← parseValue fuel (skipSpace rest)
      some ((key, value), rest)

/-- The members of an object after the first, up to and with the closing brace. -/
def parseMembers : (fuel : Nat) → Bytes → Option (List (Bytes × Json) × Bytes)
  | 0, _ => none
  | fuel + 1, text =>
      match expect 125 text with
      | some rest => some ([], rest)
      | none => do
          let rest ← expect 44 text
          let (member, rest) ← parseMember fuel (skipSpace rest)
          let (members, rest) ← parseMembers fuel (skipSpace rest)
          some (member :: members, rest)

end

/-- The value of a JSON text: one value, with white space around it and nothing else. -/
def parse (text : Bytes) : Option Json := do
  let (value, rest) ← parseValue text.length (skipSpace text)
  if skipSpace rest = [] then some value else none

end Read

section Strings

/-- An escaped octet reads back as itself. -/
theorem parseChars_escapeOctet (octet : UInt8) {fuel : Nat} {text octets rest : Bytes}
    (h : parseChars fuel text = some (octets, rest)) :
    parseChars (fuel + 1) (escapeOctet octet ++ text) = some (octet :: octets, rest) := by
  unfold escapeOctet
  split_ifs with hquote hbackslash hcontrol
  · subst hquote
    simp [parseChars, parseEscape, h]
  · subst hbackslash
    simp [parseChars, parseEscape, h]
  · have hsmall : octet.toNat < 32 := UInt8.lt_iff_toNat_lt.mp hcontrol
    have hhigh := hexDigitValue_hexDigitUpper (show octet.toNat / 16 < 16 by omega)
    have hlow := hexDigitValue_hexDigitUpper (show octet.toNat % 16 < 16 by omega)
    have hvalue : octet.toNat / 16 * 16 + octet.toNat % 16 = octet.toNat := by omega
    have hhex : parseHex4 (48 :: 48 :: (hexText [octet] ++ text)) = some (octet.toNat, text) := by
      simp [parseHex4, hexText, hhigh, hlow, hvalue, show hexDigitValue 48 = some 0 from rfl]
    have hunicode : parseUnicode (48 :: 48 :: (hexText [octet] ++ text)) =
      some ([octet], text) := by
      simp [parseUnicode, hhex, utf8, show octet.toNat < 0xD800 by omega,
        show octet.toNat < 0x80 by omega]
    simp [parseChars, parseEscape, hunicode, h]
  · simp [parseChars, hquote, hbackslash, hcontrol, h]

theorem length_escapeOctet_pos (octet : UInt8) : 0 < (escapeOctet octet).length := by
  unfold escapeOctet
  split_ifs <;> simp

/-- The characters of a written string read back, with enough fuel. -/
theorem parseChars_flatMap (octets rest : Bytes) {fuel : Nat}
    (hfuel : (octets.flatMap escapeOctet).length < fuel) :
    parseChars fuel (octets.flatMap escapeOctet ++ 34 :: rest) = some (octets, rest) := by
  induction octets generalizing fuel with
  | nil =>
      obtain ⟨fuel, rfl⟩ : ∃ n, fuel = n + 1 := ⟨fuel - 1, by simp at hfuel; omega⟩
      simp [parseChars]
  | cons octet tail ih =>
      have hpos := length_escapeOctet_pos octet
      simp only [List.flatMap_cons, List.length_append] at hfuel
      obtain ⟨fuel, rfl⟩ : ∃ n, fuel = n + 1 := ⟨fuel - 1, by omega⟩
      rw [List.flatMap_cons, List.append_assoc]
      exact parseChars_escapeOctet octet (ih (by omega))

theorem parseString_renderString (octets rest : Bytes) :
    parseString (renderString octets ++ rest) = some (octets, rest) := by
  have hchars : parseChars (octets.flatMap escapeOctet ++ 34 :: rest).length
      (octets.flatMap escapeOctet ++ 34 :: rest) = some (octets, rest) :=
    parseChars_flatMap octets rest (by simp)
  simpa [parseString, renderString, expect] using hchars

/-- A string of octets that need no escape stands in its text as it is. -/
theorem renderString_plain {octets : Bytes}
    (h : ∀ octet ∈ octets, octet ≠ 34 ∧ octet ≠ 92 ∧ 32 ≤ octet) :
    renderString octets = 34 :: (octets ++ [34]) := by
  have hself : octets.flatMap escapeOctet = octets := by
    induction octets with
    | nil => rfl
    | cons octet tail ih =>
        obtain ⟨hquote, hbackslash, hprint⟩ := h octet List.mem_cons_self
        have hcontrol : ¬ octet < 32 := by
          rw [UInt8.lt_iff_toNat_lt]
          rw [UInt8.le_iff_toNat_le] at hprint
          omega
        rw [List.flatMap_cons, ih fun other hmem => h other (List.mem_cons_of_mem _ hmem)]
        simp [escapeOctet, hquote, hbackslash, hcontrol]
  rw [renderString, hself]

end Strings

section RoundTrip

theorem skipSpace_cons {octet : UInt8} {rest : Bytes} (h : isSpace octet = false) :
    skipSpace (octet :: rest) = octet :: rest := by
  simp [skipSpace, h]

/-- The text of a decimal starts with a minus sign or a digit. -/
theorem decimal_text_head (d : Decimal) :
    ∃ octet tail, d.text = octet :: tail ∧ (octet = 45 ∨ isDigit octet = true) := by
  have hdigits : ∀ n, ∃ octet tail, natText n = octet :: tail ∧ isDigit octet = true := by
    intro n
    cases htext : natText n with
    | nil => exact absurd htext (natText_ne_nil n)
    | cons octet tail =>
        exact ⟨octet, tail, rfl, isDigit_of_mem_natText (htext ▸ List.mem_cons_self)⟩
  obtain ⟨negative, mantissa, exponent⟩ := d
  cases negative with
  | true => exact ⟨45, _, rfl, Or.inl rfl⟩
  | false =>
      match exponent with
      | .ofNat 0 =>
          obtain ⟨octet, tail, htext, hdigit⟩ := hdigits mantissa
          exact ⟨octet, tail, by simp [Decimal.text, htext], Or.inr hdigit⟩
      | .ofNat (e + 1) =>
          obtain ⟨octet, tail, htext, hdigit⟩ := hdigits mantissa
          exact ⟨octet, _, by simp only [Decimal.text, htext]; rfl, Or.inr hdigit⟩
      | .negSucc k =>
          obtain ⟨octet, tail, htext, hdigit⟩ := hdigits (mantissa / 10 ^ (k + 1))
          exact ⟨octet, _, by simp only [Decimal.text, htext]; rfl, Or.inr hdigit⟩

/-- An octet a decimal can start with starts no other token. -/
theorem decimal_head_ne {octet : UInt8} (h : octet = 45 ∨ isDigit octet = true) :
    octet ≠ 123 ∧ octet ≠ 91 ∧ octet ≠ 34 ∧ octet ≠ 110 ∧ octet ≠ 116 ∧ octet ≠ 102 ∧
      octet ≠ 93 ∧ isSpace octet = false := by
  rcases h with rfl | hdigit
  · decide
  · have hlow : 48 ≤ octet.toNat := by
      have := (Bool.and_eq_true_iff.mp hdigit).1
      simpa [UInt8.le_iff_toNat_le] using this
    have hhigh : octet.toNat ≤ 57 := by
      have := (Bool.and_eq_true_iff.mp hdigit).2
      simpa [UInt8.le_iff_toNat_le] using this
    simp only [isSpace, ne_eq, ← UInt8.toNat_inj, Bool.or_eq_false_iff, decide_eq_false_iff_not]
    refine ⟨?_, ?_, ?_, ?_, ?_, ?_, ?_, ⟨⟨?_, ?_⟩, ?_⟩, ?_⟩ <;>
      (intro heq; rw [heq] at hlow hhigh; revert hlow hhigh; decide)

/-- The first octet of a text is no white space and no closing bracket. -/
theorem render_head (value : Json) :
    ∃ octet tail, render value = octet :: tail ∧ isSpace octet = false ∧ octet ≠ 93 := by
  match value with
  | .null => exact ⟨_, _, rfl, rfl, by decide⟩
  | .bool true => exact ⟨_, _, rfl, rfl, by decide⟩
  | .bool false => exact ⟨_, _, rfl, rfl, by decide⟩
  | .num d =>
      obtain ⟨octet, tail, htext, hhead⟩ := decimal_text_head d
      obtain ⟨-, -, -, -, -, -, hbracket, hspace⟩ := decimal_head_ne hhead
      exact ⟨octet, tail, by rw [render, htext], hspace, hbracket⟩
  | .str octets => exact ⟨34, _, by rw [render, renderString], rfl, by decide⟩
  | .arr [] => exact ⟨91, _, by rw [render], rfl, by decide⟩
  | .arr (item :: items) => exact ⟨91, _, by rw [render], rfl, by decide⟩
  | .obj [] => exact ⟨123, _, by rw [render], rfl, by decide⟩
  | .obj ((key, value) :: members) => exact ⟨123, _, by rw [render], rfl, by decide⟩

theorem skipSpace_render (value : Json) (rest : Bytes) :
    skipSpace (render value ++ rest) = render value ++ rest := by
  obtain ⟨octet, tail, htext, hspace, -⟩ := render_head value
  rw [htext, List.cons_append, skipSpace_cons hspace]

theorem expect_render (value : Json) (rest : Bytes) : expect 93 (render value ++ rest) = none := by
  obtain ⟨octet, tail, htext, -, hbracket⟩ := render_head value
  simp [htext, expect, hbracket]

theorem skipSpace_renderItems (items : List Json) (rest : Bytes) :
    skipSpace (renderItems items ++ rest) = renderItems items ++ rest := by
  cases items <;> simp only [renderItems] <;> exact skipSpace_cons rfl

theorem delimits_renderItems (items : List Json) (rest : Bytes) :
    Delimits (renderItems items ++ rest) := by
  intro octet h
  cases items <;> (simp only [renderItems] at h; cases h; decide)

theorem skipSpace_renderMembers (members : List (Bytes × Json)) (rest : Bytes) :
    skipSpace (renderMembers members ++ rest) = renderMembers members ++ rest := by
  cases members <;> simp only [renderMembers] <;> exact skipSpace_cons rfl

theorem delimits_renderMembers (members : List (Bytes × Json)) (rest : Bytes) :
    Delimits (renderMembers members ++ rest) := by
  intro octet h
  cases members <;> (simp only [renderMembers] at h; cases h; decide)

/-- A member reads back when its value does. -/
theorem parseMember_of_value (key : Bytes) {value : Json} {fuel : Nat} {rest : Bytes}
    (h : parseValue fuel (render value ++ rest) = some (value, rest)) :
    parseMember (fuel + 1) (renderString key ++ 58 :: (render value ++ rest)) =
      some ((key, value), rest) := by
  simp [parseMember, parseString_renderString, skipSpace_cons, isSpace, expect, skipSpace_render, h]

mutual

/-- A value reads back from its text, with fuel for every octet of the text. -/
theorem parseValue_render (value : Json) (fuel : Nat) (rest : Bytes)
    (hfuel : (render value).length ≤ fuel) (hrest : Delimits rest) :
    parseValue fuel (render value ++ rest) = some (value, rest) := by
  obtain ⟨octet, tail, hhead, -⟩ := render_head value
  obtain ⟨fuel, rfl⟩ : ∃ n, fuel = n + 1 :=
    ⟨fuel - 1, by simp only [hhead, List.length_cons] at hfuel; omega⟩
  match value with
  | .null => simp [render, ascii, parseValue, parseLiteral]
  | .bool true => simp [render, ascii, parseValue, parseLiteral]
  | .bool false => simp [render, ascii, parseValue, parseLiteral]
  | .num d =>
      obtain ⟨first, more, htext, hfirst⟩ := decimal_text_head d
      obtain ⟨hbrace, hbracket, hquote, hn, ht, hf, -, -⟩ := decimal_head_ne hfirst
      have hscan := scanNumber_text d hrest
      rw [htext, List.cons_append] at hscan
      rw [render, htext, List.cons_append]
      simp only [parseValue, if_neg hbrace, if_neg hbracket, if_neg hquote, if_neg hn, if_neg ht,
        if_neg hf, hscan]
      rfl
  | .str octets =>
      have hstring := parseString_renderString octets rest
      rw [renderString, List.cons_append] at hstring
      simp [render, renderString, parseValue] at hstring ⊢
      simp [hstring]
  | .arr [] => simp [render, parseValue, skipSpace_cons, isSpace, expect]
  | .arr (item :: items) =>
      simp only [render, List.length_cons, List.length_append] at hfuel
      have hitem := parseValue_render item fuel (renderItems items ++ rest) (by omega)
        (delimits_renderItems items rest)
      have hitems := parseItems_render items fuel rest (by omega)
      simp [render, parseValue, skipSpace_render, expect_render, hitem, skipSpace_renderItems,
        hitems]
  | .obj [] => simp [render, parseValue, skipSpace_cons, isSpace, expect]
  | .obj ((key, item) :: members) =>
      simp only [render, List.length_cons, List.length_append] at hfuel
      have hkey : 0 < (renderString key).length := by simp [renderString]
      obtain ⟨fuel, rfl⟩ : ∃ n, fuel = n + 1 := ⟨fuel - 1, by omega⟩
      have hitem := parseValue_render item fuel (renderMembers members ++ rest) (by omega)
        (delimits_renderMembers members rest)
      have hmember := parseMember_of_value key hitem
      have hmembers := parseMembers_render members (fuel + 1) rest (by omega)
      have hskip : skipSpace (renderString key ++ 58 :: (render item ++
          (renderMembers members ++ rest))) =
            renderString key ++ 58 :: (render item ++ (renderMembers members ++ rest)) :=
        skipSpace_cons rfl
      have hexpect : expect 125 (renderString key ++ 58 :: (render item ++
          (renderMembers members ++ rest))) = none := rfl
      simp [render, parseValue, hskip, hexpect, hmember, skipSpace_renderMembers, hmembers]

/-- The items after the first read back, up to and with the closing bracket. -/
theorem parseItems_render (items : List Json) (fuel : Nat) (rest : Bytes)
    (hfuel : (renderItems items).length ≤ fuel) :
    parseItems fuel (renderItems items ++ rest) = some (items, rest) := by
  match items with
  | [] =>
      obtain ⟨fuel, rfl⟩ : ∃ n, fuel = n + 1 :=
        ⟨fuel - 1, by simp only [renderItems, List.length_cons] at hfuel; omega⟩
      simp [renderItems, parseItems, expect]
  | item :: items =>
      simp only [renderItems, List.length_cons, List.length_append] at hfuel
      obtain ⟨fuel, rfl⟩ : ∃ n, fuel = n + 1 := ⟨fuel - 1, by omega⟩
      have hitem := parseValue_render item fuel (renderItems items ++ rest) (by omega)
        (delimits_renderItems items rest)
      have hitems := parseItems_render items fuel rest (by omega)
      simp [renderItems, parseItems, expect, skipSpace_render, hitem, skipSpace_renderItems, hitems]

/-- The members after the first read back, up to and with the closing brace. -/
theorem parseMembers_render (members : List (Bytes × Json)) (fuel : Nat) (rest : Bytes)
    (hfuel : (renderMembers members).length ≤ fuel) :
    parseMembers fuel (renderMembers members ++ rest) = some (members, rest) := by
  match members with
  | [] =>
      obtain ⟨fuel, rfl⟩ : ∃ n, fuel = n + 1 :=
        ⟨fuel - 1, by simp only [renderMembers, List.length_cons] at hfuel; omega⟩
      simp [renderMembers, parseMembers, expect]
  | (key, item) :: members =>
      simp only [renderMembers, List.length_cons, List.length_append] at hfuel
      have hkey : 0 < (renderString key).length := by simp [renderString]
      obtain ⟨fuel, rfl⟩ : ∃ n, fuel = n + 2 := ⟨fuel - 2, by omega⟩
      have hitem := parseValue_render item fuel (renderMembers members ++ rest) (by omega)
        (delimits_renderMembers members rest)
      have hmember := parseMember_of_value key hitem
      have hmembers := parseMembers_render members (fuel + 1) rest (by omega)
      have hskip : skipSpace (renderString key ++ 58 :: (render item ++
          (renderMembers members ++ rest))) =
            renderString key ++ 58 :: (render item ++ (renderMembers members ++ rest)) :=
        skipSpace_cons rfl
      rw [renderMembers, parseMembers]
      simp [expect, hskip, hmember, skipSpace_renderMembers, hmembers]

end

/-- The parser gives back every value from its text. -/
theorem parse_render (value : Json) : parse (render value) = some value := by
  have hvalue := parseValue_render value (render value).length [] le_rfl delimits_nil
  have hskip := skipSpace_render value []
  rw [List.append_nil] at hvalue hskip
  rw [parse, hskip, hvalue]
  rfl

end RoundTrip

section Reject

/-- A parser fails on a text, whatever fuel it has beyond the length of the text. -/
def Fails {α : Type} (parser : (fuel : Nat) → Bytes → Option α) (text : Bytes) : Prop :=
  ∀ fuel, text.length ≤ fuel → parser fuel text = none

variable {bad : Bytes}

/-- A member fails where its value does. -/
theorem fails_member (key : Bytes) (hskip : skipSpace bad = bad) (h : Fails parseValue bad) :
    Fails parseMember (renderString key ++ 58 :: bad) := by
  intro fuel hfuel
  cases fuel with
  | zero => rfl
  | succ fuel =>
      simp only [List.length_append, List.length_cons] at hfuel
      have hvalue := h fuel (by omega)
      simp [parseMember, parseString_renderString, skipSpace_cons, isSpace, expect, hskip, hvalue]

/-- An object fails where the members after the first do. -/
theorem fails_object_rest (key : Bytes) (value : Json) (hskip : skipSpace bad = bad)
    (hdelim : Delimits bad) (h : Fails parseMembers bad) :
    Fails parseValue (123 :: (renderString key ++ 58 :: (render value ++ bad))) := by
  intro fuel hfuel
  have hkey : 0 < (renderString key).length := by simp [renderString]
  simp only [List.length_cons, List.length_append] at hfuel
  obtain ⟨fuel, rfl⟩ : ∃ n, fuel = n + 2 := ⟨fuel - 2, by omega⟩
  have hvalue := parseValue_render value fuel bad (by omega) hdelim
  have hmember := parseMember_of_value key hvalue
  have hmembers := h (fuel + 1) (by omega)
  have hstart : skipSpace (renderString key ++ 58 :: (render value ++ bad)) =
      renderString key ++ 58 :: (render value ++ bad) := skipSpace_cons rfl
  have hexpect : expect 125 (renderString key ++ 58 :: (render value ++ bad)) = none := rfl
  simp [parseValue, hstart, hexpect, hmember, hskip, hmembers]

/-- Members fail where the first of them does. -/
theorem fails_members_first (key : Bytes) {rest : Bytes}
    (h : Fails parseMember (renderString key ++ rest)) :
    Fails parseMembers (44 :: (renderString key ++ rest)) := by
  intro fuel hfuel
  cases fuel with
  | zero => rfl
  | succ fuel =>
      simp only [List.length_cons] at hfuel
      have hmember := h fuel (by omega)
      have hskip : skipSpace (renderString key ++ rest) = renderString key ++ rest :=
        skipSpace_cons rfl
      simp [parseMembers, expect, hskip, hmember]

/-- Members fail where those after the first do. -/
theorem fails_members_rest (member : Bytes × Json) (hskip : skipSpace bad = bad)
    (hdelim : Delimits bad) (h : Fails parseMembers bad) :
    Fails parseMembers (memberText member ++ bad) := by
  obtain ⟨key, value⟩ := member
  intro fuel hfuel
  have hkey : 0 < (renderString key).length := by simp [renderString]
  simp only [memberText, List.length_cons, List.length_append] at hfuel
  obtain ⟨fuel, rfl⟩ : ∃ n, fuel = n + 2 := ⟨fuel - 2, by omega⟩
  have hvalue := parseValue_render value fuel bad (by omega) hdelim
  have hmember := parseMember_of_value key hvalue
  have hmembers := h (fuel + 1) (by omega)
  have hstart : skipSpace (renderString key ++ 58 :: (render value ++ bad)) =
      renderString key ++ 58 :: (render value ++ bad) := skipSpace_cons rfl
  rw [memberText, List.cons_append, List.append_assoc, List.cons_append, parseMembers]
  simp [expect, hstart, hmember, hskip, hmembers]

/-- An array fails where its first item does. -/
theorem fails_array_first (hskip : skipSpace bad = bad) (hexpect : expect 93 bad = none)
    (h : Fails parseValue bad) : Fails parseValue (91 :: bad) := by
  intro fuel hfuel
  cases fuel with
  | zero => rfl
  | succ fuel =>
      simp only [List.length_cons] at hfuel
      have hitem := h fuel (by omega)
      simp [parseValue, hskip, hexpect, hitem]

/-- An array fails where the items after the first do. -/
theorem fails_array_rest (item : Json) (hskip : skipSpace bad = bad) (hdelim : Delimits bad)
    (h : Fails parseItems bad) : Fails parseValue (91 :: (render item ++ bad)) := by
  intro fuel hfuel
  cases fuel with
  | zero => rfl
  | succ fuel =>
      simp only [List.length_cons, List.length_append] at hfuel
      have hitem := parseValue_render item fuel bad (by omega) hdelim
      have hitems := h fuel (by omega)
      simp [parseValue, skipSpace_render, expect_render, hitem, hskip, hitems]

/-- Items fail where the first of them does. -/
theorem fails_items_first (hskip : skipSpace bad = bad) (h : Fails parseValue bad) :
    Fails parseItems (44 :: bad) := by
  intro fuel hfuel
  cases fuel with
  | zero => rfl
  | succ fuel =>
      simp only [List.length_cons] at hfuel
      have hitem := h fuel (by omega)
      simp [parseItems, expect, hskip, hitem]

/-- Items fail where those after the first do. -/
theorem fails_items_rest (item : Json) (hskip : skipSpace bad = bad) (hdelim : Delimits bad)
    (h : Fails parseItems bad) : Fails parseItems (44 :: (render item ++ bad)) := by
  intro fuel hfuel
  cases fuel with
  | zero => rfl
  | succ fuel =>
      simp only [List.length_cons, List.length_append] at hfuel
      have hitem := parseValue_render item fuel bad (by omega) hdelim
      have hitems := h fuel (by omega)
      simp [parseItems, expect, skipSpace_render, hitem, hskip, hitems]

/-- A text fails where its value does. -/
theorem parse_eq_none (hskip : skipSpace bad = bad) (h : Fails parseValue bad) :
    parse bad = none := by
  rw [parse, hskip, h bad.length le_rfl]
  rfl

end Reject

end Json
