import SensorHmi.Lib.Cbor

/-!
# The CBOR parser

tinycbor is a parameter. `Tinycbor` lists the calls the decoders make: a call that returns an
error leaves its iterator where it was, and a call that moves on gets nearer to the end of the
payload. On the encoding of an item, `At` says which items an iterator has in front of it, level
by level, and the calls do there what their documentation says.
-/

namespace SensorHmi

open Cbor

/-- The calls of tinycbor on iterators `ι`; none is an error. -/
structure Tinycbor (ι : Type) where
  /-- `cbor_parser_init` -/
  parserInit : Bytes → Option ι
  /-- `cbor_value_is_map` -/
  isMap : ι → Bool
  /-- `cbor_value_at_end` -/
  atEnd : ι → Bool
  /-- `cbor_value_enter_container` -/
  enterContainer : ι → Option ι
  /-- `cbor_value_leave_container` -/
  leaveContainer : (outer inner : ι) → Option ι
  /-- `cbor_value_copy_text_string` with `next`; an error carries what it left in the buffer. -/
  copyTextString : ι → (size : Nat) → Except Bytes (Bytes × ι)
  /-- `cbor_value_get_uint64` -/
  getUint64 : ι → Option UInt64
  /-- `cbor_value_get_double` -/
  getDouble : ι → Option Float
  /-- `cbor_value_get_boolean` -/
  getBoolean : ι → Option Bool
  /-- `cbor_value_advance` -/
  advance : ι → Option ι
  /-- The octets in front of an iterator. -/
  left : ι → Nat
  left_enter : ∀ {it inner : ι}, enterContainer it = some inner → left inner < left it
  left_leave : ∀ {outer inner next : ι}, leaveContainer outer inner = some next →
    left next ≤ left inner
  left_copy : ∀ {it next : ι} {size : Nat} {text : Bytes},
    copyTextString it size = .ok (text, next) → left next < left it
  left_advance : ∀ {it next : ι}, advance it = some next → left next < left it
  /-- The items an iterator has in front of it, from its own container outwards. -/
  At : ι → List Level → Prop
  at_init : ∀ {item : Item}, Fits item →
    ∃ it, parserInit (encode item) = some it ∧ At it [([item], false)]
  at_isMap : ∀ {it : ι} {broken indefinite : Bool} {inside items : List Item} {levels : List Level},
    At it ((.map broken inside :: items, indefinite) :: levels) → isMap it = true
  at_atEnd : ∀ {it : ι} {items : List Item} {indefinite : Bool} {levels : List Level},
    At it ((items, indefinite) :: levels) → (atEnd it = true ↔ items = [])
  at_enterArray : ∀ {it : ι} {inside items : List Item} {indefinite : Bool} {levels : List Level},
    At it ((.array inside :: items, indefinite) :: levels) →
      ∃ inner, enterContainer it = some inner ∧
        At inner ((inside, false) :: (items, indefinite) :: levels)
  at_enterMap : ∀ {it : ι} {broken indefinite : Bool} {inside items : List Item}
    {levels : List Level}, At it ((.map broken inside :: items, indefinite) :: levels) →
      ∃ inner, enterContainer it = some inner ∧
        At inner ((inside, broken) :: (items, indefinite) :: levels)
  at_leave : ∀ {outer inner : ι} {item : Item} {items : List Item} {broken indefinite : Bool}
    {levels : List Level}, At outer ((item :: items, indefinite) :: levels) →
      At inner (([], broken) :: (items, indefinite) :: levels) →
        ∃ next, leaveContainer outer inner = some next ∧ At next ((items, indefinite) :: levels)
  at_advance : ∀ {it : ι} {item : Item} {items : List Item} {indefinite : Bool}
    {levels : List Level}, At it ((item :: items, indefinite) :: levels) →
      ∃ next, advance it = some next ∧ At next ((items, indefinite) :: levels)
  at_advanceEnd : ∀ {it : ι} {indefinite : Bool} {levels : List Level},
    At it (([], indefinite) :: levels) → advance it = none
  at_copy : ∀ {it : ι} {octets : Bytes} {size : Nat} {items : List Item} {indefinite : Bool}
    {levels : List Level}, At it ((.text octets :: items, indefinite) :: levels) →
      octets.length ≤ size →
        ∃ next, copyTextString it size = .ok (octets, next) ∧
          At next ((items, indefinite) :: levels)
  at_copyOther : ∀ {it : ι} {item : Item} {size : Nat} {items : List Item} {indefinite : Bool}
    {levels : List Level}, At it ((item :: items, indefinite) :: levels) →
      (∀ octets, item ≠ .text octets) → copyTextString it size = .error []
  at_getUint64 : ∀ {it : ι} {value : UInt64} {items : List Item} {indefinite : Bool}
    {levels : List Level}, At it ((.uint value :: items, indefinite) :: levels) →
      getUint64 it = some value

/-- The tinycbor whose iterators are cursors. -/
def Tinycbor.cursor : Tinycbor Cursor where
  parserInit := Cursor.start
  isMap := Cursor.isMap
  atEnd := Cursor.atEnd
  enterContainer := Cursor.enter
  leaveContainer := Cursor.leave
  copyTextString := Cursor.copyText
  getUint64 := Cursor.uint64
  getDouble := Cursor.double
  getBoolean := Cursor.boolean
  advance := Cursor.advance
  left cursor := cursor.rest.length
  left_enter := Cursor.enter_length
  left_leave := Cursor.leave_length
  left_copy := Cursor.copyText_length
  left_advance := Cursor.advance_length
  At := Cursor.At
  at_init := Cursor.start_encode
  at_isMap := Cursor.isMap_of_at
  at_atEnd := Cursor.atEnd_of_at
  at_enterArray := Cursor.enter_array
  at_enterMap := Cursor.enter_map
  at_leave := Cursor.leave_of_at
  at_advance := Cursor.advance_of_at
  at_advanceEnd := Cursor.advance_end
  at_copy := Cursor.copyText_of_at
  at_copyOther h hitem := Cursor.copyText_other hitem h
  at_getUint64 := Cursor.uint64_of_at

end SensorHmi
