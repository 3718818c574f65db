import SensorHmi.Lib.Octets

/-!
# CBOR

Data items and their encoding, with the shortest head for every length and number, and a cursor
that walks over encoded items. The cursor refuses what it cannot read: tags, strings in chunks and
truncated items. `skipItems_encodeAll` says that it steps over exactly what was encoded.
-/

namespace Cbor

open Octets

/-- A data item. The members of a map are keys and values in turn; a map of indefinite length ends
with a break. -/
inductive Item
  | uint (value : UInt64)
  | text (octets : Bytes)
  | single (value : Float32)
  | bool (value : Bool)
  | array (items : List Item)
  | map (indefinite : Bool) (members : List Item)

/-- The head of an item: its major type and its argument. -/
def head (major argument : Nat) : Bytes :=
  if argument < 24 then [UInt8.ofNat (32 * major + argument)]
  else if argument < 2 ^ 8 then UInt8.ofNat (32 * major + 24) :: beBytes 1 argument
  else if argument < 2 ^ 16 then UInt8.ofNat (32 * major + 25) :: beBytes 2 argument
  else if argument < 2 ^ 32 then UInt8.ofNat (32 * major + 26) :: beBytes 4 argument
  else UInt8.ofNat (32 * major + 27) :: beBytes 8 argument

mutual

/-- The encoding of an item. -/
def encode : Item → Bytes
  | .uint value => head 0 value.toNat
  | .text octets => head 3 octets.length ++ octets
  | .single value => 0xFA :: beBytes 4 value.toBits.toNat
  | .bool value => [if value then 0xF5 else 0xF4]
  | .array items => head 4 items.length ++ encodeAll items
  | .map true members => 0xBF :: (encodeAll members ++ [0xFF])
  | .map false members => head 5 (members.length / 2) ++ encodeAll members

/-- Items one after the other. -/
def encodeAll : List Item → Bytes
  | [] => []
  | item :: rest => encode item ++ encodeAll rest

end

mutual

/-- Lengths fit a head, and a map has a value for every key. -/
def Fits : Item → Prop
  | .text octets => octets.length < 2 ^ 64
  | .array items => items.length < 2 ^ 64 ∧ AllFit items
  | .map _ members => members.length < 2 ^ 64 ∧ members.length % 2 = 0 ∧ AllFit members
  | _ => True

/-- Every item fits. -/
def AllFit : List Item → Prop
  | [] => True
  | item :: rest => Fits item ∧ AllFit rest

end

theorem allFit_of_forall {items : List Item} (h : ∀ item ∈ items, Fits item) : AllFit items := by
  induction items with
  | nil => trivial
  | cons item rest ih =>
      exact ⟨h item (by simp), ih fun other hmem => h other (by simp [hmem])⟩

/-- Reads a head: the major type, the argument (none for an indefinite length) and what follows. -/
def readHead : Bytes → Option (Nat × Option Nat × Bytes)
  | [] => none
  | octet :: rest =>
      let major := octet.toNat / 32
      let info := octet.toNat % 32
      if info < 24 then some (major, some info, rest)
      else if info < 28 then
        let width := 2 ^ (info - 24)
        if width ≤ rest.length then some (major, some (ofBe (rest.take width)), rest.drop width)
        else none
      else if info = 31 then some (major, none, rest)
      else none

/-- What follows the body of an item, given its head; `skip` steps over the items inside it. -/
def skipBody (skip : Option Nat → Bytes → Option Bytes) :
    (major : Nat) → (argument : Option Nat) → Bytes → Option Bytes
  | 2, some length, rest | 3, some length, rest =>
      if length ≤ rest.length then some (rest.drop length) else none
  | 4, length, rest => skip length rest
  | 5, length, rest => skip (length.map (2 * ·)) rest
  | 6, _, _ => none
  | _, some _, rest => some rest
  | _, none, _ => none

/-- Steps over a number of items, or over items up to and including a break. -/
def skipItems : (fuel : Nat) → (count : Option Nat) → Bytes → Option Bytes
  | 0, _, _ => none
  | fuel + 1, count, octets =>
      if count = some 0 then some octets
      else if count = none ∧ octets.head? = some 0xFF then some octets.tail
      else match readHead octets with
        | none => none
        | some (major, argument, rest) =>
            (skipBody (skipItems fuel) major argument rest).bind
              (skipItems fuel (count.map (· - 1)))

section Length

mutual

/-- A bound of the length of an encoding: nine octets for every head. -/
def bound : Item → Nat
  | .uint _ | .single _ | .bool _ => 9
  | .text octets => 9 + octets.length
  | .array items => 9 + boundAll items
  | .map _ members => 9 + boundAll members

/-- A bound of the length of items one after the other. -/
def boundAll : List Item → Nat
  | [] => 0
  | item :: rest => bound item + boundAll rest

end

theorem length_head_le (major argument : Nat) : (head major argument).length ≤ 9 := by
  unfold head
  split_ifs <;> simp

mutual

theorem length_encode_le : ∀ item : Item, (encode item).length ≤ bound item
  | .uint value => length_head_le 0 value.toNat
  | .text octets => by
      have hhead := length_head_le 3 octets.length
      simp only [encode, bound, List.length_append]
      omega
  | .single value => by simp [encode, bound]
  | .bool value => by simp [encode, bound]
  | .array items => by
      have hhead := length_head_le 4 items.length
      have hitems := length_encodeAll_le items
      simp only [encode, bound, List.length_append]
      omega
  | .map true members => by
      have hmembers := length_encodeAll_le members
      simp only [encode, bound, List.length_cons, List.length_append, List.length_nil]
      omega
  | .map false members => by
      have hhead := length_head_le 5 (members.length / 2)
      have hmembers := length_encodeAll_le members
      simp only [encode, bound, List.length_append]
      omega

theorem length_encodeAll_le : ∀ items : List Item, (encodeAll items).length ≤ boundAll items
  | [] => le_rfl
  | item :: rest => by
      have hitem := length_encode_le item
      have hrest := length_encodeAll_le rest
      simp only [encodeAll, boundAll, List.length_append]
      omega

end

/-- Items with a common bound. -/
theorem boundAll_le {items : List Item} (most : Nat) (h : ∀ item ∈ items, bound item ≤ most) :
    boundAll items ≤ items.length * most := by
  induction items with
  | nil => simp [boundAll]
  | cons item rest ih =>
      have hitem := h item List.mem_cons_self
      have hrest := ih fun other hmem => h other (List.mem_cons_of_mem _ hmem)
      simp only [boundAll, List.length_cons, Nat.succ_mul]
      omega

end Length

section Heads

/-- A head whose argument has a field of its own. -/
theorem readHead_field {major info width argument : Nat} (hmajor : major < 8) (hlow : 24 ≤ info)
    (hinfo : info < 28) (hwidth : width = 2 ^ (info - 24)) (h : argument < 256 ^ width)
    (rest : Bytes) :
    readHead (UInt8.ofNat (32 * major + info) :: (beBytes width argument ++ rest)) =
      some (major, some argument, rest) := by
  have hoctet : (UInt8.ofNat (32 * major + info)).toNat = 32 * major + info := by
    rw [UInt8.toNat_ofNat']
    omega
  have hmod : (32 * major + info) % 32 = info := by omega
  have hdiv : (32 * major + info) / 32 = major := by omega
  have hlength : (beBytes width argument).length = width := length_beBytes width argument
  have hfits : width ≤ (beBytes width argument ++ rest).length := by
    rw [List.length_append]
    omega
  have htake : (beBytes width argument ++ rest).take width = beBytes width argument :=
    List.take_left' hlength
  have hdrop : (beBytes width argument ++ rest).drop width = rest := List.drop_left' hlength
  simp only [readHead, hoctet, hmod, hdiv]
  rw [if_neg (by omega), if_pos hinfo, ← hwidth, if_pos hfits, htake, hdrop, ofBe_beBytes,
    Nat.mod_eq_of_lt h]

theorem readHead_head {major argument : Nat} (hmajor : major < 8) (h : argument < 2 ^ 64)
    (rest : Bytes) :
      readHead (head major argument ++ rest) = some (major, some argument, rest) := by
  unfold head
  split_ifs with h24 h8 h16 h32
  · have hoctet : (UInt8.ofNat (32 * major + argument)).toNat = 32 * major + argument := by
      rw [UInt8.toNat_ofNat']
      omega
    have hmod : (32 * major + argument) % 32 = argument := by omega
    have hdiv : (32 * major + argument) / 32 = major := by omega
    simp only [List.cons_append, List.nil_append, readHead, hoctet, hmod, hdiv, if_pos h24]
  · exact readHead_field hmajor (by omega) (by omega) rfl h8 rest
  · exact readHead_field hmajor (by omega) (by omega) rfl h16 rest
  · exact readHead_field hmajor (by omega) (by omega) rfl h32 rest
  · exact readHead_field hmajor (by omega) (by omega) rfl h rest

theorem readHead_single (value : Float32) (rest : Bytes) :
    readHead (encode (.single value) ++ rest) = some (7, some value.toBits.toNat, rest) := by
  have hoctet : (0xFA : UInt8) = UInt8.ofNat (32 * 7 + 26) := rfl
  rw [encode, List.cons_append, hoctet]
  exact readHead_field (by omega) (by omega) (by omega) rfl value.toBits.toNat_lt rest

/-- The first octet of a head shows its major type. -/
theorem head_eq_cons (major argument : Nat) :
    ∃ info rest, info < 28 ∧ head major argument = UInt8.ofNat (32 * major + info) :: rest := by
  unfold head
  split_ifs with h24
  · exact ⟨argument, [], by omega, rfl⟩
  · exact ⟨24, _, by omega, rfl⟩
  · exact ⟨25, _, by omega, rfl⟩
  · exact ⟨26, _, by omega, rfl⟩
  · exact ⟨27, _, by omega, rfl⟩

/-- No item starts with a break. -/
theorem encode_eq_cons (item : Item) : ∃ octet rest, octet ≠ 0xFF ∧ encode item = octet ::
    rest := by
  have hmajor : ∀ major argument : Nat, major < 6 → ∀ more : Bytes,
      ∃ octet rest, octet ≠ 0xFF ∧ head major argument ++ more = octet :: rest := by
    intro major argument hlt more
    obtain ⟨info, rest, hinfo, heq⟩ := head_eq_cons major argument
    refine ⟨_, rest ++ more, ?_, by rw [heq]; rfl⟩
    intro hbreak
    have hvalue := congrArg UInt8.toNat hbreak
    rw [UInt8.toNat_ofNat'] at hvalue
    have : (0xFF : UInt8).toNat = 255 := rfl
    omega
  cases item with
  | uint value => simpa only [encode, List.append_nil] using hmajor 0 value.toNat (by omega) []
  | text octets => exact hmajor 3 _ (by omega) _
  | single value => exact ⟨0xFA, _, by decide, rfl⟩
  | bool value => cases value <;> exact ⟨_, [], by decide, rfl⟩
  | array items => exact hmajor 4 _ (by omega) _
  | map indefinite members =>
      cases indefinite with
      | true => exact ⟨0xBF, _, by decide, rfl⟩
      | false => exact hmajor 5 _ (by omega) _

theorem length_encode_pos (item : Item) : 0 < (encode item).length := by
  obtain ⟨octet, rest, -, heq⟩ := encode_eq_cons item
  rw [heq]
  exact Nat.succ_pos _

theorem length_head_pos (major argument : Nat) : 0 < (head major argument).length := by
  obtain ⟨info, rest, -, heq⟩ := head_eq_cons major argument
  rw [heq]
  exact Nat.succ_pos _

end Heads

section Skip

variable {fuel : Nat} {count : Option Nat}

/-- The head and the body of an item that is stepped over, with the rest of the items after it. -/
theorem skipItems_step {octets rest after : Bytes} {major : Nat} {argument : Option Nat}
    (hcount : count ≠ some 0) (hbreak : octets.head? ≠ some 0xFF)
    (hhead : readHead octets = some (major, argument, rest))
    (hbody : skipBody (skipItems fuel) major argument rest = some after) :
    skipItems (fuel + 1) count octets = skipItems fuel (count.map (· - 1)) after := by
  rw [skipItems, if_neg hcount, if_neg fun h => hbreak h.2, hhead]
  dsimp only
  rw [hbody]
  rfl

theorem skipItems_zero (octets : Bytes) : skipItems (fuel + 1) (some 0) octets = some octets := by
  rw [skipItems, if_pos rfl]

mutual

/-- The cursor steps over an encoded item, whatever follows it. -/
theorem skipItems_encode (item : Item) (hfits : Fits item) (fuel : Nat) (count : Option Nat)
    (tail : Bytes) (hcount : count ≠ some 0) (hfuel : (encode item ++ tail).length ≤ fuel) :
    skipItems (fuel + 1) count (encode item ++ tail) =
      skipItems fuel (count.map (· - 1)) tail := by
  have hbreak : (encode item ++ tail).head? ≠ some 0xFF := by
    obtain ⟨octet, rest, hne, heq⟩ := encode_eq_cons item
    rw [heq]
    exact fun h => hne (Option.some.inj h)
  cases item with
  | uint value =>
      refine skipItems_step hcount hbreak (readHead_head (by omega) ?_ tail) rfl
      exact value.toNat_lt
  | text octets =>
      have hhead : readHead (encode (.text octets) ++ tail) =
          some (3, some octets.length, octets ++ tail) := by
        rw [encode, List.append_assoc]
        exact readHead_head (by omega) hfits _
      refine skipItems_step hcount hbreak hhead ?_
      show (if octets.length ≤ (octets ++ tail).length then some ((octets ++ tail).drop _)
        else none) =
        some tail
      rw [if_pos (by simp), List.drop_left]
  | single value =>
      exact skipItems_step hcount hbreak (readHead_single value tail) rfl
  | bool value =>
      cases value with
      | true => exact skipItems_step hcount hbreak (by rfl) rfl
      | false => exact skipItems_step hcount hbreak (by rfl) rfl
  | array items =>
      have hhead : readHead (encode (.array items) ++ tail) =
          some (4, some items.length, encodeAll items ++ tail) := by
        rw [encode, List.append_assoc]
        exact readHead_head (by omega) hfits.1 _
      refine skipItems_step hcount hbreak hhead ?_
      have hpos := length_head_pos 4 items.length
      refine skipItems_encodeAll items hfits.2 fuel tail ?_
      simp only [encode, List.length_append] at hfuel ⊢
      omega
  | map indefinite members =>
      cases indefinite with
      | true =>
          have hhead : readHead (encode (.map true members) ++ tail) =
              some (5, none, encodeAll members ++ 0xFF :: tail) := by
            rw [encode, List.cons_append, List.append_assoc]
            rfl
          refine skipItems_step hcount hbreak hhead ?_
          refine skipItems_encodeAll_break members hfits.2.2 fuel tail ?_
          simp only [encode, List.length_append, List.length_cons, List.length_nil] at hfuel ⊢
          omega
      | false =>
          have hhead : readHead (encode (.map false members) ++ tail) =
              some (5, some (members.length / 2), encodeAll members ++ tail) := by
            rw [encode, List.append_assoc]
            exact readHead_head (by omega) (by have := hfits.1; omega) _
          refine skipItems_step hcount hbreak hhead ?_
          have hpos := length_head_pos 5 (members.length / 2)
          have hpairs : 2 * (members.length / 2) = members.length := by
            have := hfits.2.1
            omega
          show skipItems fuel (some (2 * (members.length / 2))) _ = some tail
          rw [hpairs]
          refine skipItems_encodeAll members hfits.2.2 fuel tail ?_
          simp only [encode, List.length_append] at hfuel ⊢
          omega

/-- The cursor steps over as many items as there are. -/
theorem skipItems_encodeAll (items : List Item) (hfits : AllFit items) (fuel : Nat)
    (tail : Bytes) (hfuel : (encodeAll items ++ tail).length < fuel) :
    skipItems fuel (some items.length) (encodeAll items ++ tail) = some tail := by
  cases items with
  | nil =>
      obtain ⟨fuel, rfl⟩ := Nat.exists_eq_succ_of_ne_zero (Nat.ne_of_gt (Nat.zero_lt_of_lt hfuel))
      exact skipItems_zero tail
  | cons item rest =>
      obtain ⟨fuel, rfl⟩ := Nat.exists_eq_succ_of_ne_zero (Nat.ne_of_gt (Nat.zero_lt_of_lt hfuel))
      have hpos := length_encode_pos item
      simp only [encodeAll, List.length_append, List.append_assoc] at hfuel ⊢
      rw [skipItems_encode item hfits.1 fuel _ _ (by simp)
        (by simp only [List.length_append]; omega)]
      refine skipItems_encodeAll rest hfits.2 fuel tail ?_
      simp only [List.length_append]
      omega

/-- The cursor steps over items up to and including the break after them. -/
theorem skipItems_encodeAll_break (items : List Item) (hfits : AllFit items) (fuel : Nat)
    (tail : Bytes) (hfuel : (encodeAll items ++ 0xFF :: tail).length < fuel) :
    skipItems fuel none (encodeAll items ++ 0xFF :: tail) = some tail := by
  cases items with
  | nil =>
      obtain ⟨fuel, rfl⟩ := Nat.exists_eq_succ_of_ne_zero (Nat.ne_of_gt (Nat.zero_lt_of_lt hfuel))
      rw [skipItems, if_neg (by simp), if_pos ⟨rfl, rfl⟩]
      rfl
  | cons item rest =>
      obtain ⟨fuel, rfl⟩ := Nat.exists_eq_succ_of_ne_zero (Nat.ne_of_gt (Nat.zero_lt_of_lt hfuel))
      have hpos := length_encode_pos item
      simp only [encodeAll, List.length_append, List.append_assoc] at hfuel ⊢
      rw [skipItems_encode item hfits.1 fuel _ _ (by simp)
        (by simp only [List.length_append]; omega)]
      refine skipItems_encodeAll_break rest hfits.2 fuel tail ?_
      simp only [List.length_append]
      omega

end

end Skip

/-- A place in a byte string inside a container: what follows it, and how many items of the
container are left, none when it ends with a break. -/
structure Cursor where
  rest : Bytes
  remaining : Option Nat
  deriving DecidableEq

namespace Cursor

/-- The end of the container is reached. -/
def atEnd (cursor : Cursor) : Bool :=
  cursor.remaining = some 0 ∨ (cursor.remaining = none ∧ cursor.rest.head? = some 0xFF)

/-- The cursor after an item, unless the string ends inside the container. -/
def settle (rest : Bytes) (remaining : Option Nat) : Option Cursor :=
  if remaining ≠ some 0 ∧ rest = [] then none else some ⟨rest, remaining⟩

/-- The first item of a string. -/
def start (octets : Bytes) : Option Cursor :=
  settle octets (some 1)

/-- The head of the item at the cursor. -/
def headAt (cursor : Cursor) : Option (Nat × Option Nat × Bytes) :=
  if cursor.atEnd then none else readHead cursor.rest

/-- The item at the cursor is a map. -/
def isMap (cursor : Cursor) : Bool :=
  match cursor.headAt with
  | some (5, _, _) => true
  | _ => false

/-- The first place inside the container at the cursor. -/
def enter (cursor : Cursor) : Option Cursor :=
  match cursor.headAt with
  | some (4, length, rest) => settle rest length
  | some (5, length, rest) => settle rest (length.map (2 * ·))
  | _ => none

/-- The cursor after the container that the inner cursor has reached the end of. -/
def leave (outer inner : Cursor) : Option Cursor :=
  if inner.atEnd then
    settle (if inner.remaining = none then inner.rest.tail else inner.rest)
      (outer.remaining.map (· - 1))
  else none

/-- The cursor after the item. -/
def advance (cursor : Cursor) : Option Cursor :=
  if cursor.atEnd then none
  else match skipItems (cursor.rest.length + 2) (some 1) cursor.rest with
    | none => none
    | some rest => settle rest (cursor.remaining.map (· - 1))

/-- The text at the cursor and the cursor after it. A text that does not fit leaves what does; a
string that ends behind the text leaves all of it. -/
def copyText (cursor : Cursor) (size : Nat) : Except Bytes (Bytes × Cursor) :=
  match cursor.headAt with
  | some (3, some length, rest) =>
      if rest.length < length then .error []
      else if size < length then .error (rest.take size)
      else match settle (rest.drop length) (cursor.remaining.map (· - 1)) with
        | none => .error (rest.take length)
        | some next => .ok (rest.take length, next)
  | _ => .error []

/-- The unsigned number at the cursor. -/
def uint64 (cursor : Cursor) : Option UInt64 :=
  match cursor.headAt with
  | some (0, some value, _) => some (UInt64.ofNat value)
  | _ => none

/-- The double-precision number at the cursor. -/
def double (cursor : Cursor) : Option Float :=
  match cursor.headAt with
  | some (7, some bits, _) =>
      if cursor.rest.head? = some 0xFB then some (.ofBits (UInt64.ofNat bits)) else none
  | _ => none

/-- The truth value at the cursor. -/
def boolean (cursor : Cursor) : Option Bool :=
  match cursor.headAt with
  | some (7, some 20, _) => some false
  | some (7, some 21, _) => some true
  | _ => none

end Cursor

section Progress

theorem length_readHead {octets rest : Bytes} {major : Nat} {argument : Option Nat}
    (h : readHead octets = some (major, argument, rest)) : rest.length < octets.length := by
  cases octets with
  | nil => cases h
  | cons octet tail =>
      have hdrop : ∀ n, (tail.drop n).length < tail.length + 1 := fun n => by
        rw [List.length_drop]
        exact Nat.lt_succ_of_le (Nat.sub_le _ _)
      simp only [readHead] at h
      rw [List.length_cons]
      split_ifs at h
      · cases h
        exact Nat.lt_succ_self _
      · cases h
        exact hdrop _
      · cases h
        exact Nat.lt_succ_self _

/-- Stepping over items never goes back, and over at least one item goes on. -/
theorem length_skipItems {fuel : Nat} {count : Option Nat} {octets after : Bytes}
    (h : skipItems fuel count octets = some after) :
    after.length ≤ octets.length ∧ (count ≠ some 0 → after.length < octets.length) := by
  induction fuel generalizing count octets after with
  | zero => cases h
  | succ fuel ih =>
      rw [skipItems] at h
      split_ifs at h with hzero hbreak
      · cases h
        exact ⟨le_rfl, fun hcount => absurd hzero hcount⟩
      · cases h
        have hpos : octets ≠ [] := by
          rintro rfl
          cases hbreak.2
        have hlength := List.length_pos_of_ne_nil hpos
        rw [List.length_tail]
        exact ⟨Nat.sub_le _ _, fun _ => Nat.sub_lt hlength Nat.one_pos⟩
      · split at h
        · cases h
        · next major argument rest hhead =>
          have hrest := length_readHead hhead
          obtain ⟨body, hbody, hlater⟩ := Option.bind_eq_some_iff.mp h
          have hbody' : body.length ≤ rest.length := by
            unfold skipBody at hbody
            split at hbody
            · split_ifs at hbody
              cases hbody
              simp
            · split_ifs at hbody
              cases hbody
              simp
            · exact (ih hbody).1
            · exact (ih hbody).1
            · cases hbody
            · cases hbody
              exact le_rfl
            · cases hbody
          have hlater' := (ih hlater).1
          exact ⟨by omega, fun _ => by omega⟩

namespace Cursor

theorem settle_eq_some {rest : Bytes} {remaining : Option Nat} {cursor : Cursor}
    (h : settle rest remaining = some cursor) : cursor = ⟨rest, remaining⟩ := by
  unfold settle at h
  split_ifs at h
  exact (Option.some.inj h).symm

theorem length_headAt {cursor : Cursor} {major : Nat} {argument : Option Nat} {rest : Bytes}
    (h : cursor.headAt = some (major, argument, rest)) : rest.length < cursor.rest.length := by
  unfold headAt at h
  split_ifs at h
  exact length_readHead h

theorem enter_length {cursor inner : Cursor} (h : cursor.enter = some inner) :
    inner.rest.length < cursor.rest.length := by
  unfold enter at h
  split at h
  · next hhead =>
    rw [settle_eq_some h]
    exact length_headAt hhead
  · next hhead =>
    rw [settle_eq_some h]
    exact length_headAt hhead
  · cases h

theorem advance_length {cursor next : Cursor} (h : cursor.advance = some next) :
    next.rest.length < cursor.rest.length := by
  unfold advance at h
  split_ifs at h
  split at h
  · cases h
  · next hskip =>
    rw [settle_eq_some h]
    exact (length_skipItems hskip).2 (by simp)

theorem copyText_length {cursor next : Cursor} {size : Nat} {octets : Bytes}
    (h : cursor.copyText size = .ok (octets, next)) :
    next.rest.length < cursor.rest.length := by
  unfold copyText at h
  split at h
  · next hhead =>
    split_ifs at h
    split at h
    · cases h
    · next hsettle =>
      cases h
      rw [settle_eq_some hsettle]
      have := length_headAt hhead
      simp only [List.length_drop]
      omega
  · cases h

theorem leave_length {outer inner next : Cursor} (h : outer.leave inner = some next) :
    next.rest.length ≤ inner.rest.length := by
  unfold leave at h
  split_ifs at h
  · rw [settle_eq_some h]
    simp
  · rw [settle_eq_some h]

end Cursor

end Progress

/-- The items that are left in a container, and whether a break ends it. -/
abbrev Level := List Item × Bool

/-- The octets from a place on, given what is left at each level from the inside out. -/
def levelsText : List Level → Bytes
  | [] => []
  | (items, indefinite) :: outer =>
      encodeAll items ++ ((if indefinite then [0xFF] else []) ++ levelsText outer)

namespace Cursor

/-- The cursor is in a container of these levels. -/
def At (cursor : Cursor) : List Level → Prop
  | [] => False
  | (items, indefinite) :: outer =>
      cursor.rest = levelsText ((items, indefinite) :: outer) ∧
        cursor.remaining = (if indefinite then none else some items.length) ∧ AllFit items

section Documented

variable {cursor outer inner : Cursor} {item : Item} {items : List Item} {indefinite : Bool}
  {levels : List Level}

theorem settle_levels (items : List Item) (indefinite : Bool) (levels : List Level)
    (h : AllFit items) :
    ∃ next, settle (levelsText ((items, indefinite) :: levels))
        (if indefinite then none else some items.length) = some next ∧
      next.At ((items, indefinite) :: levels) := by
  refine ⟨⟨levelsText ((items, indefinite) :: levels),
    if indefinite then none else some items.length⟩, if_neg ?_, rfl, rfl, h⟩
  rintro ⟨hremaining, hempty⟩
  cases indefinite with
  | true => simp [levelsText] at hempty
  | false =>
      cases items with
      | nil => exact hremaining rfl
      | cons item rest =>
          have hpos := length_encode_pos item
          rw [levelsText, encodeAll, List.append_eq_nil_iff, List.append_eq_nil_iff] at hempty
          rw [hempty.1.1] at hpos
          exact absurd hpos (lt_irrefl 0)

theorem atEnd_of_at (h : cursor.At ((items, indefinite) :: levels)) :
    cursor.atEnd = true ↔ items = [] := by
  obtain ⟨hrest, hremaining, -⟩ := h
  rw [atEnd, hrest, hremaining]
  cases indefinite with
  | true =>
      cases items with
      | nil => simp [levelsText, encodeAll]
      | cons item rest =>
          obtain ⟨octet, more, hne, heq⟩ := encode_eq_cons item
          simp [levelsText, encodeAll, heq, hne]
  | false => cases items <;> simp

/-- The head of the item at the cursor is the head of its encoding. -/
theorem headAt_of_at (h : cursor.At ((item :: items, indefinite) :: levels)) :
    cursor.headAt = readHead (encode item ++ levelsText ((items, indefinite) :: levels)) := by
  have hend : cursor.atEnd ≠ true := fun hend => by
    cases (atEnd_of_at h).mp hend
  rw [headAt, if_neg hend, h.1, levelsText, encodeAll, List.append_assoc]
  rfl

theorem remaining_of_at (h : cursor.At ((item :: items, indefinite) :: levels)) :
    cursor.remaining.map (· - 1) = if indefinite then none else some items.length := by
  rw [h.2.1]
  cases indefinite <;> rfl

/-- The cursor starts at the item that was encoded. -/
theorem start_encode (h : Fits item) :
    ∃ cursor, start (encode item) = some cursor ∧ cursor.At [([item], false)] := by
  have hstart := settle_levels [item] false [] ⟨h, trivial⟩
  simpa [levelsText, encodeAll, start] using hstart

/-- The head of a text at the cursor. -/
theorem headAt_text {octets : Bytes}
    (h : cursor.At ((.text octets :: items, indefinite) :: levels)) (hfits : Fits (.text octets)) :
    cursor.headAt = some (3, some octets.length,
      octets ++ levelsText ((items, indefinite) :: levels)) := by
  rw [headAt_of_at h, encode, List.append_assoc]
  exact readHead_head (by omega) hfits _

theorem headAt_array {inside : List Item}
    (h : cursor.At ((.array inside :: items, indefinite) :: levels)) :
    cursor.headAt = some (4, some inside.length,
      levelsText ((inside, false) :: (items, indefinite) :: levels)) := by
  have hfits : inside.length < 2 ^ 64 ∧ AllFit inside := h.2.2.1
  rw [headAt_of_at h, encode, List.append_assoc]
  exact readHead_head (by omega) hfits.1 _

theorem headAt_map {broken : Bool} {inside : List Item}
    (h : cursor.At ((.map broken inside :: items, indefinite) :: levels)) :
    cursor.headAt = some (5, (if broken then none else some (inside.length / 2)),
      levelsText ((inside, broken) :: (items, indefinite) :: levels)) := by
  have hfits : inside.length < 2 ^ 64 ∧ inside.length % 2 = 0 ∧ AllFit inside := h.2.2.1
  rw [headAt_of_at h]
  cases broken with
  | true =>
      rw [encode, List.cons_append, List.append_assoc]
      rfl
  | false =>
      rw [encode, List.append_assoc]
      exact readHead_head (by omega) (by have := hfits.1; omega) _

theorem isMap_of_at {broken : Bool} {inside : List Item}
    (h : cursor.At ((.map broken inside :: items, indefinite) :: levels)) :
    cursor.isMap = true := by
  rw [isMap, headAt_map h]
  rfl

theorem enter_array {inside : List Item}
    (h : cursor.At ((.array inside :: items, indefinite) :: levels)) :
    ∃ inner, cursor.enter = some inner ∧
      inner.At ((inside, false) :: (items, indefinite) :: levels) := by
  have hfits : inside.length < 2 ^ 64 ∧ AllFit inside := h.2.2.1
  rw [enter, headAt_array h]
  exact settle_levels inside false _ hfits.2

theorem enter_map {broken : Bool} {inside : List Item}
    (h : cursor.At ((.map broken inside :: items, indefinite) :: levels)) :
    ∃ inner, cursor.enter = some inner ∧
      inner.At ((inside, broken) :: (items, indefinite) :: levels) := by
  have hfits : inside.length < 2 ^ 64 ∧ inside.length % 2 = 0 ∧ AllFit inside := h.2.2.1
  have hpairs : 2 * (inside.length / 2) = inside.length := by omega
  have hsettle := settle_levels inside broken ((items, indefinite) :: levels) hfits.2.2
  rw [enter, headAt_map h]
  cases broken with
  | true => exact hsettle
  | false =>
      show ∃ inner, settle _ (some (2 * (inside.length / 2))) = some inner ∧ _
      rw [hpairs]
      exact hsettle

/-- Leaving a container at its end goes on after it. -/
theorem leave_of_at {broken : Bool} (houter : outer.At ((item :: items, indefinite) :: levels))
    (hinner : inner.At (([], broken) :: (items, indefinite) :: levels)) :
    ∃ next, outer.leave inner = some next ∧ next.At ((items, indefinite) :: levels) := by
  have hrest : (if inner.remaining = none then inner.rest.tail else inner.rest) =
      levelsText ((items, indefinite) :: levels) := by
    rw [hinner.2.1, hinner.1]
    cases broken <;> rfl
  rw [leave, if_pos ((atEnd_of_at hinner).mpr rfl), hrest, remaining_of_at houter]
  exact settle_levels items indefinite levels houter.2.2.2

/-- Advancing goes on after the item. -/
theorem advance_of_at (h : cursor.At ((item :: items, indefinite) :: levels)) :
    ∃ next, cursor.advance = some next ∧ next.At ((items, indefinite) :: levels) := by
  have hend : cursor.atEnd ≠ true := fun hend => by
    cases (atEnd_of_at h).mp hend
  have hskip : skipItems (cursor.rest.length + 2) (some 1) cursor.rest =
      some (levelsText ((items, indefinite) :: levels)) := by
    have htext : cursor.rest = encode item ++ levelsText ((items, indefinite) :: levels) := by
      rw [h.1, levelsText, encodeAll, List.append_assoc]
      rfl
    rw [htext, skipItems_encode item h.2.2.1 _ _ _ (by simp) (Nat.le_succ _)]
    exact skipItems_zero _
  rw [advance, if_neg hend, hskip, remaining_of_at h]
  exact settle_levels items indefinite levels h.2.2.2

theorem advance_end (h : cursor.At (([], indefinite) :: levels)) : cursor.advance = none := by
  rw [advance, if_pos ((atEnd_of_at h).mpr rfl)]

/-- Copying a text that fits goes on after it. -/
theorem copyText_of_at {octets : Bytes} {size : Nat}
    (h : cursor.At ((.text octets :: items, indefinite) :: levels)) (hsize : octets.length ≤ size) :
    ∃ next, cursor.copyText size = .ok (octets, next) ∧
      next.At ((items, indefinite) :: levels) := by
  obtain ⟨next, hsettle, hnext⟩ := settle_levels items indefinite levels h.2.2.2
  refine ⟨next, ?_, hnext⟩
  simp only [copyText, headAt_text h h.2.2.1, List.drop_left, List.take_left, remaining_of_at h,
    hsettle]
  rw [if_neg (by simp), if_neg (by omega)]

theorem copyText_of_major {size major : Nat} {argument : Option Nat} {rest : Bytes}
    (h : cursor.headAt = some (major, argument, rest)) (hmajor : major ≠ 3) :
    cursor.copyText size = .error [] := by
  unfold copyText
  split
  · next hhead =>
    rw [h] at hhead
    cases hhead
    exact absurd rfl hmajor
  · rfl

/-- Nothing but a text can be copied. -/
theorem copyText_other {size : Nat} (hitem : ∀ octets, item ≠ .text octets)
    (h : cursor.At ((item :: items, indefinite) :: levels)) : cursor.copyText size = .error [] := by
  cases item with
  | text octets => exact absurd rfl (hitem octets)
  | uint value =>
      have hhead := headAt_of_at h
      rw [encode, readHead_head (by omega) value.toNat_lt] at hhead
      exact copyText_of_major hhead (by omega)
  | single value =>
      have hhead := headAt_of_at h
      rw [readHead_single] at hhead
      exact copyText_of_major hhead (by omega)
  | bool value =>
      cases value with
      | true =>
          have hhead : cursor.headAt = some (7, some 21, _) := headAt_of_at h
          exact copyText_of_major hhead (by omega)
      | false =>
          have hhead : cursor.headAt = some (7, some 20, _) := headAt_of_at h
          exact copyText_of_major hhead (by omega)
  | array inside => exact copyText_of_major (headAt_array h) (by omega)
  | map broken inside => exact copyText_of_major (headAt_map h) (by omega)

/-- The number at the cursor. -/
theorem uint64_of_at {value : UInt64}
    (h : cursor.At ((.uint value :: items, indefinite) :: levels)) :
      cursor.uint64 = some value := by
  rw [uint64, headAt_of_at h, encode, readHead_head (by omega) value.toNat_lt]
  simp only [UInt64.ofNat_toNat]

end Documented

end Cursor

end Cbor
