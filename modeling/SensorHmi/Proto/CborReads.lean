import SensorHmi.Proto.CborDecode
import SensorHmi.Proto.CborEncode

/-!
# Reading encoded items

What the calls of the CBOR decoders do in front of known items, and rules for the loops over
them: `Reads` and `Refuses` say of the body of a loop which items it goes past, or that it gives
up at them, and `LoopReads` and `LoopRefuses` follow for the loop by one rule for each turn.
-/

namespace SensorHmi

open Octets Cbor Loop

variable {ι : Type} {cbor : Tinycbor ι}

section Calls

variable {it : ι} {items : List Item} {indefinite : Bool} {levels : List Level}

/-- Stepping over an item, or staying at the end. -/
theorem advanceIgnoring_at (h : cbor.At it ((items, indefinite) :: levels)) :
    cbor.At (advanceIgnoring cbor it) ((items.tail, indefinite) :: levels) := by
  cases items with
  | nil =>
      rw [advanceIgnoring, cbor.at_advanceEnd h]
      exact h
  | cons item rest =>
      obtain ⟨next, hadvance, hnext⟩ := cbor.at_advance h
      rw [advanceIgnoring, hadvance]
      exact hnext

/-- A text without NUL that a buffer of this size has room for. -/
def Copyable (octets : Bytes) (size : Nat) : Prop :=
  octets.length ≤ size ∧ ∀ octet ∈ octets, octet ≠ 0

instance (octets : Bytes) (size : Nat) : Decidable (Copyable octets size) :=
  inferInstanceAs (Decidable (_ ∧ _))

/-- Such a text is copied as it is. -/
theorem copyIgnoring_at {octets : Bytes} {size : Nat}
    (h : cbor.At it ((.text octets :: items, indefinite) :: levels))
    (hcopyable : Copyable octets size) : ∃ next,
      copyIgnoring cbor it size = (octets, next) ∧
        cbor.At next ((items, indefinite) :: levels) := by
  obtain ⟨next, hcopy, hnext⟩ := cbor.at_copy h hcopyable.1
  refine ⟨next, ?_, hnext⟩
  rw [copyIgnoring, hcopy]
  simp only [cString_eq_self hcopyable.2]

theorem copyChecked_at {octets : Bytes} {size : Nat}
    (h : cbor.At it ((.text octets :: items, indefinite) :: levels))
    (hcopyable : Copyable octets size) : ∃ next,
      copyChecked cbor it size = .ok (octets, next) ∧
        cbor.At next ((items, indefinite) :: levels) := by
  obtain ⟨next, hcopy, hnext⟩ := cbor.at_copy h hcopyable.1
  refine ⟨next, ?_, hnext⟩
  rw [copyChecked, hcopy]
  simp only [cString_eq_self hcopyable.2]

/-- An item that is no text leaves an empty string and the iterator in place. -/
theorem copyIgnoring_other {item : Item} {size : Nat}
    (h : cbor.At it ((item :: items, indefinite) :: levels))
    (hitem : ∀ octets, item ≠ .text octets) : copyIgnoring cbor it size = ([], it) := by
  rw [copyIgnoring, cbor.at_copyOther h hitem]
  rfl

theorem copyChecked_other {item : Item} {size : Nat}
    (h : cbor.At it ((item :: items, indefinite) :: levels))
    (hitem : ∀ octets, item ≠ .text octets) : copyChecked cbor it size = .error .rejected := by
  rw [copyChecked, cbor.at_copyOther h hitem]

theorem uint64OrZero_at {value : UInt64}
    (h : cbor.At it ((.uint value :: items, indefinite) :: levels)) :
    uint64OrZero cbor it = value := by
  rw [uint64OrZero, cbor.at_getUint64 h]
  rfl

/-- Leaving a container from its end. -/
theorem leaveIgnoring_at {inner : ι} {item : Item} {broken : Bool}
    (houter : cbor.At it ((item :: items, indefinite) :: levels))
    (hinner : cbor.At inner (([], broken) :: (items, indefinite) :: levels)) :
    cbor.At (leaveIgnoring cbor it inner) ((items, indefinite) :: levels) := by
  obtain ⟨next, hleave, hnext⟩ := cbor.at_leave houter hinner
  rw [leaveIgnoring, hleave]
  exact hnext

end Calls

section Loops

variable {τ : Type}

/-- In front of the items, the body of a loop goes on to the rest of them with an update. -/
def Reads (cbor : Tinycbor ι) (body : ι → Run ι (ι × (τ → τ))) (items rest : List Item)
    (update : τ → τ) : Prop :=
  ∀ it indefinite levels, cbor.At it ((items, indefinite) :: levels) →
    ∃ next, body it = .ok (next, update) ∧ cbor.At next ((rest, indefinite) :: levels)

/-- In front of the items, the body of a loop rejects the payload. -/
def Refuses (cbor : Tinycbor ι) (body : ι → Run ι (ι × (τ → τ))) (items : List Item) : Prop :=
  ∀ it indefinite levels, cbor.At it ((items, indefinite) :: levels) →
    body it = .error .rejected

/-- In front of the items, a loop with this many turns or more goes to their end. -/
def LoopReads (cbor : Tinycbor ι) (body : ι → Run ι (ι × (τ → τ))) (turns : Nat)
    (items : List Item) (update : τ → τ) : Prop :=
  ∀ it indefinite levels, cbor.At it ((items, indefinite) :: levels) →
    ∀ fuel, turns ≤ fuel →
      ∃ final, whileLoop (fun it => !cbor.atEnd it) body fuel it = .ok (final, update) ∧
        cbor.At final (([], indefinite) :: levels)

/-- In front of the items, a loop with this many turns or more rejects the payload. -/
def LoopRefuses (cbor : Tinycbor ι) (body : ι → Run ι (ι × (τ → τ))) (turns : Nat)
    (items : List Item) : Prop :=
  ∀ it indefinite levels, cbor.At it ((items, indefinite) :: levels) →
    ∀ fuel, turns ≤ fuel →
      whileLoop (fun it => !cbor.atEnd it) body fuel it = .error .rejected

variable {body : ι → Run ι (ι × (τ → τ))} {turns : Nat} {item : Item}
  {items rest : List Item} {update later : τ → τ}

/-- In front of an item a loop takes a turn. -/
theorem whileLoop_at {it : ι} {indefinite : Bool} {levels : List Level} {fuel : Nat}
    (h : cbor.At it ((item :: items, indefinite) :: levels)) :
    whileLoop (fun it => !cbor.atEnd it) body (fuel + 1) it = (body it >>= fun step =>
      whileLoop (fun it => !cbor.atEnd it) body fuel step.1 >>= fun later =>
        .ok (later.1, later.2 ∘ step.2)) := by
  refine whileLoop_succ ?_
  rw [Bool.not_eq_true', Bool.eq_false_iff]
  intro hend
  cases (cbor.at_atEnd h).mp hend

theorem LoopReads.nil : LoopReads cbor body 0 [] id := by
  intro it indefinite levels h fuel _
  have hend : cbor.atEnd it = true := (cbor.at_atEnd h).mpr rfl
  exact ⟨it, whileLoop_exit (by rw [hend]; rfl), h⟩

/-- A turn that reads, and the loop on the rest. -/
theorem LoopReads.cons (hbody : Reads cbor body (item :: items) rest update)
    (hrest : LoopReads cbor body turns rest later) :
    LoopReads cbor body (turns + 1) (item :: items) (later ∘ update) := by
  intro it indefinite levels h fuel hfuel
  obtain ⟨fuel, rfl⟩ := Nat.exists_eq_add_of_le' (Nat.le_of_add_left_le hfuel)
  obtain ⟨next, hstep, hnext⟩ := hbody it indefinite levels h
  obtain ⟨final, hloop, hfinal⟩ := hrest next indefinite levels hnext fuel (by omega)
  refine ⟨final, ?_, hfinal⟩
  rw [whileLoop_at h, hstep]
  show (whileLoop _ body fuel next >>= _) = _
  rw [hloop]
  rfl

/-- The update of a loop, said in another way. -/
theorem LoopReads.congr (h : LoopReads cbor body turns items update)
    (heq : ∀ data, update data = later data) : LoopReads cbor body turns items later := by
  obtain rfl : update = later := funext heq
  exact h

/-- A turn that rejects. -/
theorem LoopRefuses.here (hbody : Refuses cbor body (item :: items)) :
    LoopRefuses cbor body 1 (item :: items) := by
  intro it indefinite levels h fuel hfuel
  obtain ⟨fuel, rfl⟩ := Nat.exists_eq_add_of_le' hfuel
  rw [whileLoop_at h, hbody it indefinite levels h]
  rfl

/-- A turn that reads, and the loop rejects the rest. -/
theorem LoopRefuses.cons (hbody : Reads cbor body (item :: items) rest update)
    (hrest : LoopRefuses cbor body turns rest) :
    LoopRefuses cbor body (turns + 1) (item :: items) := by
  intro it indefinite levels h fuel hfuel
  obtain ⟨fuel, rfl⟩ := Nat.exists_eq_add_of_le' (Nat.le_of_add_left_le hfuel)
  obtain ⟨next, hstep, hnext⟩ := hbody it indefinite levels h
  rw [whileLoop_at h, hstep]
  show (whileLoop _ body fuel next >>= _) = _
  rw [hrest next indefinite levels hnext fuel (by omega)]
  rfl

end Loops

end SensorHmi
