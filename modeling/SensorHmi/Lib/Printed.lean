import Mathlib

/-!
# Printing into memory

A text is stored octet by octet from an offset on (`store`). A printer with bounded room stores as
much of the text as fits in front of a NUL (`clipped`). Stores change the range they are made in
and nothing else (`store_outside`), and what was stored is read back (`store_inside`).
-/

namespace Printed

section Store

variable {α : Type} (memory : Nat → α)

/-- The memory after `values` are stored from `offset` on. -/
def store (memory : Nat → α) (offset : Nat) : List α → Nat → α
  | [] => memory
  | value :: rest => store (Function.update memory offset value) (offset + 1) rest

variable {memory} {offset place : Nat} {values : List α}

/-- What is stored behind a text is stored after it. -/
theorem store_append {first second : List α} :
    store memory offset (first ++ second) =
      store (store memory offset first) (offset + first.length) second := by
  induction first generalizing memory offset with
  | nil => rfl
  | cons value rest ih =>
      rw [List.cons_append, store, ih, store, List.length_cons, Nat.add_assoc, Nat.add_comm 1]

/-- A place outside the stored range keeps its value. -/
theorem store_outside (h : place < offset ∨ offset + values.length ≤ place) :
    store memory offset values place = memory place := by
  induction values generalizing memory offset with
  | nil => rfl
  | cons value rest ih =>
      rw [List.length_cons] at h
      have hne : place ≠ offset := by omega
      rw [store, ih (by omega), Function.update_of_ne hne]

/-- A stored value is read back. -/
theorem store_inside {i : Nat} (h : i < values.length) :
    store memory offset values (offset + i) = values[i] := by
  induction values generalizing memory offset i with
  | nil => exact absurd h (Nat.not_lt_zero i)
  | cons value rest ih =>
      cases i with
      | zero =>
          rw [store, store_outside (Or.inl (by omega)), Nat.add_zero, Function.update_self]
          rfl
      | succ i =>
          rw [List.length_cons] at h
          have hnext : offset + (i + 1) = offset + 1 + i := by omega
          rw [store, hnext, ih (by omega), List.getElem_cons_succ]

/-- The octets from an offset on are the values stored there. -/
theorem map_range_eq (h : ∀ i (hi : i < values.length), memory i = values[i]) :
    (List.range values.length).map memory = values := by
  apply List.ext_getElem
  · simp
  · intro i hleft hright
    rw [List.getElem_map, List.getElem_range]
    exact h i hright

end Store

section Clipped

variable {α : Type} (nul : α) {room : Nat} {text : List α}

/-- What a printer stores of a text in `room` places: as much as fits before the NUL. -/
def clipped (room : Nat) (text : List α) : List α :=
  if room = 0 then [] else text.take (room - 1) ++ [nul]

theorem length_clipped_le : (clipped nul room text).length ≤ room := by
  unfold clipped
  split_ifs
  · exact Nat.zero_le room
  · rw [List.length_append, List.length_take, List.length_singleton]
    omega

/-- A text that fits with its NUL is stored whole. -/
theorem clipped_of_lt (h : text.length < room) : clipped nul room text = text ++ [nul] := by
  rw [clipped, if_neg (by omega), List.take_of_length_le (by omega)]

end Clipped

end Printed
