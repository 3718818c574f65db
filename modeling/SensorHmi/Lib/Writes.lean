import Mathlib

/-!
# Writes to places

`writeAll` makes a list of writes to a store in order. A place then holds the value that was last
written to it, or what it held before (`writeAll_apply`). `merge` is the masked write of a
register word: the masked bits are taken from the new value and the others stay (`getLsbD_merge`).
-/

namespace Writes

section Store

variable {α β : Type} [DecidableEq α]

/-- The store after a list of writes. -/
def writeAll (store : α → β) (writes : List (α × β)) : α → β :=
  writes.foldl (fun store write => Function.update store write.1 write.2) store

/-- The value last written to a place. -/
def last (place : α) : List (α × β) → Option β
  | [] => none
  | write :: rest => (last place rest).or (if write.1 = place then some write.2 else none)

/-- Of two lists of writes the second one counts, if it writes to the place. -/
theorem last_append (first second : List (α × β)) (place : α) :
    last place (first ++ second) = (last place second).or (last place first) := by
  induction first with
  | nil => exact Option.or_none.symm
  | cons write rest ih => rw [List.cons_append, last, ih, last, Option.or_assoc]

/-- A place holds the last value written to it, or what it held before. -/
theorem writeAll_apply (store : α → β) (writes : List (α × β)) (place : α) :
    writeAll store writes place = (last place writes).getD (store place) := by
  induction writes generalizing store with
  | nil => rfl
  | cons write rest ih =>
      show writeAll (Function.update store write.1 write.2) rest place = _
      rw [ih, last]
      cases last place rest with
      | some value => rfl
      | none =>
          by_cases hsame : write.1 = place
          · subst hsame
            simp
          · simp [hsame, Function.update_of_ne (Ne.symm hsame)]

end Store

section Word

/-- A masked write of a word. -/
def merge {w : Nat} (current mask value : BitVec w) : BitVec w :=
  (current &&& ~~~mask) ||| (value &&& mask)

/-- A masked bit is the one of the new value, the others stay. -/
theorem getLsbD_merge {w : Nat} (current mask value : BitVec w) {i : Nat} (hi : i < w) :
    (merge current mask value).getLsbD i =
      if mask.getLsbD i then value.getLsbD i else current.getLsbD i := by
  simp only [merge, BitVec.getLsbD_or, BitVec.getLsbD_and, BitVec.getLsbD_not, hi, decide_true,
    Bool.true_and]
  cases mask.getLsbD i <;> simp

end Word

end Writes
