import Mathlib

/-!
# Bounded queues that overwrite

A queue of bounded capacity that drops from the front what it has no room for holds the last values
appended to it (`keep`). `Holds` lays a queue out in circular cells: appending writes the cell
behind the last one (`Holds.append`), removing moves the start (`Holds.tail`).
-/

namespace BoundedQueue

variable {α : Type} {capacity : Nat} {values first second : List α}

/-- What is left of these values after dropping from the front until they fit. -/
def keep (capacity : Nat) (values : List α) : List α :=
  values.drop (values.length - capacity)

theorem length_keep_le : (keep capacity values).length ≤ capacity := by
  rw [keep, List.length_drop]
  omega

theorem keep_of_le (h : values.length ≤ capacity) : keep capacity values = values := by
  rw [keep, Nat.sub_eq_zero_of_le h, List.drop_zero]

/-- Dropping early makes no difference to what is left in the end. -/
theorem keep_keep_append : keep capacity (keep capacity first ++ second) =
    keep capacity (first ++ second) := by
  have hdrop : keep capacity first ++ second =
      (first ++ second).drop (first.length - capacity) := by
    rw [keep, List.drop_append_of_le_length (Nat.sub_le _ _)]
  rw [hdrop, keep, keep, List.drop_drop, List.length_drop, List.length_append]
  congr 1
  omega

section Cells

variable {cells : Nat → α} {start : Nat} {value : α}

/-- The cells from `start` on, around the end, hold these values. -/
def Holds (cells : Nat → α) (capacity start : Nat) (values : List α) : Prop :=
  ∀ i (h : i < values.length), cells ((start + i) % capacity) = values[i]

/-- Different places of one revolution are different cells. -/
theorem cell_ne {i j : Nat} (hi : i < j) (hj : j < capacity) :
    (start + i) % capacity ≠ (start + j) % capacity := by
  intro hsame
  have hmod : start + i ≡ start + j [MOD capacity] := hsame
  have heq : i ≡ j [MOD capacity] := Nat.ModEq.add_left_cancel' start hmod
  exact Nat.ne_of_lt hi (heq.eq_of_lt_of_lt (hi.trans hj) hj)

/-- The value written behind the last one is appended. -/
theorem Holds.append (h : Holds cells capacity start values) (hroom : values.length < capacity) :
    Holds (Function.update cells ((start + values.length) % capacity) value) capacity start
      (values ++ [value]) := by
  intro i hi
  by_cases hold : i < values.length
  · rw [Function.update_of_ne (cell_ne hold hroom), List.getElem_append_left hold]
    exact h i hold
  · have hlast : i = values.length := by
      rw [List.length_append, List.length_singleton] at hi
      omega
    subst hlast
    rw [Function.update_self, List.getElem_concat_length rfl]

/-- Without the first value the others start one cell later. -/
theorem Holds.tail {rest : List α} (h : Holds cells capacity start (value :: rest)) :
    Holds cells capacity ((start + 1) % capacity) rest := by
  intro i hi
  have hnext := h (i + 1) (Nat.succ_lt_succ hi)
  rw [Nat.mod_add_mod, Nat.add_assoc, Nat.add_comm 1 i]
  exact hnext

end Cells

end BoundedQueue
