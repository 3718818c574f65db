import Mathlib

/-!
# Capped doubling

Delays that start at `first`, double from one to the next and never pass `cap`. A program that
keeps only the next delay follows the closed form as long as it caps after each doubling.
-/

namespace Backoff

/-- The delay after `k` doublings. -/
def delay (first cap k : Nat) : Nat :=
  min (first * 2 ^ k) cap

variable {first cap k : Nat}

theorem delay_le_cap : delay first cap k ≤ cap :=
  min_le_right _ _

/-- Without a doubling the delay is the first one, if that is within the cap. -/
theorem delay_zero (h : first ≤ cap) : delay first cap 0 = first := by
  rw [delay, pow_zero, mul_one, min_eq_left h]

/-- Doubling and capping goes on to the next delay. -/
theorem delay_succ : delay first cap (k + 1) = min (delay first cap k * 2) cap := by
  unfold delay
  rw [pow_succ, ← mul_assoc]
  rcases le_total (first * 2 ^ k) cap with hless | hmore
  · rw [min_eq_left hless]
  · rw [min_eq_right hmore, min_eq_right (by omega), min_eq_right (by omega)]

/-- The cap is not left again. -/
theorem delay_succ_of_cap (h : delay first cap k = cap) : delay first cap (k + 1) = cap := by
  rw [delay_succ, h]
  exact min_eq_right (by omega)

end Backoff
