import Mathlib

/-!
# Signed registers

Results of integer arithmetic in registers of two's complement: brought back into the register
(`wrap`), or refused where they overflow (`checked`). A checked result is what the register holds
(`wrap_of_checked`).
-/

namespace Signed

/-- The number a register of `bits` bits holds after a computation with this result. -/
def wrap (bits : Nat) (x : Int) : Int :=
  x.bmod (2 ^ bits)

/-- The number is one of a signed register. -/
def Fits (bits : Nat) (x : Int) : Prop :=
  -2 ^ (bits - 1) ≤ x ∧ x < 2 ^ (bits - 1)

instance (bits : Nat) (x : Int) : Decidable (Fits bits x) :=
  inferInstanceAs (Decidable (_ ∧ _))

/-- The result of a computation that does not overflow. -/
def checked (bits : Nat) (x : Int) : Option Int :=
  if Fits bits x then some x else none

variable {bits : Nat} {x y : Int}

theorem wrap_of_fits (hbits : 0 < bits) (h : Fits bits x) : wrap bits x = x := by
  obtain ⟨k, rfl⟩ : ∃ k, bits = k + 1 := ⟨bits - 1, by omega⟩
  obtain ⟨hlow, hhigh⟩ := h
  rw [Nat.add_sub_cancel] at hlow hhigh
  refine Int.bmod_eq_of_le_mul_two ?_ ?_
  · push_cast [pow_succ]
    omega
  · push_cast [pow_succ]
    omega

/-- A checked result is what the register holds. -/
theorem wrap_of_checked (hbits : 0 < bits) (h : checked bits x = some y) : wrap bits x = y := by
  unfold checked at h
  split_ifs at h with hfits
  rw [wrap_of_fits hbits hfits]
  exact Option.some.inj h

/-- Multiples of the range of the register do not show. -/
theorem wrap_add_mul (k : Int) : wrap bits (x + 2 ^ bits * k) = wrap bits x := by
  have hcast : (2 : Int) ^ bits = ((2 ^ bits : Nat) : Int) := by
    push_cast
    rfl
  rw [wrap, hcast, Int.add_mul_bmod_self_left, wrap]

/-- A register holds a number up to multiples of its range. -/
theorem exists_wrap_eq (bits : Nat) (x : Int) : ∃ k, x = wrap bits x + 2 ^ bits * k := by
  have hdiv := Int.bmod_add_bdiv x (2 ^ bits)
  push_cast at hdiv
  exact ⟨x.bdiv (2 ^ bits), hdiv.symm⟩

theorem wrap_lt (x : Int) (hbits : 0 < bits) : wrap bits x < 2 ^ (bits - 1) := by
  obtain ⟨k, rfl⟩ : ∃ k, bits = k + 1 := ⟨bits - 1, by omega⟩
  have hlt := @Int.bmod_lt x (2 ^ (k + 1)) (Nat.two_pow_pos _)
  have hhalf : (((2 ^ (k + 1) : Nat) : Int) + 1) / 2 = 2 ^ k := by
    push_cast [pow_succ]
    omega
  rwa [hhalf] at hlt

end Signed
