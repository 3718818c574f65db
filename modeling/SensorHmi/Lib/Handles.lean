import Mathlib

/-!
# Handles acquired and released

A log of the calls that acquire and release handles of named resources, for a program that keeps
one pointer for each resource. `Conserved` is the account of the handles: each was acquired once,
and was released once exactly if no pointer holds it any more. Acquiring into an empty pointer and
releasing a pointer before clearing it keep the account.
-/

namespace Handles

/-- A call that hands out a handle of a resource, or takes it back. -/
inductive Call (ρ : Type)
  | acquire (resource : ρ) (handle : Nat)
  | release (resource : ρ) (handle : Nat)
  deriving DecidableEq

/-- The calls so far, and the next handle to hand out. -/
structure Log (ρ : Type) where
  next : Nat := 0
  calls : List (Call ρ) := []

variable {ρ : Type}

/-- A request for a handle, granted or not. -/
def Log.acquire (log : Log ρ) (resource : ρ) (granted : Bool) : Option Nat × Log ρ :=
  if granted then
    (some log.next,
      { next := log.next + 1, calls := log.calls ++ [.acquire resource log.next] })
  else (none, log)

/-- The release of what a pointer holds; a null pointer is passed over. -/
def Log.release (log : Log ρ) (resource : ρ) (pointer : Option Nat) : Log ρ :=
  match pointer with
  | none => log
  | some handle => { log with calls := log.calls ++ [.release resource handle] }

variable [DecidableEq ρ]

/-- Every handle is fresh when it is acquired, and is either held by its pointer or released. -/
structure Conserved (log : Log ρ) (pointers : ρ → Option Nat) : Prop where
  fresh : ∀ resource handle, Call.acquire resource handle ∈ log.calls → handle < log.next
  once : ∀ resource handle, log.calls.count (.acquire resource handle) ≤ 1
  balance : ∀ resource handle, log.calls.count (.acquire resource handle) =
    log.calls.count (.release resource handle) + if pointers resource = some handle then 1 else 0

variable {log : Log ρ} {pointers : ρ → Option Nat} {resource : ρ} {handle : Nat}

theorem conserved_start : Conserved ({} : Log ρ) fun _ => none :=
  ⟨fun _ _ h => absurd h List.not_mem_nil, fun _ _ => Nat.zero_le 1, fun _ _ => rfl⟩

/-- A handle acquired into an empty pointer is held by it. -/
theorem Conserved.acquire {granted : Bool} (h : Conserved log pointers)
    (hempty : pointers resource = none) :
    Conserved (log.acquire resource granted).2
      (Function.update pointers resource (log.acquire resource granted).1) := by
  cases granted with
  | false =>
      have hsame : Function.update pointers resource none = pointers := by
        rw [← hempty, Function.update_eq_self]
      simpa [Log.acquire, hsame] using h
  | true =>
      have hunused : ∀ other, log.calls.count (.acquire other log.next) = 0 := by
        intro other
        refine List.count_eq_zero.mpr fun hmem => ?_
        exact absurd (h.fresh other log.next hmem) (Nat.lt_irrefl _)
      refine ⟨?_, ?_, ?_⟩
      · intro other handle hmem
        rcases List.mem_append.mp hmem with hold | hnew
        · exact (h.fresh other handle hold).trans (Nat.lt_succ_self _)
        · cases List.mem_singleton.mp hnew
          exact Nat.lt_succ_self _
      · intro other handle
        have hcount := h.once other handle
        have hnext := hunused other
        simp only [Log.acquire, if_true, List.count_append, List.count_singleton]
        split_ifs with hsame
        · cases eq_of_beq hsame
          omega
        · omega
      · intro other handle
        have hbalance := h.balance other handle
        have hnext := hunused other
        simp only [Log.acquire, if_true, List.count_append, List.count_singleton]
        by_cases hother : other = resource
        · subst hother
          rw [hempty] at hbalance
          by_cases hhandle : handle = log.next
          · subst hhandle
            simp at hbalance ⊢
            omega
          · simp [Ne.symm hhandle] at hbalance ⊢
            omega
        · simp [Function.update_of_ne hother, Ne.symm hother] at hbalance ⊢
          omega

/-- A pointer that is released and cleared keeps the account. -/
theorem Conserved.release (h : Conserved log pointers) :
    Conserved (log.release resource (pointers resource))
      (Function.update pointers resource none) := by
  cases hpointer : pointers resource with
  | none =>
      have hsame : Function.update pointers resource none = pointers := by
        rw [← hpointer, Function.update_eq_self]
      rw [hsame]
      exact h
  | some held =>
      refine ⟨?_, ?_, ?_⟩
      · intro other handle hmem
        rcases List.mem_append.mp hmem with hold | hnew
        · exact h.fresh other handle hold
        · cases List.mem_singleton.mp hnew
      · intro other handle
        have hcount := h.once other handle
        simpa [Log.release, List.count_append, List.count_singleton] using hcount
      · intro other handle
        have hbalance := h.balance other handle
        simp only [Log.release, List.count_append, List.count_singleton]
        by_cases hother : other = resource
        · subst hother
          rw [hpointer] at hbalance
          by_cases hhandle : held = handle
          · subst hhandle
            simp at hbalance ⊢
            omega
          · simp [hhandle] at hbalance ⊢
            omega
        · simp [Function.update_of_ne hother, Ne.symm hother] at hbalance ⊢
          omega

/-- With no pointer held, every handle acquired has been released once. -/
theorem Conserved.released_once (h : Conserved log pointers) (hnone :
    ∀ resource, pointers resource = none)
    (hacquired : Call.acquire resource handle ∈ log.calls) :
    log.calls.count (.release resource handle) = 1 := by
  have hbalance := h.balance resource handle
  rw [hnone, if_neg (by simp)] at hbalance
  have honce := h.once resource handle
  have hpos := List.count_pos_iff.mpr hacquired
  omega

/-- A handle a pointer holds has not been released. -/
theorem Conserved.not_released (h : Conserved log pointers) (hheld :
    pointers resource = some handle) :
    Call.release resource handle ∉ log.calls := by
  have hbalance := h.balance resource handle
  rw [if_pos hheld] at hbalance
  have honce := h.once resource handle
  exact List.count_eq_zero.mp (by omega)

/-- No handle is released twice, and none that was not acquired. -/
theorem Conserved.released_le (h : Conserved log pointers) :
    log.calls.count (.release resource handle) ≤ 1 := by
  have hbalance := h.balance resource handle
  have honce := h.once resource handle
  omega

end Handles
