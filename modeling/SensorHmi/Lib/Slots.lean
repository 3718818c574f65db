import Mathlib

/-!
# Tables of slots

A table is a list of slots searched from the front. `first` finds the first slot that satisfies a
test; the rules say which slots satisfy it after one slot was replaced, and how many.
-/

namespace Slots

variable {α : Type} {p q : α → Bool} {table : List α} {i : Nat} {slot new : α}

/-- The first slot that satisfies the test, with its index. -/
def first (p : α → Bool) : List α → Option (Nat × α)
  | [] => none
  | slot :: rest => if p slot then some (0, slot) else (first p rest).map fun (i, slot) =>
      (i + 1, slot)

/-- The slot found stands at its index and satisfies the test. -/
theorem get_of_first (h : first p table = some (i, slot)) :
    table[i]? = some slot ∧ p slot = true := by
  induction table generalizing i with
  | nil => simp [first] at h
  | cons head rest ih =>
      simp only [first] at h
      split at h
      case isTrue hhead =>
        cases h
        exact ⟨rfl, hhead⟩
      case isFalse =>
        obtain ⟨⟨j, found⟩, hfound, heq⟩ := Option.map_eq_some_iff.mp h
        cases heq
        simpa using ih hfound

/-- No slot satisfies a test for which the search fails. -/
theorem first_eq_none_iff : first p table = none ↔ ∀ slot ∈ table, p slot = false := by
  induction table with
  | nil => simp [first]
  | cons head rest ih =>
      simp only [first, List.mem_cons, forall_eq_or_imp]
      split
      case isTrue hhead => simp [hhead]
      case isFalse hhead => simp [hhead, ih]

/-- No slot that satisfies the test stands before the one found. -/
theorem first_le {k : Nat} {other : α} (h : first p table = some (i, slot))
    (hother : table[k]? = some other) (hyes : p other = true) : i ≤ k := by
  induction table generalizing i k with
  | nil => cases hother
  | cons head rest ih =>
      simp only [first] at h
      split at h
      case isTrue =>
        cases h
        exact Nat.zero_le k
      case isFalse hhead =>
        obtain ⟨⟨j, found⟩, hfound, heq⟩ := Option.map_eq_some_iff.mp h
        cases heq
        cases k with
        | zero =>
            cases hother
            exact absurd hyes hhead
        | succ k => exact Nat.succ_le_succ (ih hfound (by simpa using hother))

/-- The first slot that satisfies a test is found. -/
theorem first_eq_some (h : table[i]? = some slot) (hslot : p slot = true)
    (hbefore : ∀ j other, j < i → table[j]? = some other → p other = false) :
    first p table = some (i, slot) := by
  induction table generalizing i with
  | nil => cases h
  | cons head rest ih =>
      cases i with
      | zero =>
          cases h
          simp [first, hslot]
      | succ i =>
          have hhead : p head = false := hbefore 0 head (Nat.succ_pos i) rfl
          have hrest := ih h fun j other hj hother =>
            hbefore (j + 1) other (Nat.succ_lt_succ hj) hother
          simp [first, hhead, hrest]

section Filter

/-- Replacing a slot touches only its place in the table. -/
theorem exists_split (h : table[i]? = some slot) :
    ∃ before after, table = before ++ slot :: after ∧
      ∀ new, table.set i new = before ++ new :: after := by
  obtain ⟨hlt, rfl⟩ := List.getElem?_eq_some_iff.mp h
  refine ⟨table.take i, table.drop (i + 1), ?_, fun new =>
    List.set_eq_take_append_cons_drop.trans ?_⟩
  · rw [List.getElem_cons_drop, List.take_append_drop]
  · rw [if_pos hlt]

/-- A replacement that agrees with the old slot in the test and in `f` changes no list of the `f`
of the slots that satisfy the test. -/
theorem map_filter_set {β : Type} {f : α → β} (h : table[i]? = some slot) (htest : p new = p slot)
    (hvalue : p slot = true → f new = f slot) :
    ((table.set i new).filter p).map f = (table.filter p).map f := by
  obtain ⟨before, after, rfl, hset⟩ := exists_split h
  rw [hset]
  cases hslot : p slot with
  | false => simp [List.filter_append, htest, hslot]
  | true => simp [List.filter_append, htest, hslot, hvalue hslot]

/-- A slot that satisfies the test, put in place of one that fails it, is the only one that does
if there was none. -/
theorem filter_set_new (h : table[i]? = some slot) (hnone : table.filter p = [])
    (hnew : p new = true) : (table.set i new).filter p = [new] := by
  obtain ⟨before, after, rfl, hset⟩ := exists_split h
  rw [hset]
  rw [List.filter_append, List.append_eq_nil_iff, List.filter_cons] at hnone
  obtain ⟨hbefore, hafter⟩ := hnone
  split at hafter
  · cases hafter
  · simp [List.filter_append, hbefore, hafter, hnew]

/-- A search finds the only slot that satisfies the test, and a slot put in its place is again the
only one if it does, while none is left if it does not. -/
theorem first_of_filter_singleton (h : table.filter p = [slot]) :
    ∃ i, first p table = some (i, slot) ∧
      (∀ new, p new = true → (table.set i new).filter p = [new]) ∧
      ∀ new, p new = false → (table.set i new).filter p = [] := by
  induction table with
  | nil => cases h
  | cons head rest ih =>
      rw [List.filter_cons] at h
      cases hhead : p head with
      | true =>
          rw [if_pos hhead] at h
          obtain ⟨rfl, hrest⟩ := List.cons.inj h
          refine ⟨0, by simp [first, hhead], fun new hnew => ?_, fun new hnew => ?_⟩
          · simp [hnew, hrest]
          · simp [hnew, hrest]
      | false =>
          rw [if_neg (by simp [hhead])] at h
          obtain ⟨i, hfirst, hset, hremove⟩ := ih h
          refine ⟨i + 1, by simp [first, hhead, hfirst], fun new hnew => ?_, fun new hnew => ?_⟩
          · simp [hhead, hset new hnew]
          · simp [hhead, hremove new hnew]

end Filter

/-- Replacing a slot takes its own contribution from a count and adds that of the new slot. -/
theorem countP_set (h : table[i]? = some slot) :
    (table.set i new).countP p + (if p slot then 1 else 0) =
      table.countP p + (if p new then 1 else 0) := by
  obtain ⟨before, after, rfl, hset⟩ := exists_split h
  simp only [hset, List.countP_append, List.countP_cons]
  omega

/-- Where at most one slot satisfies a test, no other than the one at hand does. -/
theorem other_of_countP_le_one {j : Nat} {other : α} (hone : table.countP p ≤ 1)
    (h : table[i]? = some slot) (hslot : p slot = true) (hother : table[j]? = some other)
    (hne : j ≠ i) : p other = false := by
  rw [Bool.eq_false_iff]
  intro hyes
  obtain ⟨hlt, hget⟩ := List.getElem?_eq_some_iff.mp h
  have hrest : (table.eraseIdx i).countP p = 0 := by
    have hperm := (List.getElem_cons_eraseIdx_perm hlt).countP_eq p
    rw [hget, List.countP_cons_of_pos hslot] at hperm
    omega
  have hmem : other ∈ table.eraseIdx i :=
    List.mem_eraseIdx_iff_getElem?.mpr ⟨j, hne, hother⟩
  exact List.countP_eq_zero.mp hrest other hmem hyes

end Slots
