import Mathlib

/-!
# Cells that may lose their last writes

A cell has a value that is read, and others that may be there instead once power is lost: those it
had since it was last settled. `MayBe` says of a value that the cell has it or may have it then; a
write adds to these values (`mayBe_write`), settling and a loss only take away (`mayBe_settle`,
`mayBe_lose`), and each of them is what some loss leaves (`exists_lose`). An erase of contents is
the write of none.
-/

/-- The value that is read, and those a loss may bring back. -/
structure Cell (α : Type) where
  current : α
  others : List α := []

namespace Cell

variable {α : Type} {cell : Cell α} {value new : α}

/-- The cell has the value, or may have it after a loss. -/
def MayBe (cell : Cell α) (value : α) : Prop :=
  value = cell.current ∨ value ∈ cell.others

/-- A write, which may be lost. -/
def write (cell : Cell α) (new : α) : Cell α where
  current := new
  others := cell.current :: cell.others

/-- Nothing is lost from here on of what was written. -/
def settle (cell : Cell α) : Cell α where
  current := cell.current

/-- A loss leaves one of the values, the one that is read if there are not that many. -/
def lose (cell : Cell α) (choice : Nat) : Cell α where
  current := (cell.current :: cell.others).getD choice cell.current

theorem mayBe_current (cell : Cell α) : cell.MayBe cell.current :=
  Or.inl rfl

theorem mayBe_iff_mem : cell.MayBe value ↔ value ∈ cell.current :: cell.others :=
  List.mem_cons.symm

@[simp] theorem mayBe_mk : (Cell.mk new []).MayBe value ↔ value = new := by
  simp [MayBe]

@[simp] theorem mayBe_write : (cell.write new).MayBe value ↔ value = new ∨ cell.MayBe value :=
  or_congr_right List.mem_cons

@[simp] theorem mayBe_settle : cell.settle.MayBe value ↔ value = cell.current :=
  mayBe_mk

/-- What a loss leaves was possible before. -/
theorem mayBe_lose {choice : Nat} (h : (cell.lose choice).MayBe value) : cell.MayBe value := by
  have hvalue : value = (cell.current :: cell.others).getD choice cell.current := mayBe_mk.mp h
  rw [mayBe_iff_mem, hvalue]
  by_cases hchoice : choice < (cell.current :: cell.others).length
  · rw [List.getD_eq_getElem _ _ hchoice]
    exact List.getElem_mem hchoice
  · rw [List.getD_eq_default _ _ (Nat.le_of_not_lt hchoice)]
    exact List.mem_cons_self

/-- Each value that is possible is what some loss leaves. -/
theorem exists_lose (h : cell.MayBe value) : ∃ choice, (cell.lose choice).current = value := by
  obtain ⟨choice, hchoice, hvalue⟩ := List.getElem_of_mem (mayBe_iff_mem.mp h)
  refine ⟨choice, ?_⟩
  rw [lose, List.getD_eq_getElem _ _ hchoice, hvalue]

section Erase

variable {content : Cell (Option α)} {item : α} {erased : Prop} [Decidable erased]

/-- An erase brings no contents. -/
theorem mayBe_some_erase :
    (if erased then content.write none else content).MayBe (some item) ↔
      content.MayBe (some item) := by
  split_ifs
  · simp
  · exact Iff.rfl

/-- Nothing is left once an erase is settled, if there was something to erase. -/
theorem settle_erase_iff :
    (∀ item, ¬ (if erased then content.write none else content).settle.MayBe (some item)) ↔
      erased ∨ content.current = none := by
  simp only [mayBe_settle]
  split_ifs with herased
  · exact iff_of_true (fun item => Option.some_ne_none item) (Or.inl herased)
  · rw [or_iff_right herased, Option.eq_none_iff_forall_ne_some]
    exact forall_congr' fun item => not_congr eq_comm

end Erase

end Cell
