import Mathlib

/-!
# What is on a screen

A screen that keeps what was written to it. Its places hold contents of different types, a program
writes to some of them at a time, and a user may move what is in a place. `Shows` says that the
screen is what a view of the program's state asks for wherever the user has not moved anything
since; `Shows.draw` is the rule for a list of writes: what the new view asks for is written or was
there before.
-/

namespace Canvas

variable {κ ι : Type} {β : κ → Type}

/-- The content of a place, and whether the user put it there. -/
structure Place (α : Type) where
  content : α
  byUser : Bool := false

/-- A write of a content to a place. -/
abbrev Write (β : κ → Type) : Type := Σ key, β key

section Decide

variable [DecidableEq κ]

/-- What the writes leave in a place; none if none of them goes there. -/
def written : List (Write β) → (key : κ) → Option (β key)
  | [], _ => none
  | write :: rest, key =>
      (written rest key).or (if h : write.1 = key then some (h ▸ write.2) else none)

/-- The program makes the writes one after the other. -/
def draw (screen : (key : κ) → Place (β key)) (writes : List (Write β)) :
    (key : κ) → Place (β key) :=
  writes.foldl (fun screen write => Function.update screen write.1 ⟨write.2, false⟩) screen

/-- The user does. -/
def move (screen : (key : κ) → Place (β key)) (writes : List (Write β)) :
    (key : κ) → Place (β key) :=
  writes.foldl (fun screen write => Function.update screen write.1 ⟨write.2, true⟩) screen

variable {key : κ} {screen : (key : κ) → Place (β key)} {writes first second : List (Write β)}

@[simp] theorem written_nil : written ([] : List (Write β)) key = none := rfl

@[simp] theorem written_self {content : β key} :
    written (⟨key, content⟩ :: writes) key = some ((written writes key).getD content) := by
  rw [written, dif_pos rfl, Option.or_some]

@[simp] theorem written_other {write : Write β} (h : write.1 ≠ key) :
    written (write :: writes) key = written writes key := by
  rw [written, dif_neg h, Option.or_none]

theorem written_append :
    written (first ++ second) key = (written second key).or (written first key) := by
  induction first with
  | nil => exact (Option.or_none).symm
  | cons write rest ih =>
      rw [List.cons_append, written, written, ih, Option.or_assoc]

theorem written_eq_none (h : ∀ write ∈ writes, write.1 ≠ key) : written writes key = none := by
  induction writes with
  | nil => rfl
  | cons write rest ih =>
      rw [written_other (h write List.mem_cons_self)]
      exact ih fun write hmem => h write (List.mem_cons_of_mem _ hmem)

theorem foldl_update (byUser : Bool) :
    writes.foldl (fun screen write => Function.update screen write.1 ⟨write.2, byUser⟩) screen key =
      ((written writes key).map fun content => ⟨content, byUser⟩).getD (screen key) := by
  induction writes generalizing screen with
  | nil => rfl
  | cons write rest ih =>
      rw [List.foldl_cons, ih]
      obtain ⟨own, content⟩ := write
      -- a later write to the same place wins, so the rest is asked first
      by_cases hkey : own = key
      · subst hkey
        rw [written_self, Function.update_self]
        cases written rest own <;> rfl
      · rw [written_other hkey, Function.update_of_ne (Ne.symm hkey)]

theorem draw_apply :
    draw screen writes key =
      ((written writes key).map fun content => ⟨content, false⟩).getD (screen key) :=
  foldl_update false

theorem move_apply :
    move screen writes key =
      ((written writes key).map fun content => ⟨content, true⟩).getD (screen key) :=
  foldl_update true

/-- What is still the user's was not drawn on. -/
theorem draw_eq_self (h : (draw screen writes key).byUser = true) :
    draw screen writes key = screen key := by
  rw [draw_apply] at h ⊢
  cases hkey : written writes key with
  | none => rfl
  | some content =>
      rw [hkey] at h
      cases h

theorem exists_of_written {content : β key} (h : written writes key = some content) :
    ∃ write ∈ writes, write.1 = key := by
  by_contra hnone
  rw [written_eq_none fun write hmem hkey => hnone ⟨write, hmem, hkey⟩] at h
  cases h

section Loops

variable {index : κ → Option ι} {body : ι → List (Write β)}

/-- The body of a loop writes to places of its own index, and a place has one index: what a loop
leaves in it is what the body does for that index. -/
theorem written_flatMap [DecidableEq ι] (h : ∀ i, ∀ write ∈ body i, index write.1 = some i)
    (indices : List ι) :
    written (indices.flatMap body) key =
      (index key).bind fun i => if i ∈ indices then written (body i) key else none := by
  have hother {i : ι} (hi : index key ≠ some i) : written (body i) key = none :=
    written_eq_none fun write hmem hkey => hi (hkey ▸ h i write hmem)
  induction indices with
  | nil => cases index key <;> rfl
  | cons i rest ih =>
      rw [List.flatMap_cons, written_append, ih]
      cases hindex : index key with
      | none => exact hother (by rw [hindex]; exact (Option.some_ne_none i).symm)
      | some j =>
          simp only [Option.bind_some, List.mem_cons]
          by_cases hij : j = i
          · subst hij
            by_cases hmem : j ∈ rest
            · simp [hmem]
            · simp [hmem]
          · have hbody : written (body i) key = none :=
              hother (by rw [hindex]; exact fun heq => hij (Option.some.inj heq))
            simp [hij, hbody]

/-- A loop over all indices. -/
theorem written_loop {n : Nat} {index : κ → Option (Fin n)} {body : Fin n → List (Write β)}
    (h : ∀ i, ∀ write ∈ body i, index write.1 = some i) :
    written ((List.finRange n).flatMap body) key =
      (index key).bind fun i => written (body i) key := by
  rw [written_flatMap h]
  simp only [List.mem_finRange, if_true]

end Loops

end Decide

/-- The screen is what the view asks for, but for what the user has moved. -/
def Shows (view : (key : κ) → Option (β key)) (screen : (key : κ) → Place (β key)) : Prop :=
  ∀ key content, view key = some content → (screen key).byUser = false →
    (screen key).content = content

namespace Shows

variable {view next : (key : κ) → Option (β key)} {screen : (key : κ) → Place (β key)}

variable [DecidableEq κ] {writes : List (Write β)}

/-- The program draws what the next view asks for, where it was not there before. -/
theorem draw (h : Shows view screen)
    (hnext : ∀ key content, next key = some content →
      (written writes key).or (view key) = some content) :
    Shows next (draw screen writes) := by
  intro key content hcontent huser
  have hwritten := hnext key content hcontent
  rw [draw_apply] at huser ⊢
  cases hkey : written writes key with
  | some drawn =>
      rw [hkey] at hwritten
      exact Option.some.inj hwritten
  | none =>
      rw [hkey] at hwritten huser
      exact h key content hwritten huser

/-- What the user moves is not the program's any more. -/
theorem move (h : Shows view screen) : Shows view (move screen writes) := by
  intro key content hcontent huser
  rw [move_apply] at huser ⊢
  cases hkey : written writes key with
  | some moved =>
      rw [hkey] at huser
      cases huser
  | none =>
      rw [hkey] at huser
      exact h key content hcontent huser

end Shows

end Canvas
