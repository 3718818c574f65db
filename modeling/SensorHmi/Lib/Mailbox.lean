import Mathlib

/-!
# A place for one value

A writer leaves a value and overwrites the one before; a reader takes it if there is one. Values get
lost, but what is taken is in the order it was left, each value once, and a reader that finds
nothing new has taken the last one: `Follows`.
-/

namespace Mailbox

variable {α : Type}

/-- The place, and whether its value was left since it was taken. -/
structure Box (α : Type) where
  value : α
  full : Bool := false

/-- Leave a value. -/
def Box.put (_ : Box α) (value : α) : Box α where
  value := value
  full := true

/-- The value taken, if it is new. -/
def Box.taken (box : Box α) : Option α :=
  if box.full then some box.value else none

/-- Take the value. -/
def Box.take (box : Box α) : Box α :=
  { box with full := false }

variable {box : Box α} {puts takes : List α} {value : α}

/-- What was left and what was taken so far. -/
structure Follows (box : Box α) (puts takes : List α) : Prop where
  order : (takes ++ box.taken.toList).Sublist puts
  /-- The place holds what was left last. -/
  latest : ∀ value, puts.getLast? = some value → box.value = value
  /-- What is not new has been taken. -/
  seen : box.full = false → takes.getLast? = puts.getLast?

/-- Nothing left, nothing taken. -/
theorem follows_start (value : α) : Follows ⟨value, false⟩ [] [] where
  order := .slnil
  latest := fun _ h => by cases h
  seen := fun _ => rfl

namespace Follows

theorem put (h : Follows box puts takes) (value : α) :
    Follows (box.put value) (puts ++ [value]) takes where
  order := by
    -- the value that is overwritten is given up
    have htakes : takes.Sublist puts := (List.sublist_append_left _ _).trans h.order
    exact htakes.append (List.Sublist.refl [value])
  latest := by
    intro last hlast
    rw [List.getLast?_concat] at hlast
    exact Option.some.inj hlast
  seen := fun hfull => by cases hfull

theorem take (h : Follows box puts takes) :
    Follows box.take puts (takes ++ box.taken.toList) where
  order := by
    show (takes ++ box.taken.toList ++ []).Sublist puts
    rw [List.append_nil]
    exact h.order
  latest := h.latest
  seen := by
    intro _
    unfold Box.taken
    cases hfull : box.full with
    | false =>
        show (takes ++ []).getLast? = puts.getLast?
        rw [List.append_nil, h.seen hfull]
    | true =>
        have horder := h.order
        rw [Box.taken, if_pos hfull] at horder
        show (takes ++ [box.value]).getLast? = puts.getLast?
        rw [List.getLast?_concat]
        -- something was left, for the value that is new is part of it
        have hne : puts ≠ [] := by
          rintro rfl
          simp at horder
        rw [List.getLast?_eq_some_getLast hne, h.latest _ (List.getLast?_eq_some_getLast hne)]

/-- The last value taken is the last one left, unless a new one is there. -/
theorem last (h : Follows box puts takes) (htaken : box.taken = none) :
    takes.getLast? = puts.getLast? := by
  apply h.seen
  by_contra hfull
  rw [Box.taken, if_pos (by simpa using hfull)] at htaken
  cases htaken

end Follows

end Mailbox
