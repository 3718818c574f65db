import Mathlib

/-!
# Lists cut at a separator

`split sep text` cuts a list at the first place where the separator stands. What is behind the
separator does not matter for where that is (`split_append`), so two lists that are put together
around a separator can be told apart (`append_inj_of_not_mem`).
-/

namespace Partition

variable {α : Type} [DecidableEq α] {sep text before after rest : List α} {item : α}

/-- What is before and behind the first place where the separator stands. -/
def split (sep : List α) : List α → Option (List α × List α)
  | [] => if sep = [] then some ([], []) else none
  | first :: rest =>
      if sep <+: first :: rest then some ([], (first :: rest).drop sep.length)
      else (split sep rest).map fun parts => (first :: parts.1, parts.2)

/-- The list is its two parts around the separator. -/
theorem eq_of_split (h : split sep text = some (before, after)) :
    text = before ++ sep ++ after := by
  induction text generalizing before with
  | nil =>
      rw [split] at h
      split_ifs at h with hsep
      obtain ⟨rfl, rfl⟩ := Prod.mk.inj (Option.some.inj h)
      rw [hsep, List.nil_append, List.append_nil]
  | cons first rest ih =>
      rw [split] at h
      split_ifs at h with hprefix
      · obtain ⟨rfl, rfl⟩ := Prod.mk.inj (Option.some.inj h)
        exact (List.prefix_append_drop hprefix)
      · obtain ⟨parts, hparts, hcut⟩ := Option.map_eq_some_iff.mp h
        obtain ⟨rfl, rfl⟩ := Prod.mk.inj hcut
        rw [ih hparts, List.cons_append, List.cons_append]

theorem split_self (sep rest : List α) : split sep (sep ++ rest) = some ([], rest) := by
  cases hall : sep ++ rest with
  | nil =>
      obtain ⟨rfl, rfl⟩ := List.append_eq_nil_iff.mp hall
      rfl
  | cons first tail =>
      have hprefix : sep <+: first :: tail := hall ▸ List.prefix_append sep rest
      rw [split, if_pos hprefix, ← hall, List.drop_left]

/-- Where a list is cut does not depend on what is behind the separator. -/
theorem split_append (h : split sep text = some (before, after)) (rest : List α) :
    split sep (before ++ sep ++ rest) = some (before, rest) := by
  induction text generalizing before with
  | nil =>
      rw [split] at h
      split_ifs at h
      obtain ⟨rfl, rfl⟩ := Prod.mk.inj (Option.some.inj h)
      exact split_self sep rest
  | cons first tail ih =>
      rw [split] at h
      split_ifs at h with hprefix
      · obtain ⟨rfl, rfl⟩ := Prod.mk.inj (Option.some.inj h)
        exact split_self sep rest
      · obtain ⟨parts, hparts, hcut⟩ := Option.map_eq_some_iff.mp h
        obtain ⟨rfl, rfl⟩ := Prod.mk.inj hcut
        have hother : ¬ sep <+: first :: (parts.1 ++ sep ++ rest) := by
          intro hfound
          -- The separator would stand there already in front of what follows in the text.
          have hshort : sep <+: first :: (parts.1 ++ sep) :=
            List.prefix_of_prefix_length_le hfound
              (List.prefix_append (first :: (parts.1 ++ sep)) rest)
              (by simp; omega)
          rw [eq_of_split hparts] at hprefix
          exact hprefix (hshort.trans (List.prefix_append (first :: (parts.1 ++ sep)) parts.2))
        rw [List.cons_append, List.cons_append, split, if_neg hother, ih hparts]
        rfl

omit [DecidableEq α] in
/-- Of two lists cut at one item, the parts are the same. -/
theorem append_inj_of_not_mem {other tail : List α} (hbefore : item ∉ before) (hother :
    item ∉ other)
    (hrest : rest.head? = some item) (htail : tail.head? = some item)
    (h : before ++ rest = other ++ tail) : before = other ∧ rest = tail := by
  induction before generalizing other with
  | nil =>
      cases other with
      | nil => exact ⟨rfl, h⟩
      | cons first other =>
          rw [List.nil_append] at h
          rw [h, List.cons_append, List.head?_cons] at hrest
          exact absurd (Option.some.inj hrest ▸ List.mem_cons_self) hother
  | cons first before ih =>
      cases other with
      | nil =>
          rw [List.nil_append] at h
          rw [← h, List.cons_append, List.head?_cons] at htail
          exact absurd (Option.some.inj htail ▸ List.mem_cons_self) hbefore
      | cons second other =>
          obtain ⟨rfl, hlater⟩ := List.cons.inj h
          obtain ⟨rfl, hsame⟩ := ih (List.not_mem_of_not_mem_cons hbefore)
            (List.not_mem_of_not_mem_cons hother) hlater
          exact ⟨rfl, hsame⟩

end Partition
