import Mathlib

/-!
# Folds over entries with keys

A fold over entries with distinct keys, one part of whose state depends on two of the keys only.
That part is a fold over the entries of these keys (`foldl_both`), of which there are at most two,
in one order or the other (`shape`). What is under a key does not depend on the order
(`lookup_perm`).
-/

namespace Keyed

variable {κ ν σ τ : Type} [DecidableEq κ] {a b : κ} {entries : List (κ × ν)}

/-- The entries of two keys. -/
def both (a b : κ) (entries : List (κ × ν)) : List (κ × ν) :=
  entries.filter fun entry => entry.1 = a ∨ entry.1 = b

/-- There are entries of both keys, in this order. -/
def Precedes (a b : κ) (entries : List (κ × ν)) : Prop :=
  (both a b entries).map Prod.fst = [a, b]

instance (a b : κ) (entries : List (κ × ν)) : Decidable (Precedes a b entries) :=
  inferInstanceAs (Decidable (_ = _))

theorem both_cons {entry : κ × ν} :
    both a b (entry :: entries) =
      if entry.1 = a ∨ entry.1 = b then entry :: both a b entries else both a b entries := by
  simp only [both, List.filter_cons, decide_eq_true_eq]

theorem both_comm : both a b entries = both b a entries := by
  simp only [both, or_comm]

/-- What only entries of two keys change is a fold over these. -/
theorem foldl_both (part : σ → τ) {step : σ → κ × ν → σ} {change : τ → κ × ν → τ}
    (hkeep : ∀ state entry, entry.1 ≠ a → entry.1 ≠ b → part (step state entry) = part state)
    (hchange : ∀ state entry, entry.1 = a ∨ entry.1 = b →
      part (step state entry) = change (part state) entry) (state : σ) :
    part (entries.foldl step state) = (both a b entries).foldl change (part state) := by
  induction entries generalizing state with
  | nil => rfl
  | cons entry rest ih =>
      rw [List.foldl_cons, ih, both_cons]
      split_ifs with hkey
      · rw [List.foldl_cons, hchange state entry hkey]
      · obtain ⟨ha, hb⟩ := not_or.mp hkey
        rw [hkeep state entry ha hb]

theorem precedes_of_both {value other : ν} (hboth : both a b entries = [(a, value), (b, other)]) :
    Precedes a b entries :=
  congrArg (List.map Prod.fst) hboth

theorem not_precedes_of_both (hab : a ≠ b) {value other : ν}
    (hboth : both a b entries = [(b, other), (a, value)]) : ¬ Precedes a b entries := by
  intro horder
  rw [Precedes, hboth] at horder
  exact hab (List.cons.inj horder).1.symm

variable [BEq κ]

/-- What there is under two keys. -/
inductive Shape (a b : κ) (entries : List (κ × ν)) : Prop
  | neither (ha : entries.lookup a = none) (hb : entries.lookup b = none)
      (hboth : both a b entries = [])
  | first (value : ν) (ha : entries.lookup a = some value) (hb : entries.lookup b = none)
      (hboth : both a b entries = [(a, value)])
  | second (value : ν) (ha : entries.lookup a = none) (hb : entries.lookup b = some value)
      (hboth : both a b entries = [(b, value)])
  | inOrder (value other : ν) (ha : entries.lookup a = some value)
      (hb : entries.lookup b = some other) (hboth : both a b entries = [(a, value), (b, other)])
  | swapped (value other : ν) (ha : entries.lookup a = some value)
      (hb : entries.lookup b = some other) (hboth : both a b entries = [(b, other), (a, value)])

variable [LawfulBEq κ]

omit [DecidableEq κ] in
theorem lookup_eq_none (h : a ∉ entries.map Prod.fst) : entries.lookup a = none := by
  refine List.lookup_eq_none_iff.mpr fun entry hmem => ?_
  rw [bne_iff_ne]
  rintro rfl
  exact h (List.mem_map_of_mem hmem)

omit [DecidableEq κ] in
theorem lookup_eq_some_iff (hkeys : (entries.map Prod.fst).Nodup) {value : ν} :
    entries.lookup a = some value ↔ (a, value) ∈ entries := by
  induction entries with
  | nil => simp
  | cons entry rest ih =>
      obtain ⟨key, found⟩ := entry
      obtain ⟨hfresh, hrest⟩ := List.nodup_cons.mp hkeys
      rw [List.lookup_cons, List.mem_cons]
      by_cases hkey : a = key
      · subst hkey
        have hother : (a, value) ∉ rest := fun hmem =>
          hfresh (List.mem_map.mpr ⟨(a, value), hmem, rfl⟩)
        simp [hother, eq_comm]
      · rw [beq_eq_false_iff_ne.mpr hkey]
        simp [hkey, ih hrest]

omit [DecidableEq κ] in
/-- The order of the entries does not matter for what is found. -/
theorem lookup_perm {other : List (κ × ν)} (hperm : entries.Perm other)
    (hkeys : (entries.map Prod.fst).Nodup) : entries.lookup a = other.lookup a := by
  refine Option.ext fun value => ?_
  rw [lookup_eq_some_iff hkeys, lookup_eq_some_iff ((hperm.map Prod.fst).nodup_iff.mp hkeys)]
  exact hperm.mem_iff

/-- Each of two distinct keys has at most one entry. -/
theorem shape (hkeys : (entries.map Prod.fst).Nodup) (hab : a ≠ b) : Shape a b entries := by
  induction entries with
  | nil => exact .neither rfl rfl rfl
  | cons entry rest ih =>
      obtain ⟨key, value⟩ := entry
      obtain ⟨hfresh, hrest⟩ := List.nodup_cons.mp hkeys
      have hnone : rest.lookup key = none := lookup_eq_none hfresh
      have hother (other : κ) (hne : other ≠ key) :
          ((key, value) :: rest).lookup other = rest.lookup other := by
        rw [List.lookup_cons, beq_eq_false_iff_ne.mpr hne]
      have hself : ((key, value) :: rest).lookup key = some value := by
        rw [List.lookup_cons, beq_self_eq_true]
      by_cases hfirst : key = a
      · subst hfirst
        have hb := hother b (Ne.symm hab)
        cases ih hrest with
        | neither ha hnone' hboth =>
            exact .first value hself (hb.trans hnone')
              (by rw [both_cons, if_pos (Or.inl rfl), hboth])
        | second found ha hfound hboth =>
            exact .inOrder value found hself (hb.trans hfound)
              (by rw [both_cons, if_pos (Or.inl rfl), hboth])
        | first found ha | inOrder found _ ha | swapped found _ ha =>
            exact absurd (hnone.symm.trans ha) (Option.some_ne_none found).symm
      by_cases hsecond : key = b
      · subst hsecond
        have ha := hother a hab
        cases ih hrest with
        | neither hnone' hb hboth =>
            exact .second value (ha.trans hnone') hself
              (by rw [both_cons, if_pos (Or.inr rfl), hboth])
        | first found hfound hb hboth =>
            exact .swapped found value (ha.trans hfound) hself
              (by rw [both_cons, if_pos (Or.inr rfl), hboth])
        | second found _ hb | inOrder _ found _ hb | swapped _ found _ hb =>
            exact absurd (hnone.symm.trans hb) (Option.some_ne_none found).symm
      · have hkept : both a b ((key, value) :: rest) = both a b rest := by
          rw [both_cons, if_neg (not_or.mpr ⟨hfirst, hsecond⟩)]
        have ha := hother a (Ne.symm hfirst)
        have hb := hother b (Ne.symm hsecond)
        cases ih hrest with
        | neither hnone' hnone'' hboth =>
            exact .neither (ha.trans hnone') (hb.trans hnone'') (hkept.trans hboth)
        | first found hfound hnone' hboth =>
            exact .first found (ha.trans hfound) (hb.trans hnone') (hkept.trans hboth)
        | second found hnone' hfound hboth =>
            exact .second found (ha.trans hnone') (hb.trans hfound) (hkept.trans hboth)
        | inOrder found other hfound hfound' hboth =>
            exact .inOrder found other (ha.trans hfound) (hb.trans hfound') (hkept.trans hboth)
        | swapped found other hfound hfound' hboth =>
            exact .swapped found other (ha.trans hfound) (hb.trans hfound') (hkept.trans hboth)

end Keyed
