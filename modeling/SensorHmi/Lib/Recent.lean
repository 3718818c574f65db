import Mathlib

/-!
# The recent part of a history

A history is a list with its newest entry first. Its recent part are the newest entries that
satisfy a test, at most as many as a capacity. The rules say what becomes of the recent part when
time passes (`filter_recent`) and when an entry is added (`recent_cons`): with the capacity reached,
the oldest entry makes room (`recent_pred_of_full`).
-/

namespace Recent

variable {α : Type} {young later : α → Bool} {history : List α} {capacity : Nat} {entry : α}

/-- The at most `capacity` newest entries of a history that satisfy the test. -/
def recent (capacity : Nat) (young : α → Bool) (history : List α) : List α :=
  (history.filter young).take capacity

theorem mem_of_mem_recent (h : entry ∈ recent capacity young history) :
    entry ∈ history ∧ young entry = true :=
  List.mem_filter.mp (List.mem_of_mem_take h)

/-- The recent part keeps the order of the history. -/
theorem recent_sublist : (recent capacity young history).Sublist history :=
  (List.take_sublist _ _).trans List.filter_sublist

/-- A stricter test that no entry passes after a newer one failed it leaves of the recent part what
it leaves of the history. -/
theorem filter_recent (hstrict : ∀ entry ∈ history, later entry = true → young entry = true)
    (horder : history.Pairwise fun newer older => later older = true → later newer = true) :
    (recent capacity young history).filter later = recent capacity later history := by
  induction history generalizing capacity with
  | nil => simp [recent]
  | cons head rest ih =>
      obtain ⟨hhead, hrest⟩ := List.pairwise_cons.mp horder
      have hrestStrict : ∀ entry ∈ rest, later entry = true → young entry = true :=
        fun entry hmem => hstrict entry (List.mem_cons_of_mem _ hmem)
      by_cases hlater : later head = true
      · have hyoung : young head = true := hstrict head List.mem_cons_self hlater
        cases capacity with
        | zero => simp [recent]
        | succ capacity =>
            have htail : ((rest.filter young).take capacity).filter later =
                (rest.filter later).take capacity := ih hrestStrict hrest
            simp only [recent, List.filter_cons_of_pos hyoung, List.filter_cons_of_pos hlater,
              List.take_succ_cons, htail]
      · -- the newest entry has failed the test, so all have
        have hnone : ∀ entry ∈ head :: rest, ¬ later entry = true := by
          intro entry hmem hpasses
          rcases List.mem_cons.mp hmem with rfl | htail
          · exact hlater hpasses
          · exact hlater (hhead entry htail hpasses)
        have hright : recent capacity later (head :: rest) = [] := by
          rw [recent, List.filter_eq_nil_iff.mpr hnone, List.take_nil]
        have hleft : (recent capacity young (head :: rest)).filter later = [] :=
          List.filter_eq_nil_iff.mpr fun entry hmem => hnone entry (mem_of_mem_recent hmem).1
        rw [hleft, hright]

/-- A new entry leaves room for one entry less. -/
theorem recent_cons (hentry : young entry = true) (hcapacity : 1 ≤ capacity) :
    recent capacity young (entry :: history) = entry :: recent (capacity - 1) young history := by
  obtain ⟨capacity, rfl⟩ := Nat.exists_eq_add_of_le' hcapacity
  rw [recent, List.filter_cons_of_pos hentry, List.take_succ_cons]
  rfl

/-- With room for another entry, one entry less loses nothing. -/
theorem recent_pred_of_room (hroom : (recent capacity young history).length < capacity) :
    recent (capacity - 1) young history = recent capacity young history := by
  rw [recent, List.length_take] at hroom
  rw [recent, recent, List.take_of_length_le (by omega), List.take_of_length_le (by omega)]

/-- Without room for another entry, one entry less loses the oldest one. -/
theorem recent_pred_of_full (hfull : (recent capacity young history).length = capacity) :
    recent (capacity - 1) young history = (recent capacity young history).dropLast := by
  rw [List.dropLast_eq_take, hfull, recent, recent, List.take_take,
    Nat.min_eq_left (Nat.sub_le _ _)]

end Recent
