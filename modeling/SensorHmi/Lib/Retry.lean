import Mathlib

/-!
# Retry loops

A loop that makes at most so many attempts at one thing, until one of them is done or gives up.
What an attempt finds is its input, so that a loop of `n` attempts has `n` inputs of which it may
leave some unused. `loop_rule` proves facts about a whole loop from facts about one attempt, and
`loop_ok_iff` says that a loop comes to a value exactly by failing attempts and then one that is
done.
-/

namespace Retry

/-- What an attempt comes to: it is done, it failed and may be made again, or it gives up. -/
inductive Outcome (ε α : Type)
  | done (value : α)
  | again (err : ε)
  | abort (err : ε)

variable {σ ι ω ε α : Type}

/-- The value of an attempt that is done. -/
def Outcome.value? : Outcome ε α → Option α
  | .done value => some value
  | _ => none

/-- The attempt failed and may be made again. -/
def Outcome.Fails (outcome : Outcome ε α) : Prop :=
  ∃ err, outcome = .again err

theorem done_not_fails {value : α} : ¬ (Outcome.done value : Outcome ε α).Fails := by
  intro h
  obtain ⟨err, h⟩ := h
  cases h

theorem abort_not_fails {err : ε} : ¬ (Outcome.abort err : Outcome ε α).Fails := by
  intro h
  obtain ⟨err', h⟩ := h
  cases h

/-- The attempts from the `k`-th on, with the last error so far. Each returns what it comes to, the
next state and what it shows. -/
def loop (attempt : Nat → σ → ι → Outcome ε α × σ × List ω) :
    (k : Nat) → ε → σ → List ι → Except ε α × σ × List ω
  | _, err, state, [] => (.error err, state, [])
  | k, _, state, input :: rest =>
      match attempt k state input with
      | (.done value, next, shown) => (.ok value, next, shown)
      | (.abort err, next, shown) => (.error err, next, shown)
      | (.again err, next, shown) =>
          let (result, final, later) := loop attempt (k + 1) err next rest
          (result, final, shown ++ later)

section Loop

variable {attempt : Nat → σ → ι → Outcome ε α × σ × List ω} {k : Nat} {err : ε} {state next : σ}
  {input : ι} {rest : List ι} {shown : List ω} {value : α}

@[simp] theorem loop_nil : loop attempt k err state [] = (.error err, state, []) := rfl

theorem loop_done (h : attempt k state input = (.done value, next, shown)) :
    loop attempt k err state (input :: rest) = (.ok value, next, shown) := by
  rw [loop, h]

theorem loop_abort {err' : ε} (h : attempt k state input = (.abort err', next, shown)) :
    loop attempt k err state (input :: rest) = (.error err', next, shown) := by
  rw [loop, h]

theorem loop_again {err' : ε} (h : attempt k state input = (.again err', next, shown)) :
    loop attempt k err state (input :: rest) =
      ((loop attempt (k + 1) err' next rest).1, (loop attempt (k + 1) err' next rest).2.1,
        shown ++ (loop attempt (k + 1) err' next rest).2.2) := by
  rw [loop, h]

/-- What holds before the first attempt, is kept by every attempt that fails, and gives the
conclusion where an attempt ends the loop or no attempt is left, holds of the loop. -/
theorem loop_rule (P : Nat → ε → σ → List ω → Prop) (Q : Except ε α → σ → List ω → Prop)
    {inputs : List ι}
    (hagain : ∀ j err state shown input err' next more, j < k + inputs.length → input ∈ inputs →
      P j err state shown → attempt j state input = (.again err', next, more) →
      P (j + 1) err' next (shown ++ more))
    (hdone : ∀ j err state shown input value next more, j < k + inputs.length → input ∈ inputs →
      P j err state shown → attempt j state input = (.done value, next, more) →
      Q (.ok value) next (shown ++ more))
    (habort : ∀ j err state shown input err' next more, j < k + inputs.length → input ∈ inputs →
      P j err state shown → attempt j state input = (.abort err', next, more) →
      Q (.error err') next (shown ++ more))
    (hend : ∀ err state shown, P (k + inputs.length) err state shown → Q (.error err) state shown)
    (hstart : P k err state shown) :
    Q (loop attempt k err state inputs).1 (loop attempt k err state inputs).2.1
      (shown ++ (loop attempt k err state inputs).2.2) := by
  -- the attempts left are counted from `k`, so the invariant moves on with each
  induction inputs generalizing k err state shown with
  | nil =>
      rw [loop_nil, List.append_nil]
      exact hend err state shown hstart
  | cons input rest ih =>
      have hfar : k + (input :: rest).length = k + 1 + rest.length := by
        rw [List.length_cons, Nat.add_comm rest.length 1, ← Nat.add_assoc]
      have hlt : k < k + (input :: rest).length := by omega
      rw [hfar] at hagain hdone habort hend hlt
      generalize hfirst : attempt k state input = first
      obtain ⟨outcome, next, more⟩ := first
      cases outcome with
      | done value =>
          rw [loop_done hfirst]
          exact hdone k err state shown input value next more hlt List.mem_cons_self hstart hfirst
      | abort err' =>
          rw [loop_abort hfirst]
          exact habort k err state shown input err' next more hlt List.mem_cons_self hstart hfirst
      | again err' =>
          rw [loop_again hfirst, ← List.append_assoc]
          have hkept := hagain k err state shown input err' next more hlt List.mem_cons_self hstart
            hfirst
          refine ih ?_ ?_ ?_ hend hkept
          · exact fun j err state shown input err' next more hj hmem =>
              hagain j err state shown input err' next more hj (List.mem_cons_of_mem _ hmem)
          · exact fun j err state shown input value next more hj hmem =>
              hdone j err state shown input value next more hj (List.mem_cons_of_mem _ hmem)
          · exact fun j err state shown input err' next more hj hmem =>
              habort j err state shown input err' next more hj (List.mem_cons_of_mem _ hmem)

/-- Where the input decides what an attempt comes to, a loop has the value of the first attempt that
does not fail. -/
theorem loop_ok_iff {outcome : ι → Outcome ε α} {inputs : List ι}
    (houtcome : ∀ k state input, (attempt k state input).1 = outcome input) :
    (loop attempt k err state inputs).1 = .ok value ↔
      ∃ failed input unused, inputs = failed ++ input :: unused ∧
        (∀ other ∈ failed, (outcome other).Fails) ∧ outcome input = .done value := by
  induction inputs generalizing k err state with
  | nil =>
      constructor
      · intro h
        cases h
      · intro h
        obtain ⟨failed, input, unused, h, _⟩ := h
        exact absurd h (by simp)
  | cons first rest ih =>
      have hinput := houtcome k state first
      generalize hfirst : attempt k state first = result at hinput
      obtain ⟨outcome', next, more⟩ := result
      have hinput : outcome first = outcome' := hinput.symm
      -- an attempt that ends the loop is the first one of any split
      have hhead : ¬ outcome'.Fails → ∀ failed input unused,
          first :: rest = failed ++ input :: unused → (∀ other ∈ failed, (outcome other).Fails) →
          outcome input = outcome' := by
        intro hends failed input unused hsplit hfailed
        cases failed with
        | nil => rw [← (List.cons.inj hsplit).1, hinput]
        | cons head tail =>
            obtain rfl : first = head := (List.cons.inj hsplit).1
            exact absurd (hinput ▸ hfailed first List.mem_cons_self) hends
      cases outcome' with
      | done found =>
          rw [loop_done hfirst]
          constructor
          · intro h
            refine ⟨[], first, rest, rfl, fun _ hmem => absurd hmem List.not_mem_nil, ?_⟩
            rw [hinput, Except.ok.inj h]
          · intro h
            obtain ⟨failed, input, unused, hsplit, hfailed, hvalue⟩ := h
            have hsame := hhead done_not_fails failed input unused hsplit hfailed
            rw [hsame] at hvalue
            cases hvalue
            rfl
      | abort err' =>
          rw [loop_abort hfirst]
          constructor
          · intro h
            cases h
          · intro h
            obtain ⟨failed, input, unused, hsplit, hfailed, hvalue⟩ := h
            have hsame := hhead abort_not_fails failed input unused hsplit hfailed
            rw [hsame] at hvalue
            cases hvalue
      | again err' =>
          rw [loop_again hfirst, ih]
          constructor
          · intro h
            obtain ⟨failed, input, unused, hsplit, hfailed, hvalue⟩ := h
            refine ⟨first :: failed, input, unused, by rw [hsplit]; rfl, ?_, hvalue⟩
            intro other hmem
            rcases List.mem_cons.mp hmem with rfl | hmem
            · exact ⟨err', hinput⟩
            · exact hfailed other hmem
          · intro h
            obtain ⟨failed, input, unused, hsplit, hfailed, hvalue⟩ := h
            cases failed with
            | nil =>
                rw [← (List.cons.inj hsplit).1, hinput] at hvalue
                cases hvalue
            | cons head tail =>
                exact ⟨tail, input, unused, (List.cons.inj hsplit).2,
                  fun other hmem => hfailed other (List.mem_cons_of_mem _ hmem), hvalue⟩

/-- The same by the places of a list of `n` inputs. -/
theorem loop_vector_ok_iff {n : Nat} {outcome : ι → Outcome ε α} (inputs : Vector ι n)
    (houtcome : ∀ k state input, (attempt k state input).1 = outcome input) :
    (loop attempt k err state inputs.toList).1 = .ok value ↔
      ∃ i : Fin n, (∀ j < i, (outcome (inputs.get j)).Fails) ∧
        outcome (inputs.get i) = .done value := by
  rw [loop_ok_iff houtcome]
  constructor
  · intro h
    obtain ⟨failed, input, unused, hsplit, hfailed, hvalue⟩ := h
    have hlength : inputs.toList.length = n := Vector.length_toList
    have hlt : failed.length < n := by
      rw [← hlength, hsplit, List.length_append, List.length_cons]
      omega
    -- the position of the attempt that succeeds is the number of those before it
    have hget (j : Fin n) : inputs.toList[j.val]? = some (inputs.get j) := by
      rw [List.getElem?_eq_getElem (by rw [hlength]; exact j.isLt)]
      rfl
    refine ⟨⟨failed.length, hlt⟩, fun j hj => ?_, ?_⟩
    · have hbefore := hget j
      rw [hsplit, List.getElem?_append_left hj] at hbefore
      exact hfailed _ (List.mem_of_getElem? hbefore)
    · have hat := hget ⟨failed.length, hlt⟩
      rw [hsplit, List.getElem?_append_right le_rfl, Nat.sub_self] at hat
      rw [← Option.some.inj hat]
      exact hvalue
  · intro h
    obtain ⟨i, hfailed, hvalue⟩ := h
    have hi : i.val < inputs.toList.length := by
      rw [Vector.length_toList]
      exact i.isLt
    refine ⟨inputs.toList.take i, inputs.get i, inputs.toList.drop (i + 1), ?_, ?_, hvalue⟩
    · show inputs.toList = inputs.toList.take i ++ inputs.toList[i.val] ::
        inputs.toList.drop (i + 1)
      rw [← List.drop_eq_getElem_cons hi, List.take_append_drop]
    · intro other hmem
      obtain ⟨j, hj, rfl⟩ := List.getElem_of_mem hmem
      have hlt : j < i.val := by
        rw [List.length_take] at hj
        omega
      rw [List.getElem_take]
      exact hfailed ⟨j, hlt.trans i.isLt⟩ hlt

end Loop

end Retry
