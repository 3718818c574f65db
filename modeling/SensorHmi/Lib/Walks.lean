import SensorHmi.Lib.Loop

/-!
# Where loops with fuel lead

The control states a program can return in, as a relation without fuel. `Walk` is a while loop and
`WalkUpTo` a bounded one. `Settles` says of a program that with some fuel it returns in exactly the
states of a relation, seen through a view of what it returns, and under which condition no fuel is
enough: a while loop whose moves stay in place or come nearer to an end goes on for ever exactly
from the heads that lead to a trap (`Trapped`). The rules follow the parts that programs are made
of.
-/

namespace Loop

variable {σ τ α β γ δ : Type}

/-- A while loop leads from one control state to another. -/
inductive Walk (test : σ → Bool) (move : σ → σ → Prop) : σ → σ → Prop
  | exit {state : σ} : test state = false → Walk test move state state
  | next {state middle final : σ} : test state = true → move state middle →
      Walk test move middle final → Walk test move state final

/-- So does a loop with a bound on its iterations. -/
inductive WalkUpTo (test : σ → Bool) (move : σ → σ → Prop) : Nat → σ → σ → Prop
  | bound {state : σ} : WalkUpTo test move 0 state state
  | exit {todo : Nat} {state : σ} : test state = false → WalkUpTo test move todo state state
  | next {todo : Nat} {state middle final : σ} : test state = true → move state middle →
      WalkUpTo test move todo middle final → WalkUpTo test move (todo + 1) state final

/-- A while loop comes to a head where an iteration goes nowhere, or never ends itself. -/
def Trapped (test : σ → Bool) (move : σ → σ → Prop) (stuck : σ → Prop) (state : σ) : Prop :=
  ∃ head, Relation.ReflTransGen (fun before next => test before = true ∧ move before next)
    state head ∧ test head = true ∧ (move head head ∨ stuck head)

/-- A loop with a bound comes within it to a head where an iteration never ends. -/
inductive TrappedUpTo (test : σ → Bool) (move : σ → σ → Prop) (stuck : σ → Prop) : Nat → σ → Prop
  | inside {todo : Nat} {state : σ} : test state = true → stuck state →
      TrappedUpTo test move stuck (todo + 1) state
  | next {todo : Nat} {state middle : σ} : test state = true → move state middle →
      TrappedUpTo test move stuck todo middle → TrappedUpTo test move stuck (todo + 1) state

/-- What the program returns with any fuel, its view says is an end, and every end is returned with
enough fuel; more fuel does not change a run that ended; and no fuel is enough for a run that ends
if and only if the program is stuck. -/
structure Settles (view : α → β) (program : Nat → Run σ α) (End : β → Prop) (stuck : Prop) :
    Prop where
  sound : ∀ {fuel : Nat} {result : α}, program fuel = .ok result → End (view result)
  complete : ∀ {final : β}, End final →
    ∃ enough, ∀ fuel, enough ≤ fuel → ∃ result, program fuel = .ok result ∧ view result = final
  stable : ∀ {less more : Nat}, less ≤ more → Ends (program less) → program more = program less
  ends_iff : (∃ fuel, Ends (program fuel)) ↔ ¬ stuck

namespace Settles

variable {view : α → β} {program : Nat → Run σ α} {End : β → Prop} {stuck : Prop}

/-- The program returns with some fuel exactly if there is an end. -/
theorem returns_iff (h : Settles view program End stuck) :
    (∃ fuel result, program fuel = .ok result) ↔ ∃ final, End final := by
  constructor
  · rintro ⟨fuel, result, hresult⟩
    exact ⟨view result, h.sound hresult⟩
  · rintro ⟨final, hend⟩
    obtain ⟨enough, hall⟩ := h.complete hend
    obtain ⟨result, hresult, -⟩ := hall enough le_rfl
    exact ⟨enough, result, hresult⟩

theorem not_ends (h : Settles view program End stuck) (hstuck : stuck) (fuel : Nat) :
    ¬ Ends (program fuel) :=
  fun hends => h.ends_iff.mp ⟨fuel, hends⟩ hstuck

theorem congr {End' : β → Prop} {stuck' : Prop} (h : Settles view program End stuck)
    (hends : ∀ final, End final ↔ End' final) (hstuck : stuck ↔ stuck') :
    Settles view program End' stuck' := by
  have hsame : End = End' := funext fun final => propext (hends final)
  rwa [← hsame, ← propext hstuck]

/-- A program that returns at once. -/
theorem ok (value : α) : Settles view (fun _ => (.ok value : Run σ α))
    (fun final => final = view value) False where
  sound h := by
    cases h
    rfl
  complete h := ⟨0, fun _ _ => ⟨value, rfl, h.symm⟩⟩
  stable _ _ := rfl
  ends_iff := iff_of_true ⟨0, ends_ok value⟩ id

/-- A program that is rejected has no end. -/
theorem rejected : Settles view (fun _ => (.error .rejected : Run σ α)) (fun _ => False) False where
  sound h := by cases h
  complete h := h.elim
  stable _ _ := rfl
  ends_iff := iff_of_true ⟨0, ends_rejected⟩ id

/-- One program after another, which depends on the view alone. -/
theorem bind {view' : γ → δ} {second : Nat → α → Run σ γ}
    (hfirst : Settles view program End stuck) (Rest : β → δ → Prop) (stuckAfter : β → Prop)
    (hsecond : ∀ value, Settles view' (fun fuel => second fuel value) (Rest (view value))
      (stuckAfter (view value))) :
    Settles view' (fun fuel => program fuel >>= second fuel)
      (fun final => ∃ middle, End middle ∧ Rest middle final)
      (stuck ∨ ∃ middle, End middle ∧ stuckAfter middle) := by
  -- what the first program returns, it returns with more fuel too
  have hsame {less more : Nat} {value : α} (hle : less ≤ more) (h : program less = .ok value) :
      program more = .ok value :=
    (hfirst.stable hle (ends_of_eq_ok h)).trans h
  have hstable {less more : Nat} (hle : less ≤ more) (hends : Ends (program less >>= second less)) :
      program more >>= second more = program less >>= second less := by
    rw [hfirst.stable hle hends.first]
    cases hvalue : program less with
    | error stop => rfl
    | ok value =>
        rw [hvalue] at hends
        exact (hsecond value).stable hle hends
  refine ⟨?_, ?_, hstable, ?_, ?_⟩
  · intro fuel result hresult
    obtain ⟨value, hvalue, hrest⟩ := bind_eq_ok_iff.mp hresult
    exact ⟨view value, hfirst.sound hvalue, (hsecond value).sound hrest⟩
  · rintro final ⟨middle, hend, hrest⟩
    obtain ⟨enough, hall⟩ := hfirst.complete hend
    obtain ⟨value, hvalue, rfl⟩ := hall enough le_rfl
    obtain ⟨enough', hall'⟩ := (hsecond value).complete hrest
    refine ⟨max enough enough', fun fuel hle => ?_⟩
    obtain ⟨result, hresult, hview⟩ := hall' fuel (by omega)
    exact ⟨result, bind_eq_ok_iff.mpr ⟨value, hsame (by omega) hvalue, hresult⟩, hview⟩
  · rintro ⟨fuel, hends⟩ (hstuck | ⟨middle, hend, hstuck⟩)
    · exact hfirst.not_ends hstuck fuel hends.first
    · obtain ⟨enough, hall⟩ := hfirst.complete hend
      obtain ⟨value, hvalue, rfl⟩ := hall (max fuel enough) (le_max_right _ _)
      rw [← hstable (le_max_left fuel enough) hends, hvalue, ok_bind] at hends
      exact (hsecond value).not_ends hstuck _ hends
  · intro hfree
    obtain ⟨fuel, hends⟩ := hfirst.ends_iff.mpr fun hstuck => hfree (.inl hstuck)
    cases hvalue : program fuel with
    | error stop =>
        refine ⟨fuel, fun now hstalled => ?_⟩
        rw [hvalue] at hends hstalled
        exact hends now (by cases hstalled; rfl)
    | ok value =>
        obtain ⟨fuel', hends'⟩ := (hsecond value).ends_iff.mpr fun hstuck =>
          hfree (.inr ⟨_, hfirst.sound hvalue, hstuck⟩)
        refine ⟨max fuel fuel', ?_⟩
        rw [hsame (le_max_left _ _) hvalue, ok_bind,
          (hsecond value).stable (le_max_right _ _) hends']
        exact hends'

/-- A last step that returns, and where it does so depends on the view alone. -/
theorem andThen {view' : γ → δ} {second : α → Run σ γ} (h : Settles view program End stuck)
    (move : β → δ) (hsecond : ∀ value, ∃ result, second value = .ok result ∧
      view' result = move (view value)) :
    Settles view' (fun fuel => program fuel >>= second)
      (fun final => ∃ middle, End middle ∧ final = move middle) stuck := by
  have hlast (value : α) : Settles view' (fun _ => second value)
      (fun final => final = move (view value)) False := by
    obtain ⟨result, hresult, hview⟩ := hsecond value
    rw [hresult, ← hview]
    exact ok result
  refine (h.bind (fun middle final => final = move middle) (fun _ => False) hlast).congr
    (fun final => Iff.rfl) ?_
  simp

/-- A step without a loop, and then the rest. -/
theorem after {first : Run σ γ} {second : Nat → γ → Run σ α} {Rest : γ → β → Prop}
    {stuckAfter : γ → Prop} (hfirst : Ends first)
    (h : ∀ value, first = .ok value →
      Settles view (fun fuel => second fuel value) (Rest value) (stuckAfter value)) :
    Settles view (fun fuel => first >>= second fuel)
      (fun final => ∃ value, first = .ok value ∧ Rest value final)
      (∃ value, first = .ok value ∧ stuckAfter value) := by
  cases first with
  | ok value =>
      refine (h value rfl).congr (fun final => ?_) ?_
      · simp
      · simp
  | error stop =>
      cases stop with
      | stalled now => exact absurd rfl (hfirst now)
      | rejected =>
          refine (@rejected σ α β view).congr (fun final => ?_) ?_
          · simp
          · simp

section While

variable {test : σ → Bool} {body : Nat → σ → Run σ (σ × (τ → τ))} {move : σ → σ → Prop}
  {stuckBody : σ → Prop} {state : σ}

/-- What a loop returns, it walks to. -/
theorem walk_of_whileLoop
    (hbody : ∀ state, Settles Prod.fst (fun fuel => body fuel state) (move state)
      (stuckBody state)) {inner turns : Nat} {result : σ × (τ → τ)}
    (h : Loop.whileLoop test (body inner) turns state = .ok result) :
    Walk test move state result.1 := by
  induction turns generalizing state result with
  | zero =>
      rw [Loop.whileLoop] at h
      split_ifs at h with htest
      cases h
      exact .exit (by simpa using htest)
  | succ turns ih =>
      by_cases htest : test state = true
      · rw [whileLoop_succ htest] at h
        obtain ⟨step, hstep, h⟩ := bind_eq_ok_iff.mp h
        obtain ⟨later, hlater, h⟩ := bind_eq_ok_iff.mp h
        cases h
        have hrest : Walk test move step.1 later.1 := ih hlater
        exact .next htest ((hbody state).sound hstep) hrest
      · rw [whileLoop_exit (by simpa using htest)] at h
        cases h
        exact .exit (by simpa using htest)

/-- Where a loop walks to, it returns with enough fuel. -/
theorem whileLoop_of_walk
    (hbody : ∀ state, Settles Prod.fst (fun fuel => body fuel state) (move state)
      (stuckBody state)) {final : σ} (hwalk : Walk test move state final) :
    ∃ enough, ∀ inner, enough ≤ inner → ∀ turns, enough ≤ turns → ∃ result : σ × (τ → τ),
      Loop.whileLoop test (body inner) turns state = .ok result ∧ result.1 = final := by
  induction hwalk with
  | exit htest => exact ⟨0, fun _ _ _ _ => ⟨_, whileLoop_exit htest, rfl⟩⟩
  | next htest hmove _ ih =>
      obtain ⟨enough, hall⟩ := ih
      obtain ⟨enough', hstep⟩ := (hbody _).complete hmove
      refine ⟨max enough enough' + 1, fun inner hinner turns hturns => ?_⟩
      obtain ⟨turns, rfl⟩ : ∃ less, turns = less + 1 := ⟨turns - 1, by omega⟩
      obtain ⟨⟨middle, update⟩, hbody, rfl⟩ := hstep inner (by omega)
      obtain ⟨⟨final, later⟩, hlater, rfl⟩ := hall inner (by omega) turns (by omega)
      refine ⟨(final, later ∘ update), ?_, rfl⟩
      rw [whileLoop_step htest hbody, hlater]
      rfl

/-- More fuel, for the loop and for its body, does not change a loop that ended. -/
theorem whileLoop_stable {less more turns turns' : Nat}
    (hbody : ∀ state, Ends (body less state) → body more state = body less state)
    (hturns : turns ≤ turns') (hends : Ends (Loop.whileLoop test (body less) turns state)) :
    Loop.whileLoop test (body more) turns' state =
      Loop.whileLoop test (body less) turns state := by
  induction turns generalizing turns' state with
  | zero =>
      by_cases htest : test state = true
      · exact absurd (by simp [Loop.whileLoop, htest]) (hends state)
      · rw [whileLoop_exit (by simpa using htest), whileLoop_exit (by simpa using htest)]
  | succ turns ih =>
      by_cases htest : test state = true
      · obtain ⟨turns', rfl⟩ : ∃ n, turns' = n + 1 := ⟨turns' - 1, by omega⟩
        rw [whileLoop_succ htest] at hends ⊢
        rw [whileLoop_succ htest, hbody state hends.first]
        cases hstep : body less state with
        | error stop => rfl
        | ok step =>
            rw [hstep, ok_bind] at hends
            rw [ok_bind, ok_bind, ih (by omega) hends.first]
      · rw [whileLoop_exit (by simpa using htest), whileLoop_exit (by simpa using htest)]

/-- A loop that is not trapped ends: every iteration comes nearer to an end. -/
theorem whileLoop_ends {measure : σ → Nat}
    (hbody : ∀ state, Settles Prod.fst (fun fuel => body fuel state) (move state)
      (stuckBody state))
    (honward : ∀ {state next}, move state next → next = state ∨ measure next < measure state)
    (hfree : ¬ Trapped test move stuckBody state) :
    ∃ enough, Ends (Loop.whileLoop test (body enough) enough state) := by
  -- by induction on the measure of the head
  induction hn : measure state using Nat.strong_induction_on generalizing state with
  | _ n ih =>
      by_cases htest : test state = true
      swap
      · refine ⟨0, ?_⟩
        rw [whileLoop_exit (by simpa using htest)]
        exact ends_ok _
      have hnotStuck : ¬ stuckBody state := fun hstuck =>
        hfree ⟨state, .refl, htest, .inr hstuck⟩
      obtain ⟨inner, hinner⟩ := (hbody state).ends_iff.mpr hnotStuck
      cases hstep : body inner state with
      | error stop =>
          refine ⟨inner + 1, ?_⟩
          have hstable := (hbody state).stable (Nat.le_succ inner) hinner
          rw [hstep] at hinner hstable
          rw [whileLoop_succ htest, hstable]
          exact fun now hstalled => hinner now hstalled
      | ok step =>
          have hmove : move state step.1 := (hbody state).sound hstep
          have hless : measure step.1 < n := by
            rcases honward hmove with hsame | hless
            · exact absurd ⟨state, .refl, htest, .inl (hsame ▸ hmove)⟩ hfree
            · exact hn ▸ hless
          have hlater : ¬ Trapped test move stuckBody step.1 := by
            rintro ⟨head, hreach, htrap⟩
            exact hfree ⟨head, hreach.head ⟨htest, hmove⟩, htrap⟩
          obtain ⟨turns, hturns⟩ := ih _ hless hlater rfl
          refine ⟨max inner turns + 1, ?_⟩
          have hbodies (later : σ) (hends : Ends (body turns later)) :
              body (max inner turns + 1) later = body turns later :=
            (hbody later).stable (by omega) hends
          rw [whileLoop_succ htest, (hbody state).stable (by omega) hinner, hstep, ok_bind,
            whileLoop_stable hbodies (le_max_right inner turns) hturns]
          cases hrest : Loop.whileLoop test (body turns) turns step.1 with
          | error stop =>
              rw [hrest] at hturns
              exact fun now hstalled => hturns now (by cases hstalled; rfl)
          | ok later => exact ends_ok _

/-- A loop that is trapped never ends. -/
theorem whileLoop_not_ends
    (hbody : ∀ state, Settles Prod.fst (fun fuel => body fuel state) (move state)
      (stuckBody state))
    (htrapped : Trapped test move stuckBody state) :
    ∃ enough, ∀ inner, enough ≤ inner → ∀ turns,
      ¬ Ends (Loop.whileLoop test (body inner) turns state) := by
  have hout {inner : Nat} {head : σ} (htest : test head = true) :
      ¬ Ends (Loop.whileLoop test (body inner) 0 head) := by
    intro hends
    exact hends head (by simp [Loop.whileLoop, htest])
  obtain ⟨head, hreach, htest, htrap⟩ := htrapped
  -- from the trap back to where the loop starts
  induction hreach using Relation.ReflTransGen.head_induction_on with
  | refl =>
      rcases htrap with hstays | hstuck
      · obtain ⟨enough, hall⟩ := (hbody head).complete hstays
        refine ⟨enough, fun inner hinner turns => ?_⟩
        obtain ⟨step, hstep, hsame⟩ := hall inner hinner
        induction turns with
        | zero => exact hout htest
        | succ turns ih =>
            rw [whileLoop_succ htest, hstep, ok_bind, hsame]
            exact fun hends => ih hends.first
      · refine ⟨0, fun inner _ turns => ?_⟩
        cases turns with
        | zero => exact hout htest
        | succ turns =>
            rw [whileLoop_succ htest]
            exact fun hends => (hbody head).not_ends hstuck inner hends.first
  | head hmove _ ih =>
      obtain ⟨enough, hlater⟩ := ih
      obtain ⟨enough', hall⟩ := (hbody _).complete hmove.2
      refine ⟨max enough enough', fun inner hinner turns => ?_⟩
      cases turns with
      | zero => exact hout hmove.1
      | succ turns =>
          obtain ⟨step, hstep, rfl⟩ := hall inner (by omega)
          rw [whileLoop_succ hmove.1, hstep, ok_bind]
          exact fun hends => hlater inner (by omega) turns hends.first

/-- A while loop whose iterations stay in place or come nearer to an end. -/
theorem whileLoop {measure : σ → Nat}
    (hbody : ∀ state, Settles Prod.fst (fun fuel => body fuel state) (move state)
      (stuckBody state))
    (honward : ∀ {state next}, move state next → next = state ∨ measure next < measure state)
    (state : σ) :
    Settles Prod.fst (fun fuel => Loop.whileLoop test (body fuel) fuel state)
      (Walk test move state) (Trapped test move stuckBody state) where
  sound h := walk_of_whileLoop hbody h
  complete hwalk := by
    obtain ⟨enough, hall⟩ := whileLoop_of_walk hbody hwalk
    exact ⟨enough, fun fuel hle => hall fuel hle fuel hle⟩
  stable hle hends := whileLoop_stable (fun state => (hbody state).stable hle) hle hends
  ends_iff := by
    refine ⟨?_, whileLoop_ends hbody honward⟩
    rintro ⟨fuel, hends⟩ htrapped
    obtain ⟨enough, hnever⟩ := whileLoop_not_ends hbody htrapped
    refine hnever (max fuel enough) (le_max_right fuel enough) (max fuel enough) ?_
    have hmore := le_max_left fuel enough
    rw [whileLoop_stable (fun state => (hbody state).stable hmore) hmore hends]
    exact hends

/-- A bounded loop. -/
theorem upTo {body : Nat → Nat → σ → Run σ (σ × (τ → τ))}
    (hbody : ∀ idx state, Settles Prod.fst (fun fuel => body fuel idx state) (move state)
      (stuckBody state)) (todo idx : Nat) (state : σ) :
    Settles (fun result => result.1.1) (fun fuel => Loop.upTo test (body fuel) todo idx state)
      (WalkUpTo test move todo state) (TrappedUpTo test move stuckBody todo state) := by
  induction todo generalizing idx state with
  | zero =>
      refine (ok ((state, idx), id)).congr (fun final => ⟨?_, ?_⟩) ⟨False.elim, ?_⟩
      · rintro rfl
        exact .bound
      · intro hwalk
        cases hwalk <;> rfl
      · intro htrapped
        cases htrapped
  | succ todo ih =>
      by_cases htest : test state = true
      · have hrest (step : σ × (τ → τ)) : Settles (fun result => result.1.1)
            (fun fuel => Loop.upTo test (body fuel) todo (idx + 1) step.1 >>= fun later =>
              .ok (later.1, later.2 ∘ step.2))
            (WalkUpTo test move todo step.1) (TrappedUpTo test move stuckBody todo step.1) := by
          have hkept := @andThen σ ((σ × Nat) × (τ → τ)) σ ((σ × Nat) × (τ → τ)) σ _ _ _ _
            (fun result => result.1.1) (fun later => .ok (later.1, later.2 ∘ step.2))
            (ih (idx + 1) step.1) id fun later => ⟨_, rfl, rfl⟩
          exact hkept.congr (fun final => by simp) Iff.rfl
        simp only [Loop.upTo, if_pos htest]
        refine ((hbody idx state).bind (WalkUpTo test move todo)
          (TrappedUpTo test move stuckBody todo) hrest).congr (fun final => ⟨?_, ?_⟩) ⟨?_, ?_⟩
        · rintro ⟨middle, hmove, hwalk⟩
          exact .next htest hmove hwalk
        · intro hwalk
          cases hwalk with
          | exit hfails => exact absurd htest (by simp [hfails])
          | next _ hmove hlater => exact ⟨_, hmove, hlater⟩
        · rintro (hstuck | ⟨middle, hmove, hlater⟩)
          · exact .inside htest hstuck
          · exact .next htest hmove hlater
        · intro htrapped
          cases htrapped with
          | inside _ hstuck => exact .inl hstuck
          | next _ hmove hlater => exact .inr ⟨_, hmove, hlater⟩
      · have hfails : test state = false := by simpa using htest
        simp only [Loop.upTo, if_neg htest]
        refine (ok ((state, idx), id)).congr (fun final => ⟨?_, ?_⟩) ⟨False.elim, ?_⟩
        · rintro rfl
          exact .exit hfails
        · intro hwalk
          cases hwalk with
          | exit => rfl
          | next hholds => exact absurd hholds htest
        · intro htrapped
          cases htrapped with
          | inside hholds => exact absurd hholds htest
          | next hholds => exact absurd hholds htest

end While

end Settles

end Loop
