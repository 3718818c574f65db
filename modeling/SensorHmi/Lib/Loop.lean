import Mathlib

/-!
# Loops with fuel

Programs with loops that may not end, run with fuel. A run ends with a value, is rejected, or
stalls when the fuel is used up at the head of a loop. Loops change a control state and collect an
update of some data, which decides nothing.

`Alike` says of two programs that they take the same control path and collect related data.
-/

namespace Loop

/-- Why a run has no value: it was rejected, or it stalled at the head of a loop. -/
inductive Stop (σ : Type)
  | rejected
  | stalled (now : σ)
  deriving DecidableEq

/-- The result of a run whose loops have heads `σ`. -/
abbrev Run (σ α : Type) := Except (Stop σ) α

variable {σ τ α β : Type}

/-- A result that is not rejected, or rejects. -/
def check : Option α → Run σ α
  | some value => .ok value
  | none => .error .rejected

/-- `while (test) body` from a control state: the control state it ends in and the update of the
data. -/
def whileLoop (test : σ → Bool) (body : σ → Run σ (σ × (τ → τ))) :
    (fuel : Nat) → σ → Run σ (σ × (τ → τ))
  | 0, state => if test state then .error (.stalled state) else .ok (state, id)
  | fuel + 1, state =>
      if test state then do
        let (next, update) ← body state
        let (final, later) ← whileLoop test body fuel next
        return (final, later ∘ update)
      else .ok (state, id)

/-- `while (test && idx < bound) body`, with `todo` iterations up to the bound: it needs no fuel. -/
def upTo (test : σ → Bool) (body : Nat → σ → Run σ (σ × (τ → τ))) :
    (todo idx : Nat) → σ → Run σ ((σ × Nat) × (τ → τ))
  | 0, idx, state => .ok ((state, idx), id)
  | todo + 1, idx, state =>
      if test state then do
        let (next, update) ← body idx state
        let (final, later) ← upTo test body todo (idx + 1) next
        return (final, later ∘ update)
      else .ok ((state, idx), id)

/-- The run ended: with a value or by being rejected. -/
def Ends (run : Run σ α) : Prop :=
  ∀ now, run ≠ .error (.stalled now)

theorem ends_ok (value : α) : Ends (.ok value : Run σ α) :=
  fun _ h => by cases h

theorem ends_rejected : Ends (.error .rejected : Run σ α) :=
  fun _ h => by cases h

theorem ends_of_eq_ok {run : Run σ α} {value : α} (h : run = .ok value) : Ends run := by
  rw [h]
  exact ends_ok value

/-- If a sequence ends, so does its first part. -/
theorem Ends.first {first : Run σ α} {second : α → Run σ β} (h : Ends (first >>= second)) :
    Ends first := by
  intro now hstalled
  refine h now ?_
  rw [hstalled]
  rfl

/-- What a sequence returns, its parts returned. -/
theorem bind_eq_ok_iff {first : Run σ α} {second : α → Run σ β} {value : β} :
    first >>= second = .ok value ↔ ∃ middle, first = .ok middle ∧ second middle = .ok value := by
  cases first with
  | error stop =>
      constructor
      · intro h
        cases h
      · rintro ⟨middle, h, -⟩
        cases h
  | ok middle =>
      constructor
      · intro h
        exact ⟨middle, rfl, h⟩
      · rintro ⟨other, h, hvalue⟩
        cases h
        exact hvalue

/-- What follows a value. -/
theorem ok_bind (value : α) (second : α → Run σ β) : .ok value >>= second = second value :=
  rfl

theorem check_eq_ok_iff {result : Option α} {value : α} :
    (check result : Run σ α) = .ok value ↔ result = some value := by
  cases result <;> simp [check]

theorem ends_check (result : Option α) : Ends (check result : Run σ α) := by
  cases result with
  | none => exact ends_rejected
  | some value => exact ends_ok value

section While

variable {test : σ → Bool} {body : σ → Run σ (σ × (τ → τ))} {fuel : Nat}
  {state : σ}

/-- A loop whose test fails is left at once. -/
theorem whileLoop_exit (h : test state = false) :
    whileLoop test body fuel state = .ok (state, id) := by
  cases fuel <;> simp [whileLoop, h]

/-- One iteration of a loop. -/
theorem whileLoop_succ (h : test state = true) :
    whileLoop test body (fuel + 1) state = (body state >>= fun step =>
      whileLoop test body fuel step.1 >>= fun later =>
        .ok (later.1, later.2 ∘ step.2)) := by
  rw [whileLoop, if_pos h]
  rfl

/-- One iteration that returns. -/
theorem whileLoop_step {next : σ} {update : τ → τ} (h : test state = true)
    (hbody : body state = .ok (next, update)) :
    whileLoop test body (fuel + 1) state =
      (whileLoop test body fuel next >>= fun later =>
        .ok (later.1, later.2 ∘ update)) := by
  rw [whileLoop_succ h, hbody]
  rfl

/-- What every iteration does to the data, the loop does, if doing nothing and one after the other
are of the kind. -/
theorem whileLoop_updates (Kind : (τ → τ) → Prop) (hid : Kind id)
    (hcomp : ∀ {f g}, Kind f → Kind g → Kind (g ∘ f))
    (hbody : ∀ state next update, body state = .ok (next, update) → Kind update)
    {final : σ} {update : τ → τ} (h : whileLoop test body fuel state = .ok (final, update)) :
    Kind update := by
  induction fuel generalizing state update with
  | zero =>
      rw [whileLoop] at h
      split_ifs at h
      cases h
      exact hid
  | succ fuel ih =>
      by_cases htest : test state = true
      · rw [whileLoop_succ htest] at h
        obtain ⟨⟨next, first⟩, hfirst, h⟩ := bind_eq_ok_iff.mp h
        obtain ⟨⟨end', later⟩, hlater, h⟩ := bind_eq_ok_iff.mp h
        cases h
        exact hcomp (hbody state next first hfirst) (ih hlater)
      · rw [whileLoop_exit (by simpa using htest)] at h
        cases h
        exact hid

end While

section Alike

variable {τ' β' : Type}

/-- Two runs that stop in the same way, or return related values. -/
def Alike (Related : α → β → Prop) : Run σ α → Run σ β → Prop
  | .ok value, .ok other => Related value other
  | .error stop, .error other => stop = other
  | .ok _, .error _ | .error _, .ok _ => False

/-- Two steps with the same control state whose updates are related. -/
def SameControl (Updates : (τ → τ) → (τ' → τ') → Prop) (step : σ × (τ → τ))
    (other : σ × (τ' → τ')) : Prop :=
  step.1 = other.1 ∧ Updates step.2 other.2

variable {Related : α → β → Prop} {Updates : (τ → τ) → (τ' → τ') → Prop}

theorem Alike.ok_iff {run : Run σ α} {other : Run σ β} {value : α} (h : Alike Related run other)
    (hok : run = .ok value) : ∃ value', other = .ok value' ∧ Related value value' := by
  subst hok
  cases other with
  | error stop => exact h.elim
  | ok value' => exact ⟨value', rfl, h⟩

/-- Sequences of alike programs are alike. -/
theorem Alike.bind {α' : Type} {Related' : α' → β' → Prop} {first : Run σ α} {first' : Run σ β}
    {second : α → Run σ α'} {second' : β → Run σ β'} (hfirst : Alike Related first first')
    (hsecond : ∀ value value', Related value value' →
      Alike Related' (second value) (second' value')) :
    Alike Related' (first >>= second) (first' >>= second') := by
  cases first with
  | ok value =>
      cases first' with
      | ok value' => exact hsecond value value' hfirst
      | error stop => exact hfirst.elim
  | error stop =>
      cases first' with
      | ok value' => exact hfirst.elim
      | error stop' => exact hfirst

/-- A program is like itself. -/
theorem Alike.refl (run : Run σ α) : Alike Eq run run := by
  cases run <;> exact rfl

/-- Loops with alike bodies are alike. -/
theorem whileLoop_alike {test : σ → Bool} {body : σ → Run σ (σ × (τ → τ))}
    {body' : σ → Run σ (σ × (τ' → τ'))} (hid : Updates id id)
    (hcomp : ∀ {f g f' g'}, Updates f f' → Updates g g' → Updates (g ∘ f) (g' ∘ f'))
    (hbody : ∀ state, Alike (SameControl Updates) (body state) (body' state)) (fuel : Nat)
    (state : σ) :
    Alike (SameControl Updates) (whileLoop test body fuel state)
      (whileLoop test body' fuel state) := by
  induction fuel generalizing state with
  | zero =>
      rw [whileLoop, whileLoop]
      split
      · exact rfl
      · exact ⟨rfl, hid⟩
  | succ fuel ih =>
      by_cases htest : test state = true
      · rw [whileLoop_succ htest, whileLoop_succ htest]
        refine (hbody state).bind fun step step' hstep => ?_
        rw [hstep.1]
        refine (ih _).bind fun later later' hlater => ⟨hlater.1, ?_⟩
        exact @hcomp step.2 later.2 step'.2 later'.2 hstep.2 hlater.2
      · rw [whileLoop_exit (by simpa using htest), whileLoop_exit (by simpa using htest)]
        exact ⟨rfl, hid⟩

end Alike

end Loop
