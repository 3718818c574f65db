import SensorHmi.Lib.Machine

/-!
# Traces with guards

A trace is a list of calls in the order they were made. A guard says of each call whether it may
follow the calls before it. `guarded_append` puts traces together, and `guarded_iff` reads the
guard off at any place of a trace.
-/

namespace Trace

variable {α : Type} {guard : List α → α → Prop} {history before after : List α} {call : α}

/-- Each call of a trace is permitted after the history and the calls before it. -/
def Guarded (guard : List α → α → Prop) : (history calls : List α) → Prop
  | _, [] => True
  | history, call :: rest => guard history call ∧ Guarded guard (history ++ [call]) rest

theorem guarded_append :
    Guarded guard history (before ++ after) ↔
      Guarded guard history before ∧ Guarded guard (history ++ before) after := by
  induction before generalizing history with
  | nil => simp [Guarded]
  | cons first rest ih => simp [Guarded, ih, and_assoc]

/-- The guard holds at every place of the trace. -/
theorem guarded_iff {calls : List α} :
    Guarded guard history calls ↔
      ∀ before call after, calls = before ++ call :: after → guard (history ++ before) call := by
  constructor
  · rintro h before call after rfl
    exact (guarded_append.mp h).2.1
  · intro h
    induction calls generalizing history with
    | nil => trivial
    | cons first rest ih =>
        refine ⟨by simpa using h [] first rest rfl, ih fun before call after hsplit => ?_⟩
        have hguard := h (first :: before) call after (by rw [hsplit]; rfl)
        rwa [List.append_assoc]

/-- A trace of calls that are permitted anywhere is guarded. -/
theorem guarded_of_free (h : ∀ call ∈ before, ∀ history, guard history call) :
    Guarded guard history before := by
  induction before generalizing history with
  | nil => trivial
  | cons first rest ih =>
      exact ⟨h first List.mem_cons_self history, ih fun call hmem =>
        h call (List.mem_cons_of_mem _ hmem)⟩

/-- Among calls that change no verdict of the guard, each is judged after the history. -/
theorem guarded_iff_of_stable
    (h : ∀ call ∈ before, ∀ history other,
      guard (history ++ [call]) other ↔ guard history other) :
    Guarded guard history before ↔ ∀ call ∈ before, guard history call := by
  induction before generalizing history with
  | nil => simp [Guarded]
  | cons first rest ih =>
      have hrest := @ih (history ++ [first]) fun call hmem => h call (List.mem_cons_of_mem _ hmem)
      have hfirst := h first List.mem_cons_self history
      simp only [Guarded, hrest, hfirst, List.mem_cons, forall_eq_or_imp]

/-- The trace of a run is guarded exactly when each step has the property that says so of its own
calls, where an invariant ties the state to the calls before it. -/
theorem guarded_run_iff {σ ε : Type} {step : σ → ε → σ × List α} (Inv : σ → List α → Prop)
    (Allowed : ε → Prop) {Property : σ → ε → Prop} {state : σ} {events : List ε}
    (hstep : ∀ state event history, Inv state history → Allowed event →
      Inv (step state event).1 (history ++ (step state event).2))
    (hguard : ∀ state event history, Inv state history → Allowed event →
      (Guarded guard history (step state event).2 ↔ Property state event))
    (hstart : Inv state history) (hallowed : ∀ event ∈ events, Allowed event) :
    Guarded guard history (Machine.run step state events).2 ↔
      Machine.EachStep step Property state events := by
  induction events generalizing state history with
  | nil => exact Iff.rfl
  | cons event rest ih =>
      have hevent := hallowed event List.mem_cons_self
      rw [Machine.run_cons, guarded_append, Machine.EachStep]
      exact and_congr (hguard state event history hstart hevent)
        (ih (hstep state event history hstart hevent) fun later hmem =>
          hallowed later (List.mem_cons_of_mem _ hmem))

end Trace
