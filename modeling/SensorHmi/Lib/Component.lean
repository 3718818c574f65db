import SensorHmi.Lib.Machine

/-!
# Components of a machine

A machine may be made of others: each holds a part of its state, and some of its outputs are its
own. When every step is, seen at a component, a stretch of steps of the component, then so is every
run (`Component.runs`), and what holds of every run of the component holds inside the machine.
-/

namespace Machine

variable {σ ε ω σ' ε' ω' : Type}

/-- A part of the state, and the outputs that are its own. -/
structure Component (σ ω σ' ω' : Type) where
  state : σ → σ'
  own : ω → Option ω'

namespace Component

variable (component : Component σ ω σ' ω') (part : σ' → ε' → σ' × List ω')
  (Linked : List ε' → List ω → Prop)

/-- Between two states of the machine, with these outputs, the component makes steps on events that
are linked with the outputs. -/
def Runs (before : σ) (after : σ × List ω) : Prop :=
  ∃ events, run part (component.state before) events =
      (component.state after.1, after.2.filterMap component.own) ∧ Linked events after.2

variable {component part Linked}

/-- A component that is left alone makes no step. -/
theorem runs_idle {before : σ} {after : σ × List ω}
    (hstate : component.state after.1 = component.state before)
    (hown : after.2.filterMap component.own = []) (hlinked : Linked [] after.2) :
    component.Runs part Linked before after :=
  ⟨[], by rw [run_nil, hstate, hown], hlinked⟩

/-- A step of the component. -/
theorem runs_step {before : σ} {after : σ × List ω} {event : ε'}
    (hstep : part (component.state before) event =
      (component.state after.1, after.2.filterMap component.own))
    (hlinked : Linked [event] after.2) : component.Runs part Linked before after := by
  refine ⟨[event], ?_, hlinked⟩
  rw [run_cons, run_nil, hstep, List.append_nil]

/-- If the component runs through each step of the machine, it runs through each run of it. -/
theorem runs {step : σ → ε → σ × List ω} (hnil : Linked [] [])
    (happend : ∀ first second outputs later, Linked first outputs → Linked second later →
      Linked (first ++ second) (outputs ++ later))
    (hstep : ∀ state event, component.Runs part Linked state (step state event)) (state : σ)
    (events : List ε) : component.Runs part Linked state (run step state events) := by
  induction events generalizing state with
  | nil => exact runs_idle rfl rfl hnil
  | cons event rest ih =>
      obtain ⟨first, hfirst, hlinked⟩ := hstep state event
      obtain ⟨second, hsecond, hlinked'⟩ := ih (step state event).1
      refine ⟨first ++ second, ?_, happend _ _ _ _ hlinked hlinked'⟩
      rw [run_append, hfirst, hsecond, run_cons, List.filterMap_append]

end Component

end Machine
