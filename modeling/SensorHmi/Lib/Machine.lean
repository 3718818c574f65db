import Mathlib

/-!
# Machines with outputs

A machine steps from a state on an event to a state and a list of outputs. `run` feeds it a list
of events. The rules below turn a fact about one step into a fact about every run: a preserved
invariant (`run_invariant`), a preorder (`run_related`), a simulation (`run_simulates`), an
invariant that also speaks of the outputs so far (`run_history`), the step behind an output
(`mem_outputs`), a property of each step (`eachStep_congr`), two totals that are equal
(`total_eq_iff`), and a property of the state after every prefix (`everyPrefix_iff`).
-/

namespace Machine

variable {σ ε ω : Type}

/-- The state after a list of events, and everything put out on the way. -/
def run (step : σ → ε → σ × List ω) : σ → List ε → σ × List ω
  | state, [] => (state, [])
  | state, event :: rest =>
      let (next, produced) := step state event
      let (final, later) := run step next rest
      (final, produced ++ later)

/-- The property holds at each step of a run, of the state before the step and the event. -/
def EachStep (step : σ → ε → σ × List ω) (Property : σ → ε → Prop) : σ → List ε → Prop
  | _, [] => True
  | state, event :: rest =>
      Property state event ∧ EachStep step Property (step state event).1 rest

/-- The sum over the steps of a run of a weight given to the state before the step and the
event. -/
def total (step : σ → ε → σ × List ω) (weight : σ → ε → Nat) : σ → List ε → Nat
  | _, [] => 0
  | state, event :: rest => weight state event + total step weight (step state event).1 rest

variable {step : σ → ε → σ × List ω} {state : σ} {event : ε} {events before after : List ε}

@[simp] theorem run_nil : run step state [] = (state, []) := rfl

@[simp] theorem run_cons :
    run step state (event :: events) =
      ((run step (step state event).1 events).1,
        (step state event).2 ++ (run step (step state event).1 events).2) := rfl

/-- A run over two lists of events is one run after the other. -/
theorem run_append :
    run step state (before ++ after) =
      ((run step (run step state before).1 after).1,
        (run step state before).2 ++ (run step (run step state before).1 after).2) := by
  induction before generalizing state with
  | nil => simp
  | cons event rest ih => simp [ih, List.append_assoc]

/-- What every step on an allowed event preserves holds after every run of allowed events. -/
theorem run_invariant {Inv : σ → Prop} {Allowed : ε → Prop}
    (hstep : ∀ state event, Inv state → Allowed event → Inv (step state event).1)
    (hstart : Inv state) (hallowed : ∀ event ∈ events, Allowed event) :
    Inv (run step state events).1 := by
  induction events generalizing state with
  | nil => exact hstart
  | cons event rest ih =>
      exact ih (hstep state event hstart (hallowed event List.mem_cons_self))
        fun later hmem => hallowed later (List.mem_cons_of_mem _ hmem)

/-- A preorder that every step follows relates the ends of every run. -/
theorem run_related (Related : σ → σ → Prop) (hrefl : ∀ state, Related state state)
    (htrans : ∀ {first second third}, Related first second → Related second third →
      Related first third)
    (hstep : ∀ state event, Related state (step state event).1) :
    Related state (run step state events).1 := by
  induction events generalizing state with
  | nil => exact hrefl state
  | cons event rest ih => exact htrans (hstep state event) ih

/-- A machine whose steps follow those of another one puts out the same in every run. -/
theorem run_simulates {τ : Type} {step' : τ → ε → τ × List ω} (Related : σ → τ → Prop)
    (hstep : ∀ state state' event, Related state state' →
      Related (step state event).1 (step' state' event).1 ∧
        (step state event).2 = (step' state' event).2)
    {state' : τ} (hstart : Related state state') :
    Related (run step state events).1 (run step' state' events).1 ∧
      (run step state events).2 = (run step' state' events).2 := by
  induction events generalizing state state' with
  | nil => exact ⟨hstart, rfl⟩
  | cons event rest ih =>
      obtain ⟨hnext, houtputs⟩ := hstep state state' event hstart
      obtain ⟨hfinal, hlater⟩ := ih hnext
      refine ⟨hfinal, ?_⟩
      rw [run_cons, run_cons, houtputs, hlater]

/-- An invariant of the state and everything put out so far, kept by every step with the property,
holds after every run whose steps have it. -/
theorem run_history {Inv : σ → List ω → Prop} {Property : σ → ε → Prop} {history : List ω}
    (hstep : ∀ state event history, Inv state history → Property state event →
      Inv (step state event).1 (history ++ (step state event).2))
    (hstart : Inv state history) (heach : EachStep step Property state events) :
    Inv (run step state events).1 (history ++ (run step state events).2) := by
  induction events generalizing state history with
  | nil => simpa using hstart
  | cons event rest ih =>
      have hrest := ih (hstep state event history hstart heach.1) heach.2
      rwa [List.append_assoc] at hrest

/-- Every output of a run is put out by one of its steps. -/
theorem mem_outputs {output : ω} (h : output ∈ (run step state events).2) :
    ∃ before event after, events = before ++ event :: after ∧
      output ∈ (step (run step state before).1 event).2 := by
  induction events generalizing state with
  | nil => simp at h
  | cons event rest ih =>
      rcases List.mem_append.mp h with hnow | hlater
      · exact ⟨[], event, rest, rfl, hnow⟩
      · obtain ⟨before, later, after, rfl, hmem⟩ := ih hlater
        exact ⟨event :: before, later, after, rfl, by simpa using hmem⟩

/-- What holds of each event holds at each step. -/
theorem eachStep_of_forall {Property : ε → Prop} (h : ∀ event ∈ events, Property event) :
    EachStep step (fun _ event => Property event) state events := by
  induction events generalizing state with
  | nil => trivial
  | cons event rest ih =>
      exact ⟨h event List.mem_cons_self, ih fun later hmem => h later (List.mem_cons_of_mem _ hmem)⟩

/-- A property of the events alone holds at each step of a run exactly when it holds of each
event. -/
theorem eachStep_iff_forall {Property : ε → Prop} :
    EachStep step (fun _ event => Property event) state events ↔
      ∀ event ∈ events, Property event := by
  refine ⟨fun h => ?_, eachStep_of_forall⟩
  induction events generalizing state with
  | nil => exact fun event hmem => absurd hmem List.not_mem_nil
  | cons first rest ih =>
      intro event hmem
      rcases List.mem_cons.mp hmem with rfl | hlater
      · exact h.1
      · exact ih h.2 event hlater

/-- The steps of a run over two lists of events are those of one run after the other. -/
theorem eachStep_append {Property : σ → ε → Prop} :
    EachStep step Property state (before ++ after) ↔
      EachStep step Property state before ∧
        EachStep step Property (run step state before).1 after := by
  induction before generalizing state with
  | nil => simp [EachStep]
  | cons event rest ih => simp [EachStep, ih, and_assoc]

/-- Each step of a run over the first numbers, one for each number. -/
theorem eachStep_range {step : σ → Nat → σ × List ω} {Property : σ → Nat → Prop} {n : Nat} :
    EachStep step Property state (List.range n) ↔
      ∀ i, i < n → Property (run step state (List.range i)).1 i := by
  induction n with
  | zero => simp [EachStep]
  | succ n ih =>
      rw [List.range_succ, eachStep_append, ih]
      simp only [EachStep, and_true, Nat.lt_succ_iff_lt_or_eq, or_imp, forall_and, forall_eq]

/-- What an invariant and a property of the step imply holds at each step of a run whose steps have
the property. -/
theorem eachStep_of_invariant {Inv : σ → Prop} {Property Other : σ → ε → Prop}
    (hstep : ∀ state event, Inv state → Property state event → Inv (step state event).1)
    (himplies : ∀ state event, Inv state → Property state event → Other state event)
    (hstart : Inv state) (heach : EachStep step Property state events) :
    EachStep step Other state events := by
  induction events generalizing state with
  | nil => trivial
  | cons event rest ih =>
      exact ⟨himplies state event hstart heach.1, ih (hstep state event hstart heach.1) heach.2⟩

/-- Two properties that agree on the allowed events in every state of an invariant agree on the
steps of a run of allowed events, if a step that has the properties keeps the invariant. -/
theorem eachStep_congr_while (Inv : σ → Prop) (Allowed : ε → Prop) {Property Other : σ → ε → Prop}
    (hstep : ∀ state event, Inv state → Allowed event → Property state event →
      Inv (step state event).1)
    (hagree : ∀ state event, Inv state → Allowed event → (Property state event ↔ Other state event))
    (hstart : Inv state) (hallowed : ∀ event ∈ events, Allowed event) :
    EachStep step Property state events ↔ EachStep step Other state events := by
  induction events generalizing state with
  | nil => exact Iff.rfl
  | cons event rest ih =>
      have hevent := hallowed event List.mem_cons_self
      have hrest := fun hproperty =>
        ih (hstep state event hstart hevent hproperty) fun later hmem =>
        hallowed later (List.mem_cons_of_mem _ hmem)
      have hhere := hagree state event hstart hevent
      exact ⟨fun h => ⟨hhere.mp h.1, (hrest h.1).mp h.2⟩,
        fun h => ⟨hhere.mpr h.1, (hrest (hhere.mpr h.1)).mpr h.2⟩⟩

/-- Two properties that agree on the allowed events in every state of an invariant agree on the
steps of a run of allowed events that starts in it. -/
theorem eachStep_congr_of_allowed (Inv : σ → Prop) (Allowed : ε → Prop)
    {Property Other : σ → ε → Prop}
    (hstep : ∀ state event, Inv state → Allowed event → Inv (step state event).1)
    (hagree : ∀ state event, Inv state → Allowed event → (Property state event ↔ Other state event))
    (hstart : Inv state) (hallowed : ∀ event ∈ events, Allowed event) :
    EachStep step Property state events ↔ EachStep step Other state events :=
  eachStep_congr_while Inv Allowed (fun state event hinv hevent _ => hstep state event hinv hevent)
    hagree hstart hallowed

/-- Two properties that agree on every state of an invariant agree on the steps of a run that
starts in it. -/
theorem eachStep_congr {Inv : σ → Prop} {Property Other : σ → ε → Prop}
    (hstep : ∀ state event, Inv state → Inv (step state event).1)
    (hagree : ∀ state event, Inv state → (Property state event ↔ Other state event))
    (hstart : Inv state) :
    EachStep step Property state events ↔ EachStep step Other state events := by
  exact eachStep_congr_of_allowed Inv (fun _ => True) (fun state event hinv _ =>
    hstep state event hinv)
    (fun state event hinv _ => hagree state event hinv) hstart fun _ _ => trivial

/-- What holds of every step holds at each step of a run. -/
theorem eachStep_of_all {Property : σ → ε → Prop} (h : ∀ state event, Property state event) :
    EachStep step Property state events := by
  induction events generalizing state with
  | nil => trivial
  | cons event rest ih => exact ⟨h state event, ih⟩

/-- What one property of a step implies holds at each step that has it. -/
theorem eachStep_imp {Property Other : σ → ε → Prop}
    (himplies : ∀ state event, Property state event → Other state event)
    (heach : EachStep step Property state events) : EachStep step Other state events :=
  @eachStep_of_invariant _ _ _ _ _ _ (fun _ => True) _ _ (fun _ _ _ _ => trivial)
    (fun state event _ => himplies state event) trivial heach

/-- What holds at each step for every parameter holds for all of them at each step. -/
theorem eachStep_forall {ι : Type} {Property : ι → σ → ε → Prop} :
    EachStep step (fun state event => ∀ i, Property i state event) state events ↔
      ∀ i, EachStep step (Property i) state events := by
  induction events generalizing state with
  | nil => exact iff_of_true trivial fun _ => trivial
  | cons event rest ih =>
      simp only [EachStep, ih]
      exact forall_and.symm

/-- The outputs of a kind are those of the steps together. -/
theorem countP_run (kind : ω → Bool) :
    (run step state events).2.countP kind =
      total step (fun state event => (step state event).2.countP kind) state events := by
  induction events generalizing state with
  | nil => rfl
  | cons event rest ih => rw [run_cons, List.countP_append, ih, total]

/-- The events of a kind, counted along a run. -/
theorem countP_events (kind : ε → Bool) :
    events.countP kind =
      total step (fun _ event => if kind event then 1 else 0) state events := by
  induction events generalizing state with
  | nil => rfl
  | cons event rest ih => rw [List.countP_cons, ih, total, Nat.add_comm]

/-- Of two weights, one below the other at each step, the totals are equal exactly if the weights
are at each step. -/
theorem total_eq_iff {weight other : σ → ε → Nat}
    (hle : EachStep step (fun state event => weight state event ≤ other state event) state events) :
    total step weight state events = total step other state events ↔
      EachStep step (fun state event => weight state event = other state event) state events := by
  have htotal {state : σ} {events : List ε}
      (hle : EachStep step (fun state event => weight state event ≤ other state event) state
        events) :
      total step weight state events ≤ total step other state events := by
    induction events generalizing state with
    | nil => exact le_rfl
    | cons event rest ih => exact Nat.add_le_add hle.1 (ih hle.2)
  induction events generalizing state with
  | nil => exact iff_of_true rfl trivial
  | cons event rest ih =>
      have hhere := hle.1
      have hrest := htotal hle.2
      have hlater := ih hle.2
      rw [EachStep, total, total]
      constructor
      · intro hsame
        exact ⟨by omega, hlater.mp (by omega)⟩
      · rintro ⟨hnow, hsteps⟩
        rw [hnow, hlater.mpr hsteps]

/-- A state is good after every prefix of a run exactly when each step has the property, if the
property is what keeps a good state good. -/
theorem everyPrefix_iff {Inv Good : σ → Prop} {Property : σ → ε → Prop}
    (hstep : ∀ state event, Inv state → Inv (step state event).1)
    (hkeep : ∀ state event, Inv state → Good state →
      (Good (step state event).1 ↔ Property state event))
    (hstart : Inv state) (hgood : Good state) :
    (∀ before after, events = before ++ after → Good (run step state before).1) ↔
      EachStep step Property state events := by
  induction events generalizing state with
  | nil =>
      refine iff_of_true ?_ trivial
      intro before after happend
      rw [(List.append_eq_nil_iff.mp happend.symm).1]
      exact hgood
  | cons event rest ih =>
      constructor
      · intro hall
        have hnext : Good (step state event).1 := hall [event] rest rfl
        refine ⟨(hkeep state event hstart hgood).mp hnext, ?_⟩
        refine (ih (hstep state event hstart) hnext).mp ?_
        rintro before after rfl
        exact hall (event :: before) after rfl
      · rintro ⟨hnow, hlater⟩ before after happend
        have hnext := (hkeep state event hstart hgood).mpr hnow
        cases before with
        | nil => exact hgood
        | cons first before =>
            obtain ⟨rfl, rfl⟩ := List.cons.inj happend
            exact (ih (hstep state _ hstart) hnext).mpr hlater before after rfl

/-- An invariant of the state and everything put out so far that every step keeps holds after every
run. -/
theorem run_keeps_history {Inv : σ → List ω → Prop}
    (hstep : ∀ state event history, Inv state history →
      Inv (step state event).1 (history ++ (step state event).2))
    (hstart : Inv state []) : Inv (run step state events).1 (run step state events).2 :=
  run_history (fun state event history hinv _ => hstep state event history hinv) hstart
    (@eachStep_of_all _ _ _ _ _ _ (fun _ _ => True) fun _ _ => trivial)

/-- What each event accounts for accounts for what is selected from a run, in order. -/
theorem filterMap_run_sublist {β : Type} {select : ω → Option β} {source : ε → Option β}
    (hstep : ∀ state event, ((step state event).2.filterMap select).Sublist (source event).toList) :
    ((run step state events).2.filterMap select).Sublist (events.filterMap source) := by
  induction events generalizing state with
  | nil => exact .slnil
  | cons event rest ih =>
      show (((step state event).2 ++ _).filterMap select).Sublist _
      rw [List.filterMap_append, List.filterMap_cons]
      have hboth := (hstep state event).append (@ih (step state event).1)
      cases hsource : source event with
      | none => simpa [hsource] using hboth
      | some value => simpa [hsource] using hboth

end Machine
