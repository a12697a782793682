import Mathlib.Logic.Function.Basic

/-!
# Labelled transition systems with restricted runs

A step is a partial function of a state and a label.  Every choice of the
scheduler and every outcome of the environment is part of the label, so a list
of labels determines a run and a concrete run can be evaluated.

`ReachedBy allowed` is reachability through steps that all satisfy `allowed`.
Unrestricted reachability is the special case in which everything is allowed;
the restricted form states what holds of the runs that avoid a given step.
-/

namespace Jrxtx.Transition

universe u v w x

/-- A transition system given by its start states and its step function. -/
structure System (State : Type u) (Label : Type v) where
  start : State → Prop
  step : State → Label → Option State

namespace System

variable {State : Type u} {Label : Type v} (system : System State Label)

/-- States reached from a start state by steps that all satisfy `allowed`. -/
inductive ReachedBy (allowed : State → Label → Prop) : State → Prop where
  | start {state : State} : system.start state → ReachedBy allowed state
  | step {state next : State} {label : Label} :
      ReachedBy allowed state → allowed state label →
      system.step state label = some next → ReachedBy allowed next

/-- States reached by arbitrary runs. -/
def Reachable (state : State) : Prop :=
  system.ReachedBy (fun _ _ => True) state

/-- The state after a list of labels, if every one of them is enabled. -/
def run : State → List Label → Option State
  | state, [] => some state
  | state, label :: labels =>
      match system.step state label with
      | some next => run next labels
      | none => none

variable {system} {allowed : State → Label → Prop}

/-- `ReachedBy.step` with the label given explicitly. -/
theorem ReachedBy.extend {state next : State} (reached : system.ReachedBy allowed state)
    (label : Label) (permitted : allowed state label)
    (stepped : system.step state label = some next) : system.ReachedBy allowed next :=
  reached.step permitted stepped

/-- A property of the start states that every allowed step preserves holds in
every state reached by allowed steps. -/
theorem ReachedBy.invariant {property : State → Prop}
    (initial : ∀ state, system.start state → property state)
    (preserved : ∀ state label next, property state → allowed state label →
      system.step state label = some next → property next)
    {state : State} (reached : system.ReachedBy allowed state) : property state := by
  induction reached with
  | start started => exact initial _ started
  | step _ permitted stepped ih => exact preserved _ _ _ ih permitted stepped

/-- Every step allowed by the smaller restriction is allowed by the larger. -/
theorem ReachedBy.mono {larger : State → Label → Prop}
    (weaker : ∀ state label, allowed state label → larger state label)
    {state : State} (reached : system.ReachedBy allowed state) :
    system.ReachedBy larger state := by
  induction reached with
  | start started => exact .start started
  | step _ permitted stepped ih => exact .step ih (weaker _ _ permitted) stepped

theorem ReachedBy.reachable {state : State}
    (reached : system.ReachedBy allowed state) : system.Reachable state :=
  reached.mono fun _ _ _ => trivial

/-- An invariant of unrestricted runs. -/
theorem Reachable.invariant {property : State → Prop}
    (initial : ∀ state, system.start state → property state)
    (preserved : ∀ state label next, property state →
      system.step state label = some next → property next)
    {state : State} (reachable : system.Reachable state) : property state :=
  ReachedBy.invariant initial
    (fun _ _ _ held _ stepped => preserved _ _ _ held stepped) reachable

/-- A run takes its first label and then the others. -/
theorem run_cons {label : Label} {labels : List Label} {state final : State} :
    system.run state (label :: labels) = some final ↔
      ∃ next, system.step state label = some next ∧ system.run next labels = some final := by
  rw [System.run]
  cases system.step state label with
  | none => simp
  | some next => simp

/-- A run takes the first labels and then the others. -/
theorem run_append {labels later : List Label} {state final : State} :
    system.run state (labels ++ later) = some final ↔
      ∃ next, system.run state labels = some next ∧ system.run next later = some final := by
  induction labels generalizing state with
  | nil => simp [System.run]
  | cons label labels ih =>
      rw [List.cons_append, run_cons]
      constructor
      · rintro ⟨next, stepped, ran⟩
        obtain ⟨between, first, second⟩ := ih.mp ran
        exact ⟨between, run_cons.mpr ⟨next, stepped, first⟩, second⟩
      · rintro ⟨between, first, second⟩
        obtain ⟨next, stepped, first⟩ := run_cons.mp first
        exact ⟨next, stepped, ih.mpr ⟨between, first, second⟩⟩

theorem Reachable.step {state next : State} {label : Label}
    (reachable : system.Reachable state)
    (stepped : system.step state label = some next) : system.Reachable next :=
  ReachedBy.step reachable trivial stepped

/-- A run from a reachable state ends in a reachable state. -/
theorem Reachable.run {labels : List Label} {state final : State}
    (reachable : system.Reachable state)
    (ran : system.run state labels = some final) : system.Reachable final := by
  induction labels generalizing state with
  | nil =>
      simp only [System.run, Option.some.injEq] at ran
      exact ran ▸ reachable
  | cons label labels ih =>
      obtain ⟨next, stepped, ran⟩ := run_cons.mp ran
      exact ih (reachable.step stepped) ran

/-- The end of a run from a start state is reachable. -/
theorem reachable_of_run (labels : List Label) {state final : State}
    (started : system.start state)
    (ran : system.run state labels = some final) : system.Reachable final :=
  Reachable.run (ReachedBy.start started) ran

section Steps

variable (system)

/-- Every label of a run is allowed where it is taken. -/
def StepsMeet (allowed : State → Label → Prop) : State → List Label → Prop
  | _, [] => True
  | state, label :: labels =>
      allowed state label ∧
        match system.step state label with
        | some next => StepsMeet allowed next labels
        | none => True

/-- A property holds in every state of a run. -/
def Keeps (property : State → Prop) : State → List Label → Prop
  | state, [] => property state
  | state, label :: labels =>
      property state ∧ ∀ next, system.step state label = some next → Keeps property next labels

instance decidableStepsMeet [∀ state label, Decidable (allowed state label)] :
    ∀ (state : State) (labels : List Label), Decidable (system.StepsMeet allowed state labels)
  | _, [] => inferInstanceAs (Decidable True)
  | state, label :: labels =>
      match stepped : system.step state label with
      | some next =>
          have := decidableStepsMeet next labels
          decidable_of_iff (allowed state label ∧ system.StepsMeet allowed next labels)
            (by simp only [StepsMeet, stepped])
      | none => decidable_of_iff (allowed state label) (by simp only [StepsMeet, stepped, and_true])

variable {system} {property : State → Prop} {state final : State} {labels : List Label}

/-- If the allowed steps are those that keep a property, then it holds throughout a run
exactly if all steps are allowed; what moreover holds on the way may be used. -/
theorem keeps_iff_stepsMeet {invariant : State → Prop}
    (exact : ∀ state label next, invariant state → property state →
      system.step state label = some next → (property next ↔ allowed state label))
    (preserved : ∀ state label next, invariant state → property state →
      system.step state label = some next → invariant next)
    (holds : invariant state) (initial : property state) (labels : List Label)
    (ran : system.run state labels = some final) :
    system.Keeps property state labels ↔ system.StepsMeet allowed state labels := by
  induction labels generalizing state with
  | nil => exact iff_of_true initial trivial
  | cons label labels ih =>
      obtain ⟨next, stepped, later⟩ := run_cons.mp ran
      have isExact := exact state label next holds initial stepped
      simp only [Keeps, StepsMeet, stepped, Option.some.injEq, forall_eq']
      rw [and_iff_right initial]
      constructor
      · intro kept
        have nextHolds : property next := by
          cases labels with
          | nil => exact kept
          | cons _ _ => exact kept.1
        exact ⟨isExact.mp nextHolds,
          (ih (preserved state label next holds initial stepped) nextHolds later).mp kept⟩
      · rintro ⟨permitted, met⟩
        exact (ih (preserved state label next holds initial stepped) (isExact.mpr permitted)
          later).mpr met

/-- The last state of a run is one of its states. -/
theorem Keeps.at_end (kept : system.Keeps property state labels)
    (ran : system.run state labels = some final) : property final := by
  induction labels generalizing state with
  | nil => exact Option.some.inj ran ▸ kept
  | cons label labels ih =>
      obtain ⟨next, stepped, later⟩ := run_cons.mp ran
      exact ih (kept.2 next stepped) later

end Steps

section Allowed

variable (system) (allowed) [∀ state label, Decidable (allowed state label)]

/-- `run`, if moreover every label is allowed where it is taken. -/
def runAllowed : State → List Label → Option State
  | state, [] => some state
  | state, label :: labels =>
      if allowed state label then
        match system.step state label with
        | some next => runAllowed next labels
        | none => none
      else none

end Allowed

/-- The end of an allowed run from a state reached by allowed steps is one too. -/
theorem ReachedBy.runAllowed [∀ state label, Decidable (allowed state label)]
    {state final : State} (reached : system.ReachedBy allowed state) (labels : List Label)
    (ran : system.runAllowed allowed state labels = some final) :
    system.ReachedBy allowed final := by
  induction labels generalizing state with
  | nil =>
      simp only [System.runAllowed, Option.some.injEq] at ran
      exact ran ▸ reached
  | cons label labels ih =>
      simp only [System.runAllowed] at ran
      split at ran
      next permitted =>
        cases stepped : system.step state label with
        | none => simp [stepped] at ran
        | some next =>
            simp only [stepped] at ran
            exact ih (reached.step permitted stepped) ran
      next => simp at ran

end System

/-! ## Stuttering simulations -/

section Simulation

variable {State : Type u} {Label : Type v} {Abstract : Type w} {Event : Type x}

/-- `view` reads an abstract state off a concrete one.  A concrete step is either
invisible or one step of the abstract system, with an event that the label of the
concrete step `performs`. -/
structure Simulation (concrete : System State Label) (abstract : System Abstract Event)
    (view : State → Abstract) (performs : Label → Event → Prop) : Prop where
  start : ∀ state, concrete.start state → abstract.start (view state)
  step : ∀ state label next, concrete.Reachable state →
    concrete.step state label = some next →
    view next = view state ∨
      ∃ event, performs label event ∧
        abstract.step (view state) event = some (view next)

/-- The view of a reachable concrete state is reachable in the abstract system. -/
theorem Simulation.reachable {concrete : System State Label}
    {abstract : System Abstract Event} {view : State → Abstract}
    {performs : Label → Event → Prop}
    (simulation : Simulation concrete abstract view performs) {state : State}
    (reachable : concrete.Reachable state) : abstract.Reachable (view state) := by
  unfold System.Reachable at reachable
  induction reachable with
  | start started => exact .start (simulation.start _ started)
  | @step state next label before permitted stepped ih =>
      rcases simulation.step state label next before stepped with same | ⟨event, _, moved⟩
      · exact same ▸ ih
      · exact ih.step moved

end Simulation

end Jrxtx.Transition
