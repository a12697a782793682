import Jrxtx.Transition.System

/-!
# An exclusive resource

The abstract lock: at most one agent holds the resource, any agent may acquire
it while it is free, and only its holder can release it.
-/

namespace Jrxtx.Transition

universe u

/-- What an agent does to the resource. -/
inductive ExclusiveEvent (Agent : Type u) where
  | acquire (agent : Agent)
  | release (agent : Agent)

namespace ExclusiveEvent

/-- The agent that performs an event. -/
def agent {Agent : Type u} : ExclusiveEvent Agent → Agent
  | .acquire agent => agent
  | .release agent => agent

end ExclusiveEvent

variable {Agent : Type u} [DecidableEq Agent]

/-- The resource, initially free; its state is its holder. -/
def exclusive (Agent : Type u) [DecidableEq Agent] :
    System (Option Agent) (ExclusiveEvent Agent) where
  start := fun holder => holder = none
  step := fun holder event =>
    match event with
    | .acquire agent => if holder = none then some (some agent) else none
    | .release agent => if holder = some agent then some none else none

/-- A held resource changes hands only through its holder. -/
theorem exclusive_step_agent {holder : Agent} {next : Option Agent}
    {event : ExclusiveEvent Agent}
    (stepped : (exclusive Agent).step (some holder) event = some next) :
    event.agent = holder ∧ next = none := by
  cases event with
  | acquire agent => simp [exclusive] at stepped
  | release agent =>
      simp only [exclusive, Option.some.injEq] at stepped
      split at stepped
      next same => exact ⟨same.symm, by simpa using stepped.symm⟩
      next => simp at stepped

end Jrxtx.Transition
