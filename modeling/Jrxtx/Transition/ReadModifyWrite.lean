import Jrxtx.Transition.System
import Mathlib.Data.List.Basic

/-!
# Fields that are changed through copies

Threads share a memory with several fields.  A call reads the memory, changes its own fields in
the copy and writes the copy back, with the other fields as they were when it was read.  If calls
overlap, then a write may undo what another call has set.
-/

namespace Jrxtx.Transition

universe u

/-- The fields of a memory, and the calls that set them. -/
structure Fields (Memory Call Event Field Value : Type u) where
  read : Field → Memory → Value
  /-- the value that a call sets a field to -/
  asks : Call → Field → Option Value
  /-- what the memory becomes when a call writes its copy -/
  written : Memory → Call → Memory → Memory
  /-- the copy of a call that goes on although it could not read the memory -/
  unread : Option Memory
  /-- what others do to the memory -/
  occur : Event → Memory → Memory
  read_asked : ∀ memory call copy field value, asks call field = some value →
    read field (written memory call copy) = value
  read_other : ∀ memory call copy field, asks call field = none →
    read field (written memory call copy) = read field copy
  read_occur : ∀ event memory field, read field (occur event memory) = read field memory

/-- The memory, the calls that have not written their copy yet, and those that have. -/
structure Sharing (Memory Call Thread : Type u) where
  memory : Memory
  copies : Thread → Option (Call × Memory)
  done : List Call

inductive SharingLabel (Call Event Thread : Type u) where
  | read (thread : Thread) (call : Call) (succeeds : Bool)
  | write (thread : Thread) (succeeds : Bool)
  | occur (event : Event)

/-- No copy is read while another call has one, and none without the memory. -/
def Sharing.TakesTurns {Memory Call Event Thread : Type u} (state : Sharing Memory Call Thread) :
    SharingLabel Call Event Thread → Prop
  | .read _ _ succeeds => succeeds = true ∧ ∀ thread, state.copies thread = none
  | _ => True

namespace Fields

variable {Memory Call Event Field Value Thread : Type u}
  (fields : Fields Memory Call Event Field Value)

def step [DecidableEq Thread] (state : Sharing Memory Call Thread) :
    SharingLabel Call Event Thread → Option (Sharing Memory Call Thread)
  | .read thread call succeeds =>
      match state.copies thread, if succeeds then some state.memory else fields.unread with
      | none, some copy =>
          some { state with copies := Function.update state.copies thread (some (call, copy)) }
      | _, _ => none
  | .write thread succeeds =>
      match state.copies thread with
      | none => none
      | some (call, copy) =>
          let returned := { state with copies := Function.update state.copies thread none }
          if succeeds then
            some
              { returned with
                memory := fields.written state.memory call copy
                done := state.done ++ [call] }
          else some returned
  | .occur event => some { state with memory := fields.occur event state.memory }

/-- Any number of threads that change fields of the memory. -/
def sharing [DecidableEq Thread] :
    System (Sharing Memory Call Thread) (SharingLabel Call Event Thread) where
  start state := state.done = [] ∧ ∀ thread, state.copies thread = none
  step := fields.step

/-- The value of the last call that has set the field. -/
def lastAsked (field : Field) (initial : Memory) (done : List Call) : Value :=
  (done.filterMap fun call => fields.asks call field).getLast?.getD (fields.read field initial)

/-- Every field is as the last call has set it. -/
def AsAsked (initial : Memory) (state : Sharing Memory Call Thread) : Prop :=
  ∀ field, fields.read field state.memory = fields.lastAsked field initial state.done

/-- The fields that a call does not set are in its copy as they are in the memory. -/
def UpToDate (memory : Memory) (call : Call) (copy : Memory) : Prop :=
  ∀ field, fields.asks call field = none → fields.read field copy = fields.read field memory

/-- What is written is up to date. -/
def WritesUpToDate (state : Sharing Memory Call Thread) : SharingLabel Call Event Thread → Prop
  | .write thread true =>
      ∀ call copy, state.copies thread = some (call, copy) →
        fields.UpToDate state.memory call copy
  | _ => True

variable {fields} {initial : Memory} {state next final : Sharing Memory Call Thread}
  {call : Call} {copy : Memory} {label : SharingLabel Call Event Thread}

theorem lastAsked_append (field : Field) (done : List Call) (call : Call) :
    fields.lastAsked field initial (done ++ [call]) =
      (fields.asks call field).getD (fields.lastAsked field initial done) := by
  rw [lastAsked, List.filterMap_append]
  cases asked : fields.asks call field with
  | none => simp [asked, lastAsked]
  | some value => simp [asked]

/-- A write leaves every field as it has last been set exactly if it is up to date. -/
theorem asAsked_written_iff (asAsked : fields.AsAsked initial state)
    (copies : Thread → Option (Call × Memory)) :
    fields.AsAsked initial
        ⟨fields.written state.memory call copy, copies, state.done ++ [call]⟩ ↔
      fields.UpToDate state.memory call copy := by
  constructor
  · intro after field other
    have same := after field
    rw [lastAsked_append, other, Option.getD_none, fields.read_other _ _ _ _ other] at same
    exact same.trans (asAsked field).symm
  · intro upToDate field
    rw [lastAsked_append]
    cases asked : fields.asks call field with
    | none =>
        rw [fields.read_other _ _ _ _ asked, upToDate field asked, Option.getD_none]
        exact asAsked field
    | some value => rw [fields.read_asked _ _ _ _ _ asked, Option.getD_some]

variable [DecidableEq Thread]

theorem asAsked_step_iff (asAsked : fields.AsAsked initial state)
    (stepped : fields.step state label = some next) :
    fields.AsAsked initial next ↔ fields.WritesUpToDate state label := by
  cases label with
  | read thread call succeeds =>
      rw [step] at stepped
      split at stepped
      next =>
        obtain rfl := Option.some.inj stepped
        exact iff_of_true asAsked trivial
      next => cases stepped
  | occur event =>
      obtain rfl := Option.some.inj stepped
      refine iff_of_true ?_ trivial
      intro field
      exact (fields.read_occur _ _ _).trans (asAsked field)
  | write thread succeeds =>
      rw [step] at stepped
      split at stepped
      next => cases stepped
      next call copy waiting =>
        cases succeeds with
        | false =>
            obtain rfl := Option.some.inj stepped
            exact iff_of_true asAsked trivial
        | true =>
            obtain rfl := Option.some.inj stepped
            rw [asAsked_written_iff asAsked]
            constructor
            · intro upToDate other otherCopy also
              rw [waiting] at also
              obtain ⟨rfl, rfl⟩ := Prod.mk.inj (Option.some.inj also)
              exact upToDate
            · intro upToDate
              exact upToDate call copy waiting

/-- In every state of a run each field is as the last call has set it, exactly if every write is
up to date. -/
theorem keeps_asAsked_iff {labels : List (SharingLabel Call Event Thread)}
    (started : fields.sharing.start state) (ran : fields.sharing.run state labels = some final) :
    fields.sharing.Keeps (fields.AsAsked state.memory) state labels ↔
      fields.sharing.StepsMeet fields.WritesUpToDate state labels := by
  have initial : fields.AsAsked state.memory state := by
    intro field
    rw [started.1]
    rfl
  have exact : ∀ (before : Sharing Memory Call Thread) label next, True →
      fields.AsAsked state.memory before → fields.sharing.step before label = some next →
      (fields.AsAsked state.memory next ↔ fields.WritesUpToDate before label) :=
    fun _ _ _ _ asAsked stepped => asAsked_step_iff asAsked stepped
  exact System.keeps_iff_stepsMeet exact (fun _ _ _ _ _ _ => trivial) trivial initial labels ran

/-! ## Calls that take turns -/

variable (fields) in
/-- At most one call has a copy, and its fields are those of the memory. -/
structure OneCopy (state : Sharing Memory Call Thread) : Prop where
  current : ∀ thread call copy, state.copies thread = some (call, copy) →
    ∀ field, fields.read field copy = fields.read field state.memory
  only : ∀ thread other call copy, state.copies thread = some (call, copy) → other ≠ thread →
    state.copies other = none

theorem OneCopy.step (one : fields.OneCopy state) (turns : state.TakesTurns label)
    (stepped : fields.step state label = some next) : fields.OneCopy next := by
  cases label with
  | read thread call succeeds =>
      obtain ⟨rfl, free⟩ := turns
      rw [Fields.step, free thread] at stepped
      obtain rfl := Option.some.inj stepped
      have others : ∀ other, other ≠ thread →
          Function.update state.copies thread (some (call, state.memory)) other = none := by
        intro other differs
        rw [Function.update_of_ne differs]
        exact free other
      constructor
      · intro other otherCall copy waiting field
        by_cases same : other = thread
        · rw [same] at waiting
          obtain ⟨-, rfl⟩ := Prod.mk.inj
            (Option.some.inj ((Function.update_self thread _ _).symm.trans waiting))
          rfl
        · cases (others other same).symm.trans waiting
      · intro holder other otherCall copy waiting differs
        by_cases same : holder = thread
        · exact others other (same ▸ differs)
        · cases (others holder same).symm.trans waiting
  | occur event =>
      obtain rfl := Option.some.inj stepped
      refine ⟨?_, one.only⟩
      intro thread call copy waiting field
      exact (one.current thread call copy waiting field).trans (fields.read_occur _ _ _).symm
  | write thread succeeds =>
      rw [Fields.step] at stepped
      split at stepped
      next => cases stepped
      next call copy waiting =>
        have free : ∀ other, Function.update state.copies thread none other = none := by
          intro other
          by_cases same : other = thread
          · rw [same, Function.update_self]
          · rw [Function.update_of_ne same]
            exact one.only thread other call copy waiting same
        have freed : next.copies = Function.update state.copies thread none := by
          cases succeeds <;> obtain rfl := Option.some.inj stepped <;> rfl
        constructor
        · intro other otherCall otherCopy still
          rw [freed, free other] at still
          cases still
        · intro _ other _ _ _ _
          rw [freed, free other]

/-- Calls that take turns write what is up to date. -/
theorem stepsMeet_of_turns {labels : List (SharingLabel Call Event Thread)}
    (one : fields.OneCopy state)
    (turns : fields.sharing.StepsMeet Sharing.TakesTurns state labels) :
    fields.sharing.StepsMeet fields.WritesUpToDate state labels := by
  induction labels generalizing state with
  | nil => trivial
  | cons label labels ih =>
      obtain ⟨turn, later⟩ := turns
      constructor
      · cases label with
        | read _ _ _ => trivial
        | occur _ => trivial
        | write thread succeeds =>
            cases succeeds with
            | false => trivial
            | true =>
                intro call copy waiting field _
                exact one.current thread call copy waiting field
      · split
        next next stepped =>
          rw [stepped] at later
          exact ih (one.step turn stepped) later
        next => trivial

/-- If calls take turns, then in every state each field is as the last call has set it. -/
theorem keeps_asAsked_of_turns {labels : List (SharingLabel Call Event Thread)}
    (started : fields.sharing.start state) (ran : fields.sharing.run state labels = some final)
    (turns : fields.sharing.StepsMeet Sharing.TakesTurns state labels) :
    fields.sharing.Keeps (fields.AsAsked state.memory) state labels := by
  have one : fields.OneCopy state := by
    constructor
    · intro thread call copy waiting
      rw [started.2 thread] at waiting
      cases waiting
    · intro _ other _ _ _ _
      exact started.2 other
  exact (keeps_asAsked_iff started ran).mpr (stepsMeet_of_turns one turns)

end Fields

end Jrxtx.Transition
