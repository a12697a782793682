import Jrxtx.Heap.Doubly
import Jrxtx.RXTXPort.Listener
import Jrxtx.Transition.System

/-!
# The list of event loops

Each monitor thread runs `eventLoop` with an `event_info_struct` on its stack, which
`initialise_event_info_struct` links in at the end of the list at `master_index` and
`finalize_event_info_struct` takes out.  An address can serve again once the loop there
has ended.
-/

namespace Jrxtx.SerialImp.EventLoop

open Jrxtx.Heap Jrxtx.Transition

/-- Address of an `event_info_struct`. -/
abbrev EisRef := Nat

/-- `event_info_struct` -/
structure EventInfo where
  fd : Int
  eventflags : SerialEvent → Int
  initialised : Bool
  eventloopInterrupted : Bool
  closing : Bool
  next : Option EisRef
  prev : Option EisRef

/-- Where the event loop with a structure at some address is. -/
inductive Stage where
  | ended
  /-- before the first `initialise_event_info_struct` -/
  | entered
  /-- in the loop -/
  | running
  deriving DecidableEq, Repr

/-- The structures of all event loops. -/
structure State where
  memory : EisRef → EventInfo
  masterIndex : Option EisRef
  stage : EisRef → Stage

namespace State

variable (state : State) (eis : EisRef)

def modify (change : EventInfo → EventInfo) : State :=
  { state with memory := Function.update state.memory eis (change (state.memory eis)) }

/-- `eis->next = link` -/
def setNext (link : Option EisRef) : State :=
  state.modify eis fun info => { info with next := link }

/-- `eis->prev = link` -/
def setPrev (link : Option EisRef) : State :=
  state.modify eis fun info => { info with prev := link }

def goto (stage : Stage) : State :=
  { state with stage := Function.update state.stage eis stage }

/-- Where `next` leads. -/
def next (p : EisRef) : Option EisRef := (state.memory p).next

/-- Where `prev` leads. -/
def prev (p : EisRef) : Option EisRef := (state.memory p).prev

/-- Linking in, at the end of the list; `none` if the fuel does not suffice to get there. -/
def link (fuel : Nat) : Option State :=
  match state.masterIndex with
  | some index =>
      (lastFrom state.next fuel index).map fun index =>
        ((state.setNext index (some eis)).setPrev eis (some index)).setNext eis none
  | none => some (({ state with masterIndex := some eis }.setNext eis none).setPrev eis none)

/-- `finalize_event_info_struct` -/
def finalize : State :=
  match state.next eis, state.prev eis with
  | some next, some prev => (state.setNext prev (some next)).setPrev next (some prev)
  | some next, none => { state.setPrev next none with masterIndex := some next }
  | none, some prev => state.setNext prev none
  | none, none => { state with masterIndex := none }

/-- `initialise_event_info_struct`: whether it succeeds, which it does unless the method
`sendEvent` is not found. -/
def initialise (fuel : Nat) (fd : Int) (sendEvent : Bool) : Option (Bool × State) :=
  if (state.memory eis).initialised then some (true, state)
  else
    (state.link eis fuel).map fun state =>
      let state := state.modify eis fun info =>
        { info with
          eventflags := fun _ => 0
          eventloopInterrupted := false
          closing := false
          fd }
      if sendEvent then (true, state.modify eis fun info => { info with initialised := true })
      else (false, state.finalize eis)

end State

/-- A step of the event loop with a structure at an address. -/
inductive Label where
  /-- `eventLoop` is entered; its structure has whatever contents the stack had -/
  | enter (eis : EisRef) (garbage : EventInfo)
  /-- `initialise_event_info_struct`, the first or a later one -/
  | initialise (eis : EisRef) (fuel : Nat) (fd : Int) (sendEvent : Bool)
  /-- `interruptEventLoop` has found the structure -/
  | interrupt (eis : EisRef)
  /-- `eis.closing` is set, and `finalize_event_info_struct` is called -/
  | finalize (eis : EisRef)

/-- One step. -/
def State.step (state : State) : Label → Option State
  | .enter eis garbage =>
      if state.stage eis = .ended then
        some ((state.modify eis fun _ => { garbage with initialised := false }).goto eis .entered)
      else none
  | .initialise eis fuel fd sendEvent =>
      if state.stage eis = .ended then none
      else
        (state.initialise eis fuel fd sendEvent).map fun (succeeds, next) =>
          next.goto eis (if succeeds then .running else .ended)
  | .interrupt eis =>
      if state.stage eis = .running then
        some (state.modify eis fun info =>
          { info with eventloopInterrupted := true, closing := true })
      else none
  | .finalize eis =>
      if state.stage eis = .running ∧ (state.memory eis).closing = true then
        some ((state.finalize eis).goto eis .ended)
      else none

/-- Before the first port is opened. -/
structure Started (state : State) : Prop where
  masterIndex : state.masterIndex = none
  ended : ∀ eis, state.stage eis = .ended

/-- All event loops of the process. -/
def loops : System State Label where
  start := Started
  step := State.step

namespace State

variable {state after : State} {eis p : EisRef} {nodes front back : List EisRef} {fuel : Nat}

section Writes

/-- Other members of a structure do not bear on the list. -/
theorem next_modify {change : EventInfo → EventInfo}
    (keeps : ∀ info, (change info).next = info.next) :
    (state.modify eis change).next = state.next := by
  funext p
  by_cases same : p = eis <;> simp [same, next, modify, keeps]

theorem prev_modify {change : EventInfo → EventInfo}
    (keeps : ∀ info, (change info).prev = info.prev) :
    (state.modify eis change).prev = state.prev := by
  funext p
  by_cases same : p = eis <;> simp [same, prev, modify, keeps]

theorem initialised_modify {change : EventInfo → EventInfo}
    (keeps : ∀ info, (change info).initialised = info.initialised) :
    ((state.modify eis change).memory p).initialised = (state.memory p).initialised := by
  by_cases same : p = eis <;> simp [same, modify, keeps]

@[simp] theorem next_setNext (link : Option EisRef) :
    (state.setNext eis link).next = Function.update state.next eis link := by
  funext p
  by_cases same : p = eis <;> simp [same, next, setNext, modify]

@[simp] theorem prev_setNext (link : Option EisRef) :
    (state.setNext eis link).prev = state.prev :=
  prev_modify fun _ => rfl

@[simp] theorem next_setPrev (link : Option EisRef) :
    (state.setPrev eis link).next = state.next :=
  next_modify fun _ => rfl

@[simp] theorem prev_setPrev (link : Option EisRef) :
    (state.setPrev eis link).prev = Function.update state.prev eis link := by
  funext p
  by_cases same : p = eis <;> simp [same, prev, setPrev, modify]

@[simp] theorem initialised_setNext (link : Option EisRef) :
    ((state.setNext eis link).memory p).initialised = (state.memory p).initialised :=
  initialised_modify fun _ => rfl

@[simp] theorem initialised_setPrev (link : Option EisRef) :
    ((state.setPrev eis link).memory p).initialised = (state.memory p).initialised :=
  initialised_modify fun _ => rfl

@[simp] theorem next_masterIndex (link : Option EisRef) :
    ({ state with masterIndex := link } : State).next = state.next := rfl

@[simp] theorem prev_masterIndex (link : Option EisRef) :
    ({ state with masterIndex := link } : State).prev = state.prev := rfl

end Writes

section Finalize

theorem next_finalize : (state.finalize eis).next p =
    if state.prev eis = some p then state.next eis else state.next p := by
  unfold finalize
  cases later : state.next eis <;> cases before : state.prev eis <;>
    simp [Function.update_apply, eq_comm]

theorem prev_finalize : (state.finalize eis).prev p =
    if state.next eis = some p then state.prev eis else state.prev p := by
  unfold finalize
  cases later : state.next eis <;> cases before : state.prev eis <;>
    simp [Function.update_apply, eq_comm]

theorem masterIndex_finalize : (state.finalize eis).masterIndex =
    if state.prev eis = none then state.next eis else state.masterIndex := by
  unfold finalize
  cases later : state.next eis <;> cases before : state.prev eis <;>
    simp [setNext, setPrev, modify]

@[simp] theorem stage_finalize : (state.finalize eis).stage = state.stage := by
  unfold finalize
  split <;> rfl

@[simp] theorem initialised_finalize :
    ((state.finalize eis).memory p).initialised = (state.memory p).initialised := by
  unfold finalize
  split <;> simp

end Finalize

section List

/-- A structure that is not in the list is linked in behind the last one. -/
theorem link_eq_some (list : Doubly state.next state.prev state.masterIndex nodes)
    (new : eis ∉ nodes) (enough : nodes.length ≤ fuel) :
    ∃ after, state.link eis fuel = some after ∧
      Doubly after.next after.prev after.masterIndex (nodes ++ [eis]) ∧
      after.stage = state.stage ∧
      ∀ p, (after.memory p).initialised = (state.memory p).initialised := by
  have starts := list.first
  cases nodes using List.reverseRecOn with
  | nil =>
      rw [List.head?_nil] at starts
      refine ⟨({ state with masterIndex := some eis }.setNext eis none).setPrev eis none,
        by simp only [link, starts], ?_, rfl, by simp⟩
      change Doubly _ _ ([] ++ [eis]).head? ([] ++ [eis])
      apply list.concat <;> simp
  | append_singleton front last _ =>
      obtain ⟨index, atHead⟩ : ∃ index, (front ++ [last]).head? = some index :=
        Option.isSome_iff_exists.mp (by simp)
      have walked : lastFrom state.next fuel index = some last := by
        apply Chain.lastFrom_eq
        · rw [← atHead, ← starts]
          exact list.chain
        · exact le_trans (by simp) enough
      have apart : ∀ p ∈ front ++ [last], p ≠ eis := by
        intro p member same
        exact new (same ▸ member)
      refine ⟨((state.setNext last (some eis)).setPrev eis (some last)).setNext eis none,
        by simp only [link, starts, atHead, walked, Option.map_some], ?_, rfl, by simp⟩
      have head : state.masterIndex = (front ++ [last] ++ [eis]).head? := by
        rw [List.head?_append, starts, atHead]
        rfl
      change Doubly _ _ state.masterIndex _
      rw [head]
      apply list.concat
      case links =>
        intro p member
        simp [Function.update_apply, apart p member, eq_comm]
      case newNext => simp
      case backlinks =>
        intro p member
        simp [apart p member]
      case newPrev => simp

/-- `finalize_event_info_struct` takes a structure out of the list. -/
theorem doubly_finalize
    (list : Doubly state.next state.prev state.masterIndex (front ++ eis :: back)) :
    Doubly (state.finalize eis).next (state.finalize eis).prev (state.finalize eis).masterIndex
      (front ++ back) := by
  have atNext := list.next front eis back rfl
  have atPrev := list.prev front eis back rfl
  have starts : (state.finalize eis).masterIndex = (front ++ back).head? := by
    rw [masterIndex_finalize, atNext, atPrev, list.first]
    cases front <;> simp
  rw [starts]
  apply list.remove
  · intro other _
    rw [next_finalize, atNext, atPrev]
  · intro other _
    rw [prev_finalize, atNext, atPrev]

/-- More fuel for the way to the end of the list does not change the result. -/
theorem link_mono {more : Nat} (linked : state.link eis fuel = some after) (le : fuel ≤ more) :
    state.link eis more = some after := by
  unfold link at linked ⊢
  split
  next index starts =>
    rw [starts] at linked
    obtain ⟨last, walked, rfl⟩ := Option.map_eq_some_iff.mp linked
    rw [lastFrom_mono walked le, Option.map_some]
  next starts =>
    rw [starts] at linked
    exact linked

end List

section Initialise

variable {fd : Int} {sendEvent succeeds : Bool}

theorem initialise_of_initialised (initialised : (state.memory eis).initialised = true) :
    state.initialise eis fuel fd sendEvent = some (true, state) := by
  simp only [initialise, initialised, if_true]

/-- A first `initialise_event_info_struct` links the structure in, and takes it out
again if it fails. -/
theorem initialise_of_entered (list : Doubly state.next state.prev state.masterIndex nodes)
    (new : eis ∉ nodes) (entered : (state.memory eis).initialised = false)
    (stepped : state.initialise eis fuel fd sendEvent = some (succeeds, after)) :
    Doubly after.next after.prev after.masterIndex
        (if succeeds then nodes ++ [eis] else nodes) ∧
      after.stage = state.stage ∧
      (∀ p, p ≠ eis → (after.memory p).initialised = (state.memory p).initialised) ∧
      (succeeds = true → (after.memory eis).initialised = true) := by
  simp only [initialise, entered, Bool.false_eq_true, if_false] at stepped
  obtain ⟨linked, isLinked, result⟩ := Option.map_eq_some_iff.mp stepped
  obtain ⟨other, sameLinked, grown, stage, initialised⟩ :=
    link_eq_some list new (Nat.le_max_right fuel nodes.length)
  rw [link_mono isLinked (Nat.le_max_left fuel nodes.length)] at sameLinked
  obtain rfl := Option.some.inj sameLinked
  cases sendEvent with
  | true =>
      obtain ⟨rfl, rfl⟩ := Prod.mk.inj result
      refine ⟨?_, stage, ?_, fun _ => by simp [modify]⟩
      · rw [next_modify (by simp), next_modify (by simp), prev_modify (by simp),
          prev_modify (by simp)]
        exact grown
      · intro p apart
        simp [modify, apart, initialised]
  | false =>
      obtain ⟨rfl, rfl⟩ := Prod.mk.inj result
      refine ⟨?_, by rw [stage_finalize]; exact stage, ?_, by simp⟩
      · rw [if_neg (by simp), ← List.append_nil nodes]
        apply doubly_finalize
        rw [next_modify (by simp), prev_modify (by simp)]
        exact grown
      · intro p apart
        rw [initialised_finalize]
        simp [modify, apart, initialised]

end Initialise

/-- The list is what it should be, and `initialised` tells which structures are in it. -/
structure Intact (state : State) : Prop where
  lists : ∃ nodes, Doubly state.next state.prev state.masterIndex nodes ∧
    ∀ eis, eis ∈ nodes ↔ state.stage eis = .running
  initialised : ∀ eis, state.stage eis ≠ .ended →
    ((state.memory eis).initialised = true ↔ state.stage eis = .running)

theorem Started.intact (started : Started state) : state.Intact where
  lists := ⟨[], started.masterIndex ▸ doubly_nil, by simp [started.ended]⟩
  initialised := by simp [started.ended]

section Steps

variable {fd : Int} {sendEvent succeeds : Bool} {stage : Stage}

/-- One loop moves on, and the list is what the stages of the others and its new stage
say. -/
theorem Intact.goto (intact : state.Intact)
    (lists : Doubly after.next after.prev after.masterIndex nodes)
    (stages : after.stage = state.stage)
    (own : eis ∈ nodes ↔ stage = .running)
    (others : ∀ p, p ≠ eis → (p ∈ nodes ↔ state.stage p = .running))
    (ownInitialised : stage ≠ .ended →
      ((after.memory eis).initialised = true ↔ stage = .running))
    (kept : ∀ p, p ≠ eis → (after.memory p).initialised = (state.memory p).initialised) :
    (after.goto eis stage).Intact := by
  refine ⟨⟨nodes, lists, ?_⟩, ?_⟩
  · intro p
    by_cases same : p = eis
    · simpa [State.goto, same] using own
    · simpa [State.goto, same, stages] using others p same
  · intro p
    by_cases same : p = eis
    · simpa [State.goto, same] using ownInitialised
    · simpa [State.goto, same, stages, kept] using intact.initialised p

theorem Intact.enter (intact : state.Intact) (ended : state.stage eis = .ended)
    (garbage : EventInfo) :
    ((state.modify eis fun _ => { garbage with initialised := false }).goto eis
      .entered).Intact := by
  obtain ⟨nodes, lists, running⟩ := intact.lists
  have absent : eis ∉ nodes := by simp [running, ended]
  have kept : ∀ p, p ≠ eis →
      (state.modify eis fun _ => { garbage with initialised := false }).memory p =
        state.memory p := fun p other => Function.update_of_ne other _ _
  apply intact.goto
  case stages => rfl
  case lists =>
    apply lists.congr
    · intro p member
      exact congrArg EventInfo.next (kept p (ne_of_mem_of_not_mem member absent))
    · intro p member
      exact congrArg EventInfo.prev (kept p (ne_of_mem_of_not_mem member absent))
  case own => simp [absent]
  case others => exact fun p _ => running p
  case ownInitialised => simp [modify]
  case kept => exact fun p other => congrArg EventInfo.initialised (kept p other)

theorem Intact.interrupt (intact : state.Intact) :
    (state.modify eis fun info =>
      { info with eventloopInterrupted := true, closing := true }).Intact := by
  obtain ⟨nodes, lists, running⟩ := intact.lists
  refine ⟨⟨nodes, ?_, running⟩, ?_⟩
  · rw [next_modify (by simp), prev_modify (by simp)]
    exact lists
  · intro p active
    by_cases same : p = eis
    · subst same
      simpa [modify] using intact.initialised p active
    · simpa [modify, same] using intact.initialised p active

theorem Intact.initialise (intact : state.Intact) (active : state.stage eis ≠ .ended)
    (stepped : state.initialise eis fuel fd sendEvent = some (succeeds, after)) :
    (after.goto eis (if succeeds then .running else .ended)).Intact := by
  obtain ⟨nodes, lists, running⟩ := intact.lists
  by_cases again : state.stage eis = .running
  · rw [initialise_of_initialised ((intact.initialised eis active).mpr again),
      Option.some.injEq, Prod.mk.injEq] at stepped
    obtain ⟨rfl, rfl⟩ := stepped
    have same : state.goto eis .running = state := by simp [State.goto, ← again]
    rw [if_pos rfl, same]
    exact intact
  · have new : eis ∉ nodes := by simp [running, again]
    have entered : (state.memory eis).initialised = false := by
      simpa [again] using intact.initialised eis active
    obtain ⟨list, stages, kept, initialised⟩ := initialise_of_entered lists new entered stepped
    apply intact.goto list stages
    case own => cases succeeds <;> simp [new]
    case others =>
      intro p other
      cases succeeds <;> simp [running, other]
    case ownInitialised => cases succeeds <;> simp [initialised]
    case kept => exact kept

theorem Intact.finalize (intact : state.Intact) (running : state.stage eis = .running) :
    ((state.finalize eis).goto eis .ended).Intact := by
  obtain ⟨nodes, lists, listed⟩ := intact.lists
  obtain ⟨front, back, rfl⟩ := List.append_of_mem ((listed eis).mpr running)
  apply intact.goto (doubly_finalize lists) stage_finalize
  case own => simpa using absent_of_split lists.nodup rfl
  case others =>
    intro p other
    simp [← listed, other]
  case ownInitialised => simp
  case kept => exact fun p _ => initialised_finalize

theorem Intact.step {label : Label} (intact : state.Intact)
    (stepped : state.step label = some after) : after.Intact := by
  cases label with
  | enter eis garbage =>
      simp only [State.step, Option.ite_none_right_eq_some, Option.some.injEq] at stepped
      obtain ⟨ended, rfl⟩ := stepped
      exact intact.enter ended garbage
  | initialise eis fuel fd sendEvent =>
      simp only [State.step, Option.ite_none_left_eq_some, Option.map_eq_some_iff] at stepped
      obtain ⟨active, ⟨succeeds, linked⟩, initialised, rfl⟩ := stepped
      exact intact.initialise active initialised
  | interrupt eis =>
      simp only [State.step, Option.ite_none_right_eq_some, Option.some.injEq] at stepped
      obtain ⟨-, rfl⟩ := stepped
      exact intact.interrupt
  | finalize eis =>
      simp only [State.step, Option.ite_none_right_eq_some, Option.some.injEq] at stepped
      obtain ⟨⟨running, -⟩, rfl⟩ := stepped
      exact intact.finalize running

/-- `initialise_event_info_struct` gets to the end of the list. -/
theorem isSome_initialise (lists : Doubly state.next state.prev state.masterIndex nodes)
    (new : eis ∉ nodes ∨ (state.memory eis).initialised = true) (enough : nodes.length ≤ fuel)
    (fd : Int) (sendEvent : Bool) : (state.initialise eis fuel fd sendEvent).isSome = true := by
  cases initialised : (state.memory eis).initialised with
  | true => simp [initialise_of_initialised initialised]
  | false =>
      have absent : eis ∉ nodes := by simpa [initialised] using new
      obtain ⟨linked, isLinked, -⟩ := link_eq_some lists absent enough
      simp [initialise, initialised, isLinked]

end Steps

/-- In every reachable state the list is a finite doubly linked list of the structures of
the loops that run, each once, and `initialise_event_info_struct` returns. -/
theorem event_loops_listed (reachable : loops.Reachable state) :
    ∃ nodes, Doubly state.next state.prev state.masterIndex nodes ∧ nodes.Nodup ∧
      (∀ eis, eis ∈ nodes ↔ state.stage eis = .running) ∧
      ∀ eis fuel fd sendEvent, state.stage eis ≠ .ended → nodes.length ≤ fuel →
        (state.initialise eis fuel fd sendEvent).isSome = true := by
  have intact : state.Intact := by
    refine reachable.invariant ?_ ?_
    · intro state started
      exact Started.intact started
    · intro state label next held stepped
      exact held.step stepped
  obtain ⟨nodes, lists, running⟩ := intact.lists
  refine ⟨nodes, lists, lists.nodup, running, ?_⟩
  intro eis fuel fd sendEvent active enough
  apply isSome_initialise lists ?_ enough
  rw [intact.initialised eis active, running]
  exact (Decidable.em (state.stage eis = .running)).symm

/-- A second loop has started, a third has failed to, and the first has ended. -/
theorem event_loops_listed_second :
    ∃ state, loops.Reachable state ∧ state.masterIndex = some 1 ∧
      ∃ nodes : List EisRef, nodes.Nodup ∧ 0 ∉ nodes ∧ 1 ∈ nodes ∧ 2 ∉ nodes := by
  let garbage : EventInfo := ⟨0, fun _ => 0, true, false, false, some 7, some 8⟩
  have started : Started ⟨fun _ => garbage, none, fun _ => .ended⟩ := ⟨rfl, fun _ => rfl⟩
  have reachable : loops.Reachable _ := System.reachable_of_run
    [.enter 0 garbage, .initialise 0 0 5 true, .enter 1 garbage, .enter 2 garbage,
      .initialise 1 0 6 true, .initialise 0 0 5 true, .initialise 2 1 7 false, .interrupt 0,
      .finalize 0] started rfl
  obtain ⟨nodes, -, nodup, running, -⟩ := event_loops_listed reachable
  exact ⟨_, reachable, rfl, nodes, nodup, mt (running 0).mp (by decide), (running 1).mpr rfl,
    mt (running 2).mp (by decide)⟩

end State

end Jrxtx.SerialImp.EventLoop
