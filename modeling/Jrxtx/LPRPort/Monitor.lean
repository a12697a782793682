import Jrxtx.Transition.System

/-!
# The monitor threads of a parallel port

`addEventListener` starts a thread in `eventLoop`, and `removeEventListener` interrupts it and
forgets it.  The loop asks `checkMonitorThread`, which is not synchronized, whether the thread
that the port has at that moment is interrupted, and hands its events to the listener that the
port has when it sends them.  What a listener calls on the port comes after its event.
-/

namespace Jrxtx.LPRPort

open Jrxtx.Transition

/-- `PAR_EV_ERROR` and `PAR_EV_BUFFER`. -/
inductive ParallelEvent where
  | error
  | buffer
  deriving DecidableEq, Repr

/-- Where a monitor thread is in `eventLoop`; `again` is false before the loop. -/
inductive MonitorPc where
  /-- in `is_interrupted` -/
  | check (again : Bool)
  /-- `checkMonitorThread` has found a thread -/
  | found (again : Bool)
  | selecting
  /-- so many calls of `send_event` are left in the round -/
  | reporting (events : Nat)
  | ended
  deriving DecidableEq, Repr

/-- An event that a listener has got; both are numbered by the calls of `addEventListener`. -/
structure Delivery where
  thread : Nat
  listener : Nat
  deriving DecidableEq, Repr

structure MonitorState where
  /-- `fd != 0` -/
  isOpen : Bool
  ppEventListener : Option Nat
  monThread : Option Nat
  /-- `monError` and `monBuffer` of each thread -/
  enabled : Nat → ParallelEvent → Bool
  interrupted : Nat → Bool
  created : Nat
  pc : Nat → MonitorPc
  delivered : List Delivery

inductive MonitorLabel where
  /-- with a listener, or with `null` -/
  | addEventListener (isListener : Bool)
  | removeEventListener
  | notifyOn (event : ParallelEvent) (enable : Bool)
  | close
  /-- a step of a thread; `select` fails, or the printer has so many of the four states that
  are reported -/
  | eventLoop (thread : Nat) (selects : Bool) (states : Fin 5)

namespace MonitorState

variable (state : MonitorState)

def addEventListener (isListener : Bool) : MonitorState :=
  -- `TooManyListenersException`
  if state.ppEventListener.isSome then state
  else
    { state with
      ppEventListener := if isListener then some state.created else none
      monThread := some state.created
      created := state.created + 1
      pc := Function.update state.pc state.created (.check false) }

def removeEventListener : MonitorState :=
  match state.monThread with
  | none => { state with ppEventListener := none }
  | some thread =>
      { state with
        ppEventListener := none
        interrupted := Function.update state.interrupted thread true
        monThread := none }

/-- `notifyOnError` and `notifyOnBuffer`. -/
def notifyOn (event : ParallelEvent) (enable : Bool) : MonitorState :=
  match state.monThread with
  -- `NullPointerException`
  | none => state
  | some thread =>
      let enabled := Function.update (state.enabled thread) event enable
      { state with enabled := Function.update state.enabled thread enabled }

/-- `super.close()` and `removeEventListener()`. -/
def close : MonitorState :=
  { state.removeEventListener with isOpen := false }

def deliver (thread listener : Nat) : MonitorState :=
  { state with delivered := state.delivered ++ [⟨thread, listener⟩] }

/-- `sendEvent`, whose result nobody uses. -/
def sendEvent (thread : Nat) (event : ParallelEvent) : MonitorState :=
  match state.isOpen, state.ppEventListener, state.monThread with
  | true, some listener, some current =>
      if state.enabled current event then state.deliver thread listener else state
  | _, _, _ => state

def goto (thread : Nat) (pc : MonitorPc) : MonitorState :=
  { state with pc := Function.update state.pc thread pc }

/-- Behind `is_interrupted`. -/
def uninterrupted (thread : Nat) (again : Bool) (states : Fin 5) : MonitorState :=
  state.goto thread (if again then .reporting states else .selecting)

/-- A step of the thread in `eventLoop`. -/
def stepLoop (thread : Nat) (selects : Bool) (states : Fin 5) : Option MonitorState :=
  match state.pc thread with
  | .check again =>
      match state.monThread with
      | none => some (state.goto thread .ended)
      | some _ => some (state.goto thread (.found again))
  | .found again =>
      match state.monThread with
      -- the `NullPointerException` is not looked at
      | none => some (state.uninterrupted thread again states)
      | some current =>
          if state.interrupted current then some (state.goto thread .ended)
          else some (state.uninterrupted thread again states)
  | .selecting => some (state.goto thread (if selects then .check true else .ended))
  | .reporting 0 => some (state.goto thread .selecting)
  | .reporting (events + 1) =>
      some ((state.sendEvent thread .error).goto thread (.reporting events))
  | .ended => none

def step : MonitorLabel → Option MonitorState
  | .addEventListener isListener => some (state.addEventListener isListener)
  | .removeEventListener => some state.removeEventListener
  | .notifyOn event enable => some (state.notifyOn event enable)
  | .close => some state.close
  | .eventLoop thread selects states => state.stepLoop thread selects states

/-- The thread is in `eventLoop`. -/
def Live (thread : Nat) : Prop := state.pc thread ≠ .ended

end MonitorState

/-- An open port without a listener. -/
def unmonitored : MonitorState where
  isOpen := true
  ppEventListener := none
  monThread := none
  enabled := fun _ _ => false
  interrupted := fun _ => false
  created := 0
  pc := fun _ => .ended
  delivered := []

def monitors : System MonitorState MonitorLabel where
  start := fun state => state = unmonitored
  step := MonitorState.step

namespace MonitorState

/-- At most one thread is in `eventLoop`, that of the listener if there is one, and every event
has come from the thread that was started for the listener that has got it. -/
structure Served (state : MonitorState) : Prop where
  single : ∀ one another, state.Live one → state.Live another → one = another
  own : ∀ listener, state.ppEventListener = some listener → ∀ thread, state.Live thread →
    thread = listener
  delivered : ∀ delivery ∈ state.delivered, delivery.thread = delivery.listener

/-- A listener is added after the threads of those before have ended, or refused. -/
def AddsAlone (state : MonitorState) : MonitorLabel → Prop
  | .addEventListener _ => state.ppEventListener.isSome = true ∨ ∀ thread, ¬state.Live thread
  | _ => True

/-- Threads are numbered in the order of their start. -/
structure Numbered (state : MonitorState) : Prop where
  unborn : ∀ thread, state.created ≤ thread → ¬state.Live thread
  listener : ∀ listener, state.ppEventListener = some listener → listener + 1 = state.created

section Steps

variable {state next : MonitorState} {thread : Nat} {selects : Bool} {states : Fin 5}
  {label : MonitorLabel}

/-- What a step of a thread in the loop comes to. -/
inductive LoopMove (state : MonitorState) (thread : Nat) : MonitorState → Prop where
  | goto (pc : MonitorPc) (live : state.Live thread) : LoopMove state thread (state.goto thread pc)
  | send (pc : MonitorPc) (live : state.Live thread) (listener : Nat)
      (isListener : state.ppEventListener = some listener) :
      LoopMove state thread ((state.deliver thread listener).goto thread pc)

theorem sendEvent_cases (state : MonitorState) (thread : Nat) (event : ParallelEvent) :
    state.sendEvent thread event = state ∨ ∃ listener, state.ppEventListener = some listener ∧
      state.sendEvent thread event = state.deliver thread listener := by
  unfold sendEvent
  split
  next listener current _ isListener _ =>
    split
    next => exact .inr ⟨listener, isListener, rfl⟩
    next => exact .inl rfl
  next => exact .inl rfl

theorem LoopMove.of_step (stepped : state.stepLoop thread selects states = some next) :
    state.LoopMove thread next := by
  have live : state.Live thread := by
    intro ended
    simp [stepLoop, ended] at stepped
  cases stands : state.pc thread with
  | ended => exact absurd stands live
  | check again =>
      simp only [stepLoop, stands] at stepped
      split at stepped
      next => exact Option.some.inj stepped ▸ .goto _ live
      next => exact Option.some.inj stepped ▸ .goto _ live
  | found again =>
      simp only [stepLoop, stands] at stepped
      split at stepped
      next => exact Option.some.inj stepped ▸ .goto _ live
      next =>
        split at stepped
        next => exact Option.some.inj stepped ▸ .goto _ live
        next => exact Option.some.inj stepped ▸ .goto _ live
  | selecting =>
      simp only [stepLoop, stands] at stepped
      exact Option.some.inj stepped ▸ .goto _ live
  | reporting events =>
      cases events with
      | zero =>
          simp only [stepLoop, stands] at stepped
          exact Option.some.inj stepped ▸ .goto _ live
      | succ events =>
          simp only [stepLoop, stands] at stepped
          obtain rfl := Option.some.inj stepped
          obtain same | ⟨listener, isListener, sent⟩ := sendEvent_cases state thread .error
          · rw [same]
            exact .goto _ live
          · rw [sent]
            exact .send _ live listener isListener

theorem live_goto {pc : MonitorPc} {other : Nat} (live : state.Live thread)
    (lives : (state.goto thread pc).Live other) : state.Live other := by
  by_cases same : other = thread
  · exact same ▸ live
  · simpa [Live, goto, same] using lives

/-- What the other methods leave. -/
structure Kept (state next : MonitorState) : Prop where
  pc : next.pc = state.pc
  created : next.created = state.created
  listener : next.ppEventListener = state.ppEventListener ∨ next.ppEventListener = none
  delivered : next.delivered = state.delivered

theorem kept_removeEventListener (state : MonitorState) : state.Kept state.removeEventListener := by
  unfold removeEventListener
  split
  next => exact ⟨rfl, rfl, .inr rfl, rfl⟩
  next => exact ⟨rfl, rfl, .inr rfl, rfl⟩

theorem kept_close (state : MonitorState) : state.Kept state.close :=
  have kept := kept_removeEventListener state
  ⟨kept.pc, kept.created, kept.listener, kept.delivered⟩

theorem kept_notifyOn (state : MonitorState) (event : ParallelEvent) (enable : Bool) :
    state.Kept (state.notifyOn event enable) := by
  unfold notifyOn
  split
  next => exact ⟨rfl, rfl, .inl rfl, rfl⟩
  next => exact ⟨rfl, rfl, .inl rfl, rfl⟩

theorem addEventListener_of_isSome {isListener : Bool} {listener : Nat}
    (isSome : state.ppEventListener = some listener) :
    state.addEventListener isListener = state := by
  simp [addEventListener, isSome]

/-- A new thread is in the loop, besides those that have been. -/
theorem live_addEventListener_iff {isListener : Bool} (free : state.ppEventListener = none)
    {other : Nat} : (state.addEventListener isListener).Live other ↔
      other = state.created ∨ state.Live other := by
  rw [addEventListener, if_neg (by simp [free])]
  by_cases same : other = state.created <;> simp [Live, same]

theorem listener_addEventListener {isListener : Bool} (free : state.ppEventListener = none)
    {listener : Nat}
    (isSome : (state.addEventListener isListener).ppEventListener = some listener) :
    listener = state.created := by
  rw [addEventListener, if_neg (by simp [free])] at isSome
  cases isListener with
  | false => simp at isSome
  | true => simpa using isSome.symm

theorem delivered_addEventListener (state : MonitorState) (isListener : Bool) :
    (state.addEventListener isListener).delivered = state.delivered := by
  unfold addEventListener
  split <;> rfl

theorem created_addEventListener {isListener : Bool} (free : state.ppEventListener = none) :
    (state.addEventListener isListener).created = state.created + 1 := by
  rw [addEventListener, if_neg (by simp [free])]

/-! ### The threads -/

theorem Numbered.loop (numbered : state.Numbered) (moved : state.LoopMove thread next) :
    next.Numbered := by
  cases moved with
  | goto pc live | send pc live =>
      refine ⟨?_, numbered.listener⟩
      intro other unborn lives
      exact numbered.unborn other unborn (live_goto live lives)

theorem Numbered.kept (numbered : state.Numbered) (kept : state.Kept next) : next.Numbered := by
  constructor
  · intro other unborn
    rw [Live, kept.pc]
    exact numbered.unborn other (kept.created ▸ unborn)
  · intro other isSome
    rw [kept.created]
    obtain same | none := kept.listener
    · exact numbered.listener other (same ▸ isSome)
    · simp [none] at isSome

theorem Numbered.added {isListener : Bool} (numbered : state.Numbered)
    (free : state.ppEventListener = none) : (state.addEventListener isListener).Numbered := by
  constructor
  · intro other unborn lives
    rw [created_addEventListener free] at unborn
    obtain same | before := (live_addEventListener_iff free).mp lives
    · omega
    · exact numbered.unborn other (Nat.le_of_succ_le unborn) before
  · intro listener isSome
    rw [listener_addEventListener free isSome, created_addEventListener free]

theorem Served.loop (served : state.Served) (moved : state.LoopMove thread next) :
    next.Served := by
  cases moved with
  | goto pc live =>
      refine ⟨?_, ?_, served.delivered⟩
      · intro one another oneLives anotherLives
        exact served.single one another (live_goto live oneLives) (live_goto live anotherLives)
      · intro listener isSome other lives
        exact served.own listener isSome other (live_goto live lives)
  | send pc live listener isListener =>
      refine ⟨?_, ?_, ?_⟩
      · intro one another oneLives anotherLives
        exact served.single one another (live_goto live oneLives) (live_goto live anotherLives)
      · intro listener isSome other lives
        exact served.own listener isSome other (live_goto live lives)
      · intro delivery member
        obtain before | last := List.mem_append.mp member
        · exact served.delivered delivery before
        · rw [List.mem_singleton.mp last]
          exact served.own listener isListener thread live

theorem Served.kept (served : state.Served) (kept : state.Kept next) : next.Served := by
  have live (other : Nat) (lives : next.Live other) : state.Live other := by
    rwa [Live, kept.pc] at lives
  refine ⟨?_, ?_, kept.delivered ▸ served.delivered⟩
  · intro one another oneLives anotherLives
    exact served.single one another (live one oneLives) (live another anotherLives)
  · intro other isSome thread lives
    obtain same | none := kept.listener
    · exact served.own other (same ▸ isSome) thread (live thread lives)
    · simp [none] at isSome

/-- A new thread is alone exactly if none is left. -/
theorem Served.added_iff {isListener : Bool} (numbered : state.Numbered) (served : state.Served)
    (free : state.ppEventListener = none) :
    (state.addEventListener isListener).Served ↔ ∀ thread, ¬state.Live thread := by
  constructor
  · intro after thread lives
    have same := after.single thread state.created
      ((live_addEventListener_iff free).mpr (.inr lives))
      ((live_addEventListener_iff free).mpr (.inl rfl))
    exact numbered.unborn thread (Nat.le_of_eq same.symm) lives
  · intro alone
    have only (other : Nat) (lives : (state.addEventListener isListener).Live other) :
        other = state.created :=
      ((live_addEventListener_iff free).mp lives).resolve_right (alone other)
    refine ⟨?_, ?_, ?_⟩
    · intro one another oneLives anotherLives
      rw [only one oneLives, only another anotherLives]
    · intro listener isSome thread lives
      rw [only thread lives, listener_addEventListener free isSome]
    · rw [delivered_addEventListener]
      exact served.delivered

theorem Numbered.step (numbered : state.Numbered) (stepped : state.step label = some next) :
    next.Numbered := by
  cases label with
  | eventLoop thread selects states => exact numbered.loop (.of_step stepped)
  | addEventListener isListener =>
      obtain rfl := Option.some.inj stepped
      cases present : state.ppEventListener with
      | none => exact numbered.added present
      | some listener => exact (addEventListener_of_isSome present).symm ▸ numbered
  | removeEventListener =>
      exact Option.some.inj stepped ▸ numbered.kept (kept_removeEventListener state)
  | notifyOn event enable =>
      exact Option.some.inj stepped ▸ numbered.kept (kept_notifyOn state event enable)
  | close => exact Option.some.inj stepped ▸ numbered.kept (kept_close state)

theorem Served.step_iff (numbered : state.Numbered) (served : state.Served)
    (stepped : state.step label = some next) : next.Served ↔ state.AddsAlone label := by
  cases label with
  | eventLoop thread selects states =>
      exact iff_of_true (served.loop (.of_step stepped)) trivial
  | addEventListener isListener =>
      obtain rfl := Option.some.inj stepped
      cases present : state.ppEventListener with
      | none => simpa [AddsAlone, present] using served.added_iff numbered present
      | some listener =>
          rw [addEventListener_of_isSome present]
          exact iff_of_true served (.inl (by simp [present]))
  | removeEventListener =>
      obtain rfl := Option.some.inj stepped
      exact iff_of_true (served.kept (kept_removeEventListener state)) trivial
  | notifyOn event enable =>
      obtain rfl := Option.some.inj stepped
      exact iff_of_true (served.kept (kept_notifyOn state event enable)) trivial
  | close =>
      obtain rfl := Option.some.inj stepped
      exact iff_of_true (served.kept (kept_close state)) trivial

/-- In a run, every listener is served by its own thread and by no other exactly if each one is
added after the threads of those before have ended. -/
theorem monitor_threads_served_iff {labels : List MonitorLabel} {final : MonitorState}
    (ran : monitors.run unmonitored labels = some final) :
    monitors.Keeps Served unmonitored labels ↔
      monitors.StepsMeet AddsAlone unmonitored labels := by
  apply System.keeps_iff_stepsMeet (fun _ _ _ numbered served stepped =>
    served.step_iff numbered stepped) (fun _ _ _ numbered _ stepped => numbered.step stepped)
    ?_ ?_ labels ran
  · constructor <;> simp [unmonitored, Live]
  · constructor <;> simp [unmonitored, Live]

/-- A listener is removed; its thread ends, and another listener is added and gets an event. -/
def oneByOne : List MonitorLabel :=
  [.addEventListener true, .eventLoop 0 true 0, .removeEventListener, .eventLoop 0 true 0,
    .eventLoop 0 true 0, .eventLoop 0 true 0, .addEventListener true, .notifyOn .error true,
    .eventLoop 1 true 0, .eventLoop 1 true 0, .eventLoop 1 true 0, .eventLoop 1 true 0,
    .eventLoop 1 true 1, .eventLoop 1 true 0]

theorem monitor_threads_served_iff_oneByOne :
    ∃ final, monitors.run unmonitored oneByOne = some final ∧ final.delivered = [⟨1, 1⟩] ∧
      final.Served := by
  have ran : monitors.run unmonitored oneByOne = some _ := rfl
  have alone : monitors.StepsMeet AddsAlone unmonitored oneByOne := by
    refine ⟨.inr fun thread lives => lives rfl, trivial, trivial, trivial, trivial, trivial,
      .inr ?_, trivial, trivial, trivial, trivial, trivial, trivial, trivial, trivial⟩
    intro thread lives
    simp [Live, goto, addEventListener, removeEventListener, uninterrupted, unmonitored] at lives
  exact ⟨_, ran, rfl, ((monitor_threads_served_iff ran).mpr alone).at_end ran⟩

/-- The next listener is added before the thread of the first one looks again, and gets every
event twice. -/
example : ∃ final, monitors.run unmonitored
    ([.addEventListener true] ++ List.replicate 2 (.eventLoop 0 true 0) ++
      [.removeEventListener, .addEventListener true, .notifyOn .error true] ++
      List.replicate 2 (.eventLoop 1 true 0) ++
      List.flatMap (fun thread => List.replicate 4 (.eventLoop thread true 1)) [0, 1]) =
        some final ∧ final.delivered = [⟨0, 1⟩, ⟨1, 1⟩] :=
  ⟨_, rfl, rfl⟩

end Steps

end MonitorState

end Jrxtx.LPRPort
