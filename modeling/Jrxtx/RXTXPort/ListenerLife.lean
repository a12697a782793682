import Jrxtx.RXTXPort.Listener
import Jrxtx.Transition.System

/-!
# Adding and removing the event listener

The calls of one thread and the steps of the monitor threads that they start.  A call
is left where it waits: after `start()` for the event loop, and in `join`, which may be
interrupted.
-/

namespace Jrxtx.ListenerLife

open Jrxtx.Transition

/-- The number of a monitor thread, in the order of their creation. -/
abbrev ThreadId := Nat

/-- Where a monitor thread is. -/
inductive Stage where
  | absent
  /-- `start()` has been called -/
  | started
  /-- in `run()`, before the event loop -/
  | entered
  | looping
  | ended
  deriving DecidableEq, Repr

/-- The thread has been started and has not ended. -/
def Stage.isAlive : Stage → Bool
  | .absent | .ended => false
  | .started | .entered | .looping => true

/-- The constructor and the methods. -/
inductive Method where
  | new
  | addEventListener
  | removeEventListener
  | notifyOn
  deriving DecidableEq, Repr

/-- Where the calling thread is. -/
inductive Caller where
  | returned (method : Method) (result : RXTXPort.CallResult)
  /-- in `waitForTheNativeCodeSilly` after `monThread.start()` -/
  | starting (method : Method)
  /-- in `monThread.join(3000)` -/
  | joining (thread : ThreadId)
  deriving DecidableEq, Repr

/-- The fields of `RXTXPort` for the listener, and the monitor threads of the port. -/
structure Life where
  spEventListener : Option ListenerRef
  monThread : Option ThreadId
  monThreadisInterrupted : Bool
  monitorThreadLock : Bool
  monitorThreadAlive : Bool
  created : Nat
  stage : ThreadId → Stage
  /-- `closing` of the thread's `event_info_struct` -/
  closing : ThreadId → Bool
  enabled : ThreadId → SerialEvent → Bool
  caller : Caller

namespace Life

variable (life : Life)

/-- `new MonitorThread()`, `start()`, and the beginning of the wait. -/
def startMonitorThread (method : Method) : Life :=
  { life with
    monitorThreadLock := true
    monThread := some life.created
    created := life.created + 1
    stage := Function.update life.stage life.created .started
    enabled := Function.update life.enabled life.created fun _ => false
    caller := .starting method }

/-- The constructor has opened the device. -/
def opening : Life :=
  startMonitorThread
    { spEventListener := none
      monThread := none
      monThreadisInterrupted := true
      monitorThreadLock := true
      monitorThreadAlive := false
      created := 0
      stage := fun _ => .absent
      closing := fun _ => false
      enabled := fun _ _ => false
      caller := .starting .new } .new

def addEventListener (lsnr : Option ListenerRef) : Life :=
  if life.spEventListener.isSome then
    { life with caller := .returned .addEventListener .tooManyListenersException }
  else
    let life := { life with spEventListener := lsnr }
    if !life.monitorThreadAlive then life.startMonitorThread .addEventListener
    else { life with caller := .returned .addEventListener .returned }

/-- `interruptEventLoop`: the first event loop of the port is told to end; the call waits
until there is one. -/
def interruptEventLoop : Option Life :=
  ((List.range life.created).find? fun thread => life.stage thread = .looping).map fun thread =>
    { life with closing := Function.update life.closing thread true }

/-- The last statements of `removeEventListener`. -/
def removed : Life :=
  { life with
    monThread := none
    spEventListener := none
    monitorThreadLock := false
    monitorThreadAlive := false
    monThreadisInterrupted := true
    caller := .returned .removeEventListener .returned }

/-- `removeEventListener` up to `join`; `none` while it waits for `MonitorThreadLock`. -/
def removeEventListener : Option Life :=
  if life.monitorThreadLock then none
  else if life.monThreadisInterrupted then
    some { life with
      monThread := none
      spEventListener := none
      caller := .returned .removeEventListener .returned }
  else
    match life.monThread.filter fun thread => (life.stage thread).isAlive with
    | some thread =>
        let life : Life := { life with monThreadisInterrupted := true }
        life.interruptEventLoop.map fun life => { life with caller := .joining thread }
    | none => some life.removed

/-- The body of the `notifyOn` methods; `none` while it waits for `MonitorThreadLock`.
Without a monitor thread the exception leaves the lock set. -/
def notifyOn (event : SerialEvent) (enable : Bool) : Option Life :=
  if life.monitorThreadLock then none
  else
    match life.monThread with
    | none =>
        some { life with
          monitorThreadLock := true
          caller := .returned .notifyOn .nullPointerException }
    | some thread =>
        let enabled := Function.update (life.enabled thread) event enable
        some { life with
          enabled := Function.update life.enabled thread enabled
          caller := .returned .notifyOn .returned }

/-- The wait of the caller ends: the event loop is ready, or the thread has died. -/
def advance : Option Life :=
  match life.caller with
  | .returned _ _ => none
  | .starting method =>
      if life.monitorThreadLock then none
      else some { life with monitorThreadAlive := true, caller := .returned method .returned }
  | .joining thread => if (life.stage thread).isAlive then none else some life.removed

/-- `join` throws an `InterruptedException`, after which the method returns. -/
def interrupted : Option Life :=
  match life.caller with
  | .joining thread =>
      if (life.stage thread).isAlive then
        some { life with caller := .returned .removeEventListener .returned }
      else none
  | _ => none

/-- `run()` up to `eventLoop()` -/
def run (thread : ThreadId) : Option Life :=
  if life.stage thread = .started then
    some { life with
      monThreadisInterrupted := false
      stage := Function.update life.stage thread .entered }
  else none

/-- `eventLoop` up to its loop: `initialise_event_info_struct` and
`unlock_monitor_thread`. -/
def enterLoop (thread : ThreadId) : Option Life :=
  if life.stage thread = .entered then
    some { life with
      closing := Function.update life.closing thread false
      monitorThreadLock := false
      stage := Function.update life.stage thread .looping }
  else none

/-- The event loop finds `closing` set, and the thread ends. -/
def endLoop (thread : ThreadId) : Option Life :=
  if life.stage thread = .looping ∧ life.closing thread = true then
    some { life with stage := Function.update life.stage thread .ended }
  else none

end Life

/-- A step of the calling thread or of a monitor thread. -/
inductive Label where
  | addEventListener (lsnr : Option ListenerRef)
  | removeEventListener
  | notifyOn (event : SerialEvent) (enable : Bool)
  | advance
  | interrupted
  | run (thread : ThreadId)
  | enterLoop (thread : ThreadId)
  | endLoop (thread : ThreadId)
  deriving DecidableEq, Repr

/-- The calling thread is in no method. -/
def Caller.hasReturned : Caller → Bool
  | .returned _ _ => true
  | _ => false

/-- One step; calls are made one after the other. -/
def Life.step (life : Life) : Label → Option Life
  | .addEventListener lsnr =>
      if life.caller.hasReturned then some (life.addEventListener lsnr) else none
  | .removeEventListener => if life.caller.hasReturned then life.removeEventListener else none
  | .notifyOn event enable =>
      if life.caller.hasReturned then life.notifyOn event enable else none
  | .advance => life.advance
  | .interrupted => life.interrupted
  | .run thread => life.run thread
  | .enterLoop thread => life.enterLoop thread
  | .endLoop thread => life.endLoop thread

/-- The life of an open port. -/
def lives : System Life Label where
  start := fun life => life = Life.opening
  step := Life.step

/-! ## What holds at the end of a call -/

namespace Life

/-- The thread runs an event loop that has not been told to end. -/
def Serves (life : Life) (thread : ThreadId) : Prop :=
  life.stage thread = .looping ∧ life.closing thread = false

/-- No two monitor threads are alive. -/
def Single (life : Life) : Prop :=
  ∀ thread other, (life.stage thread).isAlive = true → (life.stage other).isAlive = true →
    thread = other

/-- The fields agree with the monitor threads. -/
structure Proper (life : Life) : Prop where
  added : life.caller = .returned .addEventListener .returned →
    ∃ thread, life.monThread = some thread ∧ life.Serves thread
  notified : life.caller = .returned .notifyOn .nullPointerException →
    life.spEventListener = none
  monitorThreadAlive : life.monitorThreadAlive = true ↔ ∃ thread, life.Serves thread

/-! ## The phases of a port -/

/-- Of the threads that have been created none but one is alive. -/
structure Only (stage : ThreadId → Stage) (created : Nat) (thread : ThreadId) : Prop where
  others : ∀ other, (stage other).isAlive = true → other = thread
  known : ∀ other, (stage other).isAlive = true → other < created

/-- The monitor thread runs its event loop, between two calls. -/
structure Serving (life : Life) (thread : ThreadId) : Prop where
  only : Only life.stage life.created thread
  serves : life.Serves thread
  monThread : life.monThread = some thread
  returned : life.caller.hasReturned = true
  notified : life.caller ≠ .returned .notifyOn .nullPointerException
  monitorThreadAlive : life.monitorThreadAlive = true
  monThreadisInterrupted : life.monThreadisInterrupted = false
  monitorThreadLock : life.monitorThreadLock = false

/-- There is neither a listener nor a monitor thread, between two calls. -/
structure Closed (life : Life) : Prop where
  dead : ∀ thread, (life.stage thread).isAlive = false
  monThread : life.monThread = none
  spEventListener : life.spEventListener = none
  returned : life.caller.hasReturned = true
  added : life.caller ≠ .returned .addEventListener .returned
  monitorThreadAlive : life.monitorThreadAlive = false
  monThreadisInterrupted : life.monThreadisInterrupted = true

/-- How far a monitor thread is while the caller waits for its event loop. -/
inductive Progress (life : Life) (thread : ThreadId) : Prop where
  | started (stage : life.stage thread = .started) (locked : life.monitorThreadLock = true)
  | entered (stage : life.stage thread = .entered) (locked : life.monitorThreadLock = true)
      (cleared : life.monThreadisInterrupted = false)
  | looping (serves : life.Serves thread) (unlocked : life.monitorThreadLock = false)
      (cleared : life.monThreadisInterrupted = false)

/-- The caller waits for the event loop of a new monitor thread. -/
structure Starting (life : Life) (thread : ThreadId) : Prop where
  only : Only life.stage life.created thread
  progress : life.Progress thread
  monThread : life.monThread = some thread
  caller : ∃ method, life.caller = .starting method
  monitorThreadAlive : life.monitorThreadAlive = false

/-- The caller waits for the death of the monitor thread. -/
structure Joining (life : Life) (thread : ThreadId) : Prop where
  only : Only life.stage life.created thread
  told : life.stage thread = .looping → life.closing thread = true
  stage : life.stage thread = .looping ∨ life.stage thread = .ended
  caller : life.caller = .joining thread
  monitorThreadAlive : life.monitorThreadAlive = true
  monThreadisInterrupted : life.monThreadisInterrupted = true

/-- A removal has been interrupted: the monitor thread, if it is still alive, has been
told to end, and it seems to be alive forever. -/
structure Stale (life : Life) (thread : ThreadId) : Prop where
  only : Only life.stage life.created thread
  told : ∀ thread, (life.stage thread).isAlive = true →
    life.stage thread = .looping ∧ life.closing thread = true
  returned : life.caller.hasReturned = true
  monitorThreadAlive : life.monitorThreadAlive = true
  monThreadisInterrupted : life.monThreadisInterrupted = true

/-- The phases without an interrupted removal. -/
inductive Regular (life : Life) : Prop where
  | serving {thread : ThreadId} (serving : life.Serving thread)
  | closed (closed : life.Closed)
  | starting {thread : ThreadId} (starting : life.Starting thread)
  | joining {thread : ThreadId} (joining : life.Joining thread)

section Threads

variable {stages : ThreadId → Stage} {created : Nat} {thread other : ThreadId} {stage : Stage}

theorem Only.eq (only : Only stages created thread) (here : stages other = stage)
    (isAlive : stage.isAlive = true) : other = thread :=
  only.others other (here ▸ isAlive)

/-- The thread goes on, or ends. -/
theorem Only.update (only : Only stages created thread) (here : stages thread = stage)
    (isAlive : stage.isAlive = true) (next : Stage) :
    Only (Function.update stages thread next) created thread := by
  constructor
  · intro other aliveAfter
    by_cases same : other = thread
    · exact same
    · rw [Function.update_of_ne same] at aliveAfter
      exact only.others other aliveAfter
  · intro other aliveAfter
    by_cases same : other = thread
    · exact same ▸ only.known thread (here ▸ isAlive)
    · rw [Function.update_of_ne same] at aliveAfter
      exact only.known other aliveAfter

/-- A thread is started while no other is alive. -/
theorem Only.start (dead : ∀ thread, (stages thread).isAlive = false) :
    Only (Function.update stages created .started) (created + 1) created := by
  constructor
  · intro other aliveAfter
    by_contra apart
    rw [Function.update_of_ne apart, dead other] at aliveAfter
    exact absurd aliveAfter Bool.false_ne_true
  · intro other aliveAfter
    by_cases same : other = created
    · exact same ▸ Nat.lt_succ_self _
    · rw [Function.update_of_ne same, dead other] at aliveAfter
      exact absurd aliveAfter Bool.false_ne_true

/-- Threads of which all are dead have only whichever. -/
theorem Only.dead_of_ended (only : Only stages created thread) (ended : stages thread = .ended) :
    ∀ other, (stages other).isAlive = false := by
  intro other
  rw [← Bool.not_eq_true]
  intro isAlive
  obtain rfl := only.others other isAlive
  rw [ended] at isAlive
  exact absurd isAlive Bool.false_ne_true

end Threads

section Steps

variable {life next : Life} {thread other : ThreadId} {label : Label}

/-- A new monitor thread is started while no other is alive. -/
theorem Starting.of_dead (dead : ∀ thread, (life.stage thread).isAlive = false)
    (monitorThreadAlive : life.monitorThreadAlive = false) (method : Method) :
    (life.startMonitorThread method).Starting life.created where
  only := Only.start dead
  progress := .started (Function.update_self _ _ _) rfl
  monThread := rfl
  caller := ⟨method, rfl⟩
  monitorThreadAlive := monitorThreadAlive

/-- The one event loop that runs is told to end. -/
theorem interruptEventLoop_eq (only : Only life.stage life.created thread)
    (looping : life.stage thread = .looping) :
    life.interruptEventLoop =
      some { life with closing := Function.update life.closing thread true } := by
  have known : thread < life.created := only.known thread (by rw [looping]; rfl)
  have located : (List.range life.created).find? (fun thread => life.stage thread = .looping) =
      some thread := by
    cases located : (List.range life.created).find? fun thread => life.stage thread = .looping with
    | none =>
        have absent := List.find?_eq_none.mp located thread (List.mem_range.mpr known)
        exact absurd looping (by simpa using absent)
    | some other =>
        have isLooping : life.stage other = .looping := by simpa using List.find?_some located
        rw [only.eq isLooping rfl]
  rw [interruptEventLoop, located, Option.map_some]

theorem returned_of_hasReturned (returned : life.caller.hasReturned = true) :
    ∃ method result, life.caller = .returned method result := by
  cases caller : life.caller with
  | returned method result => exact ⟨method, result, rfl⟩
  | starting _ | joining _ => simp [caller, Caller.hasReturned] at returned

/-- While a monitor thread is thought to be alive, no other is started. -/
theorem addEventListener_of_alive (monitorThreadAlive : life.monitorThreadAlive = true)
    (lsnr : Option ListenerRef) :
    ∃ listener result, life.addEventListener lsnr =
      { life with
        spEventListener := listener
        caller := .returned .addEventListener result } := by
  rw [addEventListener]
  split
  next => exact ⟨life.spEventListener, .tooManyListenersException, rfl⟩
  next =>
    have notDead : ¬(!life.monitorThreadAlive) = true := by simp [monitorThreadAlive]
    dsimp only
    rw [if_neg notDead]
    exact ⟨lsnr, .returned, rfl⟩

/-- A removal that finds the port interrupted only clears two fields. -/
theorem removeEventListener_of_interrupted
    (monThreadisInterrupted : life.monThreadisInterrupted = true)
    (removes : life.removeEventListener = some next) :
    next = { life with
      monThread := none
      spEventListener := none
      caller := .returned .removeEventListener .returned } := by
  rw [removeEventListener] at removes
  split at removes
  next => simp at removes
  next => exact (Option.some.inj removes).symm

/-- A `notifyOn` method fails exactly without a monitor thread. -/
theorem notifyOn_cases {event : SerialEvent} {enable : Bool}
    (notifies : life.notifyOn event enable = some next) :
    life.monitorThreadLock = false ∧
      ((life.monThread = none ∧ next = { life with
          monitorThreadLock := true
          caller := .returned .notifyOn .nullPointerException }) ∨
        ∃ enabled, life.monThread ≠ none ∧
          next = { life with enabled, caller := .returned .notifyOn .returned }) := by
  rw [notifyOn] at notifies
  split at notifies
  next => simp at notifies
  next unlocked =>
    refine ⟨Bool.eq_false_iff.mpr unlocked, ?_⟩
    cases monThread : life.monThread with
    | none =>
        rw [monThread, Option.some.injEq] at notifies
        exact .inl ⟨rfl, notifies.symm⟩
    | some thread =>
        rw [monThread, Option.some.injEq] at notifies
        exact .inr ⟨_, by simp, notifies.symm⟩

theorem Serving.isAlive (serving : life.Serving thread) :
    (life.stage thread).isAlive = true := by
  rw [serving.serves.1]
  rfl

/-- A removal tells the event loop to end and waits for its thread. -/
theorem Serving.removeEventListener (serving : life.Serving thread) :
    life.removeEventListener = some { life with
      monThreadisInterrupted := true
      closing := Function.update life.closing thread true
      caller := .joining thread } := by
  have unlocked : ¬life.monitorThreadLock = true := by simp [serving.monitorThreadLock]
  have notInterrupted : ¬life.monThreadisInterrupted = true := by
    simp [serving.monThreadisInterrupted]
  have found : (life.monThread.filter fun thread => (life.stage thread).isAlive) = some thread := by
    rw [serving.monThread, Option.filter_some, if_pos serving.isAlive]
  have told : ({ life with monThreadisInterrupted := true } : Life).interruptEventLoop =
      some { life with
        monThreadisInterrupted := true
        closing := Function.update life.closing thread true } :=
    interruptEventLoop_eq serving.only serving.serves.1
  rw [Life.removeEventListener, if_neg unlocked, if_neg notInterrupted, found]
  dsimp only
  rw [told, Option.map_some]

theorem Serving.step (serving : life.Serving thread) (stepped : life.step label = some next) :
    next.Regular := by
  have looping := serving.serves.1
  obtain ⟨method, result, caller⟩ := returned_of_hasReturned serving.returned
  cases label with
  | addEventListener lsnr =>
      rw [Life.step, if_pos serving.returned, Option.some.injEq] at stepped
      obtain ⟨listener, result, added⟩ := addEventListener_of_alive serving.monitorThreadAlive lsnr
      rw [← stepped, added]
      exact .serving { serving with returned := rfl, notified := by simp }
  | removeEventListener =>
      rw [Life.step, if_pos serving.returned, serving.removeEventListener,
        Option.some.injEq] at stepped
      rw [← stepped]
      exact .joining {
        only := serving.only
        told := fun _ => Function.update_self _ _ _
        stage := .inl looping
        caller := rfl
        monitorThreadAlive := serving.monitorThreadAlive
        monThreadisInterrupted := rfl }
  | notifyOn event enable =>
      rw [Life.step, if_pos serving.returned] at stepped
      obtain ⟨-, ⟨noThread, -⟩ | ⟨enabled, -, rfl⟩⟩ := notifyOn_cases stepped
      · simp [serving.monThread] at noThread
      · exact .serving { serving with returned := rfl, notified := by simp }
  | advance => simp [Life.step, advance, caller] at stepped
  | interrupted => simp [Life.step, interrupted, caller] at stepped
  | run other =>
      rw [Life.step, run, Option.ite_none_right_eq_some] at stepped
      obtain rfl := serving.only.eq stepped.1 rfl
      simp [looping] at stepped
  | enterLoop other =>
      rw [Life.step, enterLoop, Option.ite_none_right_eq_some] at stepped
      obtain rfl := serving.only.eq stepped.1 rfl
      simp [looping] at stepped
  | endLoop other =>
      rw [Life.step, endLoop, Option.ite_none_right_eq_some] at stepped
      obtain rfl := serving.only.eq stepped.1.1 rfl
      simp [serving.serves.2] at stepped

/-- Of dead threads none makes a step. -/
theorem no_step_of_dead (dead : ∀ thread, (life.stage thread).isAlive = false)
    (thread : ThreadId) :
    life.run thread = none ∧ life.enterLoop thread = none ∧ life.endLoop thread = none := by
  have notAlive := dead thread
  rw [run, enterLoop, endLoop]
  cases stage : life.stage thread <;> simp_all [Stage.isAlive]

theorem Closed.step (closed : life.Closed) (stepped : life.step label = some next) :
    next.Regular := by
  obtain ⟨method, result, caller⟩ := returned_of_hasReturned closed.returned
  cases label with
  | addEventListener lsnr =>
      have noListener : ¬life.spEventListener.isSome = true := by simp [closed.spEventListener]
      have notAlive : (!life.monitorThreadAlive) = true := by simp [closed.monitorThreadAlive]
      rw [Life.step, if_pos closed.returned, addEventListener, if_neg noListener,
        Option.some.injEq] at stepped
      dsimp only at stepped
      rw [if_pos notAlive] at stepped
      have starts : (({ life with spEventListener := lsnr } : Life).startMonitorThread
          .addEventListener).Starting life.created :=
        @Starting.of_dead { life with spEventListener := lsnr } closed.dead
          closed.monitorThreadAlive .addEventListener
      rw [← stepped]
      exact .starting starts
  | removeEventListener =>
      rw [Life.step, if_pos closed.returned] at stepped
      have removed := removeEventListener_of_interrupted closed.monThreadisInterrupted stepped
      rw [removed]
      exact .closed { closed with
        monThread := rfl
        spEventListener := rfl
        returned := rfl
        added := by simp }
  | notifyOn event enable =>
      rw [Life.step, if_pos closed.returned] at stepped
      obtain ⟨-, ⟨-, rfl⟩ | ⟨enabled, isThread, -⟩⟩ := notifyOn_cases stepped
      · exact .closed { closed with returned := rfl, added := by simp }
      · exact absurd closed.monThread isThread
  | advance => simp [Life.step, advance, caller] at stepped
  | interrupted => simp [Life.step, interrupted, caller] at stepped
  | run other => simp [Life.step, (no_step_of_dead closed.dead other).1] at stepped
  | enterLoop other => simp [Life.step, (no_step_of_dead closed.dead other).2.1] at stepped
  | endLoop other => simp [Life.step, (no_step_of_dead closed.dead other).2.2] at stepped

theorem Starting.step (starting : life.Starting thread) (stepped : life.step label = some next) :
    next.Regular := by
  obtain ⟨method, caller⟩ := starting.caller
  have busy : ¬life.caller.hasReturned = true := by simp [caller, Caller.hasReturned]
  cases label with
  | addEventListener lsnr => simp [Life.step, busy] at stepped
  | removeEventListener => simp [Life.step, busy] at stepped
  | notifyOn event enable => simp [Life.step, busy] at stepped
  | advance =>
      rw [Life.step, advance, caller] at stepped
      simp only [Option.ite_none_left_eq_some, Option.some.injEq] at stepped
      obtain ⟨unlocked, rfl⟩ := stepped
      cases starting.progress with
      | started stage locked => exact absurd locked unlocked
      | entered stage locked cleared => exact absurd locked unlocked
      | looping serves free cleared =>
          exact .serving ⟨starting.only, serves, starting.monThread, rfl, by simp, rfl, cleared,
            Bool.eq_false_iff.mpr unlocked⟩
  | interrupted => simp [Life.step, interrupted, caller] at stepped
  | run other =>
      rw [Life.step, run, Option.ite_none_right_eq_some, Option.some.injEq] at stepped
      obtain ⟨started, rfl⟩ := stepped
      obtain rfl := starting.only.eq started rfl
      have locked : life.monitorThreadLock = true := by
        cases starting.progress with
        | started _ locked => exact locked
        | entered _ locked _ => exact locked
        | looping serves _ _ => simp [serves.1] at started
      exact .starting {
        only := starting.only.update started rfl .entered
        progress := .entered (Function.update_self _ _ _) locked rfl
        monThread := starting.monThread
        caller := starting.caller
        monitorThreadAlive := starting.monitorThreadAlive }
  | enterLoop other =>
      rw [Life.step, enterLoop, Option.ite_none_right_eq_some, Option.some.injEq] at stepped
      obtain ⟨entered, rfl⟩ := stepped
      obtain rfl := starting.only.eq entered rfl
      have cleared : life.monThreadisInterrupted = false := by
        cases starting.progress with
        | started stage _ => simp [stage] at entered
        | entered _ _ cleared => exact cleared
        | looping _ _ cleared => exact cleared
      exact .starting {
        only := starting.only.update entered rfl .looping
        progress := .looping ⟨Function.update_self _ _ _, Function.update_self _ _ _⟩ rfl cleared
        monThread := starting.monThread
        caller := starting.caller
        monitorThreadAlive := starting.monitorThreadAlive }
  | endLoop other =>
      rw [Life.step, endLoop, Option.ite_none_right_eq_some] at stepped
      obtain ⟨⟨looping, closing⟩, -⟩ := stepped
      obtain rfl := starting.only.eq looping rfl
      cases starting.progress with
      | started stage _ => simp [stage] at looping
      | entered stage _ _ => simp [stage] at looping
      | looping serves _ _ => simp [serves.2] at closing

/-- While the caller joins, only an interruption leaves the regular phases. -/
theorem Joining.step (joining : life.Joining thread) (stepped : life.step label = some next)
    (undisturbed : label ≠ .interrupted) : next.Regular := by
  have busy : ¬life.caller.hasReturned = true := by simp [joining.caller, Caller.hasReturned]
  cases label with
  | addEventListener lsnr => simp [Life.step, busy] at stepped
  | removeEventListener => simp [Life.step, busy] at stepped
  | notifyOn event enable => simp [Life.step, busy] at stepped
  | advance =>
      rw [Life.step, advance, joining.caller] at stepped
      simp only [Option.ite_none_left_eq_some, Option.some.injEq] at stepped
      obtain ⟨dead, rfl⟩ := stepped
      have ended : life.stage thread = .ended := by
        rcases joining.stage with looping | ended
        · simp [looping, Stage.isAlive] at dead
        · exact ended
      exact .closed {
        dead := joining.only.dead_of_ended ended
        monThread := rfl
        spEventListener := rfl
        returned := rfl
        added := by simp [removed]
        monitorThreadAlive := rfl
        monThreadisInterrupted := rfl }
  | interrupted => exact absurd rfl undisturbed
  | run other =>
      rw [Life.step, run, Option.ite_none_right_eq_some] at stepped
      obtain rfl := joining.only.eq stepped.1 rfl
      rcases joining.stage with looping | ended <;> simp_all
  | enterLoop other =>
      rw [Life.step, enterLoop, Option.ite_none_right_eq_some] at stepped
      obtain rfl := joining.only.eq stepped.1 rfl
      rcases joining.stage with looping | ended <;> simp_all
  | endLoop other =>
      rw [Life.step, endLoop, Option.ite_none_right_eq_some, Option.some.injEq] at stepped
      obtain ⟨⟨looping, -⟩, rfl⟩ := stepped
      obtain rfl := joining.only.eq looping rfl
      exact .joining {
        only := joining.only.update looping rfl .ended
        told := by simp
        stage := .inr (Function.update_self _ _ _)
        caller := joining.caller
        monitorThreadAlive := joining.monitorThreadAlive
        monThreadisInterrupted := joining.monThreadisInterrupted }

/-- An interrupted `join` leaves the fields as they are. -/
theorem Joining.interrupted (joining : life.Joining thread)
    (stepped : life.step .interrupted = some next) : next.Stale thread := by
  rw [Life.step, Life.interrupted, joining.caller] at stepped
  simp only [Option.ite_none_right_eq_some, Option.some.injEq] at stepped
  obtain ⟨-, rfl⟩ := stepped
  refine ⟨joining.only, ?_, rfl, joining.monitorThreadAlive, joining.monThreadisInterrupted⟩
  intro other isAlive
  obtain rfl := joining.only.others other isAlive
  rcases joining.stage with looping | ended
  · exact ⟨looping, joining.told looping⟩
  · simp [ended, Stage.isAlive] at isAlive

/-- Nothing leads out of it: no monitor thread is started again. -/
theorem Stale.step (stale : life.Stale thread) (stepped : life.step label = some next) :
    next.Stale thread := by
  obtain ⟨method, result, caller⟩ := returned_of_hasReturned stale.returned
  have notStarted : ∀ other, life.stage other ≠ .started := by
    intro other started
    have told := stale.told other (by rw [started]; rfl)
    simp [started] at told
  have notEntered : ∀ other, life.stage other ≠ .entered := by
    intro other entered
    have told := stale.told other (by rw [entered]; rfl)
    simp [entered] at told
  cases label with
  | addEventListener lsnr =>
      rw [Life.step, if_pos stale.returned, Option.some.injEq] at stepped
      obtain ⟨listener, result, added⟩ := addEventListener_of_alive stale.monitorThreadAlive lsnr
      rw [← stepped, added]
      exact { stale with returned := rfl }
  | removeEventListener =>
      rw [Life.step, if_pos stale.returned] at stepped
      rw [removeEventListener_of_interrupted stale.monThreadisInterrupted stepped]
      exact { stale with returned := rfl }
  | notifyOn event enable =>
      rw [Life.step, if_pos stale.returned] at stepped
      obtain ⟨-, ⟨-, rfl⟩ | ⟨enabled, -, rfl⟩⟩ := notifyOn_cases stepped
      · exact { stale with returned := rfl }
      · exact { stale with returned := rfl }
  | advance => simp [Life.step, advance, caller] at stepped
  | interrupted => simp [Life.step, Life.interrupted, caller] at stepped
  | run other => simp [Life.step, run, notStarted] at stepped
  | enterLoop other => simp [Life.step, enterLoop, notEntered] at stepped
  | endLoop other =>
      rw [Life.step, endLoop, Option.ite_none_right_eq_some, Option.some.injEq] at stepped
      obtain ⟨⟨looping, -⟩, rfl⟩ := stepped
      obtain rfl := stale.only.eq looping rfl
      have only := stale.only.update looping rfl .ended
      refine ⟨only, ?_, stale.returned, stale.monitorThreadAlive, stale.monThreadisInterrupted⟩
      intro third aliveAfter
      obtain rfl := only.others third aliveAfter
      simp [Stage.isAlive] at aliveAfter

theorem Regular.step (regular : life.Regular) (stepped : life.step label = some next)
    (undisturbed : label ≠ .interrupted) : next.Regular := by
  cases regular with
  | serving serving => exact serving.step stepped
  | closed closed => exact closed.step stepped
  | starting starting => exact starting.step stepped
  | joining joining => exact joining.step stepped undisturbed

theorem Regular.interrupted (regular : life.Regular)
    (stepped : life.step .interrupted = some next) : ∃ thread, next.Stale thread := by
  cases regular with
  | serving serving =>
      obtain ⟨method, result, caller⟩ := returned_of_hasReturned serving.returned
      simp [Life.step, Life.interrupted, caller] at stepped
  | closed closed =>
      obtain ⟨method, result, caller⟩ := returned_of_hasReturned closed.returned
      simp [Life.step, Life.interrupted, caller] at stepped
  | starting starting =>
      obtain ⟨method, caller⟩ := starting.caller
      simp [Life.step, Life.interrupted, caller] at stepped
  | joining joining => exact ⟨_, joining.interrupted stepped⟩

end Steps

/-! ## Whole lives -/

section Lives

variable {life final : Life} {thread : ThreadId} {labels : List Label}

theorem Stale.run (stale : life.Stale thread) (ran : lives.run life labels = some final) :
    final.Stale thread := by
  induction labels generalizing life with
  | nil => exact Option.some.inj ran ▸ stale
  | cons label labels ih =>
      obtain ⟨next, stepped, ran⟩ := System.run_cons.mp ran
      exact ih (stale.step stepped) ran

/-- A life is regular until the first interruption, and stale from then on. -/
theorem Regular.run (regular : life.Regular) (ran : lives.run life labels = some final) :
    (.interrupted ∉ labels ∧ final.Regular) ∨
      (.interrupted ∈ labels ∧ ∃ thread, final.Stale thread) := by
  induction labels generalizing life with
  | nil => exact .inl ⟨by simp, Option.some.inj ran ▸ regular⟩
  | cons label labels ih =>
      obtain ⟨next, stepped, later⟩ := System.run_cons.mp ran
      by_cases disturbed : label = .interrupted
      · subst disturbed
        obtain ⟨thread, stale⟩ := regular.interrupted stepped
        exact .inr ⟨by simp, thread, stale.run later⟩
      · rcases ih (regular.step stepped disturbed) later with ⟨absent, held⟩ | ⟨member, stale⟩
        · exact .inl ⟨by simp [Ne.symm disturbed, absent], held⟩
        · exact .inr ⟨List.mem_cons_of_mem _ member, stale⟩

theorem Regular.proper (regular : life.Regular) (returned : life.caller.hasReturned = true) :
    life.Proper := by
  cases regular with
  | serving serving =>
      exact {
        added := fun _ => ⟨_, serving.monThread, serving.serves⟩
        notified := fun failed => absurd failed serving.notified
        monitorThreadAlive := ⟨fun _ => ⟨_, serving.serves⟩, fun _ => serving.monitorThreadAlive⟩ }
  | closed closed =>
      refine ⟨fun added => absurd added closed.added, fun _ => closed.spEventListener, ?_⟩
      simp only [closed.monitorThreadAlive, Bool.false_eq_true, false_iff]
      rintro ⟨thread, looping, -⟩
      have dead := closed.dead thread
      simp [looping, Stage.isAlive] at dead
  | starting starting =>
      obtain ⟨method, caller⟩ := starting.caller
      simp [caller, Caller.hasReturned] at returned
  | joining joining => simp [joining.caller, Caller.hasReturned] at returned

theorem Stale.not_proper (stale : life.Stale thread) : ¬life.Proper := by
  intro proper
  obtain ⟨other, looping, notTold⟩ := proper.monitorThreadAlive.mp stale.monitorThreadAlive
  have told := stale.told other (by rw [looping]; rfl)
  simp [notTold] at told

theorem Only.single (only : Only life.stage life.created thread) : life.Single := by
  intro one other oneAlive otherAlive
  rw [only.others one oneAlive, only.others other otherAlive]

theorem Regular.single (regular : life.Regular) : life.Single := by
  cases regular with
  | serving serving => exact serving.only.single
  | closed closed =>
      intro one other oneAlive
      simp [closed.dead one] at oneAlive
  | starting starting => exact starting.only.single
  | joining joining => exact joining.only.single

theorem regular_opening : Life.opening.Regular :=
  .starting (@Starting.of_dead _ (fun _ => rfl) rfl .new)

/-- In the life of a port no two monitor threads are ever alive, and at the end of a call
the fields agree with the monitor threads if and only if no removal has been interrupted. -/
theorem listener_life_iff (ran : lives.run Life.opening labels = some life) :
    life.Single ∧ (life.caller.hasReturned = true →
      (life.Proper ↔ .interrupted ∉ labels)) := by
  rcases regular_opening.run ran with ⟨absent, regular⟩ | ⟨member, thread, stale⟩
  · exact ⟨regular.single, fun returned => iff_of_true (regular.proper returned) absent⟩
  · exact ⟨stale.only.single, fun _ => iff_of_false stale.not_proper (not_not_intro member)⟩

end Lives

theorem listener_life_iff_added :
    ∃ life, lives.run Life.opening [.run 0, .enterLoop 0, .advance, .addEventListener (some 1)] =
        some life ∧ life.Single ∧ life.Proper := by
  obtain ⟨single, proper⟩ := @listener_life_iff _
    [.run 0, .enterLoop 0, .advance, .addEventListener (some 1)] rfl
  exact ⟨_, rfl, single, (proper rfl).mpr (by decide)⟩

/-- A listener is added, removed with an interruption, removed again, and another added. -/
def interruptedRemoval : List Label :=
  [.run 0, .enterLoop 0, .advance, .addEventListener (some 1), .removeEventListener, .interrupted,
    .endLoop 0, .removeEventListener, .addEventListener (some 2)]

/-- After an interrupted removal the next listener has no monitor thread, and asking the
port to notify it fails. -/
theorem interrupted_removal_loses_monitor :
    ∃ life next, lives.run Life.opening interruptedRemoval = some life ∧
      life.caller = .returned .addEventListener .returned ∧ life.monThread = none ∧
      life.step (.notifyOn .dataAvailable true) = some next ∧
      next.caller = .returned .notifyOn .nullPointerException ∧
      next.spEventListener = some 2 ∧
      ¬ ∀ labels life, lives.run Life.opening labels = some life →
        life.caller.hasReturned = true → life.Proper := by
  refine ⟨_, _, rfl, rfl, rfl, rfl, rfl, rfl, ?_⟩
  intro proper
  obtain ⟨thread, isThread, -⟩ := (proper interruptedRemoval _ rfl rfl).added rfl
  have noThread : (none : Option ThreadId) = some thread := isThread
  exact absurd noThread (by simp)

/-! ## The methods as a whole -/

/-- The port as its methods see it between two calls. -/
def port (life : Life) (fd speed : Int) : RXTXPort where
  fd
  speed
  monThreadisInterrupted := life.monThreadisInterrupted
  spEventListener := life.spEventListener
  monThread := life.monThread.map fun thread =>
    ⟨(life.stage thread).isAlive, life.enabled thread⟩
  monitorThreadLock := life.monitorThreadLock
  monitorThreadAlive := life.monitorThreadAlive

/-- Without an interruption a call can run to its end. -/
def Ends (life : Life) (method : Method) (result : RXTXPort.CallResult) (next : Life) : Prop :=
  ∃ labels, .interrupted ∉ labels ∧ lives.run life labels = some next ∧
    next.caller = .returned method result

section Port

variable {life : Life} {thread : ThreadId} {fd speed : Int}

theorem Serving.addEventListener_port (serving : life.Serving thread)
    (lsnr : Option ListenerRef) :
    ∃ next result, life.Ends .addEventListener result next ∧
      (life.port fd speed).addEventListener lsnr true = some (next.port fd speed, result) := by
  have run : lives.run life [.addEventListener lsnr] = some (life.addEventListener lsnr) := by
    simp [System.run, lives, Life.step, serving.returned]
  by_cases taken : life.spEventListener.isSome = true
  · rw [addEventListener, if_pos taken] at run
    refine ⟨_, .tooManyListenersException, ⟨_, by simp, run, rfl⟩, ?_⟩
    simp [RXTXPort.addEventListener, port, taken]
  · rw [addEventListener, if_neg taken] at run
    simp only [serving.monitorThreadAlive, Bool.not_true, Bool.false_eq_true, if_false] at run
    refine ⟨_, .returned, ⟨_, by simp, run, rfl⟩, ?_⟩
    simp [RXTXPort.addEventListener, port, taken, serving.monitorThreadAlive]

/-- Without a monitor thread one is started, and the call waits for its event loop. -/
theorem Closed.addEventListener_port (closed : life.Closed) (lsnr : Option ListenerRef) :
    ∃ next result, life.Ends .addEventListener result next ∧
      (life.port fd speed).addEventListener lsnr true = some (next.port fd speed, result) := by
  have run : lives.run life [.addEventListener lsnr, .run life.created, .enterLoop life.created,
      .advance] =
      some { life with
        spEventListener := lsnr
        monitorThreadLock := false
        monThread := some life.created
        monThreadisInterrupted := false
        monitorThreadAlive := true
        created := life.created + 1
        stage := Function.update life.stage life.created .looping
        closing := Function.update life.closing life.created false
        enabled := Function.update life.enabled life.created fun _ => false
        caller := .returned .addEventListener .returned } := by
    simp [System.run, lives, Life.step, closed.returned, addEventListener, closed.spEventListener,
      closed.monitorThreadAlive, startMonitorThread, Life.run, enterLoop, advance]
  refine ⟨_, .returned, ⟨_, by simp, run, rfl⟩, ?_⟩
  simp [RXTXPort.addEventListener, RXTXPort.startMonitorThread, port, closed.spEventListener,
    closed.monitorThreadAlive, Stage.isAlive]

theorem Serving.removeEventListener_port (serving : life.Serving thread) :
    ∃ next, life.Ends .removeEventListener .returned next ∧
      (life.port fd speed).removeEventListener false = some (next.port fd speed) := by
  have run : lives.run life [.removeEventListener, .endLoop thread, .advance] =
      some { life with
        monThreadisInterrupted := true
        closing := Function.update life.closing thread true
        stage := Function.update life.stage thread .ended
        monThread := none
        spEventListener := none
        monitorThreadLock := false
        monitorThreadAlive := false
        caller := .returned .removeEventListener .returned } := by
    simp [System.run, lives, Life.step, serving.returned, serving.removeEventListener, endLoop,
      serving.serves.1, advance, Stage.isAlive, removed]
  refine ⟨_, ⟨_, by simp, run, rfl⟩, ?_⟩
  simp [RXTXPort.removeEventListener, port, serving.monitorThreadLock,
    serving.monThreadisInterrupted]

theorem Serving.interrupted_port (serving : life.Serving thread) :
    ∃ next, lives.run life [.removeEventListener, .interrupted] = some next ∧
      next.caller = .returned .removeEventListener .returned ∧
      (life.port fd speed).removeEventListener true = some (next.port fd speed) := by
  have run : lives.run life [.removeEventListener, .interrupted] =
      some { life with
        monThreadisInterrupted := true
        closing := Function.update life.closing thread true
        caller := .returned .removeEventListener .returned } := by
    simp [System.run, lives, Life.step, serving.returned, serving.removeEventListener,
      Life.interrupted, serving.isAlive]
  refine ⟨_, run, rfl, ?_⟩
  simp [RXTXPort.removeEventListener, port, serving.monitorThreadLock,
    serving.monThreadisInterrupted, serving.monThread, serving.isAlive]

theorem Closed.removeEventListener_port (closed : life.Closed)
    (unlocked : life.monitorThreadLock = false) :
    ∃ next, life.Ends .removeEventListener .returned next ∧
      (life.port fd speed).removeEventListener false = some (next.port fd speed) := by
  have run : lives.run life [.removeEventListener] =
      some { life with
        monThread := none
        spEventListener := none
        caller := .returned .removeEventListener .returned } := by
    simp [System.run, lives, Life.step, closed.returned, Life.removeEventListener, unlocked,
      closed.monThreadisInterrupted]
  refine ⟨_, ⟨_, by simp, run, rfl⟩, ?_⟩
  simp [RXTXPort.removeEventListener, port, unlocked, closed.monThreadisInterrupted]

theorem Serving.notifyOn_port (serving : life.Serving thread) (event : SerialEvent)
    (enable : Bool) :
    ∃ next, life.Ends .notifyOn .returned next ∧
      (life.port fd speed).notifyOn event enable = some (next.port fd speed, .returned) := by
  have run : lives.run life [.notifyOn event enable] =
      some { life with
        enabled := Function.update life.enabled thread
          (Function.update (life.enabled thread) event enable)
        caller := .returned .notifyOn .returned } := by
    simp [System.run, lives, Life.step, serving.returned, Life.notifyOn,
      serving.monitorThreadLock, serving.monThread]
  refine ⟨_, ⟨_, by simp, run, rfl⟩, ?_⟩
  simp [RXTXPort.notifyOn, port, serving.monitorThreadLock, serving.monThread]

theorem Closed.notifyOn_port (closed : life.Closed) (unlocked : life.monitorThreadLock = false)
    (event : SerialEvent) (enable : Bool) :
    ∃ next, life.Ends .notifyOn .nullPointerException next ∧
      (life.port fd speed).notifyOn event enable =
        some (next.port fd speed, .nullPointerException) := by
  have run : lives.run life [.notifyOn event enable] =
      some { life with
        monitorThreadLock := true
        caller := .returned .notifyOn .nullPointerException } := by
    simp [System.run, lives, Life.step, closed.returned, Life.notifyOn, unlocked, closed.monThread]
  refine ⟨_, ⟨_, by simp, run, rfl⟩, ?_⟩
  simp [RXTXPort.notifyOn, port, unlocked, closed.monThread]

/-- Between two calls the methods of `RXTXPort` are what the steps of the threads amount
to. -/
theorem Regular.methods_refine (regular : life.Regular)
    (returned : life.caller.hasReturned = true) (unlocked : life.monitorThreadLock = false) :
    (∀ lsnr, ∃ next result, life.Ends .addEventListener result next ∧
        (life.port fd speed).addEventListener lsnr true = some (next.port fd speed, result)) ∧
      (∃ next, life.Ends .removeEventListener .returned next ∧
        (life.port fd speed).removeEventListener false = some (next.port fd speed)) ∧
      ∀ event enable, ∃ next result, life.Ends .notifyOn result next ∧
        (life.port fd speed).notifyOn event enable = some (next.port fd speed, result) := by
  cases regular with
  | serving serving =>
      exact ⟨serving.addEventListener_port, serving.removeEventListener_port,
        fun event enable => have ⟨next, ended, notified⟩ := serving.notifyOn_port event enable
          ⟨next, .returned, ended, notified⟩⟩
  | closed closed =>
      exact ⟨closed.addEventListener_port, closed.removeEventListener_port unlocked,
        fun event enable =>
          have ⟨next, ended, notified⟩ := closed.notifyOn_port unlocked event enable
          ⟨next, .nullPointerException, ended, notified⟩⟩
  | starting starting =>
      obtain ⟨method, caller⟩ := starting.caller
      simp [caller, Caller.hasReturned] at returned
  | joining joining => simp [joining.caller, Caller.hasReturned] at returned

end Port

end Life

end Jrxtx.ListenerLife
