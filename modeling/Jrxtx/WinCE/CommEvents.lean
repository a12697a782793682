import Jrxtx.Transition.System
import Jrxtx.WinCE.SendEvents

/-!
# Event threads on Windows CE

`eventLoop` starts a `CommEventThread`, which waits for events of the port.  The two share one
`EventInfoStruct`: the thread stores a mask, signals the event object and spins until the mask
is cleared; the loop copies the mask, clears it and sends its events.

The structure and the event object belong to the port.  The loop closes the object when it
ends, and a thread frees the structure when it finds the object or the port closed.  A use of
the freed structure is the last step of a run.

Several calls of `eventLoop` may run at a time, since `removeEventListener` waits only three
seconds for the end of the monitor thread.  Then a mask may be sent twice.
-/

namespace Jrxtx.WinCE

open Jrxtx.SerialImp.SerialEvents Jrxtx.Transition

/-- The fields of `EventInfoStruct` that change; `fd` and `eventHandle` are handles. -/
structure EventInfoStruct where
  ef : Mask
  event : Mask
  eventThreadReady : Bool

/-- Where a `CommEventThread` stands. -/
inductive ThreadPc where
  /-- not created -/
  | absent
  /-- about to call `SetCommMask` for the first time -/
  | setCommMask
  /-- about to set `eventThreadReady` -/
  | ready
  /-- about to call `WaitCommEvent` -/
  | enter
  /-- in `WaitCommEvent`; `SetCommMask` has been called meanwhile -/
  | wait (disturbed : Bool)
  /-- about to specify the events again -/
  | remask
  | setEvent
  /-- `while (EventInfo->event != 0) Sleep(0);` -/
  | spin
  | ended
  deriving DecidableEq

/-- Where a call of `eventLoop` stands. -/
inductive LoopPc where
  /-- not called, or returned -/
  | idle
  /-- about to read `monThreadisInterrupted` -/
  | check
  | ready
  /-- about to call `WaitForSingleObject` -/
  | enter
  /-- in `WaitForSingleObject` -/
  | wait
  /-- about to copy `event` -/
  | read
  /-- about to clear `event` -/
  | clear (dwEvent : Mask)
  | send (dwEvent : Mask)
  deriving DecidableEq

/-- A port, with the masks that `WaitCommEvent` has reported and those that `SendEvents` was
called with. -/
structure CommState where
  info : EventInfoStruct
  /-- the events that are monitored -/
  commMask : Mask
  fdOpen : Bool
  /-- `eventHandle` is open -/
  eventHandle : Bool
  /-- for as long as a loop waits also after `eventHandle` has been closed -/
  signaled : Bool
  /-- `free(EventInfo)` -/
  freed : Bool
  /-- freed memory has been used -/
  faulted : Bool
  monThreadisInterrupted : Bool
  monitorThreadLock : Bool
  /-- by the number of the thread that the call creates -/
  loops : Nat → LoopPc
  threads : Nat → ThreadPc
  created : Nat
  reported : List Mask
  sent : List Mask

inductive CommLabel where
  /-- a call of `eventLoop`; `CreateThread` may fail -/
  | eventLoop (created : Bool)
  /-- with what `ClearCommError` gives and the answers of `sendEvent` -/
  | loop (i : Nat) (clearCommError : Option Mask) (closing : SerialEvent → Bool)
  /-- with the mask that `WaitCommEvent` reports; `none` for an error -/
  | thread (i : Nat) (waitCommEvent : Option Mask)
  | nativeSetEventFlag (event : SerialEvent) (flag : Bool)
  | interruptEventLoop
  | nativeClose

namespace CommState

/-- A use of the structure. -/
def touch (state : CommState) : CommState :=
  { state with faulted := state.faulted || state.freed }

/-- The end of a thread that frees the structure. -/
def free (state : CommState) (i : Nat) : CommState :=
  { state.touch with freed := true, threads := Function.update state.threads i .ended }

def goto (state : CommState) (i : Nat) (pc : ThreadPc) : CommState :=
  { state with threads := Function.update state.threads i pc }

/-- A wait that `SetCommMask` ends. -/
def disturb : ThreadPc → ThreadPc
  | .wait _ => .wait true
  | pc => pc

/-- `SetCommMask(hPort, EventInfo->ef)` on an open port -/
def setCommMask (state : CommState) : CommState :=
  { state with commMask := state.info.ef, threads := fun i => disturb (state.threads i) }

/-- A call of `eventLoop` that has created its thread; `run` has cleared
`monThreadisInterrupted`. -/
def startLoop (state : CommState) : CommState :=
  { state with
    monThreadisInterrupted := false
    loops := Function.update state.loops state.created .check
    threads := Function.update state.threads state.created .setCommMask
    created := state.created + 1 }

def loopTo (state : CommState) (i : Nat) (pc : LoopPc) : CommState :=
  { state with loops := Function.update state.loops i pc }

/-- The end of a loop, which closes the event object. -/
def leave (state : CommState) (i : Nat) : CommState :=
  { state.loopTo i .idle with eventHandle := false }

/-- A call of `SetCommMask` by a thread that returns if it fails. -/
def setCommMaskOr (state : CommState) (i : Nat) (pc : ThreadPc) : CommState :=
  if state.fdOpen then state.touch.setCommMask.goto i pc else state.touch.goto i .ended

/-- A step of `CommEventThread`. -/
def threadStep (state : CommState) (i : Nat) (waitCommEvent : Option Mask) : Option CommState :=
  match state.threads i with
  | .absent => none
  | .ended => none
  | .setCommMask => some (state.setCommMaskOr i .ready)
  | .ready =>
      some ({ state.touch with
        info := { state.info with eventThreadReady := true } }.goto i .enter)
  | .enter =>
      if !state.fdOpen then some (state.free i)
      else
        match waitCommEvent with
        | none => some (state.goto i .ended)
        -- `ERROR_INVALID_PARAMETER`: the mask is empty
        | some _ => some (state.goto i (if state.commMask = 0 then .enter else .wait false))
  | .wait disturbed =>
      if !state.fdOpen then some (state.free i)
      else if disturbed then
        some ({ state.touch with info := { state.info with event := 0 } }.goto i .remask)
      else
        match waitCommEvent with
        | none => some (state.goto i .ended)
        | some mask =>
            if mask ≠ 0 ∧ mask &&& state.commMask = mask then
              some ({ state.touch with
                info := { state.info with event := mask }
                reported := state.reported ++ [mask] }.goto i .remask)
            else none
  | .remask => some (state.setCommMaskOr i .setEvent)
  | .setEvent =>
      if state.eventHandle then some ({ state.touch with signaled := true }.goto i .spin)
      else some (state.free i)
  | .spin => some (state.touch.goto i (if state.info.event ≠ 0 then .spin else .enter))

/-- A step of `eventLoop`. -/
def loopStep (state : CommState) (i : Nat) (clearCommError : Option Mask)
    (closing : SerialEvent → Bool) : Option CommState :=
  match state.loops i with
  | .idle => none
  | .check =>
      if state.monThreadisInterrupted then some (state.touch.leave i)
      else some (state.loopTo i .ready)
  | .ready =>
      some ({ state.touch with
        monitorThreadLock := state.monitorThreadLock && !state.info.eventThreadReady
        info := { state.info with eventThreadReady := false } }.loopTo i .enter)
  | .enter =>
      if state.eventHandle then some (state.touch.loopTo i .wait)
      -- `WAIT_FAILED`
      else some (state.touch.leave i)
  | .wait =>
      if state.signaled then some ({ state with signaled := false }.loopTo i .read)
      -- `WAIT_TIMEOUT`
      else some (state.loopTo i .check)
  | .read => some (state.touch.loopTo i (.clear state.info.event))
  | .clear dwEvent =>
      some ({ state.touch with info := { state.info with event := 0 } }.loopTo i (.send dwEvent))
  | .send dwEvent =>
      let sent := { state.touch with sent := state.sent ++ [dwEvent] }
      if (sendEvents state.info.ef dwEvent clearCommError closing).1 ≠ 0 then some (sent.leave i)
      else some (sent.loopTo i .check)

end CommState

/-- A port after `open`. -/
def Opened (state : CommState) : Prop :=
  state.info = ⟨evPower, 0, false⟩ ∧ state.fdOpen = true ∧ state.eventHandle = true ∧
    state.signaled = false ∧ state.freed = false ∧ state.faulted = false ∧
    (∀ i, state.loops i = .idle) ∧ (∀ i, state.threads i = .absent) ∧ state.created = 0 ∧
    state.reported = [] ∧ state.sent = []

/-- The event threads of a port. -/
def commEvents : System CommState CommLabel where
  start := Opened
  step := fun state label =>
    if state.faulted then none
    else
      match label with
      | .eventLoop created =>
          if created then some state.startLoop
          else some { state with monThreadisInterrupted := false }
      | .loop i clearCommError closing => state.loopStep i clearCommError closing
      | .thread i waitCommEvent => state.threadStep i waitCommEvent
      | .nativeSetEventFlag event flag =>
          let flagged :=
            { state.touch with info := { state.info with ef := setFlag state.info.ef event flag } }
          some (if state.fdOpen then flagged.setCommMask else flagged)
      | .interruptEventLoop => some { state with monThreadisInterrupted := true }
      | .nativeClose => some { state with fdOpen := false }

/-! ## What a step does -/

namespace CommState

/-- A step of `CommEventThread`, by what it does to the port. -/
inductive ThreadMove (state : CommState) (i : Nat) : CommState → Prop where
  | specify (old new : ThreadPc) (stands : state.threads i = old)
      (moves : old = .setCommMask ∧ new = .ready ∨ old = .remask ∧ new = .setEvent)
      (isOpen : state.fdOpen = true) : ThreadMove state i (state.touch.setCommMask.goto i new)
  | giveUp (stands : state.threads i = .setCommMask ∨ state.threads i = .remask)
      (isClosed : state.fdOpen = false) : ThreadMove state i (state.touch.goto i .ended)
  | announce (stands : state.threads i = .ready) :
      ThreadMove state i ({ state.touch with
        info := { state.info with eventThreadReady := true } }.goto i .enter)
  | enter (new : ThreadPc) (stands : state.threads i = .enter)
      (moves : new = .enter ∨ new = .wait false ∨ new = .ended)
      (isOpen : state.fdOpen = true) : ThreadMove state i (state.goto i new)
  | fail (stands : state.threads i = .wait false) (isOpen : state.fdOpen = true) :
      ThreadMove state i (state.goto i .ended)
  | disturbed (stands : state.threads i = .wait true) (isOpen : state.fdOpen = true) :
      ThreadMove state i
        ({ state.touch with info := { state.info with event := 0 } }.goto i .remask)
  | report (mask : Mask) (stands : state.threads i = .wait false) (isOpen : state.fdOpen = true)
      (isEvent : mask ≠ 0) :
      ThreadMove state i ({ state.touch with
        info := { state.info with event := mask }
        reported := state.reported ++ [mask] }.goto i .remask)
  | signal (stands : state.threads i = .setEvent) (isOpen : state.eventHandle = true) :
      ThreadMove state i ({ state.touch with signaled := true }.goto i .spin)
  | spin (stands : state.threads i = .spin) (busy : state.info.event ≠ 0) :
      ThreadMove state i (state.touch.goto i .spin)
  | cleared (stands : state.threads i = .spin) (clear : state.info.event = 0) :
      ThreadMove state i (state.touch.goto i .enter)
  | free (stands : (state.threads i = .enter ∨ ∃ disturbed, state.threads i = .wait disturbed) ∧
        state.fdOpen = false ∨ state.threads i = .setEvent ∧ state.eventHandle = false) :
      ThreadMove state i (state.free i)

variable {state next : CommState}

theorem ThreadMove.of_step {i : Nat} {waitCommEvent : Option Mask}
    (stepped : state.threadStep i waitCommEvent = some next) : state.ThreadMove i next := by
  cases stands : state.threads i with
  | absent => simp [threadStep, stands] at stepped
  | ended => simp [threadStep, stands] at stepped
  | setCommMask =>
      simp only [threadStep, stands, setCommMaskOr, Option.some.injEq] at stepped
      subst stepped
      split
      next isOpen => exact .specify _ _ stands (.inl ⟨rfl, rfl⟩) isOpen
      next isClosed => exact .giveUp (.inl stands) (by simpa using isClosed)
  | ready =>
      simp only [threadStep, stands, Option.some.injEq] at stepped
      subst stepped
      exact .announce stands
  | enter =>
      cases isOpen : state.fdOpen with
      | false =>
          simp only [threadStep, stands, isOpen, Bool.not_false, if_true,
            Option.some.injEq] at stepped
          subst stepped
          exact .free (.inl ⟨.inl stands, isOpen⟩)
      | true =>
          simp only [threadStep, stands, isOpen, Bool.not_true, Bool.false_eq_true, if_false]
            at stepped
          cases waitCommEvent with
          | none =>
              obtain rfl := Option.some.inj stepped
              exact .enter _ stands (.inr (.inr rfl)) isOpen
          | some mask =>
              obtain rfl := Option.some.inj stepped
              refine .enter _ stands ?_ isOpen
              split
              next => exact .inl rfl
              next => exact .inr (.inl rfl)
  | wait disturbed =>
      cases isOpen : state.fdOpen with
      | false =>
          simp only [threadStep, stands, isOpen, Bool.not_false, if_true,
            Option.some.injEq] at stepped
          subst stepped
          exact .free (.inl ⟨.inr ⟨disturbed, stands⟩, isOpen⟩)
      | true =>
          simp only [threadStep, stands, isOpen, Bool.not_true, Bool.false_eq_true, if_false]
            at stepped
          cases disturbed with
          | true =>
              obtain rfl := Option.some.inj stepped
              exact .disturbed stands isOpen
          | false =>
              cases waitCommEvent with
              | none =>
                  obtain rfl := Option.some.inj stepped
                  exact .fail stands isOpen
              | some mask =>
                  simp only [Bool.false_eq_true, if_false, Option.ite_none_right_eq_some,
                    Option.some.injEq] at stepped
                  obtain ⟨⟨isEvent, -⟩, rfl⟩ := stepped
                  exact .report mask stands isOpen isEvent
  | remask =>
      simp only [threadStep, stands, setCommMaskOr, Option.some.injEq] at stepped
      subst stepped
      split
      next isOpen => exact .specify _ _ stands (.inr ⟨rfl, rfl⟩) isOpen
      next isClosed => exact .giveUp (.inr stands) (by simpa using isClosed)
  | setEvent =>
      cases isOpen : state.eventHandle with
      | false =>
          simp only [threadStep, stands, isOpen, Bool.false_eq_true, if_false,
            Option.some.injEq] at stepped
          subst stepped
          exact .free (.inr ⟨stands, isOpen⟩)
      | true =>
          simp only [threadStep, stands, isOpen, if_true, Option.some.injEq] at stepped
          subst stepped
          exact .signal stands isOpen
  | spin =>
      simp only [threadStep, stands, Option.some.injEq] at stepped
      subst stepped
      by_cases clear : state.info.event = 0
      · rw [if_neg (not_not.mpr clear)]
        exact .cleared stands clear
      · rw [if_pos clear]
        exact .spin stands clear

/-- A step of `eventLoop`, by what it does to the port. -/
inductive LoopMove (state : CommState) (i : Nat) : CommState → Prop where
  /-- interrupted, or with a closed event object -/
  | leave (stands : state.loops i = .check ∨ state.loops i = .enter ∧ state.eventHandle = false) :
      LoopMove state i (state.touch.leave i)
  | check (stands : state.loops i = .check) : LoopMove state i (state.loopTo i .ready)
  | ready (stands : state.loops i = .ready) :
      LoopMove state i ({ state.touch with
        monitorThreadLock := state.monitorThreadLock && !state.info.eventThreadReady
        info := { state.info with eventThreadReady := false } }.loopTo i .enter)
  | enter (stands : state.loops i = .enter) (isOpen : state.eventHandle = true) :
      LoopMove state i (state.touch.loopTo i .wait)
  | wake (stands : state.loops i = .wait) (signaled : state.signaled = true) :
      LoopMove state i ({ state with signaled := false }.loopTo i .read)
  | timeout (stands : state.loops i = .wait) (signaled : state.signaled = false) :
      LoopMove state i (state.loopTo i .check)
  | read (stands : state.loops i = .read) :
      LoopMove state i (state.touch.loopTo i (.clear state.info.event))
  | clear (dwEvent : Mask) (stands : state.loops i = .clear dwEvent) :
      LoopMove state i
        ({ state.touch with info := { state.info with event := 0 } }.loopTo i (.send dwEvent))
  | send (dwEvent : Mask) (stands : state.loops i = .send dwEvent) :
      LoopMove state i ({ state.touch with sent := state.sent ++ [dwEvent] }.loopTo i .check)
  /-- `SendEvents` has failed -/
  | sendLast (dwEvent : Mask) (stands : state.loops i = .send dwEvent) :
      LoopMove state i ({ state.touch with sent := state.sent ++ [dwEvent] }.leave i)

theorem LoopMove.of_step {i : Nat} {clearCommError : Option Mask} {closing : SerialEvent → Bool}
    (stepped : state.loopStep i clearCommError closing = some next) : state.LoopMove i next := by
  cases stands : state.loops i with
  | idle => simp [loopStep, stands] at stepped
  | check =>
      simp only [loopStep, stands] at stepped
      split at stepped
      next =>
        obtain rfl := Option.some.inj stepped
        exact .leave (.inl stands)
      next =>
        obtain rfl := Option.some.inj stepped
        exact .check stands
  | ready =>
      simp only [loopStep, stands, Option.some.injEq] at stepped
      subst stepped
      exact .ready stands
  | enter =>
      simp only [loopStep, stands] at stepped
      split at stepped
      next isOpen =>
        obtain rfl := Option.some.inj stepped
        exact .enter stands isOpen
      next isClosed =>
        obtain rfl := Option.some.inj stepped
        exact .leave (.inr ⟨stands, by simpa using isClosed⟩)
  | wait =>
      simp only [loopStep, stands] at stepped
      split at stepped
      next signaled =>
        obtain rfl := Option.some.inj stepped
        exact .wake stands signaled
      next signaled =>
        obtain rfl := Option.some.inj stepped
        exact .timeout stands (by simpa using signaled)
  | read =>
      simp only [loopStep, stands, Option.some.injEq] at stepped
      subst stepped
      exact .read stands
  | clear dwEvent =>
      simp only [loopStep, stands, Option.some.injEq] at stepped
      subst stepped
      exact .clear dwEvent stands
  | send dwEvent =>
      simp only [loopStep, stands] at stepped
      split at stepped
      next =>
        obtain rfl := Option.some.inj stepped
        exact .sendLast dwEvent stands
      next =>
        obtain rfl := Option.some.inj stepped
        exact .send dwEvent stands

/-- A thread that moves is there, and others are only disturbed. -/
theorem ThreadMove.others {i : Nat} (moved : state.ThreadMove i next) :
    state.threads i ≠ .absent ∧
      (∀ j, j ≠ i → next.threads j = state.threads j ∨
        next.threads j = disturb (state.threads j)) ∧
      next.created = state.created ∧ next.eventHandle = state.eventHandle ∧
      next.loops = state.loops ∧ next.sent = state.sent := by
  cases moved with
  | specify old new stands moves =>
      refine ⟨?_, ?_, rfl, rfl, rfl, rfl⟩
      · obtain ⟨rfl, -⟩ | ⟨rfl, -⟩ := moves <;> simp [stands]
      · intro j other
        exact .inr (Function.update_of_ne other _ _)
  | giveUp stands =>
      refine ⟨?_, ?_, rfl, rfl, rfl, rfl⟩
      · obtain stands | stands := stands <;> simp [stands]
      · intro j other
        exact .inl (Function.update_of_ne other _ _)
  | free stands =>
      refine ⟨?_, ?_, rfl, rfl, rfl, rfl⟩
      · obtain ⟨stands | ⟨_, stands⟩, -⟩ | ⟨stands, -⟩ := stands <;> simp [stands]
      · intro j other
        exact .inl (Function.update_of_ne other _ _)
  | announce stands | enter _ stands | fail stands | disturbed stands | report _ stands
  | signal stands | spin stands | cleared stands =>
      refine ⟨by simp [stands], ?_, rfl, rfl, rfl, rfl⟩
      intro j other
      exact .inl (Function.update_of_ne other _ _)

/-- A loop that moves is running, and the others stay where they are. -/
theorem LoopMove.others {i : Nat} (moved : state.LoopMove i next) :
    state.loops i ≠ .idle ∧ (∀ j, j ≠ i → next.loops j = state.loops j) ∧
      next.created = state.created ∧ next.threads = state.threads := by
  refine ⟨?_, ?_, ?_⟩
  · cases moved with
    | leave stands => obtain stands | ⟨stands, -⟩ := stands <;> simp [stands]
    | check stands | ready stands | enter stands | wake stands | timeout stands | read stands
    | clear _ stands | send _ stands | sendLast _ stands => simp [stands]
  · intro j other
    cases moved <;> exact Function.update_of_ne other _ _
  · cases moved <;> exact ⟨rfl, rfl⟩

end CommState

/-- A step of the system is one of Java, of a loop or of a thread. -/
theorem commEvents_step {state next : CommState} {label : CommLabel}
    (stepped : commEvents.step state label = some next) :
    state.faulted = false ∧
      match label with
      | .eventLoop true => next = state.startLoop
      | .eventLoop false => next = { state with monThreadisInterrupted := false }
      | .loop i _ _ => state.LoopMove i next
      | .thread i _ => state.ThreadMove i next
      | .nativeSetEventFlag event flag =>
          ∃ flagged : CommState, flagged = { state.touch with
              info := { state.info with ef := setFlag state.info.ef event flag } } ∧
            next = if state.fdOpen then flagged.setCommMask else flagged
      | .interruptEventLoop => next = { state with monThreadisInterrupted := true }
      | .nativeClose => next = { state with fdOpen := false } := by
  simp only [commEvents] at stepped
  split at stepped
  next => simp at stepped
  next sound =>
    refine ⟨by simpa using sound, ?_⟩
    cases label with
    | eventLoop created => cases created <;> exact (Option.some.inj stepped).symm
    | loop i clearCommError closing => exact .of_step stepped
    | thread i waitCommEvent => exact .of_step stepped
    | nativeSetEventFlag event flag => exact ⟨_, rfl, (Option.some.inj stepped).symm⟩
    | interruptEventLoop => exact (Option.some.inj stepped).symm
    | nativeClose => exact (Option.some.inj stepped).symm

/-! ## One loop at a time -/

/-- `eventLoop` is called only when no other call of it is running. -/
def OneAtATime (state : CommState) : CommLabel → Prop
  | .eventLoop _ => ∀ i < state.created, state.loops i = .idle
  | _ => True

instance : ∀ state label, Decidable (OneAtATime state label)
  | state, .eventLoop _ => inferInstanceAs (Decidable (∀ i < state.created, state.loops i = .idle))
  | _, .loop _ _ _ | _, .thread _ _ | _, .nativeSetEventFlag _ _ | _, .interruptEventLoop
  | _, .nativeClose => inferInstanceAs (Decidable True)

namespace CommState

variable {state next : CommState} {i : Nat} {label : CommLabel}

/-- The loop that was called last. -/
def loop (state : CommState) : LoopPc :=
  state.loops (state.created - 1)

/-- No other loop is running. -/
def Alone (state : CommState) : Prop :=
  ∀ i, i + 1 ≠ state.created → state.loops i = .idle

theorem Alone.last (alone : state.Alone) (moved : state.LoopMove i next) :
    i + 1 = state.created := by
  by_contra other
  exact moved.others.1 (alone i other)

theorem loop_of_last (last : i + 1 = state.created) : state.loop = state.loops i := by
  rw [loop, ← last, Nat.add_sub_cancel]

theorem loop_loopTo {pc : LoopPc} (last : i + 1 = state.created) :
    (state.loopTo i pc).loop = pc := by
  have current : (state.loopTo i pc).loop = (state.loopTo i pc).loops i := loop_of_last last
  rw [current]
  exact Function.update_self _ _ _

theorem startLoop_of_ne (other : i ≠ state.created) :
    state.startLoop.loops i = state.loops i ∧ state.startLoop.threads i = state.threads i :=
  ⟨Function.update_of_ne other _ _, Function.update_of_ne other _ _⟩

theorem loop_startLoop : state.startLoop.loop = .check :=
  Function.update_self _ _ _

theorem loop_eq (loops : next.loops = state.loops) (created : next.created = state.created) :
    next.loop = state.loop := by
  rw [loop, loops, created, loop]

theorem Alone.idle (alone : state.Alone) (returned : ∀ i < state.created, state.loops i = .idle) :
    state.loop = .idle := by
  by_cases none : state.created = 0
  · exact alone _ (by omega)
  · exact returned _ (by omega)

theorem Alone.of_eq (alone : state.Alone) (loops : next.loops = state.loops)
    (created : next.created = state.created) : next.Alone := by
  rw [Alone, loops, created]
  exact alone

theorem Alone.step (alone : state.Alone) (allowed : OneAtATime state label)
    (stepped : commEvents.step state label = some next) : next.Alone := by
  obtain ⟨-, moved⟩ := commEvents_step stepped
  cases label with
  | eventLoop created =>
      cases created with
      | true =>
          obtain rfl : next = _ := moved
          intro i other
          have other : i + 1 ≠ state.created + 1 := other
          rw [(startLoop_of_ne (by omega)).1]
          by_cases early : i < state.created
          · exact allowed i early
          · exact alone i (by omega)
      | false =>
          obtain rfl : next = _ := moved
          exact alone
  | loop i =>
      have last := alone.last moved
      obtain ⟨-, others, created, -⟩ := moved.others
      intro j other
      rw [others j (by omega)]
      exact alone j (created ▸ other)
  | thread =>
      obtain ⟨-, -, created, -, loops, -⟩ := moved.others
      exact alone.of_eq loops created
  | nativeSetEventFlag event flag =>
      obtain ⟨flagged, rfl, rfl⟩ := moved
      split <;> exact alone
  | interruptEventLoop =>
      obtain rfl : next = _ := moved
      exact alone
  | nativeClose =>
      obtain rfl : next = _ := moved
      exact alone

end CommState

/-! ## Masks on their way -/

/-- A mask that is not zero. -/
def nonzero (mask : Mask) : List Mask :=
  if mask = 0 then [] else [mask]

/-- The masks that a loop has yet to send: what it has copied, and what it has not. -/
def pendingOf (loop : LoopPc) (event : Mask) : List Mask :=
  match loop with
  | .clear dwEvent => nonzero dwEvent
  | .send dwEvent => nonzero dwEvent ++ nonzero event
  | _ => nonzero event

def CommState.pending (state : CommState) : List Mask :=
  pendingOf state.loop state.info.event

/-- The masks of `SendEvents` are among those reported, in order, and each at most once. -/
def CommState.Ordered (state : CommState) : Prop :=
  (state.sent.filter (· ≠ 0) ++ state.pending).Sublist state.reported

theorem nonzero_zero : nonzero 0 = [] :=
  if_pos rfl

theorem nonzero_of_ne {mask : Mask} (isEvent : mask ≠ 0) : nonzero mask = [mask] :=
  if_neg isEvent

theorem filter_nonzero (mask : Mask) : [mask].filter (· ≠ 0) = nonzero mask := by
  unfold nonzero
  by_cases zero : mask = 0 <;> simp [List.filter_cons, zero]

theorem pendingOf_zero (loop : LoopPc) (event : Mask) :
    (pendingOf loop 0).Sublist (pendingOf loop event) := by
  cases loop <;> simp [pendingOf, nonzero]

/-- A new mask comes last; the loop may miss it, or the one before. -/
theorem pendingOf_report (loop : LoopPc) (event mask : Mask) :
    (pendingOf loop mask).Sublist (pendingOf loop event ++ [mask]) := by
  have single : (nonzero mask).Sublist [mask] := by
    unfold nonzero
    split <;> simp
  cases loop with
  | clear dwEvent => exact List.sublist_append_left _ _
  | send dwEvent =>
      simp only [pendingOf, List.append_assoc]
      exact (List.Sublist.refl _).append (single.trans (List.sublist_append_right _ _))
  | _ => exact single.trans (List.sublist_append_right _ _)

namespace CommState

variable {state next : CommState} {i : Nat} {label : CommLabel}

/-- Nothing depends on what else changes. -/
theorem Ordered.of_eq (ordered : state.Ordered) (sent : next.sent = state.sent)
    (reported : next.reported = state.reported) (pending : next.pending = state.pending) :
    next.Ordered := by
  rw [Ordered, sent, reported, pending]
  exact ordered

/-- What is dropped is not sent. -/
theorem Ordered.of_pending (ordered : state.Ordered) (sent : next.sent = state.sent)
    (reported : next.reported = state.reported)
    (pending : next.pending.Sublist state.pending) : next.Ordered := by
  rw [Ordered, sent, reported]
  exact ((List.Sublist.refl _).append pending).trans ordered

theorem Ordered.report (ordered : state.Ordered) {mask : Mask} (sent : next.sent = state.sent)
    (reported : next.reported = state.reported ++ [mask])
    (loop : next.loop = state.loop) (event : next.info.event = mask) : next.Ordered := by
  have pending : next.pending.Sublist (state.pending ++ [mask]) := by
    rw [CommState.pending, loop, event]
    exact pendingOf_report _ _ _
  rw [Ordered, sent, reported]
  refine ((List.Sublist.refl _).append pending).trans ?_
  rw [← List.append_assoc]
  exact ordered.append (List.Sublist.refl _)

theorem Ordered.thread (ordered : state.Ordered) (moved : state.ThreadMove i next) :
    next.Ordered := by
  cases moved with
  | disturbed => exact ordered.of_pending rfl rfl (pendingOf_zero _ _)
  | report => exact ordered.report rfl rfl rfl rfl
  | _ => exact ordered.of_eq rfl rfl rfl

theorem Ordered.send (ordered : state.Ordered) {dwEvent : Mask}
    (stands : state.loop = .send dwEvent) (sent : next.sent = state.sent ++ [dwEvent])
    (reported : next.reported = state.reported)
    (pending : next.pending = nonzero state.info.event) : next.Ordered := by
  have passed : next.sent.filter (· ≠ 0) ++ next.pending =
      state.sent.filter (· ≠ 0) ++ state.pending := by
    rw [sent, pending, List.filter_append, filter_nonzero, CommState.pending, stands, pendingOf,
      List.append_assoc]
  rw [Ordered, passed, reported]
  exact ordered

/-- The masks on their way after a step of the only loop. -/
theorem pending_loopTo {pc : LoopPc} (last : i + 1 = state.created) :
    (state.loopTo i pc).pending = pendingOf pc state.info.event := by
  rw [pending, loop_loopTo last, loopTo]

theorem pending_leave (last : i + 1 = state.created) :
    (state.leave i).pending = nonzero state.info.event :=
  pending_loopTo last

theorem Ordered.loop (ordered : state.Ordered) (alone : state.Alone)
    (moved : state.LoopMove i next) : next.Ordered := by
  have last := alone.last moved
  have current := loop_of_last last
  cases moved with
  | leave stands =>
      refine ordered.of_eq rfl rfl ((pending_leave last).trans ?_)
      obtain stands | ⟨stands, -⟩ := stands <;> simp [pending, current, stands, pendingOf]
  | clear dwEvent stands =>
      refine ordered.of_eq rfl rfl ((pending_loopTo ?_).trans ?_)
      · exact last
      · simp [pending, current, stands, pendingOf, nonzero]
  | send dwEvent stands =>
      exact ordered.send (current.trans stands) rfl rfl (pending_loopTo last)
  | sendLast dwEvent stands =>
      exact ordered.send (current.trans stands) rfl rfl (pending_leave last)
  | check stands | ready stands | enter stands | wake stands | timeout stands | read stands =>
      refine ordered.of_eq rfl rfl ((pending_loopTo last).trans ?_)
      simp [pending, current, stands, pendingOf]

theorem Ordered.step (ordered : state.Ordered) (alone : state.Alone)
    (allowed : OneAtATime state label) (stepped : commEvents.step state label = some next) :
    next.Ordered := by
  obtain ⟨-, moved⟩ := commEvents_step stepped
  cases label with
  | eventLoop created =>
      cases created with
      | true =>
          obtain rfl : next = _ := moved
          refine ordered.of_eq rfl rfl ?_
          rw [pending, loop_startLoop, pending, alone.idle allowed]
          rfl
      | false =>
          obtain rfl : next = _ := moved
          exact ordered.of_eq rfl rfl rfl
  | loop => exact ordered.loop alone moved
  | thread => exact ordered.thread moved
  | nativeSetEventFlag event flag =>
      obtain ⟨flagged, rfl, rfl⟩ := moved
      split
      next => exact ordered.of_eq rfl rfl rfl
      next => exact ordered.of_eq rfl rfl rfl
  | interruptEventLoop =>
      obtain rfl : next = _ := moved
      exact ordered.of_eq rfl rfl rfl
  | nativeClose =>
      obtain rfl : next = _ := moved
      exact ordered.of_eq rfl rfl rfl

end CommState

theorem Opened.alone {state : CommState} (opened : Opened state) : state.Alone := by
  obtain ⟨-, -, -, -, -, -, idle, -⟩ := opened
  exact fun i _ => idle i

theorem Opened.ordered {state : CommState} (opened : Opened state) : state.Ordered := by
  obtain ⟨info, -, -, -, -, -, idle, -, -, reported, sent⟩ := opened
  simp [CommState.Ordered, CommState.pending, CommState.loop, info, idle, reported, sent,
    pendingOf, nonzero]

/-- In runs with one loop at a time the masks with which `SendEvents` is called are, but for
zeros, among the masks that `WaitCommEvent` has reported, in the same order and each at most
once. -/
theorem sent_sublist_reported {state : CommState}
    (reached : commEvents.ReachedBy OneAtATime state) :
    (state.sent.filter (· ≠ 0)).Sublist state.reported := by
  have ordered : state.Alone ∧ state.Ordered := by
    induction reached with
    | start opened => exact ⟨Opened.alone opened, Opened.ordered opened⟩
    | step _ allowed stepped ih =>
        exact ⟨ih.1.step allowed stepped, ih.2.step ih.1 allowed stepped⟩
  exact (List.sublist_append_left _ _).trans ordered.2

/-- A port that `open` has returned. -/
def newPort : CommState :=
  ⟨⟨evPower, 0, false⟩, 0, true, true, false, false, false, true, true, fun _ => .idle,
    fun _ => .absent, 0, [], []⟩

theorem opened_newPort : Opened newPort := by
  simp [Opened, newPort]

/-- A call of `eventLoop` and its thread, up to the wait. -/
def starts (i : Nat) : List CommLabel :=
  .eventLoop true :: List.replicate 3 (.thread i (some 0))

/-- A thread reports a mask and signals it. -/
def reports (i : Nat) (mask : Mask) : List CommLabel :=
  List.replicate 3 (.thread i (some mask))

/-- Steps of a loop. -/
def loops (i steps : Nat) : List CommLabel :=
  List.replicate steps (.loop i (some 0) fun _ => false)

/-- Both masks of a run, but for the empty one between them. -/
theorem sent_sublist_reported_two :
    ∃ state, commEvents.ReachedBy OneAtATime state ∧ state.sent = [evPower, 0] ∧
      (state.sent.filter (· ≠ 0)).Sublist state.reported := by
  have reached : commEvents.ReachedBy OneAtATime _ :=
    (System.ReachedBy.start opened_newPort).runAllowed
      (starts 0 ++ reports 0 evPower ++ loops 0 7 ++ List.replicate 2 (.thread 0 (some 0)) ++
        [.nativeSetEventFlag .dataAvailable true] ++ reports 0 0 ++ loops 0 7) rfl
  exact ⟨_, reached, rfl, sent_sublist_reported reached⟩

/-- Two loops are woken before either of them copies the mask, and both send the second one. -/
example : ∃ state, commEvents.Reachable state ∧ state.reported = [evPower, 1] ∧
    state.sent = [1, 1] := by
  refine ⟨_, System.reachable_of_run
    ([.nativeSetEventFlag .dataAvailable true, .eventLoop true, .eventLoop true] ++
      List.replicate 2 (.thread 0 (some 0)) ++ List.replicate 2 (.thread 1 (some 0)) ++
      loops 0 3 ++ loops 1 3 ++
      [.thread 0 (some 0), .thread 1 (some 0), .thread 0 (some evPower), .thread 1 (some 1)] ++
      List.replicate 2 (.thread 0 (some 0)) ++ loops 0 1 ++
      List.replicate 2 (.thread 1 (some 0)) ++ loops 1 1 ++
      loops 0 1 ++ loops 1 1 ++ loops 0 2 ++ loops 1 2) opened_newPort rfl, rfl, rfl⟩

end Jrxtx.WinCE
