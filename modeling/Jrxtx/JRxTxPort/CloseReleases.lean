import Jrxtx.CommPortIdentifier.Lookup
import Jrxtx.RXTXPort.CloseStep

/-!
# What `close()` releases

`JRxTxPort.close()` over the close of the wrapped port, with stream methods in flight.
`RXTXPort.close()` waits for them, and returns early if it is interrupted meanwhile or if
the port is not open; `JRxTxPort.close()` records the port as closed however it ends.
-/

namespace Jrxtx.JRxTxPort.CloseReleases

open Jrxtx.Transition Jrxtx.RXTXPort

/-- Where a thread is in `JRxTxPort.close()`. -/
inductive Stage where
  | outside
  /-- before `synchronized` -/
  | enter
  /-- `if (isClosed()) return` -/
  | testClosed
  /-- `closeStream()` of both streams, which leaves the wrapped streams as they are -/
  | closeStreams
  /-- in `this.rxtxPort.close()` -/
  | closePort
  /-- the assignments of `null` -/
  | resetFields
  /-- `this.closed = true` -/
  | setClosed
  deriving DecidableEq, Repr

variable {Tid : Type*} [DecidableEq Tid]

/-- A port: the wrapped port with its threads, its identifier, the fields and the monitor of
the `JRxTxPort`, and the descriptors that `nativeClose` has been executed for. -/
structure State (Tid : Type*) where
  wrapped : Shared Tid
  ident : CommPortIdentifier
  closed : Bool
  monitor : Option Tid
  stage : Tid → Stage
  closedFds : List Int

/-- A step of a thread in a stream method or in `close()`, or of the other methods. -/
inductive Label (Tid : Type*) where
  | stream (tid : Tid) (action : RXTXPort.Action)
  | environment (speed threshold : Int) (monThreadisInterrupted monitorThreadLock : Bool)
  /-- the call of `JRxTxPort.close()` -/
  | close (tid : Tid)
  /-- the next statement of `JRxTxPort.close()` -/
  | advance (tid : Tid)
  /-- the next statement of `RXTXPort.close()`, whose `super.close()` finds the identifier
  of the port in the registry or not -/
  | closePort (tid : Tid) (action : RXTXPort.Action) (found : Bool)

namespace State

variable (state : State Tid) (tid : Tid)

def goto (stage : Stage) : State Tid :=
  { state with stage := Function.update state.stage tid stage }

/-- A statement of `JRxTxPort.close()`. -/
def stepOuter : Stage → Option (State Tid)
  | .enter =>
      if state.monitor = none then
        some { state.goto tid .testClosed with monitor := some tid }
      else none
  | .testClosed =>
      if state.closed then some { state.goto tid .outside with monitor := none }
      else some (state.goto tid .closeStreams)
  | .closeStreams =>
      (state.wrapped.stepThread tid .close).map fun wrapped =>
        { state.goto tid .closePort with wrapped }
  | .resetFields => some (state.goto tid .setClosed)
  | .setClosed => some { state.goto tid .outside with closed := true, monitor := none }
  | .outside | .closePort => none

/-- A statement of `RXTXPort.close()`; `super.close()` throws after the identifier has been
released, and the `finally` clause comes next then. -/
def stepInner (stage : CloseStage) (action : RXTXPort.Action) (found : Bool) :
    Option (State Tid) :=
  (state.wrapped.stepClose tid stage action).map fun wrapped =>
    { state with
      wrapped
      stage :=
        if wrapped.pc tid = .idle then
          Function.update state.stage tid
            (if stage = .superClose then .setClosed else .resetFields)
        else state.stage
      ident := if stage = .superClose ∧ found = true then state.ident.releasePort else state.ident
      closedFds :=
        if stage = .nativeClose then state.closedFds ++ [state.wrapped.fd]
        else state.closedFds }

/-- One step. -/
def step : Label Tid → Option (State Tid)
  | .stream tid action =>
      if state.stage tid = .outside ∧ action ≠ .close then
        (state.wrapped.stepThread tid action).map fun wrapped => { state with wrapped }
      else none
  | .environment speed threshold monThreadisInterrupted monitorThreadLock =>
      some
        { state with
          wrapped :=
            { state.wrapped with speed, threshold, monThreadisInterrupted, monitorThreadLock } }
  | .close tid =>
      if state.stage tid = .outside ∧ state.wrapped.pc tid = .idle then
        some (state.goto tid .enter)
      else none
  | .advance tid => state.stepOuter tid (state.stage tid)
  | .closePort tid action found =>
      match state.stage tid, state.wrapped.pc tid with
      | .closePort, .closing stage => state.stepInner tid stage action found
      | _, _ => none

end State

/-- An open port with descriptor `fd`, that no thread uses yet. -/
structure Opened (fd : Int) (state : State Tid) : Prop where
  wrapped : Fresh state.wrapped
  fd : state.wrapped.fd = fd
  owned : state.ident.available = false
  closed : state.closed = false
  monitor : state.monitor = none
  outside : ∀ tid, state.stage tid = .outside
  closedFds : state.closedFds = []

/-- The runs of a port. -/
def port (Tid : Type*) [DecidableEq Tid] (fd : Int) : System (State Tid) (Label Tid) where
  start := Opened fd
  step := State.step

/-- The condition on one step: a thread that waits in `RXTXPort.close()` is not interrupted,
the descriptor is positive when it is tested, and `super.close()` finds the identifier. -/
def Unimpeded (state : State Tid) : Label Tid → Prop
  | .closePort tid action found =>
      match state.wrapped.pc tid with
      | .closing .waiting => action ≠ .divert
      | .closing .testFd => 0 < state.wrapped.fd
      | .closing .superClose => found = true
      | _ => True
  | _ => True

/-- `nativeClose` has been executed for the descriptor, and the identifier is nobody's. -/
structure Released (fd : Int) (state : State Tid) : Prop where
  closedFds : state.closedFds = [fd]
  ident : state.ident.Unowned

/-- No thread has come to close the wrapped port. -/
structure Untouched (fd : Int) (state : State Tid) : Prop where
  closed : state.closed = false
  closedFds : state.closedFds = []
  closeLock : state.wrapped.closeLock = false
  fd : state.wrapped.fd = fd

/-- In `close()`, inside of the monitor. -/
def Stage.inside : Stage → Bool
  | .outside | .enter => false
  | _ => true

/-- The parts of `RXTXPort.close()`. -/
inductive Phase where
  /-- until `closeLock` is set -/
  | waiting
  /-- until `nativeClose` has been executed -/
  | working
  | superClose
  | ending
  deriving DecidableEq, Repr

def phase : CloseStage → Phase
  | .enter | .testIOLocked | .waiting | .testCloseLock | .setCloseLock => .waiting
  | .superClose => .superClose
  | .clearFd | .clearCloseLock => .ending
  | _ => .working

/-- What has been done when a thread is in a part of `RXTXPort.close()`. -/
def PhaseOk (fd : Int) (state : State Tid) : Phase → Prop
  | .waiting => Untouched fd state
  | .working => state.closed = false ∧ state.closedFds = [] ∧ state.wrapped.fd = fd
  | .superClose => state.closed = false ∧ state.closedFds = [fd]
  | .ending => Released fd state

/-- What has been done when a thread is at a statement of `JRxTxPort.close()`. -/
def StageOk (fd : Int) (state : State Tid) : Stage → RXTXPort.Pc → Prop
  | .testClosed, _ => state.closed = true ∨ Untouched fd state
  | .closeStreams, _ => Untouched fd state
  | .closePort, .closing stage => PhaseOk fd state (phase stage)
  | .resetFields, _ | .setClosed, _ => Released fd state
  | _, _ => True

/-- A closed port is released, and an open one is untouched unless a thread is closing it. -/
structure CloseInvariant (fd : Int) (state : State Tid) : Prop where
  holder : ∀ tid, (state.stage tid).inside = true → state.monitor = some tid
  calling : ∀ tid stage, state.wrapped.pc tid = .closing stage → state.stage tid = .closePort
  untouched : state.monitor = none → state.closed = false → Untouched fd state
  released : state.closed = true → Released fd state
  ok : ∀ tid, StageOk fd state (state.stage tid) (state.wrapped.pc tid)

section Invariant

variable {fd : Int} {state next : State Tid} {tid : Tid} {new : Stage}

omit [DecidableEq Tid] in
theorem Released.congr (released : Released fd state) (closedFds : next.closedFds = state.closedFds)
    (ident : next.ident = state.ident) : Released fd next :=
  ⟨closedFds.trans released.closedFds, ident ▸ released.ident⟩

omit [DecidableEq Tid] in
theorem Untouched.congr (untouched : Untouched fd state) (closed : next.closed = state.closed)
    (closedFds : next.closedFds = state.closedFds)
    (closeLock : next.wrapped.closeLock = state.wrapped.closeLock)
    (isFd : next.wrapped.fd = state.wrapped.fd) : Untouched fd next where
  closed := closed.trans untouched.closed
  closedFds := closedFds.trans untouched.closedFds
  closeLock := closeLock.trans untouched.closeLock
  fd := isFd.trans untouched.fd

omit [DecidableEq Tid] in
theorem stageOk_of_outside {stage : Stage} (outside : stage.inside = false) (pc : RXTXPort.Pc) :
    StageOk fd state stage pc := by
  cases stage <;> trivial

/-- No other thread is inside of the monitor. -/
def Alone (state : State Tid) (tid : Tid) : Prop :=
  ∀ other, other ≠ tid → (state.stage other).inside = false

omit [DecidableEq Tid] in
theorem CloseInvariant.alone (held : CloseInvariant fd state)
    (inside : (state.stage tid).inside = true) : Alone state tid := by
  intro other distinct
  rw [← Bool.not_eq_true]
  intro otherInside
  have owner := (held.holder other otherInside).symm.trans (held.holder tid inside)
  exact distinct (Option.some.inj owner)

/-- A step of a thread in `close()`. -/
theorem CloseInvariant.own (held : CloseInvariant fd state) (new : Stage)
    (alone : Alone state tid)
    (staged : next.stage = Function.update state.stage tid new)
    (elsewhere : ∀ other, other ≠ tid → next.wrapped.pc other = state.wrapped.pc other)
    (calling : ∀ stage, next.wrapped.pc tid = .closing stage → new = .closePort)
    (monitor : next.monitor = if new.inside then some tid else none)
    (untouched : new.inside = false → next.closed = false → Untouched fd next)
    (released : next.closed = true → Released fd next)
    (ok : StageOk fd next new (next.wrapped.pc tid)) : CloseInvariant fd next := by
  refine ⟨?_, ?_, ?_, released, ?_⟩
  · rw [staged]
    apply (Function.forall_update_iff state.stage fun other stage =>
      stage.inside = true → next.monitor = some other).mpr
    constructor
    · intro stays
      rw [monitor, if_pos stays]
    · intro other distinct otherInside
      simp [alone other distinct] at otherInside
  · rw [staged]
    apply (Function.forall_update_iff state.stage fun other place =>
      ∀ stage, next.wrapped.pc other = .closing stage → place = .closePort).mpr
    constructor
    · exact calling
    · intro other distinct stage closing
      exact held.calling other stage (elsewhere other distinct ▸ closing)
  · intro free
    apply untouched
    rw [← Bool.not_eq_true]
    intro stays
    simp [monitor, stays] at free
  · rw [staged]
    apply (Function.forall_update_iff state.stage fun other stage =>
      StageOk fd next stage (next.wrapped.pc other)).mpr
    constructor
    · exact ok
    · intro other distinct
      exact stageOk_of_outside (alone other distinct) (next.wrapped.pc other)

/-- What a step of a stream method leaves alone. -/
structure StreamFrame (before after : Shared Tid) (tid : Tid) : Prop where
  fd : after.fd = before.fd
  closeLock : after.closeLock = before.closeLock
  elsewhere : ∀ other, other ≠ tid → after.pc other = before.pc other
  outside : ∀ stage, after.pc tid ≠ .closing stage

section Frame

variable {before after : Shared Tid} {action : RXTXPort.Action} {pc : RXTXPort.Pc}
  {rest : Code} {pending : List Code}

theorem StreamFrame.goto (moved : after.pc = Function.update before.pc tid pc)
    (fd : after.fd = before.fd) (closeLock : after.closeLock = before.closeLock)
    (outside : ∀ stage, pc ≠ .closing stage) : StreamFrame before after tid where
  fd := fd
  closeLock := closeLock
  elsewhere := by
    intro other distinct
    rw [moved, Function.update_of_ne distinct]
  outside := by
    rw [moved, Function.update_self]
    exact outside

theorem StreamFrame.leaveIf (condition : Bool) :
    StreamFrame before (before.leaveIf tid condition rest pending) tid := by
  cases condition <;> exact .goto rfl rfl rfl (by simp)

theorem stepOp_frame {op : Op} (stepped : before.stepOp tid rest pending op action = some after) :
    StreamFrame before after tid := by
  revert stepped
  fun_cases Shared.stepOp before tid rest pending op action <;> intro stepped <;>
    simp only [Option.some.injEq, reduceCtorEq] at stepped <;> subst stepped <;>
    first | exact .leaveIf _ | exact .goto rfl rfl rfl (by simp)

theorem stepCode_frame {current : Code}
    (stepped : before.stepCode tid current pending action = some after) :
    StreamFrame before after tid := by
  revert stepped
  fun_cases Shared.stepCode before tid current pending action <;> intro stepped
  case case3 => exact stepOp_frame stepped
  all_goals
    simp only [Option.some.injEq, reduceCtorEq] at stepped
    try subst stepped
    try exact .goto rfl rfl rfl (by simp)

theorem stepThread_frame (outside : ∀ stage, before.pc tid ≠ .closing stage)
    (isStream : action ≠ .close) (stepped : before.stepThread tid action = some after) :
    StreamFrame before after tid := by
  revert stepped
  fun_cases Shared.stepThread before tid action <;> intro stepped
  case case4 => exact absurd rfl isStream
  case case5 => exact stepCode_frame stepped
  case case8 stage atStage => exact absurd atStage (outside stage)
  all_goals
    simp only [Option.some.injEq, reduceCtorEq] at stepped
    try subst stepped
    try exact .goto rfl rfl rfl (by simp)

end Frame

omit [DecidableEq Tid] in
theorem stageOk_congr {stage : Stage} {pc : RXTXPort.Pc} (ok : StageOk fd state stage pc)
    (closed : next.closed = state.closed) (closedFds : next.closedFds = state.closedFds)
    (ident : next.ident = state.ident)
    (closeLock : next.wrapped.closeLock = state.wrapped.closeLock)
    (isFd : next.wrapped.fd = state.wrapped.fd) : StageOk fd next stage pc := by
  have untouched (untouched : Untouched fd state) : Untouched fd next :=
    untouched.congr closed closedFds closeLock isFd
  have released (released : Released fd state) : Released fd next :=
    released.congr closedFds ident
  cases stage
  case outside | enter => trivial
  case testClosed => exact ok.imp closed.trans untouched
  case closeStreams => exact untouched ok
  case resetFields | setClosed => exact released ok
  case closePort =>
    cases pc
    case closing stage =>
      change PhaseOk fd next (phase stage)
      change PhaseOk fd state (phase stage) at ok
      generalize phase stage = part at ok ⊢
      cases part
      case waiting => exact untouched ok
      case working =>
        exact ⟨closed.trans ok.1, closedFds.trans ok.2.1, isFd.trans ok.2.2⟩
      case superClose => exact ⟨closed.trans ok.1, closedFds.trans ok.2⟩
      case ending => exact released ok
    all_goals trivial

omit [DecidableEq Tid] in
/-- A step outside of `close()`. -/
theorem CloseInvariant.withWrapped {wrapped : Shared Tid} (held : CloseInvariant fd state)
    (isFd : wrapped.fd = state.wrapped.fd) (closeLock : wrapped.closeLock = state.wrapped.closeLock)
    (calls : ∀ tid stage, wrapped.pc tid = .closing stage → state.wrapped.pc tid = .closing stage)
    (elsewhere : ∀ tid, state.stage tid ≠ .outside → wrapped.pc tid = state.wrapped.pc tid) :
    CloseInvariant fd { state with wrapped } where
  holder := held.holder
  calling := fun tid stage closing => held.calling tid stage (calls tid stage closing)
  untouched := fun free isOpen => (held.untouched free isOpen).congr rfl rfl closeLock isFd
  released := fun closed => (held.released closed).congr rfl rfl
  ok := by
    intro tid
    by_cases outside : state.stage tid = .outside
    · simp only [outside]
      trivial
    · rw [elsewhere tid outside]
      exact stageOk_congr (held.ok tid) rfl rfl rfl closeLock isFd

theorem unowned_releasePort (ident : CommPortIdentifier) : ident.releasePort.Unowned :=
  ⟨rfl, rfl, rfl⟩

/-- What can follow a statement of `RXTXPort.close()`, without an early return. -/
inductive Follows : CloseStage → RXTXPort.Pc → Prop where
  | same {stage new : CloseStage} : phase new = phase stage → stage ≠ .setCloseLock →
      stage ≠ .nativeClose → stage ≠ .superClose → Follows stage (.closing new)
  | locks : Follows .setCloseLock (.closing .testFd)
  | closes : Follows .nativeClose (.closing .superClose)
  | releases : Follows .superClose (.closing .clearFd)
  | throws : Follows .superClose .idle
  | ends : Follows .clearCloseLock .idle

/-- A statement of `RXTXPort.close()`, without an early return. -/
structure CloseMove (before after : Shared Tid) (tid : Tid) (stage : CloseStage)
    (new : RXTXPort.Pc) : Prop where
  pc : after.pc = Function.update before.pc tid new
  follows : Follows stage new
  fd : phase stage ≠ .ending → after.fd = before.fd
  closeLock : phase stage = .waiting → stage ≠ .setCloseLock →
    after.closeLock = before.closeLock

theorem stepClose_move {before after : Shared Tid} {stage : CloseStage} {action : RXTXPort.Action}
    (uninterrupted : stage = .waiting → action ≠ .divert)
    (unlocked : stage = .testCloseLock → before.closeLock = false)
    (isOpen : stage = .testFd → 0 < before.fd)
    (stepped : before.stepClose tid stage action = some after) :
    ∃ new, CloseMove before after tid stage new := by
  revert stepped
  fun_cases Shared.stepClose before tid stage action <;> intro stepped <;>
    simp only [Option.some.injEq, reduceCtorEq] at stepped <;> subst stepped
  case case7 => exact absurd rfl (uninterrupted rfl)
  case case9 locked => simp [unlocked rfl] at locked
  case case11 => exact ⟨_, rfl, .locks, fun _ => rfl, fun _ unset => absurd rfl unset⟩
  case case12 notOpen => exact absurd (isOpen rfl) (not_lt.mpr notOpen)
  case case29 => exact ⟨_, rfl, .closes, fun _ => rfl, fun _ _ => rfl⟩
  case case30 => exact ⟨_, rfl, .releases, fun _ => rfl, fun _ _ => rfl⟩
  case case31 => exact ⟨_, rfl, .throws, fun _ => rfl, fun _ _ => rfl⟩
  case case32 =>
    exact ⟨_, rfl, .same rfl (by decide) (by decide) (by decide), fun going => absurd rfl going,
      fun waiting => absurd waiting (by decide)⟩
  case case33 =>
    exact ⟨_, rfl, .ends, fun going => absurd rfl going, fun waiting => absurd waiting (by decide)⟩
  all_goals
    exact ⟨_, rfl, .same rfl (by decide) (by decide) (by decide), fun _ => rfl, fun _ _ => rfl⟩

/-- A statement of `RXTXPort.close()` that another one follows. -/
theorem CloseInvariant.stay (held : CloseInvariant fd state)
    (calling : state.stage tid = .closePort) {stage : CloseStage}
    (staged : next.stage = state.stage) (monitor : next.monitor = state.monitor)
    (moved : next.wrapped.pc = Function.update state.wrapped.pc tid (.closing stage))
    (released : next.closed = true → Released fd next) (ok : PhaseOk fd next (phase stage)) :
    CloseInvariant fd next := by
  have inside : (state.stage tid).inside = true := by rw [calling]; rfl
  refine held.own .closePort (held.alone inside) ?_ ?_ (fun _ _ => rfl)
    (monitor.trans (held.holder tid inside)) nofun released ?_
  · rw [staged, ← calling, Function.update_eq_self]
  · intro other distinct
    rw [moved, Function.update_of_ne distinct]
  · rw [moved, Function.update_self]
    exact ok

/-- The last statement of `RXTXPort.close()`, or an exception. -/
theorem CloseInvariant.leave (held : CloseInvariant fd state)
    (calling : state.stage tid = .closePort) (isNew : new = .resetFields ∨ new = .setClosed)
    (staged : next.stage = Function.update state.stage tid new)
    (monitor : next.monitor = state.monitor)
    (moved : next.wrapped.pc = Function.update state.wrapped.pc tid .idle)
    (released : Released fd next) : CloseInvariant fd next := by
  have inside : (state.stage tid).inside = true := by rw [calling]; rfl
  have stays : new.inside = true := by rcases isNew with rfl | rfl <;> rfl
  refine held.own new (held.alone inside) staged ?_ ?_ ?_ ?_ (fun _ => released) ?_
  · intro other distinct
    rw [moved, Function.update_of_ne distinct]
  · intro stage closing
    rw [moved, Function.update_self] at closing
    cases closing
  · rw [monitor, held.holder tid inside, if_pos stays]
  · simp [stays]
  · rcases isNew with rfl | rfl <;> exact released

theorem CloseInvariant.stepInner (held : CloseInvariant fd state)
    (calling : state.stage tid = .closePort) {stage : CloseStage} {action : RXTXPort.Action}
    {found : Bool} (atStage : state.wrapped.pc tid = .closing stage)
    (permitted : Unimpeded state (.closePort tid action found))
    (stepped : state.stepInner tid stage action found = some next) : CloseInvariant fd next := by
  have ok : PhaseOk fd state (phase stage) := by
    have ok := held.ok tid
    rwa [calling, atStage] at ok
  simp only [Unimpeded, atStage] at permitted
  obtain ⟨wrapped, closes, rfl⟩ := Option.map_eq_some_iff.mp stepped
  obtain ⟨new, moved, follows, isFd, closeLock⟩ :
      ∃ new, CloseMove state.wrapped wrapped tid stage new := by
    refine stepClose_move ?_ ?_ ?_ closes
    · rintro rfl
      exact permitted
    · rintro rfl
      exact Untouched.closeLock ok
    · rintro rfl
      exact permitted
  cases follows
  case same new same notLock notClose notSuper =>
    have done : state.closedFds =
        if stage = .nativeClose then state.closedFds ++ [state.wrapped.fd] else state.closedFds :=
      (if_neg notClose).symm
    have owner : state.ident =
        if stage = .superClose ∧ found = true then state.ident.releasePort else state.ident :=
      (if_neg fun ⟨isSuper, _⟩ => notSuper isSuper).symm
    refine held.stay calling (by simp [moved]) rfl moved ?_ ?_
    · intro closed
      obtain ⟨closedFds, unowned⟩ := held.released closed
      exact ⟨done ▸ closedFds, owner ▸ unowned⟩
    · rw [same]
      cases part : phase stage <;> rw [part] at ok
      case waiting =>
        exact ⟨ok.closed, done ▸ ok.closedFds, (closeLock part notLock).trans ok.closeLock,
          (isFd (by simp [part])).trans ok.fd⟩
      case working => exact ⟨ok.1, done ▸ ok.2.1, (isFd (by simp [part])).trans ok.2.2⟩
      case superClose => exact ⟨ok.1, done ▸ ok.2⟩
      case ending => exact ⟨done ▸ ok.closedFds, owner ▸ ok.ident⟩
  case locks =>
    refine held.stay calling (by simp [moved]) rfl moved ?_ ?_
    · simp [ok.closed]
    · exact ⟨ok.closed, ok.closedFds, (isFd (by decide)).trans ok.fd⟩
  case closes =>
    refine held.stay calling (by simp [moved]) rfl moved ?_ ?_
    · simp [ok.1]
    · exact ⟨ok.1, by simp [ok.2.1, ok.2.2]⟩
  case releases =>
    have isFound : found = true := permitted
    refine held.stay calling (by simp [moved]) rfl moved ?_ ?_
    · simp [ok.1]
    · exact ⟨ok.2, by simp [isFound, unowned_releasePort]⟩
  case throws =>
    have isFound : found = true := permitted
    refine held.leave calling (.inr rfl) (by simp [moved]) rfl moved ?_
    exact ⟨ok.2, by simp [isFound, unowned_releasePort]⟩
  case ends =>
    exact held.leave calling (.inl rfl) (by simp [moved]) rfl moved ⟨ok.closedFds, ok.ident⟩

/-- The call of `RXTXPort.close()`. -/
theorem stepThread_close {before after : Shared Tid}
    (stepped : before.stepThread tid .close = some after) :
    after = before.goto tid (.closing .enter) := by
  cases isAt : before.pc tid <;> simp only [Shared.stepThread, isAt] at stepped
  case idle => exact (Option.some.inj stepped).symm
  case running current pending =>
    cases current
    case done => cases pending <;> simp [Shared.stepCode] at stepped
    case seq op rest => cases op <;> simp [Shared.stepCode, Shared.stepOp] at stepped
    case locked => simp [Shared.stepCode] at stepped
  case inNative => simp at stepped
  case closing stage => cases stage <;> simp [Shared.stepClose] at stepped

/-- A statement of `JRxTxPort.close()` other than its call of `RXTXPort.close()`. -/
theorem CloseInvariant.outer (held : CloseInvariant fd state) (new : Stage)
    (alone : Alone state tid) (notInner : state.stage tid ≠ .closePort)
    (staged : next.stage = Function.update state.stage tid new)
    (wrapped : next.wrapped = state.wrapped)
    (monitor : next.monitor = if new.inside then some tid else none)
    (untouched : new.inside = false → next.closed = false → Untouched fd next)
    (released : next.closed = true → Released fd next)
    (ok : StageOk fd next new (next.wrapped.pc tid)) : CloseInvariant fd next := by
  refine held.own new alone staged ?_ ?_ monitor untouched released ok
  · intro other _
    rw [wrapped]
  · intro stage closing
    rw [wrapped] at closing
    exact absurd (held.calling tid stage closing) notInner

theorem CloseInvariant.stepOuter (held : CloseInvariant fd state)
    (stepped : state.stepOuter tid (state.stage tid) = some next) : CloseInvariant fd next := by
  have ok := held.ok tid
  have alone : (state.stage tid).inside = true → Alone state tid := held.alone
  have owner := held.holder tid
  have stays {new : Stage} (inside : new.inside = true) {conclusion : Prop} :
      new.inside = false → conclusion := fun outside => by simp [inside] at outside
  cases isAt : state.stage tid <;> rw [isAt] at stepped ok alone owner <;>
    simp only [State.stepOuter] at stepped
  case outside | closePort => simp at stepped
  case enter =>
    split at stepped
    next free =>
      obtain rfl := Option.some.inj stepped
      refine held.outer .testClosed ?_ (by simp [isAt]) rfl rfl rfl (stays rfl)
        (fun closed => (held.released closed).congr rfl rfl) ?_
      · intro other _
        rw [← Bool.not_eq_true]
        intro inside
        simp [held.holder other inside] at free
      · cases closed : state.closed with
        | true => exact .inl closed
        | false => exact .inr ((held.untouched free closed).congr rfl rfl rfl rfl)
    next => simp at stepped
  case testClosed =>
    split at stepped
    next closed =>
      obtain rfl := Option.some.inj stepped
      exact held.outer .outside (alone rfl) (by simp [isAt]) rfl rfl rfl
        (fun _ isOpen => by simp [State.goto, closed] at isOpen)
        (fun _ => (held.released closed).congr rfl rfl) trivial
    next isOpen =>
      obtain rfl := Option.some.inj stepped
      exact held.outer .closeStreams (alone rfl) (by simp [isAt]) rfl rfl (owner rfl)
        (stays rfl) (fun closed => absurd closed isOpen)
        ((ok.resolve_left isOpen).congr rfl rfl rfl rfl)
  case closeStreams =>
    obtain ⟨wrapped, called, rfl⟩ := Option.map_eq_some_iff.mp stepped
    obtain rfl := stepThread_close called
    have untouched : Untouched fd state := ok
    refine held.own .closePort (alone rfl) rfl ?_ (fun _ _ => rfl) (owner rfl) (stays rfl) ?_ ?_
    · intro other distinct
      exact Function.update_of_ne distinct _ _
    · exact fun closed => by simp [State.goto, untouched.closed] at closed
    · simp only [Shared.goto, Function.update_self]
      exact untouched.congr rfl rfl rfl rfl
  case resetFields =>
    obtain rfl := Option.some.inj stepped
    have released : Released fd state := ok
    exact held.outer .setClosed (alone rfl) (by simp [isAt]) rfl rfl (owner rfl) (stays rfl)
      (fun _ => released.congr rfl rfl) (released.congr rfl rfl)
  case setClosed =>
    obtain rfl := Option.some.inj stepped
    have released : Released fd state := ok
    exact held.outer .outside (alone rfl) (by simp [isAt]) rfl rfl rfl
      (fun _ isOpen => absurd isOpen (by simp))
      (fun _ => released.congr rfl rfl) trivial

/-- The call of `JRxTxPort.close()`. -/
theorem CloseInvariant.call (held : CloseInvariant fd state)
    (outside : state.stage tid = .outside) : CloseInvariant fd (state.goto tid .enter) where
  holder := by
    apply (Function.forall_update_iff state.stage fun other stage =>
      stage.inside = true → state.monitor = some other).mpr
    exact ⟨nofun, fun other _ => held.holder other⟩
  calling := by
    apply (Function.forall_update_iff state.stage fun other place =>
      ∀ stage, state.wrapped.pc other = .closing stage → place = .closePort).mpr
    constructor
    · intro stage closing
      exact nomatch outside.symm.trans (held.calling tid stage closing)
    · exact fun other _ => held.calling other
  untouched := fun free isOpen => (held.untouched free isOpen).congr rfl rfl rfl rfl
  released := fun closed => (held.released closed).congr rfl rfl
  ok := by
    apply (Function.forall_update_iff state.stage fun other stage =>
      StageOk fd (state.goto tid .enter) stage (state.wrapped.pc other)).mpr
    constructor
    · trivial
    · intro other _
      exact stageOk_congr (held.ok other) rfl rfl rfl rfl rfl

omit [DecidableEq Tid] in
theorem Opened.invariant (opened : Opened fd state) : CloseInvariant fd state where
  holder := by
    intro tid inside
    simp [opened.outside tid, Stage.inside] at inside
  calling := by
    intro tid stage closing
    simp [opened.wrapped.idle tid] at closing
  untouched _ _ := ⟨opened.closed, opened.closedFds, opened.wrapped.closeLock, opened.fd⟩
  released := by
    intro closed
    simp [opened.closed] at closed
  ok := by
    intro tid
    rw [opened.outside tid]
    trivial

/-- A step of a stream method. -/
theorem CloseInvariant.stream (held : CloseInvariant fd state) {action : RXTXPort.Action}
    {wrapped : Shared Tid} (outside : state.stage tid = .outside) (notClose : action ≠ .close)
    (moved : state.wrapped.stepThread tid action = some wrapped) :
    CloseInvariant fd { state with wrapped } := by
  have notClosing (stage : CloseStage) : state.wrapped.pc tid ≠ .closing stage := by
    intro closing
    simp [held.calling tid stage closing] at outside
  have frame := stepThread_frame notClosing notClose moved
  apply held.withWrapped frame.fd frame.closeLock
  · intro other stage closing
    by_cases same : other = tid
    · exact absurd (same ▸ closing) (frame.outside stage)
    · rwa [← frame.elsewhere other same]
  · intro other inside
    apply frame.elsewhere
    rintro rfl
    exact inside outside

/-- A step that meets the condition. -/
theorem CloseInvariant.step (held : CloseInvariant fd state) {label : Label Tid}
    (permitted : Unimpeded state label) (stepped : state.step label = some next) :
    CloseInvariant fd next := by
  cases label with
  | stream tid action =>
      simp only [State.step] at stepped
      split at stepped
      next isStream =>
        obtain ⟨wrapped, moved, rfl⟩ := Option.map_eq_some_iff.mp stepped
        exact held.stream isStream.1 isStream.2 moved
      next => simp at stepped
  | environment speed threshold monThreadisInterrupted monitorThreadLock =>
      obtain rfl := Option.some.inj stepped
      exact held.withWrapped rfl rfl (fun _ _ => id) fun _ _ => rfl
  | close tid =>
      simp only [State.step] at stepped
      split at stepped
      next ready =>
        obtain rfl := Option.some.inj stepped
        exact held.call ready.1
      next => simp at stepped
  | advance tid => exact held.stepOuter stepped
  | closePort tid action found =>
      simp only [State.step] at stepped
      split at stepped
      next stage calling atStage => exact held.stepInner calling atStage permitted stepped
      next => simp at stepped

/-- What has been done in any run that meets the condition. -/
theorem closeInvariant_of_reachedBy (reached : (port Tid fd).ReachedBy Unimpeded state) :
    CloseInvariant fd state :=
  reached.invariant (fun _ => Opened.invariant)
    fun _ _ _ held permitted stepped => held.step permitted stepped

end Invariant

/-- In a run in which no closing thread is interrupted while it waits, the descriptor is
positive and the identifier is found, a port that says it is closed is released: its
descriptor has been closed, and nobody owns its identifier. -/
theorem closed_released {fd : Int} {state : State Tid}
    (reached : (port Tid fd).ReachedBy Unimpeded state) (closed : state.closed = true) :
    state.closedFds = [fd] ∧ state.ident.Unowned :=
  have released := (closeInvariant_of_reachedBy reached).released closed
  ⟨released.closedFds, released.ident⟩

instance (state : State Tid) (label : Label Tid) : Decidable (Unimpeded state label) :=
  decidable_of_iff
    ((match label with
      | .closePort tid action found =>
          match state.wrapped.pc tid with
          | .closing .waiting => action != .divert
          | .closing .testFd => 0 < state.wrapped.fd
          | .closing .superClose => found
          | _ => true
      | _ => true) = true) <| by
    unfold Unimpeded
    split
    next => split <;> simp
    next => simp

/-- An open port with two threads. -/
def opened : State Bool where
  wrapped :=
    { fd := 5
      speed := 9600
      threshold := 0
      ioLocked := 0
      closeLock := false
      monThreadisInterrupted := false
      monitorThreadLock := false
      monitor := none
      inputMonitor := none
      pc := fun _ => .idle
      closer := none
      nativeCloses := 0 }
  ident :=
    { CommPortIdentifier.new "/dev/ttyS0" (some 0) 1 7 with
      available := false
      owner := some "org.openmuc.jrxtx.JRxTxPort1" }
  closed := false
  monitor := none
  stage := fun _ => .outside
  closedFds := []

theorem opened_opened : Opened 5 opened :=
  ⟨⟨fun _ => rfl, rfl, rfl, rfl, rfl, rfl⟩, rfl, rfl, rfl, rfl, fun _ => rfl, rfl⟩

/-- A `read()` is in flight, and `close()` waits for it. -/
def waitForRead : List (Label Bool) :=
  .stream true (.call .read) :: List.replicate 2 (.stream true .advance) ++ .close false ::
    List.replicate 3 (.advance false) ++ List.replicate 2 (.closePort false .advance true)

/-- The `read()` ends, and `close()` goes on to its end. -/
theorem closed_released_after_read :
    ∃ state : State Bool, (port Bool 5).ReachedBy Unimpeded state ∧
      state.stage false = .outside ∧ state.closed = true ∧ state.closedFds = [5] ∧
      state.ident.Unowned := by
  have reached : (port Bool 5).ReachedBy Unimpeded _ :=
    (System.ReachedBy.start opened_opened).runAllowed
      (waitForRead ++ List.replicate 5 (.stream true .advance) ++
        List.replicate 18 (.closePort false .advance true) ++ List.replicate 2 (.advance false)) rfl
  exact ⟨_, reached, rfl, rfl, closed_released reached rfl⟩

/-- The closing thread is interrupted while it waits: `close()` returns, the port says that
it is closed, and neither its descriptor nor its identifier has been released. -/
theorem close_interrupted :
    ∃ state : State Bool, (port Bool 5).Reachable state ∧ state.stage false = .outside ∧
      state.closed = true ∧ state.closedFds = [] ∧ state.ident.available = false := by
  have reachable : (port Bool 5).Reachable _ := System.reachable_of_run
    (waitForRead ++ .closePort false .divert true :: List.replicate 2 (.advance false))
    opened_opened rfl
  exact ⟨_, reachable, rfl, rfl, rfl, rfl⟩

end Jrxtx.JRxTxPort.CloseReleases
