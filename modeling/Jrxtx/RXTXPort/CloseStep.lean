import Jrxtx.RXTXPort.Streams

/-!
# One statement of `close()` or of a stream method

`close()` tests `IOLocked` and goes on in several more steps, and nothing keeps
a stream method from incrementing `IOLocked` meanwhile.  `Undisturbed` is the
condition that none does.  Under it, `CloseStep` and `StreamStep` say what one
statement can do to the port.
-/

namespace Jrxtx.RXTXPort

open Jrxtx.Transition

/-! ## Control ranges -/

namespace CloseStage

/-- Inside the synchronized block, after it has been entered. -/
def inMonitor : CloseStage → Bool
  | .testIOLocked | .testCloseLock | .setCloseLock => true
  | _ => false

/-- `IOLocked` has been found to be zero. -/
def passed : CloseStage → Bool
  | .enter | .testIOLocked | .waiting => false
  | _ => true

/-- The thread has set `closeLock` and not left `close()`. -/
def holdsCloseLock : CloseStage → Bool
  | .enter | .testIOLocked | .waiting | .testCloseLock | .setCloseLock => false
  | _ => true

/-- From the test of `fd` to the call of `nativeClose`. -/
def beforeClose (stage : CloseStage) : Bool :=
  stage.holdsCloseLock && stage ∉ [.testFd, .superClose, .clearFd, .clearCloseLock]

/-- `nativeClose` has run, and `fd` has not been cleared. -/
def afterClose : CloseStage → Bool
  | .superClose | .clearFd => true
  | _ => false

end CloseStage

namespace Pc

/-- The number of increments of `IOLocked` that the thread has yet to undo. -/
def depth : Pc → Nat
  | .running _ pending | .inNative _ pending => pending.length
  | .idle | .closing _ => 0

/-- The thread is in `close()`, at a stage with some property. -/
def closes (property : CloseStage → Bool) : Pc → Bool
  | .closing stage => property stage
  | _ => false

/-- The native call that the next statement makes. -/
def nativeCall (threshold : Int) : Pc → Option NativeCall
  | .running (.seq (.native call) _) _ => some call
  | .running (.seq .availableIfNoThreshold _) _ =>
      if threshold = 0 then some .nativeavailable else none
  | .closing .setDTR => some .setDTR
  | .closing .setDSR => some .setDSR
  | .closing .interruptEventLoop => some .interruptEventLoop
  | .closing .nativeClose => some .nativeClose
  | _ => none

end Pc

namespace Code

/-- The file descriptor is tested before each native call. -/
def rechecks : Code → Bool
  | .done => true
  | .seq .throwIfFdZero _ => true
  | .seq (.native _) _ | .seq .availableIfNoThreshold _ => false
  | .seq _ rest => rest.rechecks
  | .locked body rest => body.rechecks && rest.rechecks

/-- Native calls other than the `nativeavailable` of the threshold are locked. -/
def locksNative : Code → Bool
  | .done => true
  | .seq (.native _) _ => false
  | .seq _ rest => rest.locksNative
  | .locked _ rest => rest.locksNative

/-- Nothing follows a locked body. -/
def endsLocked : Code → Bool
  | .done => true
  | .seq _ rest => rest.endsLocked
  | .locked body rest => body.endsLocked && rest == .done

end Code

theorem StreamMethod.code_shape (method : StreamMethod) :
    method.code.locksNative = true ∧ method.code.endsLocked = true := by
  cases method <;> decide

variable {Tid : Type*} [DecidableEq Tid]

/-! ## The condition -/

omit [DecidableEq Tid] in
/-- No thread is in `close()` past its test of `IOLocked`. -/
def NoClosePassed (state : Shared Tid) : Prop :=
  ∀ tid, (state.pc tid).closes CloseStage.passed = false

omit [DecidableEq Tid] in
/-- The condition on one step.  A stream method increments `IOLocked`, or calls
`nativeavailable` without doing so, only while no `close()` is past its test of
`IOLocked`, with a descriptor that is not zero or is tested again; and no
listener makes `super.close()` throw. -/
def Undisturbed (state : Shared Tid) : Label Tid → Prop
  | .thread tid action =>
      match state.pc tid with
      | .running (.locked body _) _ =>
          NoClosePassed state ∧ (0 < state.fd ∨ body.rechecks = true)
      | .running (.seq .availableIfNoThreshold _) _ =>
          state.threshold = 0 → NoClosePassed state ∧ 0 < state.fd
      | .closing .superClose => action = .advance
      | _ => True
  | .environment _ _ _ _ => True

/-! ## One statement of `close()` -/

/-- A statement of `close()` takes a thread from `stage` to `new`. -/
structure CloseStep (state next : Shared Tid) (tid : Tid) (stage : CloseStage) (new : Pc) :
    Prop where
  pc : next.pc = Function.update state.pc tid new
  outside : new = .idle ∨ ∃ stage, new = .closing stage
  ioLocked : next.ioLocked = state.ioLocked
  fd : state.fd = 0 → next.fd = 0
  monitor :
    (next.monitor = state.monitor ∧
        (new.closes CloseStage.inMonitor = true → stage.inMonitor = true)) ∨
      (state.monitor = none ∧ next.monitor = some tid) ∨
      (stage.inMonitor = true ∧ new.closes CloseStage.inMonitor = false)
  closer :
    (next.closer = state.closer ∧
        (new.closes CloseStage.holdsCloseLock = true → stage.holdsCloseLock = true)) ∨
      (stage = .setCloseLock ∧ next.closer = some tid ∧ next.closeLock = true) ∨
      (stage.holdsCloseLock = true ∧ next.closer = none ∧
        new.closes CloseStage.holdsCloseLock = false)
  closeLock : next.closeLock = state.closeLock ∨
    (stage = .setCloseLock ∧ next.closeLock = true) ∨
    (next.closer = none ∧ next.closeLock = false)
  setting : new.closes (· = .setCloseLock) = true → next.closeLock = false
  passes : new.closes CloseStage.passed = true → stage.passed = true ∨ state.ioLocked ≤ 0
  begins : new.closes CloseStage.beforeClose = true →
    stage.beforeClose = true ∨ (stage = .testFd ∧ 0 < state.fd)
  ends : stage.afterClose = true → new.closes CloseStage.afterClose = true ∨ next.fd = 0
  nativeCloses : next.nativeCloses = state.nativeCloses ∨
    (stage = .nativeClose ∧ next.nativeCloses = state.nativeCloses + 1 ∧
      new.closes CloseStage.afterClose = true)

theorem stepClose_cases {state next : Shared Tid} {tid : Tid} {stage : CloseStage}
    {action : Action} (permitted : stage = .superClose → action = .advance)
    (stepped : state.stepClose tid stage action = some next) :
    ∃ new, CloseStep state next tid stage new := by
  revert stepped
  fun_cases Shared.stepClose state tid stage action <;> intro stepped
  all_goals simp only [reduceCtorEq, Option.some.injEq] at stepped
  all_goals subst stepped
  all_goals refine ⟨_, rfl, by simp, rfl, by simp [Shared.goto], ?_, ?_, ?_, ?_, ?_, ?_, ?_, ?_⟩
  all_goals
    simp_all [Pc.closes, CloseStage.inMonitor, CloseStage.holdsCloseLock, Shared.goto,
      CloseStage.passed, CloseStage.beforeClose, CloseStage.afterClose]

/-! ## One statement of a stream method -/

/-- What the position of a thread says about the file after `nativeCloses` calls
of `nativeClose`. -/
def CodeAt (nativeCloses : Nat) : Pc → Prop
  | .idle | .closing _ => True
  | .running current pending =>
      (∀ code ∈ pending, code = .done) ∧ current.endsLocked = true ∧
        (pending = [] → current.locksNative = true) ∧
        (pending ≠ [] → nativeCloses = 0 ∨ current.rechecks = true)
  | .inNative rest pending =>
      (∀ code ∈ pending, code = .done) ∧ rest.endsLocked = true ∧
        (pending = [] → rest.locksNative = true) ∧ (pending ≠ [] → nativeCloses = 0)

omit [DecidableEq Tid] in
/-- Neither the descriptor nor `close()` has come so far that the file may be closed. -/
def Open (state : Shared Tid) (tid : Tid) : Prop :=
  state.fd ≠ 0 → NoClosePassed state ∨ 0 < (state.pc tid).depth → state.nativeCloses = 0

/-- A statement outside of `close()`, or the call of `close()`, takes a thread
to `new`. -/
structure StreamStep (state next : Shared Tid) (tid : Tid) (new : Pc) : Prop where
  pc : next.pc = Function.update state.pc tid new
  before : (state.pc tid).closes (fun _ => true) = false
  outside : new.closes (fun stage => stage ≠ .enter) = false
  ioLocked : next.ioLocked = state.ioLocked + new.depth - (state.pc tid).depth
  fd : next.fd = state.fd
  monitor : next.monitor = state.monitor
  closer : next.closer = state.closer
  closeLock : next.closeLock = state.closeLock
  nativeCloses : next.nativeCloses = state.nativeCloses
  locks : 0 < new.depth → 0 < (state.pc tid).depth ∨ NoClosePassed state
  codeAt : CodeAt state.nativeCloses new

omit [DecidableEq Tid] in
/-- After `return` and exceptions only decrements remain. -/
theorem codeAt_leave (nativeCloses : Nat) (pending : List Code) :
    CodeAt nativeCloses (.running .done (pending.map fun _ => .done)) := by
  simp [CodeAt, Code.endsLocked, Code.locksNative, Code.rechecks]

theorem codeAt_call (nativeCloses : Nat) (method : StreamMethod) :
    CodeAt nativeCloses (.running method.code []) := by
  obtain ⟨unlocked, ends⟩ := method.code_shape
  exact ⟨by simp, ends, fun _ => unlocked, by simp⟩

section Steps

variable {state next : Shared Tid} {tid : Tid}

theorem StreamStep.goto {new : Pc} (before : (state.pc tid).closes (fun _ => true) = false)
    (outside : new.closes (fun stage => stage ≠ .enter) = false)
    (depth : new.depth = (state.pc tid).depth) (codeAt : CodeAt state.nativeCloses new) :
    StreamStep state (state.goto tid new) tid new where
  pc := rfl
  before := before
  outside := outside
  ioLocked := by simp [Shared.goto, depth]
  fd := rfl
  monitor := rfl
  closer := rfl
  closeLock := rfl
  nativeCloses := rfl
  locks := by
    intro locked
    exact .inl (depth ▸ locked)
  codeAt := codeAt

/-- The thread is in a stream method, with `pending` decrements to come. -/
def Streaming (pc : Pc) (pending : List Code) : Prop :=
  pc.closes (fun _ => true) = false ∧ pc.depth = pending.length

theorem StreamStep.running {rest : Code} {pending : List Code}
    (streaming : Streaming (state.pc tid) pending)
    (codeAt : CodeAt state.nativeCloses (.running rest pending)) :
    ∃ new, StreamStep state (state.goto tid (.running rest pending)) tid new :=
  ⟨_, StreamStep.goto streaming.1 rfl streaming.2.symm codeAt⟩

theorem StreamStep.inNative {rest : Code} {pending : List Code}
    (streaming : Streaming (state.pc tid) pending)
    (codeAt : CodeAt state.nativeCloses (.inNative rest pending)) :
    ∃ new, StreamStep state (state.goto tid (.inNative rest pending)) tid new :=
  ⟨_, StreamStep.goto streaming.1 rfl streaming.2.symm codeAt⟩

theorem StreamStep.leave {pending : List Code} (streaming : Streaming (state.pc tid) pending) :
    ∃ new, StreamStep state (state.leave tid pending) tid new := by
  refine ⟨_, StreamStep.goto streaming.1 rfl ?_ (codeAt_leave _ pending)⟩
  rw [streaming.2]
  simp [Pc.depth]

theorem StreamStep.leaveIf {condition : Bool} {rest : Code} {pending : List Code}
    (streaming : Streaming (state.pc tid) pending)
    (codeAt : condition = false → CodeAt state.nativeCloses (.running rest pending)) :
    ∃ new, StreamStep state (state.leaveIf tid condition rest pending) tid new := by
  cases condition with
  | true => exact StreamStep.leave streaming
  | false => exact StreamStep.running streaming (codeAt rfl)

theorem stepOp_cases {op : Op} {rest : Code} {pending : List Code} {action : Action}
    (atOp : state.pc tid = .running (.seq op rest) pending)
    (opened : Open state tid) (codeAt : CodeAt state.nativeCloses (state.pc tid))
    (stepped : state.stepOp tid rest pending op action = some next) :
    ∃ new, StreamStep state next tid new := by
  have streaming : Streaming (state.pc tid) pending := by
    rw [atOp]
    exact ⟨rfl, rfl⟩
  rw [Open, streaming.2] at opened
  rw [atOp] at codeAt
  obtain ⟨decrements, ends, unlocked, locked⟩ := codeAt
  revert stepped
  fun_cases Shared.stepOp state tid rest pending op action <;> intro stepped
  all_goals simp only [reduceCtorEq, Option.some.injEq] at stepped
  all_goals subst stepped
  case case1 | case2 =>
    exact StreamStep.leaveIf streaming fun _ => ⟨decrements, ends, unlocked, locked⟩
  case case3 =>
    -- inside of a locked body a descriptor that is not zero is open
    apply StreamStep.leaveIf streaming
    intro nonzero
    refine ⟨decrements, ends, unlocked, ?_⟩
    intro inside
    left
    apply opened
    · simpa using nonzero
    · exact .inr (List.length_pos_iff.mpr inside)
  case case4 | case9 =>
    exact StreamStep.running streaming ⟨decrements, ends, unlocked, locked⟩
  case case5 => exact StreamStep.leave streaming
  case case6 =>
    apply StreamStep.inNative streaming
    refine ⟨decrements, ends, unlocked, ?_⟩
    simpa [Code.rechecks] using locked
  case case7 =>
    apply StreamStep.running streaming
    refine ⟨decrements, ends, unlocked, ?_⟩
    intro inside
    left
    simpa [Code.rechecks, inside] using locked
  case case10 =>
    apply StreamStep.inNative streaming
    refine ⟨decrements, ends, ?_, ?_⟩
    · intro outside
      simp [Code.locksNative, outside] at unlocked
    · simpa [Code.rechecks] using locked

theorem stepCode_cases {current : Code} {pending : List Code} {action : Action}
    (atCode : state.pc tid = .running current pending)
    (permitted : Undisturbed state (.thread tid action)) (opened : Open state tid)
    (codeAt : CodeAt state.nativeCloses (state.pc tid))
    (stepped : state.stepCode tid current pending action = some next) :
    ∃ new, StreamStep state next tid new := by
  have before : (state.pc tid).closes (fun _ => true) = false := by rw [atCode]; rfl
  revert stepped
  fun_cases Shared.stepCode state tid current pending action <;> intro stepped
  case case1 =>
    rw [Option.some.injEq] at stepped
    subst stepped
    refine ⟨.idle, rfl, before, rfl, ?_, rfl, rfl, rfl, rfl, rfl, ?_, trivial⟩
    · simp [atCode, Pc.depth, Shared.goto]
    · simp [Pc.depth]
  case case2 rest pending =>
    -- the end of a locked body
    rw [Option.some.injEq] at stepped
    subst stepped
    rw [atCode] at codeAt
    obtain ⟨decrements, -, -, -⟩ := codeAt
    rw [List.forall_mem_cons] at decrements
    obtain ⟨rfl, decrements⟩ := decrements
    refine ⟨.running .done pending, rfl, before, rfl, ?_, rfl, rfl, rfl, rfl, rfl, ?_, ?_⟩
    · simp [atCode, Pc.depth]
      omega
    · intro _
      left
      simp [atCode, Pc.depth]
    · exact ⟨decrements, rfl, fun _ => rfl, fun _ => .inr rfl⟩
  case case3 op rest => exact stepOp_cases atCode opened codeAt stepped
  case case4 body rest =>
    rw [Option.some.injEq] at stepped
    subst stepped
    simp only [Undisturbed, atCode] at permitted
    obtain ⟨noClose, nonzero⟩ := permitted
    rw [atCode] at codeAt
    obtain ⟨decrements, ends, -, -⟩ := codeAt
    simp only [Code.endsLocked, Bool.and_eq_true, beq_iff_eq] at ends
    refine ⟨.running body (rest :: pending), rfl, before, rfl, ?_, rfl, rfl, rfl, rfl, rfl, ?_, ?_⟩
    · simp [atCode, Pc.depth]
      omega
    · intro _
      exact .inr noClose
    · refine ⟨?_, ends.1, by simp, ?_⟩
      · rw [List.forall_mem_cons]
        exact ⟨ends.2, decrements⟩
      · intro _
        rcases nonzero with positive | rechecks
        · exact .inl (opened (by omega) (.inl noClose))
        · exact .inr rechecks
  case case5 => simp at stepped

theorem stepThread_cases {action : Action}
    (permitted : Undisturbed state (.thread tid action)) (opened : Open state tid)
    (codeAt : CodeAt state.nativeCloses (state.pc tid))
    (stepped : state.stepThread tid action = some next) :
    (∃ new, StreamStep state next tid new) ∨
      ∃ stage new, state.pc tid = .closing stage ∧ CloseStep state next tid stage new := by
  revert stepped
  fun_cases Shared.stepThread state tid action <;> intro stepped
  case case1 method atIdle entered onInput free =>
    rw [Option.some.injEq] at stepped
    subst stepped
    refine .inl ⟨.running method.code [], rfl, ?_, rfl, ?_, rfl, rfl, rfl, rfl, rfl, ?_, ?_⟩
    · rw [atIdle]
      rfl
    · simp [entered, atIdle, Pc.depth, Shared.goto]
    · simp [Pc.depth]
    · exact codeAt_call _ method
  case case2 => simp at stepped
  case case3 method atIdle entered onOutput =>
    rw [Option.some.injEq] at stepped
    subst stepped
    left
    apply StreamStep.running
    · rw [atIdle]
      exact ⟨rfl, rfl⟩
    · exact codeAt_call _ method
  case case4 atIdle =>
    rw [Option.some.injEq] at stepped
    subst stepped
    refine .inl ⟨_, StreamStep.goto ?_ rfl ?_ trivial⟩ <;> rw [atIdle] <;> rfl
  case case5 current pending atCode =>
    exact .inl (stepCode_cases atCode permitted opened codeAt stepped)
  case case6 rest pending inside =>
    rw [Option.some.injEq] at stepped
    subst stepped
    rw [inside] at codeAt
    obtain ⟨decrements, ends, unlocked, unclosed⟩ := codeAt
    left
    apply StreamStep.running
    · rw [inside]
      exact ⟨rfl, rfl⟩
    · exact ⟨decrements, ends, unlocked, fun locked => .inl (unclosed locked)⟩
  case case7 rest pending inside =>
    rw [Option.some.injEq] at stepped
    subst stepped
    left
    apply StreamStep.leave
    rw [inside]
    exact ⟨rfl, rfl⟩
  case case8 stage atStage =>
    have advances : stage = .superClose → action = .advance := by
      intro superClose
      simpa [Undisturbed, atStage, superClose] using permitted
    obtain ⟨new, moved⟩ := stepClose_cases advances stepped
    exact .inr ⟨stage, new, atStage, moved⟩
  case case9 => simp at stepped

/-- The threads in `close()` stay where they are. -/
theorem StreamStep.closes {new : Pc} (moved : StreamStep state next tid new)
    {property : CloseStage → Bool} (notEnter : property .enter = false) (other : Tid) :
    (next.pc other).closes property = (state.pc other).closes property := by
  rw [moved.pc]
  by_cases same : other = tid
  · subst same
    have before := moved.before
    have outside := moved.outside
    rw [Function.update_self]
    cases new <;> cases atOther : state.pc other <;> simp_all [Pc.closes]
  · rw [Function.update_of_ne same]

end Steps

end Jrxtx.RXTXPort
