import Jrxtx.RXTXPort.CloseStep
import Jrxtx.Transition.Counting

/-!
# Closing a port while it is in use

In undisturbed runs the file is closed at most once and never while it is in
use.
-/

namespace Jrxtx.RXTXPort

open Jrxtx.Transition

variable {Tid : Type*} [DecidableEq Tid]

/-! ## The lock of `close()` -/

/-- The monitor and `closeLock` as the closing threads see them. -/
structure Protocol (state : Shared Tid) : Prop where
  monitor : ∀ tid, (state.pc tid).closes CloseStage.inMonitor = true →
    state.monitor = some tid
  closer : ∀ tid, (state.pc tid).closes CloseStage.holdsCloseLock = true →
    state.closer = some tid
  closeLock : state.closer ≠ none → state.closeLock = true
  setting : ∀ tid, (state.pc tid).closes (· = .setCloseLock) = true → state.closeLock = false

omit [DecidableEq Tid] in
theorem protocol_fresh {state : Shared Tid} (fresh : Fresh state) : Protocol state where
  monitor := by simp [fresh.idle, Pc.closes]
  closer := by simp [fresh.idle, Pc.closes]
  closeLock := by simp [fresh.closer]
  setting := by simp [fresh.idle, Pc.closes]

section Invariants

variable {state next : Shared Tid} {tid : Tid} {stage : CloseStage} {new : Pc}

theorem Protocol.stream (protocol : Protocol state) (moved : StreamStep state next tid new) :
    Protocol next := by
  constructor
  case monitor =>
    intro other inMonitor
    rw [moved.closes rfl] at inMonitor
    rw [moved.monitor]
    exact protocol.monitor other inMonitor
  case closer =>
    intro other holds
    rw [moved.closes rfl] at holds
    rw [moved.closer]
    exact protocol.closer other holds
  case closeLock =>
    rw [moved.closer, moved.closeLock]
    exact protocol.closeLock
  case setting =>
    intro other setting
    rw [moved.closes rfl] at setting
    rw [moved.closeLock]
    exact protocol.setting other setting

theorem Protocol.close (protocol : Protocol state) (atStage : state.pc tid = .closing stage)
    (moved : CloseStep state next tid stage new) : Protocol next := by
  have own (property : CloseStage → Bool) : (state.pc tid).closes property = property stage := by
    rw [atStage]
    rfl
  have setting_inMonitor (pc : Pc) (setting : pc.closes (· = .setCloseLock) = true) :
      pc.closes CloseStage.inMonitor = true := by
    cases pc <;> simp_all [Pc.closes, CloseStage.inMonitor]
  constructor
  case monitor =>
    intro other inMonitor
    rw [moved.pc] at inMonitor
    have monitor := moved.monitor
    have inTid := protocol.monitor tid
    have inOther := protocol.monitor other
    grind
  case closer =>
    intro other holds
    rw [moved.pc] at holds
    have closer := moved.closer
    have heldTid := protocol.closer tid
    have heldOther := protocol.closer other
    have setting := protocol.setting tid
    have locked := protocol.closeLock
    grind
  case closeLock =>
    have closer := moved.closer
    have closeLock := moved.closeLock
    have heldTid := protocol.closer tid
    have locked := protocol.closeLock
    grind
  case setting =>
    intro other setting
    rw [moved.pc] at setting
    have set := moved.setting
    have closeLock := moved.closeLock
    have settingOther := protocol.setting other
    have inTid := protocol.monitor tid
    have inOther := protocol.monitor other
    have inMonitor := setting_inMonitor (state.pc other)
    have inMonitorTid : CloseStage.setCloseLock.inMonitor = true := rfl
    grind

/-! ## The file is open while it is used -/

/-- The counter is right, and the file is closed once, after its last use. -/
structure Exclusion (state : Shared Tid) : Prop where
  counted : Counts state.ioLocked (fun tid => (state.pc tid).depth)
  unused : ∀ tid, (state.pc tid).closes CloseStage.passed = true →
    ∀ other, (state.pc other).depth = 0
  notYet : ∀ tid, (state.pc tid).closes CloseStage.beforeClose = true → state.nativeCloses = 0
  closed : 0 < state.nativeCloses →
    state.fd = 0 ∨ ∃ tid, (state.pc tid).closes CloseStage.afterClose = true
  once : state.nativeCloses ≤ 1
  code : ∀ tid, CodeAt state.nativeCloses (state.pc tid)

omit [DecidableEq Tid] in
theorem exclusion_fresh (fresh : Fresh state) : Exclusion state where
  counted := by
    rw [fresh.ioLocked]
    apply counts_zero
    intro tid
    rw [fresh.idle]
    rfl
  unused := by simp [fresh.idle, Pc.closes]
  notYet := by simp [fresh.idle, Pc.closes]
  closed := by simp [fresh.nativeCloses]
  once := by simp [fresh.nativeCloses]
  code := by simp [fresh.idle, CodeAt]

omit [DecidableEq Tid] in
theorem CloseStage.passed_of_afterClose {stage : CloseStage} (after : stage.afterClose = true) :
    stage.passed = true := by
  cases stage <;> simp_all [CloseStage.afterClose, CloseStage.passed]

omit [DecidableEq Tid] in
/-- A thread that has called `nativeClose` is past its test of `IOLocked`. -/
theorem Pc.passed_of_afterClose {pc : Pc} (after : pc.closes CloseStage.afterClose = true) :
    pc.closes CloseStage.passed = true := by
  cases pc with
  | closing stage => exact CloseStage.passed_of_afterClose after
  | _ => simp [Pc.closes] at after

omit [DecidableEq Tid] in
theorem Exclusion.open (exclusion : Exclusion state) (tid : Tid) : Open state tid := by
  intro nonzero away
  by_contra closed
  obtain zero | ⟨closer, after⟩ := exclusion.closed (Nat.pos_of_ne_zero closed)
  · exact nonzero zero
  · have passed := Pc.passed_of_afterClose after
    rcases away with noClose | inside
    · simp [noClose closer] at passed
    · simp [exclusion.unused closer passed tid] at inside

omit [DecidableEq Tid] in
/-- Native calls are made under the lock, for the threshold, or by `close()`. -/
theorem Pc.nativeCall_cases {pc : Pc} {threshold : Int} {call : NativeCall}
    (calls : pc.nativeCall threshold = some call) :
    (∃ rest pending, pc = .running (.seq (.native call) rest) pending) ∨
      (threshold = 0 ∧
        ∃ rest pending, pc = .running (.seq .availableIfNoThreshold rest) pending) ∨
      pc.closes CloseStage.beforeClose = true := by
  revert calls
  fun_cases Pc.nativeCall threshold pc <;> intro calls
  case case1 => simp_all
  case case2 noThreshold => exact .inr (.inl ⟨noThreshold, _, _, rfl⟩)
  case case3 => simp at calls
  case case4 | case5 | case6 | case7 => exact .inr (.inr rfl)
  case case8 => simp at calls

omit [DecidableEq Tid] in
/-- No native call starts once `nativeClose` has been called. -/
theorem Exclusion.nativeCall {action : Action} {call : NativeCall} (exclusion : Exclusion state)
    (permitted : Undisturbed state (.thread tid action))
    (calls : (state.pc tid).nativeCall state.threshold = some call) : state.nativeCloses = 0 := by
  obtain ⟨rest, pending, atCall⟩ | ⟨noThreshold, rest, pending, atTest⟩ | before :=
    Pc.nativeCall_cases calls
  · have code := exclusion.code tid
    rw [atCall] at code
    obtain ⟨-, -, unlocked, locked⟩ := code
    simp only [Code.locksNative, Bool.false_eq_true, imp_false] at unlocked
    simpa [Code.rechecks] using locked unlocked
  · simp only [Undisturbed, atTest] at permitted
    obtain ⟨noClose, positive⟩ := permitted noThreshold
    exact exclusion.open tid (by omega) (.inl noClose)
  · exact exclusion.notYet tid before

theorem depths_update (pcs : next.pc = Function.update state.pc tid new) :
    (fun other => (next.pc other).depth) =
      Function.update (fun other => (state.pc other).depth) tid new.depth := by
  rw [pcs]
  exact Function.comp_update Pc.depth state.pc tid new

theorem Exclusion.stream (exclusion : Exclusion state) (moved : StreamStep state next tid new) :
    Exclusion next := by
  constructor
  case counted =>
    have counted := exclusion.counted.update tid new.depth
    rwa [← depths_update moved.pc, ← moved.ioLocked] at counted
  case unused =>
    intro closer passed
    rw [moved.closes rfl] at passed
    have none := exclusion.unused closer passed
    rw [moved.pc]
    apply (Function.forall_update_iff state.pc fun _ pc => pc.depth = 0).mpr
    constructor
    · by_contra inside
      rcases moved.locks (Nat.pos_of_ne_zero inside) with already | noClose
      · simp [none tid] at already
      · simp [noClose closer] at passed
    · exact fun other _ => none other
  case notYet =>
    intro closer before
    rw [moved.closes rfl] at before
    rw [moved.nativeCloses]
    exact exclusion.notYet closer before
  case closed =>
    rw [moved.nativeCloses, moved.fd]
    intro called
    have afterClose : CloseStage.afterClose .enter = false := rfl
    simp only [moved.closes afterClose]
    exact exclusion.closed called
  case once =>
    rw [moved.nativeCloses]
    exact exclusion.once
  case code =>
    rw [moved.pc, moved.nativeCloses]
    apply (Function.forall_update_iff state.pc fun _ pc => CodeAt state.nativeCloses pc).mpr
    exact ⟨moved.codeAt, fun other _ => exclusion.code other⟩

/-- `nativeClose` changes nothing for the threads outside of the locked bodies. -/
theorem CodeAt.unlocked {nativeCloses calls : Nat} {pc : Pc} (codeAt : CodeAt nativeCloses pc)
    (depth : pc.depth = 0) : CodeAt calls pc := by
  cases pc with
  | idle | closing stage => trivial
  | running current pending | inNative current pending =>
      obtain rfl := List.length_eq_zero_iff.mp depth
      exact ⟨codeAt.1, codeAt.2.1, codeAt.2.2.1, by simp⟩

/-- A thread that has called `nativeClose` holds `closeLock`. -/
theorem Pc.holdsCloseLock_of_afterClose {pc : Pc}
    (after : pc.closes CloseStage.afterClose = true) :
    pc.closes CloseStage.holdsCloseLock = true := by
  cases pc with
  | closing stage =>
      cases stage <;> simp_all [Pc.closes, CloseStage.afterClose, CloseStage.holdsCloseLock]
  | _ => simp [Pc.closes] at after

theorem Pc.holdsCloseLock_of_beforeClose {pc : Pc}
    (before : pc.closes CloseStage.beforeClose = true) :
    pc.closes CloseStage.holdsCloseLock = true ∧ pc.closes CloseStage.afterClose = false := by
  cases pc with
  | closing stage =>
      cases stage <;>
        simp_all [Pc.closes, CloseStage.afterClose, CloseStage.beforeClose,
          CloseStage.holdsCloseLock]
  | _ => simp [Pc.closes] at before

omit [DecidableEq Tid] in
/-- At most one thread holds `closeLock`. -/
theorem Protocol.unique (protocol : Protocol state) {first second : Tid}
    (held : (state.pc first).closes CloseStage.holdsCloseLock = true)
    (other : (state.pc second).closes CloseStage.holdsCloseLock = true) : first = second := by
  have closer := protocol.closer first held
  rw [protocol.closer second other, Option.some.injEq] at closer
  exact closer.symm

omit [DecidableEq Tid] in
/-- While a thread that holds `closeLock` has not called `nativeClose`, an open file means that
no thread has: it would still hold `closeLock`. -/
theorem Exclusion.not_called (protocol : Protocol state) (exclusion : Exclusion state)
    (held : (state.pc tid).closes CloseStage.holdsCloseLock = true)
    (notAfter : (state.pc tid).closes CloseStage.afterClose = false) (positive : 0 < state.fd) :
    state.nativeCloses = 0 := by
  by_contra called
  obtain zero | ⟨closed, after⟩ := exclusion.closed (Nat.pos_of_ne_zero called)
  · omega
  · obtain rfl := protocol.unique (Pc.holdsCloseLock_of_afterClose after) held
    exact Bool.false_ne_true (notAfter.symm.trans after)

theorem Exclusion.close (protocol : Protocol state) (exclusion : Exclusion state)
    (atStage : state.pc tid = .closing stage)
    (moved : CloseStep state next tid stage new) : Exclusion next := by
  have own (property : CloseStage → Bool) : (state.pc tid).closes property = property stage := by
    rw [atStage]
    rfl
  have ownNext : next.pc tid = new := by rw [moved.pc, Function.update_self]
  have others {other : Tid} (different : other ≠ tid) : next.pc other = state.pc other := by
    rw [moved.pc, Function.update_of_ne different]
  have depths : (fun other => (next.pc other).depth) = fun other => (state.pc other).depth := by
    rw [depths_update moved.pc, Function.update_eq_self_iff, atStage]
    obtain rfl | ⟨stage, rfl⟩ := moved.outside <;> rfl
  constructor
  case counted =>
    rw [moved.ioLocked, depths]
    exact exclusion.counted
  case unused =>
    intro closer passed other
    rw [congrFun depths]
    by_cases same : closer = tid
    · subst same
      rw [ownNext] at passed
      rcases moved.passes passed with already | unlocked
      · exact exclusion.unused closer (by rwa [own]) other
      · exact exclusion.counted.eq_zero unlocked other
    · rw [others same] at passed
      exact exclusion.unused closer passed other
  case notYet =>
    intro closer before
    by_cases same : closer = tid
    · subst same
      rw [ownNext] at before
      rcases moved.nativeCloses with kept | ⟨-, -, after⟩
      · rw [kept]
        rcases moved.begins before with already | ⟨testFd, positive⟩
        · exact exclusion.notYet closer (by rwa [own])
        · -- this thread is still at its test of `fd`
          have held : (state.pc closer).closes CloseStage.holdsCloseLock = true := by
            rw [own, testFd]
            rfl
          have notAfter : (state.pc closer).closes CloseStage.afterClose = false := by
            rw [own, testFd]
            rfl
          exact exclusion.not_called protocol held notAfter positive
      · simp [(Pc.holdsCloseLock_of_beforeClose before).2] at after
    · rw [others same] at before
      rcases moved.nativeCloses with kept | ⟨nativeClose, -, -⟩
      · rw [kept]
        exact exclusion.notYet closer before
      · have held : (state.pc tid).closes CloseStage.holdsCloseLock = true := by
          rw [own, nativeClose]
          rfl
        exact absurd (protocol.unique (Pc.holdsCloseLock_of_beforeClose before).1 held) same
  case closed =>
    intro called
    rcases moved.nativeCloses with kept | ⟨-, -, after⟩
    · rw [kept] at called
      obtain zero | ⟨closer, after⟩ := exclusion.closed called
      · exact .inl (moved.fd zero)
      · by_cases same : closer = tid
        · subst same
          rw [own] at after
          rcases moved.ends after with still | zero
          · exact .inr ⟨closer, by rwa [ownNext]⟩
          · exact .inl zero
        · exact .inr ⟨closer, by rwa [others same]⟩
    · exact .inr ⟨tid, by rwa [ownNext]⟩
  case once =>
    rcases moved.nativeCloses with kept | ⟨nativeClose, counted, -⟩
    · rw [kept]
      exact exclusion.once
    · have notYet := exclusion.notYet tid (by rw [own, nativeClose]; rfl)
      omega
  case code =>
    intro other
    by_cases same : other = tid
    · subst same
      rw [ownNext]
      obtain rfl | ⟨stage, rfl⟩ := moved.outside <;> trivial
    · rw [others same]
      rcases moved.nativeCloses with kept | ⟨nativeClose, -, -⟩
      · rw [kept]
        exact exclusion.code other
      · have passed : (state.pc tid).closes CloseStage.passed = true := by
          rw [own, nativeClose]
          rfl
        exact (exclusion.code other).unlocked (exclusion.unused tid passed other)

end Invariants

/-! ## Runs -/

theorem undisturbed_invariant {state : Shared Tid}
    (reached : (threads Tid).ReachedBy Undisturbed state) :
    Protocol state ∧ Exclusion state := by
  apply System.ReachedBy.invariant _ _ reached
  · intro state fresh
    exact ⟨protocol_fresh fresh, exclusion_fresh fresh⟩
  · intro state label next invariants permitted stepped
    obtain ⟨protocol, exclusion⟩ := invariants
    cases label with
    | thread tid action =>
        obtain ⟨new, moved⟩ | ⟨stage, new, atStage, moved⟩ :=
          stepThread_cases permitted (exclusion.open tid) (exclusion.code tid) stepped
        · exact ⟨protocol.stream moved, exclusion.stream moved⟩
        · exact ⟨protocol.close atStage moved, exclusion.close protocol atStage moved⟩
    | environment speed threshold monThreadisInterrupted monitorThreadLock =>
        simp only [threads, Shared.step, Option.some.injEq] at stepped
        subst stepped
        obtain ⟨monitor, closer, closeLock, setting⟩ := protocol
        obtain ⟨counted, unused, notYet, closed, once, code⟩ := exclusion
        exact ⟨⟨monitor, closer, closeLock, setting⟩,
          ⟨counted, unused, notYet, closed, once, code⟩⟩

/-- In runs in which no stream method disturbs a `close()`, the file is closed at
most once, nobody is between an increment and a decrement of `IOLocked` when
`nativeClose` is called, and no native call starts after it. -/
theorem nativeClose_excludes_use {state : Shared Tid}
    (reached : (threads Tid).ReachedBy Undisturbed state) :
    state.nativeCloses ≤ 1 ∧
      (∀ closer, state.pc closer = .closing .nativeClose →
        state.nativeCloses = 0 ∧ ∀ tid, (state.pc tid).depth = 0) ∧
      ∀ tid action call next, Undisturbed state (.thread tid action) →
        (threads Tid).step state (.thread tid action) = some next →
        (state.pc tid).nativeCall state.threshold = some call → state.nativeCloses = 0 := by
  obtain ⟨protocol, exclusion⟩ := undisturbed_invariant reached
  refine ⟨exclusion.once, ?_, ?_⟩
  · intro closer atClose
    constructor
    · exact exclusion.notYet closer (by rw [atClose]; rfl)
    · exact exclusion.unused closer (by rw [atClose]; rfl)
  · intro tid action call next permitted stepped calls
    exact exclusion.nativeCall permitted calls

/-- A byte is written, and another thread closes the port afterwards. -/
theorem nativeClose_excludes_use_after_write :
    ∃ state : Shared Bool, state.pc false = .closing .nativeClose ∧ state.nativeCloses = 0 ∧
      (state.pc true).depth = 0 := by
  let start : Shared Bool :=
    { fd := 5
      speed := 9600
      threshold := 0
      ioLocked := 0
      closeLock := false
      monThreadisInterrupted := false
      monitorThreadLock := false
      monitor := none
      inputMonitor := none
      pc := fun _ => .idle
      closer := none
      nativeCloses := 0 }
  have fresh : (threads Bool).ReachedBy Undisturbed start :=
    .start ⟨fun _ => rfl, rfl, rfl, rfl, rfl, rfl⟩
  have called := fresh.extend (.thread true (.call .writeInt)) trivial rfl
  have fast := called.extend (.thread true .advance) trivial rfl
  have listening := fast.extend (.thread true .advance) trivial rfl
  have locked := listening.extend (.thread true .advance)
    ⟨fun tid => by cases tid <;> rfl, .inl (by decide)⟩ rfl
  have waited := locked.extend (.thread true .advance) trivial rfl
  have tested := waited.extend (.thread true .advance) trivial rfl
  have writing := tested.extend (.thread true .advance) trivial rfl
  have written := writing.extend (.thread true .advance) trivial rfl
  have unlocked := written.extend (.thread true .advance) trivial rfl
  have silent := unlocked.extend (.environment 9600 0 true false) trivial rfl
  have closing := silent.extend (.thread false .close) trivial rfl
  have entered := closing.extend (.thread false .advance) trivial rfl
  have unused := entered.extend (.thread false .advance) trivial rfl
  have first := unused.extend (.thread false .advance) trivial rfl
  have alone := first.extend (.thread false .advance) trivial rfl
  have opened := alone.extend (.thread false .advance) trivial rfl
  have dtr := opened.extend (.thread false .advance) trivial rfl
  have dsr := dtr.extend (.thread false .advance) trivial rfl
  have last := dsr.extend (.thread false .advance) trivial rfl
  obtain ⟨notYet, depths⟩ := (nativeClose_excludes_use last).2.1 false rfl
  exact ⟨_, rfl, notYet, depths true⟩

/-- A reader tests `fd`, another thread starts to close the port, and the reader
is in its native call when `nativeClose` is called. -/
theorem nativeClose_during_read :
    ∃ state : Shared Bool, (threads Bool).Reachable state ∧
      state.pc false = .closing .nativeClose ∧ 0 < (state.pc true).depth ∧
      ∃ rest pending, state.pc true = .inNative rest pending := by
  let start : Shared Bool :=
    { fd := 5
      speed := 9600
      threshold := 0
      ioLocked := 0
      closeLock := false
      monThreadisInterrupted := true
      monitorThreadLock := false
      monitor := none
      inputMonitor := none
      pc := fun _ => .idle
      closer := none
      nativeCloses := 0 }
  have fresh : Fresh start := ⟨fun _ => rfl, rfl, rfl, rfl, rfl, rfl⟩
  let reads (steps : Nat) := List.replicate steps (Label.thread true Action.advance)
  let closes (steps : Nat) := List.replicate steps (Label.thread false Action.advance)
  refine ⟨_, System.reachable_of_run (.thread true (.call .read) :: reads 1 ++
    .thread false .close :: closes 8 ++ reads 3) fresh rfl, rfl, by decide, _, _, rfl⟩

end Jrxtx.RXTXPort
