import Jrxtx.Transition.System

/-!
# The streams of a port and its `close()`

Any number of threads in the methods of `SerialOutputStream` and
`SerialInputStream` and in `RXTXPort.close()`, one statement at a time.  A stream
method is a sequence of operations in the order of the source, in which
`IOLocked++ .. try .. finally IOLocked--` encloses a body.  The other methods of
the port act through the environment, which may change the line speed, the
threshold, `monThreadisInterrupted` and `MonitorThreadLock` at any time.
-/

namespace Jrxtx.RXTXPort

open Jrxtx.Transition

/-- The native methods that use the file descriptor. -/
inductive NativeCall where
  | writeByte
  | writeArray
  | nativeDrain
  | readByte
  | readArray
  | readTerminatedArray
  | nativeavailable
  | setDTR
  | setDSR
  | interruptEventLoop
  | nativeClose
  deriving DecidableEq, Repr

/-- A statement of a stream method. -/
inductive Op where
  | returnIfSpeedZero
  | returnIfInterrupted
  | throwIfFdZero
  /-- the checks of the arguments, which throw or return early if they fail -/
  | checkArguments
  /-- `if (threshold == 0) nativeavailable()`, outside of the lock -/
  | availableIfNoThreshold
  | waitForTheNativeCodeSilly
  | native (call : NativeCall)
  deriving DecidableEq, Repr

/-- The statements that a method has yet to execute. -/
inductive Code where
  | done
  | seq (op : Op) (rest : Code)
  /-- `IOLocked++; try { body } finally { IOLocked--; }` -/
  | locked (body rest : Code)
  deriving DecidableEq, Repr

/-- The methods of the two streams that use the file descriptor. -/
inductive StreamMethod where
  | writeInt
  | writeBytes
  | writeRange
  | flush
  | read
  | readBytes
  | readRange
  | readTerminated
  | available
  deriving DecidableEq, Repr

namespace StreamMethod

/-- `read(byte[], int, int)` and its variant with a terminator. -/
def readCode (call : NativeCall) : Code :=
  .seq .throwIfFdZero (.seq .checkArguments (.seq .availableIfNoThreshold
    (.seq .returnIfInterrupted
      (.locked (.seq .waitForTheNativeCodeSilly (.seq (.native call) .done)) .done))))

/-- The statements of a method; debug output has no effect and is left out. -/
def code : StreamMethod → Code
  | .writeInt =>
      .seq .returnIfSpeedZero (.seq .returnIfInterrupted
        (.locked (.seq .waitForTheNativeCodeSilly
          (.seq .throwIfFdZero (.seq (.native .writeByte) .done))) .done))
  | .writeBytes =>
      .seq .returnIfSpeedZero (.seq .returnIfInterrupted (.seq .throwIfFdZero
        (.locked (.seq .waitForTheNativeCodeSilly (.seq (.native .writeArray) .done)) .done)))
  | .writeRange =>
      .seq .returnIfSpeedZero (.seq .checkArguments (.seq .throwIfFdZero
        (.seq .returnIfInterrupted
          (.locked (.seq .waitForTheNativeCodeSilly (.seq (.native .writeArray) .done)) .done))))
  | .flush =>
      .seq .returnIfSpeedZero (.seq .throwIfFdZero (.seq .returnIfInterrupted
        (.locked (.seq .waitForTheNativeCodeSilly (.seq (.native .nativeDrain) .done)) .done)))
  | .read =>
      .seq .throwIfFdZero
        (.locked (.seq .waitForTheNativeCodeSilly (.seq (.native .readByte) .done)) .done)
  | .readBytes =>
      .seq .returnIfInterrupted
        (.locked (.seq .waitForTheNativeCodeSilly (readCode .readArray)) .done)
  | .readRange => readCode .readArray
  | .readTerminated => readCode .readTerminatedArray
  | .available =>
      .seq .returnIfInterrupted (.locked (.seq (.native .nativeavailable) .done) .done)

/-- The method is synchronized on the input stream. -/
def onInputStream : StreamMethod → Bool
  | .writeInt | .writeBytes | .writeRange | .flush => false
  | .read | .readBytes | .readRange | .readTerminated | .available => true

end StreamMethod

/-- The next statement of `close()`, from `synchronized (this)` on. -/
inductive CloseStage where
  | enter
  /-- `while (IOLocked > 0)` -/
  | testIOLocked
  /-- `this.wait(500)` -/
  | waiting
  /-- `if (closeLock) return` -/
  | testCloseLock
  /-- `closeLock = true` and the end of the block -/
  | setCloseLock
  /-- `if (fd <= 0) return` -/
  | testFd
  | setDTR
  | setDSR
  /-- `if (!monThreadisInterrupted)` -/
  | testInterrupted
  /-- `removeEventListener()`: `waitForTheNativeCodeSilly()` -/
  | removeWait
  /-- `removeEventListener()`: the conditions of its `if` statement -/
  | removeTest
  /-- `removeEventListener()`: `monThreadisInterrupted = true` -/
  | removeInterrupt
  | interruptEventLoop
  /-- `monThread.join(3000)` -/
  | join
  /-- the assignments at the end of `removeEventListener()` -/
  | removeDone
  | nativeClose
  /-- `super.close()` -/
  | superClose
  /-- `fd = 0` -/
  | clearFd
  /-- `closeLock = false` -/
  | clearCloseLock
  deriving DecidableEq, Repr

/-- Where a thread is. -/
inductive Pc where
  | idle
  /-- in a stream method; after `current`, each of `pending` follows a decrement -/
  | running (current : Code) (pending : List Code)
  /-- inside a native call of a stream method -/
  | inNative (rest : Code) (pending : List Code)
  | closing (stage : CloseStage)
  deriving DecidableEq, Repr

/-- What a thread does next. -/
inductive Action where
  | call (method : StreamMethod)
  | close
  /-- the next statement -/
  | advance
  /-- the next statement the other way: a check of the arguments fails, a native
  call or `super.close()` throws, `wait` or `join` is interrupted, or the monitor
  thread is not alive -/
  | divert
  deriving DecidableEq, Repr

variable {Tid : Type*} [DecidableEq Tid]

/-- A step of a thread, or of the other methods of the port. -/
inductive Label (Tid : Type*) where
  | thread (tid : Tid) (action : Action)
  | environment (speed threshold : Int) (monThreadisInterrupted monitorThreadLock : Bool)

/-- The port with its threads.  `monitor` and `inputMonitor` are the owners of the
monitors of the port and of its input stream, `closer` is the thread that has set
`closeLock`, and `nativeCloses` counts the calls of `nativeClose`; no step reads
the last two. -/
structure Shared (Tid : Type*) where
  fd : Int
  speed : Int
  threshold : Int
  ioLocked : Int
  closeLock : Bool
  monThreadisInterrupted : Bool
  monitorThreadLock : Bool
  monitor : Option Tid
  inputMonitor : Option Tid
  pc : Tid → Pc
  closer : Option Tid
  nativeCloses : Nat

namespace Shared

variable (state : Shared Tid) (tid : Tid)

/-- Move one thread to another statement. -/
def goto (pc : Pc) : Shared Tid :=
  { state with pc := Function.update state.pc tid pc }

/-- Leave a stream method by `return` or by an exception: only the decrements
are still to come. -/
def leave (pending : List Code) : Shared Tid :=
  state.goto tid (.running .done (pending.map fun _ => .done))

/-- A statement that leaves the method under a condition. -/
def leaveIf (condition : Bool) (rest : Code) (pending : List Code) : Shared Tid :=
  if condition then state.leave tid pending else state.goto tid (.running rest pending)

/-- A statement of a stream method. -/
def stepOp (rest : Code) (pending : List Code) : Op → Action → Option (Shared Tid)
  | .returnIfSpeedZero, .advance => some (state.leaveIf tid (state.speed = 0) rest pending)
  | .returnIfInterrupted, .advance =>
      some (state.leaveIf tid state.monThreadisInterrupted rest pending)
  | .throwIfFdZero, .advance => some (state.leaveIf tid (state.fd = 0) rest pending)
  | .checkArguments, .advance => some (state.goto tid (.running rest pending))
  | .checkArguments, .divert => some (state.leave tid pending)
  | .availableIfNoThreshold, .advance =>
      if state.threshold = 0 then some (state.goto tid (.inNative rest pending))
      else some (state.goto tid (.running rest pending))
  | .waitForTheNativeCodeSilly, .advance =>
      if state.monitorThreadLock then none else some (state.goto tid (.running rest pending))
  | .native _, .advance => some (state.goto tid (.inNative rest pending))
  | _, _ => none

/-- A step of a thread in a stream method. -/
def stepCode : Code → List Code → Action → Option (Shared Tid)
  | .done, [], .advance =>
      some
        { state.goto tid .idle with
          inputMonitor := if state.inputMonitor = some tid then none else state.inputMonitor }
  | .done, rest :: pending, .advance =>
      some { state.goto tid (.running rest pending) with ioLocked := state.ioLocked - 1 }
  | .seq op rest, pending, action => state.stepOp tid rest pending op action
  | .locked body rest, pending, .advance =>
      some { state.goto tid (.running body (rest :: pending)) with ioLocked := state.ioLocked + 1 }
  | _, _, _ => none

/-- A statement of `close()`. -/
def stepClose : CloseStage → Action → Option (Shared Tid)
  | .enter, .advance =>
      if state.monitor = none then
        some { state.goto tid (.closing .testIOLocked) with monitor := some tid }
      else none
  | .testIOLocked, .advance =>
      if 0 < state.ioLocked then
        some { state.goto tid (.closing .waiting) with monitor := none }
      else some (state.goto tid (.closing .testCloseLock))
  | .waiting, .advance =>
      if state.monitor = none then
        some { state.goto tid (.closing .testIOLocked) with monitor := some tid }
      else none
  | .waiting, .divert =>
      if state.monitor = none then some (state.goto tid .idle) else none
  | .testCloseLock, .advance =>
      if state.closeLock then some { state.goto tid .idle with monitor := none }
      else some (state.goto tid (.closing .setCloseLock))
  | .setCloseLock, .advance =>
      some
        { state.goto tid (.closing .testFd) with
          closeLock := true
          monitor := none
          closer := some tid }
  | .testFd, .advance =>
      if state.fd ≤ 0 then some { state.goto tid .idle with closer := none }
      else some (state.goto tid (.closing .setDTR))
  | .setDTR, .advance => some (state.goto tid (.closing .setDSR))
  | .setDSR, .advance => some (state.goto tid (.closing .testInterrupted))
  | .testInterrupted, .advance =>
      if state.monThreadisInterrupted then some (state.goto tid (.closing .nativeClose))
      else some (state.goto tid (.closing .removeWait))
  | .removeWait, .advance =>
      if state.monitorThreadLock then none else some (state.goto tid (.closing .removeTest))
  | .removeTest, .advance =>
      if state.monThreadisInterrupted then some (state.goto tid (.closing .nativeClose))
      else some (state.goto tid (.closing .removeInterrupt))
  | .removeTest, .divert =>
      if state.monThreadisInterrupted then some (state.goto tid (.closing .nativeClose))
      else some (state.goto tid (.closing .removeDone))
  | .removeInterrupt, .advance =>
      some
        { state.goto tid (.closing .interruptEventLoop) with monThreadisInterrupted := true }
  | .interruptEventLoop, .advance => some (state.goto tid (.closing .join))
  | .join, .advance => some (state.goto tid (.closing .removeDone))
  | .join, .divert => some (state.goto tid (.closing .nativeClose))
  | .removeDone, .advance =>
      some
        { state.goto tid (.closing .nativeClose) with
          monThreadisInterrupted := true
          monitorThreadLock := false }
  | .nativeClose, .advance =>
      some { state.goto tid (.closing .superClose) with nativeCloses := state.nativeCloses + 1 }
  | .superClose, .advance => some (state.goto tid (.closing .clearFd))
  | .superClose, .divert => some { state.goto tid .idle with closer := none }
  | .clearFd, .advance => some { state.goto tid (.closing .clearCloseLock) with fd := 0 }
  | .clearCloseLock, .advance =>
      some { state.goto tid .idle with closeLock := false, closer := none }
  | _, _ => none

/-- One step of thread `tid`. -/
def stepThread (action : Action) : Option (Shared Tid) :=
  match state.pc tid, action with
  | .idle, .call method =>
      let entered := state.goto tid (.running method.code [])
      if method.onInputStream then
        if state.inputMonitor = none then some { entered with inputMonitor := some tid } else none
      else some entered
  | .idle, .close => some (state.goto tid (.closing .enter))
  | .running current pending, action => state.stepCode tid current pending action
  | .inNative rest pending, .advance => some (state.goto tid (.running rest pending))
  | .inNative _ pending, .divert => some (state.leave tid pending)
  | .closing stage, action => state.stepClose tid stage action
  | _, _ => none

/-- One step of the whole system. -/
def step : Label Tid → Option (Shared Tid)
  | .thread tid action => state.stepThread tid action
  | .environment speed threshold monThreadisInterrupted monitorThreadLock =>
      some { state with speed, threshold, monThreadisInterrupted, monitorThreadLock }

end Shared

/-- An open port that no thread uses yet. -/
structure Fresh (state : Shared Tid) : Prop where
  idle : ∀ tid, state.pc tid = .idle
  ioLocked : state.ioLocked = 0
  closeLock : state.closeLock = false
  monitor : state.monitor = none
  closer : state.closer = none
  nativeCloses : state.nativeCloses = 0

/-- The threads of one port. -/
def threads (Tid : Type*) [DecidableEq Tid] : System (Shared Tid) (Label Tid) where
  start := Fresh
  step := Shared.step

end Jrxtx.RXTXPort
