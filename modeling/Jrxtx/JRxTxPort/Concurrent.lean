import Jrxtx.Transition.System

/-!
# Using a serial port while it is closed

Any number of threads in the methods of a `JRxTxPort` and of its two streams, one access
to a field or one delegated call at a time.  `close()` resets the fields before it sets
`closed`, and nothing but `close()` itself is synchronized on the port.  `RXTXPort.close()`
sets `monThreadisInterrupted` some time before it sets `fd` to 0, and the methods of the
wrapped port test the one or the other.  Arguments are valid, the speed of the wrapped port
is not 0, and where its methods get to native code they end as they declare it.
-/

namespace Jrxtx.JRxTxPort.Concurrent

open Jrxtx.Transition

/-- The methods of the output stream. -/
inductive OutputMethod where
  /-- `write(int)` -/
  | writeByte
  /-- `write(byte[])` -/
  | writeArray
  /-- `write(byte[], int, int)` -/
  | writePart
  | flush
  deriving DecidableEq, Repr

/-- What a client calls. -/
inductive Operation where
  /-- `read()` of the input stream -/
  | read
  /-- `available()` of the input stream -/
  | available
  | output (method : OutputMethod)
  /-- `setBaudRate`, `setDataBits`, `setParity` or `setStopBits` -/
  | setParameter
  | setFlowControl
  | setSerialPortTimeout (serialPortTimeout : Int)
  /-- `close()` of the port or of one of its streams -/
  | close
  deriving DecidableEq, Repr

/-- How an operation ends. -/
inductive Result where
  | returned
  /-- returned like `returned`, though the wrapped port has left undone what it was called
  for, because it is being closed or has been closed -/
  | ignored
  /-- an `IOException` of the wrapped port -/
  | ioException
  | serialPortException (message : String)
  | serialPortTimeoutException
  | nullPointerException
  deriving DecidableEq, Repr

/-- The fields that `close()` resets. -/
inductive Field where
  | serial0s
  | serialIs
  | rxtxPort
  deriving DecidableEq, Repr

/-- The calls on an object that a field refers to. -/
inductive Use where
  /-- `rxtxPort.getInputStream()` in `read()` -/
  | read
  /-- `rxtxPort.getInputStream()` in `available()` -/
  | available
  | setSerialPortParams
  | setFlowControlMode
  /-- `this.serial0s.closeStream()` -/
  | closeOutput
  /-- `this.serialIs.closeStream()` -/
  | closeInput
  /-- `rxtxPort.getInputStream()` in `closeStream()` -/
  | inputStream
  /-- `this.rxtxPort.close()` -/
  | closePort
  deriving DecidableEq, Repr

namespace Use

def field : Use → Field
  | .closeOutput => .serial0s
  | .closeInput => .serialIs
  | _ => .rxtxPort

def operation : Use → Operation
  | .read => .read
  | .available => .available
  | .setSerialPortParams => .setParameter
  | .setFlowControlMode => .setFlowControl
  | .closeOutput | .closeInput | .inputStream | .closePort => .close

end Use

/-- The methods of the wrapped port with whose return an operation ends. -/
inductive Method where
  | available
  | output (method : OutputMethod)
  | setSerialPortParams
  | setFlowControlMode
  deriving DecidableEq, Repr

def Method.operation : Method → Operation
  | .available => .available
  | .output method => .output method
  | .setSerialPortParams => .setParameter
  | .setFlowControlMode => .setFlowControl

/-- Where a thread is. -/
inductive Pc where
  | idle
  /-- before the access to the field -/
  | load (use : Use)
  /-- before the call on what the field referred to -/
  | deref (use : Use) (isSet : Bool)
  /-- before `synchronized` of `read()` -/
  | enterRead
  /-- `serialInputStream.available() > 0` -/
  | testAvailable (elapsedTime : Int)
  /-- `serialInputStream.read()` -/
  | readByte
  /-- `Thread.sleep(SLEEP_TIME)` -/
  | sleep (elapsedTime : Int)
  /-- `isClosed()` -/
  | testClosed (elapsedTime : Int)
  /-- `getSerialPortTimeout() == 0` -/
  | testNoTimeout (elapsedTime : Int)
  /-- `elapsedTime <= getSerialPortTimeout()` -/
  | testTimeout (elapsedTime : Int)
  /-- `available()` of the wrapped stream -/
  | countAvailable
  /-- `checkIfOpen()` -/
  | checkIfOpen (method : OutputMethod)
  /-- the call on `serialOutputStream` -/
  | callOutput (method : OutputMethod)
  | assignTimeout (serialPortTimeout : Int)
  /-- before `synchronized` of `close()` -/
  | enterClose
  /-- `if (isClosed()) return` -/
  | testOpen
  /-- `close()` of the wrapped input stream -/
  | closeInputStream
  /-- `fd = 0` in `close()` of the wrapped port -/
  | releaseFd
  /-- the assignment of `null` -/
  | reset (field : Field)
  /-- `this.closed = true` -/
  | setClosed (result : Result)
  | ended (operation : Operation) (result : Result)
  deriving DecidableEq, Repr

/-- The first statement of an operation. -/
def Operation.entry : Operation → Pc
  | .read => .enterRead
  | .available => .load .available
  | .output method => .checkIfOpen method
  | .setParameter => .load .setSerialPortParams
  | .setFlowControl => .load .setFlowControlMode
  | .setSerialPortTimeout serialPortTimeout => .assignTimeout serialPortTimeout
  | .close => .enterClose

/-- The statement after the assignment of `null` to a field. -/
def Field.afterReset : Field → Pc
  | .serial0s => .reset .serialIs
  | .serialIs => .reset .rxtxPort
  | .rxtxPort => .setClosed .returned

/-- What a thread does next. -/
inductive Action where
  | call (operation : Operation)
  /-- the next statement -/
  | advance
  /-- the next statement the other way: some input is available, or the sleep is
  interrupted, or the wait of `RXTXPort.close()` for the input and output of others -/
  | divert
  /-- the delegated call throws `IOException` -/
  | raise
  deriving DecidableEq, Repr

variable {Tid : Type*} [DecidableEq Tid]

/-- A port with its threads: its fields, those of the wrapped port, and the owners of the
monitors of the port and of its input stream. -/
structure State (Tid : Type*) where
  closed : Bool
  isSet : Field → Bool
  serialPortTimeout : Int
  monThreadisInterrupted : Bool
  /-- `fd == 0` -/
  fdIsZero : Bool
  monitor : Option Tid
  inputMonitor : Option Tid
  pc : Tid → Pc

namespace State

variable (state : State Tid) (tid : Tid)

/-- Move one thread to another statement. -/
def goto (pc : Pc) : State Tid :=
  { state with pc := Function.update state.pc tid pc }

/-- End an operation. -/
def finish (operation : Operation) (result : Result) : State Tid :=
  match operation with
  | .read => { state.goto tid (.ended .read result) with inputMonitor := none }
  | .close => { state.goto tid (.ended .close result) with monitor := none }
  | operation => state.goto tid (.ended operation result)

/-- An operation throws; in `close()` the `finally` clause comes first. -/
def throw (operation : Operation) (result : Result) : State Tid :=
  match operation with
  | .close => state.goto tid (.setClosed result)
  | operation => state.finish tid operation result

/-- How a method of the wrapped port ends that has got to native code. -/
def native : Action → Option Result
  | .advance => some .returned
  | .raise => some .ioException
  | _ => none

/-- How it ends that has not. -/
def leave (result : Result) : Action → Option Result
  | .advance => some result
  | _ => none

/-- How a method of the wrapped port ends.  With an `fd` of 0 `setSerialPortParams` sets
those of the standard input. -/
def result : Method → Action → Option Result
  | .available, action | .output .writeByte, action | .output .writeArray, action =>
      if state.monThreadisInterrupted then leave .ignored action else native action
  | .output .writePart, action | .output .flush, action =>
      if state.fdIsZero then leave .ioException action
      else if state.monThreadisInterrupted then leave .ignored action
      else native action
  | .setSerialPortParams, .advance => some (if state.fdIsZero then .ignored else .returned)
  | .setSerialPortParams, .raise => some .ioException
  | .setSerialPortParams, _ => none
  | .setFlowControlMode, action =>
      leave (if state.monThreadisInterrupted then .ignored else .returned) action

/-- A call of the wrapped port with which an operation ends. -/
def callWrapped (method : Method) (action : Action) : Option (State Tid) :=
  (state.result method action).map (state.finish tid method.operation)

/-- A call on the object that a field referred to. -/
def callOn : Use → Action → Option (State Tid)
  | .read, .advance => some (state.goto tid (.testAvailable 0))
  | .available, .advance => some (state.goto tid .countAvailable)
  | .setSerialPortParams, action => state.callWrapped tid .setSerialPortParams action
  | .setFlowControlMode, action => state.callWrapped tid .setFlowControlMode action
  | .closeOutput, .advance => some (state.goto tid (.load .closeInput))
  | .closeOutput, .raise => some (state.throw tid .close .ioException)
  | .closeInput, .advance => some (state.goto tid (.load .inputStream))
  | .inputStream, .advance => some (state.goto tid .closeInputStream)
  | .closePort, .advance =>
      some { state.goto tid .releaseFd with monThreadisInterrupted := true }
  | .closePort, .divert => some (state.goto tid (.reset .serial0s))
  | _, _ => none

/-- One statement of `read()`, from the first use of the wrapped stream on. -/
def stepRead : Pc → Action → Option (State Tid)
  | .testAvailable elapsedTime, .advance => some (state.goto tid (.sleep elapsedTime))
  | .testAvailable _, .divert =>
      if state.monThreadisInterrupted then none else some (state.goto tid .readByte)
  | .testAvailable _, .raise =>
      if state.monThreadisInterrupted then none else some (state.throw tid .read .ioException)
  | .readByte, .advance =>
      if state.fdIsZero then some (state.throw tid .read .ioException)
      else some (state.finish tid .read .returned)
  | .readByte, .raise => some (state.throw tid .read .ioException)
  | .sleep elapsedTime, .advance => some (state.goto tid (.testClosed (elapsedTime + 10)))
  | .sleep elapsedTime, .divert => some (state.goto tid (.testClosed elapsedTime))
  | .testClosed elapsedTime, .advance =>
      if state.closed then
        some (state.throw tid .read (.serialPortException "Serial port has been closed."))
      else some (state.goto tid (.testNoTimeout elapsedTime))
  | .testNoTimeout elapsedTime, .advance =>
      if state.serialPortTimeout = 0 then some (state.goto tid (.testAvailable elapsedTime))
      else some (state.goto tid (.testTimeout elapsedTime))
  | .testTimeout elapsedTime, .advance =>
      if elapsedTime ≤ state.serialPortTimeout then
        some (state.goto tid (.testAvailable elapsedTime))
      else some (state.throw tid .read .serialPortTimeoutException)
  | _, _ => none

/-- One statement of `close()`, but for its calls on fields. -/
def stepClose : Pc → Action → Option (State Tid)
  | .enterClose, .advance =>
      if state.monitor = none then
        some { state.goto tid .testOpen with monitor := some tid }
      else none
  | .testOpen, .advance =>
      if state.closed then some (state.finish tid .close .returned)
      else some (state.goto tid (.load .closeOutput))
  | .closeInputStream, .advance => some (state.goto tid (.load .closePort))
  | .closeInputStream, .raise => some (state.throw tid .close .ioException)
  | .releaseFd, .advance =>
      some { state.goto tid (.reset .serial0s) with fdIsZero := true }
  | .reset field, .advance =>
      some
        { state.goto tid field.afterReset with
          isSet := Function.update state.isSet field false }
  | .setClosed result, .advance =>
      some { state.finish tid .close result with closed := true }
  | _, _ => none

/-- One step of a thread. -/
def step (label : Tid × Action) : Option (State Tid) :=
  let (tid, action) := label
  match state.pc tid, action with
  | .idle, .call operation => some (state.goto tid operation.entry)
  | .ended _ _, .call operation => some (state.goto tid operation.entry)
  | .load use, .advance => some (state.goto tid (.deref use (state.isSet use.field)))
  | .deref use false, .advance =>
      some (state.throw tid use.operation .nullPointerException)
  | .deref use true, action => state.callOn tid use action
  | .enterRead, .advance =>
      if state.inputMonitor = none then
        some { state.goto tid (.load .read) with inputMonitor := some tid }
      else none
  | .countAvailable, action => state.callWrapped tid .available action
  | .checkIfOpen method, .advance =>
      if state.closed then
        some (state.throw tid (.output method) (.serialPortException "Port has been closed."))
      else some (state.goto tid (.callOutput method))
  | .callOutput method, action => state.callWrapped tid (.output method) action
  | .assignTimeout serialPortTimeout, .advance =>
      some
        { state.finish tid (.setSerialPortTimeout serialPortTimeout) .returned with
          serialPortTimeout }
  | pc, action => (state.stepRead tid pc action).or (state.stepClose tid pc action)

end State

/-- An open port that no thread uses yet. -/
structure Fresh (state : State Tid) : Prop where
  closed : state.closed = false
  isSet : ∀ field, state.isSet field = true
  monThreadisInterrupted : state.monThreadisInterrupted = false
  fdIsZero : state.fdIsZero = false
  monitor : state.monitor = none
  inputMonitor : state.inputMonitor = none
  idle : ∀ tid, state.pc tid = .idle

/-- The runs of a port. -/
def port : System (State Tid) (Tid × Action) where
  start := Fresh
  step := State.step

/-- The method of the wrapped port that a thread calls next. -/
def Pc.method : Pc → Option Method
  | .deref .setSerialPortParams true => some .setSerialPortParams
  | .deref .setFlowControlMode true => some .setFlowControlMode
  | .countAvailable => some .available
  | .callOutput method => some (.output method)
  | _ => none

/-- The fields of the wrapped port with which a method returns without doing anything, or
to another file. -/
def State.Disregards (state : State Tid) : Method → Prop
  | .available | .output .writeByte | .output .writeArray | .setFlowControlMode =>
      state.monThreadisInterrupted = true
  | .output .writePart | .output .flush =>
      state.monThreadisInterrupted = true ∧ state.fdIsZero = false
  | .setSerialPortParams => state.fdIsZero = true

/-- A step of any operation but `close()` that loads the field `rxtxPort` finds it not yet
reset, and one that calls a method of the wrapped port comes before the close of that port
makes the method return early, unless it throws. -/
structure InTime (state : State Tid) (label : Tid × Action) : Prop where
  loads : ∀ use, state.pc label.1 = .load use → use.operation ≠ .close →
    state.isSet .rxtxPort = true
  calls : ∀ method, (state.pc label.1).method = some method → label.2 = .advance →
    ¬ state.Disregards method

/-! ## Who may find a field reset -/

/-- Inside the synchronized `close()`. -/
def Pc.inClose : Pc → Bool
  | .load use | .deref use _ => use.operation = .close
  | .testOpen | .closeInputStream | .releaseFd | .reset _ | .setClosed _ => true
  | _ => false

/-- What a thread in `close()` relies on: until it resets them the fields are set. -/
def Pc.Ok (closed : Bool) (isSet : Field → Bool) : Pc → Prop
  | .testOpen => closed = true ∨ ∀ field, isSet field = true
  | .load use | .deref use _ => use.operation = .close → ∀ field, isSet field = true
  | .closeInputStream => ∀ field, isSet field = true
  | _ => True

/-- The fields of an open port are set while no thread is in `close()`. -/
structure CloseInvariant (state : State Tid) : Prop where
  holder : ∀ tid, (state.pc tid).inClose = true → state.monitor = some tid
  unreset : state.monitor = none → state.closed = true ∨ ∀ field, state.isSet field = true
  ok : ∀ tid, (state.pc tid).Ok state.closed state.isSet

section Invariant

variable {state next : State Tid} {tid : Tid} {action : Action} {pc : Pc}

theorem Pc.ok_of_outside (outside : pc.inClose = false) (closed : Bool) (isSet : Field → Bool) :
    pc.Ok closed isSet := by
  cases pc <;> simp_all [Pc.inClose, Pc.Ok]

omit [DecidableEq Tid] in
/-- No other thread is in `close()`. -/
theorem CloseInvariant.alone (held : CloseInvariant state)
    (inClose : (state.pc tid).inClose = true) {other : Tid} (distinct : other ≠ tid) :
    (state.pc other).inClose = false := by
  rw [← Bool.not_eq_true]
  intro inside
  have owner := (held.holder other inside).symm.trans (held.holder tid inClose)
  exact distinct (Option.some.inj owner)

/-- A step that leaves the fields and the monitor of the port alone. -/
theorem CloseInvariant.move (held : CloseInvariant state) (closed : next.closed = state.closed)
    (isSet : next.isSet = state.isSet) (monitor : next.monitor = state.monitor)
    (moved : next.pc = Function.update state.pc tid pc)
    (inside : pc.inClose = true → (state.pc tid).inClose = true)
    (ok : pc.Ok state.closed state.isSet) : CloseInvariant next where
  holder := by
    rw [monitor, moved]
    apply (Function.forall_update_iff state.pc fun other pc =>
      pc.inClose = true → state.monitor = some other).mpr
    constructor
    · exact fun inClose => held.holder tid (inside inClose)
    · exact fun other _ => held.holder other
  unreset := by
    rw [closed, isSet, monitor]
    exact held.unreset
  ok := by
    rw [closed, isSet, moved]
    apply (Function.forall_update_iff state.pc fun _ pc => pc.Ok state.closed state.isSet).mpr
    exact ⟨ok, fun other _ => held.ok other⟩

/-- A step of the thread in `close()`, which may change the fields. -/
theorem CloseInvariant.own (held : CloseInvariant state)
    (inClose : (state.pc tid).inClose = true)
    (moved : next.pc = Function.update state.pc tid pc)
    (monitor : next.monitor = if pc.inClose then some tid else none)
    (unreset : pc.inClose = false → next.closed = true ∨ ∀ field, next.isSet field = true)
    (ok : pc.Ok next.closed next.isSet) : CloseInvariant next where
  holder := by
    rw [moved]
    apply (Function.forall_update_iff state.pc fun other pc =>
      pc.inClose = true → next.monitor = some other).mpr
    constructor
    · intro inside
      rw [monitor, if_pos inside]
    · intro other distinct inside
      simp [held.alone inClose distinct] at inside
  unreset := by
    intro free
    apply unreset
    by_contra inside
    rw [Bool.not_eq_false] at inside
    simp [monitor, inside] at free
  ok := by
    rw [moved]
    apply (Function.forall_update_iff state.pc fun _ pc => pc.Ok next.closed next.isSet).mpr
    constructor
    · exact ok
    · intro other distinct
      exact Pc.ok_of_outside (held.alone inClose distinct) next.closed next.isSet

/-- Entering `close()`. -/
theorem CloseInvariant.enter (held : CloseInvariant state) (free : state.monitor = none) :
    CloseInvariant { state.goto tid .testOpen with monitor := some tid } where
  holder := by
    apply (Function.forall_update_iff state.pc fun other pc =>
      pc.inClose = true → some tid = some other).mpr
    constructor
    · exact fun _ => rfl
    · intro other _ inside
      have owner := held.holder other inside
      simp [free] at owner
  unreset := by simp
  ok := by
    apply (Function.forall_update_iff state.pc fun _ pc => pc.Ok state.closed state.isSet).mpr
    exact ⟨held.unreset free, fun other _ => held.ok other⟩

/-- A step outside of `close()`. -/
theorem CloseInvariant.outside (held : CloseInvariant state) (closed : next.closed = state.closed)
    (isSet : next.isSet = state.isSet) (monitor : next.monitor = state.monitor)
    (moved : next.pc = Function.update state.pc tid pc) (outside : pc.inClose = false) :
    CloseInvariant next :=
  held.move closed isSet monitor moved (fun inside => by simp [outside] at inside)
    (pc.ok_of_outside outside _ _)

theorem callWrapped_eq_some {method : Method}
    (called : state.callWrapped tid method action = some next) :
    ∃ result, state.result method action = some result ∧
      next = state.finish tid method.operation result := by
  obtain ⟨result, ends, rfl⟩ := Option.map_eq_some_iff.mp called
  exact ⟨result, ends, rfl⟩

theorem CloseInvariant.callWrapped (held : CloseInvariant state) {method : Method}
    (called : state.callWrapped tid method action = some next) : CloseInvariant next := by
  obtain ⟨result, -, rfl⟩ := callWrapped_eq_some called
  cases method <;> exact held.outside rfl rfl rfl rfl rfl

theorem CloseInvariant.callOn (held : CloseInvariant state) {use : Use}
    (before : state.pc tid = .deref use true) (stepped : state.callOn tid use action = some next) :
    CloseInvariant next := by
  have inside : use.operation = .close → (state.pc tid).inClose = true := by
    simp [before, Pc.inClose]
  have isSet : use.operation = .close → ∀ field, state.isSet field = true := by
    simpa [before, Pc.Ok] using held.ok tid
  revert stepped
  fun_cases State.callOn state tid use action <;> intro stepped
  case case3 | case4 => exact held.callWrapped stepped
  all_goals
    simp only [Option.some.injEq, reduceCtorEq] at stepped
    try subst stepped
  case case1 | case2 => exact held.outside rfl rfl rfl rfl rfl
  case case8 => exact held.move rfl rfl rfl rfl (fun _ => inside rfl) (isSet rfl)
  case case6 | case9 | case10 => exact held.move rfl rfl rfl rfl (fun _ => inside rfl) trivial
  all_goals exact held.move rfl rfl rfl rfl (fun _ => inside rfl) fun _ => isSet rfl

theorem CloseInvariant.stepRead (held : CloseInvariant state)
    (stepped : state.stepRead tid pc action = some next) : CloseInvariant next := by
  revert stepped
  fun_cases State.stepRead state tid pc action <;> intro stepped <;>
    simp only [Option.some.injEq, reduceCtorEq] at stepped <;> subst stepped <;>
    exact held.outside rfl rfl rfl rfl rfl

theorem CloseInvariant.stepClose (held : CloseInvariant state) (before : state.pc tid = pc)
    (stepped : state.stepClose tid pc action = some next) : CloseInvariant next := by
  have ok := held.ok tid
  rw [before] at ok
  have inside : pc.inClose = true → (state.pc tid).inClose = true := by simp [before]
  revert stepped
  fun_cases State.stepClose state tid pc action <;> intro stepped <;>
    simp only [Option.some.injEq, reduceCtorEq] at stepped <;> subst stepped
  case case1 free => exact held.enter free
  case case3 closed => exact held.own (inside rfl) rfl rfl (fun _ => .inl closed) trivial
  case case4 =>
    have isSet := ok.resolve_left ‹_›
    exact held.move rfl rfl rfl rfl (fun _ => inside rfl) fun _ => isSet
  case case5 => exact held.move rfl rfl rfl rfl (fun _ => inside rfl) fun _ => ok
  case case6 => exact held.move rfl rfl rfl rfl (fun _ => inside rfl) trivial
  case case7 => exact held.move rfl rfl rfl rfl (fun _ => inside rfl) trivial
  case case8 field =>
    cases field <;> exact held.own (inside rfl) rfl (held.holder tid (inside rfl)) nofun trivial
  case case9 => exact held.own (inside rfl) rfl rfl (fun _ => .inl rfl) trivial

theorem Operation.entry_outside (operation : Operation) : operation.entry.inClose = false := by
  cases operation <;> rfl

/-- An operation throws, which in `close()` only a thread inside of it does. -/
theorem CloseInvariant.throw (held : CloseInvariant state) (operation : Operation)
    (result : Result) (inside : operation = .close → (state.pc tid).inClose = true) :
    CloseInvariant (state.throw tid operation result) := by
  cases operation
  case close => exact held.move rfl rfl rfl rfl (fun _ => inside rfl) trivial
  all_goals exact held.outside rfl rfl rfl rfl rfl

theorem CloseInvariant.step {label : Tid × Action} (held : CloseInvariant state)
    (stepped : state.step label = some next) : CloseInvariant next := by
  revert stepped
  fun_cases State.step state label <;> intro stepped
  case case1 operation _ =>
    obtain rfl := Option.some.inj stepped
    exact held.outside rfl rfl rfl rfl operation.entry_outside
  case case2 _ _ operation _ =>
    obtain rfl := Option.some.inj stepped
    exact held.outside rfl rfl rfl rfl operation.entry_outside
  case case3 tid use before =>
    obtain rfl := Option.some.inj stepped
    have ok := held.ok tid
    rw [before] at ok
    exact held.move rfl rfl rfl rfl (by simp [before, Pc.inClose]) ok
  case case4 tid use before =>
    obtain rfl := Option.some.inj stepped
    exact held.throw use.operation _ (by simp [before, Pc.inClose])
  case case5 before => exact held.callOn before stepped
  case case8 => exact held.callWrapped stepped
  case case11 => exact held.callWrapped stepped
  case case13 =>
    rcases Option.or_eq_some_iff.mp stepped with reads | ⟨-, closes⟩
    · exact held.stepRead reads
    · exact held.stepClose rfl closes
  all_goals
    simp only [Option.some.injEq, reduceCtorEq] at stepped
    try subst stepped
    try exact held.outside rfl rfl rfl rfl rfl

/-- What the threads in `close()` rely on holds in every run. -/
theorem closeInvariant_of_reachable (reachable : port.Reachable state) : CloseInvariant state := by
  apply reachable.invariant
  · intro state fresh
    constructor
    · intro tid inside
      simp [fresh.idle tid, Pc.inClose] at inside
    · intro _
      exact .inr fresh.isSet
    · intro tid
      rw [fresh.idle tid]
      trivial
  · intro state label next held stepped
    change state.step label = some next at stepped
    exact held.step stepped

/-! ## How operations end -/

/-- Returned as on an open port, or thrown an `IOException`. -/
def Result.clean : Result → Bool
  | .returned | .ioException | .serialPortException _ | .serialPortTimeoutException => true
  | .ignored | .nullPointerException => false

/-- The thread has a null reference in its hands or an exception to throw that is no
`IOException`, or its last operation has not ended cleanly. -/
def Pc.unclean : Pc → Bool
  | .deref _ isSet => !isSet
  | .setClosed result | .ended _ result => !result.clean
  | _ => false

/-- No thread has. -/
def Clean (state : State Tid) : Prop :=
  ∀ tid, (state.pc tid).unclean = false

theorem Clean.move (clean : Clean state) (moved : next.pc = Function.update state.pc tid pc)
    (fine : pc.unclean = false) : Clean next := by
  unfold Clean
  rw [moved]
  apply (Function.forall_update_iff state.pc fun _ pc => pc.unclean = false).mpr
  exact ⟨fine, fun other _ => clean other⟩

theorem Clean.finish (clean : Clean state) (operation : Operation) {result : Result}
    (fine : result.clean = true) : Clean (state.finish tid operation result) := by
  cases operation <;> exact clean.move rfl (by simpa [Pc.unclean] using fine)

theorem Clean.throw (clean : Clean state) (operation : Operation) {result : Result}
    (fine : result.clean = true) : Clean (state.throw tid operation result) := by
  cases operation <;> exact clean.move rfl (by simpa [Pc.unclean] using fine)

omit [DecidableEq Tid] in
theorem result_advance (state : State Tid) (method : Method) :
    ∃ result, state.result method .advance = some result ∧
      (result.clean = true ↔ ¬ state.Disregards method) ∧
      (result = .ignored ↔ state.Disregards method) := by
  rcases method with _ | (_ | _ | _ | _) | _ | _ <;>
    cases interrupted : state.monThreadisInterrupted <;> cases fd : state.fdIsZero <;>
    simp [State.result, State.leave, State.native, State.Disregards, interrupted, fd,
      Result.clean]

omit [DecidableEq Tid] in
/-- A method of the wrapped port that does not return throws what it declares. -/
theorem result_raise {method : Method} {result : Result} (advances : action ≠ .advance)
    (ends : state.result method action = some result) : result = .ioException := by
  rcases method with _ | (_ | _ | _ | _) | _ | _ <;> cases action <;>
    simp_all [State.result, State.leave, State.native, ite_eq_iff]

theorem Clean.callWrapped (clean : Clean state) {method : Method}
    (called : state.callWrapped tid method action = some next)
    (regards : action = .advance → ¬ state.Disregards method) : Clean next := by
  obtain ⟨result, ends, rfl⟩ := callWrapped_eq_some called
  apply clean.finish
  by_cases advances : action = .advance
  · obtain ⟨expected, returns, fine, -⟩ := result_advance state method
    subst advances
    obtain rfl := Option.some.inj (ends.symm.trans returns)
    exact fine.mpr (regards rfl)
  · rw [result_raise advances ends]
    rfl

theorem Clean.callOn (clean : Clean state) {use : Use} (before : state.pc tid = .deref use true)
    (inTime : InTime state (tid, action))
    (stepped : state.callOn tid use action = some next) : Clean next := by
  revert stepped
  fun_cases State.callOn state tid use action <;> intro stepped
  case case3 | case4 =>
    exact clean.callWrapped stepped (inTime.calls _ (by rw [before]; rfl))
  all_goals
    simp only [Option.some.injEq, reduceCtorEq] at stepped
    try subst stepped
    try exact clean.move rfl rfl

theorem Clean.stepRead (clean : Clean state)
    (stepped : state.stepRead tid pc action = some next) : Clean next := by
  revert stepped
  fun_cases State.stepRead state tid pc action <;> intro stepped <;>
    simp only [Option.some.injEq, reduceCtorEq] at stepped <;> subst stepped <;>
    exact clean.move rfl rfl

theorem Clean.stepClose (clean : Clean state) (before : state.pc tid = pc)
    (stepped : state.stepClose tid pc action = some next) : Clean next := by
  have fine := clean tid
  rw [before] at fine
  revert stepped
  fun_cases State.stepClose state tid pc action <;> intro stepped <;>
    simp only [Option.some.injEq, reduceCtorEq] at stepped <;> subst stepped
  case case8 field => cases field <;> exact clean.move rfl rfl
  case case9 result => exact clean.move rfl fine
  all_goals exact clean.move rfl rfl

theorem Use.field_eq {use : Use} (outside : use.operation ≠ .close) : use.field = .rxtxPort := by
  cases use <;> first | rfl | exact absurd rfl outside

omit [DecidableEq Tid] in
/-- A load in time finds its field set. -/
theorem InTime.isSet (inTime : InTime state (tid, action)) (held : CloseInvariant state)
    {use : Use} (loading : state.pc tid = .load use) : state.isSet use.field = true := by
  by_cases closes : use.operation = .close
  · have ok := held.ok tid
    rw [loading] at ok
    exact ok closes use.field
  · rw [Use.field_eq closes]
    exact inTime.loads use loading closes

/-- A step in time leads neither to a null reference nor to an early return. -/
theorem Clean.step {label : Tid × Action} (clean : Clean state) (held : CloseInvariant state)
    (inTime : InTime state label) (stepped : state.step label = some next) : Clean next := by
  revert stepped inTime
  fun_cases State.step state label <;> intro inTime stepped
  case case1 operation _ =>
    obtain rfl := Option.some.inj stepped
    exact clean.move rfl (by cases operation <;> rfl)
  case case2 _ _ operation _ =>
    obtain rfl := Option.some.inj stepped
    exact clean.move rfl (by cases operation <;> rfl)
  case case3 tid use before =>
    obtain rfl := Option.some.inj stepped
    exact clean.move rfl (by simp [Pc.unclean, inTime.isSet held before])
  case case4 tid use before =>
    have fine := clean tid
    simp [before, Pc.unclean] at fine
  case case5 before => exact clean.callOn before inTime stepped
  case case8 before => exact clean.callWrapped stepped (inTime.calls _ (by rw [before]; rfl))
  case case9 =>
    obtain rfl := Option.some.inj stepped
    exact clean.throw _ rfl
  case case11 before => exact clean.callWrapped stepped (inTime.calls _ (by rw [before]; rfl))
  case case13 =>
    rcases Option.or_eq_some_iff.mp stepped with reads | ⟨-, closes⟩
    · exact clean.stepRead reads
    · exact clean.stepClose rfl closes
  all_goals
    simp only [Option.some.injEq, reduceCtorEq] at stepped
    try subst stepped
    try exact clean.move rfl rfl

theorem clean_of_reachedBy (reached : port.ReachedBy InTime state) : Clean state := by
  induction reached with
  | start fresh =>
      intro tid
      rw [fresh.idle tid]
      rfl
  | step before inTime stepped ih =>
      exact ih.step (closeInvariant_of_reachable before.reachable) inTime stepped

/-- A load of a field that has been reset ends its operation with a `NullPointerException`. -/
theorem load_reset {use : Use} (loading : state.pc tid = .load use)
    (outside : use.operation ≠ .close) (reset : state.isSet .rxtxPort = false) :
    ∃ loaded final, state.step (tid, .advance) = some loaded ∧
      loaded.step (tid, .advance) = some final ∧
        final.pc tid = .ended use.operation .nullPointerException := by
  let loaded := state.goto tid (.deref use false)
  refine ⟨loaded, loaded.throw tid use.operation .nullPointerException, ?_, ?_, ?_⟩
  · simp [State.step, loading, Use.field_eq outside, reset, loaded]
  · simp [State.step, State.goto, loaded]
  · cases use <;> first
      | exact absurd rfl outside
      | simp [State.goto, State.throw, State.finish, Use.operation]

/-- The next statement of a thread that calls a method of the wrapped port is that call. -/
theorem step_method {method : Method} (calling : (state.pc tid).method = some method) :
    state.step (tid, .advance) = state.callWrapped tid method .advance := by
  cases before : state.pc tid with
  | deref use isSet =>
      rw [before] at calling
      cases use <;> cases isSet <;> cases calling <;> simp [State.step, before, State.callOn]
  | countAvailable | callOutput _ =>
      rw [before] at calling
      cases calling
      simp [State.step, before]
  | _ => simp [before, Pc.method] at calling

/-- A method of the wrapped port returns early if and only if its fields make it. -/
theorem step_method_ignored_iff {method : Method} (calling : (state.pc tid).method = some method) :
    (∀ next, state.step (tid, .advance) = some next →
        next.pc tid ≠ .ended method.operation .ignored) ↔ ¬ state.Disregards method := by
  obtain ⟨result, returns, -, ignored⟩ := result_advance state method
  have ended : (state.finish tid method.operation result).pc tid =
      .ended method.operation result := by
    cases method <;> simp [State.finish, State.goto, Method.operation]
  simp only [step_method calling, State.callWrapped, returns, Option.map_some, Option.some.injEq,
    forall_eq', ended, ne_eq, Pc.ended.injEq, true_and, ignored]

/-- A method of the wrapped port throws no `NullPointerException`. -/
theorem callWrapped_not_null {method : Method} {operation : Operation}
    (called : state.callWrapped tid method .advance = some next) :
    next.pc tid ≠ .ended operation .nullPointerException := by
  obtain ⟨result, ends, rfl⟩ := callWrapped_eq_some called
  obtain ⟨expected, returns, clean, ignored⟩ := result_advance state method
  obtain rfl := Option.some.inj (ends.symm.trans returns)
  intro ended
  have null : result = .nullPointerException := by
    cases method <;> simp [State.finish, State.goto, Method.operation] at ended <;> exact ended.2
  subst null
  simp_all [Result.clean]

/-- An object that a field refers to is no null pointer. -/
theorem callOn_not_null {use : Use} {operation : Operation}
    (called : state.callOn tid use .advance = some next) :
    next.pc tid ≠ .ended operation .nullPointerException := by
  cases use with
  | setSerialPortParams | setFlowControlMode => exact callWrapped_not_null called
  | _ =>
      obtain rfl := Option.some.inj called
      simp [State.goto]

end Invariant
/-- In a run whose steps are in time every operation that ends has returned as on an open
port or thrown an `IOException`.  If a thread is about to load a field, then its operation
goes on without a `NullPointerException` exactly if it loads it in time; and if it is about
to call a method of the wrapped port, then it does not return early exactly if it calls it in
time. -/
theorem clean_of_inTime {state : State Tid} (reached : port.ReachedBy InTime state) :
    (∀ tid operation result, state.pc tid = .ended operation result → result.clean = true) ∧
      (∀ tid use, state.pc tid = .load use →
        ((∀ loaded final, state.step (tid, .advance) = some loaded →
            loaded.step (tid, .advance) = some final →
              final.pc tid ≠ .ended use.operation .nullPointerException) ↔
          InTime state (tid, .advance))) ∧
      ∀ tid method, (state.pc tid).method = some method →
        ((∀ next, state.step (tid, .advance) = some next →
            next.pc tid ≠ .ended method.operation .ignored) ↔
          InTime state (tid, .advance)) := by
  refine ⟨?_, ?_, ?_⟩
  · intro tid operation result ended
    have fine := clean_of_reachedBy reached tid
    rw [ended] at fine
    simpa [Pc.unclean] using fine
  · intro tid use loading
    constructor
    · intro goesOn
      refine ⟨?_, by simp [loading, Pc.method]⟩
      intro use' loading' outside
      by_contra reset
      rw [Bool.not_eq_true] at reset
      obtain ⟨loaded, final, loads, calls, ended⟩ := load_reset loading' outside reset
      obtain rfl := Pc.load.inj (loading.symm.trans loading')
      exact goesOn loaded final loads calls ended
    · intro inTime loaded final loads calls ended
      have isSet := inTime.isSet (closeInvariant_of_reachable reached.reachable) loading
      simp only [State.step, loading, Option.some.injEq, isSet] at loads
      subst loads
      have called : (state.goto tid (.deref use true)).callOn tid use .advance = some final := by
        simpa [State.step, State.goto] using calls
      exact callOn_not_null called ended
  · intro tid method calling
    rw [step_method_ignored_iff calling]
    constructor
    · intro regards
      refine ⟨fun use loading => by simp [loading, Pc.method] at calling, ?_⟩
      intro other called _
      obtain rfl := Option.some.inj (calling.symm.trans called)
      exact regards
    · intro inTime
      exact inTime.calls method calling rfl

instance (state : State Tid) : (method : Method) → Decidable (state.Disregards method)
  | .available | .output .writeByte | .output .writeArray | .setFlowControlMode =>
      inferInstanceAs (Decidable (state.monThreadisInterrupted = true))
  | .output .writePart | .output .flush =>
      inferInstanceAs (Decidable (state.monThreadisInterrupted = true ∧ state.fdIsZero = false))
  | .setSerialPortParams => inferInstanceAs (Decidable (state.fdIsZero = true))

instance (state : State Tid) (label : Tid × Action) : Decidable (InTime state label) :=
  decidable_of_iff
    ((match state.pc label.1 with
      | .load use => use.operation = .close || state.isSet .rxtxPort
      | _ => true) = true ∧
      ∀ method ∈ (state.pc label.1).method,
        label.2 = .advance → ¬ state.Disregards method) <| by
    constructor
    · intro ⟨loads, calls⟩
      constructor
      · intro use loading outside
        simpa [loading, outside] using loads
      · exact fun method calling => calls method calling
    · intro inTime
      constructor
      · split
        next use loading =>
          by_cases closes : use.operation = .close
          · simp [closes]
          · simp [inTime.loads use loading closes]
        next => rfl
      · exact fun method calling => inTime.calls method calling

/-- An open port with three threads. -/
def opened : State (Fin 3) where
  closed := false
  isSet := fun _ => true
  serialPortTimeout := 0
  monThreadisInterrupted := false
  fdIsZero := false
  monitor := none
  inputMonitor := none
  pc := fun _ => .idle

theorem fresh_opened : Fresh opened :=
  ⟨rfl, fun _ => rfl, rfl, rfl, rfl, rfl, fun _ => rfl⟩

/-- `close()` up to the end of `RXTXPort.close()`. -/
def closingPort : List (Fin 3 × Action) :=
  (0, .call .close) :: List.replicate 12 (0, .advance)

/-- The rest of `close()`. -/
def resetting : List (Fin 3 × Action) :=
  List.replicate 4 (0, .advance)

/-- A `read()` that the close overtakes while it waits, and a `flush()` that has tested
`closed` before the close and gets to the wrapped port after it. -/
theorem clean_of_inTime_overtaken :
    ∃ state : State (Fin 3), port.ReachedBy InTime state ∧
      state.pc 1 = .ended .read (.serialPortException "Serial port has been closed.") ∧
      (Result.serialPortException "Serial port has been closed.").clean = true ∧
      state.pc 2 = .ended (.output .flush) .ioException ∧ Result.ioException.clean = true := by
  have reached : port.ReachedBy InTime _ :=
    (System.ReachedBy.start fresh_opened).runAllowed
      ((1, .call .read) :: List.replicate 4 (1, .advance) ++
        [(2, .call (.output .flush)), (2, .advance)] ++ closingPort ++ [(2, .advance)] ++
        resetting ++ List.replicate 2 (1, .advance)) rfl
  exact ⟨_, reached, rfl, (clean_of_inTime reached).1 1 .read _ rfl, rfl,
    (clean_of_inTime reached).1 2 (.output .flush) _ rfl⟩

/-- A `read()` of a closed port fails with a `NullPointerException`, and a `write()` that
has tested `closed` before the close and gets to the wrapped port after it returns. -/
theorem read_after_close :
    ∃ state : State (Fin 3), port.Reachable state ∧ state.pc 0 = .ended .close .returned ∧
      state.pc 1 = .ended .read .nullPointerException ∧
      state.pc 2 = .ended (.output .writeByte) .ignored := by
  have reachable : port.Reachable _ := System.reachable_of_run
    ([(2, .call (.output .writeByte)), (2, .advance)] ++ closingPort ++ resetting ++
      (2, .advance) :: (1, .call .read) :: List.replicate 3 (1, .advance))
    fresh_opened rfl
  exact ⟨_, reachable, rfl, rfl, rfl⟩

end Jrxtx.JRxTxPort.Concurrent
