import Jrxtx.CommPortIdentifier.Core

/-!
# The event listener of a port

The fields of `gnu.io.RXTXPort` that the event listener, the monitor thread and
the output stream share, and the methods that manage the listener.  The calls of
one thread follow one another; the monitor thread and `interrupt()` act through
arguments.  `none` says that a call never returns: with `MonitorThreadLock` set
and no event loop left to clear it, `waitForTheNativeCodeSilly` waits forever.
-/

namespace Jrxtx

/-- Event types of `SerialPortEvent`. -/
inductive SerialEvent where
  | dataAvailable
  | outputBufferEmpty
  | cts
  | dsr
  | ri
  | cd
  | oe
  | pe
  | fe
  | bi
  deriving DecidableEq, Repr

/-- The `MonitorThread`: whether it runs, and its flag for each event type. -/
structure MonitorThread where
  alive : Bool := true
  enabled : SerialEvent → Bool := fun _ => false

/-- The fields of `RXTXPort`; `none` is `null`. -/
structure RXTXPort where
  fd : Int
  speed : Int := 9600
  monThreadisInterrupted : Bool := true
  spEventListener : Option ListenerRef := none
  monThread : Option MonitorThread := none
  monitorThreadLock : Bool := true
  monitorThreadAlive : Bool := false

namespace RXTXPort

/-- What a call ends with. -/
inductive CallResult where
  | returned
  | tooManyListenersException
  | nullPointerException
  | ioException
  | indexOutOfBoundsException
  | negativeArraySizeException
  deriving DecidableEq, Repr

/-- `new MonitorThread()`, `start()` and the wait for its event loop.  The thread
clears `monThreadisInterrupted`, and the loop clears `MonitorThreadLock` unless
it fails to start. -/
def startMonitorThread (self : RXTXPort) (loopStarts : Bool) : Option RXTXPort :=
  if loopStarts then
    some
      { self with
        monThread := some {}
        monThreadisInterrupted := false
        monitorThreadLock := false
        monitorThreadAlive := true }
  else none

/-- The constructor, once the device has been opened. -/
def new (fd : Int) (loopStarts : Bool) : Option RXTXPort :=
  startMonitorThread { fd } loopStarts

def addEventListener (self : RXTXPort) (lsnr : Option ListenerRef) (loopStarts : Bool) :
    Option (RXTXPort × CallResult) :=
  if self.spEventListener.isSome then some (self, .tooManyListenersException)
  else
    let self := { self with spEventListener := lsnr }
    if self.monitorThreadAlive then some (self, .returned)
    else (self.startMonitorThread loopStarts).map (·, .returned)

/-- `interrupted` says that `monThread.join(3000)` is interrupted. -/
def removeEventListener (self : RXTXPort) (interrupted : Bool) : Option RXTXPort :=
  if self.monitorThreadLock then none
  else if self.monThreadisInterrupted then
    some { self with monThread := none, spEventListener := none }
  else if self.monThread.any MonitorThread.alive ∧ interrupted then
    some { self with monThreadisInterrupted := true }
  else
    some
      { self with
        monThread := none
        spEventListener := none
        monitorThreadLock := false
        monitorThreadAlive := false
        monThreadisInterrupted := true }

/-- The body of the `notifyOn` methods.  Without a monitor thread the exception
leaves `MonitorThreadLock` set. -/
def notifyOn (self : RXTXPort) (event : SerialEvent) (enable : Bool) :
    Option (RXTXPort × CallResult) :=
  if self.monitorThreadLock then none
  else
    match self.monThread with
    | none => some ({ self with monitorThreadLock := true }, .nullPointerException)
    | some thread =>
        let enabled := Function.update thread.enabled event enable
        some ({ self with monThread := some { thread with enabled } }, .returned)

def notifyOnDataAvailable (self : RXTXPort) := self.notifyOn .dataAvailable

def notifyOnOutputEmpty (self : RXTXPort) := self.notifyOn .outputBufferEmpty

def notifyOnCTS (self : RXTXPort) := self.notifyOn .cts

def notifyOnDSR (self : RXTXPort) := self.notifyOn .dsr

def notifyOnRingIndicator (self : RXTXPort) := self.notifyOn .ri

def notifyOnCarrierDetect (self : RXTXPort) := self.notifyOn .cd

def notifyOnOverrunError (self : RXTXPort) := self.notifyOn .oe

def notifyOnParityError (self : RXTXPort) := self.notifyOn .pe

def notifyOnFramingError (self : RXTXPort) := self.notifyOn .fe

def notifyOnBreakInterrupt (self : RXTXPort) := self.notifyOn .bi

/-- The event loop of the monitor thread has ended, and with it the thread. -/
def monitorExits (self : RXTXPort) : RXTXPort :=
  { self with monThread := self.monThread.map fun thread => { thread with alive := false } }

/-- The descriptor and the line speed are what they were. -/
structure SameDevice (before after : RXTXPort) : Prop where
  fd : after.fd = before.fd
  speed : after.speed = before.speed

section Device

variable {self after : RXTXPort} {result : CallResult}

theorem SameDevice.startMonitorThread {loopStarts : Bool}
    (started : self.startMonitorThread loopStarts = some after) : SameDevice self after := by
  cases loopStarts with
  | false => simp [RXTXPort.startMonitorThread] at started
  | true =>
      simp only [RXTXPort.startMonitorThread, if_true, Option.some.injEq] at started
      subst started
      exact ⟨rfl, rfl⟩

theorem SameDevice.addEventListener {lsnr : Option ListenerRef} {loopStarts : Bool}
    (added : self.addEventListener lsnr loopStarts = some (after, result)) :
    SameDevice self after := by
  simp only [RXTXPort.addEventListener] at added
  split at added
  next =>
    simp only [Option.some.injEq, Prod.mk.injEq] at added
    exact added.1 ▸ ⟨rfl, rfl⟩
  next =>
    split at added
    next =>
      simp only [Option.some.injEq, Prod.mk.injEq] at added
      exact added.1 ▸ ⟨rfl, rfl⟩
    next =>
      cases started : ({ self with spEventListener := lsnr } : RXTXPort).startMonitorThread
          loopStarts with
      | none => simp [started] at added
      | some running =>
          simp only [started, Option.map_some, Option.some.injEq, Prod.mk.injEq] at added
          have same := SameDevice.startMonitorThread started
          exact added.1 ▸ ⟨same.fd, same.speed⟩

theorem SameDevice.removeEventListener {interrupted : Bool}
    (removed : self.removeEventListener interrupted = some after) : SameDevice self after := by
  simp only [RXTXPort.removeEventListener] at removed
  split at removed
  next => simp at removed
  next =>
    split at removed
    next => exact Option.some.inj removed ▸ ⟨rfl, rfl⟩
    next =>
      split at removed
      next => exact Option.some.inj removed ▸ ⟨rfl, rfl⟩
      next => exact Option.some.inj removed ▸ ⟨rfl, rfl⟩

theorem SameDevice.notifyOn {event : SerialEvent} {enable : Bool}
    (notified : self.notifyOn event enable = some (after, result)) : SameDevice self after := by
  simp only [RXTXPort.notifyOn] at notified
  split at notified
  next => simp at notified
  next =>
    split at notified
    next =>
      simp only [Option.some.injEq, Prod.mk.injEq] at notified
      exact notified.1 ▸ ⟨rfl, rfl⟩
    next =>
      simp only [Option.some.injEq, Prod.mk.injEq] at notified
      exact notified.1 ▸ ⟨rfl, rfl⟩

end Device

end RXTXPort

end Jrxtx
