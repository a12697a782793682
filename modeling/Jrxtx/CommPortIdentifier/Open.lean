import Jrxtx.CommPortIdentifier.Core
import Jrxtx.Transition.System

/-!
# Opening and closing an identifier from many threads

One `CommPortIdentifier` and any number of client threads that call
`open(TheOwner, i)` and later close the `CommPort` they got.  A program counter
names the next statement of `open()`, `CommPort.close()` or
`internalClosePort()`; a `synchronized (this)` block is one step and so is every
other statement.  The scheduler, the clock, the driver, the listeners and the
registry lookup of `close()` act through the labels.

A listener callback that itself opens or closes a port is the activity of one
more client, so callbacks only have to return or throw here.
-/

namespace Jrxtx.CommPortIdentifier.Open

open Jrxtx.Transition

/-- How the `try` block of `open()` is left: with the value of its `return`
statement or with an exception. -/
inductive Exit where
  | returned (port : Option PortRef)
  | threw
  deriving DecidableEq, Repr

/-- Result of `RXTXDriver.getCommPort(PortName, PortType)`. -/
inductive DriverOutcome where
  | opened
  | null
  | threw
  deriving DecidableEq, Repr

/-- The next statement of a client thread. -/
inductive Pc where
  /-- outside `open()` and `close()`, holding no port -/
  | idle
  /-- first synchronized block of `open()` -/
  | acquire (theOwner : String)
  /-- `fireOwnershipEvent(PORT_OWNERSHIP_REQUESTED)`, at a listener index -/
  | requesting (theOwner : String) (index : Nat)
  /-- second synchronized block, at the test of its `while` loop -/
  | contend (theOwner : String)
  /-- inside `wait(..)`; the flag records a `notifyAll()` since it began -/
  | waiting (theOwner : String) (notified : Bool)
  /-- `throw new PortInUseException(getCurrentOwner())` -/
  | refused
  /-- `if (commport == null)` -/
  | testCommport
  /-- `RXTXDriver.getCommPort(PortName, PortType)` -/
  | getCommPort
  /-- `commport = ..` -/
  | assign (result : Option PortRef)
  /-- `if (commport != null)` -/
  | testOpened
  /-- `fireOwnershipEvent(PORT_OWNED)`, at a listener index -/
  | owned (index : Nat)
  /-- `return commport` -/
  | returning
  /-- `throw new PortInUseException(native_psmisc_report_owner(PortName))` -/
  | reportOwner
  /-- `finally`: `if (commport == null)` -/
  | cleanup (exit : Exit)
  /-- the synchronized block of the `finally` clause -/
  | unown (exit : Exit)
  /-- `open()` has returned this port and the client has not closed it -/
  | holding (port : PortRef)
  /-- `CommPort.close()`: `cp = getPortIdentifier(this)` -/
  | lookup (port : PortRef)
  /-- `CommPort.close()`: the second `getPortIdentifier(this)` -/
  | relookup (port : PortRef)
  /-- synchronized block of `internalClosePort()` -/
  | internalClosePort (port : PortRef)
  /-- `fireOwnershipEvent(PORT_UNOWNED)`, at a listener index -/
  | unowned (index : Nat)
  deriving DecidableEq, Repr

namespace Pc

/-- The effect of `notifyAll()` on a thread. -/
def notify : Pc → Pc
  | .waiting theOwner _ => .waiting theOwner true
  | pc => pc

/-- Where a thread goes on once the `finally` clause is done. -/
def resume : Exit → Pc
  | .returned (some port) => .holding port
  | .returned none => .idle
  | .threw => .idle

/-- The thread is between the block in which its `open()` took the identifier
and the block that gives it up, and has not left with an exception. -/
def owning : Pc → Bool
  | .testCommport | .getCommPort | .assign _ | .testOpened | .owned _
  | .returning | .reportOwner | .cleanup _ | .unown _ | .holding _
  | .lookup _ | .relookup _ | .internalClosePort _ => true
  | .idle | .acquire _ | .requesting _ _ | .contend _ | .waiting _ _ | .refused
  | .unowned _ => false

/-- `open()` has returned a port to the thread, and `internalClosePort()` has
not run for it. -/
def holdsPort : Pc → Bool
  | .holding _ | .lookup _ | .relookup _ | .internalClosePort _ => true
  | _ => false

/-- The statement belongs to `open()`. -/
def inOpen : Pc → Bool
  | .idle | .holding _ | .lookup _ | .relookup _ | .internalClosePort _
  | .unowned _ => false
  | _ => true

theorem owning_of_holdsPort {pc : Pc} (holds : pc.holdsPort = true) :
    pc.owning = true := by
  cases pc <;> simp_all [holdsPort, owning]

@[simp] theorem owning_notify (pc : Pc) : pc.notify.owning = pc.owning := by
  cases pc <;> rfl

end Pc

/-- What a thread does next, with the outcome that its environment chooses. -/
inductive Action where
  /-- the client calls `open(theOwner, i)` -/
  | call (theOwner : String)
  /-- the next statement, where the state alone determines its effect -/
  | advance
  /-- the next listener's `ownershipChange` returns or throws -/
  | callback (throws : Bool)
  /-- the loop test; `expired` if the time is over or `wait` was interrupted -/
  | loopTest (expired : Bool)
  /-- `wait(..)` ends: notified, timed out, interrupted or spuriously -/
  | wake
  /-- the driver's answer -/
  | driver (outcome : DriverOutcome)
  /-- the client calls `close()` on its port -/
  | close
  /-- a search of the port registry, which lists this identifier or does not -/
  | lookup (listed : Bool)
  deriving DecidableEq, Repr

variable {Tid : Type*} [DecidableEq Tid]

/-- A step of a thread, or a change of the listener vector by anybody. -/
inductive Label (Tid : Type*) where
  | thread (tid : Tid) (action : Action)
  | addPortOwnershipListener (c : ListenerRef)
  | removePortOwnershipListener (c : ListenerRef)

/-- The identifier, the threads, and `holder`: the thread whose `open()` last
took the identifier, if it has not been given up since.  No step reads `holder`. -/
structure State (Tid : Type*) where
  ident : CommPortIdentifier
  pc : Tid → Pc
  freshPort : PortRef
  holder : Option Tid

namespace State

variable (state : State Tid) (tid : Tid)

/-- Move one thread to another statement. -/
def goto (pc : Pc) : State Tid :=
  { state with pc := Function.update state.pc tid pc }

/-- Take the identifier, inside a synchronized block of `open()`. -/
def take (theOwner : String) : State Tid :=
  { state with
    ident := state.ident.assumeOwnership theOwner
    pc := Function.update state.pc tid .testCommport
    holder := some tid }

/-- One round of the loop in `fireOwnershipEvent`, which walks the live vector
by index.  An exception leaves the walk, and so does an index past the end. -/
def fire (index : Nat) (following : Nat → Pc) (done aborted : Pc) :
    Action → Option (State Tid)
  | .callback true => some (state.goto tid aborted)
  | .callback false =>
      if index < state.ident.listeners.length then
        some (state.goto tid (following (index + 1)))
      else none
  | .advance =>
      if index < state.ident.listeners.length then none
      else some (state.goto tid done)
  | _ => none

/-- One step of thread `tid`. -/
def stepThread (action : Action) : Option (State Tid) :=
  match state.pc tid, action with
  | .idle, .call theOwner => some (state.goto tid (.acquire theOwner))
  | .acquire theOwner, .advance =>
      if state.ident.available then some (state.take tid theOwner)
      else some (state.goto tid (.requesting theOwner 0))
  | .requesting theOwner index, action =>
      state.fire tid index (.requesting theOwner) (.contend theOwner) .idle action
  | .contend theOwner, .loopTest expired =>
      if state.ident.available then some (state.take tid theOwner)
      else if expired then some (state.goto tid .refused)
      else some (state.goto tid (.waiting theOwner false))
  | .waiting theOwner _, .wake => some (state.goto tid (.contend theOwner))
  | .refused, .advance => some (state.goto tid .idle)
  | .testCommport, .advance =>
      if state.ident.commport = none then some (state.goto tid .getCommPort)
      else some (state.goto tid .testOpened)
  | .getCommPort, .driver .opened =>
      some { state.goto tid (.assign (some state.freshPort)) with
        freshPort := state.freshPort + 1 }
  | .getCommPort, .driver .null => some (state.goto tid (.assign none))
  | .getCommPort, .driver .threw => some (state.goto tid (.cleanup .threw))
  | .assign result, .advance =>
      some { state.goto tid .testOpened with
        ident := { state.ident with commport := result } }
  | .testOpened, .advance =>
      if state.ident.commport = none then some (state.goto tid .reportOwner)
      else some (state.goto tid (.owned 0))
  | .owned index, action =>
      state.fire tid index .owned .returning (.cleanup .threw) action
  | .returning, .advance =>
      some (state.goto tid (.cleanup (.returned state.ident.commport)))
  | .reportOwner, .advance => some (state.goto tid (.cleanup .threw))
  | .cleanup exit, .advance =>
      if state.ident.commport = none then some (state.goto tid (.unown exit))
      else some (state.goto tid (Pc.resume exit))
  | .unown exit, .advance =>
      some { state.goto tid (Pc.resume exit) with
        ident := state.ident.unown
        holder := none }
  | .holding port, .close => some (state.goto tid (.lookup port))
  | .lookup port, .lookup listed =>
      if listed ∧ state.ident.commport = some port then
        some (state.goto tid (.relookup port))
      else some (state.goto tid .idle)
  | .relookup port, .lookup listed =>
      if listed ∧ state.ident.commport = some port then
        some (state.goto tid (.internalClosePort port))
      else some (state.goto tid .idle)
  | .internalClosePort _, .advance =>
      some { state with
        ident := state.ident.releasePort
        pc := Function.update (fun other => (state.pc other).notify) tid (.unowned 0)
        holder := none }
  | .unowned index, action =>
      state.fire tid index .unowned .idle .idle action
  | _, _ => none

/-- One step of the whole system. -/
def step : Label Tid → Option (State Tid)
  | .thread tid action => state.stepThread tid action
  | .addPortOwnershipListener c =>
      some { state with ident := state.ident.addPortOwnershipListener c }
  | .removePortOwnershipListener c =>
      some { state with ident := state.ident.removePortOwnershipListener c }

end State

/-- A new identifier, no thread inside `open()` or `close()`. -/
structure Initial (state : State Tid) : Prop where
  available : state.ident.available = true
  owner : state.ident.owner = none
  commport : state.ident.commport = none
  idle : ∀ tid, state.pc tid = .idle
  holder : state.holder = none

/-- The identifier as `addPortName` creates it, before any client uses it. -/
def State.initial (pn : String) (pt : Int) (driver : DriverRef) : State Tid where
  ident := .new pn none pt driver
  pc := fun _ => .idle
  freshPort := 0
  holder := none

omit [DecidableEq Tid] in
theorem initial_initial (pn : String) (pt : Int) (driver : DriverRef) :
    Initial (State.initial pn pt driver : State Tid) :=
  ⟨rfl, rfl, rfl, fun _ => rfl, rfl⟩

/-- The clients of one identifier as a transition system. -/
def clients (Tid : Type*) [DecidableEq Tid] : System (State Tid) (Label Tid) where
  start := Initial
  step := State.step

end Jrxtx.CommPortIdentifier.Open
