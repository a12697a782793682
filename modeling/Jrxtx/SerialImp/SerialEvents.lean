import Jrxtx.RXTXPort.Listener
import Mathlib.Data.BitVec
import Mathlib.Data.List.Basic

/-!
# The events of the event loop

`report_serial_events` and the functions that it calls, in the loop of `eventLoop`.
The outcomes of the system calls are given for each round of the loop, and so are
the event flags as `nativeSetEventFlag` has left them.
-/

namespace Jrxtx.SerialImp.SerialEvents

/-- The counters of `struct serial_icounter_struct` that are reported: `int`s that wrap
around. -/
structure Counters where
  frame : BitVec 32
  overrun : BitVec 32
  parity : BitVec 32
  brk : BitVec 32
  deriving DecidableEq, Repr

/-- A call of the Java method `sendEvent`. -/
structure SentEvent where
  type : SerialEvent
  state : Bool
  deriving DecidableEq, Repr

/-- `struct event_info_struct`, as far as events depend on it. -/
structure EventInfoStruct where
  eventflags : SerialEvent → Bool
  initialised : Bool
  change : BitVec 32
  omflags : BitVec 32
  hasTiocsergetlsr : Bool
  hasTiocgicount : Bool
  eventloopInterrupted : Int
  /-- `jclazz` is not `NULL` -/
  jclazz : Bool
  closing : Bool
  osis : Counters

/-- The outcomes of the calls in `initialise_event_info_struct`; `none` if one fails. -/
structure InitCalls where
  tiocsergetlsr : Bool
  tiocgicount : Option Counters
  tiocmget : Option (BitVec 32)
  /-- the method `sendEvent` is found -/
  sendEvent : Bool

/-- A round of the event loop: the outcomes of the calls, and what other threads do. -/
structure Poll where
  /-- what the last `SELECT` returns; it is repeated after `EINTR` -/
  ret : Int
  eventflags : SerialEvent → Bool
  /-- `fstat` succeeds -/
  fstat : Bool
  tiocsergetlsr : Option (BitVec 32)
  tiocgicount : Option Counters
  tiocmget : Option (BitVec 32)
  /-- `change` after `FIONREAD`, which nothing checks -/
  fionread : BitVec 32
  initialise : InitCalls
  /-- `interruptEventLoop` is called before the next round -/
  interrupt : Bool

/-- A loop that steps a counter passes every value within so many rounds. -/
def rounds : Nat := 2 ^ 32

namespace EventInfoStruct

variable (eis : EventInfoStruct)

/-- `send_event` -/
def sendEvent (type : SerialEvent) (flag : Int) : List SentEvent :=
  if eis.eventloopInterrupted > 1 then []
  else if !eis.jclazz then []
  else [⟨type, decide (flag > 0)⟩]

/-- `check_line_status_register`: whether it returns 1, and the events. -/
def checkLineStatusRegister (poll : Poll) : Bool × EventInfoStruct × List SentEvent :=
  if !eis.eventflags .outputBufferEmpty then (false, eis, [])
  else if !poll.fstat then (true, eis, [])
  else
    match poll.tiocsergetlsr with
    | none => (true, eis, [])
    | some change =>
        let eis := { eis with change }
        (false, eis, if change ≠ 0 then eis.sendEvent .outputBufferEmpty 1 else [])

/-- `while (sis.x != eis->osis.x) { send_event(eis, type, 1); eis->osis.x++; }`: the
events; `none` if the rounds do not suffice. -/
def sendUntil (type : SerialEvent) (target : BitVec 32) :
    Nat → BitVec 32 → Option (List SentEvent)
  | 0, _ => none
  | rounds + 1, counter =>
      if target ≠ counter then do
        let sent ← sendUntil type target rounds (counter + 1)
        some (eis.sendEvent type 1 ++ sent)
      else some []

/-- `check_cgi_count` -/
def checkCgiCount (poll : Poll) : Option (EventInfoStruct × List SentEvent) :=
  match poll.tiocgicount with
  | none => some (eis, [])
  | some sis => do
      let framing ← eis.sendUntil .fe sis.frame rounds eis.osis.frame
      let overruns ← eis.sendUntil .oe sis.overrun rounds eis.osis.overrun
      let parity ← eis.sendUntil .pe sis.parity rounds eis.osis.parity
      let breaks ← eis.sendUntil .bi sis.brk rounds eis.osis.brk
      some ({ eis with osis := sis }, framing ++ overruns ++ parity ++ breaks)

/-- An event if the bit of a modem line differs from that of the last sample. -/
def checkLine (mflags line : BitVec 32) (type : SerialEvent) : List SentEvent :=
  let change := ((mflags &&& line) - (eis.omflags &&& line)).toInt
  if change ≠ 0 then eis.sendEvent type change else []

/-- `check_tiocmget_changes`, with `TIOCM_CTS`, `TIOCM_DSR`, `TIOCM_RNG` and `TIOCM_CD` -/
def checkTiocmgetChanges (poll : Poll) : EventInfoStruct × List SentEvent :=
  match poll.tiocmget with
  | none => (eis, [])
  | some mflags =>
      ({ eis with omflags := mflags },
        eis.checkLine mflags 0x020 .cts ++ eis.checkLine mflags 0x100 .dsr ++
          eis.checkLine mflags 0x080 .ri ++ eis.checkLine mflags 0x040 .cd)

/-- The last part of `report_serial_events`: `port_has_changed_fionread`. -/
def checkDataAvailable (poll : Poll) : List SentEvent :=
  if poll.fionread ≠ 0 then
    if !eis.eventflags .dataAvailable then [] else eis.sendEvent .dataAvailable 1
  else []

/-- `report_serial_events` -/
def reportSerialEvents (poll : Poll) : Option (EventInfoStruct × List SentEvent) :=
  let (fails, eis, empty) := eis.checkLineStatusRegister poll
  if fails then some (eis, empty)
  else do
    let (eis, errors) ← (if eis.hasTiocgicount then eis.checkCgiCount poll else some (eis, []))
    let (eis, lines) := eis.checkTiocmgetChanges poll
    some (eis, empty ++ errors ++ lines ++ eis.checkDataAvailable poll)

/-- `driver_has_tiocgicount` -/
def driverHasTiocgicount (calls : InitCalls) : EventInfoStruct :=
  match calls.tiocgicount with
  | none => { eis with hasTiocgicount := false }
  | some osis => { eis with hasTiocgicount := true, osis }

/-- `initialise_event_info_struct`: whether it succeeds.  If `TIOCMGET` fails, `omflags`
keeps what it was. -/
def initialise (calls : InitCalls) : Bool × EventInfoStruct :=
  if eis.initialised then (true, eis)
  else
    let eis := { eis with
      osis := ⟨0, 0, 0, 0⟩
      eventflags := fun _ => false
      eventloopInterrupted := 0
      closing := false
      hasTiocsergetlsr := calls.tiocsergetlsr }
    let eis := eis.driverHasTiocgicount calls
    let eis := { eis with omflags := calls.tiocmget.getD eis.omflags }
    if calls.sendEvent then (true, { eis with initialised := true }) else (false, eis)

/-- What `interruptEventLoop` writes. -/
def interruptEventLoop : EventInfoStruct :=
  { eis with eventloopInterrupted := 1, closing := true }

/-- One round of the loop. -/
def round (poll : Poll) : Option (EventInfoStruct × List SentEvent) := do
  let eis := { eis with eventflags := poll.eventflags }
  let (eis, sent) ← (if poll.ret ≥ 0 then eis.reportSerialEvents poll else some (eis, []))
  let (_, eis) := eis.initialise poll.initialise
  some (if poll.interrupt then eis.interruptEventLoop else eis, sent)

/-- The loop of `eventLoop`, for the rounds given. -/
def loop : EventInfoStruct → List Poll → Option (EventInfoStruct × List SentEvent)
  | eis, [] => some (eis, [])
  | eis, poll :: polls =>
      if eis.closing then some (eis, [])
      else do
        let (eis, sent) ← eis.round poll
        let (eis, later) ← eis.loop polls
        some (eis, sent ++ later)

/-- `eventLoop` up to its loop, with whatever the stack holds; `none` if it bails out. -/
def enter (calls : InitCalls) : Option EventInfoStruct :=
  match { eis with jclazz := true, initialised := false }.initialise calls with
  | (true, eis) => some eis
  | (false, _) => none

end EventInfoStruct

end Jrxtx.SerialImp.SerialEvents
