import Jrxtx.SerialImp.ReportedEvents
import Jrxtx.Transition.System

/-!
# The events of a Windows port

`ClearErrors` counts the errors that `ClearCommError` finds, in whichever function it is called;
the `ioctl` of `termios.c` calls it before it answers the requests of the event loop.  The event
loop samples the counters, and the flag `tx_happened` that writes leave, with these requests.
Other threads use the port between the requests of a round.  A call of `ClearErrors` is one step.
-/

namespace Jrxtx.Termios

open Jrxtx.SerialImp.SerialEvents Jrxtx.Transition

/-- What `ClearCommError` finds: flags of `ErrCode`, and the queues of `COMSTAT`. -/
structure CommError where
  frame : Bool := false
  overrun : Bool := false
  rxOver : Bool := false
  rxParity : Bool := false
  brk : Bool := false
  cbInQue : BitVec 32 := 0
  cbOutQue : BitVec 32 := 0
  deriving DecidableEq, Repr

/-- The error is counted; the code for overruns is not compiled. -/
def CommError.counts (error : CommError) : ErrorKind → Bool
  | .framing => error.frame
  | .overrun => false
  | .parity => error.rxParity
  | .brk => error.brk

/-- The entry of a port in `termios_list`, with what has happened to it. -/
structure CommPort where
  sis : Counters
  txHappened : Bool
  /-- what `ClearCommError` has found since the event loop was entered -/
  cleared : List CommError
  /-- what it had found when the counters were sampled last -/
  sampled : List CommError
  /-- how often `tx_happened` has been set -/
  marks : Nat
  /-- and how often it had been whenever it was found set -/
  emptied : List Nat

/-- `counter++`, if the error is counted. -/
def stepCounter (counter : BitVec 32) (counted : Bool) : BitVec 32 :=
  if counted then counter + 1 else counter

/-- What other functions do to the port. -/
inductive CommCall where
  | clearErrors (found : Option CommError)
  /-- at the end of `serial_write`, and twice in `tcflush` -/
  | txHappened

namespace CommPort

variable (port : CommPort)

/-- `ClearErrors`; `none` if `ClearCommError` fails. -/
def clearErrors : Option CommError → CommPort
  | none => port
  | some error =>
      { port with
        sis :=
          ⟨stepCounter port.sis.frame (error.counts .framing),
            stepCounter port.sis.overrun (error.counts .overrun),
            stepCounter port.sis.parity (error.counts .parity),
            stepCounter port.sis.brk (error.counts .brk)⟩
        cleared := port.cleared ++ [error] }

def perform : CommCall → CommPort
  | .clearErrors found => port.clearErrors found
  | .txHappened => { port with txHappened := true, marks := port.marks + 1 }

def performAll (calls : List CommCall) : CommPort :=
  calls.foldl perform port

/-- `ioctl` and a request that calls `ClearErrors` once more: the port, and the last `COMSTAT`
unless a call fails. -/
def clearTwice (first second : Option CommError) : CommPort × Option CommError :=
  if first.isNone then (port, none)
  else ((port.clearErrors first).clearErrors second, second)

/-- `ioctl(TIOCSERGETLSR)` -/
def tiocsergetlsr (first second : Option CommError) : CommPort × Option (BitVec 32) :=
  match port.clearTwice first second with
  | (port, none) => (port, none)
  | (port, some stat) =>
      if stat.cbOutQue = 0 then
        if port.txHappened then
          ({ port with txHappened := false, emptied := port.emptied ++ [port.marks] }, some 1)
        else (port, some 0)
      else (port, some 0)

/-- `ioctl(TIOCGICOUNT)` -/
def tiocgicount (first second : Option CommError) : CommPort × Option Counters :=
  match port.clearTwice first second with
  | (port, none) => (port, none)
  | (port, some _) => ({ port with sampled := port.cleared }, some port.sis)

/-- `ioctl(TIOCMGET)`, with the lines as they are read -/
def tiocmget (first : Option CommError) (mflags : BitVec 32) : CommPort × Option (BitVec 32) :=
  (port.clearErrors first, first.map fun _ => mflags)

/-- `ioctl(FIONREAD)`; `change` keeps what it holds if the request fails. -/
def fionread (first second : Option CommError) (change : BitVec 32) : CommPort × BitVec 32 :=
  match port.clearTwice first second with
  | (port, none) => (port, change)
  | (port, some stat) => (port, stat.cbInQue)

end CommPort

/-- A round of requests of the event loop: the results of `ClearCommError` for each request, and
what other threads do to the port before it. -/
structure RoundCalls where
  tiocsergetlsr : Option CommError × Option CommError
  beforeTiocgicount : List CommCall
  tiocgicount : Option CommError × Option CommError
  beforeTiocmget : List CommCall
  tiocmget : Option CommError
  /-- the modem lines -/
  mflags : BitVec 32
  beforeFionread : List CommCall
  fionread : Option CommError × Option CommError
  /-- what `change` holds before `FIONREAD` -/
  change : BitVec 32

namespace CommPort

variable (port : CommPort) (calls : RoundCalls)

/-- The request of `check_line_status_register`, unless its event is not asked for. -/
def answerLsr (asked : Bool) : CommPort × Option (BitVec 32) :=
  if asked then port.tiocsergetlsr calls.tiocsergetlsr.1 calls.tiocsergetlsr.2 else (port, none)

/-- The request of `check_cgi_count`, if the driver has it. -/
def answerCounters (has : Bool) : CommPort × Option Counters :=
  let port := port.performAll calls.beforeTiocgicount
  if has then port.tiocgicount calls.tiocgicount.1 calls.tiocgicount.2 else (port, none)

/-- The request of `check_tiocmget_changes`. -/
def answerLines : CommPort × Option (BitVec 32) :=
  (port.performAll calls.beforeTiocmget).tiocmget calls.tiocmget calls.mflags

/-- The request of `port_has_changed_fionread`. -/
def answerFionread : CommPort × BitVec 32 :=
  (port.performAll calls.beforeFionread).fionread calls.fionread.1 calls.fionread.2 calls.change

/-- The answers to the requests of `report_serial_events`, which returns early if the first one
is made and fails. -/
def answer (eis : EventInfoStruct) : CommPort × Poll :=
  let (port, lsr) := port.answerLsr calls (eis.eventflags .outputBufferEmpty)
  let poll : Poll :=
    { ret := 1
      eventflags := eis.eventflags
      fstat := true
      tiocsergetlsr := lsr
      tiocgicount := none
      tiocmget := none
      fionread := 0
      initialise := ⟨false, none, none, false⟩
      interrupt := false }
  if poll.lineStatusFails then (port, poll)
  else
    let (port, tiocgicount) := port.answerCounters calls eis.hasTiocgicount
    let (port, tiocmget) := port.answerLines calls
    let (port, fionread) := port.answerFionread calls
    (port, { poll with tiocgicount, tiocmget, fionread })

end CommPort

/-- A port with its event loop, and the events. -/
structure PortEvents where
  port : CommPort
  eis : EventInfoStruct
  /-- how many polls for received data are left, if the loop has found that it is not `closing` -/
  polls : Option Nat
  sent : List SentEvent

inductive PortEventsLabel where
  | call (call : CommCall)
  | nativeSetEventFlag (event : SerialEvent) (flag : Bool)
  | interruptEventLoop
  /-- the check of `closing` -/
  | check
  /-- a poll for received data; `change` is what it holds before `FIONREAD` -/
  | poll (first second : Option CommError) (change : BitVec 32)
  | round (calls : RoundCalls)

namespace PortEvents

variable (state : PortEvents)

/-- One of the polls before a round. -/
def poll (left : Nat) (first second : Option CommError) (change : BitVec 32) : PortEvents :=
  if state.eis.eventflags .dataAvailable then
    let (port, change) := state.port.fionread first second change
    { state with
      port
      polls := some left
      sent := state.sent ++ if change ≠ 0 then state.eis.sendEvent .dataAvailable 1 else [] }
  else { state with polls := some left }

def step : PortEventsLabel → Option PortEvents
  | .call call => some { state with port := state.port.perform call }
  | .nativeSetEventFlag event flag =>
      some
        { state with
          eis :=
            { state.eis with eventflags := Function.update state.eis.eventflags event flag } }
  | .interruptEventLoop => some { state with eis := state.eis.interruptEventLoop }
  | .check =>
      match state.polls with
      | none => if state.eis.closing then none else some { state with polls := some 5 }
      | some _ => none
  | .poll first second change =>
      match state.polls with
      | some (left + 1) => some (state.poll left first second change)
      | _ => none
  | .round calls =>
      match state.polls with
      | some 0 =>
          let (port, poll) := state.port.answer calls state.eis
          (state.eis.round poll).map fun (eis, sent) => ⟨port, eis, none, state.sent ++ sent⟩
      | _ => none

end PortEvents

/-- The event loop has been entered, and has sampled the counters. -/
def EventLoopStarts (state : PortEvents) : Prop :=
  ∃ garbage calls, EventInfoStruct.enter garbage calls = some state.eis ∧
    calls.tiocgicount = some state.port.sis ∧ state.port.cleared = [] ∧
    state.port.sampled = [] ∧ state.port.emptied = [] ∧
    state.port.marks = state.port.txHappened.toNat ∧ state.polls = none ∧ state.sent = []

def portEvents : System PortEvents PortEventsLabel where
  start := EventLoopStarts
  step := PortEvents.step

/-- How many errors of a kind there are among those that `ClearCommError` has found. -/
def errorsOf (kind : ErrorKind) (found : List CommError) : Nat :=
  found.countP fun error => error.counts kind

theorem errorsOf_le {found later : List CommError} (before : found <+: later)
    (kind : ErrorKind) : errorsOf kind found ≤ errorsOf kind later :=
  before.sublist.countP_le

/-! ## What happens to the port -/

namespace CommPort

/-- The counters have stepped with every error, and `tx_happened` is set for what has not been
found set. -/
structure Counts (base : Counters) (port : CommPort) : Prop where
  sis : ∀ kind, kind.counter port.sis =
    kind.counter base + BitVec.ofNat 32 (errorsOf kind port.cleared)
  sampled : port.sampled <+: port.cleared
  emptied : (0 :: port.emptied).IsChain (· < ·)
  marks : port.emptied.getLast?.getD 0 ≤ port.marks
  pending : port.txHappened = true ↔ port.emptied.getLast?.getD 0 < port.marks

/-- What a call can do to the port but for answering a request. -/
structure Grows (port next : CommPort) : Prop where
  cleared : port.cleared <+: next.cleared
  sampled : next.sampled = port.sampled
  emptied : next.emptied = port.emptied

variable {port next : CommPort} {base : Counters} {first second found : Option CommError}
  {kind : ErrorKind}

theorem Grows.refl (port : CommPort) : Grows port port :=
  ⟨List.prefix_refl _, rfl, rfl⟩

theorem Grows.trans {later : CommPort} (grows : Grows port next) (after : Grows next later) :
    Grows port later :=
  ⟨grows.cleared.trans after.cleared, after.sampled.trans grows.sampled,
    after.emptied.trans grows.emptied⟩

theorem stepCounter_counts (kind : ErrorKind) (port : CommPort) (error : CommError) :
    kind.counter (port.clearErrors (some error)).sis =
      stepCounter (kind.counter port.sis) (error.counts kind) := by
  cases kind <;> rfl

theorem grows_clearErrors (port : CommPort) (found : Option CommError) :
    Grows port (port.clearErrors found) := by
  cases found with
  | none => exact Grows.refl port
  | some error => exact ⟨List.prefix_append _ _, rfl, rfl⟩

theorem Counts.clearErrors (counts : port.Counts base) (found : Option CommError) :
    (port.clearErrors found).Counts base := by
  cases found with
  | none => exact counts
  | some error =>
      refine ⟨?_, counts.sampled.trans (List.prefix_append _ _), counts.emptied, counts.marks,
        counts.pending⟩
      intro kind
      rw [stepCounter_counts, counts.sis, CommPort.clearErrors, errorsOf, errorsOf,
        List.countP_append, List.countP_singleton, stepCounter]
      split
      next => rw [BitVec.ofNat_add, BitVec.add_assoc]; rfl
      next => rfl

theorem grows_perform (port : CommPort) (call : CommCall) : Grows port (port.perform call) := by
  cases call with
  | clearErrors found => exact grows_clearErrors port found
  | txHappened => exact ⟨List.prefix_refl _, rfl, rfl⟩

theorem Counts.perform (counts : port.Counts base) (call : CommCall) :
    (port.perform call).Counts base := by
  cases call with
  | clearErrors found => exact counts.clearErrors found
  | txHappened =>
      have unreported := Nat.lt_succ_of_le counts.marks
      exact ⟨counts.sis, counts.sampled, counts.emptied, unreported.le,
        iff_of_true rfl unreported⟩

theorem grows_performAll (port : CommPort) (calls : List CommCall) :
    Grows port (port.performAll calls) := by
  induction calls generalizing port with
  | nil => exact Grows.refl port
  | cons call calls ih => exact (grows_perform port call).trans (ih _)

theorem Counts.performAll (counts : port.Counts base) (calls : List CommCall) :
    (port.performAll calls).Counts base := by
  induction calls generalizing port with
  | nil => exact counts
  | cons call calls ih => exact ih (counts.perform call)

theorem grows_clearTwice (port : CommPort) (first second : Option CommError) :
    Grows port (port.clearTwice first second).1 := by
  rw [clearTwice]
  split
  next => exact Grows.refl port
  next => exact (grows_clearErrors port first).trans (grows_clearErrors _ second)

theorem Counts.clearTwice (counts : port.Counts base) (first second : Option CommError) :
    (port.clearTwice first second).1.Counts base := by
  rw [CommPort.clearTwice]
  split
  next => exact counts
  next => exact (counts.clearErrors first).clearErrors second

/-- What a round asks the port, and what the port answers. -/
structure Answered (base : Counters) (port next : CommPort) (poll : Poll) : Prop where
  counts : next.Counts base
  cleared : port.cleared <+: next.cleared
  sampled : port.sampled <+: next.sampled
  emptied : next.emptied.length = port.emptied.length + poll.outputEmpty.length
  silent : poll.reports = false → poll.outputEmpty = []
  unsampled : poll.tiocgicount = none → next.sampled = port.sampled
  counters : ∀ sis, poll.tiocgicount = some sis → poll.reports = true ∧
    ∀ kind, kind.counter sis = kind.counter base + BitVec.ofNat 32 (errorsOf kind next.sampled)

/-- The flag is cleared when it is found set, and the answer says so. -/
theorem Counts.tiocsergetlsr (counts : port.Counts base) (first second : Option CommError) :
    (port.tiocsergetlsr first second).1.Counts base ∧
      port.cleared <+: (port.tiocsergetlsr first second).1.cleared ∧
      (port.tiocsergetlsr first second).1.sampled = port.sampled ∧
      (port.tiocsergetlsr first second).1.emptied.length = port.emptied.length +
        ((port.tiocsergetlsr first second).2.any (· ≠ 0)).toNat := by
  have cleared := counts.clearTwice first second
  have grows := grows_clearTwice port first second
  rw [CommPort.tiocsergetlsr]
  split
  next next eq =>
    rw [eq] at cleared grows
    exact ⟨cleared, grows.cleared, grows.sampled, congrArg List.length grows.emptied⟩
  next next stat eq =>
    rw [eq] at cleared grows
    have unchanged := congrArg List.length grows.emptied
    split
    next =>
      split
      next happened =>
        have before := cleared.pending.mp happened
        refine ⟨⟨cleared.sis, cleared.sampled, ?_, ?_, ?_⟩, grows.cleared, grows.sampled, ?_⟩
        · rw [← List.cons_append, List.isChain_append]
          refine ⟨cleared.emptied, .singleton _, ?_⟩
          simpa [List.getLast?_cons] using before
        · simp
        · simp
        · simp [unchanged]
      next => exact ⟨cleared, grows.cleared, grows.sampled, unchanged⟩
    next => exact ⟨cleared, grows.cleared, grows.sampled, unchanged⟩

theorem Counts.tiocgicount (counts : port.Counts base) (first second : Option CommError) :
    (port.tiocgicount first second).1.Counts base ∧
      port.cleared <+: (port.tiocgicount first second).1.cleared ∧
      (port.tiocgicount first second).1.emptied = port.emptied ∧
      match (port.tiocgicount first second).2 with
      | none => (port.tiocgicount first second).1.sampled = port.sampled
      | some sis => port.cleared <+: (port.tiocgicount first second).1.sampled ∧
          ∀ kind, kind.counter sis = kind.counter base +
            BitVec.ofNat 32 (errorsOf kind (port.tiocgicount first second).1.sampled) := by
  have cleared := counts.clearTwice first second
  have grows := grows_clearTwice port first second
  rw [CommPort.tiocgicount]
  split
  next next eq =>
    rw [eq] at cleared grows
    exact ⟨cleared, grows.cleared, grows.emptied, grows.sampled⟩
  next next stat eq =>
    rw [eq] at cleared grows
    exact ⟨⟨cleared.sis, List.prefix_refl _, cleared.emptied, cleared.marks, cleared.pending⟩,
      grows.cleared, grows.emptied, grows.cleared, cleared.sis⟩

variable {calls : RoundCalls} {eis : EventInfoStruct}

theorem grows_answerLines (port : CommPort) (calls : RoundCalls) :
    Grows port (port.answerLines calls).1 :=
  (grows_performAll port calls.beforeTiocmget).trans (grows_clearErrors _ _)

theorem Counts.answerLines (counts : port.Counts base) (calls : RoundCalls) :
    (port.answerLines calls).1.Counts base :=
  (counts.performAll calls.beforeTiocmget).clearErrors _

theorem fionread_eq (port : CommPort) (first second : Option CommError) (change : BitVec 32) :
    (port.fionread first second change).1 = (port.clearTwice first second).1 := by
  rw [fionread]
  split
  next eq => rw [eq]
  next eq => rw [eq]

theorem grows_answerFionread (port : CommPort) (calls : RoundCalls) :
    Grows port (port.answerFionread calls).1 := by
  rw [answerFionread, fionread_eq]
  exact (grows_performAll port calls.beforeFionread).trans (grows_clearTwice _ _ _)

theorem Counts.answerFionread (counts : port.Counts base) (calls : RoundCalls) :
    (port.answerFionread calls).1.Counts base := by
  rw [CommPort.answerFionread, fionread_eq]
  exact (counts.performAll calls.beforeFionread).clearTwice _ _

/-- The counters, as the request answers them, are those of all errors found until then. -/
theorem Counts.answerCounters (counts : port.Counts base) (calls : RoundCalls) (has : Bool) :
    (port.answerCounters calls has).1.Counts base ∧
      port.cleared <+: (port.answerCounters calls has).1.cleared ∧
      (port.answerCounters calls has).1.emptied = port.emptied ∧
      match (port.answerCounters calls has).2 with
      | none => (port.answerCounters calls has).1.sampled = port.sampled
      | some sis => port.cleared <+: (port.answerCounters calls has).1.sampled ∧
          ∀ kind, kind.counter sis = kind.counter base +
            BitVec.ofNat 32 (errorsOf kind (port.answerCounters calls has).1.sampled) := by
  have before := grows_performAll port calls.beforeTiocgicount
  have performed := counts.performAll calls.beforeTiocgicount
  rw [CommPort.answerCounters]
  cases has with
  | false => exact ⟨performed, before.cleared, before.emptied, before.sampled⟩
  | true =>
      simp only [if_true]
      obtain ⟨counted, cleared, emptied, sampled⟩ :=
        performed.tiocgicount calls.tiocgicount.1 calls.tiocgicount.2
      refine ⟨counted, before.cleared.trans cleared, emptied.trans before.emptied, ?_⟩
      split at sampled
      next => exact sampled.trans before.sampled
      next => exact ⟨before.cleared.trans sampled.1, sampled.2⟩

theorem Counts.answerLsr (counts : port.Counts base) (calls : RoundCalls) (asked : Bool) :
    (port.answerLsr calls asked).1.Counts base ∧
      port.cleared <+: (port.answerLsr calls asked).1.cleared ∧
      (port.answerLsr calls asked).1.sampled = port.sampled ∧
      (port.answerLsr calls asked).1.emptied.length = port.emptied.length +
        (asked && (port.answerLsr calls asked).2.any (· ≠ 0)).toNat := by
  cases asked with
  | false => exact ⟨counts, List.prefix_refl _, rfl, rfl⟩
  | true => exact counts.tiocsergetlsr calls.tiocsergetlsr.1 calls.tiocsergetlsr.2

theorem length_outputEmpty (poll : Poll) :
    poll.outputEmpty.length =
      (poll.eventflags .outputBufferEmpty && poll.tiocsergetlsr.any (· ≠ 0)).toNat := by
  rw [Poll.outputEmpty]
  split
  next sends => rw [sends]; rfl
  next silent => rw [Bool.not_eq_true] at silent; rw [silent]; rfl

theorem reports_of_goesOn {poll : Poll} (selected : poll.ret ≥ 0)
    (goesOn : ¬poll.lineStatusFails = true) : poll.reports = true := by
  rw [Bool.not_eq_true] at goesOn
  simp [Poll.reports, selected, goesOn]

/-- A round of requests. -/
theorem Counts.answer (counts : port.Counts base) (calls : RoundCalls) (eis : EventInfoStruct) :
    Answered base port (port.answer calls eis).1 (port.answer calls eis).2 := by
  obtain ⟨counted, cleared, sampled, emptied⟩ :=
    counts.answerLsr calls (eis.eventflags .outputBufferEmpty)
  rw [CommPort.answer]
  split
  next next lsr eq =>
    rw [eq] at counted cleared sampled emptied
    dsimp only
    split
    next fails =>
      refine ⟨counted, cleared, sampled ▸ List.prefix_refl _, ?_, ?_, fun _ => sampled, ?_⟩
      · rw [length_outputEmpty]
        exact emptied
      · intro _
        cases lsr with
        | none => simp [Poll.outputEmpty]
        | some change => simp [Poll.lineStatusFails] at fails
      · rintro sis ⟨⟩
    next goesOn =>
      obtain ⟨counted, grows, unchanged, sample⟩ := counted.answerCounters calls eis.hasTiocgicount
      have lines := grows_answerLines (next.answerCounters calls eis.hasTiocgicount).1 calls
      have last := lines.trans (grows_answerFionread _ calls)
      refine ⟨(counted.answerLines calls).answerFionread calls,
        cleared.trans (grows.trans last.cleared), ?_, ?_, ?_, ?_, ?_⟩
      · rw [last.sampled]
        cases answer : (next.answerCounters calls eis.hasTiocgicount).2 with
        | none =>
            simp only [answer] at sample
            rw [sample, sampled]
        | some sis =>
            simp only [answer] at sample
            exact (counts.sampled.trans cleared).trans sample.1
      · rw [last.emptied, unchanged, length_outputEmpty]
        exact emptied
      · intro silent
        exact absurd (reports_of_goesOn Int.one_nonneg goesOn) (Bool.not_eq_true _ ▸ silent)
      · intro answer
        simp only at answer
        simp only [answer] at sample
        rw [last.sampled, sample, sampled]
      · intro sis answer
        simp only at answer
        simp only [answer] at sample
        rw [last.sampled]
        exact ⟨reports_of_goesOn Int.one_nonneg goesOn, sample.2⟩

/-- What is remembered of the counters after a round. -/
theorem Answered.after {port next : CommPort} {poll : Poll} {osis : Counters}
    {lines : BitVec 32} (answered : Answered base port next poll) :
    ((⟨some osis, lines⟩ : Sampled).after poll).counters = some (poll.tiocgicount.getD osis) := by
  rw [Sampled.after]
  split
  next => rfl
  next silent =>
    cases answer : poll.tiocgicount with
    | none => rfl
    | some sis => exact absurd (answered.counters sis answer).1 silent

end CommPort

/-! ## A port for examples -/

/-- The framing errors are about to wrap around. -/
def enteredPort : PortEvents where
  port :=
    { sis := ⟨0xffffffff, 0, 0, 0⟩
      txHappened := false
      cleared := []
      sampled := []
      marks := 0
      emptied := [] }
  eis := portEntered
  polls := none
  sent := []

theorem enteredPort_starts : EventLoopStarts enteredPort :=
  ⟨stack, portCalls, port_enters, rfl, rfl, rfl, rfl, rfl, rfl, rfl⟩

/-- A round of requests that all succeed; the first one finds an error. -/
def oneError : RoundCalls where
  tiocsergetlsr := (some { frame := true, overrun := true }, some {})
  beforeTiocgicount := [.txHappened]
  tiocgicount := (some {}, some { frame := true })
  beforeTiocmget := [.clearErrors (some { frame := true })]
  tiocmget := some {}
  mflags := 0x020
  beforeFionread := []
  fionread := (some {}, some {})
  change := 0

/-- An error is found before the round, two in it and one after them. -/
def errorRun : List PortEventsLabel :=
  [.nativeSetEventFlag .outputBufferEmpty true, .call .txHappened,
    .call (.clearErrors (some { frame := true })), .check] ++
      List.replicate 5 (.poll none none 0) ++ [.round oneError]

/-! ## What is reported -/

section Reported

variable {state next : PortEvents} {base : Counters} {kind : ErrorKind}

namespace PortEvents

/-- The events of one type that have been sent. -/
def ofType (state : PortEvents) (type : SerialEvent) : List SentEvent :=
  state.sent.filter fun event => event.type = type

/-- The event loop has reported what it has sampled. -/
structure Reported (base : Counters) (state : PortEvents) : Prop where
  running : ∃ lines, state.eis.Running ⟨some state.eis.osis, lines⟩
  counts : state.port.Counts base
  osis : ∀ kind, kind.counter state.eis.osis =
    kind.counter base + BitVec.ofNat 32 (errorsOf kind state.port.sampled)
  errors : ∀ kind, errorsOf kind state.port.cleared < 2 ^ 32 →
    (state.ofType kind.event).length = errorsOf kind state.port.sampled
  emptied : (state.ofType .outputBufferEmpty).length = state.port.emptied.length

open CommPort Words

/-- The length of the events of a kind in a round. -/
theorem Reported.errors_round {port : CommPort} {poll : Poll} {lines : BitVec 32}
    (reported : state.Reported base) (answered : Answered base state.port port poll)
    (bounded : errorsOf kind port.cleared < 2 ^ 32) :
    (((⟨some state.eis.osis, lines⟩ : Sampled).events poll).filter
      fun event => event.type = kind.event).length =
        errorsOf kind port.sampled - errorsOf kind state.port.sampled := by
  rw [Sampled.errors_events]
  cases answer : poll.tiocgicount with
  | none => simp [Sampled.errors, answer, answered.unsampled answer]
  | some sis =>
      obtain ⟨reports, counters⟩ := answered.counters sis answer
      have later := errorsOf_le answered.counts.sampled kind
      rw [if_pos reports, Sampled.errors, answer]
      simp only [List.length_replicate]
      rw [counters, reported.osis]
      exact toNat_add_ofNat_sub _ (errorsOf_le answered.sampled kind) (later.trans_lt bounded)

/-- Of the events for the output buffer, a round sends the one of its first request. -/
theorem outputEmpty_events {last : Sampled} {poll : Poll} :
    (last.events poll).filter (fun event => event.type = .outputBufferEmpty) =
      if poll.reports then poll.outputEmpty else [] := by
  split
  next reports =>
    rw [Sampled.filter_events (fun type => type = .outputBufferEmpty) reports]
    simp
  next silent => rw [Sampled.events, if_neg silent, List.filter_nil]

theorem Reported.round {port : CommPort} {poll : Poll} {eis : EventInfoStruct}
    {sent : List SentEvent} (reported : state.Reported base)
    (answered : Answered base state.port port poll)
    (ran : state.eis.round poll = some (eis, sent)) :
    Reported base ⟨port, eis, none, state.sent ++ sent⟩ := by
  obtain ⟨lines, running⟩ := reported.running
  obtain ⟨after, ran', runs, -⟩ := running.round poll
  obtain ⟨rfl, rfl⟩ := Prod.mk.inj (Option.some.inj (ran.symm.trans ran'))
  have counters := runs.counters
  rw [answered.after] at counters
  have supported : eis.hasTiocgicount = true := by
    by_contra has
    rw [if_neg has] at counters
    cases counters
  rw [if_pos supported] at counters
  have osis := Option.some.inj counters
  refine ⟨⟨eis.omflags, runs.initialised, runs.uninterrupted, runs.jclazz, ?_, rfl⟩,
    answered.counts, ?_, ?_, ?_⟩
  · rw [if_pos supported]
  · intro kind
    rw [← osis]
    cases answer : poll.tiocgicount with
    | none => rw [Option.getD_none, reported.osis, answered.unsampled answer]
    | some sis => exact (answered.counters sis answer).2 kind
  · intro kind bounded
    have before := (errorsOf_le answered.cleared kind).trans_lt bounded
    have grows := errorsOf_le answered.sampled kind
    rw [ofType, List.filter_append, List.length_append, reported.errors_round answered bounded,
      ← ofType, reported.errors kind before, Nat.add_sub_cancel' grows]
  · rw [ofType, List.filter_append, List.length_append, outputEmpty_events, ← ofType,
      reported.emptied, answered.emptied]
    cases reports : poll.reports with
    | true => rfl
    | false => rw [answered.silent reports]; rfl

/-- Calls that sample nothing, and events of received data. -/
theorem Reported.grows {port : CommPort} (reported : state.Reported base)
    (grows : Grows state.port port) (counts : port.Counts base) (polls : Option Nat)
    (later : List SentEvent) (received : ∀ event ∈ later, event.type = .dataAvailable) :
    Reported base ⟨port, state.eis, polls, state.sent ++ later⟩ := by
  obtain ⟨lines, running⟩ := reported.running
  have unchanged : ∀ type, type ≠ .dataAvailable →
      ofType ⟨port, state.eis, polls, state.sent ++ later⟩ type = state.ofType type := by
    intro type other
    have none : later.filter (fun event => event.type = type) = [] := by
      rw [filter_of_type (fun event => event = type) received]
      simp [other.symm]
    rw [ofType, List.filter_append, none, List.append_nil, ofType]
  refine ⟨⟨lines, running⟩, counts, ?_, ?_, ?_⟩
  · intro kind
    exact grows.sampled ▸ reported.osis kind
  · intro kind bounded
    have before := (errorsOf_le grows.cleared kind).trans_lt bounded
    rw [unchanged kind.event (by cases kind <;> decide), reported.errors kind before,
      grows.sampled]
  · rw [unchanged _ (by decide), reported.emptied, grows.emptied]

theorem Reported.poll (reported : state.Reported base) (left : Nat)
    (first second : Option CommError) (change : BitVec 32) :
    (state.poll left first second change).Reported base := by
  obtain ⟨lines, running⟩ := reported.running
  rw [PortEvents.poll]
  split
  next =>
    have grows := grows_clearTwice state.port first second
    have counts := reported.counts.clearTwice first second
    rw [← fionread_eq _ _ _ change] at grows counts
    have received : ∀ value : BitVec 32,
        ∀ event ∈ if value ≠ 0 then state.eis.sendEvent .dataAvailable 1 else [],
          event.type = .dataAvailable := by
      intro value event member
      rw [running.sendEvent_eq] at member
      split at member
      · rw [List.mem_singleton.mp member]
      · cases member
    exact reported.grows grows counts (some left) _ (received _)
  next =>
    exact ⟨⟨lines, running⟩, reported.counts, reported.osis, reported.errors, reported.emptied⟩

theorem Reported.step {label : PortEventsLabel} (reported : state.Reported base)
    (stepped : state.step label = some next) : next.Reported base := by
  obtain ⟨lines, running⟩ := reported.running
  cases label with
  | call call =>
      obtain rfl := Option.some.inj stepped
      have grown := reported.grows (grows_perform state.port call)
        (reported.counts.perform call) state.polls [] (by simp)
      rwa [List.append_nil] at grown
  | nativeSetEventFlag event flag =>
      obtain rfl := Option.some.inj stepped
      exact ⟨⟨lines, running.update _ state.eis.change⟩, reported.counts, reported.osis,
        reported.errors, reported.emptied⟩
  | interruptEventLoop =>
      obtain rfl := Option.some.inj stepped
      exact ⟨⟨lines, running.interrupt⟩, reported.counts, reported.osis, reported.errors,
        reported.emptied⟩
  | check =>
      rw [PortEvents.step] at stepped
      split at stepped
      · split at stepped
        · cases stepped
        · obtain rfl := Option.some.inj stepped
          exact ⟨⟨lines, running⟩, reported.counts, reported.osis, reported.errors,
            reported.emptied⟩
      · cases stepped
  | poll first second change =>
      rw [PortEvents.step] at stepped
      split at stepped
      · obtain rfl := Option.some.inj stepped
        exact reported.poll _ first second change
      · cases stepped
  | round calls =>
      rw [PortEvents.step] at stepped
      split at stepped
      · obtain ⟨⟨eis, sent⟩, ran, rfl⟩ := Option.map_eq_some_iff.mp stepped
        exact reported.round (reported.counts.answer calls state.eis) ran
      · cases stepped

theorem reported_of_starts (starts : EventLoopStarts state) : state.Reported state.port.sis := by
  obtain ⟨garbage, calls, entered, counters, cleared, sampled, emptied, marks, -, sent⟩ := starts
  obtain ⟨running, -⟩ := EventInfoStruct.running_of_enter entered
  rw [counters] at running
  have supported : state.eis.hasTiocgicount = true := by
    by_contra has
    have none := running.counters
    rw [if_neg has] at none
    cases none
  have osis := running.counters
  rw [if_pos supported] at osis
  have osis := Option.some.inj osis
  refine ⟨⟨_, osis ▸ running⟩, ⟨?_, ?_, ?_, ?_, ?_⟩, ?_, ?_, ?_⟩
  · simp [cleared, errorsOf]
  · rw [sampled]
    exact List.nil_prefix
  · rw [emptied]
    exact .singleton _
  · rw [emptied]
    exact Nat.zero_le _
  · rw [emptied, marks]
    cases state.port.txHappened <;> decide
  · simp [← osis, sampled, errorsOf]
  · simp [ofType, sent, sampled, errorsOf]
  · rw [ofType, sent, emptied]
    rfl

theorem exists_reported (reachable : portEvents.Reachable state) : ∃ base, state.Reported base := by
  unfold System.Reachable at reachable
  induction reachable with
  | start starts => exact ⟨_, reported_of_starts starts⟩
  | step _ _ stepped ih =>
      obtain ⟨base, reported⟩ := ih
      exact ⟨base, reported.step stepped⟩

/-- Until they are too many for a counter, every error that is counted after the event loop has
been entered is reported once, when the counters are sampled next: in whichever function it is
found, also if the counter wraps around or a request fails. -/
theorem counted_errors_reported (reachable : portEvents.Reachable state) (kind : ErrorKind)
    (bounded : errorsOf kind state.port.cleared < 2 ^ 32) :
    (state.ofType kind.event).length = errorsOf kind state.port.sampled ∧
      state.port.sampled <+: state.port.cleared := by
  obtain ⟨base, reported⟩ := exists_reported reachable
  exact ⟨reported.errors kind bounded, reported.counts.sampled⟩

/-- Two of the errors of a round are sampled, one is found after that. -/
theorem counted_errors_reported_wraps :
    ∃ state, portEvents.run enteredPort errorRun = some state ∧
      errorsOf .framing state.port.cleared = 4 ∧
      (state.ofType .fe).length = errorsOf .framing state.port.sampled ∧
      state.port.sampled <+: state.port.cleared :=
  ⟨_, rfl, rfl, counted_errors_reported
    (System.reachable_of_run errorRun enteredPort_starts rfl) .framing (by decide)⟩

/-- Each event for the output buffer stands for at least one call that has set `tx_happened` since
the event before it, and the flag stays set for those that none stands for. -/
theorem marks_emptied (reachable : portEvents.Reachable state) :
    (state.ofType .outputBufferEmpty).length = state.port.emptied.length ∧
      (0 :: state.port.emptied).IsChain (· < ·) ∧
      state.port.emptied.getLast?.getD 0 ≤ state.port.marks ∧
      (state.port.txHappened = true ↔ state.port.emptied.getLast?.getD 0 < state.port.marks) := by
  obtain ⟨base, reported⟩ := exists_reported reachable
  exact ⟨reported.emptied, reported.counts.emptied, reported.counts.marks,
    reported.counts.pending⟩

/-- A write during the round has not been reported. -/
theorem marks_emptied_pending :
    ∃ state, portEvents.run enteredPort errorRun = some state ∧ state.port.emptied = [1] ∧
      state.port.marks = 2 ∧ (state.ofType .outputBufferEmpty).length = 1 ∧
      state.port.txHappened = true :=
  have reachable := System.reachable_of_run errorRun enteredPort_starts rfl
  ⟨_, rfl, rfl, rfl, (marks_emptied reachable).1,
    (marks_emptied reachable).2.2.2.mpr (by decide)⟩

/-- An overrun that `ClearCommError` finds is never reported. -/
theorem overruns_unreported (reachable : portEvents.Reachable state) : state.ofType .oe = [] := by
  obtain ⟨base, reported⟩ := exists_reported reachable
  have uncounted : ∀ found, errorsOf .overrun found = 0 := by
    intro found
    simp [errorsOf, CommError.counts]
  have none := reported.errors .overrun (uncounted _ ▸ Nat.two_pow_pos 32)
  exact List.length_eq_zero_iff.mp (none.trans (uncounted _))

end PortEvents

end Reported

end Jrxtx.Termios
