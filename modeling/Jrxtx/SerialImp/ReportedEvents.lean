import Jrxtx.SerialImp.SerialEvents
import Jrxtx.Words.Masks
import Jrxtx.Words.Samples

/-!
# What the event loop reports

The event loop remembers the last samples of the error counters and of the modem
lines.  A round that reports sends the differences; over a run these are the steps
of each counter and the changes of each line.
-/

namespace Jrxtx.SerialImp.SerialEvents

open Jrxtx.Words

/-- The errors that are counted. -/
inductive ErrorKind where
  | framing
  | overrun
  | parity
  | brk
  deriving DecidableEq, Repr

namespace ErrorKind

def event : ErrorKind → SerialEvent
  | .framing => .fe
  | .overrun => .oe
  | .parity => .pe
  | .brk => .bi

def counter : ErrorKind → Counters → BitVec 32
  | .framing => Counters.frame
  | .overrun => Counters.overrun
  | .parity => Counters.parity
  | .brk => Counters.brk

end ErrorKind

/-- The modem lines that are watched. -/
inductive ModemLine where
  | cts
  | dsr
  | ri
  | cd
  deriving DecidableEq, Repr

namespace ModemLine

def event : ModemLine → SerialEvent
  | .cts => .cts
  | .dsr => .dsr
  | .ri => .ri
  | .cd => .cd

def mask : ModemLine → BitVec 32
  | .cts => 0x020
  | .dsr => 0x100
  | .ri => 0x080
  | .cd => 0x040

/-- The state of the line in a sample. -/
def state (line : ModemLine) (mflags : BitVec 32) : Bool :=
  mflags &&& line.mask ≠ 0

end ModemLine

namespace Poll

variable (poll : Poll)

/-- `check_line_status_register` returns 1. -/
def lineStatusFails : Bool :=
  poll.eventflags .outputBufferEmpty && !(poll.fstat && poll.tiocsergetlsr.isSome)

/-- The samples are taken: `SELECT` has not failed, and nothing before them has. -/
def reports : Bool :=
  decide (poll.ret ≥ 0) && !poll.lineStatusFails

/-- The event that `check_line_status_register` sends. -/
def outputEmpty : List SentEvent :=
  if poll.eventflags .outputBufferEmpty && poll.tiocsergetlsr.any (· ≠ 0) then
    [⟨.outputBufferEmpty, true⟩]
  else []

/-- The event for received data. -/
def dataAvailable : List SentEvent :=
  if poll.fionread ≠ 0 ∧ poll.eventflags .dataAvailable = true then [⟨.dataAvailable, true⟩]
  else []

/-- The rounds up to the one after which the loop is told to end. -/
def untilInterrupt : List Poll → List Poll
  | [] => []
  | poll :: polls => poll :: if poll.interrupt then [] else untilInterrupt polls

/-- The samples that a system call gives in the rounds that report, where it succeeds. -/
def samples {α : Type} (call : Poll → Option α) (polls : List Poll) : List α :=
  (polls.filter reports).filterMap call

theorem samples_cons {α : Type} (call : Poll → Option α) (poll : Poll) (polls : List Poll) :
    samples call (poll :: polls) =
      (if poll.reports then (call poll).toList else []) ++ samples call polls := by
  unfold samples
  cases reports : poll.reports with
  | false => simp [reports]
  | true => cases taken : call poll <;> simp [reports, taken]

end Poll

/-- The last samples; no counters if the driver does not have them. -/
structure Sampled where
  counters : Option Counters
  lines : BitVec 32

namespace Sampled

variable (last : Sampled) (poll : Poll)

/-- The samples after a round. -/
def after : Sampled :=
  if poll.reports then
    ⟨last.counters.map fun osis => poll.tiocgicount.getD osis, poll.tiocmget.getD last.lines⟩
  else last

/-- One event for each step of a counter. -/
def errors (kind : ErrorKind) : List SentEvent :=
  match last.counters, poll.tiocgicount with
  | some osis, some sis =>
      List.replicate (kind.counter sis - kind.counter osis).toNat ⟨kind.event, true⟩
  | _, _ => []

/-- An event with the new state if a line has changed. -/
def lineChange (line : ModemLine) : List SentEvent :=
  match poll.tiocmget with
  | some mflags =>
      if line.state mflags ≠ line.state last.lines then [⟨line.event, line.state mflags⟩] else []
  | none => []

/-- The events of a round, in order. -/
def events : List SentEvent :=
  if poll.reports then
    poll.outputEmpty ++
      (last.errors poll .framing ++ last.errors poll .overrun ++ last.errors poll .parity ++
        last.errors poll .brk) ++
      (last.lineChange poll .cts ++ last.lineChange poll .dsr ++ last.lineChange poll .ri ++
        last.lineChange poll .cd) ++
      poll.dataAvailable
  else []

/-- The events of a run. -/
def run : Sampled → List Poll → List SentEvent
  | _, [] => []
  | last, poll :: polls => last.events poll ++ (last.after poll).run polls

end Sampled

namespace EventInfoStruct

/-- In the loop, with the given samples remembered. -/
structure Running (eis : EventInfoStruct) (last : Sampled) : Prop where
  initialised : eis.initialised = true
  uninterrupted : eis.eventloopInterrupted ≤ 1
  jclazz : eis.jclazz = true
  counters : last.counters = if eis.hasTiocgicount then some eis.osis else none
  lines : last.lines = eis.omflags

section Round

variable {eis : EventInfoStruct} {last : Sampled} {poll : Poll} {type : SerialEvent}
  {target counter : BitVec 32} {fuel : Nat}

theorem Running.sendEvent_eq (running : eis.Running last) (type : SerialEvent) (flag : Int) :
    eis.sendEvent type flag = [⟨type, decide (flag > 0)⟩] := by
  have uninterrupted := Int.not_lt.mpr running.uninterrupted
  rw [sendEvent, if_neg uninterrupted, running.jclazz]
  rfl

/-- The loop ends, around the end of the range too, after one event for each step. -/
theorem Running.sendUntil_eq (running : eis.Running last)
    (enough : (target - counter).toNat < fuel) :
    eis.sendUntil type target fuel counter =
      some (List.replicate (target - counter).toNat ⟨type, true⟩) := by
  induction fuel generalizing counter with
  | zero => simp at enough
  | succ fuel ih =>
      rw [sendUntil]
      by_cases reached : target = counter
      · simp [reached]
      · have steps := toNat_sub_eq_succ reached
        have nearer : (target - (counter + 1)).toNat < fuel := by omega
        rw [if_pos reached, ih nearer, steps, List.replicate_succ, running.sendEvent_eq]
        rfl

theorem Running.sendUntil_rounds (running : eis.Running last) (type : SerialEvent)
    (target counter : BitVec 32) :
    eis.sendUntil type target rounds counter =
      some (List.replicate (target - counter).toNat ⟨type, true⟩) :=
  running.sendUntil_eq (target - counter).isLt

/-- `check_cgi_count` ends, sends the steps of the counters and remembers them. -/
theorem Running.checkErrors (running : eis.Running last) (poll : Poll) :
    (if eis.hasTiocgicount then eis.checkCgiCount poll else some (eis, [])) = some
      ({ eis with osis := if eis.hasTiocgicount then poll.tiocgicount.getD eis.osis else eis.osis },
        last.errors poll .framing ++ last.errors poll .overrun ++ last.errors poll .parity ++
          last.errors poll .brk) := by
  have counters := running.counters
  by_cases has : eis.hasTiocgicount = true
  · rw [if_pos has] at counters
    rw [if_pos has, if_pos has]
    cases calls : poll.tiocgicount with
    | none => simp [checkCgiCount, Sampled.errors, calls]
    | some sis =>
        simp [checkCgiCount, Sampled.errors, calls, counters, running.sendUntil_rounds,
          ErrorKind.event, ErrorKind.counter]
  · rw [if_neg has] at counters
    rw [if_neg has, if_neg has]
    simp [Sampled.errors, counters]

/-- `checkLine` sends the new state of a line that has changed. -/
theorem Running.checkLine_eq (running : eis.Running last) (line : ModemLine)
    (mflags : BitVec 32) :
    eis.checkLine mflags line.mask line.event =
      if line.state mflags ≠ line.state last.lines then [⟨line.event, line.state mflags⟩]
      else [] := by
  have isBit : ∃ i, line.mask = BitVec.twoPow 32 i := by
    cases line with
    | cts => exact ⟨5, rfl⟩
    | dsr => exact ⟨8, rfl⟩
    | ri => exact ⟨7, rfl⟩
    | cd => exact ⟨6, rfl⟩
  obtain ⟨i, isBit⟩ := isBit
  simp only [checkLine, ModemLine.state, running.lines, running.sendEvent_eq]
  rcases single_cases isBit mflags with now | now <;>
    rcases single_cases isBit eis.omflags with before | before <;>
      rw [now, before] <;> cases line <;> decide

/-- What is remembered does not depend on the flags and on `change`. -/
theorem Running.update (running : eis.Running last) (eventflags : SerialEvent → Bool)
    (change : BitVec 32) : Running { eis with eventflags, change } last :=
  ⟨running.initialised, running.uninterrupted, running.jclazz, running.counters, running.lines⟩

theorem Running.checkLineStatusRegister_eq (running : eis.Running last)
    (flags : eis.eventflags = poll.eventflags) :
    ∃ change, eis.checkLineStatusRegister poll =
      (poll.lineStatusFails, { eis with change },
        if poll.lineStatusFails then [] else poll.outputEmpty) := by
  have flag : eis.eventflags .outputBufferEmpty = poll.eventflags .outputBufferEmpty := by
    rw [flags]
  cases enabled : poll.eventflags .outputBufferEmpty with
  | false =>
      rw [enabled] at flag
      exact ⟨eis.change, by
        simp [checkLineStatusRegister, Poll.lineStatusFails, Poll.outputEmpty, flag, enabled]⟩
  | true =>
      rw [enabled] at flag
      cases fstat : poll.fstat with
      | false =>
          exact ⟨eis.change, by
            simp [checkLineStatusRegister, Poll.lineStatusFails, flag, enabled, fstat]⟩
      | true =>
          cases calls : poll.tiocsergetlsr with
          | none =>
              exact ⟨eis.change, by
                simp [checkLineStatusRegister, Poll.lineStatusFails, flag, enabled, fstat, calls]⟩
          | some change =>
              have sends := (running.update eis.eventflags change).sendEvent_eq
              refine ⟨change, ?_⟩
              simp [checkLineStatusRegister, Poll.lineStatusFails, Poll.outputEmpty, flag, enabled,
                fstat, calls, sends]

theorem Running.checkTiocmgetChanges_eq (running : eis.Running last) (poll : Poll) :
    eis.checkTiocmgetChanges poll =
      ({ eis with omflags := poll.tiocmget.getD eis.omflags },
        last.lineChange poll .cts ++ last.lineChange poll .dsr ++ last.lineChange poll .ri ++
          last.lineChange poll .cd) := by
  cases calls : poll.tiocmget with
  | none => simp [checkTiocmgetChanges, Sampled.lineChange, calls]
  | some mflags =>
      have cts := running.checkLine_eq .cts mflags
      have dsr := running.checkLine_eq .dsr mflags
      have ri := running.checkLine_eq .ri mflags
      have cd := running.checkLine_eq .cd mflags
      simp only [ModemLine.mask, ModemLine.event] at cts dsr ri cd
      simp only [checkTiocmgetChanges, Sampled.lineChange, calls, cts, dsr, ri, cd]
      rfl

theorem Running.checkDataAvailable_eq (running : eis.Running last)
    (flags : eis.eventflags = poll.eventflags) :
    eis.checkDataAvailable poll = poll.dataAvailable := by
  simp only [checkDataAvailable, Poll.dataAvailable, flags, running.sendEvent_eq]
  cases poll.eventflags .dataAvailable <;> simp

/-- After `check_cgi_count` its samples are remembered. -/
theorem Running.sampleCounters (running : eis.Running last) (poll : Poll) :
    Running
      { eis with osis := if eis.hasTiocgicount then poll.tiocgicount.getD eis.osis else eis.osis }
      { last with counters := last.counters.map fun osis => poll.tiocgicount.getD osis } := by
  refine ⟨running.initialised, running.uninterrupted, running.jclazz, ?_, running.lines⟩
  simp only [running.counters]
  split <;> simp_all

/-- After `check_tiocmget_changes` the modem lines are remembered. -/
theorem Running.sampleLines (running : eis.Running last) (poll : Poll) :
    Running { eis with omflags := poll.tiocmget.getD eis.omflags }
      { last with lines := poll.tiocmget.getD last.lines } := by
  refine ⟨running.initialised, running.uninterrupted, running.jclazz, running.counters, ?_⟩
  simp only [running.lines]

/-- `report_serial_events` sends the events of the round and remembers its samples. -/
theorem Running.reportSerialEvents (running : eis.Running last)
    (flags : eis.eventflags = poll.eventflags) (selected : poll.ret ≥ 0) :
    ∃ next, eis.reportSerialEvents poll = some (next, last.events poll) ∧
      next.Running (last.after poll) ∧ next.closing = eis.closing := by
  obtain ⟨change, checked⟩ := running.checkLineStatusRegister_eq flags
  have runs := running.update eis.eventflags change
  cases fails : poll.lineStatusFails with
  | true =>
      refine ⟨{ eis with change }, ?_, ?_, rfl⟩
      · simp [EventInfoStruct.reportSerialEvents, checked, fails, Sampled.events, Poll.reports]
      · simpa [Sampled.after, Poll.reports, fails] using runs
  | false =>
      have reports : poll.reports = true := by simp [Poll.reports, fails, selected]
      have counted := runs.sampleCounters poll
      have sampled := counted.sampleLines poll
      refine ⟨{ eis with
        change
        osis := if eis.hasTiocgicount then poll.tiocgicount.getD eis.osis else eis.osis
        omflags := poll.tiocmget.getD eis.omflags }, ?_, ?_, rfl⟩
      · rw [EventInfoStruct.reportSerialEvents, checked]
        simp only [fails, runs.checkErrors, Option.bind_eq_bind, Option.bind_some,
          counted.checkTiocmgetChanges_eq, sampled.checkDataAvailable_eq flags, Bool.false_eq_true,
          if_false]
        rw [Sampled.events, if_pos reports]
        rfl
      · rw [Sampled.after, if_pos reports]
        exact sampled

theorem Running.interrupt (running : eis.Running last) : eis.interruptEventLoop.Running last :=
  ⟨running.initialised, le_rfl, running.jclazz, running.counters, running.lines⟩

/-- The part of a round before `initialise_event_info_struct`. -/
theorem Running.report (running : eis.Running last) (flags : eis.eventflags = poll.eventflags) :
    ∃ next, (if poll.ret ≥ 0 then eis.reportSerialEvents poll else some (eis, [])) =
        some (next, last.events poll) ∧
      next.Running (last.after poll) ∧ next.closing = eis.closing := by
  by_cases selected : poll.ret ≥ 0
  · rw [if_pos selected]
    exact running.reportSerialEvents flags selected
  · have silent : poll.reports = false := by simp [Poll.reports, selected]
    refine ⟨eis, ?_, ?_, rfl⟩
    · simp [selected, Sampled.events, silent]
    · simpa [Sampled.after, silent] using running

/-- A round sends the events of its samples, and `initialise_event_info_struct` does not
reset them. -/
theorem Running.round (running : eis.Running last) (poll : Poll) :
    ∃ next, eis.round poll = some (next, last.events poll) ∧ next.Running (last.after poll) ∧
      next.closing = (eis.closing || poll.interrupt) := by
  have updated := running.update poll.eventflags eis.change
  obtain ⟨next, reported, runs, closing⟩ := updated.report rfl
  have again : next.initialise poll.initialise = (true, next) := by
    rw [initialise, if_pos runs.initialised]
  cases interrupt : poll.interrupt with
  | true =>
      refine ⟨next.interruptEventLoop, ?_, runs.interrupt, by simp [interruptEventLoop]⟩
      simp [EventInfoStruct.round, reported, again, interrupt]
  | false =>
      refine ⟨next, ?_, runs, by simp [closing]⟩
      simp [EventInfoStruct.round, reported, again, interrupt]

/-- The loop ends only when it is told to, and sends the events of the run until then. -/
theorem Running.loop (running : eis.Running last) (continues : eis.closing = false)
    (polls : List Poll) :
    ∃ next, eis.loop polls = some (next, last.run (Poll.untilInterrupt polls)) := by
  induction polls generalizing eis last with
  | nil => exact ⟨eis, rfl⟩
  | cons poll polls ih =>
      obtain ⟨next, ran, runs, closing⟩ := running.round poll
      rw [continues, Bool.false_or] at closing
      cases interrupt : poll.interrupt with
      | true =>
          have ends : next.loop polls = some (next, []) := by
            rw [interrupt] at closing
            cases polls with
            | nil => rfl
            | cons head rest => rw [EventInfoStruct.loop, if_pos closing]
          refine ⟨next, ?_⟩
          simp [EventInfoStruct.loop, continues, ran, ends, Poll.untilInterrupt, interrupt,
            Sampled.run]
      | false =>
          obtain ⟨final, later⟩ := ih runs (closing.trans interrupt)
          refine ⟨final, ?_⟩
          simp [EventInfoStruct.loop, continues, ran, later, Poll.untilInterrupt, interrupt,
            Sampled.run]

/-- The samples with which the loop is entered. -/
theorem running_of_enter {calls : InitCalls} {garbage : EventInfoStruct}
    (entered : garbage.enter calls = some eis) :
    eis.Running ⟨calls.tiocgicount, calls.tiocmget.getD garbage.omflags⟩ ∧
      eis.closing = false := by
  cases method : calls.sendEvent with
  | false => simp [enter, initialise, method] at entered
  | true =>
      cases supported : calls.tiocgicount with
      | none =>
          simp only [enter, initialise, driverHasTiocgicount, method, supported, if_true,
            Bool.false_eq_true, if_false, Option.some.injEq] at entered
          subst entered
          exact ⟨⟨rfl, zero_le_one, rfl, rfl, rfl⟩, rfl⟩
      | some osis =>
          simp only [enter, initialise, driverHasTiocgicount, method, supported, if_true,
            Bool.false_eq_true, if_false, Option.some.injEq] at entered
          subst entered
          exact ⟨⟨rfl, zero_le_one, rfl, rfl, rfl⟩, rfl⟩

end Round

end EventInfoStruct

/-! ## Events of one type -/

section Types

variable {last : Sampled} {poll : Poll} {type : SerialEvent} {sent : List SentEvent}
  (keep : SerialEvent → Bool)

/-- Events of one type are all kept or all dropped. -/
theorem filter_of_type (same : ∀ event ∈ sent, event.type = type) :
    sent.filter (fun event => keep event.type) = if keep type then sent else [] := by
  split
  next kept =>
    apply List.filter_eq_self.mpr
    intro event member
    rw [same event member, kept]
  next dropped =>
    apply List.filter_eq_nil_iff.mpr
    intro event member
    rw [same event member]
    exact dropped

theorem Poll.type_outputEmpty :
    ∀ event ∈ poll.outputEmpty, event.type = .outputBufferEmpty := by
  simp only [Poll.outputEmpty]
  split <;> simp

theorem Poll.type_dataAvailable : ∀ event ∈ poll.dataAvailable, event.type = .dataAvailable := by
  simp only [Poll.dataAvailable]
  split <;> simp

theorem Sampled.type_errors (kind : ErrorKind) :
    ∀ event ∈ last.errors poll kind, event.type = kind.event := by
  intro event member
  simp only [Sampled.errors] at member
  split at member
  · rw [List.eq_of_mem_replicate member]
  · simp at member

theorem Sampled.type_lineChange (line : ModemLine) :
    ∀ event ∈ last.lineChange poll line, event.type = line.event := by
  intro event member
  simp only [Sampled.lineChange] at member
  split at member
  · split at member <;> simp_all
  · simp at member

/-- The events of a round, with only some types kept. -/
theorem Sampled.filter_events (reports : poll.reports = true) :
    (last.events poll).filter (fun event => keep event.type) =
      (if keep .outputBufferEmpty then poll.outputEmpty else []) ++
        ((if keep .fe then last.errors poll .framing else []) ++
          (if keep .oe then last.errors poll .overrun else []) ++
          (if keep .pe then last.errors poll .parity else []) ++
          (if keep .bi then last.errors poll .brk else [])) ++
        ((if keep .cts then last.lineChange poll .cts else []) ++
          (if keep .dsr then last.lineChange poll .dsr else []) ++
          (if keep .ri then last.lineChange poll .ri else []) ++
          (if keep .cd then last.lineChange poll .cd else [])) ++
        (if keep .dataAvailable then poll.dataAvailable else []) := by
  rw [Sampled.events, if_pos reports]
  simp only [List.filter_append, filter_of_type keep Poll.type_outputEmpty,
    filter_of_type keep Poll.type_dataAvailable, filter_of_type keep (Sampled.type_errors _),
    filter_of_type keep (Sampled.type_lineChange _), ErrorKind.event, ModemLine.event]
  rfl

end Types

/-! ## A port for examples -/

/-- What the stack may hold. -/
def stack : EventInfoStruct where
  eventflags := fun _ => true
  initialised := true
  change := 3
  omflags := 0x1e0
  hasTiocsergetlsr := true
  hasTiocgicount := false
  eventloopInterrupted := 7
  jclazz := false
  closing := true
  osis := ⟨1, 2, 3, 4⟩

/-- The framing errors are about to wrap around, and CTS is set. -/
def portCalls : InitCalls where
  tiocsergetlsr := true
  tiocgicount := some ⟨0xffffffff, 0, 0, 0⟩
  tiocmget := some 0x020
  sendEvent := true

/-- A round in which the calls succeed or fail as given; nothing has been received. -/
def portPoll (outputEmpty : Bool) (tiocsergetlsr : Option (BitVec 32))
    (tiocgicount : Option Counters) (tiocmget : Option (BitVec 32)) : Poll where
  ret := 0
  eventflags := fun event => event = .cts || (event = .outputBufferEmpty && outputEmpty)
  fstat := true
  tiocsergetlsr
  tiocgicount
  tiocmget
  fionread := 0
  initialise := portCalls
  interrupt := false

/-- The event loop of the port, as it is entered. -/
def portEntered : EventInfoStruct where
  eventflags := fun _ => false
  initialised := true
  change := 3
  omflags := 0x020
  hasTiocsergetlsr := true
  hasTiocgicount := true
  eventloopInterrupted := 0
  jclazz := true
  closing := false
  osis := ⟨0xffffffff, 0, 0, 0⟩

theorem port_enters : stack.enter portCalls = some portEntered := rfl

/-! ## Error counters -/

section Counters

variable {last : Sampled} {poll : Poll} {eis : EventInfoStruct} {calls : InitCalls}
  {garbage : EventInfoStruct}

/-- How far a counter has stepped since the baseline; not at all if the driver has none. -/
def stepsSince (kind : ErrorKind) (baseline : Option Counters) (samples : List Counters) : Nat :=
  match baseline with
  | none => 0
  | some osis => (increments (kind.counter osis) (samples.map kind.counter)).sum

/-- Of one kind, a round sends one event for each step of the counter. -/
theorem Sampled.errors_events (kind : ErrorKind) :
    (last.events poll).filter (fun event => event.type = kind.event) =
      if poll.reports then last.errors poll kind else [] := by
  split
  next reports =>
    rw [Sampled.filter_events (fun type => type = kind.event) reports]
    cases kind <;> simp [ErrorKind.event]
  next silent => rw [Sampled.events, if_neg silent, List.filter_nil]

/-- Of one kind, a run sends as many events as its counter steps. -/
theorem Sampled.errors_run (kind : ErrorKind) (polls : List Poll) :
    (last.run polls).filter (fun event => event.type = kind.event) =
      List.replicate (stepsSince kind last.counters (Poll.samples Poll.tiocgicount polls))
        ⟨kind.event, true⟩ := by
  induction polls generalizing last with
  | nil => cases counters : last.counters <;> simp [Sampled.run, stepsSince, Poll.samples,
      increments]
  | cons poll polls ih =>
      rw [Sampled.run, List.filter_append, ih, Sampled.errors_events, Sampled.after,
        Poll.samples_cons]
      cases poll.reports with
      | false => rfl
      | true =>
          cases counters : last.counters with
          | none => simp [Sampled.errors, stepsSince, counters]
          | some osis =>
              cases calls : poll.tiocgicount with
              | none => simp [Sampled.errors, stepsSince, counters, calls]
              | some sis => simp [Sampled.errors, stepsSince, counters, calls, increments]

/-- In total a counter steps from the baseline to the last sample, wrap-around included. -/
theorem ofNat_stepsSince (kind : ErrorKind) (osis : Counters) (samples : List Counters) :
    BitVec.ofNat 32 (stepsSince kind (some osis) samples) =
      (samples.map kind.counter).getLast?.getD (kind.counter osis) - kind.counter osis :=
  ofNat_sum_increments (kind.counter osis) (samples.map kind.counter)

/-- Whatever `TIOCGICOUNT` gives in each round, the loop goes on, and of each kind of error
it sends one event for each step of the counter since the baseline. -/
theorem error_events_exact (entered : garbage.enter calls = some eis) (polls : List Poll)
    (kind : ErrorKind) :
    ∃ next sent, eis.loop polls = some (next, sent) ∧
      sent.filter (fun event => event.type = kind.event) =
        List.replicate (stepsSince kind calls.tiocgicount
          (Poll.samples Poll.tiocgicount (Poll.untilInterrupt polls))) ⟨kind.event, true⟩ := by
  obtain ⟨running, continues⟩ := EventInfoStruct.running_of_enter entered
  obtain ⟨next, ran⟩ := running.loop continues polls
  exact ⟨next, _, ran, Sampled.errors_run kind _⟩

/-- A counter wraps around, a call fails, and the counter goes on. -/
theorem error_events_exact_wraps :
    ∃ next sent, portEntered.loop [portPoll false none (some ⟨1, 0, 0, 0⟩) none,
        portPoll false none none none, portPoll false none (some ⟨2, 0, 0, 0⟩) none] =
          some (next, sent) ∧
      sent.filter (fun event => event.type = .fe) = List.replicate 3 ⟨.fe, true⟩ :=
  error_events_exact port_enters _ .framing

end Counters

/-! ## Modem lines -/

section Lines

variable {last : Sampled} {poll : Poll} {eis : EventInfoStruct} {calls : InitCalls}
  {garbage : EventInfoStruct} {initial : BitVec 32}

/-- The events of a line follow its samples. -/
structure Follows (initial : Bool) (samples states : List Bool) : Prop where
  /-- there is an event with the new state for each sample that differs from the one before -/
  changes : states = changes initial samples
  alternate : (initial :: states).IsChain (· ≠ ·)
  last : states.getLast?.getD initial = samples.getLast?.getD initial

/-- Of one line, a round sends an event if it has changed. -/
theorem Sampled.lineChange_events (line : ModemLine) :
    (last.events poll).filter (fun event => event.type = line.event) =
      if poll.reports then last.lineChange poll line else [] := by
  split
  next reports =>
    rw [Sampled.filter_events (fun type => type = line.event) reports]
    cases line <;> simp [ModemLine.event]
  next silent => rw [Sampled.events, if_neg silent, List.filter_nil]

/-- Of one line, a run sends the changes of its samples. -/
theorem Sampled.lines_run (last : Sampled) (line : ModemLine) (polls : List Poll) :
    ((last.run polls).filter fun event => event.type = line.event).map SentEvent.state =
      changes (line.state last.lines) ((Poll.samples Poll.tiocmget polls).map line.state) := by
  induction polls generalizing last with
  | nil => rfl
  | cons poll polls ih =>
      rw [Sampled.run, List.filter_append, List.map_append, ih, Sampled.lineChange_events,
        Sampled.after, Poll.samples_cons]
      cases poll.reports with
      | false => rfl
      | true =>
          cases calls : poll.tiocmget with
          | none => simp [Sampled.lineChange, calls]
          | some mflags =>
              by_cases same : line.state last.lines = line.state mflags
              · simp [Sampled.lineChange, calls, same]
              · have changed := Ne.symm same
                simp [Sampled.lineChange, calls, changed, changes_cons_of_ne same]

/-- Whatever `TIOCMGET` gives in each round, the loop goes on, and the events of each modem
line follow its samples from the one at the start. -/
theorem modem_events_follow (entered : garbage.enter calls = some eis)
    (sampled : calls.tiocmget = some initial) (polls : List Poll) (line : ModemLine) :
    ∃ next sent, eis.loop polls = some (next, sent) ∧
      Follows (line.state initial)
        ((Poll.samples Poll.tiocmget (Poll.untilInterrupt polls)).map line.state)
        ((sent.filter fun event => event.type = line.event).map SentEvent.state) := by
  obtain ⟨running, continues⟩ := EventInfoStruct.running_of_enter entered
  obtain ⟨next, ran⟩ := running.loop continues polls
  refine ⟨next, _, ran, ?_⟩
  rw [Sampled.lines_run, sampled, Option.getD_some]
  exact ⟨rfl, isChain_changes _ _, getLast?_changes _ _⟩

/-- CTS is cleared, a call fails, CTS is still cleared and then set. -/
theorem modem_events_follow_cts :
    ∃ next sent, portEntered.loop [portPoll false none none (some 0x100),
        portPoll false none none none, portPoll false none none (some 0x100),
        portPoll false none none (some 0x1e0)] = some (next, sent) ∧
      (sent.filter fun event => event.type = .cts).map SentEvent.state = [false, true] := by
  obtain ⟨next, sent, ran, follows⟩ := modem_events_follow port_enters rfl
    [portPoll false none none (some 0x100), portPoll false none none none,
      portPoll false none none (some 0x100), portPoll false none none (some 0x1e0)] .cts
  exact ⟨next, sent, ran, follows.changes⟩

end Lines

/-! ## The event for an empty output buffer -/

section OutputEmpty

variable {last : Sampled} {poll : Poll} {eis : EventInfoStruct} {calls : InitCalls}
  {garbage : EventInfoStruct}

namespace Poll

/-- The round without the flag for an empty output buffer. -/
def quiet (poll : Poll) : Poll :=
  { poll with eventflags := Function.update poll.eventflags .outputBufferEmpty false }

/-- `report_serial_events` returns early: the flag is set, and `fstat` or `TIOCSERGETLSR`
fails. -/
def hides (poll : Poll) : Bool :=
  decide (poll.ret ≥ 0) && poll.lineStatusFails

theorem untilInterrupt_quiet (polls : List Poll) :
    untilInterrupt (polls.map quiet) = (untilInterrupt polls).map quiet := by
  induction polls with
  | nil => rfl
  | cons poll polls ih =>
      have interrupt : poll.quiet.interrupt = poll.interrupt := rfl
      rw [List.map_cons, untilInterrupt, untilInterrupt, ih, interrupt, List.map_cons]
      split <;> rfl

theorem flag_quiet : poll.quiet.eventflags .outputBufferEmpty = false := by
  simp [quiet]

theorem reports_quiet (shown : poll.hides = false) : poll.quiet.reports = poll.reports := by
  have ret : poll.quiet.ret = poll.ret := rfl
  have reads : poll.quiet.lineStatusFails = false := by
    rw [lineStatusFails, flag_quiet, Bool.false_and]
  rw [reports, reports, reads, ret]
  cases fails : poll.lineStatusFails with
  | false => rfl
  | true =>
      rw [hides, fails, Bool.and_true] at shown
      rw [shown]
      rfl

theorem dataAvailable_quiet : poll.quiet.dataAvailable = poll.dataAvailable := by
  have flag : poll.quiet.eventflags .dataAvailable = poll.eventflags .dataAvailable := by
    simp [quiet]
  simp only [dataAvailable, flag]
  rfl

end Poll

/-- The other events of a round that does not return early are those of the round without
the flag. -/
theorem Sampled.others_events (shown : poll.hides = false) :
    (last.events poll).filter (fun event => event.type ≠ .outputBufferEmpty) =
      last.events poll.quiet := by
  have same := Poll.reports_quiet shown
  have silent : poll.quiet.outputEmpty = [] := by
    rw [Poll.outputEmpty, Poll.flag_quiet]
    rfl
  by_cases reports : poll.reports = true
  · rw [Sampled.filter_events (fun type => type ≠ .outputBufferEmpty) reports, Sampled.events, same,
      if_pos reports, silent, Poll.dataAvailable_quiet]
    rfl
  · rw [Sampled.events, if_neg reports, Sampled.events, same, if_neg reports, List.filter_nil]

theorem Sampled.after_quiet (shown : poll.hides = false) :
    last.after poll.quiet = last.after poll := by
  rw [Sampled.after, Sampled.after, Poll.reports_quiet shown]
  rfl

/-- The other events of a run are those of the run without the flag. -/
theorem Sampled.others_run (last : Sampled) {polls : List Poll}
    (shown : ∀ poll ∈ polls, poll.hides = false) :
    (last.run polls).filter (fun event => event.type ≠ .outputBufferEmpty) =
      last.run (polls.map Poll.quiet) := by
  induction polls generalizing last with
  | nil => rfl
  | cons poll polls ih =>
      rw [List.forall_mem_cons] at shown
      rw [Sampled.run, List.filter_append, Sampled.others_events shown.1, ih _ shown.2,
        List.map_cons, Sampled.run, Sampled.after_quiet shown.1]

/-- Two runs that differ only in the flag for an empty output buffer send the same other
events, if no round of either returns early from `report_serial_events`. -/
theorem output_empty_hides_nothing {polls others : List Poll}
    (entered : garbage.enter calls = some eis)
    (alike : polls.map Poll.quiet = others.map Poll.quiet)
    (shown : ∀ poll ∈ Poll.untilInterrupt polls, poll.hides = false)
    (othersShown : ∀ poll ∈ Poll.untilInterrupt others, poll.hides = false) :
    ∃ next next' sent sent', eis.loop polls = some (next, sent) ∧
      eis.loop others = some (next', sent') ∧
      sent.filter (fun event => event.type ≠ .outputBufferEmpty) =
        sent'.filter (fun event => event.type ≠ .outputBufferEmpty) := by
  obtain ⟨running, continues⟩ := EventInfoStruct.running_of_enter entered
  obtain ⟨next, ran⟩ := running.loop continues polls
  obtain ⟨next', ran'⟩ := running.loop continues others
  refine ⟨next, next', _, _, ran, ran', ?_⟩
  rw [Sampled.others_run _ shown, Sampled.others_run _ othersShown, ← Poll.untilInterrupt_quiet,
    ← Poll.untilInterrupt_quiet, alike]

theorem quiet_portPoll (outputEmpty : Bool) (tiocsergetlsr : Option (BitVec 32))
    (tiocgicount : Option Counters) (tiocmget : Option (BitVec 32)) :
    (portPoll outputEmpty tiocsergetlsr tiocgicount tiocmget).quiet =
      portPoll false tiocsergetlsr tiocgicount tiocmget := by
  rw [Poll.quiet]
  congr 1
  funext event
  cases event <;> rfl

theorem output_empty_hides_nothing_cts :
    ∃ next next' sent sent',
      portEntered.loop [portPoll true (some 0x60) none (some 0)] = some (next, sent) ∧
      portEntered.loop [portPoll false (some 0x60) none (some 0)] = some (next', sent') ∧
      sent.filter (fun event => event.type ≠ .outputBufferEmpty) =
        sent'.filter (fun event => event.type ≠ .outputBufferEmpty) := by
  have alike : [portPoll true (some 0x60) none (some 0)].map Poll.quiet =
      [portPoll false (some 0x60) none (some 0)].map Poll.quiet := by
    simp only [List.map_cons, List.map_nil, quiet_portPoll]
  exact output_empty_hides_nothing port_enters alike (by decide) (by decide)

/-- Without `TIOCSERGETLSR` the flag hides that CTS has been cleared. -/
theorem failing_tiocsergetlsr_hides_cts :
    (portEntered.loop [portPoll false none none (some 0)]).map Prod.snd = some [⟨.cts, false⟩] ∧
      (portEntered.loop [portPoll true none none (some 0)]).map Prod.snd = some [] ∧
      ¬ ∀ (garbage eis : EventInfoStruct) calls (polls others : List Poll),
        garbage.enter calls = some eis → polls.map Poll.quiet = others.map Poll.quiet →
        ∃ next next' sent sent', eis.loop polls = some (next, sent) ∧
          eis.loop others = some (next', sent') ∧
          sent.filter (fun event => event.type ≠ .outputBufferEmpty) =
            sent'.filter (fun event => event.type ≠ .outputBufferEmpty) := by
  refine ⟨rfl, rfl, ?_⟩
  intro hidesNothing
  obtain ⟨next, next', sent, sent', ran, ran', same⟩ :=
    hidesNothing stack portEntered portCalls [portPoll false none none (some 0)]
      [portPoll true none none (some 0)] port_enters
      (by simp only [List.map_cons, List.map_nil, quiet_portPoll])
  have shown : (portEntered.loop [portPoll false none none (some 0)]).map Prod.snd =
      some [⟨.cts, false⟩] := rfl
  have hidden : (portEntered.loop [portPoll true none none (some 0)]).map Prod.snd = some [] := rfl
  rw [ran, Option.map_some, Option.some.injEq] at shown
  rw [ran', Option.map_some, Option.some.injEq] at hidden
  simp only at shown hidden
  rw [shown, hidden] at same
  exact absurd same (by decide)

end OutputEmpty

end Jrxtx.SerialImp.SerialEvents
