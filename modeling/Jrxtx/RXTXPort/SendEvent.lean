import Jrxtx.SerialImp.ReportedEvents

/-!
# What the listener receives

The event loop calls `RXTXPort.sendEvent`, which tells the listener unless it is gone, the
monitor thread is interrupted or the event is not enabled.  The port may be another one at each
call, and while the listener runs.
-/

namespace Jrxtx

open SerialImp.SerialEvents Words

/-- `SerialPortEvent`, as far as `sendEvent` fills it in. -/
structure SerialPortEvent where
  eventType : SerialEvent
  oldValue : Bool
  newValue : Bool
  deriving DecidableEq, Repr

namespace RXTXPort

/-- `fd == 0 || SPEventListener == null || monThread == null` -/
def isGone (self : RXTXPort) : Bool :=
  decide (self.fd = 0) || self.spEventListener.isNone || self.monThread.isNone

/-- `sendEvent`: the event that the listener gets, and the result; `after` is the port once the
listener has returned. -/
def sendEvent (self after : RXTXPort) (event : SerialEvent) (state : Bool) :
    Option SerialPortEvent × Bool :=
  if self.isGone then (none, true)
  else if !self.monThread.any fun thread => thread.enabled event then (none, false)
  else
    let e : SerialPortEvent := ⟨event, !state, state⟩
    if self.monThreadisInterrupted then (none, true) else (some e, after.isGone)

/-- What a listener gets from the calls of `sendEvent`; the ports are those that call `n` finds
and leaves. -/
def received (ports : Nat → RXTXPort × RXTXPort) : List SentEvent → List SerialPortEvent
  | [] => []
  | sent :: later =>
      ((ports 0).1.sendEvent (ports 0).2 sent.type sent.state).1.toList ++
        received (fun n => ports (n + 1)) later

/-- The port has a listener for the event, and a monitor thread that is not interrupted. -/
structure Listens (port : RXTXPort) (event : SerialEvent) : Prop where
  isOpen : port.fd ≠ 0
  listener : port.spEventListener.isSome = true
  enabled : port.monThread.any (fun thread => thread.enabled event) = true
  running : port.monThreadisInterrupted = false

/-- An event for each sample of a line that differs from the one before, with both as its
values. -/
def transitions (event : SerialEvent) : Bool → List Bool → List SerialPortEvent
  | _, [] => []
  | old, new :: rest =>
      if old = new then transitions event new rest
      else ⟨event, old, new⟩ :: transitions event new rest

section SendEvent

variable {self after : RXTXPort} {type event : SerialEvent} {state : Bool}

/-- The event says what has been sent, with the opposite as the old value. -/
theorem sendEvent_cases (self after : RXTXPort) (event : SerialEvent) (state : Bool) :
    (self.sendEvent after event state).1 = none ∨
      (self.sendEvent after event state).1 = some ⟨event, !state, state⟩ := by
  fun_cases sendEvent self after event state with
  | case1 | case2 | case3 => exact .inl rfl
  | case4 => exact .inr rfl

theorem Listens.sendEvent (listens : self.Listens event) :
    (self.sendEvent after event state).1 = some ⟨event, !state, state⟩ := by
  have present : self.isGone = false := by
    cases thread : self.monThread with
    | none => simpa [thread] using listens.enabled
    | some => simp [isGone, listens.isOpen, Option.isNone_eq_false_iff.mpr listens.listener, thread]
  simp [RXTXPort.sendEvent, present, listens.enabled, listens.running]

/-- No event is made up, and none comes twice or out of order. -/
theorem received_sublist (ports : Nat → RXTXPort × RXTXPort) (type : SerialEvent)
    (sent : List SentEvent) :
    ((received ports sent).filter fun event => event.eventType = type).Sublist
      (((sent.filter fun event => event.type = type).map SentEvent.state).map
        fun state => ⟨type, !state, state⟩) := by
  induction sent generalizing ports with
  | nil => exact List.Sublist.refl []
  | cons event later ih =>
      have later := ih fun n => ports (n + 1)
      rw [received, List.filter_append, List.filter_cons]
      rcases sendEvent_cases (ports 0).1 (ports 0).2 event.type event.state with
        missed | came
      · rw [missed]
        split
        next => exact later.cons _
        next => exact later
      · rw [came]
        by_cases same : event.type = type
        · subst same
          simpa using later
        · simpa [same] using later

/-- With a listener at each call for an event of the type, none is missed. -/
theorem received_of_listens {ports : Nat → RXTXPort × RXTXPort}
    (listens : ∀ n, (ports n).1.Listens type) (sent : List SentEvent) :
    ((received ports sent).filter fun event => event.eventType = type) =
      ((sent.filter fun event => event.type = type).map SentEvent.state).map
        fun state => ⟨type, !state, state⟩ := by
  induction sent generalizing ports with
  | nil => rfl
  | cons event later ih =>
      have later := ih fun n => listens (n + 1)
      rw [received, List.filter_append, later, List.filter_cons]
      by_cases same : event.type = type
      · subst same
        rw [(listens 0).sendEvent]
        simp
      · rcases sendEvent_cases (ports 0).1 (ports 0).2 event.type event.state with
          missed | came
        · simp [missed, same]
        · simp [came, same]

/-- The values of consecutive changes are opposite. -/
theorem transitions_eq (type : SerialEvent) (old : Bool) (samples : List Bool) :
    transitions type old samples =
      (changes old samples).map fun state => ⟨type, !state, state⟩ := by
  induction samples generalizing old with
  | nil => rfl
  | cons new rest ih =>
      rw [transitions, ih]
      by_cases same : old = new
      · subst same
        rw [if_pos rfl, changes_cons_self]
      · have opposite : old = !new := Bool.eq_not_of_ne same
        rw [if_neg same, changes_cons_of_ne same, List.map_cons, ← opposite]

end SendEvent

section Lines

variable {garbage eis : EventInfoStruct} {calls : InitCalls} {initial : BitVec 32}

/-- If `TIOCMGET` succeeds before the loop, then whatever it gives in each round, and whatever
happens to the port and its listener: the listener receives, for each modem line, transitions
from one sample to the next one that differs, in order and each once; and all of them, if it
listens throughout. -/
theorem line_events_received (entered : garbage.enter calls = some eis)
    (sampled : calls.tiocmget = some initial) (polls : List Poll)
    (ports : Nat → RXTXPort × RXTXPort) (line : ModemLine) :
    ∃ next sent, eis.loop polls = some (next, sent) ∧
      ((received ports sent).filter fun event => event.eventType = line.event).Sublist
        (transitions line.event (line.state initial)
          ((Poll.samples Poll.tiocmget (Poll.untilInterrupt polls)).map line.state)) ∧
      ((∀ n, (ports n).1.Listens line.event) →
        ((received ports sent).filter fun event => event.eventType = line.event) =
          transitions line.event (line.state initial)
            ((Poll.samples Poll.tiocmget (Poll.untilInterrupt polls)).map line.state)) := by
  obtain ⟨running, continues⟩ := EventInfoStruct.running_of_enter entered
  obtain ⟨next, ran⟩ := running.loop continues polls
  have followed := Sampled.lines_run ⟨calls.tiocgicount, calls.tiocmget.getD garbage.omflags⟩ line
    (Poll.untilInterrupt polls)
  rw [sampled, Option.getD_some] at followed
  refine ⟨next, _, ran, ?_, ?_⟩
  · rw [transitions_eq, ← followed, sampled, Option.getD_some]
    exact received_sublist ports line.event _
  · intro listens
    rw [transitions_eq, ← followed, sampled, Option.getD_some]
    exact received_of_listens listens _

end Lines

/-- A port with a listener for CTS. -/
def listening : RXTXPort where
  fd := 3
  monThreadisInterrupted := false
  spEventListener := some 1
  monThread := some { enabled := fun event => event = .cts }
  monitorThreadLock := false
  monitorThreadAlive := true

theorem listens_listening : listening.Listens .cts := by
  constructor <;> decide

/-- CTS is cleared and set again. -/
theorem line_events_received_cts :
    ∃ next sent, portEntered.loop [portPoll false none none (some 0x100),
        portPoll false none none none, portPoll false none none (some 0x1e0)] =
          some (next, sent) ∧
      ((received (fun _ => (listening, listening)) sent).filter
        fun event => event.eventType = .cts) = [⟨.cts, true, false⟩, ⟨.cts, false, true⟩] := by
  obtain ⟨next, sent, ran, -, all⟩ := line_events_received port_enters rfl
    [portPoll false none none (some 0x100), portPoll false none none none,
      portPoll false none none (some 0x1e0)] (fun _ => (listening, listening)) .cts
  exact ⟨next, sent, ran, all fun _ => listens_listening⟩

end RXTXPort

end Jrxtx
