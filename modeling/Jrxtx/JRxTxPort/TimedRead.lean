import Jrxtx.JRxTxPort.OpenSerialPort

/-!
# The timed read

`JRxTxPort.SerialInputStream.read()` polls the input stream of the wrapped port and adds up
the time that it has slept in between.  When bytes arrive, which of the sleeps are
interrupted and when the port is closed is up to a schedule.
-/

namespace Jrxtx.JRxTxPort.SerialInputStream

/-- What happens to the stream of the wrapped port and to the thread that reads. -/
structure Schedule where
  /-- the bytes, in the order of their arrival -/
  bytes : Nat → UInt8
  /-- how many of them have arrived at a poll -/
  arrived : Nat → Nat
  /-- the sleep after a poll is interrupted -/
  interrupted : Nat → Bool
  /-- the port has been closed during the sleep after a poll -/
  closed : Nat → Bool

/-- `SLEEP_TIME` -/
def sleepTime : Int := 10

/-- How `read()` ends. -/
inductive Outcome where
  | byte (value : UInt8)
  | serialPortException
  | serialPortTimeoutException
  deriving DecidableEq, Repr

/-- A `read()` in progress: the polls it has made, `elapsedTime`, and how many bytes have been
consumed, by this and all earlier calls. -/
structure Polling where
  polls : Nat
  elapsedTime : Int
  consumed : Nat
  deriving DecidableEq, Repr

section Method

variable (port : JRxTxPort) (schedule : Schedule)

/-- `available()` of the wrapped port. -/
def available (polling : Polling) : Int :=
  schedule.arrived polling.polls - polling.consumed

/-- One round of the loop; `.error` ends the call. -/
def poll (polling : Polling) : Except (Outcome × Polling) Polling :=
  if 0 < available schedule polling then
    .error
      (.byte (schedule.bytes polling.consumed),
        { polling with polls := polling.polls + 1, consumed := polling.consumed + 1 })
  else
    let next : Polling :=
      { polling with
        polls := polling.polls + 1
        elapsedTime :=
          if schedule.interrupted polling.polls then polling.elapsedTime
          else polling.elapsedTime + sleepTime }
    if schedule.closed polling.polls then .error (.serialPortException, next)
    else if port.serialPortTimeout = 0 ∨ next.elapsedTime ≤ port.serialPortTimeout then .ok next
    else .error (.serialPortTimeoutException, next)

/-- The loop; `none` if it has not ended after `fuel` rounds. -/
def loop : Nat → Polling → Option (Outcome × Polling)
  | 0, _ => none
  | fuel + 1, polling =>
      match poll port schedule polling with
      | .error ended => some ended
      | .ok next => loop fuel next

/-- `read()`, with some bytes consumed before -/
def read (fuel consumed : Nat) : Option (Outcome × Polling) :=
  loop port schedule fuel { polls := 0, elapsedTime := 0, consumed }

end Method

/-- How many of the first sleeps have been completed. -/
def Schedule.completed (schedule : Schedule) : Nat → Nat
  | 0 => 0
  | n + 1 => schedule.completed n + if schedule.interrupted n then 0 else 1

/-- The port stays open. -/
def Schedule.StaysOpen (schedule : Schedule) : Prop :=
  ∀ n, schedule.closed n = false

/-- A `read()` that goes on has found nothing and not exceeded its time. -/
structure Waits (port : JRxTxPort) (schedule : Schedule) (consumed : Nat) (polling : Polling) :
    Prop where
  kept : polling.consumed = consumed
  slept : polling.elapsedTime = sleepTime * schedule.completed polling.polls
  nothing : ∀ n < polling.polls, schedule.arrived n ≤ consumed
  inTime : port.serialPortTimeout = 0 ∨ polling.elapsedTime ≤ port.serialPortTimeout

/-- How a `read()` should end. -/
inductive Ends (port : JRxTxPort) (schedule : Schedule) (consumed : Nat) :
    Outcome → Polling → Prop where
  /-- the next byte has arrived at the last poll, and is consumed -/
  | byte {polling : Polling}
      (arrived : ∃ n, polling.polls = n + 1 ∧ consumed < schedule.arrived n)
      (one : polling.consumed = consumed + 1) :
      Ends port schedule consumed (.byte (schedule.bytes consumed)) polling
  /-- nothing is consumed, and the sleeps take longer than the timeout -/
  | timeout {polling : Polling} (isSet : port.serialPortTimeout ≠ 0)
      (kept : polling.consumed = consumed)
      (nothing : ∀ n < polling.polls, schedule.arrived n ≤ consumed)
      (exceeds : port.serialPortTimeout < sleepTime * schedule.completed polling.polls)
      (bounded : sleepTime * schedule.completed polling.polls ≤
        port.serialPortTimeout + sleepTime) :
      Ends port schedule consumed .serialPortTimeoutException polling

section Proofs

variable {port : JRxTxPort} {schedule : Schedule} {consumed fuel : Nat}
  {polling next final : Polling} {outcome : Outcome}

theorem completed_succ (schedule : Schedule) (n : Nat) :
    schedule.completed (n + 1) =
      schedule.completed n + if schedule.interrupted n then 0 else 1 := rfl

theorem waits_begin (valid : 0 ≤ port.serialPortTimeout) (consumed : Nat) :
    Waits port schedule consumed { polls := 0, elapsedTime := 0, consumed } where
  kept := rfl
  slept := rfl
  nothing := by simp
  inTime := .inr valid

/-- Another poll that has found nothing, and the time slept after it. -/
theorem Waits.nothing_succ (waits : Waits port schedule consumed polling)
    (nothing : ¬0 < available schedule polling) :
    ∀ n < polling.polls + 1, schedule.arrived n ≤ consumed := by
  intro n before
  rcases Nat.lt_succ_iff_lt_or_eq.mp before with earlier | rfl
  · exact waits.nothing n earlier
  · have kept := waits.kept
    unfold available at nothing
    omega

theorem Waits.slept_succ (waits : Waits port schedule consumed polling) :
    (if schedule.interrupted polling.polls then polling.elapsedTime
      else polling.elapsedTime + sleepTime) =
        sleepTime * schedule.completed (polling.polls + 1) := by
  rw [completed_succ, waits.slept]
  split
  next => simp
  next => simp [Int.mul_add]

/-- A call that goes on keeps waiting. -/
theorem Waits.poll (waits : Waits port schedule consumed polling)
    (went : poll port schedule polling = .ok next) :
    Waits port schedule consumed next ∧ next.polls = polling.polls + 1 := by
  revert went
  fun_cases SerialInputStream.poll port schedule polling with
  | case1 | case2 | case4 => simp
  | case3 nothing slept staysOpen goesOn =>
      intro went
      obtain rfl := Except.ok.inj went
      exact ⟨⟨waits.kept, waits.slept_succ, waits.nothing_succ nothing, goesOn⟩, rfl⟩

/-- A call that ends does so as it should. -/
theorem Waits.ends (waits : Waits port schedule consumed polling)
    (staysOpen : schedule.StaysOpen)
    (ended : SerialInputStream.poll port schedule polling = .error (outcome, final)) :
    Ends port schedule consumed outcome final := by
  revert ended
  fun_cases SerialInputStream.poll port schedule polling with
  | case1 arrived =>
      intro ended
      obtain ⟨rfl, rfl⟩ := Prod.mk.inj (Except.error.inj ended)
      rw [waits.kept]
      refine .byte ⟨polling.polls, rfl, ?_⟩ ?_
      · have kept := waits.kept
        unfold available at arrived
        omega
      · rfl
  | case2 nothing slept isClosed =>
      exact absurd isClosed (by simp [staysOpen polling.polls])
  | case3 => simp
  | case4 nothing slept notClosed timeUp =>
      intro ended
      obtain ⟨rfl, rfl⟩ := Prod.mk.inj (Except.error.inj ended)
      rw [not_or, Int.not_le] at timeUp
      obtain ⟨isSet, late⟩ := timeUp
      have before := waits.inTime.resolve_left isSet
      have sum : slept.elapsedTime = sleepTime * schedule.completed slept.polls :=
        waits.slept_succ
      have step : slept.elapsedTime ≤ polling.elapsedTime + sleepTime := by
        simp only [slept, sleepTime]
        split <;> omega
      refine .timeout isSet waits.kept (waits.nothing_succ nothing) ?_ ?_
      · exact sum ▸ late
      · rw [← sum]
        omega

theorem Waits.loop_ends (waits : Waits port schedule consumed polling)
    (staysOpen : schedule.StaysOpen)
    (ended : loop port schedule fuel polling = some (outcome, final)) :
    Ends port schedule consumed outcome final := by
  induction fuel generalizing polling with
  | zero => simp [loop] at ended
  | succ fuel ih =>
      rw [loop] at ended
      split at ended
      next result went =>
        obtain rfl := Option.some.inj ended
        exact waits.ends staysOpen went
      next went => exact ih (waits.poll went).1 ended

/-- A call that has not ended after some rounds has polled in all of them. -/
theorem Waits.loop_goes_on (waits : Waits port schedule consumed polling)
    (goesOn : loop port schedule fuel polling = none) :
    ∃ next, Waits port schedule consumed next ∧ next.polls = polling.polls + fuel := by
  induction fuel generalizing polling with
  | zero => exact ⟨polling, waits, rfl⟩
  | succ fuel ih =>
      rw [loop] at goesOn
      split at goesOn
      next => simp at goesOn
      next later went =>
        obtain ⟨waitsLater, counted⟩ := waits.poll went
        obtain ⟨next, waitsNext, polls⟩ := ih waitsLater goesOn
        exact ⟨next, waitsNext, by omega⟩

/-- `read()` on a port that stays open returns the next byte or times out as it should.  It
ends exactly if a byte arrives, or if there is a timeout and the completed sleeps exceed it. -/
theorem timed_read (valid : 0 ≤ port.serialPortTimeout) (staysOpen : schedule.StaysOpen)
    (consumed : Nat) :
    (∀ fuel outcome final, read port schedule fuel consumed = some (outcome, final) →
      Ends port schedule consumed outcome final) ∧
    ((∃ fuel, (read port schedule fuel consumed).isSome = true) ↔
      (∃ n, consumed < schedule.arrived n) ∨
        port.serialPortTimeout ≠ 0 ∧
          ∃ n, port.serialPortTimeout < sleepTime * schedule.completed n) := by
  have waits : Waits port schedule consumed { polls := 0, elapsedTime := 0, consumed } :=
    waits_begin valid consumed
  constructor
  · intro fuel outcome final ended
    exact waits.loop_ends staysOpen ended
  · constructor
    · rintro ⟨fuel, isSome⟩
      obtain ⟨⟨outcome, final⟩, ended⟩ := Option.isSome_iff_exists.mp isSome
      cases waits.loop_ends staysOpen ended with
      | byte arrived =>
          obtain ⟨n, -, arrived⟩ := arrived
          exact .inl ⟨n, arrived⟩
      | timeout isSet _ _ exceeds => exact .inr ⟨isSet, _, exceeds⟩
    · rintro (⟨n, arrived⟩ | ⟨isSet, n, exceeds⟩)
      · refine ⟨n + 1, Option.isSome_iff_ne_none.mpr ?_⟩
        intro goesOn
        obtain ⟨next, waitsNext, polls⟩ := waits.loop_goes_on goesOn
        have nothing := waitsNext.nothing n (by omega)
        omega
      · refine ⟨n, Option.isSome_iff_ne_none.mpr ?_⟩
        intro goesOn
        obtain ⟨next, waitsNext, polls⟩ := waits.loop_goes_on goesOn
        have inTime := waitsNext.inTime.resolve_left isSet
        rw [waitsNext.slept, polls, Nat.zero_add] at inTime
        omega

end Proofs

/-- A port with a timeout of 300. -/
def threeHundred : JRxTxPort where
  rxtxPort := 0
  portName := "/dev/ttyS0"
  baudRate := 9600
  parity := .none
  dataBits := .dataBits8
  stopBits := .stopBits1
  flowControl := .none
  serialPortTimeout := 300

/-- Nothing arrives, and the second sleep is interrupted. -/
def silence : Schedule where
  bytes := fun _ => 0
  arrived := fun _ => 0
  interrupted := fun n => n = 1
  closed := fun _ => false

/-- Nothing arrives, and the call times out. -/
theorem timed_read_silence :
    ∃ final, read threeHundred silence 32 0 = some (.serialPortTimeoutException, final) ∧
      Ends threeHundred silence 0 .serialPortTimeoutException final :=
  have ended : read threeHundred silence 32 0 =
      some (.serialPortTimeoutException, ⟨32, 310, 0⟩) := by decide
  ⟨_, ended, (timed_read (by decide) (fun _ => rfl) 0).1 32 _ _ ended⟩

end Jrxtx.JRxTxPort.SerialInputStream
