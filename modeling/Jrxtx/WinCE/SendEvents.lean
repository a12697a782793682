import Jrxtx.SerialImp.SerialEvents
import Jrxtx.Words.Masks

/-!
# Event masks on Windows CE

`nativeSetEventFlag` keeps the mask of the events that are wanted, and `SendEvents` passes
the events of a reported mask to Java.  The three receive errors share one bit of the mask,
`EV_ERR`, and so does what has been asked for them.
-/

namespace Jrxtx.WinCE

open Jrxtx.SerialImp.SerialEvents Jrxtx.Words

/-- A `DWORD` of event or error bits. -/
abbrev Mask := BitVec 32

/-- `EV_POWER`, the initial `ef` of `InitialiseEventInfoStruct` -/
def evPower : Mask := 0x2000

/-- The number of the bit that `nativeSetEventFlag` changes. -/
def flagBit : SerialEvent → Nat
  | .dataAvailable => 0
  | .outputBufferEmpty => 2
  | .cts => 3
  | .dsr => 4
  | .ri => 8
  | .cd => 5
  | .oe => 7
  | .pe => 7
  | .fe => 7
  | .bi => 6

/-- `NewFlag`: `EV_RXCHAR`, `EV_TXEMPTY`, `EV_CTS`, `EV_DSR`, `EV_RING`, `EV_RLSD`, `EV_ERR`
or `EV_BREAK` -/
def newFlag (event : SerialEvent) : Mask := BitVec.twoPow 32 (flagBit event)

/-- `CE_OVERRUN`, `CE_RXPARITY` and `CE_FRAME`; the other events ask nothing of `dwErrors`. -/
def errorFlag : SerialEvent → Option Mask
  | .oe => some 0x2
  | .pe => some 0x4
  | .fe => some 0x8
  | _ => none

/-- The value of `SPE_…`, which `SendEvents` returns. -/
def spe : SerialEvent → Int
  | .dataAvailable => 1
  | .outputBufferEmpty => 2
  | .cts => 3
  | .dsr => 4
  | .ri => 5
  | .cd => 6
  | .oe => 7
  | .pe => 8
  | .fe => 9
  | .bi => 10

/-- The change that `nativeSetEventFlag` makes to `EventInfo->ef`. -/
def setFlag (ef : Mask) (event : SerialEvent) (flag : Bool) : Mask :=
  if flag then ef ||| newFlag event else ef &&& ~~~newFlag event

/-- One `if` of `SendEvents`: a due event is sent, and the others after it unless Java answers
that the port is closing.  The state is `JNI_TRUE` whatever the lines are. -/
def sendIf (due : Bool) (event : SerialEvent) (closing : SerialEvent → Bool)
    (others : Int × List SentEvent) : Int × List SentEvent :=
  if due then
    if closing event then (spe event, [⟨event, true⟩])
    else (others.1, ⟨event, true⟩ :: others.2)
  else others

/-- The event is in the mask, and among the errors if it is one. -/
def isDue (dwEvent dwErrors : Mask) (event : SerialEvent) : Bool :=
  decide (dwEvent &&& newFlag event ≠ 0) &&
    match errorFlag event with
    | some error => decide (dwErrors &&& error ≠ 0)
    | none => true

/-- `SendEvents`, with what `ClearCommError` gives and the answers of `sendEvent`: the result
and the calls of `sendEvent`. -/
def sendEvents (ef dwEvent : Mask) (clearCommError : Option Mask) (closing : SerialEvent → Bool) :
    Int × List SentEvent :=
  match clearCommError with
  | none => (-1, [])
  | some dwErrors =>
      let dwEvent := dwEvent &&& ef
      sendIf (isDue dwEvent dwErrors .dataAvailable) .dataAvailable closing <|
      sendIf (isDue dwEvent dwErrors .outputBufferEmpty) .outputBufferEmpty closing <|
      sendIf (isDue dwEvent dwErrors .cts) .cts closing <|
      sendIf (isDue dwEvent dwErrors .dsr) .dsr closing <|
      sendIf (isDue dwEvent dwErrors .ri) .ri closing <|
      sendIf (isDue dwEvent dwErrors .cd) .cd closing <|
      sendIf (isDue dwEvent dwErrors .oe) .oe closing <|
      sendIf (isDue dwEvent dwErrors .pe) .pe closing <|
      sendIf (isDue dwEvent dwErrors .fe) .fe closing <|
      sendIf (isDue dwEvent dwErrors .bi) .bi closing (0, [])

/-! ## The events asked for -/

/-- `ef` after calls of `nativeSetEventFlag`, the first of which is the last in the list. -/
def flagged : List (SerialEvent × Bool) → Mask
  | [] => evPower
  | (event, flag) :: earlier => setFlag (flagged earlier) event flag

/-- The flag of the last call for an event with the same bit. -/
def wanted (event : SerialEvent) : List (SerialEvent × Bool) → Bool
  | [] => false
  | (other, flag) :: earlier => if flagBit other = flagBit event then flag else wanted event earlier

theorem flagBit_lt (event : SerialEvent) : flagBit event < 32 := by
  cases event <;> decide

theorem newFlag_getLsbD (event : SerialEvent) (i : Nat) :
    (newFlag event).getLsbD i = decide (flagBit event = i) := by
  have inRange := flagBit_lt event
  rw [newFlag, BitVec.getLsbD_twoPow]
  by_cases same : flagBit event = i
  · simp [same, same ▸ inRange]
  · simp [same]

/-- A call changes the bit of its event and no other. -/
theorem setFlag_getLsbD (ef : Mask) (event other : SerialEvent) (flag : Bool) :
    (setFlag ef event flag).getLsbD (flagBit other) =
      if flagBit event = flagBit other then flag else ef.getLsbD (flagBit other) := by
  have inRange := flagBit_lt other
  cases flag with
  | true =>
      simp only [setFlag, if_true, BitVec.getLsbD_or, newFlag_getLsbD]
      by_cases same : flagBit event = flagBit other <;> simp [same]
  | false =>
      simp only [setFlag, Bool.false_eq_true, if_false, BitVec.getLsbD_and, BitVec.getLsbD_not,
        newFlag_getLsbD]
      by_cases same : flagBit event = flagBit other <;> simp [same, inRange]

theorem flagged_getLsbD (calls : List (SerialEvent × Bool)) (event : SerialEvent) :
    (flagged calls).getLsbD (flagBit event) = wanted event calls := by
  induction calls with
  | nil => cases event <;> decide
  | cons call earlier ih =>
      obtain ⟨other, flag⟩ := call
      rw [flagged, wanted, setFlag_getLsbD, ih]

theorem newFlag_ne_zero (event : SerialEvent) : newFlag event ≠ 0 := by
  cases event <;> decide

/-- A mask meets the bit of an event if it has it. -/
theorem and_newFlag_ne_zero (mask : Mask) (event : SerialEvent) :
    decide (mask &&& newFlag event ≠ 0) = mask.getLsbD (flagBit event) := by
  have nonzero := newFlag_ne_zero event
  rw [newFlag] at nonzero ⊢
  rw [BitVec.and_twoPow]
  cases isSet : mask.getLsbD (flagBit event) with
  | true => simpa using nonzero
  | false => simp

/-! ## The events that are passed on -/

/-- The order in which `SendEvents` looks at the events. -/
def order : List SerialEvent :=
  [.dataAvailable, .outputBufferEmpty, .cts, .dsr, .ri, .cd, .oe, .pe, .fe, .bi]

/-- The events up to the first one at which Java answers that the port is closing. -/
def untilClosing (closing : SerialEvent → Bool) : List SerialEvent → List SerialEvent
  | [] => []
  | event :: others => event :: if closing event then [] else untilClosing closing others

theorem sendIf_calls (due : Bool) (event : SerialEvent) (closing : SerialEvent → Bool)
    (others : Int × List SentEvent) (events : List SerialEvent)
    (rest : others.2 = (untilClosing closing events).map (⟨·, true⟩)) :
    (sendIf due event closing others).2 =
      (untilClosing closing (if due then event :: events else events)).map (⟨·, true⟩) := by
  cases due with
  | false => simpa [sendIf] using rest
  | true =>
      by_cases ends : closing event = true
      · simp [sendIf, untilClosing, ends]
      · simp [sendIf, untilClosing, ends, rest]

/-- The calls of `SendEvents` are those for the events that are due, in order. -/
theorem sendEvents_calls (ef dwEvent dwErrors : Mask) (closing : SerialEvent → Bool) :
    (sendEvents ef dwEvent (some dwErrors) closing).2 =
      (untilClosing closing (order.filter (isDue (dwEvent &&& ef) dwErrors))).map (⟨·, true⟩) := by
  simp only [sendEvents, order, List.filter_cons, List.filter_nil]
  iterate 10 apply sendIf_calls
  rfl

theorem isDue_flagged (calls : List (SerialEvent × Bool)) (dwEvent dwErrors : Mask)
    (event : SerialEvent) :
    isDue (dwEvent &&& flagged calls) dwErrors event =
      (isDue dwEvent dwErrors event && wanted event calls) := by
  unfold isDue
  rw [and_newFlag_ne_zero, and_newFlag_ne_zero, BitVec.getLsbD_and, flagged_getLsbD]
  cases dwEvent.getLsbD (flagBit event) <;> cases wanted event calls <;> simp

/-- After any calls of `nativeSetEventFlag`, a reported mask gives one call of `sendEvent` for
each of its events that the last call for the same bit wants, in a fixed order and up to the
first answer that the port is closing. -/
theorem sent_of_reported (calls : List (SerialEvent × Bool)) (dwEvent dwErrors : Mask)
    (closing : SerialEvent → Bool) :
    (sendEvents (flagged calls) dwEvent (some dwErrors) closing).2 =
      (untilClosing closing
        (order.filter fun event => isDue dwEvent dwErrors event && wanted event calls)).map
          (⟨·, true⟩) := by
  rw [sendEvents_calls]
  congr 3
  funext event
  exact isDue_flagged calls dwEvent dwErrors event

end Jrxtx.WinCE
