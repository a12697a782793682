import Jrxtx.JRxTxPort.OpenSerialPort
import Jrxtx.Transition.System

/-!
# The recorded flow control

`RXTXPort.setFlowControlMode` and `JRxTxPort.setFlowControl` record what has been asked for,
each in its own field.  The native `setflowcontrol` reports a failure with the name of a class
that has no package; if `FindClass` does not find it, nobody learns of the failure.
-/

namespace Jrxtx.FlowControlMode

open Jrxtx.Transition

/-! ## The device -/

def crtscts : BitVec 32 := 0x80000000
def ixon : BitVec 32 := 0x400
def ixany : BitVec 32 := 0x800
def ixoff : BitVec 32 := 0x1000

/-- `FLOWCONTROL_RTSCTS_IN | FLOWCONTROL_RTSCTS_OUT` -/
def rtscts : BitVec 32 := 1 ||| 2

/-- `FLOWCONTROL_XONXOFF_IN` -/
def xonxoffIn : BitVec 32 := 4

/-- `FLOWCONTROL_XONXOFF_OUT` -/
def xonxoffOut : BitVec 32 := 8

/-- `flags |= mask` or `flags &= ~mask` -/
def assign (on : Prop) [Decidable on] (flags mask : BitVec 32) : BitVec 32 :=
  if on then flags ||| mask else flags &&& ~~~mask

/-- The members of a `termios` that bear on the flow control. -/
structure Termios where
  cflag : BitVec 32
  iflag : BitVec 32
  deriving DecidableEq, Repr

/-- The flags that `setflowcontrol` wants to set. -/
def Termios.withFlowmode (ttyset : Termios) (flowmode : BitVec 32) : Termios where
  cflag := assign (flowmode &&& rtscts ≠ 0) ttyset.cflag crtscts
  iflag :=
    assign (flowmode &&& xonxoffOut ≠ 0)
      (assign (flowmode &&& xonxoffIn ≠ 0) (ttyset.iflag &&& ~~~ixany) ixoff) ixon

/-- `nativeGetFlowControlMode` -/
def Termios.flowControlMode (ttyset : Termios) : BitVec 32 :=
  (if ttyset.cflag &&& crtscts ≠ 0 then rtscts else 0) |||
    (if ttyset.iflag &&& ixoff ≠ 0 then xonxoffIn else 0) |||
      (if ttyset.iflag &&& ixon ≠ 0 then xonxoffOut else 0)

/-- The outcomes of the calls that `setflowcontrol` may make. -/
structure NativeCalls where
  tcgetattr : Bool
  tcsetattr : Bool
  findClass : String → Bool

namespace NativeCalls

variable (calls : NativeCalls)

/-- `throw_java_exception` -/
def throwJavaException (exc : String) : Option String :=
  if calls.findClass exc then some exc else none

/-- `setflowcontrol`: the device, and the class of the exception. -/
def setflowcontrol (device : Termios) (flowmode : BitVec 32) : Termios × Option String :=
  if calls.tcgetattr && calls.tcsetattr then (device.withFlowmode flowmode, none)
  else (device, calls.throwJavaException "UnsupportedCommOperationException")

end NativeCalls

/-! ## The port -/

/-- An open port, with what the `JRxTxPort` around it records, if there is one. -/
structure Port where
  device : Termios
  flowmode : BitVec 32
  monThreadisInterrupted : Bool
  flowControl : Option FlowControl

/-- The `int` that `JRxTxPort` passes on. -/
def flowcontrolOf (flowControl : FlowControl) : BitVec 32 :=
  BitVec.ofInt 32 flowControl.mode

namespace Port

variable (self : Port) (calls : NativeCalls)

/-- `RXTXPort.setFlowControlMode`, with the exception that it throws. -/
def setFlowControlMode (flowcontrol : BitVec 32) : Port × Option String :=
  if self.monThreadisInterrupted then (self, none)
  else
    match calls.setflowcontrol self.device flowcontrol with
    | (device, some exception) =>
        ({ self with device }, if exception = "java/io/IOException" then none else some exception)
    | (device, none) => ({ self with device, flowmode := flowcontrol }, none)

/-- `JRxTxPort.setFlowControl`, or what `openSerialPort` does with the flow control of the
`JRxTxPort` it creates. -/
def setFlowControl (flowControl : FlowControl) : Port × Option String :=
  match self.setFlowControlMode calls (flowcontrolOf flowControl) with
  | (self, none) => ({ self with flowControl := some flowControl }, none)
  | (self, some exception) => (self, some exception)

end Port

/-- A step of an open port. -/
inductive Label where
  /-- by the user of an `RXTXPort`; the one of a `JRxTxPort` is private -/
  | setFlowControlMode (flowcontrol : BitVec 32) (calls : NativeCalls)
  | setFlowControl (flowControl : FlowControl) (calls : NativeCalls)
  /-- the event listener comes or goes -/
  | assignInterrupted (monThreadisInterrupted : Bool)

/-- One step. -/
def Port.step (port : Port) : Label → Option Port
  | .setFlowControlMode flowcontrol calls =>
      if port.flowControl = none then some (port.setFlowControlMode calls flowcontrol).1 else none
  | .setFlowControl flowControl calls => some (port.setFlowControl calls flowControl).1
  | .assignInterrupted monThreadisInterrupted => some { port with monThreadisInterrupted }

/-- A port that has just been opened: `configure_port` has cleared the flags. -/
structure Opened (port : Port) : Prop where
  cflag : port.device.cflag &&& crtscts = 0
  iflag : port.device.iflag &&& (ixon ||| ixoff) = 0
  flowmode : port.flowmode = 0
  flowControl : port.flowControl = none

/-- The calls for one port, in any order and with any outcomes. -/
def ports : System Port Label where
  start := Opened
  step := Port.step

/-- What `getFlowControlMode()` and `getFlowControl()` return is the mode of the device. -/
structure Recorded (port : Port) : Prop where
  flowmode : port.flowmode = port.device.flowControlMode
  flowControl : ∀ flowControl, port.flowControl = some flowControl →
    flowcontrolOf flowControl = port.device.flowControlMode

/-- The modes that the device can be in: RTS and CTS are used together. -/
def encodable : List (BitVec 32) :=
  [0, 3, 4, 7, 8, 11, 12, 15]

/-- The condition on one step.  A call that does nothing, or fails without an exception, has
asked for the mode that the device is in, except that `setFlowControlMode` records nothing
when it does nothing; and a call that succeeds has asked for a mode that the device can be
in. -/
def Permitted (port : Port) : Label → Prop
  | .setFlowControlMode flowcontrol calls =>
      port.monThreadisInterrupted = true ∨
        if calls.tcgetattr && calls.tcsetattr then flowcontrol ∈ encodable
        else
          calls.findClass "UnsupportedCommOperationException" = true ∨
            flowcontrol = port.device.flowControlMode
  | .setFlowControl flowControl calls =>
      flowcontrolOf flowControl = port.device.flowControlMode ∨
        port.monThreadisInterrupted = false ∧
          (calls.tcgetattr && calls.tcsetattr ||
            calls.findClass "UnsupportedCommOperationException") = true
  | .assignInterrupted _ => True

/-! ## What `setflowcontrol` sets -/

section Flags

variable {on : Prop} [Decidable on] {flags mask other flowmode : BitVec 32}

theorem assign_and_self (nonzero : mask ≠ 0) : assign on flags mask &&& mask ≠ 0 ↔ on := by
  unfold assign
  split
  next isOn =>
    have absorbed : (flags ||| mask) &&& mask = mask := by
      ext i
      rw [BitVec.getElem_and, BitVec.getElem_or]
      cases mask[i] <;> simp
    rw [absorbed]
    exact iff_of_true nonzero isOn
  next isOff =>
    have cleared : flags &&& ~~~mask &&& mask = 0 := by
      ext i
      simp
    simp [cleared, isOff]

/-- Other flags keep their values. -/
theorem assign_and_other (disjoint : mask &&& other = 0) :
    assign on flags mask &&& other = flags &&& other := by
  have apart : ∀ i (inRange : i < 32), (mask[i] && other[i]) = false := by
    intro i inRange
    rw [← BitVec.getElem_and, disjoint]
    simp
  unfold assign
  ext i inRange
  have := apart i inRange
  split <;> cases isMask : mask[i] <;> simp_all

/-- The mode that the device is in after `setflowcontrol(flowmode)`. -/
theorem flowControlMode_withFlowmode (ttyset : Termios) (flowmode : BitVec 32) :
    (ttyset.withFlowmode flowmode).flowControlMode =
      (if flowmode &&& rtscts ≠ 0 then rtscts else 0) |||
        (if flowmode &&& xonxoffIn ≠ 0 then xonxoffIn else 0) |||
          (if flowmode &&& xonxoffOut ≠ 0 then xonxoffOut else 0) := by
  have ixoffKept : ixon &&& ixoff = 0 := by decide
  simp only [Termios.flowControlMode, Termios.withFlowmode, assign_and_other ixoffKept,
    assign_and_self (show crtscts ≠ 0 by decide), assign_and_self (show ixoff ≠ 0 by decide),
    assign_and_self (show ixon ≠ 0 by decide)]

/-- The device is in the mode asked for exactly if it can be. -/
theorem flowControlMode_withFlowmode_iff (ttyset : Termios) (flowmode : BitVec 32) :
    flowmode = (ttyset.withFlowmode flowmode).flowControlMode ↔ flowmode ∈ encodable := by
  constructor
  · intro same
    rw [same, flowControlMode_withFlowmode]
    split <;> split <;> split <;> decide
  · intro member
    rw [flowControlMode_withFlowmode]
    simp only [encodable, List.mem_cons, List.not_mem_nil, or_false] at member
    rcases member with rfl | rfl | rfl | rfl | rfl | rfl | rfl | rfl <;> decide

theorem flowcontrolOf_mem_encodable (flowControl : FlowControl) :
    flowcontrolOf flowControl ∈ encodable := by
  cases flowControl <;> decide

end Flags

/-! ## Runs -/

section Runs

variable {port next : Port} {label : Label} {calls : NativeCalls}

theorem Opened.recorded (opened : Opened port) : Recorded port := by
  have withIxoff : port.device.iflag &&& ixoff = 0 := by
    have := congrArg (· &&& ixoff) opened.iflag
    simpa [BitVec.and_assoc, ixon, ixoff] using this
  have withIxon : port.device.iflag &&& ixon = 0 := by
    have := congrArg (· &&& ixon) opened.iflag
    simpa [BitVec.and_assoc, ixon, ixoff] using this
  constructor
  · simp [Termios.flowControlMode, opened.cflag, withIxoff, withIxon, opened.flowmode]
  · simp [opened.flowControl]

/-- The ways in which `setFlowControlMode` can go. -/
theorem setFlowControlMode_eq (port : Port) (calls : NativeCalls) (flowcontrol : BitVec 32) :
    port.setFlowControlMode calls flowcontrol =
      if port.monThreadisInterrupted then (port, none)
      else if calls.tcgetattr && calls.tcsetattr then
        ({ port with device := port.device.withFlowmode flowcontrol, flowmode := flowcontrol },
          none)
      else if calls.findClass "UnsupportedCommOperationException" then
        (port, some "UnsupportedCommOperationException")
      else ({ port with flowmode := flowcontrol }, none) := by
  unfold Port.setFlowControlMode NativeCalls.setflowcontrol NativeCalls.throwJavaException
  split
  next => rfl
  next =>
    by_cases succeeds : (calls.tcgetattr && calls.tcsetattr) = true
    · simp [succeeds]
    · by_cases found : calls.findClass "UnsupportedCommOperationException" = true <;>
        simp [succeeds, found]

/-- A call on a port without a `JRxTxPort` keeps the mode recorded exactly if it is
permitted. -/
theorem Recorded.setFlowControlMode_iff (recorded : Recorded port)
    (unwrapped : port.flowControl = none) (flowcontrol : BitVec 32) (calls : NativeCalls) :
    Recorded (port.setFlowControlMode calls flowcontrol).1 ↔
      Permitted port (.setFlowControlMode flowcontrol calls) := by
  have recorded_iff : ∀ device flowmode, Recorded { port with device, flowmode } ↔
      flowmode = device.flowControlMode := by
    intro device flowmode
    constructor
    · exact Recorded.flowmode
    · intro same
      exact ⟨same, by simp [unwrapped]⟩
  rw [setFlowControlMode_eq, Permitted]
  split
  next interrupted => exact iff_of_true recorded (.inl interrupted)
  next running =>
    rw [or_iff_right running]
    split
    next succeeds => rw [recorded_iff, flowControlMode_withFlowmode_iff]
    next fails =>
      split
      next found => exact iff_of_true recorded (.inl found)
      next missing =>
        rw [or_iff_right missing]
        exact recorded_iff port.device flowcontrol

/-- So does a call of `JRxTxPort`. -/
theorem Recorded.setFlowControl_iff (recorded : Recorded port) (flowControl : FlowControl)
    (calls : NativeCalls) :
    Recorded (port.setFlowControl calls flowControl).1 ↔
      Permitted port (.setFlowControl flowControl calls) := by
  have recorded_iff : ∀ device flowmode,
      Recorded { port with device, flowmode, flowControl := some flowControl } ↔
        flowmode = device.flowControlMode ∧
          flowcontrolOf flowControl = device.flowControlMode := by
    intro device flowmode
    constructor
    · intro after
      exact ⟨after.flowmode, after.flowControl flowControl rfl⟩
    · rintro ⟨sameMode, same⟩
      refine ⟨sameMode, ?_⟩
      rintro _ ⟨⟩
      exact same
  rw [Port.setFlowControl, setFlowControlMode_eq, Permitted]
  by_cases interrupted : port.monThreadisInterrupted = true
  · rw [if_pos interrupted, or_iff_left (by simp [interrupted])]
    exact (recorded_iff port.device port.flowmode).trans (and_iff_right recorded.flowmode)
  · rw [if_neg interrupted]
    by_cases succeeds : (calls.tcgetattr && calls.tcsetattr) = true
    · have same := (flowControlMode_withFlowmode_iff port.device _).mpr
        (flowcontrolOf_mem_encodable flowControl)
      rw [if_pos succeeds]
      refine iff_of_true ?_ (.inr ⟨by simpa using interrupted, by simp [succeeds]⟩)
      exact (recorded_iff _ _).mpr ⟨same, same⟩
    · rw [if_neg succeeds]
      by_cases found : calls.findClass "UnsupportedCommOperationException" = true
      · rw [if_pos found]
        exact iff_of_true recorded (.inr ⟨by simpa using interrupted, by simp [found]⟩)
      · rw [if_neg found, or_iff_left (by simp [succeeds, found])]
        exact (recorded_iff port.device _).trans and_self_iff

/-- A step keeps the mode recorded exactly if it is permitted. -/
theorem Recorded.step_iff (recorded : Recorded port) (stepped : port.step label = some next) :
    Recorded next ↔ Permitted port label := by
  cases label with
  | setFlowControlMode flowcontrol calls =>
      simp only [Port.step, Option.ite_none_right_eq_some, Option.some.injEq] at stepped
      obtain ⟨unwrapped, rfl⟩ := stepped
      exact recorded.setFlowControlMode_iff unwrapped flowcontrol calls
  | setFlowControl flowControl calls =>
      obtain rfl := Option.some.inj stepped
      exact recorded.setFlowControl_iff flowControl calls
  | assignInterrupted monThreadisInterrupted =>
      obtain rfl := Option.some.inj stepped
      exact iff_of_true ⟨recorded.flowmode, recorded.flowControl⟩ trivial

/-- In runs of permitted calls the recorded mode is the mode of the device, and a further call
keeps it so exactly if it is permitted. -/
theorem flow_control_recorded (reached : ports.ReachedBy Permitted port) :
    Recorded port ∧
      ∀ label next, ports.step port label = some next →
        (Recorded next ↔ Permitted port label) := by
  have recorded : Recorded port := by
    refine reached.invariant (fun _ => Opened.recorded) ?_
    intro before label after held permitted stepped
    exact (held.step_iff stepped).mpr permitted
  exact ⟨recorded, fun _ _ stepped => recorded.step_iff stepped⟩

end Runs

/-- A port after `open`. -/
def opened : Port where
  device := { cflag := 0x8b0, iflag := 0x10 }
  flowmode := 0
  monThreadisInterrupted := false
  flowControl := none

theorem opened_opened : Opened opened where
  cflag := by decide
  iflag := by decide
  flowmode := rfl
  flowControl := rfl

/-- Both native calls succeed. -/
def success : NativeCalls where
  tcgetattr := true
  tcsetattr := true
  findClass := fun _ => false

/-- `tcsetattr` fails, and there is no class without a package. -/
def failure : NativeCalls where
  tcgetattr := true
  tcsetattr := false
  findClass := fun exc => exc = "java/io/IOException"

/-- The port of a `JRxTxPort` is switched to hardware flow control. -/
theorem flow_control_recorded_rts_cts :
    ∃ port, ports.ReachedBy Permitted port ∧ port.flowControl = some .rtsCts ∧
      port.flowmode = 3 ∧ Recorded port := by
  have reached : ports.ReachedBy Permitted opened := .start opened_opened
  have wrapped := reached.extend (.setFlowControl .none success) (.inl (by decide)) rfl
  have switched := wrapped.extend (.setFlowControl .rtsCts success) (.inr ⟨rfl, rfl⟩) rfl
  exact ⟨_, switched, rfl, rfl, (flow_control_recorded switched).1⟩

/-- `tcsetattr` fails, and both objects record the mode that the device is not in. -/
theorem failure_is_recorded :
    ∃ port, ports.Reachable port ∧ port.flowmode = 3 ∧ port.flowControl = some .rtsCts ∧
      port.device.flowControlMode = 0 ∧ ¬Recorded port := by
  have reachable : ports.Reachable _ := System.reachable_of_run
    [.setFlowControl .none success, .setFlowControl .rtsCts failure] opened_opened rfl
  refine ⟨_, reachable, rfl, rfl, by decide, ?_⟩
  intro recorded
  exact absurd recorded.flowmode (by decide)

end Jrxtx.FlowControlMode
