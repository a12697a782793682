import Jrxtx.JRxTxPort.OpenSerialPort
import Jrxtx.SerialImp.Device

/-!
# The setters of a serial port

`setBaudRate`, `setDataBits`, `setParity` and `setStopBits` of an open port.  Each of
them records its argument and then passes all four recorded parameters to the wrapped
port, so the parameters are kept in three places: the `JRxTxPort`, the `RXTXPort` and
the device.
-/

namespace Jrxtx.JRxTxPort

open Jrxtx.CommPortIdentifier.Open Jrxtx.SerialImp

/-- The parameters that a port has recorded, which its getters return; a setter can
record `null`. -/
structure Parameters where
  baudRate : Int
  dataBits : Option DataBits
  parity : Option Parity
  stopBits : Option StopBits
  deriving DecidableEq, Repr

/-- A setter with its argument. -/
inductive Setter where
  | setBaudRate (baudRate : Int)
  | setDataBits (dataBits : Option DataBits)
  | setParity (parity : Option Parity)
  | setStopBits (stopBits : Option StopBits)
  deriving DecidableEq, Repr

/-- The assignment with which a setter begins. -/
def Parameters.record (parameters : Parameters) : Setter → Parameters
  | .setBaudRate baudRate => { parameters with baudRate }
  | .setDataBits dataBits => { parameters with dataBits }
  | .setParity parity => { parameters with parity }
  | .setStopBits stopBits => { parameters with stopBits }

/-- A call of a setter, with the outcomes of the system calls. -/
structure SetterCall where
  setter : Setter
  device : DeviceCalls
  deriving DecidableEq, Repr

/-- How a setter ends. -/
inductive SetterResult where
  | returned
  | ioException (message : String)
  | nullPointer
  deriving DecidableEq, Repr

/-- An open port: what the `JRxTxPort` and the `RXTXPort` have recorded, and the device. -/
structure Wrapped where
  parameters : Parameters
  settings : PortSettings
  device : Device
  deriving DecidableEq, Repr

namespace Wrapped

variable (port : Wrapped)

/-- `updateWrappedPort`, with `RXTXPort.setSerialPortParams`. -/
def updateWrappedPort (calls : DeviceCalls) : SetterResult × Wrapped :=
  match port.parameters.dataBits, port.parameters.stopBits, port.parameters.parity with
  | some dataBits, some stopBits, some parity =>
      let (fails, device) :=
        nativeSetSerialPortParams calls port.device port.parameters.baudRate
          dataBits.getOldValue stopBits.getOldValue parity.getOldValue
      if fails then (.ioException "Invalid Parameter", { port with device })
      else
        (.returned,
          { port with
            settings := port.settings.setSerialPortParams port.parameters.baudRate
              dataBits.getOldValue stopBits.getOldValue parity.getOldValue
            device })
  | _, _, _ => (.nullPointer, port)

/-- A call of a setter. -/
def call (call : SetterCall) : SetterResult × Wrapped :=
  updateWrappedPort { port with parameters := port.parameters.record call.setter } call.device

/-- A sequence of calls: how each of them ends, and the port afterwards. -/
def run (port : Wrapped) : List SetterCall → List SetterResult × Wrapped
  | [] => ([], port)
  | call :: calls =>
      let (result, next) := port.call call
      let (results, final) := next.run calls
      (result :: results, final)

/-- The port as `openSerialPort` leaves it, when the native call on a device in any
state has succeeded. -/
def Opened : Prop :=
  ∃ (world after : World) (steps : Steps) (portName : Option String)
    (configuration : Configuration) (opened : JRxTxPort) (calls : DeviceCalls) (device : Device),
    world.openSerialPort steps portName configuration = some (after, .ok opened) ∧
      nativeSetSerialPortParams calls device opened.baudRate opened.dataBits.getOldValue
        opened.stopBits.getOldValue opened.parity.getOldValue = (false, port.device) ∧
      port.parameters =
        ⟨opened.baudRate, some opened.dataBits, some opened.parity, some opened.stopBits⟩ ∧
      port.settings = after.settings opened.rxtxPort

/-! ## Failing setters -/

/-- The wrapped port rejects the parameters, and the setter throws `IOException`. -/
def Rejects (call : SetterCall) : Prop :=
  ∃ message, (port.call call).1 = .ioException message

/-- A call leaves the getters and the settings of the terminal as they were, and every
sequence of later calls ends as it would without the call. -/
structure NoEffect (call : SetterCall) : Prop where
  getters : (port.call call).2.parameters = port.parameters
  cflag : (port.call call).2.device.cflag = port.device.cflag
  speed : (port.call call).2.device.speed = port.device.speed
  later : ∀ calls, ((port.call call).2.run calls).1 = (port.run calls).1

/-- The call passes what is recorded already. -/
def Repeats (call : SetterCall) : Prop :=
  port.parameters.record call.setter = port.parameters

section Failing

variable {port other : Wrapped} {call : SetterCall} {calls : DeviceCalls}

/-- A call of the wrapped port fails for `null`, or as the device lets it. -/
theorem updateWrappedPort_spec (port : Wrapped) (calls : DeviceCalls) :
    (port.updateWrappedPort calls).2.parameters = port.parameters ∧
      (port.updateWrappedPort calls).2.device.baudBase = port.device.baudBase ∧
      ((port.updateWrappedPort calls).1 ≠ .returned →
        (port.updateWrappedPort calls).2.device.cflag = port.device.cflag ∧
          (port.updateWrappedPort calls).2.device.speed = port.device.speed) := by
  fun_cases updateWrappedPort port calls
  case case1 dataBits stopBits parity _ _ _ device native =>
    have kept := nativeSetSerialPortParams_kept calls port.device port.parameters.baudRate
      dataBits.getOldValue stopBits.getOldValue parity.getOldValue
    rw [native] at kept
    exact ⟨rfl, kept.1, fun _ => kept.2 rfl⟩
  case case2 dataBits stopBits parity _ _ _ fails device native succeeds =>
    have kept := nativeSetSerialPortParams_kept calls port.device port.parameters.baudRate
      dataBits.getOldValue stopBits.getOldValue parity.getOldValue
    rw [native] at kept
    exact ⟨rfl, kept.1, fun failed => absurd rfl failed⟩
  case case3 => exact ⟨rfl, rfl, fun _ => ⟨rfl, rfl⟩⟩

/-- How a call ends depends on what is recorded and on the `baud_base`. -/
theorem updateWrappedPort_congr (recorded : other.parameters = port.parameters)
    (baudBase : other.device.baudBase = port.device.baudBase) :
    (other.updateWrappedPort calls).1 = (port.updateWrappedPort calls).1 := by
  unfold updateWrappedPort
  rw [recorded]
  split
  next dataBits stopBits parity _ _ _ =>
    have same := nativeSetSerialPortParams_congr calls port.parameters.baudRate
      dataBits.getOldValue stopBits.getOldValue parity.getOldValue baudBase
    simp only [same]
    split <;> rfl
  next => rfl

/-- A call records its argument, however it ends. -/
theorem call_spec (port : Wrapped) (call : SetterCall) :
    (port.call call).2.parameters = port.parameters.record call.setter ∧
      (port.call call).2.device.baudBase = port.device.baudBase ∧
      ((port.call call).1 ≠ .returned →
        (port.call call).2.device.cflag = port.device.cflag ∧
          (port.call call).2.device.speed = port.device.speed) :=
  updateWrappedPort_spec { port with parameters := port.parameters.record call.setter } call.device

/-- Two ports that agree in what is recorded and in the `baud_base` go through the same
calls alike. -/
theorem run_congr {calls : List SetterCall} (recorded : other.parameters = port.parameters)
    (baudBase : other.device.baudBase = port.device.baudBase) :
    (other.run calls).1 = (port.run calls).1 := by
  induction calls generalizing other port with
  | nil => rfl
  | cons call calls ih =>
      obtain ⟨otherKept, otherBase, -⟩ := call_spec other call
      obtain ⟨portKept, portBase, -⟩ := call_spec port call
      have first : (other.call call).1 = (port.call call).1 :=
        updateWrappedPort_congr (by simp [recorded]) baudBase
      have rest : ((other.call call).2.run calls).1 = ((port.call call).2.run calls).1 := by
        apply ih
        · rw [otherKept, portKept, recorded]
        · rw [otherBase, portBase, baudBase]
      simp only [run, first, rest]

/-- A rejected call has no effect if and only if it passes what is recorded already. -/
theorem noEffect_iff (rejects : port.Rejects call) : port.NoEffect call ↔ port.Repeats call := by
  obtain ⟨recorded, baudBase, kept⟩ := call_spec port call
  constructor
  · intro noEffect
    exact recorded.symm.trans noEffect.getters
  · intro repeats
    have notReturned : (port.call call).1 ≠ .returned := by
      obtain ⟨message, result⟩ := rejects
      simp [result]
    obtain ⟨cflag, speed⟩ := kept notReturned
    have same := recorded.trans repeats
    exact ⟨same, cflag, speed, fun calls => run_congr same baudBase⟩

/-- Each rejected call of a sequence has no effect if and only if each of them passes
what is recorded already. -/
theorem rejected_setters_noEffect_iff (port : Wrapped) (calls : List SetterCall) :
    (∀ before call later, calls = before ++ call :: later → (port.run before).2.Rejects call →
        (port.run before).2.NoEffect call) ↔
      ∀ before call later, calls = before ++ call :: later → (port.run before).2.Rejects call →
        (port.run before).2.Repeats call := by
  constructor
  · intro noEffects before call later split rejects
    exact (noEffect_iff rejects).mp (noEffects before call later split rejects)
  · intro repeats before call later split rejects
    exact (noEffect_iff rejects).mpr (repeats before call later split rejects)

end Failing

/-- The first run of a UART at 9600 baud, without a custom divisor. -/
def uart : Device where
  cflag := 0
  speed := 13
  baudBase := 115200
  customDivisor := 0
  spdCust := false

/-- Every system call succeeds. -/
def accepting : DeviceCalls where
  tcgetattr := true
  supportsCustomSpeed := true
  tiocgserial := true
  tiocsserial := true
  tcsetattr := true

/-- A port opened with the settings of a new `SerialPortBuilder`. -/
def openedPort : Wrapped where
  parameters := ⟨9600, some .dataBits8, some .even, some .stopBits1⟩
  settings := ⟨9600, 8, 1, 2, 0⟩
  device := (nativeSetSerialPortParams accepting uart 9600 8 1 2).2

theorem opened_openedPort : openedPort.Opened :=
  ⟨listed, _, succeeding, some "/dev/ttyS0", defaults, _, accepting, uart, rfl, rfl, rfl, rfl⟩

/-- A negative baud rate is rejected and stays recorded, and a call that the port would
have accepted is rejected then. -/
theorem rejected_setBaudRate_stays :
    ∃ port : Wrapped, port.Opened ∧ port.Rejects ⟨.setBaudRate (-1), accepting⟩ ∧
      (port.call ⟨.setBaudRate (-1), accepting⟩).2.parameters.baudRate = -1 ∧
      (port.call ⟨.setDataBits (some .dataBits7), accepting⟩).1 = .returned ∧
      ((port.call ⟨.setBaudRate (-1), accepting⟩).2.call
        ⟨.setDataBits (some .dataBits7), accepting⟩).1 = .ioException "Invalid Parameter" :=
  ⟨openedPort, opened_openedPort, ⟨_, rfl⟩, rfl, rfl, rfl⟩

/-! ## Agreement -/

/-- The getters return what the wrapped port has recorded and what the device has. -/
def Agrees : Prop :=
  ∃ dataBits stopBits parity, port.parameters.dataBits = some dataBits ∧
    port.parameters.stopBits = some stopBits ∧ port.parameters.parity = some parity ∧
    (port.settings.speed = port.parameters.baudRate ∧
      port.settings.dataBits = dataBits.getOldValue ∧
      port.settings.stopBits = stopBits.getOldValue ∧
      port.settings.parity = parity.getOldValue) ∧
    port.device.baudRate = port.parameters.baudRate ∧
    port.device.dataBits = dataBits.getOldValue ∧
    port.device.stopBits = stopBits.getOldValue ∧
    port.device.parity = parity.getOldValue

/-- The data bits and stop bits that a UART can have together. -/
def Compatible (dataBits : DataBits) : StopBits → Prop
  | .stopBits1 => True
  | .stopBits1_5 => dataBits = .dataBits5
  | .stopBits2 => dataBits ≠ .dataBits5

/-- The parameters after a call can be those of the device. -/
def CanHold (call : SetterCall) : Prop :=
  let parameters := port.parameters.record call.setter
  CanRun call.device port.device parameters.baudRate ∧
    ∀ dataBits stopBits, parameters.dataBits = some dataBits →
      parameters.stopBits = some stopBits → Compatible dataBits stopBits

section Agreement

variable {port : Wrapped} {call : SetterCall}

/-- Which data bits and stop bits are left of those that are set. -/
theorem compatible_iff (dataBits : DataBits) (stopBits : StopBits) :
    Compatible dataBits stopBits ↔
      (if stopBits.getOldValue = 3 then 5 else dataBits.getOldValue) = dataBits.getOldValue ∧
        (if stopBits.getOldValue = 1 then 1
          else if stopBits.getOldValue = 3 ∨ dataBits.getOldValue = 5 then 3 else 2) =
            stopBits.getOldValue := by
  cases stopBits <;> cases dataBits <;>
    simp [Compatible, StopBits.getOldValue, DataBits.getOldValue]

/-- After a normal return of `updateWrappedPort` the three places agree if and only if the
device can run at the rate, and have the data bits and stop bits together. -/
theorem updateWrappedPort_agrees_iff (port : Wrapped) (calls : DeviceCalls)
    (returns : (port.updateWrappedPort calls).1 = .returned) :
    (port.updateWrappedPort calls).2.Agrees ↔
      CanRun calls port.device port.parameters.baudRate ∧
        ∀ dataBits stopBits, port.parameters.dataBits = some dataBits →
          port.parameters.stopBits = some stopBits → Compatible dataBits stopBits := by
  revert returns
  fun_cases updateWrappedPort port calls
  case case1 => intro returns; cases returns
  case case3 => intro returns; cases returns
  case case2 dataBits stopBits parity isParity isStop isData fails device native succeeds =>
    intro _
    have fine : fails = false := by simpa using succeeds
    rw [fine] at native
    have rate := nativeSetSerialPortParams_baudRate (congrArg Prod.fst native)
    obtain ⟨dataRead, stopRead, parityRead⟩ := nativeSetSerialPortParams_read native
    rw [native] at rate
    rw [← rate]
    constructor
    · intro ⟨data', stop', parity', someData, someStop, _, ⟨_, data, _⟩, runs, _, stop, _⟩
      obtain rfl := Option.some.inj (isData.symm.trans someData)
      obtain rfl := Option.some.inj (isStop.symm.trans someStop)
      have together := (compatible_iff dataBits stopBits).mpr ⟨data, stopRead ▸ stop⟩
      simp only [isData, isStop, Option.some.injEq]
      exact ⟨runs, fun _ _ sameData sameStop => sameData ▸ sameStop ▸ together⟩
    · intro ⟨runs, together⟩
      obtain ⟨data, stop⟩ := (compatible_iff _ _).mp (together _ _ isData isStop)
      exact ⟨dataBits, stopBits, parity, isData, isStop, isParity, ⟨rfl, data, rfl, rfl⟩, runs,
        dataRead.trans data, stopRead.trans stop, parityRead⟩

/-- After a call that returns normally the three places agree if and only if they can. -/
theorem agrees_iff_canHold (returns : (port.call call).1 = .returned) :
    (port.call call).2.Agrees ↔ port.CanHold call :=
  updateWrappedPort_agrees_iff { port with parameters := port.parameters.record call.setter }
    call.device returns

/-- A sequence of calls is run from the port that the first of them leave. -/
theorem run_append (port : Wrapped) (before later : List SetterCall) :
    (port.run (before ++ later)).2 = ((port.run before).2.run later).2 := by
  induction before generalizing port with
  | nil => rfl
  | cons first before ih => simpa only [List.cons_append, run] using ih _

/-- In a sequence of calls that return normally the three places agree after each of them if
and only if they can. -/
theorem run_agrees_iff (port : Wrapped) (calls : List SetterCall)
    (returns : ∀ before call later, calls = before ++ call :: later →
      ((port.run before).2.call call).1 = .returned) :
    (∀ before call later, calls = before ++ call :: later →
        (port.run (before ++ [call])).2.Agrees) ↔
      ∀ before call later, calls = before ++ call :: later →
        (port.run before).2.CanHold call := by
  constructor
  · intro agrees before call later split
    have after := agrees before call later split
    rw [run_append] at after
    exact (agrees_iff_canHold (returns before call later split)).mp after
  · intro canHold before call later split
    rw [run_append]
    exact (agrees_iff_canHold (returns before call later split)).mpr
      (canHold before call later split)

end Agreement

/-- The ways to split a list at an element. -/
theorem forall_split_cons {α : Type*} {first : α} {rest : List α} {holds : List α → α → Prop}
    (atFirst : holds [] first)
    (later : ∀ before call behind, rest = before ++ call :: behind → holds (first :: before) call) :
    ∀ before call behind, first :: rest = before ++ call :: behind → holds before call := by
  intro before call behind split
  cases before with
  | nil =>
      obtain rfl : first = call := by simpa using congrArg List.head? split
      exact atFirst
  | cons other before =>
      rw [List.cons_append, List.cons.injEq] at split
      obtain ⟨rfl, split⟩ := split
      exact later before call behind split

/-- The stop bits, the data bits and the parity are set one after another. -/
def changes : List SetterCall :=
  [⟨.setStopBits (some .stopBits2), accepting⟩, ⟨.setDataBits (some .dataBits7), accepting⟩,
    ⟨.setParity (some .odd), accepting⟩]

/-- With 7 data bits, odd parity and 2 stop bits the three places agree. -/
theorem run_agrees_dataBits7 : (openedPort.run changes).2.Agrees := by
  have atEach (port : Wrapped) (call : SetterCall)
      (runs : CanRun call.device port.device (port.parameters.record call.setter).baudRate)
      (dataBits : (port.parameters.record call.setter).dataBits ≠ some .dataBits5)
      (stopBits : (port.parameters.record call.setter).stopBits = some .stopBits2) :
      port.CanHold call := by
    refine ⟨runs, fun data stop isData isStop => ?_⟩
    obtain rfl := Option.some.inj (stopBits.symm.trans isStop)
    rintro rfl
    exact dataBits isData
  have afterEach := (run_agrees_iff openedPort changes ?_).mpr ?_
  · exact afterEach [⟨.setStopBits (some .stopBits2), accepting⟩,
      ⟨.setDataBits (some .dataBits7), accepting⟩] ⟨.setParity (some .odd), accepting⟩ [] rfl
  · refine forall_split_cons rfl (forall_split_cons rfl (forall_split_cons rfl ?_))
    simp
  · refine forall_split_cons (atEach _ _ rfl nofun rfl) (forall_split_cons
      (atEach _ _ rfl nofun rfl) (forall_split_cons (atEach _ _ rfl nofun rfl) ?_))
    simp

/-- 1.5 stop bits leave the wrapped port and the device with 5 data bits, and the
`JRxTxPort` with 8. -/
theorem setStopBits_changes_dataBits :
    ∃ port : Wrapped, port.Opened ∧
      (port.run [⟨.setStopBits (some .stopBits1_5), accepting⟩]).1 = [.returned] ∧
      (port.run [⟨.setStopBits (some .stopBits1_5), accepting⟩]).2.parameters.dataBits =
        some .dataBits8 ∧
      (port.run [⟨.setStopBits (some .stopBits1_5), accepting⟩]).2.settings.dataBits = 5 ∧
      (port.run [⟨.setStopBits (some .stopBits1_5), accepting⟩]).2.device.dataBits = 5 :=
  ⟨openedPort, opened_openedPort, rfl, rfl, rfl, rfl⟩

end Wrapped

end Jrxtx.JRxTxPort
