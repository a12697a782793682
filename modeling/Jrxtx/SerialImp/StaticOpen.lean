import Jrxtx.SerialImp.FhsLock
import Jrxtx.SerialImp.Params
import Jrxtx.SerialImp.Preopened

/-!
# Opening a device

`RXTXPort.open` and the functions `nativeStaticSet...`, which lock the device,
open it and configure it, with the outcomes of all of their system calls given.
A failure after the lock has been taken leaves through the same exits as one
before, and no exit gives anything back.  The name of the device goes into several buffers
without a look at its length.
-/

namespace Jrxtx.SerialImp

open Jrxtx.LockDaemon

/-! ## State and system calls -/

/-- The result of one `OPEN(filename, O_RDWR | O_NOCTTY | O_NONBLOCK)`. -/
inductive OpenResult where
  | opened (fd : Nat)
  | eintr
  | error
  deriving DecidableEq, Repr

/-- The outcomes of the system calls of one function call, of `FindClass` and of
`strerror(errno)`, and how the library has been compiled. -/
structure SystemCalls where
  /-- `LOCK` succeeds if nobody holds the lock -/
  lock : Bool
  opens : List OpenResult
  configure : ConfigureCalls
  params : ParamCalls
  /-- the modem lines after `ioctl(fd, TIOCMGET, &result)`, whatever it returns -/
  tiocmget : BitVec 32
  /-- `ioctl(fd, TIOCMSET, &result)` sets them -/
  tiocmset : Bool
  /-- `UNLOCK` removes the lock file -/
  unlock : Bool
  findClass : String → Bool
  strerror : Text
  /-- `_GNU_SOURCE` is defined -/
  gnuSource : Bool

/-- What the functions share: which devices are locked, which file descriptors are
open, the modem lines set through them, and the preopened ports. -/
structure Native where
  locked : String → Bool
  descriptors : List Int
  modemLines : Int → BitVec 32
  preopened : PreopenedPorts

/-- A pending Java exception. -/
structure JavaException where
  className : String
  message : Text
  deriving DecidableEq, Repr

/-- How a function is left: normally, at its label `fail`, after a call of
`throw_java_exception`, or with an access outside one of its buffers. -/
inductive Exit where
  | normal
  | failLabel
  | throws
  | outOfBounds
  deriving DecidableEq, Repr

/-- The function has failed. -/
def Exit.Fails (exit : Exit) : Prop :=
  exit = .failLabel ∨ exit = .throws

/-- What a function call leaves behind. -/
structure NativeResult (Value : Type) where
  native : Native
  value : Value
  exit : Exit
  exception : Option JavaException

/-- The bytes of a character in the modified UTF-8 of the JNI: those of its UTF-16 units, and
no byte 0. -/
def modifiedUtf8 (c : Char) : List Nat :=
  let unit (u : Nat) : List Nat :=
    if 0 < u ∧ u < 0x80 then [u]
    else if u < 0x800 then [0xc0 + u / 0x40, 0x80 + u % 0x40]
    else [0xe0 + u / 0x1000, 0x80 + u / 0x40 % 0x40, 0x80 + u % 0x40]
  if c.toNat < 0x10000 then unit c.toNat
  else
    unit (0xd800 + (c.toNat - 0x10000) / 0x400) ++ unit (0xdc00 + (c.toNat - 0x10000) % 0x400)

/-- `GetStringUTFChars` -/
def getStringUTFChars (jstr : String) : Text :=
  (jstr.toList.flatMap modifiedUtf8).map Char.ofNat

/-- `throw_java_exception`; nothing is thrown if the class cannot be found.  Without
`_GNU_SOURCE` there is no result if the text does not fit into `buf[60]`. -/
def throwJavaException (calls : SystemCalls) (exc foo : String) (msg : Text) :
    Option (Option JavaException) :=
  let text := msg ++ " in ".toList ++ foo.toList
  if !calls.findClass exc then some none
  else if calls.gnuSource then some (some ⟨exc, text.take 59⟩)
  else (sprintf 60 text).map fun buf => some ⟨exc, buf⟩

/-- The `do` loop around `OPEN`: the file descriptor, which is negative if the last
call has failed; `none` if the results given do not end the loop. -/
def openLoop : List OpenResult → Option Int
  | [] => none
  | .opened fd :: _ => some fd
  | .eintr :: results => openLoop results
  | .error :: _ => some (-1)

namespace Native

variable (native : Native) (calls : SystemCalls) (filename : String)

/-- `LOCK(filename, pid)`; `none` if it returns 1. -/
def lock : Option Native :=
  if native.locked filename || !calls.lock then none
  else some { native with locked := Function.update native.locked filename true }

/-- `UNLOCK(filename, pid)` -/
def unlock : Native :=
  if calls.unlock then { native with locked := Function.update native.locked filename false }
  else native

/-- `fd = find_preopened_ports(filename)` -/
def findPreopenedPorts (fuel : Nat) : Option (Int × Native) := do
  let (fd, preopened) ← native.preopened.findPreopenedPorts fuel filename
  some (fd, { native with preopened })

/-- The `do` loop around `OPEN`. -/
def openDevice : Option (Int × Native) := do
  let fd ← openLoop calls.opens
  some (fd, if fd < 0 then native else { native with descriptors := fd :: native.descriptors })

/-- A function that writes or reads outside a buffer. -/
def leavesBuffer {Value : Type} (value : Value) : NativeResult Value :=
  ⟨native, value, .outOfBounds, none⟩

/-- The end of a function that throws an exception. -/
def throwing {Value : Type} (value : Value) (exit : Exit) (exc foo : String) (msg : Text) :
    NativeResult Value :=
  match throwJavaException calls exc foo msg with
  | none => native.leavesBuffer value
  | some exception => ⟨native, value, exit, exception⟩

/-- `RXTXPort.open`; `pidField` tells whether the class has a field `pid`. -/
def openPort (fuel : Nat) (pidField : Bool) : Option (NativeResult Int) :=
  let name := getStringUTFChars filename
  let fail (native : Native) : NativeResult Int :=
    native.throwing calls (-1) .failLabel "gnu/io/PortInUseException" "open" calls.strerror
  if !pidField then some ⟨native, -1, .normal, none⟩
  else if (lockPath name).isNone then some (native.leavesBuffer (-1))
  else
    match native.lock calls filename with
    | none =>
        if (sprintf 80 ("open: locking has failed for ".toList ++ name ++ ['\n'])).isNone then
          some (native.leavesBuffer (-1))
        else some (fail native)
    | some native =>
        if (sprintf 80 ("open: locking worked for ".toList ++ name ++ ['\n'])).isNone then
          some (native.leavesBuffer (-1))
        else do
          let (fd, native) ← native.findPreopenedPorts filename fuel
          if fd ≠ 0 then some ⟨native, fd, .normal, none⟩
          else
            let (fd, native) ← native.openDevice calls
            if configurePortFails calls.configure fd then some (fail native)
            else some ⟨native, fd, .normal, none⟩

/-- The part that the functions `nativeStaticSet...` have in common: the file
descriptor of the locked device, and whether they go to `fail`. -/
def preopen (fuel : Nat) : Option (Int × Bool × Native) := do
  let (fd, native) ← native.findPreopenedPorts filename fuel
  if fd ≠ 0 then some (fd, false, native)
  else
    let (fd, native) ← native.openDevice calls
    some (fd, configurePortFails calls.configure fd, native)

/-- Read the modem lines, change one of them and write them back. -/
def setModemLine (fd : Int) (line : BitVec 32) (flag : Bool) : Native :=
  let result := if flag then calls.tiocmget ||| line else calls.tiocmget &&& ~~~line
  if calls.tiocmset then
    { native with modemLines := Function.update native.modemLines fd result }
  else native

/-- `UNLOCK` and `static_add_filename`, whose `strcpy` goes into `char filename[40]`; the list
is that before the copy if the name is too long. -/
def unlockAndAdd {Value : Type} (fuel : Nat) (fd : Int) (value : Value) :
    Option (NativeResult Value) :=
  let native := native.unlock calls filename
  if (sprintf 40 (getStringUTFChars filename)).isNone then some (native.leavesBuffer value)
  else do
    let preopened ← native.preopened.staticAddFilename fuel filename fd
    some ⟨{ native with preopened }, value, .normal, none⟩

/-- The functions that set a modem line differ only in the line. -/
def nativeStaticSetLine (fuel : Nat) (line : BitVec 32) (flag : Bool) :
    Option (NativeResult Bool) :=
  if (lockPath (getStringUTFChars filename)).isNone then some (native.leavesBuffer false)
  else
    match native.lock calls filename with
    | none => some ⟨native, false, .failLabel, none⟩
    | some native => do
        let (fd, fails, native) ← native.preopen calls filename fuel
        if fails || fd < 0 then some ⟨native, false, .failLabel, none⟩
        else (native.setModemLine calls fd line flag).unlockAndAdd calls filename fuel fd true

/-- `nativeStaticSetDSR`, with `TIOCM_DSR` -/
def nativeStaticSetDSR (fuel : Nat) (flag : Bool) : Option (NativeResult Bool) :=
  native.nativeStaticSetLine calls filename fuel 0x100 flag

/-- `nativeStaticSetRTS`, with `TIOCM_RTS` -/
def nativeStaticSetRTS (fuel : Nat) (flag : Bool) : Option (NativeResult Bool) :=
  native.nativeStaticSetLine calls filename fuel 0x004 flag

/-- `nativeStaticSetDTR`, with `TIOCM_DTR` -/
def nativeStaticSetDTR (fuel : Nat) (flag : Bool) : Option (NativeResult Bool) :=
  native.nativeStaticSetLine calls filename fuel 0x002 flag

/-- `nativeStaticSetSerialPortParams` -/
def nativeStaticSetSerialPortParams (fuel : Nat) (baudrate dataBits stopBits parity : Int) :
    Option (NativeResult Unit) :=
  let cspeed := translateSpeed baudrate
  let throws (native : Native) (foo : String) (msg : Text) : NativeResult Unit :=
    native.throwing calls () .throws "UnsupportedCommOperationException" foo msg
  if (lockPath (getStringUTFChars filename)).isNone then some (native.leavesBuffer ())
  else
    match native.lock calls filename with
    | none => some ⟨native, (), .failLabel, none⟩
    | some native => do
        let (fd, fails, native) ← native.preopen calls filename fuel
        if fails then some ⟨native, (), .failLabel, none⟩
        else if fd < 0 then
          some (throws native "nativeStaticSetSerialPortParams" calls.strerror)
        else if cspeed = -1 then
          some (throws native "" "BaudRate could not be set to the specified value".toList)
        else if setPortParamsFails calls.params cspeed dataBits stopBits parity then
          some (throws native "nativeStaticSetSerialPortParams" calls.strerror)
        else native.unlockAndAdd calls filename fuel fd ()

end Native

/-! ## Failures -/

/-- A call of one of the functions. -/
inductive NativeOpen where
  | openPort (pidField : Bool)
  | setSerialPortParams (baudrate dataBits stopBits parity : Int)
  | setDSR (flag : Bool)
  | setRTS (flag : Bool)
  | setDTR (flag : Bool)
  deriving DecidableEq, Repr

namespace Native

variable (native : Native) (calls : SystemCalls) (filename : String) (fuel : Nat)

/-- The state after a call, and how the call has ended. -/
def call : NativeOpen → Option (Native × Exit)
  | .openPort pidField =>
      (native.openPort calls filename fuel pidField).map fun result => (result.native, result.exit)
  | .setSerialPortParams baudrate dataBits stopBits parity =>
      (native.nativeStaticSetSerialPortParams calls filename fuel baudrate dataBits stopBits
        parity).map fun result => (result.native, result.exit)
  | .setDSR flag =>
      (native.nativeStaticSetDSR calls filename fuel flag).map fun result =>
        (result.native, result.exit)
  | .setRTS flag =>
      (native.nativeStaticSetRTS calls filename fuel flag).map fun result =>
        (result.native, result.exit)
  | .setDTR flag =>
      (native.nativeStaticSetDTR calls filename fuel flag).map fun result =>
        (result.native, result.exit)

/-- Nothing of a failed call is left. -/
structure Clean (before after : Native) (filename : String) : Prop where
  locked : after.locked filename = before.locked filename
  descriptors : ∀ fd ∈ after.descriptors, fd ∈ before.descriptors
  preopened : after.preopened = before.preopened

/-- The first result of `OPEN` other than `EINTR` is a file descriptor, and
`configure_port` succeeds. -/
def Opens : Prop :=
  ∃ fd, openLoop calls.opens = some fd ∧ configurePortFails calls.configure fd = false

/-- The file descriptor of the device among the preopened ports; 0 if there is none. -/
def preopenedFd : Option Int :=
  (native.preopened.findPreopenedPorts fuel filename).map Prod.fst

/-- The device is preopened, or is opened and configured. -/
def Ready : Prop :=
  (∃ fd, native.preopenedFd filename fuel = some fd ∧ 0 < fd) ∨
    (native.preopenedFd filename fuel = some 0 ∧ Opens calls)

/-- Every step after `LOCK` succeeds. -/
def LaterStepsSucceed : NativeOpen → Prop
  | .openPort _ =>
      (∃ fd, native.preopenedFd filename fuel = some fd ∧ fd ≠ 0) ∨
        (native.preopenedFd filename fuel = some 0 ∧ Opens calls)
  | .setSerialPortParams baudrate dataBits stopBits parity =>
      native.Ready calls filename fuel ∧ 0 ≤ baudrate ∧
        setPortParamsFails calls.params (translateSpeed baudrate) dataBits stopBits parity = false
  | .setDSR _ | .setRTS _ | .setDTR _ => native.Ready calls filename fuel

/-- `LOCK` returns 1. -/
def LockFails : Prop :=
  native.locked filename = true ∨ calls.lock = false

/-- What is reported before the first failure and behind it, and what a successful call adds
to the list, fits into `message[80]`, `buf[60]` and `filename[40]`. -/
def TextsFit : NativeOpen → Prop
  | .openPort _ =>
      (native.LockFails calls filename → (getStringUTFChars filename).length ≤ 49 ∧
        (calls.findClass "gnu/io/PortInUseException" = true → calls.gnuSource = false →
          calls.strerror.length ≤ 51)) ∧
      (getStringUTFChars filename).length ≤ 53
  | .setSerialPortParams .. | .setDSR _ | .setRTS _ | .setDTR _ =>
      native.LockFails calls filename ∨ (getStringUTFChars filename).length ≤ 39

/-- A call that stays within its buffers and fails in `LOCK` or not at all. -/
def FailsOnlyInLock (call : NativeOpen) : Prop :=
  call = .openPort false ∨
    (lockPath (getStringUTFChars filename)).isSome = true ∧ native.TextsFit calls filename call ∧
      (native.LockFails calls filename ∨ native.LaterStepsSucceed calls filename fuel call)

section Failures

variable {native calls filename fuel} {held after : Native} {fd : Int}

theorem lock_eq_none_iff :
    native.lock calls filename = none ↔ native.LockFails calls filename := by
  cases held : native.locked filename <;> simp [lock, LockFails, held]

theorem not_lockFails (locks : native.lock calls filename = some held) :
    ¬native.LockFails calls filename := by
  rw [← lock_eq_none_iff, locks]
  simp

/-- After `LOCK` the device is locked, and it was not before. -/
theorem lock_eq_some (locks : native.lock calls filename = some held) :
    native.locked filename = false ∧ held.locked filename = true ∧
      held.preopened = native.preopened := by
  simp only [lock] at locks
  split at locks
  next => simp at locks
  next free =>
    rw [Option.some.injEq] at locks
    subst locks
    simp_all

theorem findPreopenedPorts_spec
    (found : native.findPreopenedPorts filename fuel = some (fd, after)) :
    native.preopenedFd filename fuel = some fd ∧ after.locked = native.locked := by
  simp only [findPreopenedPorts, Option.bind_eq_bind, Option.bind_eq_some_iff] at found
  obtain ⟨⟨foundFd, preopened⟩, search, result⟩ := found
  simp only [Option.some.injEq, Prod.mk.injEq] at result
  obtain ⟨rfl, rfl⟩ := result
  simp [preopenedFd, search]

theorem openDevice_spec (opened : native.openDevice calls = some (fd, after)) :
    openLoop calls.opens = some fd ∧ after.locked = native.locked := by
  simp only [openDevice, Option.bind_eq_bind, Option.bind_eq_some_iff] at opened
  obtain ⟨loopFd, loop, result⟩ := opened
  simp only [Option.some.injEq, Prod.mk.injEq] at result
  obtain ⟨rfl, rfl⟩ := result
  refine ⟨loop, ?_⟩
  split <;> rfl

theorem sprintf_isNone_iff {size : Nat} {text : Text} :
    (sprintf size text).isNone = true ↔ size ≤ text.length := by
  simp [sprintf]

theorem throwJavaException_isSome_iff {exc foo : String} {msg : Text} :
    (throwJavaException calls exc foo msg).isSome = true ↔
      (calls.findClass exc = true → calls.gnuSource = false →
        msg.length + foo.toList.length ≤ 55) := by
  cases found : calls.findClass exc <;> cases source : calls.gnuSource <;>
    simp [throwJavaException, found, source, sprintf]
  omega

/-- The exception of `RXTXPort.open` fits with at most 51 bytes of `strerror(errno)`. -/
theorem portInUseException_isSome_iff :
    (throwJavaException calls "gnu/io/PortInUseException" "open" calls.strerror).isSome = true ↔
      (calls.findClass "gnu/io/PortInUseException" = true → calls.gnuSource = false →
        calls.strerror.length ≤ 51) := by
  have length : "open".toList.length = 4 := rfl
  rw [throwJavaException_isSome_iff, length]
  exact forall_congr' fun _ => forall_congr' fun _ => by omega

section Throwing

variable {Value : Type} (value : Value) (exit : Exit) (exc foo : String) (msg : Text)

@[simp] theorem throwing_native :
    (native.throwing calls value exit exc foo msg).native = native := by
  simp only [throwing]
  split <;> rfl

theorem throwing_exit :
    (native.throwing calls value exit exc foo msg).exit =
      if (throwJavaException calls exc foo msg).isSome = true then exit else .outOfBounds := by
  simp only [throwing]
  split
  next none => simp [none, leavesBuffer]
  next some => simp [some]

end Throwing

theorem opens_iff (opened : openLoop calls.opens = some fd) :
    Opens calls ↔ configurePortFails calls.configure fd = false := by
  constructor
  · intro opens
    obtain ⟨other, same, succeeds⟩ := opens
    rw [opened, Option.some.injEq] at same
    exact same ▸ succeeds
  · intro succeeds
    exact ⟨fd, opened, succeeds⟩

theorem nonneg_of_configured (configured : configurePortFails calls.configure fd = false) :
    0 ≤ fd := by
  simp only [configurePortFails, Bool.or_eq_false_iff, decide_eq_false_iff_not, not_lt]
    at configured
  exact configured.1.1.1.1

theorem preopen_spec {fails : Bool}
    (preopened : native.preopen calls filename fuel = some (fd, fails, after)) :
    after.locked = native.locked ∧
      ((fails = false ∧ 0 ≤ fd) ↔ native.Ready calls filename fuel) := by
  simp only [preopen, Option.bind_eq_bind, Option.bind_eq_some_iff, Prod.exists] at preopened
  obtain ⟨foundFd, found, search, result⟩ := preopened
  obtain ⟨listed, locked⟩ := findPreopenedPorts_spec search
  split at result
  next nonzero =>
    simp only [Option.some.injEq, Prod.mk.injEq] at result
    obtain ⟨rfl, rfl, rfl⟩ := result
    refine ⟨locked, ?_⟩
    simp only [Ready, listed, Option.some.injEq, true_and]
    constructor
    · intro nonneg
      exact .inl ⟨foundFd, rfl, lt_of_le_of_ne nonneg (Ne.symm nonzero)⟩
    · intro ready
      obtain ⟨other, rfl, positive⟩ | ⟨zero, -⟩ := ready
      · exact positive.le
      · exact absurd zero nonzero
  next zero =>
    rw [not_not] at zero
    subst zero
    simp only [Option.bind_eq_some_iff, Prod.exists] at result
    obtain ⟨openFd, opened, open_, result⟩ := result
    simp only [Option.some.injEq, Prod.mk.injEq] at result
    obtain ⟨rfl, rfl, rfl⟩ := result
    obtain ⟨loop, same⟩ := openDevice_spec open_
    refine ⟨same.trans locked, ?_⟩
    simp only [Ready, listed, Option.some.injEq, true_and, opens_iff loop]
    constructor
    · intro configured
      exact .inr configured.1
    · intro ready
      obtain ⟨other, rfl, positive⟩ | configured := ready
      · exact absurd positive (lt_irrefl _)
      · exact ⟨configured, nonneg_of_configured configured⟩

theorem ready_congr (same : held.preopened = native.preopened) :
    held.Ready calls filename fuel ↔ native.Ready calls filename fuel := by
  simp only [Ready, preopenedFd, same]

/-- How a call can end: cleanly in `LOCK`, normally, outside a buffer, or later with the
device locked. -/
inductive CallSpec (native : Native) (filename : String) (condition : Prop) (after : Native) :
    Exit → Prop where
  | inLock {exit : Exit} (held : condition) (abnormal : exit.Fails) (same : after = native) :
      CallSpec native filename condition after exit
  | normal (held : condition) : CallSpec native filename condition after .normal
  | outside (broken : ¬condition) : CallSpec native filename condition after .outOfBounds
  | locked {exit : Exit} (broken : ¬condition) (abnormal : exit.Fails)
      (free : native.locked filename = false) (kept : after.locked filename = true) :
      CallSpec native filename condition after exit

/-- A failure behind `LOCK`. -/
theorem CallSpec.failed {condition : Prop} {exit : Exit} (broken : ¬condition)
    (abnormal : exit.Fails) (locks : native.lock calls filename = some held)
    (same : after.locked = held.locked) : CallSpec native filename condition after exit := by
  obtain ⟨free, taken, -⟩ := lock_eq_some locks
  exact .locked broken abnormal free (same ▸ taken)

/-- The exception thrown then fits into its buffer or not. -/
theorem CallSpec.throwing {Value : Type} {value : Value} {condition : Prop} {exit : Exit}
    {exc foo : String} {msg : Text} (broken : ¬condition) (abnormal : exit.Fails)
    (locks : native.lock calls filename = some held) (same : after.locked = held.locked) :
    CallSpec native filename condition (after.throwing calls value exit exc foo msg).native
      (after.throwing calls value exit exc foo msg).exit := by
  rw [throwing_native, throwing_exit]
  split
  next => exact .failed broken abnormal locks same
  next => exact .outside broken

/-- For `open`, the texts count from the lookup of the path on. -/
theorem failsOnlyInLock_openPort :
    native.FailsOnlyInLock calls filename fuel (.openPort true) ↔
      (lockPath (getStringUTFChars filename)).isSome = true ∧
        native.TextsFit calls filename (.openPort true) ∧
        (native.LockFails calls filename ∨
          native.LaterStepsSucceed calls filename fuel (.openPort true)) := by
  simp [FailsOnlyInLock]

/-- `LOCK` has failed, and its report fits into `message`. -/
theorem CallSpec.openRefused (path : (lockPath (getStringUTFChars filename)).isSome = true)
    (fails : native.LockFails calls filename)
    (short : (getStringUTFChars filename).length ≤ 49) :
    CallSpec native filename (native.FailsOnlyInLock calls filename fuel (.openPort true))
      (native.throwing calls (-1 : Int) .failLabel "gnu/io/PortInUseException" "open"
        calls.strerror).native
      (native.throwing calls (-1 : Int) .failLabel "gnu/io/PortInUseException" "open"
        calls.strerror).exit := by
  rw [failsOnlyInLock_openPort, throwing_native, throwing_exit]
  split
  next exceptionFits =>
    rw [portInUseException_isSome_iff] at exceptionFits
    refine .inLock ⟨path, ⟨?_, by omega⟩, .inl fails⟩ (.inl rfl) rfl
    intro _
    exact ⟨short, exceptionFits⟩
  next exceptionLong =>
    apply CallSpec.outside
    rintro ⟨-, ⟨fits, -⟩, -⟩
    exact exceptionLong (portInUseException_isSome_iff.mpr (fits fails).2)

theorem openPort_spec {pidField : Bool} {result : NativeResult Int}
    (returned : native.openPort calls filename fuel pidField = some result) :
    CallSpec native filename (native.FailsOnlyInLock calls filename fuel (.openPort pidField))
      result.native result.exit := by
  simp only [openPort, sprintf_isNone_iff] at returned
  split at returned
  next noField =>
    rw [Option.some.injEq] at returned
    subst returned
    exact .normal (.inl (by simpa using noField))
  next hasField =>
    obtain rfl : pidField = true := by simpa using hasField
    split at returned
    next noPath =>
      rw [Option.some.injEq] at returned
      subst returned
      apply CallSpec.outside
      simp [failsOnlyInLock_openPort, Option.isNone_iff_eq_none.mp noPath]
    next path =>
      rw [Bool.not_eq_true, Option.isNone_eq_false_iff] at path
      split at returned
      next fails =>
        rw [lock_eq_none_iff] at fails
        split at returned
        next long =>
          rw [Option.some.injEq] at returned
          subst returned
          apply CallSpec.outside
          rw [failsOnlyInLock_openPort]
          rintro ⟨-, ⟨short, -⟩, -⟩
          have := (short fails).1
          simp at long
          omega
        next short =>
          rw [Option.some.injEq] at returned
          subst returned
          refine .openRefused path fails ?_
          simp at short
          omega
      next held locks =>
        rw [failsOnlyInLock_openPort]
        split at returned
        next long =>
          rw [Option.some.injEq] at returned
          subst returned
          apply CallSpec.outside
          rintro ⟨-, ⟨-, short⟩, -⟩
          simp at long
          omega
        next short =>
          have fits : native.TextsFit calls filename (.openPort true) := by
            refine ⟨fun fails => absurd fails (not_lockFails locks), ?_⟩
            simp at short
            omega
          simp only [Option.bind_eq_bind, Option.bind_eq_some_iff, Prod.exists] at returned
          obtain ⟨fd, found, search, returned⟩ := returned
          obtain ⟨listed, locked⟩ := findPreopenedPorts_spec search
          have listedBefore : native.preopenedFd filename fuel = some fd := by
            rw [← listed]
            simp only [preopenedFd, (lock_eq_some locks).2.2]
          split at returned
          next nonzero =>
            rw [Option.some.injEq] at returned
            subst returned
            exact .normal ⟨path, fits, .inr (.inl ⟨fd, listedBefore, nonzero⟩)⟩
          next zero =>
            rw [not_not] at zero
            subst zero
            simp only [Option.bind_eq_some_iff, Prod.exists] at returned
            obtain ⟨fd, opened, openedDevice, returned⟩ := returned
            obtain ⟨loop, same⟩ := openDevice_spec openedDevice
            split at returned
            next fails =>
              rw [Option.some.injEq] at returned
              subst returned
              apply CallSpec.throwing _ (.inl rfl) locks (same.trans locked)
              rintro ⟨-, -, lockFails | succeeds⟩
              · exact not_lockFails locks lockFails
              · simp [LaterStepsSucceed, listedBefore, opens_iff loop, fails] at succeeds
            next configured =>
              rw [Option.some.injEq] at returned
              subst returned
              refine .normal ⟨path, fits, .inr (.inr ⟨listedBefore, (opens_iff loop).mpr ?_⟩)⟩
              simpa using configured

/-- What the functions `nativeStaticSet...` have in common when all their steps have
succeeded. -/
theorem unlockAndAdd_spec {Value : Type} {value : Value} {result : NativeResult Value}
    {call : NativeOpen} (locks : native.lock calls filename = some held)
    (path : (lockPath (getStringUTFChars filename)).isSome = true)
    (succeeds : native.LaterStepsSucceed calls filename fuel call)
    (other : call ≠ .openPort false)
    (texts : native.TextsFit calls filename call ↔
      native.LockFails calls filename ∨ (getStringUTFChars filename).length ≤ 39)
    (returned : after.unlockAndAdd calls filename fuel fd value = some result) :
    CallSpec native filename (native.FailsOnlyInLock calls filename fuel call) result.native
      result.exit := by
  simp only [unlockAndAdd, sprintf_isNone_iff] at returned
  split at returned
  next long =>
    rw [Option.some.injEq] at returned
    subst returned
    apply CallSpec.outside
    rintro (same | ⟨-, fits, -⟩)
    · exact other same
    · rcases texts.mp fits with fails | short
      · exact not_lockFails locks fails
      · omega
  next short =>
    simp only [Option.bind_eq_bind, Option.bind_eq_some_iff, Option.some.injEq] at returned
    obtain ⟨added, -, rfl⟩ := returned
    exact .normal (.inr ⟨path, texts.mpr (.inr (by omega)), .inr succeeds⟩)

theorem nativeStaticSetLine_spec {line : BitVec 32} {flag : Bool} {result : NativeResult Bool}
    {call : NativeOpen} (other : call ≠ .openPort false)
    (texts : native.TextsFit calls filename call ↔
      native.LockFails calls filename ∨ (getStringUTFChars filename).length ≤ 39)
    (steps : native.LaterStepsSucceed calls filename fuel call ↔
      native.Ready calls filename fuel)
    (returned : native.nativeStaticSetLine calls filename fuel line flag = some result) :
    CallSpec native filename (native.FailsOnlyInLock calls filename fuel call) result.native
      result.exit := by
  simp only [nativeStaticSetLine] at returned
  split at returned
  next noPath =>
    rw [Option.some.injEq] at returned
    subst returned
    apply CallSpec.outside
    simp [FailsOnlyInLock, other, Option.isNone_iff_eq_none.mp noPath]
  next path =>
    rw [Bool.not_eq_true, Option.isNone_eq_false_iff] at path
    split at returned
    next fails =>
      rw [Option.some.injEq] at returned
      subst returned
      rw [lock_eq_none_iff] at fails
      exact .inLock (.inr ⟨path, texts.mpr (.inl fails), .inl fails⟩) (.inl rfl) rfl
    next held locks =>
      simp only [Option.bind_eq_bind, Option.bind_eq_some_iff, Prod.exists] at returned
      obtain ⟨fd, fails, opened, preopened, returned⟩ := returned
      obtain ⟨locked, ready⟩ := preopen_spec preopened
      rw [ready_congr (lock_eq_some locks).2.2] at ready
      split at returned
      next failed =>
        rw [Option.some.injEq] at returned
        subst returned
        refine .failed ?_ (.inl rfl) locks locked
        rintro (same | ⟨-, -, lockFails | succeeds⟩)
        · exact other same
        · exact not_lockFails locks lockFails
        · rw [steps, ← ready] at succeeds
          simp only [Bool.or_eq_true, decide_eq_true_eq] at failed
          grind
      next succeeded =>
        apply unlockAndAdd_spec locks path _ other texts returned
        rw [steps, ← ready]
        simpa using succeeded

theorem nativeStaticSetSerialPortParams_spec {baudrate dataBits stopBits parity : Int}
    {result : NativeResult Unit}
    (returned : native.nativeStaticSetSerialPortParams calls filename fuel baudrate dataBits
      stopBits parity = some result) :
    CallSpec native filename
      (native.FailsOnlyInLock calls filename fuel
        (.setSerialPortParams baudrate dataBits stopBits parity)) result.native result.exit := by
  simp only [nativeStaticSetSerialPortParams] at returned
  split at returned
  next noPath =>
    rw [Option.some.injEq] at returned
    subst returned
    apply CallSpec.outside
    simp [FailsOnlyInLock, Option.isNone_iff_eq_none.mp noPath]
  next path =>
    rw [Bool.not_eq_true, Option.isNone_eq_false_iff] at path
    split at returned
    next fails =>
      rw [Option.some.injEq] at returned
      subst returned
      rw [lock_eq_none_iff] at fails
      exact .inLock (.inr ⟨path, .inl fails, .inl fails⟩) (.inl rfl) rfl
    next held locks =>
      simp only [Option.bind_eq_bind, Option.bind_eq_some_iff, Prod.exists] at returned
      obtain ⟨fd, fails, opened, preopened, returned⟩ := returned
      obtain ⟨locked, ready⟩ := preopen_spec preopened
      rw [ready_congr (lock_eq_some locks).2.2] at ready
      -- Each of the later failures breaks the condition in its own way.
      have condition : native.FailsOnlyInLock calls filename fuel
            (.setSerialPortParams baudrate dataBits stopBits parity) →
          (fails = false ∧ 0 ≤ fd) ∧ 0 ≤ baudrate ∧
            setPortParamsFails calls.params (translateSpeed baudrate) dataBits stopBits parity =
              false := by
        rintro (same | ⟨-, -, lockFails | succeeds⟩)
        · simp at same
        · exact absurd lockFails (not_lockFails locks)
        · exact ⟨ready.mpr succeeds.1, succeeds.2⟩
      split at returned
      next failed =>
        rw [Option.some.injEq] at returned
        subst returned
        refine .failed ?_ (.inl rfl) locks locked
        grind
      next =>
        split at returned
        next negative =>
          rw [Option.some.injEq] at returned
          subst returned
          refine .throwing ?_ (.inr rfl) locks locked
          grind
        next =>
          split at returned
          next badSpeed =>
            rw [Option.some.injEq] at returned
            subst returned
            rw [translateSpeed_eq_neg_one_iff] at badSpeed
            refine .throwing ?_ (.inr rfl) locks locked
            grind
          next goodSpeed =>
            rw [translateSpeed_eq_neg_one_iff] at goodSpeed
            split at returned
            next paramsFail =>
              rw [Option.some.injEq] at returned
              subst returned
              refine .throwing ?_ (.inr rfl) locks locked
              grind
            next paramsSet =>
              refine unlockAndAdd_spec locks path ⟨ready.mp ?_, ?_, ?_⟩ (by simp) Iff.rfl returned
              all_goals grind

theorem call_spec {call : NativeOpen} {exit : Exit}
    (returned : native.call calls filename fuel call = some (after, exit)) :
    CallSpec native filename (native.FailsOnlyInLock calls filename fuel call) after exit := by
  cases call <;> simp only [Native.call, Option.map_eq_some_iff, Prod.mk.injEq] at returned <;>
    obtain ⟨result, returned, rfl, rfl⟩ := returned
  case openPort => exact openPort_spec returned
  case setSerialPortParams => exact nativeStaticSetSerialPortParams_spec returned
  case setDSR | setRTS | setDTR =>
    exact nativeStaticSetLine_spec (by simp) Iff.rfl Iff.rfl returned

end Failures

/-- A call stays within its buffers and leaves nothing behind if it fails, exactly if it can
fail in `LOCK` only and the texts fit. -/
theorem failed_call_clean_iff {native after : Native} {calls : SystemCalls} {filename : String}
    {fuel : Nat} {call : NativeOpen} {exit : Exit}
    (returned : native.call calls filename fuel call = some (after, exit)) :
    (exit ≠ .outOfBounds ∧ (exit.Fails → Clean native after filename)) ↔
      native.FailsOnlyInLock calls filename fuel call := by
  cases call_spec returned with
  | inLock held abnormal same =>
      subst same
      refine iff_of_true ⟨?_, fun _ => ⟨rfl, fun _ member => member, rfl⟩⟩ held
      rintro rfl
      simp [Exit.Fails] at abnormal
  | normal held => exact iff_of_true ⟨by simp, by simp [Exit.Fails]⟩ held
  | outside broken => exact iff_of_false (fun meets => meets.1 rfl) broken
  | locked broken abnormal free kept =>
      refine iff_of_false (fun meets => ?_) broken
      have same := (meets.2 abnormal).locked
      rw [free, kept] at same
      simp at same

/-- A process that has opened nothing yet. -/
def initial : Native where
  locked := fun _ => false
  descriptors := [0, 1, 2]
  modemLines := fun _ => 0
  preopened := .empty

/-- System calls that all succeed, with 7 as the new file descriptor. -/
def succeeding : SystemCalls where
  lock := true
  opens := [.eintr, .opened 7]
  configure := ⟨true, true, true, true⟩
  params := ⟨true, true, fun _ => true, fun _ => true, some 115200, true, true⟩
  tiocmget := 0
  tiocmset := true
  unlock := true
  findClass := fun exc => exc = "gnu/io/PortInUseException"
  strerror := "Input/output error".toList
  gnuSource := false

/-- While somebody holds the lock, `open` fails and leaves nothing behind. -/
theorem failed_call_clean_locked :
    ∃ before after : Native, before.locked "/dev/ttyS0" = true ∧
      before.call succeeding "/dev/ttyS0" 1 (.openPort true) = some (after, .failLabel) ∧
      Clean before after "/dev/ttyS0" := by
  let before : Native := { initial with locked := fun _ => true }
  have returned :
      before.call succeeding "/dev/ttyS0" 1 (.openPort true) = some (before, .failLabel) := rfl
  have fits : before.TextsFit succeeding "/dev/ttyS0" (.openPort true) :=
    ⟨fun _ => ⟨by decide, fun _ _ => by decide⟩, by decide⟩
  have clean := (failed_call_clean_iff returned).mpr (.inr ⟨by decide, fits, .inl (.inl rfl)⟩)
  exact ⟨before, before, rfl, returned, clean.2 (.inl rfl)⟩

/-- `tcgetattr` fails: `open` throws, the device stays locked, and the file
descriptor stays open. -/
theorem failed_open_leaves_lock :
    ∃ result after,
      initial.openPort { succeeding with configure := ⟨false, true, true, true⟩ } "/dev/ttyS0" 1
        true = some result ∧
      result.exception =
        some ⟨"gnu/io/PortInUseException", "Input/output error in open".toList⟩ ∧
      initial.call { succeeding with configure := ⟨false, true, true, true⟩ } "/dev/ttyS0" 1
        (.openPort true) = some (after, .failLabel) ∧
      after.locked "/dev/ttyS0" = true ∧ 7 ∈ after.descriptors ∧
      ¬Clean initial after "/dev/ttyS0" := by
  refine ⟨_, _, rfl, ?_, rfl, rfl, ?_, ?_⟩
  · decide
  · decide
  · intro clean
    exact absurd clean.locked (by decide)

section Returns

variable {native : Native} {calls : SystemCalls} {filename : String} {fuel : Nat}
  {nodes : List PreopenedRef}

theorem openLoop_isSome_iff {results : List OpenResult} :
    (openLoop results).isSome = true ↔ ∃ result ∈ results, result ≠ .eintr := by
  induction results with
  | nil => simp [openLoop]
  | cons result results ih => cases result <;> simp [openLoop, ih]

/-- `open` returns if the list of preopened ports is linked and `OPEN` is not
interrupted for ever. -/
theorem openPort_returns
    (linked : native.preopened.Linked native.preopened.preopenedPort nodes)
    (enough : nodes.length ≤ fuel) (ends : ∃ result ∈ calls.opens, result ≠ .eintr)
    (pidField : Bool) : (native.openPort calls filename fuel pidField).isSome = true := by
  simp only [openPort]
  split
  next => rfl
  next =>
    split
    next => rfl
    next =>
      split
      next => split <;> rfl
      next held locks =>
        rw [← (lock_eq_some locks).2.2] at linked
        obtain ⟨⟨fd, preopened⟩, found⟩ := Option.isSome_iff_exists.mp
          (PreopenedPorts.findPreopenedPorts_isSome filename linked enough)
        obtain ⟨opened, loop⟩ := Option.isSome_iff_exists.mp (openLoop_isSome_iff.mpr ends)
        simp only [findPreopenedPorts, found, openDevice, loop, Option.bind_eq_bind,
          Option.bind_some]
        split
        next => rfl
        next =>
          split
          next => rfl
          next => split <;> rfl

end Returns

end Native

end Jrxtx.SerialImp
