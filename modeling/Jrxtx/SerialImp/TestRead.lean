import Jrxtx.SerialImp.Device
import Jrxtx.SerialImp.FhsLock
import Jrxtx.SerialImp.StaticOpen

/-!
# Probing a device

`RXTXCommDriver.testRead` locks a device, opens it, reads from it with settings of its own
and gives everything back, on each of its exits.  What it may leave behind is what
`is_device_locked` does before: a lock file whose pid could not be read is removed, whoever
holds the lock.
-/

namespace Jrxtx.SerialImp

open Jrxtx.LockDaemon

/-! ## Settings -/

/-- The settings of a device, as `tcgetattr` returns them. -/
structure Ttyset where
  iflag : BitVec 32
  oflag : BitVec 32
  cflag : BitVec 32
  lflag : BitVec 32
  vmin : BitVec 8
  vtime : BitVec 8
  /-- the other entries of `c_cc`, `c_line` and the speeds -/
  others : List (BitVec 32)
  deriving DecidableEq, Repr

/-- `cfmakeraw` -/
def Ttyset.cfmakeraw (ttyset : Ttyset) : Ttyset :=
  { ttyset with
    iflag := ttyset.iflag &&& ~~~0x5eb
    oflag := ttyset.oflag &&& ~~~0x1
    lflag := ttyset.lflag &&& ~~~0x804b
    cflag := ttyset.cflag &&& ~~~(csize ||| parenb) ||| cs8
    vmin := 1
    vtime := 0 }

/-- What `READ(fd, &c, 1)` returns. -/
inductive ProbeRead where
  | delivers
  | eagain
  | fails
  deriving DecidableEq, Repr

/-- The outcomes of the system calls of one `testRead`. -/
structure ProbeCalls where
  lock : LockCalls
  opens : List OpenResult
  tcgetattr : Bool
  /-- `fcntl(fd, F_GETFL)` -/
  getFlags : Bool
  /-- `fcntl(fd, F_SETFL, O_NONBLOCK)` -/
  setFlags : Bool
  /-- whether `tcsetattr(fd, TCSANOW, &ttyset)` succeeds, and the settings that it leaves -/
  tcsetattr : Ttyset → Bool × Ttyset
  read : ProbeRead
  /-- `tcsetattr(fd, TCSANOW, &saved_termios)` -/
  restore : Bool

namespace ProbeCalls

/-- The calls of process 100 if all of them succeed and deliver what they are asked for. -/
def successful (pidBuffer : Text) : ProbeCalls where
  lock :=
    { getpid := 100, getppid := 1, statLockDir := true, groupUucp := true
      unexpectedLockFile := false, statLockFile := true, readPid := 11, pidBuffer, pid := 0
      unlinkStale := true, create := true, write := 11, unlockOpen := true
      unlockRead := some 11, unlockBuffer := [], unlink := true }
  opens := [.opened 3]
  tcgetattr := true
  getFlags := true
  setFlags := true
  tcsetattr := fun ttyset => (true, ttyset)
  read := .delivers
  restore := true

variable (calls : ProbeCalls)

/-- `tcsetattr(fd, TCSANOW, &saved_termios)` -/
def restored (savedTermios termios : Ttyset) : Ttyset :=
  if calls.restore then savedTermios else termios

/-- The block for `PORT_SERIAL`: the value of `ret`, and the settings afterwards. -/
def probeSerial (termios : Ttyset) : Bool × Ttyset :=
  if !calls.tcgetattr then (false, termios)
  else if !calls.getFlags then (false, termios)
  else
    let savedTermios := termios
    if !calls.setFlags then (false, termios)
    else
      let (succeeds, termios) := calls.tcsetattr { termios.cfmakeraw with vmin := 0, vtime := 0 }
      if !succeeds then (false, calls.restored savedTermios termios)
      else (calls.read ≠ .fails, calls.restored savedTermios termios)

/-- Every exit leaves the settings as they were. -/
theorem probeSerial_restores {calls : ProbeCalls} (restores : calls.restore = true)
    (termios : Ttyset) : (calls.probeSerial termios).2 = termios := by
  fun_cases probeSerial calls termios with
  | case1 => rfl
  | case2 => rfl
  | case3 => rfl
  | case4 => exact if_pos restores
  | case5 => exact if_pos restores

/-- `PORT_SERIAL` -/
def portSerial : Int := 1

/-- What lies between `OPEN` and the label `END`. -/
def probe (fd portType : Int) (termios : Ttyset) : Bool × Ttyset :=
  if fd < 0 then (false, termios)
  else if portType = portSerial then calls.probeSerial termios
  else (true, termios)

theorem probe_restores {calls : ProbeCalls} (restores : calls.restore = true) (fd portType : Int)
    (termios : Ttyset) : (calls.probe fd portType termios).2 = termios := by
  fun_cases probe calls fd portType termios with
  | case1 => rfl
  | case2 => exact probeSerial_restores restores termios
  | case3 => rfl

end ProbeCalls

/-! ## The probe -/

/-- The lock files, the settings of the device that the name refers to, and the file
descriptors of the process. -/
structure Machine where
  dir : LockDir
  termios : Ttyset
  descriptors : List Int

namespace Machine

variable (machine : Machine)

/-- A file descriptor that `OPEN` has returned; -1 is none. -/
def opened (fd : Int) : Machine :=
  if fd < 0 then machine else { machine with descriptors := fd :: machine.descriptors }

/-- `CLOSE(fd)` -/
def close (fd : Int) : Machine :=
  if fd < 0 then machine else { machine with descriptors := machine.descriptors.erase fd }

/-- `testRead`: what it returns, and what it leaves. -/
def testRead (calls : ProbeCalls) (name : Text) (portType : Int) : Option (Bool × Machine) := do
  let (taken, dir) ← machine.dir.fhsLock calls.lock name
  let machine := { machine with dir }
  if !taken then some (false, machine)
  else
    let fd ← openLoop calls.opens
    let machine := machine.opened fd
    let (ret, termios) := calls.probe fd portType machine.termios
    let dir ← machine.dir.fhsUnlock calls.lock name calls.lock.getpid
    some (ret, { machine with dir, termios }.close fd)

/-- Nothing tells the machine from what it was before, apart from lock files of processes
that have died. -/
structure NoTrace (before after : Machine) : Prop where
  locks : after.dir.live = before.dir.live
  termios : after.termios = before.termios
  descriptors : after.descriptors = before.descriptors

section Steps

variable {machine : Machine} {calls : ProbeCalls} {name path : Text}

@[simp] theorem opened_dir (fd : Int) : (machine.opened fd).dir = machine.dir := by
  rw [opened]
  split <;> rfl

@[simp] theorem opened_termios (fd : Int) : (machine.opened fd).termios = machine.termios := by
  rw [opened]
  split <;> rfl

theorem close_opened (dir : LockDir) (termios : Ttyset) (fd : Int) :
    (⟨dir, termios, (machine.opened fd).descriptors⟩ : Machine).close fd =
      ⟨dir, termios, machine.descriptors⟩ := by
  by_cases failed : fd < 0
  · simp [opened, close, failed]
  · simp [opened, close, failed]

/-- The probe leaves what `check_lock_status` has left. -/
theorem testRead_eq (fits : lockPath name = some path) (restores : calls.restore = true)
    (ends : (openLoop calls.opens).isSome) (unlocks : machine.dir.UnlocksTaken calls.lock name)
    (portType : Int) :
    ∃ ret, machine.testRead calls name portType =
      some (ret, { machine with dir := (machine.dir.checkLockStatus calls.lock path).2 }) := by
  rcases LockDir.fhsLock_cases machine.dir calls.lock fits with lock | ⟨-, lock⟩
  · exact ⟨false, by simp [testRead, lock]⟩
  · obtain ⟨fd, opens⟩ := Option.isSome_iff_exists.mp ends
    have unlock := LockDir.fhsUnlock_of_taken fits unlocks lock
    have same := ProbeCalls.probe_restores restores fd portType machine.termios
    refine ⟨(calls.probe fd portType machine.termios).1, ?_⟩
    simp only [testRead, lock, Option.bind_eq_bind, Option.bind_some, Bool.not_true,
      Bool.false_eq_true, if_false, opens, opened_dir, opened_termios, unlock, same]
    rw [close_opened]

/-- A probe leaves no trace while the lock files of live processes are complete and are read
completely. -/
theorem noTrace_of_complete (fits : lockPath name = some path) (restores : calls.restore = true)
    (ends : (openLoop calls.opens).isSome) (unlocks : machine.dir.UnlocksTaken calls.lock name)
    (portType : Int) (reads : 11 ≤ calls.lock.readPid)
    (complete : ∀ file, machine.dir.live path = some file →
      (0 ≤ file.creator ∧ file.creator < 2 ^ 31) ∧ file.contents = lockinfo file.creator) :
    ∃ ret after, machine.testRead calls name portType = some (ret, after) ∧
      NoTrace machine after := by
  obtain ⟨ret, run⟩ := testRead_eq fits restores ends unlocks portType
  have keeps := LockDir.not_steals_of_complete reads complete
  exact ⟨ret, _, run, LockDir.live_checkLockStatus_iff.mpr keeps, rfl, rfl⟩

/-- A probe leaves no trace if and only if the path of the lock file fits into its buffer and
the lock file of no live process is unlinked. -/
theorem testRead_leaves_no_trace_iff (calls : ProbeCalls) (name : Text) (portType : Int)
    (ends : (openLoop calls.opens).isSome) (restores : calls.restore = true)
    (unlocks : machine.dir.UnlocksTaken calls.lock name) :
    (∃ ret after, machine.testRead calls name portType = some (ret, after) ∧
        NoTrace machine after) ↔
      ∃ path, lockPath name = some path ∧ ¬ machine.dir.Steals calls.lock path := by
  cases fits : lockPath name with
  | none => simp [testRead, LockDir.fhsLock, fits]
  | some path =>
      obtain ⟨ret, run⟩ := testRead_eq fits restores ends unlocks portType
      rw [run]
      constructor
      · rintro ⟨_, _, same, noTrace⟩
        cases same
        exact ⟨path, rfl, LockDir.live_checkLockStatus_iff.mp noTrace.locks⟩
      · rintro ⟨_, same, keeps⟩
        cases same
        exact ⟨ret, _, rfl, LockDir.live_checkLockStatus_iff.mpr keeps, rfl, rfl⟩

end Steps

/-- A serial port nobody has locked, with calls that all succeed. -/
theorem testRead_leaves_no_trace_unlocked :
    ∃ ret after,
      (⟨⟨fun _ => none, fun _ => false⟩, ⟨0x500, 5, 0xbf, 0x8a3b, 1, 0, []⟩, [0, 1, 2]⟩ :
        Machine).testRead (.successful []) "/dev/ttyS0".toList 1 = some (ret, after) ∧
      NoTrace ⟨⟨fun _ => none, fun _ => false⟩, ⟨0x500, 5, 0xbf, 0x8a3b, 1, 0, []⟩, [0, 1, 2]⟩
        after :=
  (testRead_leaves_no_trace_iff (.successful []) "/dev/ttyS0".toList 1 rfl rfl
    (LockDir.unlocksTaken_of_complete (by decide) (by decide) ⟨rfl, ⟨11, rfl, le_rfl⟩, rfl⟩)).mpr
    ⟨"/var/lock/LCK..ttyS0".toList, rfl, by simp [LockDir.Steals, LockDir.live]⟩

/-- The empty lock file of process 200, which has not written its pid yet, with 9999 in the
buffer: the file is removed. -/
theorem empty_lock_file_removed :
    ¬ ∀ (machine : Machine) (calls : ProbeCalls) (name : Text) (portType : Int) (ret : Bool)
      (after : Machine), calls.restore = true → machine.dir.UnlocksTaken calls.lock name →
        machine.testRead calls name portType = some (ret, after) → NoTrace machine after := by
  intro always
  have noTrace := always
    ⟨⟨Function.update (fun _ => none) "/var/lock/LCK..ttyS0".toList (some ⟨200, []⟩),
      fun pid => pid = 9999⟩, ⟨0x500, 5, 0xbf, 0x8a3b, 1, 0, []⟩, [0, 1, 2]⟩
    (.successful "9999\n".toList) "/dev/ttyS0".toList 1 _ _ rfl
    (LockDir.unlocksTaken_of_complete (by decide) (by decide) ⟨rfl, ⟨11, rfl, le_rfl⟩, rfl⟩) rfl
  have same := congrFun noTrace.locks "/var/lock/LCK..ttyS0".toList
  revert same
  decide

end Machine

end Jrxtx.SerialImp
