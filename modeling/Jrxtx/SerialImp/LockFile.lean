import Jrxtx.Transition.System

/-!
# The lock file of a device

Any number of processes in `fhs_lock` and `fhs_unlock` for one device, one file
operation at a time.  The lock directory is modelled at the name of the device's
lock file: its entry is the file that the name refers to.  A file keeps its
identity while it is open, so a process may read from a file that is no longer
in the directory.
-/

namespace Jrxtx.SerialImp

open Jrxtx.Transition

/-- A lock file: the process that created it and a number that tells its files
apart. -/
structure LockFile (Pid : Type*) where
  creator : Pid
  serial : Nat
  deriving DecidableEq, Repr

/-- The next file operation of a process. -/
inductive LockPc (Pid : Type*) where
  | idle
  /-- `check_lock_status`: the lock directory, the permissions and unexpected lock
  files in other directories -/
  | checkLockStatus
  /-- `is_device_locked`: `stat(file, &buf)` -/
  | stat
  /-- `fd = open(file, O_RDONLY)` -/
  | openExisting
  /-- `read(fd, pid_buffer, 11)`; without a file `fd` is -1 -/
  | readPid (opened : Option (LockFile Pid))
  /-- `kill(pid, 0)`; `found` tells whether the read put `pid` into the buffer -/
  | kill (opened : Option (LockFile Pid)) (found : Bool) (pid : Pid)
  /-- `unlink(file)` of a stale lock -/
  | unlinkStale (opened : Option (LockFile Pid))
  /-- `fhs_lock`: `open(file, O_CREAT | O_WRONLY | O_EXCL, 0444)` -/
  | create
  /-- `write(fd, lockinfo, 11)` -/
  | write (file : LockFile Pid)
  /-- `check_lock_pid`: `open(file, O_RDONLY)` -/
  | unlockOpen (getppid openpid : Pid)
  /-- `read(fd, pid_buffer, 11)` -/
  | unlockRead (getppid openpid : Pid) (file : LockFile Pid)
  /-- the comparison of `lockpid` -/
  | unlockCheck (getppid openpid : Pid) (file : LockFile Pid) (lockpid : Pid)
  /-- `fhs_unlock`: `unlink(file)` -/
  | unlockUnlink (file : LockFile Pid)
  deriving DecidableEq, Repr

/-- What a process does next. -/
inductive LockAction (Pid : Type*) where
  | fhsLock
  | fhsUnlock (getppid openpid : Pid)
  /-- the next operation, as the files and processes determine it -/
  | advance
  /-- the next operation, which fails for another reason -/
  | fail
  /-- a read that leaves the buffer as it was -/
  | garbage (pid : Pid)
  deriving DecidableEq, Repr

/-- A step of a process, or its death. -/
inductive LockLabel (Pid : Type*) where
  | process (pid : Pid) (action : LockAction Pid)
  | die (pid : Pid)
  deriving DecidableEq, Repr

/-- The lock file and the processes.  `holding` tells whether `fhs_lock` has
returned 0 without a return from `fhs_unlock` since; no step reads it. -/
structure LockState (Pid : Type*) where
  entry : Option (LockFile Pid)
  content : LockFile Pid → Option Pid
  created : Nat
  alive : Pid → Bool
  pc : Pid → LockPc Pid
  holding : Pid → Bool

namespace LockState

variable {Pid : Type*} [DecidableEq Pid] (state : LockState Pid) (pid : Pid)

/-- Move one process to another operation. -/
def goto (pc : LockPc Pid) : LockState Pid :=
  { state with pc := Function.update state.pc pid pc }

/-- `fhs_lock` returns 0. -/
def acquired : LockState Pid :=
  { state.goto pid .idle with holding := Function.update state.holding pid true }

/-- `fhs_unlock` returns. -/
def released : LockState Pid :=
  { state.goto pid .idle with holding := Function.update state.holding pid false }

/-- One operation of a process. -/
def stepProcess : LockPc Pid → LockAction Pid → Option (LockState Pid)
  | .idle, .fhsLock => some (state.goto pid .checkLockStatus)
  | .idle, .fhsUnlock getppid openpid => some (state.goto pid (.unlockOpen getppid openpid))
  | .checkLockStatus, .advance => some (state.goto pid .stat)
  | .checkLockStatus, .fail => some (state.goto pid .idle)
  | .stat, .advance =>
      if state.entry.isSome then some (state.goto pid .openExisting)
      else some (state.goto pid .create)
  | .stat, .fail => some (state.goto pid .create)
  | .openExisting, .advance => some (state.goto pid (.readPid state.entry))
  | .openExisting, .fail => some (state.goto pid (.readPid none))
  | .readPid opened, .advance =>
      match opened.bind state.content with
      | some found => some (state.goto pid (.kill opened true found))
      | none => none
  | .readPid opened, .garbage other => some (state.goto pid (.kill opened false other))
  | .kill opened _ other, .advance =>
      if state.alive other then some (state.goto pid .create)
      else some (state.goto pid (.unlinkStale opened))
  | .unlinkStale _, .advance =>
      if state.entry.isSome then some { state.goto pid .create with entry := none }
      else some (state.goto pid .idle)
  | .unlinkStale _, .fail => some (state.goto pid .idle)
  | .create, .advance =>
      match state.entry with
      | some _ => some (state.goto pid .idle)
      | none =>
          let file : LockFile Pid := ⟨pid, state.created⟩
          some
            { state.goto pid (.write file) with
              entry := some file
              content := Function.update state.content file none
              created := state.created + 1 }
  | .create, .fail => some (state.goto pid .idle)
  | .write file, .advance =>
      some
        { state.acquired pid with content := Function.update state.content file (some pid) }
  | .write _, .fail => some (state.acquired pid)
  | .unlockOpen getppid openpid, .advance =>
      match state.entry with
      | some file => some (state.goto pid (.unlockRead getppid openpid file))
      | none => some (state.released pid)
  | .unlockOpen _ _, .fail => some (state.released pid)
  | .unlockRead getppid openpid file, .advance =>
      match state.content file with
      | some lockpid => some (state.goto pid (.unlockCheck getppid openpid file lockpid))
      | none => none
  | .unlockRead getppid openpid file, .garbage lockpid =>
      if state.content file = none then
        some (state.goto pid (.unlockCheck getppid openpid file lockpid))
      else none
  | .unlockRead _ _ _, .fail => some (state.released pid)
  | .unlockCheck getppid openpid file lockpid, .advance =>
      if lockpid ≠ pid ∧ lockpid ≠ getppid ∧ lockpid ≠ openpid then some (state.released pid)
      else some (state.goto pid (.unlockUnlink file))
  | .unlockUnlink _, .advance => some { state.released pid with entry := none }
  | .unlockUnlink _, .fail => some (state.released pid)
  | _, _ => none

/-- One step of the whole system; only live processes do anything. -/
def step : LockLabel Pid → Option (LockState Pid)
  | .process pid action =>
      if state.alive pid then state.stepProcess pid (state.pc pid) action else none
  | .die pid => some { state with alive := Function.update state.alive pid false }

end LockState

variable {Pid : Type*} [DecidableEq Pid]

omit [DecidableEq Pid] in
/-- No process is in `fhs_lock` or `fhs_unlock` or holds the lock; a lock file that
is there was left by a process that has died, and every file that is not empty
contains the process that created it. -/
structure Unlocked (state : LockState Pid) : Prop where
  idle : ∀ pid, state.pc pid = .idle
  free : ∀ pid, state.holding pid = false
  left : ∀ file, state.entry = some file → state.alive file.creator = false
  content : ∀ file pid, state.content file = some pid → file.creator = pid

/-- The processes that lock and unlock one device. -/
def lockers (Pid : Type*) [DecidableEq Pid] : System (LockState Pid) (LockLabel Pid) where
  start := Unlocked
  step := LockState.step

end Jrxtx.SerialImp
