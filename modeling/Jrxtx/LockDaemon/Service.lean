import Jrxtx.SerialImp.IsDeviceLocked
import Jrxtx.Transition.Exclusive

/-!
# The lock file service

`fhs_lock` and `fhs_unlock` of the lock daemon on the file system, while the clients that have
asked for locks start and exit.  A lock file contains the pid of a client.  The client that it
names holds the lock while it lives.  There is a daemon process for each connection, but where
no request is begun while another one is handled, each device is an exclusive resource.
-/

namespace Jrxtx.LockDaemon

open Jrxtx.SerialImp Jrxtx.SerialImp.BaseName Jrxtx.SerialImp.IsDeviceLocked Jrxtx.Transition

/-! ## The requests -/

/-- A file in a directory that is there. -/
def createFile (fs : FileSystem) (dir name contents : Text) : FileSystem :=
  { fs with
    files := fun id other => if fs.dirs dir = some id ∧ other = name then some contents
      else fs.files id other }

/-- The outcomes of the system calls of one request, and what lies in its variables. -/
structure Calls where
  getpid : Int
  getppid : Int
  /-- `stat(filename, &buf)` of the device -/
  device : Option Numbers
  /-- `check_group_uucp` returns 0 -/
  groupUucp : Bool
  /-- the variables of `is_device_locked` -/
  locals : Locals
  /-- how many bytes `is_device_locked` reads of the lock file -/
  readPid : Nat
  /-- `unlink(file)` of a stale lock -/
  unlinkStale : Bool
  /-- `open(file, O_CREAT | O_WRONLY | O_EXCL, 0444)`, of a file that is not there -/
  create : Bool
  /-- `strerror(errno)` where it fails -/
  strerror : Text
  /-- how many bytes `write(fd, lockinfo, 11)` has written -/
  write : Nat
  /-- how many bytes `check_lock_pid` reads; `none` if `open` or `read` fails -/
  unlockRead : Option Nat
  /-- its `pid_buffer[12]` before the `read` -/
  unlockBuffer : Text
  /-- `unlink(file)` of `fhs_unlock` -/
  unlink : Bool
  /-- `syslog` gets by with a format that has conversions -/
  conversions : Text → Bool

section Requests

variable (fs : FileSystem) (noProcess : Int → Bool) (calls : Calls)

/-- What the calls of `is_device_locked` depend on. -/
def Calls.world : World :=
  ⟨fs, calls.device, noProcess, calls.readPid, calls.unlinkStale, calls.conversions⟩

/-- `check_lock_status` -/
def checkLockStatus (filename : Text) : Option (Int × FileSystem) :=
  if (fs.dirs lockdir).isNone then some (1, fs)
  else if !calls.groupUucp then some (1, fs)
  else do
    let (locked, fs) ← (calls.world fs noProcess).daemonIsDeviceLocked calls.locals filename
    some (if locked ≠ 0 then 1 else 0, fs)

/-- `fhs_lock`: what it returns, and the file system afterwards. -/
def fhsLock (filename : Text) (pid : Int) : Option (Int × FileSystem) := do
  let p ← fhsLockName filename
  let (status, fs) ← checkLockStatus fs noProcess calls filename
  if status ≠ 0 then some (1, fs)
  else if calls.create && (fs.file lockdir (lockfilePrefix ++ p)).isNone then do
    let text ← sprintf 12 (print10d pid ++ ['\n'])
    some (0, createFile fs lockdir (lockfilePrefix ++ p) (text.take calls.write))
  else do
    (calls.world fs noProcess).syslog (creatingFailed (lockPrefix ++ p) calls.strerror)
    some (1, fs)

/-- `check_lock_pid` -/
def checkLockPid (name : Text) (openpid : Int) : Option Int :=
  match fs.file lockdir name, calls.unlockRead with
  | some contents, some count =>
      let pidBuffer := (readInto contents count calls.unlockBuffer).take 11
      let lockpid := atoi pidBuffer
      if lockpid ≠ openpid then
        if noProcess lockpid then some 0
        else do
          let message ← sprintf 80
            (notOurs (textAt pidBuffer 0) calls.getpid calls.getppid openpid)
          (calls.world fs noProcess).syslog message
          some 1
      else some 0
  | _, _ => some 1

/-- `fhs_unlock` -/
def fhsUnlock (filename : Text) (openpid : Int) : Option (Int × FileSystem) := do
  let p ← fhsUnlockName filename
  let _msg ← sprintf 80 ("fhs_unlock ".toList ++ filename ++ ['\n'])
  let _file ← sprintf 80 (lockPrefix ++ p)
  -- without the device, the lock file is left
  if calls.device.isNone then some (0, fs)
  else
    let status ← checkLockPid fs noProcess calls (lockfilePrefix ++ p) openpid
    if status = 0 then
      some (0, if calls.unlink then fs.unlink lockdir (lockfilePrefix ++ p) else fs)
    else some (1, fs)

/-- `LOCK` and `UNLOCK` -/
def perform : Request → Option (Int × FileSystem)
  | .lock filename pid => fhsLock fs noProcess calls filename pid
  | .unlock filename pid => fhsUnlock fs noProcess calls filename pid

end Requests

/-! ## A request by itself -/

section System

variable (fs : FileSystem) (noProcess : Int → Bool) (calls : Calls) (p : Text)

/-- What `check_lock_status` comes upon. -/
def Calls.status : LockStatus :=
  if (fs.dirs lockdir).isNone || !calls.groupUucp then .denied
  else
    match (calls.world fs noProcess).unexpectedFile calls.locals World.daemonSearches p with
    | some file => .unexpected file
    | none =>
        match fs.file lockdir (lockfilePrefix ++ p) with
        | none => .free
        | some contents =>
            if noProcess ((calls.world fs noProcess).foundPid calls.locals contents) then
              .stale calls.unlinkStale
            else .live

/-- The file system behind it. -/
def Calls.cleaned : FileSystem :=
  if calls.status fs noProcess p = .stale true then fs.unlink lockdir (lockfilePrefix ++ p)
  else fs

/-- The `pid_buffer` of `check_lock_pid` -/
def Calls.pidBuffer : Option Text :=
  match fs.file lockdir (lockfilePrefix ++ p), calls.unlockRead with
  | some contents, some count => some (readInto contents count calls.unlockBuffer)
  | _, _ => none

/-- The outcomes of the system calls of a request, from the file system. -/
def Calls.system : SystemCalls where
  status := calls.status fs noProcess p
  create := calls.create &&
    ((calls.cleaned fs noProcess p).file lockdir (lockfilePrefix ++ p)).isNone
  strerror := calls.strerror
  device := calls.device.isSome
  pidBuffer := calls.pidBuffer fs p
  noProcess := (calls.pidBuffer fs p).any fun pidBuffer => noProcess (atoi (pidBuffer.take 11))
  getpid := calls.getpid
  getppid := calls.getppid
  conversions := calls.conversions

end System

/-! ## The service -/

/-- The lock files, and the processes that do not exist. -/
structure ServiceState where
  fs : FileSystem
  noProcess : Int → Bool

inductive ServiceLabel where
  | request (request : Request) (calls : Calls)
  | starts (pid : Int)
  | exits (pid : Int)

/-- A pid of a client. -/
def IsPid (pid : Int) : Prop :=
  0 ≤ pid ∧ pid < 2 ^ 31

instance (pid : Int) : Decidable (IsPid pid) :=
  inferInstanceAs (Decidable (_ ∧ _))

/-- Requests are for pids, and lock files are read and written as a whole. -/
def ServiceLabel.Whole : ServiceLabel → Prop
  | .request (.lock _ pid) calls => IsPid pid ∧ 11 ≤ calls.write ∧ 11 ≤ calls.readPid
  | .request (.unlock _ _) calls => ∀ count ∈ calls.unlockRead, 11 ≤ count
  | .starts _ | .exits _ => True

instance : ∀ label, Decidable (ServiceLabel.Whole label)
  | .request (.lock _ pid) calls =>
      inferInstanceAs (Decidable (IsPid pid ∧ 11 ≤ calls.write ∧ 11 ≤ calls.readPid))
  | .request (.unlock _ _) calls =>
      inferInstanceAs (Decidable (∀ count ∈ calls.unlockRead, 11 ≤ count))
  | .starts _ | .exits _ => inferInstanceAs (Decidable True)

/-- Every lock file contains a pid. -/
def WellFormed (fs : FileSystem) : Prop :=
  ∀ p contents, fs.file lockdir (lockfilePrefix ++ p) = some contents →
    ∃ pid, IsPid pid ∧ contents = lockinfo pid

/-- The requests, of which none is begun while another one is handled, and the processes. -/
def service : System ServiceState ServiceLabel where
  start := fun state => WellFormed state.fs
  step := fun state label =>
    if label.Whole then
      match label with
      | .request request calls =>
          (perform state.fs state.noProcess calls request).map fun served =>
            { state with fs := served.2 }
      | .starts pid => some { state with noProcess := Function.update state.noProcess pid false }
      | .exits pid => some { state with noProcess := Function.update state.noProcess pid true }
    else none

/-- The live process that the lock file names. -/
def ServiceState.holder (state : ServiceState) (p : Text) : Option Int :=
  (state.fs.file lockdir (lockfilePrefix ++ p)).bind fun contents =>
    if state.noProcess (atoi contents) then none else some (atoi contents)

/-- The process on whose behalf something happens. -/
def ServiceLabel.client : ServiceLabel → Int
  | .request (.lock _ pid) _ => pid
  | .request (.unlock _ pid) _ => pid
  | .starts pid => pid
  | .exits pid => pid

/-! ## What a request does -/

section Files

variable {fs : FileSystem} {dir name other contents : Text}

theorem file_unlink (fs : FileSystem) (dir name other : Text) :
    (fs.unlink dir name).file dir other = if other = name then none else fs.file dir other := by
  cases there : fs.dirs dir with
  | none => simp [FileSystem.file, FileSystem.unlink, there]
  | some id => simp [FileSystem.file, FileSystem.unlink, there]

theorem file_createFile (there : (fs.dirs dir).isSome) :
    (createFile fs dir name contents).file dir other =
      if other = name then some contents else fs.file dir other := by
  obtain ⟨id, there⟩ := Option.isSome_iff_exists.mp there
  simp [FileSystem.file, createFile, there]

end Files

section Requests

variable {fs : FileSystem} {noProcess : Int → Bool} {calls : Calls} {filename p : Text}
  {pid openpid : Int} {result : Int × FileSystem}

@[simp] theorem world_fs : (calls.world fs noProcess).fs = fs := rfl

@[simp] theorem world_noProcess : (calls.world fs noProcess).noProcess = noProcess := rfl

@[simp] theorem world_unlinks : (calls.world fs noProcess).unlinks = calls.unlinkStale := rfl

@[simp] theorem system_status :
    (calls.system fs noProcess p).status = calls.status fs noProcess p := rfl

theorem prints_iff {message : Text} :
    (calls.world fs noProcess).Prints message ↔ (calls.system fs noProcess p).Prints message :=
  Iff.rfl

/-- What `check_lock_status` comes to. -/
theorem checkLockStatus_eq (scanned : isDeviceLockedName filename = some p) :
    checkLockStatus fs noProcess calls filename =
      if ∀ message ∈ (calls.system fs noProcess p).statusMessages (lockPrefix ++ p),
          (calls.system fs noProcess p).Prints message then
        some (if (calls.system fs noProcess p).refuses then 1 else 0,
          calls.cleaned fs noProcess p)
      else none := by
  simp only [checkLockStatus, SystemCalls.statusMessages, SystemCalls.refuses, Calls.cleaned,
    system_status, ← prints_iff]
  cases directory : fs.dirs lockdir with
  | none => simp [Calls.status, directory]
  | some id =>
      cases group : calls.groupUucp with
      | false => simp [Calls.status, directory, group]
      | true =>
          simp only [Calls.status, directory, group, World.daemonIsDeviceLocked, scanned,
            World.lockFile, World.syslog, world_fs, world_noProcess, world_unlinks,
            Option.bind_eq_bind, Option.bind_some]
          cases found : (calls.world fs noProcess).unexpectedFile calls.locals
              World.daemonSearches p with
          | some file =>
              by_cases prints : (calls.world fs noProcess).Prints (unexpectedLockFile file) <;>
                simp [prints]
          | none =>
              cases there : fs.file lockdir (lockfilePrefix ++ p) with
              | none => simp
              | some contents =>
                  cases dead : noProcess ((calls.world fs noProcess).foundPid calls.locals contents)
                    with
                  | false => simp [dead]
                  | true =>
                      by_cases first :
                        (calls.world fs noProcess).Prints (removingStale (lockPrefix ++ p)) <;>
                      by_cases second :
                        (calls.world fs noProcess).Prints (unableToRemove (lockPrefix ++ p)) <;>
                      obtain unlinks | unlinks := calls.unlinkStale.eq_false_or_eq_true <;>
                        simp [dead, first, second, unlinks]

theorem status_stale {unlinks : Bool} (found : calls.status fs noProcess p = .stale unlinks) :
    (fs.dirs lockdir).isSome ∧ calls.unlinkStale = unlinks ∧
      ∃ contents, fs.file lockdir (lockfilePrefix ++ p) = some contents ∧
        noProcess ((calls.world fs noProcess).foundPid calls.locals contents) = true := by
  unfold Calls.status at found
  split_ifs at found with passes
  split at found
  next => cases found
  next =>
    split at found
    next => cases found
    next contents there =>
      split_ifs at found with dead
      refine ⟨?_, LockStatus.stale.inj found, contents, there, dead⟩
      rw [Bool.or_eq_true, not_or, Option.isNone_iff_eq_none] at passes
      exact Option.isSome_iff_ne_none.mpr passes.1

theorem status_free (found : calls.status fs noProcess p = .free) :
    (fs.dirs lockdir).isSome ∧ fs.file lockdir (lockfilePrefix ++ p) = none := by
  unfold Calls.status at found
  split_ifs at found with passes
  split at found
  next => cases found
  next =>
    split at found
    next absent =>
      rw [Bool.or_eq_true, not_or, Option.isNone_iff_eq_none] at passes
      exact ⟨Option.isSome_iff_ne_none.mpr passes.1, absent⟩
    next => split_ifs at found

/-- What `fhs_lock` comes to. -/
inductive LockDoes (fs : FileSystem) (noProcess : Int → Bool) (calls : Calls) (p : Text)
    (pid : Int) : Int × FileSystem → Prop where
  | refused : LockDoes fs noProcess calls p pid (1, fs)
  | removed {contents : Text} (there : fs.file lockdir (lockfilePrefix ++ p) = some contents)
      (dead : noProcess ((calls.world fs noProcess).foundPid calls.locals contents) = true) :
      LockDoes fs noProcess calls p pid (1, fs.unlink lockdir (lockfilePrefix ++ p))
  | created (directory : (fs.dirs lockdir).isSome)
      (free : fs.file lockdir (lockfilePrefix ++ p) = none) :
      LockDoes fs noProcess calls p pid
        (0, createFile fs lockdir (lockfilePrefix ++ p)
          ((print10d pid ++ ['\n']).take calls.write))
  | recovered {contents : Text} (directory : (fs.dirs lockdir).isSome)
      (there : fs.file lockdir (lockfilePrefix ++ p) = some contents)
      (dead : noProcess ((calls.world fs noProcess).foundPid calls.locals contents) = true) :
      LockDoes fs noProcess calls p pid
        (0, createFile (fs.unlink lockdir (lockfilePrefix ++ p)) lockdir (lockfilePrefix ++ p)
          ((print10d pid ++ ['\n']).take calls.write))

/-- Behind `check_lock_status`, a lock file is created or the file system stays as it is. -/
theorem created_or_failed {after : FileSystem}
    (ran : (if calls.create && (after.file lockdir (lockfilePrefix ++ p)).isNone then
        (sprintf 12 (print10d pid ++ ['\n'])).bind fun text =>
          some (0, createFile after lockdir (lockfilePrefix ++ p) (text.take calls.write))
      else
        ((calls.world after noProcess).syslog
            (creatingFailed (lockPrefix ++ p) calls.strerror)).bind fun _ => some (1, after)) =
      some result) :
    after.file lockdir (lockfilePrefix ++ p) = none ∧
        result = (0, createFile after lockdir (lockfilePrefix ++ p)
          ((print10d pid ++ ['\n']).take calls.write)) ∨
      result = (1, after) := by
  split at ran
  next creates =>
    obtain ⟨text, printed, ran⟩ := Option.bind_eq_some_iff.mp ran
    obtain rfl := Option.some.inj (Option.ite_none_right_eq_some.mp printed).2
    rw [Bool.and_eq_true, Option.isNone_iff_eq_none] at creates
    exact .inl ⟨creates.2, (Option.some.inj ran).symm⟩
  next =>
    obtain ⟨-, -, ran⟩ := Option.bind_eq_some_iff.mp ran
    exact .inr (Option.some.inj ran).symm

theorem lockDoes (ran : fhsLock fs noProcess calls filename pid = some result) :
    ∃ p, fhsLockName filename = some p ∧ LockDoes fs noProcess calls p pid result := by
  simp only [fhsLock, Option.bind_eq_bind, Option.bind_eq_some_iff, Prod.exists] at ran
  obtain ⟨p, scanned, status, after, checked, ran⟩ := ran
  refine ⟨p, scanned, ?_⟩
  rw [checkLockStatus_eq scanned, Option.ite_none_right_eq_some, Option.some.injEq,
    Prod.mk.injEq] at checked
  obtain ⟨-, rfl, rfl⟩ := checked
  cases found : calls.status fs noProcess p with
  | denied | live | unexpected _ =>
      obtain rfl : result = (1, fs) := by
        simpa [SystemCalls.refuses, Calls.cleaned, found, eq_comm] using ran
      exact .refused
  | stale unlinks =>
      obtain ⟨directory, -, contents, there, dead⟩ := status_stale found
      simp only [SystemCalls.refuses, Calls.cleaned, system_status, found, Bool.false_eq_true,
        if_false, ne_eq, not_true, LockStatus.stale.injEq] at ran
      cases unlinks with
      | true =>
          obtain ⟨-, rfl⟩ | rfl := created_or_failed ran
          · exact .recovered directory there dead
          · exact .removed there dead
      | false =>
          obtain ⟨absent, -⟩ | rfl := created_or_failed ran
          · simp [there] at absent
          · exact .refused
  | free =>
      obtain ⟨directory, -⟩ := status_free found
      simp only [SystemCalls.refuses, Calls.cleaned, system_status, found, Bool.false_eq_true,
        if_false, ne_eq, not_true, reduceCtorEq] at ran
      obtain ⟨absent, rfl⟩ | rfl := created_or_failed ran
      · exact .created directory absent
      · exact .refused

/-- What `fhs_unlock` comes to. -/
inductive UnlockDoes (fs : FileSystem) (noProcess : Int → Bool) (calls : Calls) (p : Text)
    (openpid : Int) : Int × FileSystem → Prop where
  | kept (status : Int) : UnlockDoes fs noProcess calls p openpid (status, fs)
  | removed {contents : Text} {count : Nat}
      (there : fs.file lockdir (lockfilePrefix ++ p) = some contents)
      (read : calls.unlockRead = some count)
      (own : atoi ((readInto contents count calls.unlockBuffer).take 11) = openpid ∨
        noProcess (atoi ((readInto contents count calls.unlockBuffer).take 11)) = true) :
      UnlockDoes fs noProcess calls p openpid
        (0, fs.unlink lockdir (lockfilePrefix ++ p))

theorem unlockDoes (ran : fhsUnlock fs noProcess calls filename openpid = some result) :
    ∃ p, fhsUnlockName filename = some p ∧
      UnlockDoes fs noProcess calls p openpid result := by
  simp only [fhsUnlock, Option.bind_eq_bind, Option.bind_eq_some_iff] at ran
  obtain ⟨p, scanned, -, -, -, -, ran⟩ := ran
  refine ⟨p, scanned, ?_⟩
  split at ran
  next =>
    obtain rfl := Option.some.inj ran
    exact .kept 0
  next =>
    rw [Option.bind_eq_some_iff] at ran
    obtain ⟨status, checked, ran⟩ := ran
    split at ran
    next isOwn =>
      obtain rfl := Option.some.inj ran
      split
      next =>
        subst isOwn
        unfold checkLockPid at checked
        split at checked
        next contents count there read =>
          dsimp only at checked
          split at checked
          next other =>
            split at checked
            next dead => exact .removed there read (.inr dead)
            next => simp [Option.bind_eq_some_iff] at checked
          next same => exact .removed there read (.inl (not_not.mp same))
        next => simp at checked
      next => exact .kept 0
    next =>
      obtain rfl := Option.some.inj ran
      exact .kept 1

end Requests

/-! ## The holder of a lock -/

theorem atoi_whole {pid : Int} (isPid : IsPid pid) : atoi (lockinfo pid) = pid := by
  simpa using atoi_lockinfo [] isPid

section Holder

variable {state : ServiceState} {fs : FileSystem} {noProcess : Int → Bool} {calls : Calls}
  {p name : Text} {pid openpid : Int} {result : Int × FileSystem}

theorem holder_eq_some_iff (wellFormed : WellFormed fs) :
    (ServiceState.mk fs noProcess).holder p = some pid ↔
      fs.file lockdir (lockfilePrefix ++ p) = some (lockinfo pid) ∧ IsPid pid ∧
        noProcess pid = false := by
  simp only [ServiceState.holder, Option.bind_eq_some_iff, Option.ite_none_left_eq_some,
    Option.some.injEq]
  constructor
  · rintro ⟨contents, there, alive, rfl⟩
    obtain ⟨pid, isPid, rfl⟩ := wellFormed p contents there
    rw [atoi_whole isPid] at alive ⊢
    exact ⟨there, isPid, by simpa using alive⟩
  · rintro ⟨there, isPid, alive⟩
    exact ⟨_, there, by simp [atoi_whole isPid, alive], atoi_whole isPid⟩

/-- A lock file that names a dead process has no holder. -/
theorem holder_eq_none_of_dead (there : fs.file lockdir (lockfilePrefix ++ p) =
    some (lockinfo pid)) (isPid : IsPid pid) (dead : noProcess pid = true) :
    (ServiceState.mk fs noProcess).holder p = none := by
  simp [ServiceState.holder, there, atoi_whole isPid, dead]

theorem holder_unlink :
    (ServiceState.mk (fs.unlink lockdir (lockfilePrefix ++ name)) noProcess).holder p =
      if p = name then none else (ServiceState.mk fs noProcess).holder p := by
  simp only [ServiceState.holder, file_unlink, List.append_cancel_left_eq]
  split <;> rfl

theorem holder_createFile (directory : (fs.dirs lockdir).isSome) (isPid : IsPid pid) :
    (ServiceState.mk (createFile fs lockdir (lockfilePrefix ++ name) (lockinfo pid))
        noProcess).holder p =
      if p = name then (if noProcess pid then none else some pid)
      else (ServiceState.mk fs noProcess).holder p := by
  simp only [ServiceState.holder, file_createFile directory, List.append_cancel_left_eq]
  split
  next => simp [atoi_whole isPid]
  next => rfl

theorem WellFormed.unlink (wellFormed : WellFormed fs) :
    WellFormed (fs.unlink lockdir (lockfilePrefix ++ name)) := by
  intro p contents there
  rw [file_unlink] at there
  split at there
  next => simp at there
  next => exact wellFormed p contents there

theorem WellFormed.createFile (wellFormed : WellFormed fs) (directory : (fs.dirs lockdir).isSome)
    (isPid : IsPid pid) :
    WellFormed (createFile fs lockdir (lockfilePrefix ++ name) (lockinfo pid)) := by
  intro p contents there
  rw [file_createFile directory] at there
  split at there
  next => exact ⟨pid, isPid, (Option.some.inj there).symm⟩
  next => exact wellFormed p contents there

/-- The pid that is read of a whole lock file. -/
theorem foundPid_whole (isPid : IsPid pid) (whole : 11 ≤ calls.readPid) :
    (calls.world fs noProcess).foundPid calls.locals (lockinfo pid) = pid := by
  rw [World.foundPid, Calls.world, readInto_lockinfo isPid whole]
  exact sscanfPid_lockinfo _ isPid _

theorem unlockPid_whole (isPid : IsPid pid) {count : Nat} (whole : 11 ≤ count) (buffer : Text) :
    atoi ((readInto (lockinfo pid) count buffer).take 11) = pid := by
  rw [readInto_lockinfo isPid whole, ← lockinfo_length isPid, List.take_left, atoi_whole isPid]

/-- The holder of one lock, before and after a process may have taken it. -/
def Takes (before after : Option Int) (client : Int) : Prop :=
  after = before ∨ before = none ∧ after = some client

/-- The holder of one lock, before and after a process may have given it back. -/
def Gives (before after : Option Int) (client : Int) : Prop :=
  after = before ∨ before = some client ∧ after = none

/-- A lock file that is taken for stale has no holder. -/
theorem holder_eq_none_of_found {contents : Text} (wellFormed : WellFormed fs)
    (there : fs.file lockdir (lockfilePrefix ++ name) = some contents) (read : 11 ≤ calls.readPid)
    (dead : noProcess ((calls.world fs noProcess).foundPid calls.locals contents) = true) :
    (ServiceState.mk fs noProcess).holder name = none := by
  obtain ⟨other, isOther, rfl⟩ := wellFormed name contents there
  rw [foundPid_whole isOther read] at dead
  exact holder_eq_none_of_dead there isOther dead

/-- What is written into a lock file. -/
theorem print10d_of_isPid (isPid : IsPid pid) : print10d pid ++ ['\n'] = lockinfo pid := by
  obtain ⟨value, rfl⟩ := Int.eq_ofNat_of_zero_le isPid.1
  have digits : printI value = Nat.toDigits 10 value := String.toList_ofList
  rw [print10d, lockinfo, digits, Int.toNat_natCast]

theorem LockDoes.takes (does : LockDoes fs noProcess calls name pid result)
    (wellFormed : WellFormed fs) (isPid : IsPid pid) (write : 11 ≤ calls.write)
    (read : 11 ≤ calls.readPid) (p : Text) :
    WellFormed result.2 ∧
      Takes ((ServiceState.mk fs noProcess).holder p)
        ((ServiceState.mk result.2 noProcess).holder p) pid := by
  have written : (print10d pid ++ ['\n']).take calls.write = lockinfo pid := by
    rw [print10d_of_isPid isPid]
    exact List.take_of_length_le ((lockinfo_length isPid).trans_le write)
  -- the new lock has a holder if the client still lives
  have taken (free : (ServiceState.mk fs noProcess).holder p = none) :
      Takes ((ServiceState.mk fs noProcess).holder p) (if noProcess pid then none else some pid)
        pid := by
    split
    next => exact .inl free.symm
    next => exact .inr ⟨free, rfl⟩
  cases does with
  | refused => exact ⟨wellFormed, .inl rfl⟩
  | removed there dead =>
      refine ⟨wellFormed.unlink, .inl ?_⟩
      rw [holder_unlink]
      split
      next same => rw [same, holder_eq_none_of_found wellFormed there read dead]
      next => rfl
  | created directory free =>
      rw [written]
      refine ⟨wellFormed.createFile directory isPid, ?_⟩
      rw [holder_createFile directory isPid]
      split
      next same => exact taken (by simp [ServiceState.holder, same, free])
      next => exact .inl rfl
  | recovered directory there dead =>
      rw [written]
      refine ⟨wellFormed.unlink.createFile directory isPid, ?_⟩
      rw [holder_createFile (by exact directory) isPid, holder_unlink]
      split
      next same => exact taken (same ▸ holder_eq_none_of_found wellFormed there read dead)
      next => exact .inl rfl

theorem UnlockDoes.gives (does : UnlockDoes fs noProcess calls name openpid result)
    (wellFormed : WellFormed fs) (whole : ∀ count ∈ calls.unlockRead, 11 ≤ count) (p : Text) :
    WellFormed result.2 ∧
      Gives ((ServiceState.mk fs noProcess).holder p)
        ((ServiceState.mk result.2 noProcess).holder p) openpid ∧
      (p ≠ name → (ServiceState.mk result.2 noProcess).holder p =
        (ServiceState.mk fs noProcess).holder p) := by
  cases does with
  | kept => exact ⟨wellFormed, .inl rfl, fun _ => rfl⟩
  | removed there read own =>
      refine ⟨wellFormed.unlink, ?_, fun other => by rw [holder_unlink, if_neg other]⟩
      obtain ⟨other, isOther, rfl⟩ := wellFormed name _ there
      rw [unlockPid_whole isOther (whole _ read)] at own
      rw [holder_unlink]
      split
      next same =>
        subst same
        cases alive : noProcess other with
        | true =>
            rw [holder_eq_none_of_dead there isOther alive]
            exact .inl rfl
        | false =>
            obtain rfl : other = openpid := own.resolve_right (by simp [alive])
            exact .inr ⟨(holder_eq_some_iff wellFormed).mpr ⟨there, isOther, alive⟩, rfl⟩
      next => exact .inl rfl

theorem takes_starts (client : Int) (p : Text) :
    Takes ((ServiceState.mk fs noProcess).holder p)
      ((ServiceState.mk fs (Function.update noProcess client false)).holder p) client := by
  unfold ServiceState.holder
  cases there : fs.file lockdir (lockfilePrefix ++ p) with
  | none => exact .inl rfl
  | some contents =>
      by_cases same : atoi contents = client
      · cases before : noProcess client <;> simp [Takes, same, before]
      · exact .inl (by simp [same])

theorem gives_exits (client : Int) (p : Text) :
    Gives ((ServiceState.mk fs noProcess).holder p)
      ((ServiceState.mk fs (Function.update noProcess client true)).holder p) client := by
  unfold ServiceState.holder
  cases there : fs.file lockdir (lockfilePrefix ++ p) with
  | none => exact .inl rfl
  | some contents =>
      by_cases same : atoi contents = client
      · cases before : noProcess client <;> simp [Gives, same, before]
      · exact .inl (by simp [same])

end Holder

/-! ## Runs -/

/-- `UNLOCK` of the device by the process, or its end. -/
def ServiceLabel.Releases (p : Text) (pid : Int) : ServiceLabel → Prop
  | .request (.unlock filename openpid) _ => fhsUnlockName filename = some p ∧ openpid = pid
  | .exits other => other = pid
  | _ => False

section Runs

variable {state next final : ServiceState} {label : ServiceLabel} {labels : List ServiceLabel}
  {p : Text} {pid : Int}

/-- Every step keeps the lock files whole, and the holder of a lock is changed only by a
process that takes it while it is free, or gives it back. -/
theorem service_step (wellFormed : WellFormed state.fs)
    (stepped : service.step state label = some next) (p : Text) :
    WellFormed next.fs ∧
      (Takes (state.holder p) (next.holder p) label.client ∨
        Gives (state.holder p) (next.holder p) label.client ∧
          (label.Releases p label.client ∨ next.holder p = state.holder p)) := by
  simp only [service, Option.ite_none_right_eq_some] at stepped
  obtain ⟨whole, stepped⟩ := stepped
  cases label with
  | request request calls =>
      rw [Option.map_eq_some_iff] at stepped
      obtain ⟨served, performed, rfl⟩ := stepped
      cases request with
      | lock filename pid =>
          obtain ⟨name, -, does⟩ := lockDoes performed
          have takes := does.takes wellFormed whole.1 whole.2.1 whole.2.2 p
          exact ⟨takes.1, .inl takes.2⟩
      | unlock filename pid =>
          obtain ⟨name, scanned, does⟩ := unlockDoes performed
          obtain ⟨kept, gives, others⟩ := does.gives wellFormed whole p
          refine ⟨kept, .inr ⟨gives, ?_⟩⟩
          by_cases same : p = name
          · exact .inl ⟨same ▸ scanned, rfl⟩
          · exact .inr (others same)
  | starts pid =>
      obtain rfl := Option.some.inj stepped
      exact ⟨wellFormed, .inl (takes_starts pid p)⟩
  | exits pid =>
      obtain rfl := Option.some.inj stepped
      exact ⟨wellFormed, .inr ⟨gives_exits pid p, .inl rfl⟩⟩

theorem service_wellFormed (reachable : service.Reachable state) : WellFormed state.fs :=
  reachable.invariant (fun _ wellFormed => wellFormed)
    fun _ _ _ wellFormed stepped => (service_step wellFormed stepped []).1

/-- The exclusive resource in any state. -/
def resource : System (Option Int) (ExclusiveEvent Int) :=
  { exclusive Int with start := fun _ => True }

/-- The service refines an exclusive resource for each device: its holder is the live process
that the lock file names, and only that process takes the lock or gives it back. -/
theorem service_simulates_exclusive (p : Text) :
    Simulation service resource (fun state => state.holder p)
      fun label event => event.agent = label.client where
  start := fun _ _ => trivial
  step := by
    intro state label next reachable stepped
    obtain ⟨-, (same | ⟨free, taken⟩) | ⟨same | ⟨held, given⟩, -⟩⟩ :=
      service_step (service_wellFormed reachable) stepped p
    · exact .inl same
    · exact .inr ⟨.acquire label.client, rfl, by simp [resource, exclusive, free, taken]⟩
    · exact .inl same
    · exact .inr ⟨.release label.client, rfl, by simp [resource, exclusive, held, given]⟩

end Runs

/-! ## From the line to the lock -/

section Agreement

variable {fs : FileSystem} {noProcess : Int → Bool} {calls : Calls} {front filename p : Text}
  {pid openpid : Int}

/-- A name that is scanned by itself is not empty, and scanned alike behind a keyword. -/
theorem scannedBehind_of_scannedName (front : Text)
    (scanned : scannedName filename = some p) :
    scannedBehind front filename = some p := by
  have nonempty : filename ≠ [] := by
    rintro rfl
    cases scanned
  rw [scannedBehind_of_ne_nil front nonempty, ← scanned, scannedBehind, scannedName,
    List.nil_append, List.length_nil, Nat.zero_add]

theorem fhsLock_agrees (front : Text) (pid : Int) (scanned : scannedName filename = some p) :
    (fhsLock fs noProcess calls filename pid).map (fun served => decide (served.1 = 0)) =
      ((calls.system fs noProcess p).fhsLock front filename pid).toOption := by
  have name : fhsLockName filename = some p := scanned
  rw [SystemCalls.fhsLock_eq (scannedBehind_of_scannedName front scanned)]
  simp only [fhsLock, name, checkLockStatus_eq scanned, Option.bind_eq_bind, Option.bind_some]
  split
  next =>
    cases refuses : (calls.system fs noProcess p).refuses with
    | true => simp [Except.toOption]
    | false =>
        have create : (calls.system fs noProcess p).create = (calls.create &&
          ((calls.cleaned fs noProcess p).file lockdir (lockfilePrefix ++ p)).isNone) := rfl
        have prints :
            (calls.world (calls.cleaned fs noProcess p) noProcess).Prints
                (creatingFailed (lockPrefix ++ p) calls.strerror) ↔
              (calls.system fs noProcess p).Prints
                (creatingFailed (lockPrefix ++ p) (calls.system fs noProcess p).strerror) :=
          Iff.rfl
        simp only [Option.bind_some, Bool.false_eq_true, if_false, ne_eq, not_true,
          SystemCalls.createLockFile_eq, create, sprintf, SystemCalls.lockinfo_fits_iff,
          World.syslog, prints]
        split
        next => split <;> rfl
        next => split <;> rfl
  next => rfl

theorem refusal_agrees (message : Text) :
    ((sprintf 80 message).bind fun message =>
        ((calls.world fs noProcess).syslog message).bind fun _ => some (1 : Int)).map
        (fun status => decide (status = 0)) =
      (SystemCalls.print 80 message >>= fun _ =>
        (calls.system fs noProcess p).syslog message >>= fun _ => .ok false).toOption := by
  simp only [sprintf, SystemCalls.print, World.syslog, SystemCalls.syslog, prints_iff (p := p)]
  split
  next =>
    simp only [Option.bind_some, ok_bind]
    split <;> rfl
  next => rfl

theorem checkLockPid_agrees :
    (checkLockPid fs noProcess calls (lockfilePrefix ++ p) openpid).map
        (fun status => decide (status = 0)) =
      ((calls.system fs noProcess p).checkLockPid openpid).toOption := by
  have pidBuffer : (calls.system fs noProcess p).pidBuffer = calls.pidBuffer fs p := rfl
  have dead : (calls.system fs noProcess p).noProcess =
    (calls.pidBuffer fs p).any fun pidBuffer => noProcess (atoi (pidBuffer.take 11)) := rfl
  simp only [checkLockPid, SystemCalls.checkLockPid, pidBuffer, dead, Calls.pidBuffer]
  cases there : fs.file lockdir (lockfilePrefix ++ p) with
  | none => rfl
  | some contents =>
      cases read : calls.unlockRead with
      | none => rfl
      | some count =>
          simp only [Option.any_some]
          split
          next =>
            split
            next => rfl
            next => exact refusal_agrees _
          next => rfl

theorem fhsUnlock_agrees (front : Text) (openpid : Int)
    (scanned : scannedName filename = some p) :
    (fhsUnlock fs noProcess calls filename openpid).map (fun served => decide (served.1 = 0)) =
      ((calls.system fs noProcess p).fhsUnlock front filename openpid).toOption := by
  have name : fhsUnlockName filename = some p := scanned
  have device : (calls.system fs noProcess p).device = calls.device.isSome := rfl
  simp only [fhsUnlock, SystemCalls.fhsUnlock, name, scannedBehind_of_scannedName front scanned,
    inBuffer_some, device, Option.bind_eq_bind, Option.bind_some, ok_bind, sprintf,
    SystemCalls.print]
  split
  next =>
    simp only [Option.bind_some, ok_bind]
    split
    next =>
      cases stat : calls.device with
      | none => rfl
      | some numbers =>
          simp only [Option.isNone_some, Bool.false_eq_true, if_false, Option.isSome_some,
            if_true, Option.bind_some, ok_bind, ← checkLockPid_agrees]
          cases checkLockPid fs noProcess calls (lockfilePrefix ++ p) openpid with
          | none => rfl
          | some status => by_cases own : status = 0 <;> simp [own]
    next => rfl
  next => rfl

/-- `LOCK` and `UNLOCK` on the file system return what they return by themselves. -/
theorem perform_agrees (front : Text) {request : Request}
    (scanned : scannedName request.filename = some p) :
    (perform fs noProcess calls request).map (fun served => decide (served.1 = 0)) =
      ((calls.system fs noProcess p).perform front request).toOption := by
  cases request with
  | lock filename pid => exact fhsLock_agrees front pid scanned
  | unlock filename openpid => exact fhsUnlock_agrees front openpid scanned

end Agreement

section Lines

variable {fs : FileSystem} {noProcess : Int → Bool} {state : ServiceState} {calls : Calls}
  {hostname stale front p filename : Text} {pid : Int} {request : RequestLine}

end Lines

/-! ## A service for examples -/

/-- Calls that succeed, on the device with the given numbers. -/
def sound : Calls where
  getpid := 3
  getppid := 1
  device := some ⟨0, 4, 64⟩
  groupUucp := true
  locals := ⟨⟨0, 0, 0⟩, 0, List.replicate 20 nul, 0⟩
  readPid := 11
  unlinkStale := true
  create := true
  strerror := []
  write := 11
  unlockRead := some 11
  unlockBuffer := List.replicate 12 nul
  unlink := true
  conversions := fun _ => false

end Jrxtx.LockDaemon
