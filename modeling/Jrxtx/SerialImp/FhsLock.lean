import Mathlib.Logic.Function.Basic
import Jrxtx.LockDaemon.Lines

/-!
# Locking and unlocking by the bytes of the lock file

`fhs_lock` and `fhs_unlock` of one process, with the outcomes of their system calls and
with what lies in the buffers that a short or failing `read` does not fill.  An index
outside the file name, and a path that does not fit into `file[80]`, have no result.
`Jrxtx.SerialImp.LockFile` has the same functions as steps of many processes.
-/

namespace Jrxtx.SerialImp

open Jrxtx.LockDaemon

/-! ## The path of the lock file -/

/-- `while (*(p - 1) != '/' && j-- != 1) p--`, with `p` at the index `j`. -/
def lockBase (filename : Text) : Nat → Option Nat
  | 0 => none
  | j + 1 => if filename[j]? = some '/' ∨ j = 0 then some (j + 1) else lockBase filename j

/-- `sprintf(file, "%s/LCK..%s", LOCKDIR, p)` -/
def lockPath (filename : Text) : Option Text := do
  let p ← lockBase filename filename.length
  sprintf 80 (lockPrefix ++ filename.drop p)

theorem exists_lockBase (filename : Text) (j : Nat) :
    ∃ p ≤ j + 1, lockBase filename (j + 1) = some p := by
  induction j with
  | zero => exact ⟨1, le_rfl, by simp [lockBase]⟩
  | succ j ih =>
      rw [lockBase]
      split
      next => exact ⟨_, le_rfl, rfl⟩
      next =>
        obtain ⟨p, le, base⟩ := ih
        exact ⟨p, Nat.le_succ_of_le le, base⟩

/-- The empty name has no lock file, and neither has one with more than 64 bytes behind its
directory. -/
theorem lockPath_isSome_iff {filename : Text} :
    (lockPath filename).isSome ↔
      filename ≠ [] ∧
        ∀ p, lockBase filename filename.length = some p → filename.length < p + 65 := by
  cases filename with
  | nil => simp [lockPath, lockBase]
  | cons c filename =>
      obtain ⟨p, le, base⟩ := exists_lockBase (c :: filename) filename.length
      rw [← List.length_cons (a := c)] at base le
      have length : (lockPrefix ++ (c :: filename).drop p).length =
          15 + ((c :: filename).length - p) := by
        rw [List.length_append, List.length_drop]
        rfl
      simp only [lockPath, base, Option.bind_eq_bind, Option.bind_some, sprintf, length,
        Option.some.injEq, forall_eq', ne_eq, reduceCtorEq, not_false_eq_true, true_and,
        Option.isSome_ite]
      omega

/-! ## Lock files and system calls -/

/-- A lock file: the process that has created it, and its bytes. -/
structure OwnedFile where
  creator : Int
  contents : Text
  deriving DecidableEq, Repr

/-- The lock files by their paths, and the pids for which `kill(pid, 0)` fails with
`ESRCH`. -/
structure LockDir where
  files : Text → Option OwnedFile
  noProcess : Int → Bool

/-- The outcomes of the system calls of one `fhs_lock` and of the `fhs_unlock` behind it,
in their order. -/
structure LockCalls where
  getpid : Int
  getppid : Int
  /-- `check_lock_status`: `stat(LOCKDIR, &buf)` -/
  statLockDir : Bool
  /-- `check_group_uucp` returns 0 -/
  groupUucp : Bool
  /-- `is_device_locked` finds a lock file in a directory that is not `LOCKDIR` -/
  unexpectedLockFile : Bool
  /-- `stat(file, &buf)`, of a file that is there -/
  statLockFile : Bool
  /-- how many bytes `read(fd, pid_buffer, 11)` may store: none if `open` or `read` fails -/
  readPid : Nat
  /-- `pid_buffer[20]` and the bytes behind it, before the `read` -/
  pidBuffer : Text
  /-- the variable `pid` before `sscanf` -/
  pid : Int
  /-- `unlink(file)` of a stale lock -/
  unlinkStale : Bool
  /-- `open(file, O_CREAT | O_WRONLY | O_EXCL, 0444)`, of a file that is not there -/
  create : Bool
  /-- how many bytes `write(fd, lockinfo, 11)` has written -/
  write : Nat
  /-- `check_lock_pid`: `open(file, O_RDONLY)`, of a file that is there -/
  unlockOpen : Bool
  /-- how many bytes `read(fd, pid_buffer, 11)` may store; `none` if it returns -1 -/
  unlockRead : Option Nat
  /-- `pid_buffer[12]` before the `read` -/
  unlockBuffer : Text
  /-- `fhs_unlock`: `unlink(file)` -/
  unlink : Bool

/-- A buffer after `read(fd, buffer, 11)` has stored at most `count` bytes. -/
def readInto (contents : Text) (count : Nat) (buffer : Text) : Text :=
  contents.take (min count 11) ++ buffer.drop (contents.take (min count 11)).length

/-- `sscanf(text, "%d", &pid)` -/
def sscanfPid (text : Text) (pid : Int) : Int :=
  let digits :=
    match text.dropWhile isSpace with
    | '-' :: digits | '+' :: digits => digits
    | digits => digits
  if digits.head?.any Char.isDigit then atoi text else pid

/-- `sprintf(lockinfo, "%10d\n", (int) getpid())`, for a pid -/
def lockinfo (pid : Int) : Text :=
  let digits := Nat.toDigits 10 pid.toNat
  List.replicate (10 - digits.length) ' ' ++ digits ++ ['\n']

/-- The `pid` that `is_device_locked` asks `kill` about. -/
def LockCalls.foundPid (calls : LockCalls) (file : OwnedFile) : Int :=
  sscanfPid (readInto file.contents calls.readPid calls.pidBuffer) calls.pid

namespace LockDir

variable (dir : LockDir) (calls : LockCalls)

/-- `unlink(file)` -/
def remove (path : Text) : LockDir :=
  { dir with files := Function.update dir.files path none }

/-- A file that `open` with `O_CREAT` has created. -/
def create (path : Text) (file : OwnedFile) : LockDir :=
  { dir with files := Function.update dir.files path (some file) }

/-- The lock files of live processes. -/
def live (path : Text) : Option OwnedFile :=
  (dir.files path).filter fun file => !dir.noProcess file.creator

/-- `is_device_locked`: whether it returns 1, and the lock files afterwards. -/
def isDeviceLocked (path : Text) : Bool × LockDir :=
  if calls.unexpectedLockFile then (true, dir)
  else
    match if calls.statLockFile then dir.files path else none with
    | none => (false, dir)
    | some file =>
        if dir.noProcess (calls.foundPid file) then
          if calls.unlinkStale then (false, dir.remove path) else (true, dir)
        else (false, dir)

/-- `check_lock_status`, likewise. -/
def checkLockStatus (path : Text) : Bool × LockDir :=
  if !calls.statLockDir then (true, dir)
  else if !calls.groupUucp then (true, dir)
  else dir.isDeviceLocked calls path

/-- `fhs_lock`: whether it returns 0, and the lock files afterwards. -/
def fhsLock (filename : Text) : Option (Bool × LockDir) := do
  let file ← lockPath filename
  let (locked, dir) := dir.checkLockStatus calls file
  if locked then some (false, dir)
  else if calls.create && (dir.files file).isNone then
    let written := (lockinfo calls.getpid).take calls.write
    some (true, dir.create file ⟨calls.getpid, written⟩)
  else some (false, dir)

/-- `check_lock_pid`: whether it returns 1. -/
def checkLockPid (file : Text) (openpid : Int) : Bool :=
  match if calls.unlockOpen then dir.files file else none, calls.unlockRead with
  | some opened, some count =>
      let lockpid := atoi ((readInto opened.contents count calls.unlockBuffer).take 11)
      lockpid ≠ calls.getpid && lockpid ≠ calls.getppid && lockpid ≠ openpid
  | _, _ => true

/-- `fhs_unlock`: the lock files afterwards. -/
def fhsUnlock (filename : Text) (openpid : Int) : Option LockDir := do
  let file ← lockPath filename
  some (if !dir.checkLockPid calls file openpid && calls.unlink then dir.remove file else dir)

end LockDir

/-! ## What a complete lock file says -/

section Lockinfo

variable {digits : Text} {pid : Int} (rest : Text)

theorem decimal_of_digits (areDigits : ∀ c ∈ digits, c.isDigit = true) :
    decimal digits = number digits := by
  fun_cases decimal digits with
  | case1 => exact absurd (areDigits '-' (by simp)) (by decide)
  | case2 => exact absurd (areDigits '+' (by simp)) (by decide)
  | case3 => rfl

theorem isDigit_toDigits {n : Nat} {c : Char} (member : c ∈ Nat.toDigits 10 n) :
    c.isDigit = true :=
  Nat.isDigit_of_mem_toDigits (by decide) (by decide) member

theorem decimal_toDigits (n : Nat) : decimal (Nat.toDigits 10 n) = some (n : Int) := by
  have value : digitsValue (Nat.toDigits 10 n) = n := Nat.ofDigitChars_ten_toDigits
  have areDigits : ∀ c ∈ Nat.toDigits 10 n, c.isDigit = true := fun _ => isDigit_toDigits
  rw [decimal_of_digits areDigits, number,
    if_pos ⟨Nat.toDigits_ne_nil, List.all_eq_true.mpr areDigits⟩, value]

theorem lockinfo_length (isPid : 0 ≤ pid ∧ pid < 2 ^ 31) : (lockinfo pid).length = 11 := by
  have digits : (Nat.toDigits 10 pid.toNat).length ≤ 10 := by
    rw [Nat.length_toDigits_le_iff (by decide) (by decide)]
    omega
  simp only [lockinfo, List.length_append, List.length_replicate, List.length_singleton]
  omega

/-- The first digit ends the blanks. -/
theorem dropWhile_toDigits (n : Nat) :
    (Nat.toDigits 10 n ++ rest).dropWhile isSpace = Nat.toDigits 10 n ++ rest := by
  obtain ⟨c, digits, same⟩ := List.exists_cons_of_ne_nil (Nat.toDigits_ne_nil (n := n) (b := 10))
  have isDigit : c.isDigit = true := isDigit_toDigits (n := n) (by simp [same])
  simp [same, not_isSpace_of_isDigit isDigit]

theorem dropWhile_lockinfo :
    (lockinfo pid ++ rest).dropWhile isSpace = Nat.toDigits 10 pid.toNat ++ '\n' :: rest := by
  simp only [lockinfo, List.append_assoc]
  rw [List.dropWhile_append_of_pos (by simp [isSpace])]
  exact dropWhile_toDigits _ _

theorem atoi_lockinfo (isPid : 0 ≤ pid ∧ pid < 2 ^ 31) : atoi (lockinfo pid ++ rest) = pid := by
  have digits : atoi (Nat.toDigits 10 pid.toNat ++ '\n' :: rest) = pid.toNat :=
    atoi_of_decimal (decimal_toDigits pid.toNat) (by omega) (by simp)
  rw [atoi, leadingInt, dropWhile_toDigits] at digits
  rw [atoi, leadingInt, dropWhile_lockinfo, digits]
  omega

theorem sscanfPid_lockinfo (isPid : 0 ≤ pid ∧ pid < 2 ^ 31) (before : Int) :
    sscanfPid (lockinfo pid ++ rest) before = pid := by
  obtain ⟨c, digits, same⟩ := List.exists_cons_of_ne_nil
    (Nat.toDigits_ne_nil (n := pid.toNat) (b := 10))
  have isDigit : c.isDigit = true := isDigit_toDigits (n := pid.toNat) (by simp [same])
  rw [sscanfPid, dropWhile_lockinfo, atoi_lockinfo rest isPid, same, List.cons_append]
  split
  next minus => exact absurd ((List.cons_eq_cons.mp minus).1 ▸ isDigit) (by decide)
  next plus => exact absurd ((List.cons_eq_cons.mp plus).1 ▸ isDigit) (by decide)
  next => simp [isDigit]

theorem readInto_lockinfo {count : Nat} (isPid : 0 ≤ pid ∧ pid < 2 ^ 31) (complete : 11 ≤ count)
    (buffer : Text) : readInto (lockinfo pid) count buffer = lockinfo pid ++ buffer.drop 11 := by
  have length := lockinfo_length isPid
  rw [readInto, Nat.min_eq_right complete, List.take_of_length_le length.le, length]

end Lockinfo

/-! ## What is left -/

namespace LockDir

/-- `is_device_locked` finds the lock file, takes it for stale and unlinks it. -/
structure Removes (dir : LockDir) (calls : LockCalls) (path : Text) : Prop where
  statLockDir : calls.statLockDir = true
  groupUucp : calls.groupUucp = true
  expected : calls.unexpectedLockFile = false
  statLockFile : calls.statLockFile = true
  stale : ∃ file, dir.files path = some file ∧ dir.noProcess (calls.foundPid file) = true
  unlinkStale : calls.unlinkStale = true

/-- The lock file of a live process is unlinked. -/
def Steals (dir : LockDir) (calls : LockCalls) (path : Text) : Prop :=
  dir.Removes calls path ∧ (dir.live path).isSome

/-- `fhs_unlock` of a lock that `fhs_lock` has taken unlinks the lock file. -/
def UnlocksTaken (dir : LockDir) (calls : LockCalls) (filename : Text) : Prop :=
  ∀ path locked, lockPath filename = some path →
    dir.fhsLock calls filename = some (true, locked) →
      locked.fhsUnlock calls filename calls.getpid = some (locked.remove path)

section Steps

variable {dir locked : LockDir} {calls : LockCalls} {path filename : Text} {file : OwnedFile}
  {taken : Bool}

theorem remove_create (free : dir.files path = none) :
    (dir.create path file).remove path = dir := by
  simp only [create, remove, Function.update_idem]
  rw [← free, Function.update_eq_self]

theorem live_remove : (dir.remove path).live = Function.update dir.live path none := by
  funext other
  by_cases same : other = path
  · subst same
    simp [live, remove]
  · simp [live, remove, same]

theorem live_eq_some_iff :
    dir.live path = some file ↔
      dir.files path = some file ∧ dir.noProcess file.creator = false := by
  simp [live, Option.filter_eq_some_iff]

theorem checkLockStatus_of_removes (removes : dir.Removes calls path) :
    dir.checkLockStatus calls path = (false, dir.remove path) := by
  obtain ⟨file, found, stale⟩ := removes.stale
  simp [checkLockStatus, isDeviceLocked, removes.statLockDir, removes.groupUucp,
    removes.expected, removes.statLockFile, removes.unlinkStale, found, stale]

theorem checkLockStatus_of_not_removes (keeps : ¬ dir.Removes calls path) :
    (dir.checkLockStatus calls path).2 = dir := by
  fun_cases checkLockStatus dir calls path with
  | case1 => rfl
  | case2 => rfl
  | case3 statLockDir groupUucp =>
      fun_cases isDeviceLocked dir calls path with
      | case1 => rfl
      | case2 => rfl
      | case3 expected file found stale unlinkStale =>
          rw [Option.ite_none_right_eq_some] at found
          exact absurd
            ⟨by simpa using statLockDir, by simpa using groupUucp, by simpa using expected,
              found.1, ⟨file, found.2, stale⟩, unlinkStale⟩ keeps
      | case4 => rfl
      | case5 => rfl

/-- Only the theft of a lock file changes the lock files of live processes. -/
theorem live_checkLockStatus_iff :
    (dir.checkLockStatus calls path).2.live = dir.live ↔ ¬ dir.Steals calls path := by
  by_cases removes : dir.Removes calls path
  · rw [checkLockStatus_of_removes removes, live_remove, Function.update_eq_self_iff, Steals,
      and_iff_right removes, Option.not_isSome_iff_eq_none, eq_comm]
  · rw [checkLockStatus_of_not_removes removes, Steals, iff_true_left rfl]
    exact fun steals => removes steals.1

variable (dir calls) in
/-- A lock is taken by a new file among those that `check_lock_status` has left. -/
theorem fhsLock_cases (fits : lockPath filename = some path) :
    dir.fhsLock calls filename = some (false, (dir.checkLockStatus calls path).2) ∨
      (dir.checkLockStatus calls path).2.files path = none ∧
        dir.fhsLock calls filename =
          some (true, (dir.checkLockStatus calls path).2.create path
            ⟨calls.getpid, (lockinfo calls.getpid).take calls.write⟩) := by
  simp only [fhsLock, fits, Option.bind_eq_bind, Option.bind_some]
  split
  next => exact .inl rfl
  next =>
    split
    next free =>
      rw [Bool.and_eq_true, Option.isNone_iff_eq_none] at free
      exact .inr ⟨free.2, rfl⟩
    next => exact .inl rfl

/-- A lock that has been taken and given back leaves what `check_lock_status` has left. -/
theorem fhsUnlock_of_taken (fits : lockPath filename = some path)
    (unlocks : dir.UnlocksTaken calls filename)
    (taken : dir.fhsLock calls filename = some (true, locked)) :
    locked.fhsUnlock calls filename calls.getpid = some (dir.checkLockStatus calls path).2 := by
  rw [unlocks path locked fits taken]
  rcases fhsLock_cases dir calls fits with lock | ⟨free, lock⟩
  · rw [lock] at taken
    cases taken
  · rw [lock] at taken
    cases taken
    rw [remove_create free]

/-- The calls of `fhs_unlock` succeed and deliver the whole file. -/
structure Delivers (calls : LockCalls) : Prop where
  unlockOpen : calls.unlockOpen = true
  unlockRead : ∃ count, calls.unlockRead = some count ∧ 11 ≤ count
  unlink : calls.unlink = true

/-- `check_lock_pid` knows a complete file of its own process. -/
theorem checkLockPid_of_complete (isPid : 0 ≤ calls.getpid ∧ calls.getpid < 2 ^ 31)
    (delivers : Delivers calls) (found : dir.files path = some file)
    (contents : file.contents = lockinfo calls.getpid) (openpid : Int) :
    dir.checkLockPid calls path openpid = false := by
  obtain ⟨count, unlockRead, complete⟩ := delivers.unlockRead
  have lockpid : (readInto file.contents count calls.unlockBuffer).take 11 =
      lockinfo calls.getpid := by
    rw [contents, readInto_lockinfo isPid complete,
      List.take_left' (lockinfo_length isPid)]
  have atoi := atoi_lockinfo [] isPid
  rw [List.append_nil] at atoi
  simp [checkLockPid, delivers.unlockOpen, unlockRead, found, lockpid, atoi]

/-- A lock is given back if its file has been written completely. -/
theorem unlocksTaken_of_complete (isPid : 0 ≤ calls.getpid ∧ calls.getpid < 2 ^ 31)
    (written : 11 ≤ calls.write) (delivers : Delivers calls) :
    dir.UnlocksTaken calls filename := by
  intro path locked fits taken
  have all : (lockinfo calls.getpid).take calls.write = lockinfo calls.getpid :=
    List.take_of_length_le ((lockinfo_length isPid).trans_le written)
  rcases fhsLock_cases dir calls fits with lock | ⟨-, lock⟩
  · rw [lock] at taken
    cases taken
  · rw [lock, all] at taken
    cases taken
    have found : ((dir.checkLockStatus calls path).2.create path
        ⟨calls.getpid, lockinfo calls.getpid⟩).files path =
          some ⟨calls.getpid, lockinfo calls.getpid⟩ := Function.update_self ..
    have own := checkLockPid_of_complete isPid delivers found rfl calls.getpid
    simp [fhsUnlock, fits, own, delivers.unlink]

/-- Nothing is stolen while lock files are complete and read completely. -/
theorem not_steals_of_complete (reads : 11 ≤ calls.readPid)
    (complete : ∀ file, dir.live path = some file →
      (0 ≤ file.creator ∧ file.creator < 2 ^ 31) ∧ file.contents = lockinfo file.creator) :
    ¬ dir.Steals calls path := by
  rintro ⟨removes, present⟩
  obtain ⟨file, live⟩ := Option.isSome_iff_exists.mp present
  obtain ⟨isPid, contents⟩ := complete file live
  obtain ⟨found, alive⟩ := live_eq_some_iff.mp live
  obtain ⟨other, found', stale⟩ := removes.stale
  obtain rfl : file = other := Option.some.inj (found.symm.trans found')
  have pid : calls.foundPid file = file.creator := by
    rw [LockCalls.foundPid, contents, readInto_lockinfo isPid reads,
      sscanfPid_lockinfo _ isPid]
  rw [pid, alive] at stale
  exact Bool.false_ne_true stale

end Steps

end LockDir

end Jrxtx.SerialImp
