import Jrxtx.LockDaemon.Requests

/-!
# Locking by the lock file server

`fhs_lock` and `fhs_unlock` of the lock daemon, as far as a single request can tell: the
buffers that they write to, the messages that they pass to `syslog` as its format, and what
they return, from the outcomes of their system calls.
-/

namespace Jrxtx.LockDaemon

/-! ## The name of the lock file -/

/-- `while (*(p - 1) != '/' && j-- != 1) p--`, with the index of `p`.  There is no result if
`*(p - 1)` is not in the buffer. -/
def scanBack (text : Text) : (p : Nat) → (j : Int) → Option Nat
  | 0, _ => none
  | p + 1, j => do
      let c ← text[p]?
      if c = '/' ∨ j = 1 then some (p + 1) else scanBack text p (j - 1)

/-- The text at `p` behind the scan, with `j = strlen(filename)` and `p = filename + j` before
it, where `front` stands in front of the file name. -/
def scannedBehind (front filename : Text) : Option Text :=
  (scanBack (front ++ filename) (front.length + filename.length) filename.length).map
    (front ++ filename).drop

/-- `LOCKDIR` and `LOCKFILEPREFIX` -/
def lockPrefix : Text := "/var/lock/LCK..".toList

/-! ## Messages -/

/-- `%i` -/
def printI (value : Int) : Text :=
  (toString value).toList

/-- `%10d` -/
def print10d (value : Int) : Text :=
  List.replicate (10 - (printI value).length) ' ' ++ printI value

/-- `UNEXPECTED_LOCK_FILE` -/
def unexpectedLockFile (file : Text) : Text :=
  "RXTX Error:  Unexpected lock file: ".toList ++ file ++
    "\n Please report to the RXTX developers\n".toList

/-- A stale lock file is about to be unlinked. -/
def removingStale (file : Text) : Text :=
  "RXTX Warning:  Removing stale lock file. ".toList ++ file ++ ['\n']

/-- It has not been unlinked. -/
def unableToRemove (file : Text) : Text :=
  "RXTX Error:  Unable to \t\t\t\t\tremove stale lock file: ".toList ++ file ++ ['\n']

/-- A lock file has not been created. -/
def creatingFailed (file strerror : Text) : Text :=
  "RXTX fhs_lock() Error: creating lock file: ".toList ++ file ++ ": ".toList ++ strerror ++ ['\n']

/-- The lock file names another process, which is alive. -/
def notOurs (pidBuffer : Text) (pid gpid openpid : Int) : Text :=
  "check_lock_pid: lock = ".toList ++ pidBuffer ++ " pid = ".toList ++ printI pid ++
    " gpid=".toList ++ printI gpid ++ " openpid=".toList ++ printI openpid ++ ['\n']

/-! ## The two functions -/

/-- What `check_lock_status` comes upon. -/
inductive LockStatus where
  /-- there is no `LOCKDIR`, or no permission to write to it -/
  | denied
  /-- a lock file of the device in another directory -/
  | unexpected (file : Text)
  /-- a lock file whose process is alive -/
  | live
  /-- a lock file whose process is not alive, and whether `unlink` succeeds -/
  | stale (unlinks : Bool)
  | free
  deriving DecidableEq, Repr

/-- The outcomes of the system calls of one request. -/
structure SystemCalls where
  status : LockStatus
  /-- `open(file, O_CREAT | O_WRONLY | O_EXCL, 0444)` -/
  create : Bool
  strerror : Text
  /-- `stat(filename, &buf)` of the device -/
  device : Bool
  /-- `pid_buffer` after the `read` of `check_lock_pid`; `none` if `open` or `read` fails -/
  pidBuffer : Option Text
  /-- `kill(lockpid, 0)` fails with `ESRCH` -/
  noProcess : Bool
  getpid : Int
  getppid : Int
  /-- `syslog` gets by with a format that has conversions -/
  conversions : Text → Bool

namespace SystemCalls

variable (calls : SystemCalls)

/-- `syslog` gets by with a message as its format. -/
def Prints (message : Text) : Prop :=
  '%' ∈ message → calls.conversions message = true

instance (message : Text) : Decidable (calls.Prints message) :=
  inferInstanceAs (Decidable (_ → _))

/-- `syslog(LOG_INFO, message)` -/
def syslog (message : Text) : Except Fault Unit :=
  if calls.Prints message then .ok () else .error .format

/-- `sprintf` into a buffer of `LOCK` or `UNLOCK`. -/
def print (size : Nat) (text : Text) : Except Fault Unit :=
  if text.length < size then .ok () else .error .lockBuffer

/-- `fhs_lock` behind `check_lock_status`; `lockinfo` has 12 bytes. -/
def createLockFile (file : Text) (pid : Int) : Except Fault Bool :=
  if calls.create then do
    print 12 (print10d pid ++ ['\n'])
    .ok true
  else do
    calls.syslog (creatingFailed file calls.strerror)
    .ok false

/-- `check_lock_status`, with `is_device_locked`: whether it returns 1. -/
def checkLockStatus (file : Text) : Except Fault Bool :=
  match calls.status with
  | .denied | .live => .ok true
  | .unexpected other => do
      calls.syslog (unexpectedLockFile other)
      .ok true
  | .stale true => do
      calls.syslog (removingStale file)
      .ok false
  | .stale false => do
      calls.syslog (removingStale file)
      calls.syslog (unableToRemove file)
      .ok false
  | .free => .ok false

/-- `fhs_lock`: whether it returns 0. -/
def fhsLock (front filename : Text) (pid : Int) : Except Fault Bool := do
  let p ← inBuffer (scannedBehind front filename)
  let locked ← calls.checkLockStatus (lockPrefix ++ p)
  if locked then .ok false else calls.createLockFile (lockPrefix ++ p) pid

/-- `check_lock_pid`: whether it returns 0. -/
def checkLockPid (openpid : Int) : Except Fault Bool :=
  match calls.pidBuffer with
  | none => .ok false
  | some pidBuffer =>
      if atoi (pidBuffer.take 11) ≠ openpid then
        if calls.noProcess then .ok true
        else do
          let message := notOurs (textAt (pidBuffer.take 11) 0) calls.getpid calls.getppid openpid
          print 80 message
          calls.syslog message
          .ok false
      else .ok true

/-- `fhs_unlock`: whether it returns 0. -/
def fhsUnlock (front filename : Text) (openpid : Int) : Except Fault Bool := do
  print 80 ("fhs_unlock ".toList ++ filename ++ ['\n'])
  let p ← inBuffer (scannedBehind front filename)
  print 80 (lockPrefix ++ p)
  if calls.device then calls.checkLockPid openpid else .ok true

/-- `LOCK` and `UNLOCK` -/
def perform (front : Text) : Request → Except Fault Bool
  | .lock filename pid => calls.fhsLock front filename pid
  | .unlock filename pid => calls.fhsUnlock front filename pid

/-! ## The conditions -/

/-- `check_lock_status` returns 1. -/
def refuses : Bool :=
  match calls.status with
  | .denied | .live | .unexpected _ => true
  | .stale _ | .free => false

/-- What it logs. -/
def statusMessages (file : Text) : List Text :=
  match calls.status with
  | .unexpected other => [unexpectedLockFile other]
  | .stale true => [removingStale file]
  | .stale false => [removingStale file, unableToRemove file]
  | .denied | .live | .free => []

/-- It lets `fhs_lock` go on. -/
def Passes (file : Text) : Prop :=
  calls.refuses = false ∧ ∀ message ∈ calls.statusMessages file, calls.Prints message

/-- `check_lock_pid` finds the pid of another process, which is alive. -/
def Foreign (openpid : Int) (pidBuffer : Text) : Prop :=
  calls.pidBuffer = some pidBuffer ∧ atoi (pidBuffer.take 11) ≠ openpid ∧
    calls.noProcess = false

/-- The texts that a request writes to buffers of `LOCK` and `UNLOCK` fit into them. -/
def Fits (front : Text) : Request → Prop
  | .lock filename pid =>
      ∀ p, scannedBehind front filename = some p → calls.Passes (lockPrefix ++ p) →
        calls.create = true → (printI pid).length ≤ 10
  | .unlock filename openpid =>
      filename.length ≤ 67 ∧ ∀ p, scannedBehind front filename = some p →
        p.length ≤ 64 ∧ (calls.device = true → ∀ pidBuffer, calls.Foreign openpid pidBuffer →
          (notOurs (textAt (pidBuffer.take 11) 0) calls.getpid calls.getppid openpid).length ≤ 79)

/-- The messages of a request. -/
def Logs (front : Text) (message : Text) : Request → Prop
  | .lock filename _ =>
      ∃ p, scannedBehind front filename = some p ∧
        (message ∈ calls.statusMessages (lockPrefix ++ p) ∨
          calls.Passes (lockPrefix ++ p) ∧ calls.create = false ∧
            message = creatingFailed (lockPrefix ++ p) calls.strerror)
  | .unlock filename openpid =>
      calls.Fits front (.unlock filename openpid) ∧ (scannedBehind front filename).isSome ∧
        calls.device = true ∧ ∃ pidBuffer, calls.Foreign openpid pidBuffer ∧
          message = notOurs (textAt (pidBuffer.take 11) 0) calls.getpid calls.getppid openpid

end SystemCalls

/-- The file name of a request. -/
def Request.filename : Request → Text
  | .lock filename _ => filename
  | .unlock filename _ => filename

/-- The scan for the last `/` of the file name does not leave the buffer in front of it. -/
def StopsInFront (front : Text) (request : Request) : Prop :=
  request.filename = [] → '/' ∈ front

/-! ## The scan -/

section Scan

variable {front filename : Text}

theorem getElem?_behind (front filename : Text) (k : Nat) :
    (front ++ filename)[front.length + k]? = filename[k]? := by
  rw [List.getElem?_append_right (Nat.le_add_right ..), Nat.add_sub_cancel_left]

/-- The scan of a name does not look at what stands in front of it. -/
theorem scanBack_behind (front : Text) {k : Nat} (inside : k + 1 ≤ filename.length) :
    scanBack (front ++ filename) (front.length + (k + 1)) (k + 1 : Nat) =
      (scanBack filename (k + 1) (k + 1 : Nat)).map (front.length + ·) := by
  have there : filename[k]? = some filename[k] := List.getElem?_eq_getElem inside
  rw [← Nat.add_assoc, scanBack, scanBack, getElem?_behind, there]
  induction k with
  | zero => simp
  | succ k ih =>
      have before : filename[k]? = some filename[k] :=
        List.getElem?_eq_getElem (Nat.lt_of_succ_lt inside)
      have next : ((k + 1 + 1 : Nat) : Int) - 1 = (k + 1 : Nat) := by omega
      have counter : ¬ ((k + 1 + 1 : Nat) : Int) = 1 := by omega
      simp only [Option.bind_eq_bind, Option.bind_some, next, counter, or_false]
      split
      next => rfl
      next =>
        rw [← Nat.add_assoc, scanBack, scanBack, getElem?_behind, before]
        exact ih (Nat.le_of_succ_le inside) before

theorem scannedBehind_of_ne_nil (front : Text) (nonempty : filename ≠ []) :
    scannedBehind front filename = scannedBehind [] filename := by
  obtain ⟨k, length⟩ := Nat.exists_eq_add_one.mpr (List.length_pos_iff.mpr nonempty)
  have inside : k + 1 ≤ filename.length := Nat.le_of_eq length.symm
  have behind := scanBack_behind front inside
  rw [scannedBehind, scannedBehind, length, behind, Option.map_map, List.nil_append,
    List.length_nil, Nat.zero_add]
  congr 1
  funext p
  simp [List.drop_append]

/-- The counter stops the scan in a name that is not empty. -/
theorem scanBack_isSome {text : Text} {k : Nat} (inside : k + 1 ≤ text.length) :
    (scanBack text (k + 1) (k + 1 : Nat)).isSome := by
  induction k with
  | zero =>
      have there : text[0]? = some text[0] := List.getElem?_eq_getElem inside
      simp [scanBack, there]
  | succ k ih =>
      have there : text[k + 1]? = some text[k + 1] := List.getElem?_eq_getElem inside
      have next : ((k + 1 + 1 : Nat) : Int) - 1 = (k + 1 : Nat) := by omega
      rw [scanBack, there]
      simp only [Option.bind_eq_bind, Option.bind_some, next]
      split
      next => rfl
      next => exact ih (Nat.le_of_succ_le inside)

/-- Behind an empty name it does not. -/
theorem scanBack_isSome_iff {k : Nat} {j : Int} (inside : k ≤ front.length) (past : j ≤ 0) :
    (scanBack front k j).isSome ↔ '/' ∈ front.take k := by
  induction k generalizing j with
  | zero => simp [scanBack]
  | succ k ih =>
      have there : front[k]? = some front[k] := List.getElem?_eq_getElem inside
      have counter : j ≠ 1 := by omega
      rw [scanBack, there, List.take_succ_eq_append_getElem inside, List.mem_append,
        List.mem_singleton]
      simp only [Option.bind_eq_bind, Option.bind_some, counter, or_false]
      split
      next isSlash => simp [isSlash]
      next notSlash =>
        rw [ih (Nat.le_of_succ_le inside) (by omega), or_iff_left (Ne.symm notSlash)]

theorem scannedBehind_isSome_iff (front filename : Text) :
    (scannedBehind front filename).isSome ↔ (filename = [] → '/' ∈ front) := by
  rw [scannedBehind, Option.isSome_map]
  cases filename with
  | nil =>
      have scan := scanBack_isSome_iff (Nat.le_refl front.length) (Int.le_refl 0)
      rw [List.take_length] at scan
      simpa using scan
  | cons c name =>
      have behind := scanBack_behind front (Nat.le_refl (c :: name).length)
      have stops := scanBack_isSome (Nat.le_refl (c :: name).length)
      refine iff_of_true ?_ nofun
      exact (congrArg Option.isSome behind).trans ((Option.isSome_map ..).trans stops)

end Scan

/-! ## When a request returns -/

namespace SystemCalls

section Perform

variable {calls : SystemCalls} {front filename p file message : Text} {pid openpid : Int}
  {request : Request} {n : Nat}

theorem checkLockStatus_eq (calls : SystemCalls) (file : Text) :
    calls.checkLockStatus file =
      if ∀ message ∈ calls.statusMessages file, calls.Prints message then .ok calls.refuses
      else .error .format := by
  cases status : calls.status with
  | denied | live | free => simp [checkLockStatus, statusMessages, refuses, status]
  | unexpected other =>
      by_cases prints : calls.Prints (unexpectedLockFile other) <;>
        simp [checkLockStatus, statusMessages, refuses, status, syslog, prints]
  | stale unlinks =>
      by_cases first : calls.Prints (removingStale file) <;>
        by_cases second : calls.Prints (unableToRemove file) <;> cases unlinks <;>
          simp [checkLockStatus, statusMessages, refuses, status, syslog, first, second]

/-- What `fhs_lock` comes to. -/
theorem fhsLock_eq (scanned : scannedBehind front filename = some p) :
    calls.fhsLock front filename pid =
      if ∀ message ∈ calls.statusMessages (lockPrefix ++ p), calls.Prints message then
        if calls.refuses then .ok false else calls.createLockFile (lockPrefix ++ p) pid
      else .error .format := by
  simp only [fhsLock, scanned, inBuffer_some, ok_bind, checkLockStatus_eq]
  split <;> simp

theorem lockinfo_fits_iff (pid : Int) :
    (print10d pid ++ ['\n']).length < 12 ↔ (printI pid).length ≤ 10 := by
  simp only [print10d, List.length_append, List.length_replicate, List.length_singleton]
  omega

theorem createLockFile_eq (calls : SystemCalls) (file : Text) (pid : Int) :
    calls.createLockFile file pid =
      if calls.create then if (printI pid).length ≤ 10 then .ok true else .error .lockBuffer
      else if calls.Prints (creatingFailed file calls.strerror) then .ok false
      else .error .format := by
  simp only [createLockFile, print, syslog, lockinfo_fits_iff]
  split
  next => split <;> rfl
  next => split <;> rfl

/-- What `fhs_unlock` comes to. -/
theorem fhsUnlock_eq (short : filename.length ≤ 67) :
    calls.fhsUnlock front filename openpid =
      (inBuffer (scannedBehind front filename) >>= fun p =>
        if p.length ≤ 64 then if calls.device then calls.checkLockPid openpid else .ok true
        else .error .lockBuffer) := by
  have msg : ("fhs_unlock ".toList ++ filename ++ ['\n']).length < 80 := by
    have front : "fhs_unlock ".toList.length = 11 := rfl
    simp only [List.length_append, List.length_singleton, front]
    omega
  have file (p : Text) : (lockPrefix ++ p).length < 80 ↔ p.length ≤ 64 := by
    have front : lockPrefix.length = 15 := rfl
    rw [List.length_append, front]
    omega
  simp only [fhsUnlock, print, msg, file, if_true, ok_bind]
  cases scannedBehind front filename with
  | none => rfl
  | some p =>
      simp only [inBuffer_some, ok_bind]
      split <;> rfl

theorem fhsUnlock_long (long : ¬filename.length ≤ 67) :
    calls.fhsUnlock front filename openpid = .error .lockBuffer := by
  have msg : ¬("fhs_unlock ".toList ++ filename ++ ['\n']).length < 80 := by
    have front : "fhs_unlock ".toList.length = 11 := rfl
    simp only [List.length_append, List.length_singleton, front]
    omega
  rw [fhsUnlock]
  simp only [print, msg, if_false]
  rfl

theorem checkLockPid_foreign {pidBuffer : Text} (foreign : calls.Foreign openpid pidBuffer) :
    calls.checkLockPid openpid =
      let message := notOurs (textAt (pidBuffer.take 11) 0) calls.getpid calls.getppid openpid
      if message.length ≤ 79 then if calls.Prints message then .ok false else .error .format
      else .error .lockBuffer := by
  obtain ⟨read, other, alive⟩ := foreign
  simp only [checkLockPid, read, other, alive, ne_eq, not_false_eq_true, if_true,
    Bool.false_eq_true, if_false, print, syslog, Nat.lt_succ_iff]
  split
  next => split <;> rfl
  next => rfl

theorem checkLockPid_ok (none : ∀ pidBuffer, ¬calls.Foreign openpid pidBuffer) :
    ∃ zero, calls.checkLockPid openpid = .ok zero := by
  unfold checkLockPid
  split
  next => exact ⟨_, rfl⟩
  next pidBuffer read =>
    by_cases other : atoi (pidBuffer.take 11) = openpid
    · exact ⟨true, by simp [other]⟩
    · have dead : calls.noProcess = true := by
        by_contra alive
        exact none pidBuffer ⟨read, other, by simpa using alive⟩
      exact ⟨true, by simp [other, dead]⟩

/-- What `fhs_lock` comes to, by its fault. -/
theorem fhsLock_fault (calls : SystemCalls) (front filename : Text) (pid : Int) :
    (calls.fhsLock front filename pid ≠ .error .buffer ↔ (filename = [] → '/' ∈ front)) ∧
      (calls.fhsLock front filename pid ≠ .error .lockBuffer ↔
        calls.Fits front (.lock filename pid)) ∧
      (calls.fhsLock front filename pid ≠ .error .format ↔
        ∀ message, calls.Logs front message (.lock filename pid) → calls.Prints message) := by
  rw [← scannedBehind_isSome_iff]
  cases scanned : scannedBehind front filename with
  | none => simp [fhsLock, scanned, Fits, Logs]
  | some p =>
      simp only [Fits, Logs, scanned, Option.some.injEq, exists_eq_left', forall_eq',
        fhsLock_eq scanned, Passes]
      by_cases prints : ∀ message ∈ calls.statusMessages (lockPrefix ++ p), calls.Prints message
      · rw [if_pos prints]
        cases refuses : calls.refuses with
        | true => simpa using prints
        | false =>
            simp only [createLockFile_eq, Bool.false_eq_true, if_false]
            cases create : calls.create with
            | true =>
                by_cases fits : (printI pid).length ≤ 10
                · simpa [fits] using prints
                · simpa [fits] using prints
            | false =>
                by_cases last : calls.Prints (creatingFailed (lockPrefix ++ p) calls.strerror)
                · refine ⟨by simp [last], by simp [last], iff_of_true (by simp [last]) ?_⟩
                  rintro message (inStatus | ⟨-, -, rfl⟩)
                  · exact prints message inStatus
                  · exact last
                · refine ⟨by simp [last], by simp [last], iff_of_false (by simp [last]) ?_⟩
                  intro all
                  exact last (all _ (.inr ⟨⟨trivial, prints⟩, rfl, rfl⟩))
      · rw [if_neg prints]
        simp [prints]

theorem Foreign.eq {pidBuffer other : Text} (foreign : calls.Foreign openpid pidBuffer)
    (also : calls.Foreign openpid other) : pidBuffer = other :=
  Option.some.inj (foreign.1.symm.trans also.1)

theorem checkLockPid_fault (calls : SystemCalls) (openpid : Int) :
    calls.checkLockPid openpid ≠ .error .buffer ∧
      (calls.checkLockPid openpid ≠ .error .lockBuffer ↔
        ∀ pidBuffer, calls.Foreign openpid pidBuffer →
          (notOurs (textAt (pidBuffer.take 11) 0) calls.getpid calls.getppid openpid).length ≤ 79) ∧
      (calls.checkLockPid openpid ≠ .error .format ↔
        ∀ pidBuffer, calls.Foreign openpid pidBuffer →
          (notOurs (textAt (pidBuffer.take 11) 0) calls.getpid calls.getppid openpid).length ≤ 79 →
          calls.Prints
            (notOurs (textAt (pidBuffer.take 11) 0) calls.getpid calls.getppid openpid)) := by
  by_cases foreign : ∃ pidBuffer, calls.Foreign openpid pidBuffer
  · obtain ⟨pidBuffer, foreign⟩ := foreign
    have only (other : Text) : calls.Foreign openpid other ↔ pidBuffer = other :=
      ⟨foreign.eq, fun same => same ▸ foreign⟩
    simp only [checkLockPid_foreign foreign, only, forall_eq']
    split
    next fits => split <;> simp_all
    next long => simp [long]
  · rw [not_exists] at foreign
    obtain ⟨zero, ok⟩ := checkLockPid_ok foreign
    simp [ok, foreign]

/-- What `fhs_unlock` comes to, by its fault. -/
theorem fhsUnlock_fault (calls : SystemCalls) (front filename : Text) (openpid : Int) :
    (calls.fhsUnlock front filename openpid ≠ .error .buffer ↔ (filename = [] → '/' ∈ front)) ∧
      (calls.fhsUnlock front filename openpid ≠ .error .lockBuffer ↔
        calls.Fits front (.unlock filename openpid)) ∧
      (calls.fhsUnlock front filename openpid ≠ .error .format ↔
        ∀ message, calls.Logs front message (.unlock filename openpid) →
          calls.Prints message) := by
  rw [← scannedBehind_isSome_iff]
  by_cases short : filename.length ≤ 67
  · rw [fhsUnlock_eq short]
    cases scanned : scannedBehind front filename with
    | none => simp [Fits, Logs, short, scanned]
    | some p =>
        obtain ⟨buffer, lockBuffer, format⟩ := checkLockPid_fault calls openpid
        simp only [Fits, Logs, short, scanned, inBuffer_some, ok_bind]
        by_cases fits : p.length ≤ 64
        · cases device : calls.device with
          | true =>
              refine ⟨by simp [fits, buffer], by simp [fits, lockBuffer], ?_⟩
              simp only [fits, if_true, format]
              constructor
              · rintro prints message ⟨⟨-, fit⟩, -, -, pidBuffer, foreign, rfl⟩
                exact prints pidBuffer foreign ((fit p rfl).2 trivial pidBuffer foreign)
              · intro prints pidBuffer foreign long
                refine prints _ ⟨⟨trivial, ?_⟩, rfl, trivial, pidBuffer, foreign, rfl⟩
                intro other same
                obtain rfl := Option.some.inj same
                exact ⟨fits, fun _ _ also => foreign.eq also ▸ long⟩
          | false => simp [fits]
        · simp [fits]
  · have scanned : (scannedBehind front filename).isSome := by
      rw [scannedBehind_isSome_iff]
      rintro rfl
      exact absurd (Nat.zero_le 67) short
    simp [fhsUnlock_long short, Fits, Logs, short, scanned]

/-- How a request can fail to return: its file name leads the scan out of `str`, a text does
not fit, or `syslog` does not get by with a message. -/
theorem perform_fault (calls : SystemCalls) (front : Text) (request : Request) :
    (calls.perform front request ≠ .error .buffer ↔ StopsInFront front request) ∧
      (calls.perform front request ≠ .error .lockBuffer ↔ calls.Fits front request) ∧
      (calls.perform front request ≠ .error .format ↔
        ∀ message, calls.Logs front message request → calls.Prints message) := by
  cases request with
  | lock filename pid => exact fhsLock_fault calls front filename pid
  | unlock filename openpid => exact fhsUnlock_fault calls front filename openpid

/-- A request returns. -/
structure Returns (calls : SystemCalls) (front : Text) (request : Request) : Prop where
  stops : StopsInFront front request
  fits : calls.Fits front request
  prints : ∀ message, calls.Logs front message request → calls.Prints message

theorem perform_ok_iff (calls : SystemCalls) (front : Text) (request : Request) :
    (∃ zero, calls.perform front request = .ok zero) ↔ calls.Returns front request := by
  obtain ⟨buffer, lockBuffer, format⟩ := perform_fault calls front request
  constructor
  · rintro ⟨zero, returns⟩
    exact ⟨buffer.mp (by simp [returns]), lockBuffer.mp (by simp [returns]),
      format.mp (by simp [returns])⟩
  · intro returns
    cases result : calls.perform front request with
    | ok zero => exact ⟨zero, rfl⟩
    | error fault =>
        cases fault with
        | buffer => exact absurd result (buffer.mpr returns.stops)
        | lockBuffer => exact absurd result (lockBuffer.mpr returns.fits)
        | format => exact absurd result (format.mpr returns.prints)

end Perform

end SystemCalls

end Jrxtx.LockDaemon
