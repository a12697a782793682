import Mathlib.Tactic.SplitIfs
import Jrxtx.LockDaemon.Requests

/-!
# Who has a port open

`show_user` of `fuserImp.c` with what outlives the call: the list `files`, the text
`returnstring` and the working directory.  Every call adds its file at the end of the list, looks
in `/proc`, directory by directory, for the processes that have any file of the list open, and
reports on the first file.  There is no result where the program exits, follows a null pointer
or writes beyond a buffer.
-/

namespace Jrxtx.FuserImp

open Jrxtx.LockDaemon

/-- A process id, as `/proc` has them. -/
abbrev Pid := { pid : Nat // 0 < pid }

/-- `UID_UNKNOWN` -/
def uidUnknown : Int := -1

/-- `ITEM_DSC`, of type `it_proc` -/
structure ItemDsc where
  pid : Pid
  uid : Int
  deriving DecidableEq, Repr

/-- `FILE_DSC`; its flags are always `FLAG_UID`. -/
structure FileDsc where
  name : Text
  dev : Nat
  ino : Nat
  items : List ItemDsc := []
  deriving DecidableEq, Repr

/-- The variables of the file that outlive a call, and the working directory: `/proc/<pid>`, or
else the one that the program has been started in. -/
structure Statics where
  files : List FileDsc := []
  returnstring : Text := []
  cwd : Option Pid := none
  deriving DecidableEq, Repr

/-- What `stat` says about a file. -/
structure Stat where
  dev : Nat
  ino : Nat
  isSocket : Bool
  deriving DecidableEq, Repr

/-- An entry of `/proc/<pid>/fd`: the file that `stat` finds, and the `st_uid` of the link, if
`lstat` succeeds. -/
structure Fd where
  dev : Nat
  ino : Nat
  uid : Option Int
  deriving DecidableEq, Repr

/-- A directory of `/proc`. -/
structure Process where
  pid : Pid
  /-- `chdir(path)` succeeds -/
  chdir : Bool
  fds : List Fd
  /-- what follows the opening parenthesis in `stat`, if `fopen` succeeds -/
  comm : Option Text
  deriving DecidableEq, Repr

/-- A call of `native_psmisc_report_owner`, and what its system calls find. -/
structure Call where
  port : Text
  /-- `stat(argv, &st)`, by the working directory -/
  stat : Option Pid → Option Stat
  absolute : port.head? = some '/' → ∀ cwd, stat cwd = stat none
  processes : List Process
  /-- `seteuid(getuid())` succeeds -/
  seteuid : Bool
  /-- `pw_name` -/
  getpwuid : Int → Option Text
  /-- the address of `comm` -/
  comm : Nat

/-! ## The lists -/

/-- The part of `add_file` that goes through the items of a file. -/
def addItem (pid : Pid) (uid : Option Int) : List ItemDsc → List ItemDsc
  | [] => [⟨pid, uid.getD uidUnknown⟩]
  | item :: items =>
      if pid.val ≤ item.pid.val then
        if item.pid = pid then
          { item with uid := if item.uid = uidUnknown then uid.getD item.uid else item.uid } ::
            items
        else ⟨pid, uid.getD uidUnknown⟩ :: item :: items
      else item :: addItem pid uid items

/-- `add_file` -/
def addFile (files : List FileDsc) (fd : Fd) (pid : Pid) : List FileDsc :=
  files.map fun file =>
    if fd.dev = file.dev ∧ fd.ino = file.ino then
      { file with items := addItem pid fd.uid file.items }
    else file

/-- `check_dir("fd", pid, REF_FILE)` -/
def checkDir (files : List FileDsc) (process : Process) : List FileDsc :=
  process.fds.foldl (fun files fd => addFile files fd process.pid) files

/-- A round of `scan_fd` -/
def scanProcess (files : List FileDsc) (process : Process) : List FileDsc :=
  if process.chdir then checkDir files process else files

/-- The working directory behind it -/
def enterProcess (cwd : Option Pid) (process : Process) : Option Pid :=
  if process.chdir then some process.pid else cwd

/-- `scan_fd`, which exits if `/proc` is empty: the files, and the working directory -/
def scanFd (files : List FileDsc) (cwd : Option Pid) (processes : List Process) :
    Option (List FileDsc × Option Pid) :=
  if processes.isEmpty then none
  else some (processes.foldl scanProcess files, processes.foldl enterProcess cwd)

/-- `parse_args` and `enter_item` -/
def parseArgs (files : List FileDsc) (cwd : Option Pid) (call : Call) :
    Option (List FileDsc) := do
  let st ← call.stat cwd
  some (if st.isSocket then files else files ++ [⟨call.port, st.dev, st.ino, []⟩])

/-! ## The text -/

/-- `%d` -/
def printInt (value : Int) : Text :=
  if value < 0 then '-' :: Nat.toDigits 10 value.natAbs else Nat.toDigits 10 value.natAbs

/-- `sprintf(temp, "%6d ", pid)` -/
def printPid (pid : Pid) : Text :=
  List.replicate (6 - (Nat.toDigits 10 pid).length) ' ' ++ Nat.toDigits 10 pid ++ [' ']

/-- `sprintf(temp, "\\%03zo", (size_t) scan)`: the address of the character, not the
character -/
def printScan (scan : Nat) : Text :=
  '\\' :: (List.replicate (3 - (Nat.toDigits 8 scan).length) '0' ++ Nat.toDigits 8 scan)

/-- The name of the program, character by character from the address `scan`. -/
def printName (scan : Nat) : Text → Text
  | [] => []
  | c :: name =>
      (if c = '\\' then ['\\', '\\']
        else if ' ' < c ∧ c ≤ '~' then [c]
        else printScan scan) ++ printName (scan + 1) name

namespace Call

variable (call : Call)

/-- `fscanf(f, "%d (%[^)]", &dummy, comm)` on `char comm[17]`, which holds `"???"` before -/
def findComm (pid : Pid) : Option Text :=
  match (call.processes.find? fun process => process.pid = pid).bind Process.comm with
  | none => some "???".toList
  | some stat =>
      let scanned := stat.takeWhile (· ≠ ')')
      if scanned = [] then some "???".toList else sprintf 17 scanned

/-- `user`, where a uid without a name is printed into `char tmp[10]` -/
def findUser (uid : Int) : Option Text :=
  if uid = uidUnknown then some "???".toList
  else
    match call.getpwuid uid with
    | some name => some name
    | none => sprintf 10 (printInt uid)

/-- What `show_user` appends to `returnstring`. -/
def report (item : ItemDsc) : Option Text := do
  let comm ← call.findComm item.pid
  let user ← call.findUser item.uid
  some (" ".toList ++ user ++ " PID = ".toList ++ printPid item.pid ++ "Program = ".toList ++
    printName call.comm comm)

end Call

def unknownApplication : Text := "Unknown Linux Application".toList

/-- `parse_args(tstring)` and `scan_fd()` -/
def lookUp (files : List FileDsc) (cwd : Option Pid) (call : Call) :
    Option (List FileDsc × Option Pid) := do
  scanFd (← parseArgs files cwd call) cwd call.processes

/-- `show_user`: the text in `rs`, and the variables afterwards. -/
def showUser (statics : Statics) (call : Call) : Option (Text × Statics) := do
  let (files, cwd) ← lookUp statics.files statics.cwd call
  if !call.seteuid then some (unknownApplication, { statics with files, cwd })
  else
    match files with
    | [] => none
    | file :: _ =>
        match file.items with
        | [] => some (unknownApplication, { statics with files, cwd })
        | item :: _ => do
            let report ← call.report item
            let returnstring ← sprintf 256 (statics.returnstring ++ report)
            some (returnstring, ⟨files, returnstring, cwd⟩)

/-- `native_psmisc_report_owner`, one call after the other. -/
def run (statics : Statics) (calls : List Call) : Option Statics :=
  calls.foldlM (fun statics call => (showUser statics call).map Prod.snd) statics

/-! ## What a call does -/

/-- The text of a call, and the variables afterwards. -/
inductive Shows (statics : Statics) (call : Call) : Text → Statics → Prop where
  | unknown {files : List FileDsc} {cwd : Option Pid}
      (found : lookUp statics.files statics.cwd call = some (files, cwd))
      (unreported : call.seteuid = false ∨
        ∃ file rest, files = file :: rest ∧ file.items = []) :
      Shows statics call unknownApplication { statics with files, cwd }
  | reports {file : FileDsc} {files : List FileDsc} {cwd : Option Pid} {item : ItemDsc}
      {items : List ItemDsc} {report : Text}
      (found : lookUp statics.files statics.cwd call = some (file :: files, cwd))
      (permitted : call.seteuid = true) (first : file.items = item :: items)
      (reported : call.report item = some report) :
      Shows statics call (statics.returnstring ++ report)
        ⟨file :: files, statics.returnstring ++ report, cwd⟩

section Calls

variable {statics next : Statics} {call : Call} {text : Text} {files found : List FileDsc}
  {cwd left : Option Pid}

theorem shows_of_showUser (shown : showUser statics call = some (text, next)) :
    Shows statics call text next := by
  simp only [showUser, Option.bind_eq_bind, Option.bind_eq_some_iff, Prod.exists] at shown
  obtain ⟨files, cwd, found, shown⟩ := shown
  split_ifs at shown with seteuid
  · simp only [Option.some.injEq, Prod.mk.injEq] at shown
    obtain ⟨rfl, rfl⟩ := shown
    exact .unknown found (.inl (by simpa using seteuid))
  · split at shown
    next => simp at shown
    next file rest =>
      split at shown
      next empty =>
        simp only [Option.some.injEq, Prod.mk.injEq] at shown
        obtain ⟨rfl, rfl⟩ := shown
        exact .unknown found (.inr ⟨file, rest, rfl, empty⟩)
      next item items first =>
        simp only [Option.bind_eq_some_iff, sprintf, Option.ite_none_right_eq_some,
          Option.some.injEq, Prod.mk.injEq] at shown
        obtain ⟨report, reported, _, ⟨_, rfl⟩, rfl, rfl⟩ := shown
        exact .reports found (by simpa using seteuid) first reported

theorem Shows.lookUp_eq (shows : Shows statics call text next) :
    lookUp statics.files statics.cwd call = some (next.files, next.cwd) := by
  cases shows with
  | unknown found | reports found => exact found

/-- What every `add_file` keeps, `scan_fd` keeps. -/
theorem foldl_scanProcess_keeps (holds : List FileDsc → Prop) {processes : List Process}
    (keeps : ∀ files, holds files → ∀ process ∈ processes, ∀ fd ∈ process.fds,
      holds (addFile files fd process.pid)) (initial : holds files) :
    holds (processes.foldl scanProcess files) := by
  refine List.foldlRecOn processes scanProcess initial fun before held process member => ?_
  unfold scanProcess
  split
  next =>
    exact List.foldlRecOn process.fds _ held fun files between fd isOpen =>
      keeps files between process member fd isOpen
  next => exact held

/-- `scan_fd` finds processes, but no files. -/
theorem length_foldl_scanProcess (files : List FileDsc) (processes : List Process) :
    (processes.foldl scanProcess files).length = files.length := by
  refine foldl_scanProcess_keeps (fun later => later.length = files.length) ?_ rfl
  intro later same process _ fd _
  rw [addFile, List.length_map, same]

/-- `scan_fd` leaves the first working directory with the first process that it can enter. -/
theorem foldl_enterProcess_eq_none_iff (cwd : Option Pid) (processes : List Process) :
    processes.foldl enterProcess cwd = none ↔
      cwd = none ∧ ∀ process ∈ processes, process.chdir = false := by
  induction processes generalizing cwd with
  | nil => simp
  | cons process processes ih =>
      rw [List.foldl_cons, ih, List.forall_mem_cons, ← and_assoc, enterProcess]
      cases process.chdir <;> simp

theorem lookUp_eq_some_iff :
    lookUp files cwd call = some (found, left) ↔
      ∃ st, call.stat cwd = some st ∧ call.processes ≠ [] ∧
        found = call.processes.foldl scanProcess
          (if st.isSocket then files else files ++ [⟨call.port, st.dev, st.ino, []⟩]) ∧
        left = call.processes.foldl enterProcess cwd := by
  simp only [lookUp, parseArgs, scanFd, Option.bind_eq_bind, Option.bind_eq_some_iff,
    Option.some.injEq, Option.ite_none_left_eq_some, List.isEmpty_iff, Prod.mk.injEq]
  constructor
  · rintro ⟨_, ⟨st, stat, rfl⟩, nonempty, rfl, rfl⟩
    exact ⟨st, stat, nonempty, rfl, rfl⟩
  · rintro ⟨st, stat, nonempty, rfl, rfl⟩
    exact ⟨_, ⟨st, stat, rfl⟩, nonempty, rfl, rfl⟩

/-- The first file stays the first. -/
theorem lookUp_eq_nil_iff (looked : lookUp files cwd call = some (found, left)) :
    found = [] ↔ files = [] ∧ (call.stat cwd).any Stat.isSocket = true := by
  obtain ⟨st, stat, -, rfl, -⟩ := lookUp_eq_some_iff.mp looked
  rw [← List.length_eq_zero_iff, length_foldl_scanProcess, List.length_eq_zero_iff, stat]
  by_cases isSocket : st.isSocket = true
  · simp [isSocket]
  · simp [isSocket]

end Calls

end Jrxtx.FuserImp
