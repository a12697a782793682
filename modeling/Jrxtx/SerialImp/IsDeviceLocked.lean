import Jrxtx.SerialImp.BaseName

/-!
# Lock files in all known directories

`is_device_locked` of `SerialImp.c` and its copy in `lockdaemon.c` on any file system, with
what lies in the variables that a failing `stat`, `read` or `sscanf` does not write.
Directories have their paths and an identity, so that two paths may lead to one directory.
The copy passes its messages to `syslog` as the format, and has no result if `syslog` does not
get by with that.
-/

namespace Jrxtx.SerialImp.IsDeviceLocked

open Jrxtx.LockDaemon BaseName

/-! ## The file system -/

/-- `st_dev` and `st_ino` of a directory. -/
structure DirId where
  dev : Nat
  ino : Nat
  deriving DecidableEq, Repr

/-- The directories by their paths, and the contents of their files. -/
structure FileSystem where
  dirs : Text → Option DirId
  files : DirId → Text → Option Text

namespace FileSystem

variable (fs : FileSystem) (dir name : Text)

/-- The contents of `dir/name`. -/
def file : Option Text := do
  fs.files (← fs.dirs dir) name

/-- `unlink("dir/name")` -/
def unlink : FileSystem :=
  { fs with
    files := fun id other => if fs.dirs dir = some id ∧ other = name then none
      else fs.files id other }

end FileSystem

/-- `major(st_dev)`, `major(st_rdev)` and `minor(st_rdev)` of a device, as `int` -/
structure Numbers where
  devMajor : Int
  rdevMajor : Int
  rdevMinor : Int
  deriving DecidableEq, Repr

/-- What the calls of `is_device_locked` depend on. -/
structure World where
  fs : FileSystem
  /-- `stat(port_filename, &buf)` -/
  device : Option Numbers
  /-- `kill(pid, 0)` fails with `ESRCH` -/
  noProcess : Int → Bool
  /-- how many bytes `read(fd, pid_buffer, 11)` may store: none if `open` or `read` fails -/
  readPid : Nat
  /-- `unlink(file)` succeeds -/
  unlinks : Bool
  /-- `syslog` gets by with a format that has conversions -/
  conversions : Text → Bool

/-- What lies in the variables of a call before it. -/
structure Locals where
  /-- `buf` -/
  buf : Numbers
  /-- `lockbuf.st_ino` -/
  lockbuf : Nat
  /-- `pid_buffer[20]` and the bytes behind it -/
  pidBuffer : Text
  pid : Int

/-! ## The two functions -/

/-- `LOCKDIR` -/
def lockdir : Text := "/var/lock".toList

/-- `LOCKFILEPREFIX` -/
def lockfilePrefix : Text := "LCK..".toList

def lockdirs : List Text :=
  ["/etc/locks".toList, "/usr/spool/kermit".toList, "/usr/spool/locks".toList,
    "/usr/spool/uucp".toList, "/usr/spool/uucp/".toList, "/usr/spool/uucp/LCK".toList,
    "/var/lock".toList, "/var/lock/modem".toList, "/var/spool/lock".toList,
    "/var/spool/locks".toList, "/var/spool/uucp".toList, lockdir]

def lockprefixes : List Text :=
  ["LCK..".toList, "lk..".toList, "LK.".toList]

/-- `%03d` -/
def print03d (value : Int) : Text :=
  let digits := Nat.toDigits 10 value.natAbs
  if value < 0 then '-' :: (List.replicate (2 - digits.length) '0' ++ digits)
  else List.replicate (3 - digits.length) '0' ++ digits

/-- `%03d.%03d.%03d` -/
def Numbers.print (numbers : Numbers) : Text :=
  print03d numbers.devMajor ++ '.' :: print03d numbers.rdevMajor ++
    '.' :: print03d numbers.rdevMinor

namespace World

variable (world : World) (locals : Locals)

/-- `SerialImp.c` looks into directories with another inode number than `LOCKDIR`, whose
paths are no prefixes of `LOCKDIR`. -/
def searches (dir : Text) (id : DirId) : Bool :=
  id.ino ≠ ((world.fs.dirs lockdir).map DirId.ino).getD locals.lockbuf && !dir.isPrefixOf lockdir

/-- `lockdaemon.c` does not compare inode numbers. -/
def daemonSearches (dir : Text) (_id : DirId) : Bool :=
  !dir.isPrefixOf lockdir

/-- The first lock file in one of the directories that are looked into, in FHS style or in UUCP
style. -/
def unexpectedFile (searches : Text → DirId → Bool) (p : Text) : Option Text :=
  lockdirs.findSome? fun dir =>
    (world.fs.dirs dir).bind fun id =>
      if searches dir id then
        lockprefixes.findSome? fun pre =>
          let uucp := pre ++ (world.device.getD locals.buf).print
          if (world.fs.file dir (pre ++ p)).isSome then some (dir ++ '/' :: (pre ++ p))
          else if (world.fs.file dir uucp).isSome then some (dir ++ '/' :: uucp)
          else none
      else none

/-- There is one. -/
def unexpected (searches : Text → DirId → Bool) (p : Text) : Bool :=
  (world.unexpectedFile locals searches p).isSome

/-- The file `LOCKDIR/LCK..p` -/
def lockFile (p : Text) : Option Text :=
  world.fs.file lockdir (lockfilePrefix ++ p)

/-- The `pid` that `sscanf` leaves. -/
def foundPid (contents : Text) : Int :=
  sscanfPid (readInto contents world.readPid locals.pidBuffer) locals.pid

def isDeviceLocked (portFilename : Text) : Option (Int × FileSystem) := do
  let p ← isDeviceLockedName portFilename
  if world.unexpected locals (world.searches locals) p then some (1, world.fs)
  else
    match world.lockFile p with
    | none => some (0, world.fs)
    | some contents =>
        if world.noProcess (world.foundPid locals contents) then
          if !world.unlinks then some (1, world.fs)
          else some (0, world.fs.unlink lockdir (lockfilePrefix ++ p))
        else some (0, world.fs)

/-- `syslog` gets by with a message as its format. -/
def Prints (message : Text) : Prop :=
  '%' ∈ message → world.conversions message = true

instance (message : Text) : Decidable (world.Prints message) :=
  inferInstanceAs (Decidable (_ → _))

/-- `syslog(LOG_INFO, message)` -/
def syslog (message : Text) : Option Unit :=
  if world.Prints message then some () else none

/-- The copy in `lockdaemon.c` -/
def daemonIsDeviceLocked (portFilename : Text) : Option (Int × FileSystem) := do
  let p ← isDeviceLockedName portFilename
  match world.unexpectedFile locals daemonSearches p with
  | some file => do
      world.syslog (unexpectedLockFile file)
      some (1, world.fs)
  | none =>
      match world.lockFile p with
      | none => some (0, world.fs)
      | some contents =>
          if world.noProcess (world.foundPid locals contents) then do
            world.syslog (removingStale (lockPrefix ++ p))
            if !world.unlinks then do
              world.syslog (unableToRemove (lockPrefix ++ p))
              some (0, world.fs)
            else some (0, world.fs.unlink lockdir (lockfilePrefix ++ p))
          else some (1, world.fs)

/-! ## Locks of live processes -/

/-- The names of lock files for a device. -/
def lockNames (portFilename : Text) : List Text :=
  lockprefixes.flatMap fun pre =>
    (pre ++ baseName portFilename) ::
      (world.device.map fun numbers => pre ++ numbers.print).toList

end World

/-- The number at the beginning of a lock file: what `sscanf` stores, whatever has been there
before. -/
def namedPid (contents : Text) : Option Int :=
  if sscanfPid contents 0 = sscanfPid contents 1 then some (sscanfPid contents 0) else none

namespace World

variable (world : World)

/-- The lock file names a process, which is alive. -/
def NamesLive (contents : Text) : Prop :=
  ∃ pid, namedPid contents = some pid ∧ world.noProcess pid = false

/-- The lock file names a process, which is not alive. -/
def Stale (contents : Text) : Prop :=
  ∃ pid, namedPid contents = some pid ∧ world.noProcess pid = true

/-- A lock file for the device in a known directory names a live process. -/
def Live (portFilename : Text) (fs : FileSystem) : Prop :=
  ∃ dir ∈ lockdirs, ∃ name ∈ world.lockNames portFilename, ∃ contents,
    fs.file dir name = some contents ∧ world.NamesLive contents

/-- Only stale lock files are removed. -/
def OnlyStaleRemoved (after : FileSystem) : Prop :=
  ∀ id name contents, world.fs.files id name = some contents → after.files id name = none →
    world.Stale contents

/-- `is_device_locked` returns 0 only if no lock is left to a live process, removes only stale
locks, and does what its copy does. -/
def Sound (own daemon : Locals) (portFilename : Text) : Prop :=
  ∃ verdict after, world.isDeviceLocked own portFilename = some (verdict, after) ∧
    world.daemonIsDeviceLocked daemon portFilename = some (verdict, after) ∧
    (verdict = 0 → ¬ world.Live portFilename after) ∧ world.OnlyStaleRemoved after

/-! ## The condition -/

/-- `SerialImp.c` finds an unexpected lock file, or a lock file in `LOCKDIR` that it takes for
stale and that cannot be removed. -/
def Locked (locals : Locals) (p : Text) : Prop :=
  world.unexpected locals (world.searches locals) p = true ∨
    ∃ contents, world.lockFile p = some contents ∧
      world.noProcess (world.foundPid locals contents) = true ∧ world.unlinks = false

/-- `lockdaemon.c` finds an unexpected lock file, or one in `LOCKDIR` that it does not take
for stale. -/
def DaemonLocked (locals : Locals) (p : Text) : Prop :=
  world.unexpected locals daemonSearches p = true ∨
    ∃ contents, world.lockFile p = some contents ∧
      world.noProcess (world.foundPid locals contents) = false

/-- The messages of `lockdaemon.c`: it names an unexpected lock file, or the one in `LOCKDIR` if
it takes it for stale. -/
def daemonMessages (locals : Locals) (p : Text) : List Text :=
  match world.unexpectedFile locals daemonSearches p with
  | some file => [unexpectedLockFile file]
  | none =>
      match world.lockFile p with
      | none => []
      | some contents =>
          if world.noProcess (world.foundPid locals contents) then
            if world.unlinks then [removingStale (lockPrefix ++ p)]
            else [removingStale (lockPrefix ++ p), unableToRemove (lockPrefix ++ p)]
          else []

/-- No unexpected lock file is found and none names a live process.  If there is one in
`LOCKDIR`, it is stale, both take it for stale and it can be removed; or else it cannot, and
only `lockdaemon.c` takes it for stale. -/
structure Free (own daemon : Locals) (portFilename p : Text) : Prop where
  expected : world.unexpected own (world.searches own) p = false
  daemonExpected : world.unexpected daemon daemonSearches p = false
  noneLive : ¬ world.Live portFilename world.fs
  lockFile : ∀ contents, world.lockFile p = some contents →
    (world.Stale contents ∧ world.noProcess (world.foundPid own contents) = true ∧
      world.noProcess (world.foundPid daemon contents) = true ∧ world.unlinks = true) ∨
    (world.noProcess (world.foundPid own contents) = false ∧
      world.noProcess (world.foundPid daemon contents) = true ∧ world.unlinks = false)

end World

/-! ## Removing a file -/

section Unlink

variable {fs : FileSystem} {dir other name file contents : Text}

theorem file_eq_some_iff :
    fs.file dir name = some contents ↔
      ∃ id, fs.dirs dir = some id ∧ fs.files id name = some contents := by
  simp only [FileSystem.file, Option.bind_eq_bind, Option.bind_eq_some_iff]

theorem file_unlink_eq_some_iff :
    (fs.unlink dir name).file other file = some contents ↔
      ∃ id, fs.dirs other = some id ∧ ¬ (fs.dirs dir = some id ∧ file = name) ∧
        fs.files id file = some contents := by
  simp only [file_eq_some_iff, FileSystem.unlink, Option.ite_none_left_eq_some]

theorem file_of_file_unlink (there : (fs.unlink dir name).file other file = some contents) :
    fs.file other file = some contents := by
  obtain ⟨id, found, -, same⟩ := file_unlink_eq_some_iff.mp there
  exact file_eq_some_iff.mpr ⟨id, found, same⟩

/-- A file is there after the removal of another one, and else it is the one removed. -/
theorem file_unlink_or (there : fs.file other file = some contents) :
    (fs.unlink dir name).file other file = some contents ∨ fs.file dir name = some contents := by
  obtain ⟨id, found, same⟩ := file_eq_some_iff.mp there
  by_cases removed : fs.dirs dir = some id ∧ file = name
  · exact .inr (file_eq_some_iff.mpr ⟨id, removed.1, removed.2 ▸ same⟩)
  · exact .inl (file_unlink_eq_some_iff.mpr ⟨id, found, removed, same⟩)

theorem file_unlink_self (fs : FileSystem) (dir name : Text) :
    (fs.unlink dir name).file dir name = none := by
  rw [Option.eq_none_iff_forall_ne_some]
  intro contents there
  obtain ⟨id, found, kept, -⟩ := file_unlink_eq_some_iff.mp there
  exact kept ⟨found, rfl⟩

theorem unlink_ne (there : fs.file dir name = some contents) : fs.unlink dir name ≠ fs := by
  intro same
  have removed := file_unlink_self fs dir name
  rw [same, there] at removed
  cases removed

theorem file_of_removed {id : DirId} (there : fs.files id file = some contents)
    (removed : (fs.unlink dir name).files id file = none) : fs.file dir name = some contents := by
  simp only [FileSystem.unlink] at removed
  split_ifs at removed with same
  · obtain ⟨found, rfl⟩ := same
    exact file_eq_some_iff.mpr ⟨id, found, there⟩
  · rw [there] at removed
    cases removed

end Unlink

/-! ## What the two functions do -/

namespace World

section Cases

variable {world : World} {own daemon : Locals} {portFilename p contents : Text}

/-- What `is_device_locked` of `SerialImp.c` comes to. -/
inductive Does (world : World) (own : Locals) (p : Text) : Int × FileSystem → Prop where
  | locked (locked : world.Locked own p) : Does world own p (1, world.fs)
  | removes {contents : Text} (expected : world.unexpected own (world.searches own) p = false)
      (there : world.lockFile p = some contents)
      (dead : world.noProcess (world.foundPid own contents) = true)
      (unlinks : world.unlinks = true) :
      Does world own p (0, world.fs.unlink lockdir (lockfilePrefix ++ p))
  | free (expected : world.unexpected own (world.searches own) p = false)
      (alive : ∀ contents, world.lockFile p = some contents →
        world.noProcess (world.foundPid own contents) = false) : Does world own p (0, world.fs)

/-- What the copy comes to. -/
inductive DaemonDoes (world : World) (daemon : Locals) (p : Text) : Int × FileSystem → Prop where
  | locked (locked : world.DaemonLocked daemon p) : DaemonDoes world daemon p (1, world.fs)
  | removes {contents : Text} (expected : world.unexpected daemon daemonSearches p = false)
      (there : world.lockFile p = some contents)
      (dead : world.noProcess (world.foundPid daemon contents) = true)
      (unlinks : world.unlinks = true) :
      DaemonDoes world daemon p (0, world.fs.unlink lockdir (lockfilePrefix ++ p))
  | free (expected : world.unexpected daemon daemonSearches p = false)
      (stuck : ∀ contents, world.lockFile p = some contents →
        world.noProcess (world.foundPid daemon contents) = true ∧ world.unlinks = false) :
      DaemonDoes world daemon p (0, world.fs)

theorem exists_does (world : World) (own : Locals)
    (scanned : isDeviceLockedName portFilename = some p) :
    ∃ result, world.isDeviceLocked own portFilename = some result ∧ Does world own p result := by
  simp only [isDeviceLocked, scanned, Option.bind_eq_bind, Option.bind_some]
  cases unexpected : world.unexpected own (world.searches own) p with
  | true => exact ⟨_, rfl, .locked (.inl unexpected)⟩
  | false =>
      cases there : world.lockFile p with
      | none =>
          exact ⟨_, rfl, .free unexpected fun contents found => by simp [there] at found⟩
      | some contents =>
          dsimp only
          cases dead : world.noProcess (world.foundPid own contents) with
          | true =>
              cases unlinks : world.unlinks with
              | true => exact ⟨_, rfl, .removes unexpected there dead unlinks⟩
              | false => exact ⟨_, rfl, .locked (.inr ⟨contents, there, dead, unlinks⟩)⟩
          | false =>
              refine ⟨_, rfl, .free unexpected fun other found => ?_⟩
              obtain rfl := Option.some.inj (there.symm.trans found)
              exact dead

theorem exists_daemonDoes (world : World) (daemon : Locals)
    (scanned : isDeviceLockedName portFilename = some p)
    (prints : ∀ message ∈ world.daemonMessages daemon p, world.Prints message) :
    ∃ result, world.daemonIsDeviceLocked daemon portFilename = some result ∧
      DaemonDoes world daemon p result := by
  simp only [daemonIsDeviceLocked, scanned, Option.bind_eq_bind, Option.bind_some]
  rw [daemonMessages] at prints
  cases found : world.unexpectedFile daemon daemonSearches p with
  | some file =>
      simp only [found, List.forall_mem_singleton] at prints
      have unexpected : world.unexpected daemon daemonSearches p = true := by
        rw [World.unexpected, found]
        rfl
      exact ⟨_, by simp [syslog, prints], .locked (.inl unexpected)⟩
  | none =>
      have expected : world.unexpected daemon daemonSearches p = false := by
        rw [World.unexpected, found]
        rfl
      cases there : world.lockFile p with
      | none =>
          exact ⟨_, rfl, .free expected fun contents found => by simp [there] at found⟩
      | some contents =>
          simp only [found, there] at prints ⊢
          cases dead : world.noProcess (world.foundPid daemon contents) with
          | true =>
              cases unlinks : world.unlinks with
              | true =>
                  simp only [dead, unlinks, if_true, List.forall_mem_singleton] at prints
                  exact ⟨_, by simp [syslog, prints], .removes expected there dead unlinks⟩
              | false =>
                  simp only [dead, unlinks, if_true, Bool.false_eq_true, if_false,
                    List.forall_mem_cons] at prints
                  refine ⟨(0, world.fs), by simp [syslog, prints], .free expected ?_⟩
                  intro other found
                  obtain rfl := Option.some.inj (there.symm.trans found)
                  exact ⟨dead, unlinks⟩
          | false => exact ⟨_, rfl, .locked (.inr ⟨contents, there, dead⟩)⟩

theorem syslog_eq_some_iff {message : Text} :
    world.syslog message = some () ↔ world.Prints message := by
  simp [syslog]

/-- A verdict of the copy has passed its messages through `syslog`. -/
theorem prints_of_daemonIsDeviceLocked {result : Int × FileSystem}
    (scanned : isDeviceLockedName portFilename = some p)
    (ran : world.daemonIsDeviceLocked daemon portFilename = some result) :
    ∀ message ∈ world.daemonMessages daemon p, world.Prints message := by
  simp only [daemonIsDeviceLocked, scanned, Option.bind_eq_bind, Option.bind_some] at ran
  rw [daemonMessages]
  cases found : world.unexpectedFile daemon daemonSearches p with
  | some file =>
      simp only [found, Option.bind_eq_some_iff] at ran
      obtain ⟨⟨⟩, logged, -⟩ := ran
      simpa using syslog_eq_some_iff.mp logged
  | none =>
      cases there : world.lockFile p with
      | none => simp
      | some contents =>
          simp only [found, there] at ran
          cases dead : world.noProcess (world.foundPid daemon contents) with
          | false => simp [dead]
          | true =>
              simp only [dead, if_true, Option.bind_eq_some_iff] at ran
              obtain ⟨⟨⟩, removing, ran⟩ := ran
              have first := syslog_eq_some_iff.mp removing
              cases unlinks : world.unlinks with
              | true => simpa [dead] using first
              | false =>
                  simp only [unlinks, Bool.not_false, if_true, Option.bind_eq_some_iff] at ran
                  obtain ⟨⟨⟩, unable, -⟩ := ran
                  simpa [dead] using ⟨first, syslog_eq_some_iff.mp unable⟩

theorem Does.eq_of_locked {result : Int × FileSystem} (does : Does world own p result)
    (locked : world.Locked own p) : result = (1, world.fs) := by
  cases does with
  | locked => rfl
  | removes expected there dead unlinks =>
      rcases locked with unexpected | ⟨_, _, _, stuck⟩
      · simp [expected] at unexpected
      · simp [unlinks] at stuck
  | free expected alive =>
      rcases locked with unexpected | ⟨contents, there, dead, _⟩
      · simp [expected] at unexpected
      · simp [alive contents there] at dead

theorem DaemonDoes.eq_of_locked {result : Int × FileSystem}
    (does : DaemonDoes world daemon p result) (locked : world.DaemonLocked daemon p) :
    result = (1, world.fs) := by
  cases does with
  | locked => rfl
  | removes expected there dead unlinks =>
      rcases locked with unexpected | ⟨other, found, alive⟩
      · simp [expected] at unexpected
      · obtain rfl := Option.some.inj (there.symm.trans found)
        simp [dead] at alive
  | free expected stuck =>
      rcases locked with unexpected | ⟨contents, there, alive⟩
      · simp [expected] at unexpected
      · simp [(stuck contents there).1] at alive

theorem onlyStaleRemoved_self : world.OnlyStaleRemoved world.fs := by
  intro id name contents there removed
  rw [there] at removed
  cases removed

theorem onlyStaleRemoved_unlink_iff (there : world.lockFile p = some contents) :
    world.OnlyStaleRemoved (world.fs.unlink lockdir (lockfilePrefix ++ p)) ↔
      world.Stale contents := by
  constructor
  · intro onlyStale
    obtain ⟨id, found, there⟩ := file_eq_some_iff.mp there
    exact onlyStale id _ contents there (if_pos ⟨found, rfl⟩)
  · intro stale id name other before removed
    have same : world.lockFile p = some other := file_of_removed before removed
    obtain rfl := Option.some.inj (there.symm.trans same)
    exact stale

/-- Removing a stale lock file leaves the locks of live processes. -/
theorem live_unlink_iff (there : world.lockFile p = some contents)
    (stale : world.Stale contents) :
    world.Live portFilename (world.fs.unlink lockdir (lockfilePrefix ++ p)) ↔
      world.Live portFilename world.fs := by
  constructor
  · rintro ⟨dir, known, name, named, other, found, live⟩
    exact ⟨dir, known, name, named, other, file_of_file_unlink found, live⟩
  · rintro ⟨dir, known, name, named, other, found, live⟩
    refine ⟨dir, known, name, named, other, (file_unlink_or found).resolve_right ?_, live⟩
    intro same
    obtain rfl := Option.some.inj (there.symm.trans same)
    obtain ⟨pid, names, dead⟩ := stale
    obtain ⟨pid', names', alive⟩ := live
    obtain rfl := Option.some.inj (names.symm.trans names')
    simp [dead] at alive

/-- The two functions come to one result, which keeps what is promised. -/
theorem sound_iff_of_results {result daemonResult : Int × FileSystem}
    (ran : world.isDeviceLocked own portFilename = some result)
    (daemonRan : world.daemonIsDeviceLocked daemon portFilename = some daemonResult) :
    world.Sound own daemon portFilename ↔ daemonResult = result ∧
      (result.1 = 0 → ¬ world.Live portFilename result.2) ∧ world.OnlyStaleRemoved result.2 := by
  constructor
  · rintro ⟨verdict, after, ran', daemonRan', noneLive, onlyStale⟩
    obtain rfl := Option.some.inj (ran.symm.trans ran')
    obtain rfl := Option.some.inj (daemonRan.symm.trans daemonRan')
    exact ⟨rfl, noneLive, onlyStale⟩
  · rintro ⟨rfl, noneLive, onlyStale⟩
    exact ⟨_, _, ran, daemonRan, noneLive, onlyStale⟩

theorem Free.not_locked (free : world.Free own daemon portFilename p) :
    ¬ world.Locked own p := by
  rintro (unexpected | ⟨contents, there, dead, stuck⟩)
  · simp [free.expected] at unexpected
  · rcases free.lockFile contents there with ⟨_, _, _, unlinks⟩ | ⟨alive, _, _⟩
    · simp [unlinks] at stuck
    · simp [dead] at alive

theorem Free.not_daemonLocked (free : world.Free own daemon portFilename p) :
    ¬ world.DaemonLocked daemon p := by
  rintro (unexpected | ⟨contents, there, alive⟩)
  · simp [free.daemonExpected] at unexpected
  · rcases free.lockFile contents there with ⟨_, _, dead, _⟩ | ⟨_, dead, _⟩
    · simp [dead] at alive
    · simp [dead] at alive

/-- Where nothing is in the way both remove what is stale. -/
theorem Free.sound (free : world.Free own daemon portFilename p)
    {result daemonResult : Int × FileSystem} (does : Does world own p result)
    (daemonDoes : DaemonDoes world daemon p daemonResult) :
    daemonResult = result ∧ ¬ world.Live portFilename result.2 ∧
      world.OnlyStaleRemoved result.2 := by
  cases does with
  | locked locked => exact absurd locked free.not_locked
  | removes expected there dead unlinks =>
      rcases free.lockFile _ there with ⟨stale, _, _, _⟩ | ⟨alive, _, _⟩
      · cases daemonDoes with
        | locked locked => exact absurd locked free.not_daemonLocked
        | removes =>
            exact ⟨rfl, (live_unlink_iff there stale).not.mpr free.noneLive,
              (onlyStaleRemoved_unlink_iff there).mpr stale⟩
        | free _ stuck => simp [(stuck _ there).2] at unlinks
      · simp [dead] at alive
  | free expected alive =>
      cases daemonDoes with
      | locked locked => exact absurd locked free.not_daemonLocked
      | removes _ there _ unlinks =>
          rcases free.lockFile _ there with ⟨_, dead, _, _⟩ | ⟨_, _, stuck⟩
          · simp [alive _ there] at dead
          · simp [unlinks] at stuck
      | free => exact ⟨rfl, free.noneLive, onlyStaleRemoved_self⟩

/-- The two functions do the same in no other case. -/
theorem locked_or_free {result daemonResult : Int × FileSystem} (does : Does world own p result)
    (daemonDoes : DaemonDoes world daemon p daemonResult) (same : daemonResult = result)
    (noneLive : result.1 = 0 → ¬ world.Live portFilename result.2)
    (onlyStale : world.OnlyStaleRemoved result.2) :
    world.Locked own p ∧ world.DaemonLocked daemon p ∨
      world.Free own daemon portFilename p := by
  cases does with
  | locked locked =>
      cases daemonDoes with
      | locked daemonLocked => exact .inl ⟨locked, daemonLocked⟩
      | removes | free => simp at same
  | removes expected there dead unlinks =>
      have stale := (onlyStaleRemoved_unlink_iff there).mp onlyStale
      cases daemonDoes with
      | locked => simp at same
      | removes daemonExpected also daemonDead =>
          refine .inr ⟨expected, daemonExpected,
            (live_unlink_iff there stale).not.mp (noneLive rfl), fun other found => ?_⟩
          obtain rfl := Option.some.inj (there.symm.trans found)
          obtain rfl := Option.some.inj (there.symm.trans also)
          exact .inl ⟨stale, dead, daemonDead, unlinks⟩
      | free => exact absurd (Prod.mk.inj same).2.symm (unlink_ne there)
  | free expected alive =>
      cases daemonDoes with
      | locked => simp at same
      | removes _ there => exact absurd (Prod.mk.inj same).2 (unlink_ne there)
      | free daemonExpected stuck =>
          exact .inr ⟨expected, daemonExpected, noneLive rfl, fun contents there =>
            .inr ⟨alive contents there, stuck contents there⟩⟩

/-- What is promised holds exactly if `syslog` gets by with the messages of `lockdaemon.c`, and
both functions find the device locked, or nothing is in the way and both treat the lock file in
`LOCKDIR` alike. -/
theorem sound_iff (world : World) (own daemon : Locals) (portFilename : Text) :
    world.Sound own daemon portFilename ↔
      ∃ p, isDeviceLockedName portFilename = some p ∧
        (∀ message ∈ world.daemonMessages daemon p, world.Prints message) ∧
        (world.Locked own p ∧ world.DaemonLocked daemon p ∨
          world.Free own daemon portFilename p) := by
  cases scanned : isDeviceLockedName portFilename with
  | none =>
      constructor
      · rintro ⟨verdict, after, ran, -⟩
        simp [isDeviceLocked, scanned] at ran
      · rintro ⟨p, found, -⟩
        cases found
  | some p =>
      simp only [Option.some.injEq, exists_eq_left']
      by_cases prints : ∀ message ∈ world.daemonMessages daemon p, world.Prints message
      · obtain ⟨result, ran, does⟩ := exists_does world own scanned
        obtain ⟨daemonResult, daemonRan, daemonDoes⟩ :=
          exists_daemonDoes world daemon scanned prints
        rw [sound_iff_of_results ran daemonRan, and_iff_right prints]
        constructor
        · rintro ⟨same, noneLive, onlyStale⟩
          exact locked_or_free does daemonDoes same noneLive onlyStale
        · rintro (⟨locked, daemonLocked⟩ | free)
          · obtain rfl := does.eq_of_locked locked
            obtain rfl := daemonDoes.eq_of_locked daemonLocked
            exact ⟨rfl, by simp, onlyStaleRemoved_self⟩
          · obtain ⟨same, noneLive, onlyStale⟩ := free.sound does daemonDoes
            exact ⟨same, fun _ => noneLive, onlyStale⟩
      · refine iff_of_false ?_ fun sound => prints sound.1
        rintro ⟨verdict, after, -, daemonRan, -⟩
        exact prints (prints_of_daemonIsDeviceLocked scanned daemonRan)

end Cases

/-! ## The lock directory alone -/

/-- `sscanf` leaves the number that the text names, if there is one. -/
theorem foundPid_eq (world : World) (locals : Locals) (contents : Text) :
    world.foundPid locals contents =
      (namedPid (readInto contents world.readPid locals.pidBuffer)).getD locals.pid := by
  simp only [foundPid, namedPid, sscanfPid]
  split_ifs <;> simp_all

/-- What `Jrxtx.SerialImp.FhsLock` knows of the file system and of the calls. -/
structure Views (world : World) (own : Locals) (p : Text) (dir : LockDir) (calls : LockCalls)
    (path : Text) : Prop where
  files : (dir.files path).map OwnedFile.contents = world.lockFile p
  noProcess : dir.noProcess = world.noProcess
  unexpected : calls.unexpectedLockFile = world.unexpected own (world.searches own) p
  statLockFile : calls.statLockFile = true
  readPid : calls.readPid = world.readPid
  pidBuffer : calls.pidBuffer = own.pidBuffer
  pid : calls.pid = own.pid
  unlinkStale : calls.unlinkStale = world.unlinks

section Views

variable {world : World} {own : Locals} {portFilename p path contents : Text} {dir : LockDir}
  {calls : LockCalls} {result : Int × FileSystem}

/-- The lock file, and its pid as `kill` is asked about it. -/
theorem Views.exists_file (views : Views world own p dir calls path)
    (there : world.lockFile p = some contents) :
    ∃ file, dir.files path = some file ∧
      dir.noProcess (calls.foundPid file) = world.noProcess (world.foundPid own contents) := by
  obtain ⟨file, found, rfl⟩ := Option.map_eq_some_iff.mp (views.files.trans there)
  refine ⟨file, found, ?_⟩
  rw [views.noProcess, LockCalls.foundPid, World.foundPid, views.readPid, views.pidBuffer,
    views.pid]

/-- There, `is_device_locked` has the same result and leaves the same lock file. -/
theorem Views.isDeviceLocked (views : Views world own p dir calls path)
    (scanned : isDeviceLockedName portFilename = some p)
    (ran : world.isDeviceLocked own portFilename = some result) :
    ((dir.isDeviceLocked calls path).1 = true ↔ result.1 = 1) ∧
      ((dir.isDeviceLocked calls path).2.files path).map OwnedFile.contents =
        result.2.file lockdir (lockfilePrefix ++ p) := by
  have same : (dir.files path).map OwnedFile.contents =
    world.fs.file lockdir (lockfilePrefix ++ p) := views.files
  simp only [World.isDeviceLocked, scanned, Option.bind_eq_bind, Option.bind_some] at ran
  rw [LockDir.isDeviceLocked, views.unexpected, views.statLockFile, views.unlinkStale]
  cases unexpected : world.unexpected own (world.searches own) p with
  | true =>
      rw [if_pos unexpected] at ran
      obtain rfl := Option.some.inj ran
      simp [same]
  | false =>
      rw [if_neg (by simp [unexpected])] at ran
      cases there : world.lockFile p with
      | none =>
          have missing : dir.files path = none :=
            Option.map_eq_none_iff.mp (views.files.trans there)
          simp only [there] at ran
          obtain rfl := Option.some.inj ran
          simp [missing, ← same]
      | some contents =>
          obtain ⟨file, found, kill⟩ := views.exists_file there
          simp only [there, ← kill] at ran
          simp only [found, Bool.false_eq_true, if_false, if_true]
          cases dead : dir.noProcess (calls.foundPid file) with
          | false =>
              rw [if_neg (by simp [dead])] at ran
              obtain rfl := Option.some.inj ran
              simp [same]
          | true =>
              rw [if_pos dead] at ran
              cases unlinks : world.unlinks with
              | false =>
                  rw [if_pos (by simp [unlinks])] at ran
                  obtain rfl := Option.some.inj ran
                  simp [same]
              | true =>
                  rw [if_neg (by simp [unlinks])] at ran
                  obtain rfl := Option.some.inj ran
                  simp [LockDir.remove, file_unlink_self]

end Views

/-! ## A lock in `LOCKDIR` -/

/-- Process 1234 has locked the device in the only directory that exists. -/
def lockedByOther : World where
  fs :=
    { dirs := fun dir => if dir = lockdir then some ⟨8, 100⟩ else none
      files := fun _ name => if name = "LCK..ttyS0".toList then some (lockinfo 1234) else none }
  device := some ⟨0, 4, 64⟩
  noProcess pid := pid ≠ 1234
  readPid := 11
  unlinks := true
  conversions := fun _ => false

/-- Variables that are 0. -/
def zeroed : Locals where
  buf := ⟨0, 0, 0⟩
  lockbuf := 0
  pidBuffer := List.replicate 20 nul
  pid := 0

/-- `SerialImp.c` lets the device pass although its lock file names a live process, and
`lockdaemon.c` does not. -/
theorem not_sound_lockedByOther :
    (lockedByOther.isDeviceLocked zeroed "/dev/ttyS0".toList).map Prod.fst = some 0 ∧
      (lockedByOther.daemonIsDeviceLocked zeroed "/dev/ttyS0".toList).map Prod.fst = some 1 ∧
      lockedByOther.Live "/dev/ttyS0".toList lockedByOther.fs ∧
      ¬ lockedByOther.Sound zeroed zeroed "/dev/ttyS0".toList := by
  have passes : (lockedByOther.isDeviceLocked zeroed "/dev/ttyS0".toList).map Prod.fst =
      some 0 := by decide
  have stops : (lockedByOther.daemonIsDeviceLocked zeroed "/dev/ttyS0".toList).map Prod.fst =
      some 1 := by decide
  have live : lockedByOther.Live "/dev/ttyS0".toList lockedByOther.fs :=
    ⟨lockdir, by decide, "LCK..ttyS0".toList, by decide, lockinfo 1234, by decide, 1234,
      by decide, by decide⟩
  refine ⟨passes, stops, live, ?_⟩
  rintro ⟨verdict, after, ran, daemonRan, -⟩
  rw [ran] at passes
  rw [daemonRan] at stops
  exact absurd (passes.symm.trans stops) (by decide)

end World

end Jrxtx.SerialImp.IsDeviceLocked
