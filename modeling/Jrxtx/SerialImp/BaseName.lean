import Jrxtx.Lists.LastPart
import Jrxtx.SerialImp.FhsLock

/-!
# The base name of a device in the names of its lock files

`fhs_lock`, `fhs_unlock` and `is_device_locked` look for the last `/` of a device name from
its end, with a counter that keeps them from leaving the name.  The counter stops them
one character too early if there is no `/`.
-/

namespace Jrxtx.SerialImp.BaseName

open Jrxtx.LockDaemon Jrxtx.Lists

/-- The part behind the last `/`, and the whole name if there is none. -/
def baseName (filename : Text) : Text :=
  lastPart '/' filename

/-! ## The scans -/

/-- The text at `p` behind the scan, with `j = strlen(filename)` and `p = filename + j`
before it. -/
def scannedName (filename : Text) : Option Text :=
  (scanBack filename filename.length filename.length).map filename.drop

/-- `fhs_lock`, with the counter `j` -/
def fhsLockName : Text → Option Text := scannedName

/-- `fhs_unlock`, with the counter `i` -/
def fhsUnlockName : Text → Option Text := scannedName

/-- `is_device_locked`, before the first directory, in each of them and behind the last -/
def isDeviceLockedName : Text → Option Text := scannedName

/-- `sprintf(file, "%s/LCK..%s", LOCKDIR, p)` of `fhs_lock`, into `file[80]` -/
def fhsLockFile (filename : Text) : Option Text := do
  sprintf 80 (lockPrefix ++ (← fhsLockName filename))

/-- The same of `fhs_unlock`. -/
def fhsUnlockFile (filename : Text) : Option Text := do
  sprintf 80 (lockPrefix ++ (← fhsUnlockName filename))

/-- `asprintf(&file, "%s/%s%s", LOCKDIR, LOCKFILEPREFIX, p)` of `is_device_locked` -/
def isDeviceLockedFile (filename : Text) : Option Text := do
  some (lockPrefix ++ (← isDeviceLockedName filename))

/-! ## What they find -/

section Scans

variable {filename base : Text}

/-- The scan does not leave the name, and the counter says where it is. -/
theorem scanBack_eq_lockBase {j : Nat} (inside : j ≤ filename.length) :
    scanBack filename j j = lockBase filename j := by
  induction j with
  | zero => rfl
  | succ j ih =>
      have char : filename[j]? = some filename[j] := List.getElem?_eq_getElem inside
      have counter : ((j + 1 : Nat) : Int) = 1 ↔ j = 0 := by omega
      have next : ((j + 1 : Nat) : Int) - 1 = j := by omega
      simp only [scanBack, lockBase, char, Option.bind_eq_bind, Option.bind_some, counter, next,
        ih (Nat.le_of_succ_le inside), Option.some.injEq]

/-- It stops behind the last `/`, wherever in the base name it is. -/
theorem lockBase_append (dir : Text) (noSlash : '/' ∉ base) {k : Nat} (le : k ≤ base.length) :
    lockBase (dir ++ '/' :: base) (dir.length + 1 + k) = some (dir.length + 1) := by
  induction k with
  | zero => simp [lockBase]
  | succ k ih =>
      have char : (dir ++ '/' :: base)[dir.length + 1 + k]? = base[k]? := by
        rw [List.getElem?_append_right (by omega)]
        simp [Nat.add_assoc, Nat.add_comm 1 k]
      have other : base[k]? ≠ some '/' := fun same => noSlash (List.mem_of_getElem? same)
      rw [← Nat.add_assoc, lockBase, char, if_neg (by simp [other])]
      exact ih (Nat.le_of_succ_le le)

/-- Without a `/` it stops in front of the second character. -/
theorem lockBase_of_not_mem (noSlash : '/' ∉ filename) (j : Nat) :
    lockBase filename (j + 1) = some 1 := by
  induction j with
  | zero => simp [lockBase]
  | succ j ih =>
      have other : filename[j + 1]? ≠ some '/' := fun same =>
        noSlash (List.mem_of_getElem? same)
      rw [lockBase, if_neg (by simp [other]), ih]

/-- What every scan finds. -/
theorem scannedName_eq (nonempty : filename ≠ []) :
    scannedName filename =
      some (if '/' ∈ filename then baseName filename else filename.tail) := by
  rw [scannedName, scanBack_eq_lockBase le_rfl]
  split_ifs with slash
  · obtain ⟨dir, split⟩ := exists_front slash
    have noSlash := not_mem_lastPart '/' filename
    rw [baseName]
    generalize lastPart '/' filename = base at split noSlash
    subst split
    have found := lockBase_append dir noSlash le_rfl
    rw [show (dir ++ '/' :: base).length = dir.length + 1 + base.length by simp; omega, found]
    simp
  · obtain ⟨length, same⟩ := Nat.exists_eq_add_one.mpr (List.length_pos_iff.mpr nonempty)
    rw [same, lockBase_of_not_mem slash]
    simp

/-- The scans are those of `Jrxtx.SerialImp.FhsLock`. -/
theorem fhsLockFile_eq_lockPath (filename : Text) : fhsLockFile filename = lockPath filename := by
  simp only [fhsLockFile, fhsLockName, scannedName, scanBack_eq_lockBase (Nat.le_refl _), lockPath]
  cases lockBase filename filename.length <;> rfl

end Scans

/-! ## Lock files of two devices -/

/-- Every scan yields the base name, and the three functions mean one file. -/
structure Located (filename : Text) : Prop where
  fhsLock : fhsLockName filename = some (baseName filename)
  fhsUnlock : fhsUnlockName filename = some (baseName filename)
  isDeviceLocked : isDeviceLockedName filename = some (baseName filename)
  file : ∃ file, fhsLockFile filename = some file ∧ fhsUnlockFile filename = some file ∧
    isDeviceLockedFile filename = some file

/-- Devices with different base names do not share a lock file. -/
def Apart (one other : Text) : Prop :=
  baseName one ≠ baseName other → ∀ file, fhsLockFile one = some file →
    fhsLockFile other ≠ some file

/-- The scans find the base name, whose path fits into `file[80]`. -/
def Fits (filename : Text) : Prop :=
  '/' ∈ filename ∧ (baseName filename).length ≤ 64

section Devices

variable {filename one other : Text}

theorem sprintf_lockPrefix (name : Text) :
    sprintf 80 (lockPrefix ++ name) =
      if name.length ≤ 64 then some (lockPrefix ++ name) else none := by
  have length : (lockPrefix ++ name).length < 80 ↔ name.length ≤ 64 := by
    rw [List.length_append, show lockPrefix.length = 15 from rfl]
    omega
  simp only [sprintf, length]

theorem baseName_ne_tail (nonempty : filename ≠ []) (noSlash : '/' ∉ filename) :
    baseName filename ≠ filename.tail := by
  rw [baseName, lastPart_of_not_mem noSlash]
  intro same
  have shorter := congrArg List.length same
  have positive := List.length_pos_iff.mpr nonempty
  rw [List.length_tail] at shorter
  omega

theorem located_iff (nonempty : filename ≠ []) : Located filename ↔ Fits filename := by
  have scanned := scannedName_eq nonempty
  constructor
  · intro located
    have slash : '/' ∈ filename := by
      by_contra noSlash
      rw [if_neg noSlash] at scanned
      have same := Option.some.inj (located.fhsLock.symm.trans scanned)
      exact baseName_ne_tail nonempty noSlash same
    obtain ⟨file, lock, -⟩ := located.file
    simp only [fhsLockFile, located.fhsLock, Option.bind_eq_bind, Option.bind_some,
      sprintf_lockPrefix, Option.ite_none_right_eq_some] at lock
    exact ⟨slash, lock.1⟩
  · rintro ⟨slash, fits⟩
    rw [if_pos slash] at scanned
    have printed : sprintf 80 (lockPrefix ++ baseName filename) =
        some (lockPrefix ++ baseName filename) := by
      rw [sprintf_lockPrefix, if_pos fits]
    have name : fhsLockName filename = some (baseName filename) := scanned
    have file : fhsLockFile filename = some (lockPrefix ++ baseName filename) := by
      rw [fhsLockFile, name]
      exact printed
    have found : isDeviceLockedFile filename = some (lockPrefix ++ baseName filename) := by
      rw [isDeviceLockedFile, isDeviceLockedName, scanned]
      rfl
    exact ⟨scanned, scanned, scanned, _, file, file, found⟩

theorem Located.fhsLockFile_eq (located : Located filename) :
    fhsLockFile filename = some (lockPrefix ++ baseName filename) := by
  obtain ⟨file, lock, -, found⟩ := located.file
  rw [isDeviceLockedFile, located.isDeviceLocked] at found
  rw [lock, ← found]
  rfl

theorem Located.apart (located : Located one) (others : Located other) : Apart one other := by
  intro differ file lock same
  have shared := Option.some.inj
    ((located.fhsLockFile_eq.symm.trans lock).trans (same.symm.trans others.fhsLockFile_eq))
  exact differ (List.append_cancel_left shared)

/-- No scan leaves a name, and the three are the same.  They find the base names, and with
them lock files that are not shared, exactly of names with a `/` whose base name fits. -/
theorem located_and_apart_iff (nonempty : one ≠ []) (nonempty' : other ≠ []) :
    (∃ name, fhsLockName one = some name ∧ fhsUnlockName one = some name ∧
      isDeviceLockedName one = some name) ∧
      ((Located one ∧ Located other ∧ Apart one other) ↔ Fits one ∧ Fits other) := by
  have scanned := scannedName_eq nonempty
  refine ⟨⟨_, scanned, scanned, scanned⟩, ?_⟩
  rw [← located_iff nonempty, ← located_iff nonempty']
  exact ⟨fun ⟨first, second, _⟩ => ⟨first, second⟩,
    fun ⟨first, second⟩ => ⟨first, second, first.apart second⟩⟩

theorem located_and_apart_dev :
    Located "/dev/ttyS0".toList ∧ Located "/dev/ttyUSB0".toList ∧
      Apart "/dev/ttyS0".toList "/dev/ttyUSB0".toList :=
  (located_and_apart_iff (by decide) (by decide)).2.mpr
    ⟨⟨by decide, by decide⟩, by decide, by decide⟩

/-- The first character of a name without a `/` is lost, and two devices share a lock
file. -/
theorem not_located_ttyS0 :
    ¬ Located "ttyS0".toList ∧ ¬ Apart "ttyS0".toList "ptyS0".toList := by
  constructor
  · intro located
    have lost : fhsLockName "ttyS0".toList = some "tyS0".toList := by decide
    exact absurd (located.fhsLock.symm.trans lost) (by decide)
  · intro apart
    have shared : fhsLockFile "ptyS0".toList = some (lockPrefix ++ "tyS0".toList) := by decide
    exact apart (by decide) (lockPrefix ++ "tyS0".toList) (by decide) shared

end Devices

end Jrxtx.SerialImp.BaseName
