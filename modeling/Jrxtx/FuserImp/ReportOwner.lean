import Jrxtx.FuserImp.ShowUser
import Jrxtx.Lists.LastPart

/-!
# What the report on a port depends on

The first file of the list is the one that the first call of the process has asked for, and
all reports on it are collected in `returnstring`.  So the report is only on the port asked
for as long as no file has got into the list.  A relative name is looked up from where the last
call has left the working directory, and for characters of the program's name that cannot be
printed the report has the addresses where they lie.
-/

namespace Jrxtx.FuserImp

open Jrxtx.LockDaemon Jrxtx.Lists

/-- The text ends with what is printed about a process. -/
def Names (text : Text) (pid : Pid) : Prop :=
  ∃ front program, ' ' ∉ program ∧
    text = front ++ " PID = ".toList ++ printPid pid ++ "Program = ".toList ++ program

namespace Call

/-- The process has the port open. -/
def Opens (call : Call) (pid : Pid) : Prop :=
  ∃ st, call.stat none = some st ∧ ∃ process ∈ call.processes, process.pid = pid ∧
    ∃ fd ∈ process.fds, fd.dev = st.dev ∧ fd.ino = st.ino

/-- The same call, with `comm` at another address. -/
def withComm (call : Call) (comm : Nat) : Call :=
  { call with comm }

/-- The files, `/proc` and the memory suffice for the call, if it is the first one of a
process. -/
def Sufficient (call : Call) : Prop :=
  (showUser {} call).isSome = true

/-- The name of a port that does not depend on the working directory -/
def Absolute (call : Call) : Prop :=
  call.port.head? = some '/'

/-- The name of the program that a first call reports -/
def Reports (call : Call) (name : Text) : Prop :=
  ∃ file files cwd item items, lookUp [] none call = some (file :: files, cwd) ∧
    call.seteuid = true ∧ file.items = item :: items ∧ call.findComm item.pid = some name

/-- No character of the name is printed as an address, or `comm` lies at the same one. -/
def Readable (call : Call) (comm : Nat) : Prop :=
  ∀ name, call.Reports name → comm = call.comm ∨ ∀ c ∈ name, ' ' < c ∧ c ≤ '~'

end Call

/-- A call has the same text with both kinds of variables left by earlier calls, and it names only
a process that has the port open. -/
def SameReport (one other : Statics) (call : Call) (comm : Nat) : Prop :=
  ∃ text, (showUser one call).map Prod.fst = some text ∧
    (showUser other (call.withComm comm)).map Prod.fst = some text ∧
    ∀ pid, Names text pid → call.Opens pid

/-- All calls that are considered have that. -/
def AboutThePort (considered : Call → Nat → Prop) (one other : Statics) : Prop :=
  ∀ call comm, call.Sufficient → (call.withComm comm).Sufficient → considered call comm →
    SameReport one other call comm

/-- All calls of a history are for sockets, each as it is found from the working directory at its
time. -/
def Sockets (cwd : Option Pid) : List Call → Prop
  | [] => True
  | call :: calls =>
      (call.stat cwd).any Stat.isSocket = true ∧
        Sockets (call.processes.foldl enterProcess cwd) calls

/-- No call of a history can change to a directory of `/proc`. -/
def Stays (calls : List Call) : Prop :=
  ∀ call ∈ calls, ∀ process ∈ call.processes, process.chdir = false

/-! ## The process that a text names -/

section Texts

variable {text : Text} {pid other : Pid}

theorem not_mem_toDigits {b : Nat} (positive : 0 < b) (le : b ≤ 10) (n : Nat) :
    ' ' ∉ Nat.toDigits b n := by
  intro member
  have isDigit : ' '.isDigit = true := Nat.isDigit_of_mem_toDigits positive le member
  exact absurd isDigit (by decide)

theorem not_mem_printScan (scan : Nat) : ' ' ∉ printScan scan := by
  simp only [printScan, List.mem_cons, List.mem_append, List.mem_replicate, not_or]
  exact ⟨by decide, by simp, not_mem_toDigits (by decide) (by decide) scan⟩

/-- Blanks are not printed. -/
theorem not_mem_printName (scan : Nat) (name : Text) : ' ' ∉ printName scan name := by
  induction name generalizing scan with
  | nil => simp [printName]
  | cons c name ih =>
      rw [printName, List.mem_append, not_or]
      refine ⟨?_, ih (scan + 1)⟩
      split_ifs with backslash printable
      · decide
      · rw [List.mem_singleton]
        rintro rfl
        exact absurd printable.1 (by decide)
      · exact not_mem_printScan scan

theorem names_report {call : Call} {item : ItemDsc} {report : Text} (front : Text)
    (reported : call.report item = some report) : Names (front ++ report) item.pid := by
  simp only [Call.report, Option.bind_eq_bind, Option.bind_eq_some_iff, Option.some.injEq]
    at reported
  obtain ⟨comm, -, user, -, rfl⟩ := reported
  refine ⟨front ++ " ".toList ++ user, printName call.comm comm, not_mem_printName _ _, ?_⟩
  simp only [List.append_assoc]

/-- One of the blanks in front of a pid comes last. -/
theorem printPid_eq (front : Text) (pid : Pid) :
    ∃ blanks, front ++ " PID = ".toList ++ printPid pid ++ "Program = ".toList =
      (blanks ++ ' ' :: Nat.toDigits 10 pid) ++ " Program =".toList ++ [' '] := by
  let blanks := List.replicate (6 - (Nat.toDigits 10 pid).length) ' '
  have last : [' '] ++ blanks = blanks ++ [' '] :=
    List.replicate_succ.symm.trans List.replicate_succ'
  refine ⟨front ++ " PID =".toList ++ blanks, ?_⟩
  calc
    front ++ " PID = ".toList ++ printPid pid ++ "Program = ".toList =
        front ++ " PID =".toList ++ ([' '] ++ blanks) ++
          (Nat.toDigits 10 pid ++ [' '] ++ "Program = ".toList) := by
      simp [printPid, blanks]
    _ = _ := by
      rw [last]
      simp

theorem toDigits_inj {n m : Nat} (same : Nat.toDigits 10 n = Nat.toDigits 10 m) : n = m := by
  rw [← Nat.ofDigitChars_ten_toDigits (n := n), same, Nat.ofDigitChars_ten_toDigits]

theorem Names.unique (named : Names text pid) (also : Names text other) : pid = other := by
  obtain ⟨front, program, blankFree, rfl⟩ := named
  obtain ⟨front', program', blankFree', same⟩ := also
  obtain ⟨blanks, before⟩ := printPid_eq front pid
  obtain ⟨blanks', before'⟩ := printPid_eq front' other
  rw [before, before', ← List.append_cons, ← List.append_cons] at same
  have digits := List.append_cancel_right (append_separator_inj blankFree blankFree' same).1
  have blankless (pid : Pid) : ' ' ∉ Nat.toDigits 10 pid :=
    not_mem_toDigits (by decide) (by decide) pid
  have numbers := (append_separator_inj (blankless pid) (blankless other) digits).2
  exact Subtype.ext (toDigits_inj numbers)

theorem not_names_unknownApplication : ¬ Names unknownApplication pid := by
  rintro ⟨front, program, blankFree, same⟩
  obtain ⟨blanks, before⟩ := printPid_eq front pid
  have split : unknownApplication = "Unknown Linux".toList ++ ' ' :: "Application".toList := rfl
  rw [before, split, ← List.append_cons] at same
  have digits := (append_separator_inj (by decide) blankFree same).1
  have last := congrArg List.getLast? digits
  rw [List.getLast?_append] at last
  have impossible : some 'x' = some '=' := last
  exact absurd impossible (by decide)

end Texts

/-! ## Addresses -/

section Addresses

variable {scan other : Nat} {name : Text}

theorem length_printScan_le (le : scan ≤ other) :
    (printScan scan).length ≤ (printScan other).length := by
  have positive : 0 < (Nat.toDigits 8 other).length := Nat.length_toDigits_pos
  have digits : (Nat.toDigits 8 scan).length ≤ (Nat.toDigits 8 other).length := by
    rw [Nat.length_toDigits_le_iff (by decide) positive]
    exact Nat.lt_of_le_of_lt le
      ((Nat.length_toDigits_le_iff (by decide) positive).mp (Nat.le_refl _))
  simp only [printScan, List.length_cons, List.length_append, List.length_replicate]
  omega

theorem printScan_inj (same : printScan scan = printScan other) : scan = other := by
  have digits := congrArg (Nat.ofDigitChars 8 · 0) (List.tail_eq_of_cons_eq same)
  simpa only [Nat.ofDigitChars_append, Nat.ofDigitChars_replicate_zero, Nat.mul_zero,
    Nat.ofDigitChars_toDigits (b := 8) (by decide) (by decide)] using digits

theorem length_printName_le (le : scan ≤ other) (name : Text) :
    (printName scan name).length ≤ (printName other name).length := by
  induction name generalizing scan other with
  | nil => exact Nat.le_refl _
  | cons c name ih =>
      have rest := ih (Nat.add_le_add_right le 1)
      have first := length_printScan_le le
      rw [printName, printName, List.length_append, List.length_append]
      split_ifs <;> omega

/-- A name from two addresses: in the texts, the first character that is printed as its address
tells them apart. -/
theorem eq_or_printable_of_le (le : scan ≤ other)
    (same : printName scan name = printName other name) :
    other = scan ∨ ∀ c ∈ name, ' ' < c ∧ c ≤ '~' := by
  induction name generalizing scan other with
  | nil => simp
  | cons c name ih =>
      have rest := length_printName_le (Nat.add_le_add_right le 1) name
      rw [printName, printName] at same
      by_cases printable : ' ' < c ∧ c ≤ '~'
      · have later : printName (scan + 1) name = printName (other + 1) name := by
          rw [if_pos printable, if_pos printable] at same
          exact List.append_cancel_left same
        rw [List.forall_mem_cons]
        exact (ih (Nat.add_le_add_right le 1) later).imp Nat.succ_inj.mp fun later =>
          ⟨printable, later⟩
      · have notBackslash : c ≠ '\\' := by
          rintro rfl
          exact printable (by decide)
        rw [if_neg notBackslash, if_neg printable, if_neg notBackslash, if_neg printable] at same
        have first := length_printScan_le le
        have lengths := congrArg List.length same
        rw [List.length_append, List.length_append] at lengths
        exact .inl (printScan_inj (List.append_inj same (by omega)).1).symm

/-- Without characters that are printed as their addresses, these do not matter. -/
theorem printName_of_printable (printable : ∀ c ∈ name, ' ' < c ∧ c ≤ '~') :
    printName scan name = printName other name := by
  induction name generalizing scan other with
  | nil => rfl
  | cons c name ih =>
      rw [List.forall_mem_cons] at printable
      have later : printName (scan + 1) name = printName (other + 1) name := ih printable.2
      rw [printName, printName, if_pos printable.1, if_pos printable.1, later]

theorem printName_eq_iff :
    printName scan name = printName other name ↔
      other = scan ∨ ∀ c ∈ name, ' ' < c ∧ c ≤ '~' := by
  constructor
  · intro same
    rcases Nat.le_total scan other with le | le
    · exact eq_or_printable_of_le le same
    · exact (eq_or_printable_of_le le same.symm).imp_left Eq.symm
  · rintro (rfl | printable)
    · rfl
    · exact printName_of_printable printable

end Addresses

/-! ## The first call -/

/-- The file is the port of the call, and its items are processes that have it open. -/
structure OfPort (call : Call) (file : FileDsc) : Prop where
  stat : ∃ st, call.stat none = some st ∧ file.dev = st.dev ∧ file.ino = st.ino
  items : ∀ item ∈ file.items, call.Opens item.pid

section FirstCall

variable {call : Call} {file : FileDsc} {files : List FileDsc} {statics next : Statics}
  {text : Text} {pid : Pid}

theorem mem_addItem {uid : Option Int} {item : ItemDsc} {items : List ItemDsc}
    (member : item ∈ addItem pid uid items) :
    item.pid = pid ∨ ∃ before ∈ items, item.pid = before.pid := by
  fun_induction addItem pid uid items with
  | case1 =>
      obtain rfl := List.mem_singleton.mp member
      exact .inl rfl
  | case2 first items le same =>
      rcases List.mem_cons.mp member with rfl | later
      · exact .inl same
      · exact .inr ⟨item, List.mem_cons_of_mem _ later, rfl⟩
  | case3 first items le other =>
      rcases List.mem_cons.mp member with rfl | later
      · exact .inl rfl
      · exact .inr ⟨item, later, rfl⟩
  | case4 first items greater ih =>
      rcases List.mem_cons.mp member with rfl | later
      · exact .inr ⟨item, List.mem_cons_self, rfl⟩
      · rcases ih later with same | ⟨before, among, same⟩
        · exact .inl same
        · exact .inr ⟨before, List.mem_cons_of_mem _ among, same⟩

/-- `add_file` adds a process that has the port open. -/
theorem OfPort.addFile (ofPort : ∀ file ∈ files, OfPort call file) {process : Process}
    (listed : process ∈ call.processes) {fd : Fd} (isOpen : fd ∈ process.fds) :
    ∀ file ∈ addFile files fd process.pid, OfPort call file := by
  intro file member
  obtain ⟨before, among, rfl⟩ := List.mem_map.mp member
  have ⟨stat, items⟩ := ofPort before among
  split_ifs with same
  · refine ⟨stat, fun item member => ?_⟩
    rcases mem_addItem member with new | ⟨old, among, same⟩
    · obtain ⟨st, found, dev, ino⟩ := stat
      exact ⟨st, found, process, listed, new.symm, fd, isOpen,
        same.1.trans dev, same.2.trans ino⟩
    · exact same ▸ items old among
  · exact ⟨stat, items⟩

/-- The files that the first call finds are the port. -/
theorem ofPort_of_lookUp {cwd : Option Pid} (looked : lookUp [] none call = some (files, cwd)) :
    ∀ file ∈ files, OfPort call file := by
  obtain ⟨st, stat, -, rfl, -⟩ := lookUp_eq_some_iff.mp looked
  refine foldl_scanProcess_keeps (fun files => ∀ file ∈ files, OfPort call file) ?_ ?_
  · intro files ofPort process listed fd isOpen
    exact OfPort.addFile ofPort listed isOpen
  · intro file member
    split_ifs at member
    · simp at member
    · obtain rfl := List.mem_singleton.mp member
      exact ⟨⟨st, stat, rfl, rfl⟩, by simp⟩

/-- The first call names a process that has the port open. -/
theorem opens_of_names (shows : Shows {} call text next) (named : Names text pid) :
    call.Opens pid := by
  cases shows with
  | unknown => exact absurd named not_names_unknownApplication
  | reports found permitted first reported =>
      obtain rfl := named.unique (names_report _ reported)
      exact (ofPort_of_lookUp found _ List.mem_cons_self).items _
        (first ▸ List.mem_cons_self)

/-- What a call reports -/
theorem report_eq_some_iff {item : ItemDsc} {report : Text} :
    call.report item = some report ↔
      ∃ name, call.findComm item.pid = some name ∧ ∃ user, call.findUser item.uid = some user ∧
        report = " ".toList ++ user ++ " PID = ".toList ++ printPid item.pid ++
          "Program = ".toList ++ printName call.comm name := by
  simp only [Call.report, Option.bind_eq_bind, Option.bind_eq_some_iff, Option.some.injEq,
    eq_comm (a := report)]

/-- Where a process is found, `seteuid` does not fail. -/
theorem not_unreported {found : List FileDsc} {item : ItemDsc} {items : List ItemDsc}
    (permitted : call.seteuid = true) (isFirst : found = file :: files)
    (first : file.items = item :: items) :
    ¬(call.seteuid = false ∨ ∃ file rest, found = file :: rest ∧ file.items = []) := by
  rintro (forbidden | ⟨other, rest, same, empty⟩)
  · rw [permitted] at forbidden
    cases forbidden
  · obtain ⟨rfl, -⟩ := List.cons_eq_cons.mp (isFirst.symm.trans same)
    rw [first] at empty
    cases empty

/-- Two first calls, with `comm` at two addresses, have the same text exactly if the name of the
program is readable. -/
theorem text_eq_iff {comm : Nat} {other : Text} {after : Statics} (shows : Shows {} call text next)
    (also : Shows {} (call.withComm comm) other after) : text = other ↔ call.Readable comm := by
  cases shows with
  | unknown found unreported =>
      cases also with
      | unknown =>
          refine iff_of_true rfl ?_
          rintro name ⟨file, files, cwd, item, items, looked, permitted, first, -⟩
          have same := (Prod.mk.inj (Option.some.inj (found.symm.trans looked))).1
          exact absurd unreported (not_unreported permitted same first)
      | reports looked permitted first =>
          have same := (Prod.mk.inj (Option.some.inj (found.symm.trans looked))).1
          exact absurd unreported (not_unreported permitted same first)
  | reports found permitted first reported =>
      cases also with
      | unknown looked unreported =>
          have same := (Prod.mk.inj (Option.some.inj (looked.symm.trans found))).1
          exact absurd unreported (not_unreported permitted same first)
      | reports looked _ also reportedAlso =>
          obtain ⟨isFirst, -⟩ := Prod.mk.inj (Option.some.inj (found.symm.trans looked))
          obtain ⟨rfl, rfl⟩ := List.cons_eq_cons.mp isFirst
          obtain ⟨rfl, rfl⟩ := List.cons_eq_cons.mp (first.symm.trans also)
          obtain ⟨name, hasName, user, hasUser, rfl⟩ := report_eq_some_iff.mp reported
          obtain ⟨_, same, _, sameUser, rfl⟩ := report_eq_some_iff.mp reportedAlso
          obtain rfl := Option.some.inj (hasName.symm.trans same)
          obtain rfl := Option.some.inj (hasUser.symm.trans sameUser)
          have only (program : Text) : call.Reports program ↔ name = program := by
            constructor
            · rintro ⟨_, _, _, _, _, looked, -, firstAlso, hasProgram⟩
              have isFirst := (Prod.mk.inj (Option.some.inj (found.symm.trans looked))).1
              obtain ⟨rfl, rfl⟩ := List.cons_eq_cons.mp isFirst
              obtain ⟨rfl, rfl⟩ := List.cons_eq_cons.mp (first.symm.trans firstAlso)
              exact Option.some.inj (hasName.symm.trans hasProgram)
            · rintro rfl
              exact ⟨_, _, _, _, _, found, permitted, first, hasName⟩
          rw [List.append_cancel_left_eq, List.append_cancel_left_eq, printName_eq_iff]
          simp only [Call.Readable, only, forall_eq']
          rfl

theorem sameReport_initial_iff {comm : Nat} (sufficient : call.Sufficient)
    (also : (call.withComm comm).Sufficient) :
    SameReport {} {} call comm ↔ call.Readable comm := by
  obtain ⟨⟨text, next⟩, shown⟩ := Option.isSome_iff_exists.mp sufficient
  obtain ⟨⟨other, after⟩, shownAlso⟩ := Option.isSome_iff_exists.mp also
  have shows := shows_of_showUser shown
  rw [← text_eq_iff shows (shows_of_showUser shownAlso)]
  simp only [SameReport, shown, shownAlso, Option.map_some, Option.some.injEq, exists_eq_left']
  rw [and_iff_left fun pid => opens_of_names shows, eq_comm]

/-- Without earlier files, only the working directory matters, and only for a relative name. -/
theorem showUser_of_cwd (call : Call) (cwd : Option Pid) (same : call.stat cwd = call.stat none) :
    (showUser { cwd } call).map Prod.fst = (showUser {} call).map Prod.fst := by
  simp only [showUser, lookUp, parseArgs, same, scanFd, Option.bind_eq_bind]
  cases call.stat none with
  | none => rfl
  | some st =>
      simp only [Option.bind_some]
      split
      next => rfl
      next =>
        simp only [Option.bind_some]
        split
        next => rfl
        next =>
          split
          next => rfl
          next file rest _ =>
            split
            next => rfl
            next item items _ =>
              cases call.report item with
              | none => rfl
              | some report =>
                  simp only [Option.bind_some]
                  cases sprintf 256 ([] ++ report) <;> rfl

end FirstCall

/-! ## Later calls -/

/-- The first process -/
def initPid : Pid := ⟨1, Nat.one_pos⟩

/-- The first process has the file open, and nothing has the port open. -/
def elsewhere (file : FileDsc) : Call where
  port := "/dev/ttyS1".toList
  stat _ := some ⟨file.dev + 1, file.ino, false⟩
  absolute _ _ := rfl
  processes := [⟨initPid, true, [⟨file.dev, file.ino, some 0⟩], some "init".toList⟩]
  seteuid := true
  getpwuid _ := some "root".toList
  comm := 0

section Later

variable {statics next : Statics} {call : Call} {calls : List Call} {text : Text}
  {file : FileDsc} {files : List FileDsc}

theorem addItem_initPid (uid : Option Int) (items : List ItemDsc) :
    ∃ known rest, addItem initPid uid items = ⟨initPid, known⟩ :: rest := by
  cases items with
  | nil => exact ⟨_, _, rfl⟩
  | cons item items =>
      have first : initPid.val ≤ item.pid.val := item.pid.property
      rw [addItem, if_pos first]
      by_cases same : item.pid = initPid
      · rw [if_pos same]
        exact ⟨_, items, by rw [same]⟩
      · rw [if_neg same]
        exact ⟨_, _, rfl⟩

theorem lookUp_elsewhere (file : FileDsc) (files : List FileDsc) (cwd : Option Pid) :
    lookUp files cwd (elsewhere file) =
      some (addFile (files ++ [⟨"/dev/ttyS1".toList, file.dev + 1, file.ino, []⟩])
        ⟨file.dev, file.ino, some 0⟩ initPid, some initPid) := rfl

theorem sufficient_elsewhere (file : FileDsc) : (elsewhere file).Sufficient := by
  have found : lookUp [] none (elsewhere file) =
      some ([⟨"/dev/ttyS1".toList, file.dev + 1, file.ino, []⟩], some initPid) := by
    rw [lookUp_elsewhere]
    simp [addFile]
  have shown : showUser {} (elsewhere file) =
      some (unknownApplication,
        { files := [⟨"/dev/ttyS1".toList, file.dev + 1, file.ino, []⟩], cwd := some initPid }) := by
    rw [showUser, found]
    rfl
  rw [Call.Sufficient, shown]
  rfl

theorem not_opens_elsewhere (file : FileDsc) (pid : Pid) : ¬ (elsewhere file).Opens pid := by
  rintro ⟨st, stat, process, listed, -, fd, isOpen, dev, -⟩
  obtain rfl := Option.some.inj stat
  obtain rfl := List.mem_singleton.mp listed
  obtain rfl := List.mem_singleton.mp isOpen
  exact absurd dev (by simp)

/-- A report on the file names the first process. -/
theorem names_elsewhere (earlier : statics.files = file :: files)
    (shown : showUser statics (elsewhere file) = some (text, next)) : Names text initPid := by
  obtain ⟨known, items, found⟩ := addItem_initPid (some 0) file.items
  have looked : lookUp statics.files statics.cwd (elsewhere file) =
      some ({ file with items := ⟨initPid, known⟩ :: items } ::
        addFile (files ++ [⟨"/dev/ttyS1".toList, file.dev + 1, file.ino, []⟩])
          ⟨file.dev, file.ino, some 0⟩ initPid, some initPid) := by
    rw [lookUp_elsewhere, earlier, List.cons_append, addFile, List.map_cons, if_pos ⟨rfl, rfl⟩,
      found]
    rfl
  cases shows_of_showUser shown with
  | unknown same unreported =>
      obtain ⟨rfl, -⟩ := Prod.mk.inj (Option.some.inj (looked.symm.trans same))
      rcases unreported with noEuid | ⟨first, rest, isFirst, empty⟩
      · cases noEuid
      · obtain ⟨rfl, rfl⟩ := List.cons_eq_cons.mp isFirst
        cases empty
  | reports same permitted first reported =>
      obtain ⟨isFirst, -⟩ := Prod.mk.inj (Option.some.inj (looked.symm.trans same))
      obtain ⟨rfl, rfl⟩ := List.cons_eq_cons.mp isFirst
      obtain ⟨rfl, rfl⟩ := List.cons_eq_cons.mp first
      have named := names_report statics.returnstring reported
      exact named

/-- Once a file is in the list, some report is not about the port. -/
theorem files_eq_nil_of_opens
    (about : ∀ file, ∃ text, (showUser statics (elsewhere file)).map Prod.fst = some text ∧
      ∀ pid, Names text pid → (elsewhere file).Opens pid) : statics.files = [] := by
  cases earlier : statics.files with
  | nil => rfl
  | cons file files =>
      obtain ⟨text, shown, opens⟩ := about file
      obtain ⟨⟨_, next⟩, reported, rfl⟩ := Option.map_eq_some_iff.mp shown
      have named := names_elsewhere earlier reported
      exact absurd (opens initPid named) (not_opens_elsewhere file initPid)

/-- A port in the directory that the program has been started in, of which `/proc` shows no
more than that it is there -/
def nearby : Call where
  port := "ttyS1".toList
  stat cwd := if cwd = none then some ⟨5, 65, false⟩ else none
  absolute := nofun
  processes := [⟨initPid, false, [], none⟩]
  seteuid := true
  getpwuid _ := none
  comm := 0

/-- From another directory it is not found. -/
theorem cwd_eq_none_of_shown (shown : ((showUser statics nearby).map Prod.fst).isSome) :
    statics.cwd = none := by
  by_contra moved
  have lost : showUser statics nearby = none := by
    simp [showUser, lookUp, parseArgs, nearby, moved]
  rw [lost] at shown
  cases shown

/-! ## Histories -/

/-- Nothing is collected before a file is in the list. -/
def Statics.Consistent (statics : Statics) : Prop :=
  statics.files = [] → statics.returnstring = []

theorem showUser_keeps (consistent : statics.Consistent)
    (shown : showUser statics call = some (text, next)) :
    next.Consistent ∧
      (next.files = [] ↔
        statics.files = [] ∧ (call.stat statics.cwd).any Stat.isSocket = true) ∧
      next.cwd = call.processes.foldl enterProcess statics.cwd := by
  have shows := shows_of_showUser shown
  have empty := lookUp_eq_nil_iff shows.lookUp_eq
  obtain ⟨-, -, -, -, cwd⟩ := lookUp_eq_some_iff.mp shows.lookUp_eq
  refine ⟨fun none => ?_, empty, cwd⟩
  cases shows with
  | unknown => exact consistent (empty.mp none).1
  | reports => cases none

/-- The list is empty as long as all calls have been for sockets, and the working directory is
the first one as long as none can change it. -/
theorem run_keeps (consistent : statics.Consistent) (ran : run statics calls = some next) :
    next.Consistent ∧
      (next.files = [] ↔ statics.files = [] ∧ Sockets statics.cwd calls) ∧
      (next.cwd = none ↔ statics.cwd = none ∧ Stays calls) := by
  induction calls generalizing statics with
  | nil =>
      obtain rfl := Option.some.inj ran
      exact ⟨consistent, by simp [Sockets], by simp [Stays]⟩
  | cons call calls ih =>
      rw [run, List.foldlM_cons, Option.bind_eq_bind, Option.bind_eq_some_iff] at ran
      obtain ⟨between, first, later⟩ := ran
      obtain ⟨⟨text, _⟩, shown, rfl⟩ := Option.map_eq_some_iff.mp first
      obtain ⟨kept, empty, cwd⟩ := showUser_keeps consistent shown
      obtain ⟨final, none, home⟩ := ih kept later
      refine ⟨final, ?_, ?_⟩
      · rw [none, empty, cwd, Sockets, and_assoc]
      · rw [home, cwd, foldl_enterProcess_eq_none_iff, Stays, Stays, List.forall_mem_cons,
          and_assoc]

/-- Without earlier files, a call whose port is found as before has the same text exactly if the
name of the program is readable. -/
theorem sameReport_iff {one other : Statics} {comm : Nat} (isFirst : one.files = [])
    (isFirst' : other.files = []) (consistent : one.Consistent) (consistent' : other.Consistent)
    (found : call.stat one.cwd = call.stat none) (found' : call.stat other.cwd = call.stat none)
    (sufficient : call.Sufficient) (also : (call.withComm comm).Sufficient) :
    SameReport one other call comm ↔ call.Readable comm := by
  obtain ⟨files, returnstring, cwd⟩ := one
  obtain ⟨files', returnstring', cwd'⟩ := other
  obtain rfl : files = [] := isFirst
  obtain rfl : files' = [] := isFirst'
  obtain rfl : returnstring = [] := consistent rfl
  obtain rfl : returnstring' = [] := consistent' rfl
  rw [← sameReport_initial_iff sufficient also, SameReport, SameReport,
    showUser_of_cwd call cwd found, showUser_of_cwd (call.withComm comm) cwd' found']

/-- The text of a call is the same behind two histories and is about the port: for absolute names
and readable reports exactly if all calls of both histories were for sockets, which are not
entered into the list; for relative names as well exactly if moreover no call could change the
working directory; and where that is so, exactly for readable reports. -/
theorem aboutThePort_iff (first second : List Call) {one other : Statics}
    (ran : run {} first = some one) (ran' : run {} second = some other) :
    (AboutThePort (fun call comm => call.Absolute ∧ call.Readable comm) one other ↔
        Sockets none first ∧ Sockets none second) ∧
      (AboutThePort (fun call comm => call.Readable comm) one other ↔
        (Sockets none first ∧ Sockets none second) ∧ Stays first ∧ Stays second) ∧
      (Sockets none first ∧ Sockets none second →
        ∀ call comm, call.Sufficient → (call.withComm comm).Sufficient →
          call.Absolute ∨ Stays first ∧ Stays second →
            (SameReport one other call comm ↔ call.Readable comm)) := by
  have fresh : Statics.Consistent {} := fun _ => rfl
  obtain ⟨consistent, empty, home⟩ := run_keeps fresh ran
  obtain ⟨consistent', empty', home'⟩ := run_keeps fresh ran'
  have sockets := empty.trans (and_iff_right rfl)
  have sockets' := empty'.trans (and_iff_right rfl)
  have stays := home.trans (and_iff_right rfl)
  have stays' := home'.trans (and_iff_right rfl)
  simp only [← sockets, ← sockets', ← stays, ← stays']
  -- where the port is found as before
  have exact {call : Call} {comm : Nat} (none : one.files = [] ∧ other.files = [])
      (found : call.Absolute ∨ one.cwd = .none ∧ other.cwd = .none) (sufficient : call.Sufficient)
      (also : (call.withComm comm).Sufficient) :
      SameReport one other call comm ↔ call.Readable comm := by
    refine sameReport_iff none.1 none.2 consistent consistent' ?_ ?_ sufficient also
    · exact found.elim (fun absolute => call.absolute absolute _) fun home => by rw [home.1]
    · exact found.elim (fun absolute => call.absolute absolute _) fun home => by rw [home.2]
  -- the calls that tell the histories apart
  have unentered (about : AboutThePort (fun call comm => call.Absolute ∧ call.Readable comm) one
      other) : one.files = [] ∧ other.files = [] := by
    have same (file : FileDsc) : SameReport one other (elsewhere file) 0 :=
      about _ _ (sufficient_elsewhere file) (sufficient_elsewhere file)
        ⟨rfl, fun _ _ => .inl rfl⟩
    constructor
    · refine files_eq_nil_of_opens fun file => ?_
      obtain ⟨text, shown, -, opens⟩ := same file
      exact ⟨text, shown, opens⟩
    · refine files_eq_nil_of_opens fun file => ?_
      obtain ⟨text, -, shown, opens⟩ := same file
      exact ⟨text, shown, opens⟩
  refine ⟨⟨unentered, ?_⟩, ⟨fun about => ?_, ?_⟩, ?_⟩
  · intro none call comm sufficient also ⟨absolute, readable⟩
    exact (exact none (.inl absolute) sufficient also).mpr readable
  · refine ⟨unentered fun call comm sufficient also considered =>
      about call comm sufficient also considered.2, ?_⟩
    obtain ⟨text, shown, shown', -⟩ := about nearby 0 rfl rfl fun _ _ => .inl rfl
    exact ⟨cwd_eq_none_of_shown (Option.isSome_of_eq_some shown),
      cwd_eq_none_of_shown (Option.isSome_of_eq_some shown')⟩
  · rintro ⟨none, home⟩ call comm sufficient also readable
    exact (exact none (.inr home) sufficient also).mpr readable
  · intro none call comm sufficient also found
    exact exact none found sufficient also

end Later

/-! ## Two ports with two owners -/

/-- `minicom` has `/dev/ttyS0` open, and `gpsd` has `/dev/ttyUSB0` open. -/
def askedTtyS0 : Call where
  port := "/dev/ttyS0".toList
  stat _ := some ⟨5, 64, false⟩
  absolute _ _ := rfl
  processes :=
    [⟨⟨100, by decide⟩, true, [⟨5, 64, some 0⟩], some "minicom".toList⟩,
      ⟨⟨200, by decide⟩, true, [⟨5, 188, some 0⟩], some "gpsd".toList⟩]
  seteuid := true
  getpwuid _ := some "root".toList
  comm := 0

def askedTtyUSB0 : Call :=
  { askedTtyS0 with
    port := "/dev/ttyUSB0".toList
    stat := fun _ => some ⟨5, 188, false⟩
    absolute := fun _ _ => rfl }

/-- A socket is asked for without the rights to look. -/
def askedSocket : Call :=
  { askedTtyS0 with
    stat := fun _ => some ⟨5, 1, true⟩
    absolute := fun _ _ => rfl
    seteuid := false }

theorem aboutThePort_iff_askedSocket :
    SameReport {} { cwd := some ⟨200, by decide⟩ } askedTtyUSB0 7 := by
  have sockets : Sockets none [] ∧ Sockets none [askedSocket] := ⟨trivial, rfl, trivial⟩
  have absolute : askedTtyUSB0.Absolute := rfl
  refine ((aboutThePort_iff [] [askedSocket] rfl rfl).2.2 sockets askedTtyUSB0 7 rfl rfl
    (.inl absolute)).mpr ?_
  rintro name ⟨_, _, _, _, _, looked, -, first, has⟩
  obtain ⟨isFirst, -⟩ := Prod.mk.inj (Option.some.inj looked)
  obtain ⟨rfl, -⟩ := List.cons_eq_cons.mp isFirst
  obtain ⟨rfl, -⟩ := List.cons_eq_cons.mp first
  obtain rfl : "gpsd".toList = name := Option.some.inj has
  exact .inr (by simp)

/-- After a call for `/dev/ttyS0`, the one for `/dev/ttyUSB0` reports on `/dev/ttyS0`
twice. -/
theorem not_aboutThePort_askedTtyUSB0 :
    ∃ after, run {} [askedTtyS0] = some after ∧
      (showUser after askedTtyUSB0).map Prod.fst =
        some (" root PID =    100 Program = minicom" ++
          " root PID =    100 Program = minicom").toList ∧
      (showUser {} askedTtyUSB0).map Prod.fst =
        some " root PID =    200 Program = gpsd".toList ∧
      ¬ SameReport after {} askedTtyUSB0 askedTtyUSB0.comm := by
  have alone : (showUser {} askedTtyUSB0).map Prod.fst =
      some " root PID =    200 Program = gpsd".toList := by
    decide
  refine ⟨_, rfl, by decide, alone, ?_⟩
  rintro ⟨text, shown, shown', -⟩
  exact absurd (shown.trans (shown'.symm.trans alone)) (by decide)

end Jrxtx.FuserImp
