import Jrxtx.SerialImp.LockFile

/-!
# Mutual exclusion through the lock file

A process that judges a lock stale unlinks the name, whatever file it refers to
by then, and an empty lock file may be judged stale.  In runs without such races
at most one live process holds the lock.
-/

namespace Jrxtx.SerialImp

open Jrxtx.Transition

variable {Pid : Type*} [DecidableEq Pid]

namespace LockState

omit [DecidableEq Pid] in
/-- The lock file is the one that was opened, unless its creator has died. -/
def Unchanged (state : LockState Pid) (opened : Option (LockFile Pid)) : Prop :=
  ∀ file, state.entry = some file → opened = some file ∨ state.alive file.creator = false

omit [DecidableEq Pid] in
/-- The condition on one step.  A process that does not exist was named by the
file, or the creator of the file has died; `check_lock_pid` accepts only files of
its own process or of one that has died; and what is unlinked is the file that
was opened. -/
def Unraced (state : LockState Pid) : LockLabel Pid → Prop
  | .process pid _ =>
      match state.pc pid with
      | .kill opened found other =>
          state.alive other = false →
            found = true ∨ ∃ file, opened = some file ∧ state.alive file.creator = false
      | .unlinkStale opened => state.Unchanged opened
      | .unlockCheck getppid openpid file lockpid =>
          lockpid = pid ∨ lockpid = getppid ∨ lockpid = openpid →
            file.creator = pid ∨ state.alive file.creator = false
      | .unlockUnlink file => state.Unchanged (some file)
      | _ => True
  | .die _ => True

/-! ## The invariant -/

omit [DecidableEq Pid] in
/-- What the position of a process says about the files it has opened. -/
def PcOk (entry : Option (LockFile Pid)) (alive : Pid → Bool) (pid : Pid) : LockPc Pid → Prop
  | .kill opened true other => ∃ file, opened = some file ∧ file.creator = other
  | .unlinkStale opened => ∃ file, opened = some file ∧ alive file.creator = false
  | .write file => file.creator = pid ∧ (alive pid = true → entry = some file)
  | .unlockUnlink file => file.creator = pid ∨ alive file.creator = false
  | _ => True

omit [DecidableEq Pid] in
/-- Files and deaths matter only to a process that is about to write. -/
theorem PcOk.mono {entry newEntry : Option (LockFile Pid)} {alive newAlive : Pid → Bool}
    {pid : Pid} {pc : LockPc Pid} (ok : PcOk entry alive pid pc)
    (dead : ∀ other, alive other = false → newAlive other = false)
    (writing : ∀ file, pc = .write file → file.creator = pid → newAlive pid = true →
      (alive pid = true → entry = some file) → newEntry = some file) :
    PcOk newEntry newAlive pid pc := by
  cases pc with
  | kill opened found named => cases found <;> exact ok
  | unlinkStale opened =>
      obtain ⟨file, same, creator⟩ := ok
      exact ⟨file, same, dead _ creator⟩
  | write file =>
      refine ⟨ok.1, ?_⟩
      intro lives
      exact writing file rfl ok.1 lives ok.2
  | unlockUnlink file => exact ok.imp_right (dead _)
  | _ => trivial

omit [DecidableEq Pid] in
/-- A live process that holds the lock has created the lock file. -/
structure Guarded (state : LockState Pid) : Prop where
  held : ∀ pid, state.alive pid = true → state.holding pid = true →
    ∃ file, state.entry = some file ∧ file.creator = pid
  content : ∀ file pid, state.content file = some pid → file.creator = pid
  pcs : ∀ pid, PcOk state.entry state.alive pid (state.pc pid)

omit [DecidableEq Pid] in
theorem guarded_unlocked {state : LockState Pid} (unlocked : Unlocked state) :
    state.Guarded where
  held := by simp [unlocked.free]
  content := unlocked.content
  pcs := by simp [unlocked.idle, PcOk]

section Steps

variable {state next : LockState Pid} {pid : Pid}

/-- A process moves to an operation that fits the state. -/
theorem Guarded.goto (guarded : state.Guarded) (pid : Pid) (pc : LockPc Pid)
    (ok : PcOk state.entry state.alive pid pc) : (state.goto pid pc).Guarded where
  held := guarded.held
  content := guarded.content
  pcs := by
    intro other
    by_cases same : other = pid
    · subst same
      simpa [LockState.goto] using ok
    · simpa [LockState.goto, same] using guarded.pcs other

theorem Guarded.released (guarded : state.Guarded) (pid : Pid) :
    (state.released pid).Guarded where
  held := by
    intro other alive holding
    by_cases same : other = pid
    · simp [LockState.released, same] at holding
    · simp only [LockState.released, Function.update_of_ne same] at holding
      exact guarded.held other alive holding
  content := guarded.content
  pcs := (guarded.goto pid .idle trivial).pcs

theorem Guarded.acquired (guarded : state.Guarded) {file : LockFile Pid}
    (created : state.pc pid = .write file) : (state.acquired pid).Guarded where
  held := by
    intro other alive holding
    by_cases same : other = pid
    · subst same
      have ok := guarded.pcs other
      rw [created] at ok
      exact ⟨file, ok.2 alive, ok.1⟩
    · simp only [LockState.acquired, Function.update_of_ne same] at holding
      exact guarded.held other alive holding
  content := guarded.content
  pcs := (guarded.goto pid .idle trivial).pcs

/-- The creator of a file writes its own pid into it. -/
theorem Guarded.writePid (guarded : state.Guarded) {file : LockFile Pid}
    (creator : file.creator = pid) :
    ({ state with content := Function.update state.content file (some pid) } :
      LockState Pid).Guarded where
  held := guarded.held
  content := by
    intro other owner content
    by_cases same : other = file
    · simp only [same, Function.update_self, Option.some.injEq] at content
      rw [same, creator, content]
    · simp only [Function.update_of_ne same] at content
      exact guarded.content other owner content
  pcs := guarded.pcs

omit [DecidableEq Pid] in
/-- The lock file can go unless its creator holds the lock or is about to. -/
theorem Guarded.unlink (guarded : state.Guarded)
    (free : ∀ file, state.entry = some file → state.alive file.creator = true →
      state.holding file.creator = false ∧ state.pc file.creator = .idle) :
    ({ state with entry := none } : LockState Pid).Guarded where
  held := by
    intro other alive holding
    obtain ⟨file, entry, rfl⟩ := guarded.held other alive holding
    simp [(free file entry alive).1] at holding
  content := guarded.content
  pcs := by
    intro other
    apply (guarded.pcs other).mono fun _ dead => dead
    rintro file writing rfl alive entry
    simp [(free file (entry alive) alive).2] at writing

/-- A new file is created while there is none. -/
theorem Guarded.create (guarded : state.Guarded) (absent : state.entry = none) (pid : Pid)
    (created : Nat) :
    ({ state.goto pid (.write ⟨pid, state.created⟩) with
        entry := some ⟨pid, state.created⟩
        content := Function.update state.content ⟨pid, state.created⟩ none
        created := created } : LockState Pid).Guarded where
  held := by
    intro other alive holding
    obtain ⟨file, entry, -⟩ := guarded.held other alive holding
    simp [absent] at entry
  content := by
    intro file owner content
    by_cases same : file = ⟨pid, state.created⟩
    · simp [same] at content
    · simp only [Function.update_of_ne same] at content
      exact guarded.content file owner content
  pcs := by
    intro other
    by_cases same : other = pid
    · subst same
      simp [LockState.goto, PcOk]
    · simp only [LockState.goto, Function.update_of_ne same]
      apply (guarded.pcs other).mono fun _ dead => dead
      intro file _ _ alive entry
      simp [absent] at entry
      simp [entry] at alive

theorem Guarded.die (guarded : state.Guarded) (pid : Pid) :
    ({ state with alive := Function.update state.alive pid false } : LockState Pid).Guarded where
  held := by
    intro other alive holding
    by_cases same : other = pid
    · simp [same] at alive
    · simp only [Function.update_of_ne same] at alive
      exact guarded.held other alive holding
  content := guarded.content
  pcs := by
    intro other
    apply (guarded.pcs other).mono
    · intro dead gone
      by_cases same : dead = pid
      · simp [same]
      · simpa [same] using gone
    · intro file _ _ alive entry
      by_cases same : other = pid
      · simp [same] at alive
      · simp only [Function.update_of_ne same] at alive
        exact entry alive

/-- What one operation of a process can do in a run without races. -/
inductive LockStep (state : LockState Pid) (pid : Pid) : LockState Pid → Prop where
  | goto {pc : LockPc Pid} : PcOk state.entry state.alive pid pc →
      LockStep state pid (state.goto pid pc)
  | released : LockStep state pid (state.released pid)
  | acquired {file : LockFile Pid} : state.pc pid = .write file →
      LockStep state pid (state.acquired pid)
  | written {file : LockFile Pid} : state.pc pid = .write file →
      LockStep state pid
        { state.acquired pid with content := Function.update state.content file (some pid) }
  | created : state.entry = none →
      LockStep state pid
        { state.goto pid (.write ⟨pid, state.created⟩) with
          entry := some ⟨pid, state.created⟩
          content := Function.update state.content ⟨pid, state.created⟩ none
          created := state.created + 1 }
  | unlinkedStale : (∀ file, state.entry = some file → state.alive file.creator = false) →
      LockStep state pid { state.goto pid .create with entry := none }
  | unlinkedOwn :
      (∀ file, state.entry = some file →
        file.creator = pid ∨ state.alive file.creator = false) →
      LockStep state pid { state.released pid with entry := none }

omit [DecidableEq Pid] in
/-- What has not changed since it was opened has the creator of what was opened. -/
theorem Unchanged.creator {opened file : LockFile Pid} (property : Pid → Prop)
    (unchanged : state.Unchanged (some opened)) (entry : state.entry = some file)
    (creator : property opened.creator)
    (dead : ∀ other, state.alive other = false → property other) : property file.creator := by
  rcases unchanged file entry with same | died
  · rw [Option.some.injEq] at same
    exact same ▸ creator
  · exact dead _ died

theorem stepProcess_cases {pc : LockPc Pid} {action : LockAction Pid} (guarded : state.Guarded)
    (unraced : state.Unraced (.process pid action)) (atPc : state.pc pid = pc)
    (stepped : state.stepProcess pid pc action = some next) : LockStep state pid next := by
  have ok := guarded.pcs pid
  simp only [Unraced] at unraced
  rw [atPc] at ok unraced
  revert stepped
  fun_cases LockState.stepProcess state pid pc action <;> intro stepped
  all_goals simp only [reduceCtorEq, Option.some.injEq] at stepped
  all_goals subst stepped
  case case10 opened found read =>
    -- the file that was read was written by its creator
    apply LockStep.goto
    obtain ⟨file, same, content⟩ := Option.bind_eq_some_iff.mp read
    exact ⟨file, same, guarded.content file found content⟩
  case case14 opened found other absent =>
    apply LockStep.goto
    simp only [Bool.not_eq_true] at absent
    rcases unraced absent with rfl | dead
    · obtain ⟨file, same, rfl⟩ := ok
      exact ⟨file, same, absent⟩
    · exact dead
  case case15 opened _ =>
    apply LockStep.unlinkedStale
    intro file entry
    obtain ⟨stale, rfl, dead⟩ := ok
    exact unraced.creator (state.alive · = false) entry dead fun _ died => died
  case case19 absent file => exact LockStep.created absent
  case case21 file => exact LockStep.written atPc
  case case22 file => exact LockStep.acquired atPc
  case case32 getppid openpid file lockpid accepted =>
    apply LockStep.goto
    apply unraced
    grind
  case case33 file =>
    apply LockStep.unlinkedOwn
    intro other entry
    exact unraced.creator (fun other => other = pid ∨ state.alive other = false) entry ok
      fun _ died => .inr died
  any_goals exact LockStep.released
  all_goals exact LockStep.goto trivial

theorem LockStep.guarded (guarded : state.Guarded) (moved : LockStep state pid next) :
    next.Guarded := by
  cases moved with
  | goto ok => exact guarded.goto pid _ ok
  | released => exact guarded.released pid
  | acquired created => exact guarded.acquired created
  | written created =>
      have ok := guarded.pcs pid
      rw [created] at ok
      exact (guarded.acquired created).writePid ok.1
  | created absent => exact guarded.create absent pid _
  | unlinkedStale dead =>
      apply (guarded.goto pid .create trivial).unlink
      intro file entry alive
      simp [LockState.goto, dead file entry] at alive
  | unlinkedOwn own =>
      apply (guarded.released pid).unlink
      intro file entry alive
      rcases own file entry with rfl | dead
      · simp [LockState.released, LockState.goto]
      · simp [LockState.released, LockState.goto, dead] at alive

/-- A lock file goes only if its creator has died or removes it. -/
theorem LockStep.entry (moved : LockStep state pid next) {file : LockFile Pid}
    (entry : state.entry = some file) :
    next.entry = some file ∨ file.creator = pid ∨ state.alive file.creator = false := by
  cases moved with
  | goto | released | acquired | written => exact .inl entry
  | created absent => simp [absent] at entry
  | unlinkedStale dead => exact .inr (.inr (dead file entry))
  | unlinkedOwn own => exact .inr (own file entry)

end Steps

/-! ## Runs -/

theorem step_process {state next : LockState Pid} {pid : Pid} {action : LockAction Pid}
    (guarded : state.Guarded) (unraced : state.Unraced (.process pid action))
    (stepped : state.step (.process pid action) = some next) : LockStep state pid next := by
  simp only [step] at stepped
  split at stepped
  next => exact stepProcess_cases guarded unraced rfl stepped
  next => simp at stepped

theorem guarded_of_reachedBy {state : LockState Pid}
    (reached : (lockers Pid).ReachedBy Unraced state) : state.Guarded := by
  apply System.ReachedBy.invariant _ _ reached
  · intro state unlocked
    exact guarded_unlocked unlocked
  · intro state label next guarded unraced stepped
    cases label with
    | process pid action => exact (step_process guarded unraced stepped).guarded guarded
    | die pid =>
        simp only [lockers, step, Option.some.injEq] at stepped
        exact stepped ▸ guarded.die pid

/-- In runs without races at most one live process holds the lock, and nobody
removes the lock file that another live process has created. -/
theorem lock_exclusive {state : LockState Pid}
    (reached : (lockers Pid).ReachedBy Unraced state) :
    (∀ first second, state.alive first = true → state.alive second = true →
      state.holding first = true → state.holding second = true → first = second) ∧
    ∀ label next file, state.Unraced label → (lockers Pid).step state label = some next →
      state.entry = some file → next.entry ≠ some file →
      (∃ action, label = .process file.creator action) ∨ state.alive file.creator = false := by
  have guarded := guarded_of_reachedBy reached
  constructor
  · intro first second firstAlive secondAlive firstHolds secondHolds
    obtain ⟨file, entry, rfl⟩ := guarded.held first firstAlive firstHolds
    obtain ⟨other, same, rfl⟩ := guarded.held second secondAlive secondHolds
    rw [entry, Option.some.injEq] at same
    rw [same]
  · intro label next file unraced stepped entry removed
    cases label with
    | process pid action =>
        rcases (step_process guarded unraced stepped).entry entry with kept | own | dead
        · exact absurd kept removed
        · exact .inl ⟨action, by rw [own]⟩
        · exact .inr dead
    | die pid =>
        simp only [lockers, step, Option.some.injEq] at stepped
        exact absurd (stepped ▸ entry) removed

/-- A process that has died has left its lock file. -/
def left : LockState Nat where
  entry := some ⟨0, 0⟩
  content := fun file => if file = ⟨0, 0⟩ then some 0 else none
  created := 1
  alive := fun pid => pid ≠ 0
  pc := fun _ => .idle
  holding := fun _ => false

theorem left_unlocked : Unlocked left where
  idle := fun _ => rfl
  free := fun _ => rfl
  left := by
    intro file entry
    simp only [left, Option.some.injEq] at entry
    simp [left, ← entry]
  content := by
    intro file pid content
    simp only [left] at content
    split at content
    next same => simpa [same] using content
    next => simp at content

/-- The stale lock is removed, and the lock is taken. -/
theorem lock_exclusive_stale :
    ∃ state : LockState Nat, (lockers Nat).ReachedBy Unraced state ∧
      state.entry = some ⟨1, 1⟩ ∧ state.holding 1 = true ∧
      ∀ other, state.alive other = true → state.holding other = true → 1 = other := by
  have start : (lockers Nat).ReachedBy Unraced left := .start left_unlocked
  have called := start.extend (.process 1 .fhsLock) trivial rfl
  have checked := called.extend (.process 1 .advance) trivial rfl
  have there := checked.extend (.process 1 .advance) trivial rfl
  have opened := there.extend (.process 1 .advance) trivial rfl
  have read := opened.extend (.process 1 .advance) trivial rfl
  have judged := read.extend (.process 1 .advance) (fun _ => .inl rfl) rfl
  have unlinked := judged.extend (.process 1 .advance) (fun _ same => .inl same) rfl
  have created := unlinked.extend (.process 1 .advance) trivial rfl
  have held := created.extend (.process 1 .advance) trivial rfl
  refine ⟨_, held, rfl, rfl, ?_⟩
  intro other alive holding
  exact (lock_exclusive held).1 1 other rfl alive rfl holding

/-- Two processes judge the same lock stale.  One of them unlinks it and creates
its own, which the other one unlinks. -/
theorem lock_can_be_shared :
    ∃ state : LockState Nat, (lockers Nat).Reachable state ∧
      state.alive 1 = true ∧ state.alive 2 = true ∧
      state.holding 1 = true ∧ state.holding 2 = true := by
  let judges (pid : Nat) :=
    .process pid .fhsLock :: List.replicate 5 (LockLabel.process pid .advance)
  let locks (pid : Nat) := List.replicate 3 (LockLabel.process pid .advance)
  exact ⟨_, System.reachable_of_run (judges 1 ++ judges 2 ++ locks 1 ++ locks 2)
    left_unlocked rfl, rfl, rfl, rfl, rfl⟩

end LockState

end Jrxtx.SerialImp
