import Jrxtx.Transition.System
import Jrxtx.RXTXPort.Listener

/-!
# The data-available flag during reads

`read_byte_array` saves and clears the flag that makes the event loop report incoming
data, and restores what it has saved wherever it returns.  Any number of threads read while
`notifyOnDataAvailable` is called; one round of the loop of a read is one step.
-/

namespace Jrxtx.SerialImp.DataAvailable

open Jrxtx.Transition

abbrev EisRef := Nat

/-- `event_info_struct`; all flags are cleared when the event loop starts. -/
structure EventInfo where
  fd : Int
  eventflags : SerialEvent → Int := fun _ => 0

def EventInfo.setFlag (eis : EventInfo) (event : SerialEvent) (value : Int) : EventInfo :=
  { eis with eventflags := Function.update eis.eventflags event value }

/-- The walk along `master_index`.  Without an entry for `fd` nothing changes. -/
def nativeSetEventFlag (memory : EisRef → EventInfo) (masterIndex : List EisRef) (fd : Int)
    (event : SerialEvent) (flag : Bool) : EisRef → EventInfo :=
  match masterIndex.find? fun index => (memory index).fd = fd with
  | some index => Function.update memory index ((memory index).setFlag event flag.toInt)
  | none => memory

/-! ## `read_byte_array` -/

/-- What the calls of one round return. -/
structure Outcome where
  /-- `GetTickCount()` -/
  now : Int
  /-- `SELECT`, once it is not interrupted by a signal -/
  select : Int
  /-- `READ`; `none` is a negative result, whatever `errno` says -/
  read : Option (List UInt8)

/-- The local variables of `read_byte_array`. -/
structure Reading where
  flag : Int
  length : Int
  timeout : Int
  start : Int
  left : Int
  buffer : List UInt8 := []
  bytes : Int := 0
  count : Nat := 0

/-- The variables before the loop, with `now` as the time if it is asked for. -/
def Reading.begin (flag length timeout now : Int) : Reading where
  flag
  length
  timeout
  start := if 0 ≤ timeout then now else 0
  left := length

/-- One round of the loop; `.error` is a `return`. -/
def Reading.round (reading : Reading) (outcome : Outcome) : Except Int Reading :=
  if reading.bytes < reading.length ∧ reading.count < 20 then
    let reading : Reading := { reading with count := reading.count + 1 }
    if 0 ≤ reading.timeout ∧ reading.timeout ≤ outcome.now - reading.start then
      .error reading.bytes
    else if outcome.select = -1 then .error (-1)
    else if 0 < outcome.select then
      match outcome.read with
      | none => .error (-1)
      | some received =>
          .ok
            { reading with
              buffer := reading.buffer ++ received
              bytes := reading.bytes + received.length
              left := reading.left - received.length }
    else .ok reading
  else .error reading.bytes

/-- A round that does not return is counted, and keeps what has been saved. -/
theorem Reading.round_ok {reading next : Reading} {outcome : Outcome}
    (went : reading.round outcome = .ok next) :
    reading.count < 20 ∧ next.count = reading.count + 1 ∧ next.flag = reading.flag := by
  revert went
  fun_cases Reading.round reading outcome with
  | case1 | case2 | case3 | case6 => exact fun went => nomatch went
  | case4 again | case5 again =>
      intro went
      obtain rfl := Except.ok.inj went
      exact ⟨again.2, rfl, rfl⟩

/-- A read returns after at most twenty-one rounds, whatever happens in them. -/
theorem Reading.rounds_return {reading : Reading} {outcomes : List Outcome}
    (bounded : reading.count ≤ 20) (enough : 20 < reading.count + outcomes.length) :
    ∃ result, outcomes.foldlM Reading.round reading = .error result := by
  induction outcomes generalizing reading with
  | nil => exact absurd bounded (Nat.not_le_of_lt enough)
  | cons outcome outcomes ih =>
      rw [List.foldlM_cons]
      cases went : reading.round outcome with
      | error result => exact ⟨result, rfl⟩
      | ok next =>
          have ⟨below, counted, _⟩ := Reading.round_ok went
          apply ih
          · exact counted ▸ below
          · rw [List.length_cons] at enough
            omega

/-! ## Reads and changes of the flag -/

/-- Where a thread is. -/
inductive Pc where
  | idle
  | reading (locals : Reading)
  | returned (bytes : Int) (buffer : List UInt8)

def Pc.isReading : Pc → Bool
  | .reading _ => true
  | _ => false

/-- A read in progress restores `value` when it returns. -/
def Pc.Restores (value : Int) : Pc → Prop
  | .reading locals => locals.flag = value
  | _ => True

/-- A port with its entry in `master_index`, the threads that read from it, and the argument
of the last `notifyOnDataAvailable`. -/
structure State (Tid : Type*) where
  port : RXTXPort
  eis : EisRef
  memory : EisRef → EventInfo
  masterIndex : List EisRef
  pc : Tid → Pc
  lastEnable : Bool

inductive Label (Tid : Type*) where
  /-- the call of `read_byte_array`, and all that precedes its loop -/
  | enter (tid : Tid) (length timeout now : Int)
  | round (tid : Tid) (outcome : Outcome)
  | notifyOnDataAvailable (enable : Bool)

variable {Tid : Type*}

namespace State

section Flags

variable (state : State Tid)

/-- `eis->eventflags[SPE_DATA_AVAILABLE]` -/
def dataFlag : Int := (state.memory state.eis).eventflags .dataAvailable

/-- `eis->eventflags[SPE_DATA_AVAILABLE] = value` -/
def setDataFlag (value : Int) : State Tid :=
  { state with
    memory :=
      Function.update state.memory state.eis
        ((state.memory state.eis).setFlag .dataAvailable value) }

/-- `monThread.Data` -/
def monThreadData : Option Bool :=
  state.port.monThread.map fun thread => thread.enabled .dataAvailable

/-- No read is in progress. -/
def Quiet : Prop := ∀ tid, (state.pc tid).isReading = false

/-- The event loop of the port runs: its entry is the one with the descriptor. -/
structure Running : Prop where
  indexed : state.eis ∈ state.masterIndex
  fd : (state.memory state.eis).fd = state.port.fd
  unique : ∀ index ∈ state.masterIndex, (state.memory index).fd = state.port.fd →
    index = state.eis
  unlocked : state.port.monitorThreadLock = false
  monThread : ∃ thread, state.port.monThread = some thread

end Flags

section Steps

variable [DecidableEq Tid] (state : State Tid)

def goto (tid : Tid) (pc : Pc) : State Tid :=
  { state with pc := Function.update state.pc tid pc }

/-- One step. -/
def step : Label Tid → Option (State Tid)
  | .enter tid length timeout now =>
      if (state.pc tid).isReading then none
      else
        some
          ((state.setDataFlag 0).goto tid
            (.reading (Reading.begin state.dataFlag length timeout now)))
  | .round tid outcome =>
      match state.pc tid with
      | .reading reading =>
          match reading.round outcome with
          | .ok next => some (state.goto tid (.reading next))
          | .error bytes =>
              some ((state.setDataFlag reading.flag).goto tid (.returned bytes reading.buffer))
      | _ => none
  | .notifyOnDataAvailable enable =>
      (state.port.notifyOnDataAvailable enable).map fun (port, _) =>
        { state with
          port
          memory :=
            nativeSetEventFlag state.memory state.masterIndex state.port.fd .dataAvailable enable
          lastEnable := enable }

end Steps

/-! ### What the writes change -/

section Writes

variable {state : State Tid}

@[simp] theorem dataFlag_setDataFlag (value : Int) :
    (state.setDataFlag value).dataFlag = value := by
  simp [dataFlag, setDataFlag, EventInfo.setFlag]

/-- Writing the flag leaves the descriptors in `master_index` as they are. -/
theorem fd_setDataFlag (value : Int) (index : EisRef) :
    ((state.setDataFlag value).memory index).fd = (state.memory index).fd := by
  by_cases own : index = state.eis
  · subst own
    simp [setDataFlag, EventInfo.setFlag]
  · simp [setDataFlag, own]

namespace Running

theorem setDataFlag (running : state.Running) (value : Int) :
    (state.setDataFlag value).Running where
  indexed := running.indexed
  fd := (fd_setDataFlag value _).trans running.fd
  unique index member same :=
    running.unique index member ((fd_setDataFlag value index).symm.trans same)
  unlocked := running.unlocked
  monThread := running.monThread

theorem goto [DecidableEq Tid] (running : state.Running) (tid : Tid) (pc : Pc) :
    (state.goto tid pc).Running :=
  { running with }

/-- `nativeSetEventFlag` writes to the entry of the port. -/
theorem nativeSetEventFlag (running : state.Running) (flag : Bool) :
    nativeSetEventFlag state.memory state.masterIndex state.port.fd .dataAvailable flag =
      (state.setDataFlag flag.toInt).memory := by
  unfold DataAvailable.nativeSetEventFlag
  split
  next index found =>
    have same := List.find?_some found
    rw [running.unique index (List.mem_of_find?_eq_some found) (of_decide_eq_true same)]
    rfl
  next missed =>
    exact absurd running.fd (of_decide_eq_false
      (Bool.eq_false_iff.mpr (List.find?_eq_none.mp missed state.eis running.indexed)))

/-- `notifyOnDataAvailable` on a running port sets both flags. -/
theorem notify [DecidableEq Tid] {next : State Tid} {enable : Bool} (running : state.Running)
    (stepped : state.step (.notifyOnDataAvailable enable) = some next) :
    next.Running ∧ next.dataFlag = enable.toInt ∧ next.monThreadData = some enable ∧
      next.pc = state.pc ∧ next.lastEnable = enable := by
  have ⟨thread, alive⟩ := running.monThread
  simp only [step, RXTXPort.notifyOnDataAvailable, RXTXPort.notifyOn, running.unlocked, alive,
    running.nativeSetEventFlag] at stepped
  obtain rfl := Option.some.inj stepped
  have written := running.setDataFlag enable.toInt
  refine ⟨⟨written.indexed, written.fd, written.unique, rfl, _, rfl⟩, ?_, ?_, rfl, rfl⟩
  · exact dataFlag_setDataFlag enable.toInt
  · simp [monThreadData]

end Running

end Writes

end State

/-- A port whose event loop has just started. -/
structure Started (state : State Tid) : Prop where
  running : state.Running
  dataFlag : state.dataFlag = 0
  monThreadData : state.monThreadData = some false
  idle : ∀ tid, state.pc tid = .idle
  lastEnable : state.lastEnable = false

/-- The reads from a port and the calls of `notifyOnDataAvailable`, in any order. -/
def reads (Tid : Type*) [DecidableEq Tid] : System (State Tid) (Label Tid) where
  start := Started
  step := State.step

/-! ## Runs without a change during a read -/

/-- The condition on one step: a read begins while the flag is what the last
`notifyOnDataAvailable` has made it, and `notifyOnDataAvailable` is called while no read is
in progress, or with the argument of the last call. -/
def Permitted (state : State Tid) : Label Tid → Prop
  | .enter _ _ _ _ => state.dataFlag = state.lastEnable.toInt
  | .round _ _ => True
  | .notifyOnDataAvailable enable => state.Quiet ∨ enable = state.lastEnable

/-- `monThread.Data` is the argument of the last call, and so is what every read in progress
restores. -/
structure Kept (state : State Tid) : Prop where
  running : state.Running
  monThreadData : state.monThreadData = some state.lastEnable
  restores : ∀ tid, (state.pc tid).Restores state.lastEnable.toInt

/-- The flag itself is only known between the reads. -/
structure Invariant (state : State Tid) : Prop extends Kept state where
  dataFlag : state.Quiet → state.dataFlag = state.lastEnable.toInt

section Proofs

theorem Started.invariant {state : State Tid} (started : Started state) : Invariant state where
  running := started.running
  monThreadData := started.lastEnable ▸ started.monThreadData
  restores tid := by
    rw [started.idle tid]
    trivial
  dataFlag _ := by
    rw [started.dataFlag, started.lastEnable]
    rfl

theorem Kept.setDataFlag {state : State Tid} (kept : Kept state) (value : Int) :
    Kept (state.setDataFlag value) where
  running := kept.running.setDataFlag value
  monThreadData := kept.monThreadData
  restores := kept.restores

/-- With a read in progress, nothing changes what it restores. -/
theorem Kept.notify {state : State Tid} {enable : Bool} (kept : Kept state)
    (permitted : state.Quiet ∨ enable = state.lastEnable) (tid : Tid) :
    (state.pc tid).Restores enable.toInt := by
  rcases permitted with quiet | same
  · have outside := quiet tid
    revert outside
    cases state.pc tid with
    | reading reading => exact fun outside => nomatch outside
    | idle | returned => exact fun _ => trivial
  · exact same ▸ kept.restores tid

variable [DecidableEq Tid] {state next : State Tid} {label : Label Tid}

theorem Kept.goto (kept : Kept state) (tid : Tid) (pc : Pc)
    (restores : pc.Restores state.lastEnable.toInt) : Kept (state.goto tid pc) where
  running := kept.running.goto tid pc
  monThreadData := kept.monThreadData
  restores :=
    (Function.forall_update_iff state.pc fun _ pc => pc.Restores state.lastEnable.toInt).mpr
      ⟨restores, fun other _ => kept.restores other⟩

theorem State.not_quiet_goto (tid : Tid) (reading : Reading) :
    ¬ (state.goto tid (.reading reading)).Quiet := by
  intro quiet
  have contradictory := quiet tid
  simp [State.goto, Pc.isReading] at contradictory

/-- A permitted step keeps the invariant. -/
theorem Invariant.step (held : Invariant state) (permitted : Permitted state label)
    (stepped : state.step label = some next) : Invariant next := by
  have kept := held.toKept
  cases label with
  | enter tid length timeout now =>
      simp only [State.step] at stepped
      split at stepped
      next => simp at stepped
      next =>
        obtain rfl := Option.some.inj stepped
        let reading := Reading.begin state.dataFlag length timeout now
        exact
          { (kept.setDataFlag 0).goto tid (.reading reading) permitted with
            dataFlag := fun quiet => absurd quiet (State.not_quiet_goto tid _) }
  | round tid outcome =>
      simp only [State.step] at stepped
      split at stepped
      next reading at_reading =>
        have restores := kept.restores tid
        rw [at_reading] at restores
        split at stepped
        next continued went =>
          obtain rfl := Option.some.inj stepped
          have ⟨_, _, same⟩ := Reading.round_ok went
          exact
            { kept.goto tid (.reading continued) (same.trans restores) with
              dataFlag := fun quiet => absurd quiet (State.not_quiet_goto tid _) }
        next bytes _ =>
          obtain rfl := Option.some.inj stepped
          exact
            { (kept.setDataFlag reading.flag).goto tid (.returned bytes _) trivial with
              dataFlag := fun _ => (State.dataFlag_setDataFlag reading.flag).trans restores }
      next => simp at stepped
  | notifyOnDataAvailable enable =>
      have ⟨running, dataFlag, monThreadData, samePc, called⟩ := kept.running.notify stepped
      exact
        { running
          monThreadData := called.symm ▸ monThreadData
          restores := fun tid => by
            rw [samePc, called]
            exact kept.notify permitted tid
          dataFlag := fun _ => called.symm ▸ dataFlag }

/-- What holds in every state reached by permitted steps. -/
theorem invariant_of_reached (reached : (reads Tid).ReachedBy Permitted state) :
    Invariant state :=
  reached.invariant (fun _ => Started.invariant)
    fun _ _ _ held permitted stepped => held.step permitted stepped

/-- Between the reads, both flags are what the last `notifyOnDataAvailable` has made them. -/
theorem flags_of_quiet (reached : (reads Tid).ReachedBy Permitted state) (quiet : state.Quiet) :
    state.dataFlag = state.lastEnable.toInt ∧ state.monThreadData = some state.lastEnable :=
  have invariant := invariant_of_reached reached
  ⟨invariant.dataFlag quiet, invariant.monThreadData⟩

/-- Reads that follow one another, as the `synchronized` methods of the input stream make
them, with no change of the flag meanwhile. -/
def OneAtATime (state : State Tid) : Label Tid → Prop
  | .enter _ _ _ _ => state.Quiet
  | .round _ _ => True
  | .notifyOnDataAvailable enable => state.Quiet ∨ enable = state.lastEnable

/-- A read that begins while no other is in progress finds the flag as it should be. -/
theorem reachedBy_permitted_of_oneAtATime (reached : (reads Tid).ReachedBy OneAtATime state) :
    (reads Tid).ReachedBy Permitted state := by
  induction reached with
  | start started => exact .start started
  | @step before after label _ alone stepped ih =>
      refine ih.step ?_ stepped
      cases label with
      | enter => exact (invariant_of_reached ih).dataFlag alone
      | round => trivial
      | notifyOnDataAvailable => exact alone

end Proofs

instance {n : Nat} (state : State (Fin n)) : Decidable state.Quiet :=
  inferInstanceAs (Decidable (∀ tid, (state.pc tid).isReading = false))

instance {n : Nat} (state : State (Fin n)) : (label : Label (Fin n)) →
    Decidable (Permitted state label)
  | .enter _ _ _ _ => inferInstanceAs (Decidable (state.dataFlag = state.lastEnable.toInt))
  | .round _ _ => isTrue trivial
  | .notifyOnDataAvailable enable =>
      inferInstanceAs (Decidable (state.Quiet ∨ enable = state.lastEnable))

/-- Descriptor 5, whose entry comes after that of another port. -/
def opened : State (Fin 2) where
  port :=
    { fd := 5
      monThread := some {}
      monThreadisInterrupted := false
      monitorThreadLock := false }
  eis := 1
  memory := fun index => if index = 1 then { fd := 5 } else { fd := 4 }
  masterIndex := [0, 1]
  pc := fun _ => .idle
  lastEnable := false

theorem started_opened : Started opened where
  running :=
    { indexed := by decide
      fd := rfl
      unique := by decide
      unlocked := rfl
      monThread := ⟨_, rfl⟩ }
  dataFlag := rfl
  monThreadData := rfl
  idle _ := rfl
  lastEnable := rfl

/-- The device has one byte. -/
def oneByte : Outcome where
  now := 0
  select := 1
  read := some [65]

/-- The events are enabled, a read of one byte begins, they are enabled again, and the read
returns. -/
theorem flags_of_quiet_after_read :
    ∃ state : State (Fin 2), (reads (Fin 2)).ReachedBy Permitted state ∧ state.Quiet ∧
      state.pc 0 = .returned 1 [65] ∧ state.dataFlag = 1 ∧ state.monThreadData = some true := by
  have reached : (reads (Fin 2)).ReachedBy Permitted _ :=
    (System.ReachedBy.start started_opened).runAllowed
      [.notifyOnDataAvailable true, .enter 0 1 1000 0, .notifyOnDataAvailable true,
        .round 0 oneByte, .round 0 oneByte] rfl
  exact ⟨_, reached, by decide, rfl, flags_of_quiet reached (by decide)⟩

/-- The events are enabled while a read is in progress, which has saved that they are not:
the read takes the change back. -/
theorem notify_lost_during_read :
    ∃ state : State (Fin 2), (reads (Fin 2)).Reachable state ∧ state.Quiet ∧
      state.lastEnable = true ∧ state.monThreadData = some true ∧ state.dataFlag = 0 :=
  ⟨_, System.reachable_of_run
    [.enter 0 1 1000 0, .notifyOnDataAvailable true, .round 0 oneByte, .round 0 oneByte]
    started_opened rfl, by decide, rfl, rfl, rfl⟩

end Jrxtx.SerialImp.DataAvailable
