import Jrxtx.Transition.System

/-!
# The empty output buffer without `TIOCSERGETLSR`

Where the line status register cannot be read, `drain_loop` waits in `tcdrain` and sets
`output_buffer_empty_flag`, upon which the event loop sends its event.  A `write` leaves a mark
in `writing`.  Any number of threads write and one calls `nativeDrain`; no lock protects the two
variables, so each statement that uses them is a step.
-/

namespace Jrxtx.SerialImp.DrainLoop

open Jrxtx.Transition

/-- What a call of `tcdrain` ends with. -/
inductive Tcdrain where
  | succeeds
  | eintr
  | fails
  deriving DecidableEq, Repr

/-- Where `drain_loop` is. -/
inductive DrainPc where
  | start
  | asleep
  | draining
  /-- `tcdrain` has succeeded -/
  | drained
  /-- `writing` was set -/
  | found
  /-- `output_buffer_empty_flag` is set, and `writing` is to be cleared -/
  | flagged
  | ended
  deriving DecidableEq, Repr

/-- Where the event loop is. -/
inductive LoopPc where
  | start
  /-- in `check_line_status_register` -/
  | checking
  | sending
  /-- `output_buffer_empty_flag` is to be cleared -/
  | sent
  | ended
  deriving DecidableEq, Repr

/-- Where the thread in `nativeDrain` is. -/
inductive FlushPc where
  | idle
  | draining (interrupted : Bool) (count : Nat)
  | drained
  /-- `writing` was set -/
  | found
  /-- `writing` is cleared, and `output_buffer_empty_flag` is to be -/
  | cleared
  | sending
  deriving DecidableEq, Repr

/-- The part of `event_info_struct` that the threads share, where they are, and what has
happened. -/
structure DrainState where
  writing : Bool
  outputBufferEmptyFlag : Bool
  /-- `eventflags[SPE_OUTPUT_BUFFER_EMPTY]` -/
  enabled : Bool
  eventloopInterrupted : Bool
  closing : Bool
  drain : DrainPc
  loop : LoopPc
  flush : FlushPc
  /-- threads between their `write()` and `writing = 1` -/
  unmarked : Nat
  /-- `write()` calls that have succeeded, and how many of them are out -/
  accepted : Nat
  transmitted : Nat
  /-- events of the event loop and of `nativeDrain` -/
  sent : Nat
  flushed : Nat
  /-- how often `writing = 1` has been executed, and `accepted` when it last was -/
  marks : Nat
  level : Nat
  /-- both when `writing` was last found set -/
  taken : Nat
  takenLevel : Nat
  /-- the marks before the last event, or before `nativeDrain` last returned -/
  reported : Nat
  deriving DecidableEq, Repr

inductive DrainLabel where
  /-- a successful `write()`; without `interrupted` the thread goes on to `writing = 1` -/
  | write (interrupted : Bool)
  | mark
  /-- the device gets done with a `write()` -/
  | transmit
  | drain (outcome : Tcdrain)
  | loop
  | nativeDrain (interrupted : Bool)
  | flush (outcome : Tcdrain)
  | notifyOnOutputEmpty (enable : Bool)
  | interruptEventLoop
  /-- `interruptEventLoop` cancels the thread in `drain_loop` -/
  | cancel
  deriving DecidableEq, Repr

namespace DrainState

variable (state : DrainState)

/-- `writing` is found set. -/
def take : DrainState :=
  { state with taken := state.marks, takenLevel := state.level }

def endDrain : DrainState :=
  { state with drain := .ended, closing := true }

/-- A step of `drain_loop`. -/
def stepDrain (outcome : Tcdrain) : Option DrainState :=
  match state.drain with
  | .start =>
      if state.eventloopInterrupted then some state.endDrain
      else some { state with drain := .asleep }
  | .asleep =>
      if state.eventloopInterrupted then some state.endDrain
      else some { state with drain := .draining }
  | .draining =>
      -- `closing` is set before the end only if the thread is cancelled
      if state.closing then some state.endDrain
      else
        match outcome with
        | .succeeds =>
            if state.transmitted = state.accepted then some { state with drain := .drained }
            else none
        | .eintr => some { state with drain := .start }
        | .fails => some state.endDrain
  | .drained =>
      if state.writing then some { state.take with drain := .found }
      else some { state with drain := .start }
  | .found => some { state with outputBufferEmptyFlag := true, drain := .flagged }
  | .flagged => some { state with writing := false, drain := .start }
  | .ended => none

/-- A step of the event loop: `finalize_threads` if it is to end, and
`check_line_status_register` otherwise. -/
def stepLoop : Option DrainState :=
  match state.loop with
  | .start =>
      if state.closing then some { state with outputBufferEmptyFlag := false, loop := .ended }
      else some { state with loop := .checking }
  | .checking =>
      if state.outputBufferEmptyFlag && state.enabled then some { state with loop := .sending }
      else some { state with loop := .start }
  | .sending =>
      some { state with sent := state.sent + 1, reported := state.taken, loop := .sent }
  | .sent => some { state with outputBufferEmptyFlag := false, loop := .start }
  | .ended => none

/-- The end of the loop around `tcdrain`; a failure does not keep `nativeDrain` from going
on. -/
def flushTo (interrupted : Bool) : DrainState :=
  { state with flush := if interrupted then .idle else .drained }

/-- A step of `nativeDrain`. -/
def stepFlush (outcome : Tcdrain) : Option DrainState :=
  match state.flush with
  | .idle => none
  | .draining interrupted count =>
      match outcome with
      | .succeeds =>
          if state.transmitted = state.accepted then some (state.flushTo interrupted) else none
      | .eintr =>
          if count + 1 < 3 then some { state with flush := .draining interrupted (count + 1) }
          else some (state.flushTo interrupted)
      | .fails => some (state.flushTo interrupted)
  | .drained =>
      if state.writing then some { state.take with flush := .found }
      else some { state with flush := .sending }
  | .found => some { state with writing := false, flush := .cleared }
  | .cleared => some { state with outputBufferEmptyFlag := false, flush := .sending }
  | .sending =>
      some
        { state with
          flushed := state.flushed + state.enabled.toNat
          reported := state.taken
          flush := .idle }

def step : DrainLabel → Option DrainState
  | .write interrupted =>
      some
        { state with
          accepted := state.accepted + 1
          unmarked := state.unmarked + (!interrupted).toNat }
  | .mark =>
      if state.unmarked = 0 then none
      else
        some
          { state with
            unmarked := state.unmarked - 1
            writing := true
            marks := state.marks + 1
            level := state.accepted }
  | .transmit =>
      if state.transmitted < state.accepted then
        some { state with transmitted := state.transmitted + 1 }
      else none
  | .drain outcome => state.stepDrain outcome
  | .loop => state.stepLoop
  | .nativeDrain interrupted =>
      if state.flush = .idle then some { state with flush := .draining interrupted 0 } else none
  | .flush outcome => state.stepFlush outcome
  | .notifyOnOutputEmpty enable => some { state with enabled := enable }
  | .interruptEventLoop => some { state with eventloopInterrupted := true }
  | .cancel =>
      if state.eventloopInterrupted && !state.closing then some { state with closing := true }
      else none

end DrainState

/-- `initialise_event_info_struct` and `init_threads`. -/
def initialised : DrainState where
  writing := false
  outputBufferEmptyFlag := false
  enabled := false
  eventloopInterrupted := false
  closing := false
  drain := .start
  loop := .start
  flush := .idle
  unmarked := 0
  accepted := 0
  transmitted := 0
  sent := 0
  flushed := 0
  marks := 0
  level := 0
  taken := 0
  takenLevel := 0
  reported := 0

def drainSystem : System DrainState DrainLabel where
  start := fun state => state = initialised
  step := DrainState.step

/-! ## What a step does -/

namespace DrainState

/-- The steps of `drain_loop`. -/
inductive DrainMove (state : DrainState) : DrainState → Prop where
  | goOn (pc : DrainPc) (between : state.drain = .start ∨ state.drain = .asleep ∨
        state.drain = .draining ∨ state.drain = .drained ∧ state.writing = false)
      (goes : pc = .start ∨ pc = .asleep ∨ pc = .draining) :
      DrainMove state { state with drain := pc }
  | finish (between : state.drain = .start ∨ state.drain = .asleep ∨ state.drain = .draining) :
      DrainMove state state.endDrain
  | drain (stands : state.drain = .draining) (out : state.transmitted = state.accepted) :
      DrainMove state { state with drain := .drained }
  | find (stands : state.drain = .drained) (marked : state.writing = true) :
      DrainMove state { state.take with drain := .found }
  | flag (stands : state.drain = .found) :
      DrainMove state { state with outputBufferEmptyFlag := true, drain := .flagged }
  | clear (stands : state.drain = .flagged) :
      DrainMove state { state with writing := false, drain := .start }

/-- The steps of the event loop. -/
inductive LoopMove (state : DrainState) : DrainState → Prop where
  | begin (stands : state.loop = .start) (continues : state.closing = false) :
      LoopMove state { state with loop := .checking }
  | finish (stands : state.loop = .start) :
      LoopMove state { state with outputBufferEmptyFlag := false, loop := .ended }
  | skip (stands : state.loop = .checking) : LoopMove state { state with loop := .start }
  | check (stands : state.loop = .checking) (flagged : state.outputBufferEmptyFlag = true) :
      LoopMove state { state with loop := .sending }
  | send (stands : state.loop = .sending) :
      LoopMove state { state with sent := state.sent + 1, reported := state.taken, loop := .sent }
  | clear (stands : state.loop = .sent) :
      LoopMove state { state with outputBufferEmptyFlag := false, loop := .start }

/-- The steps of `nativeDrain`. -/
inductive FlushMove (state : DrainState) (outcome : Tcdrain) : DrainState → Prop where
  | again (interrupted : Bool) (count : Nat) (stands : state.flush = .draining interrupted count) :
      FlushMove state outcome { state with flush := .draining interrupted (count + 1) }
  | leave (count : Nat) (stands : state.flush = .draining true count) :
      FlushMove state outcome { state with flush := .idle }
  | drain (count : Nat) (stands : state.flush = .draining false count)
      (out : outcome = .succeeds → state.transmitted = state.accepted)
      (tries : outcome = .eintr → 3 ≤ count + 1) :
      FlushMove state outcome { state with flush := .drained }
  | find (stands : state.flush = .drained) (marked : state.writing = true) :
      FlushMove state outcome { state.take with flush := .found }
  | skip (stands : state.flush = .drained) (unmarked : state.writing = false) :
      FlushMove state outcome { state with flush := .sending }
  | clear (stands : state.flush = .found) :
      FlushMove state outcome { state with writing := false, flush := .cleared }
  | unflag (stands : state.flush = .cleared) :
      FlushMove state outcome { state with outputBufferEmptyFlag := false, flush := .sending }
  | send (stands : state.flush = .sending) :
      FlushMove state outcome
        { state with
          flushed := state.flushed + state.enabled.toNat
          reported := state.taken
          flush := .idle }

section Moves

variable {state next : DrainState} {outcome : Tcdrain}

theorem DrainMove.of_step (stepped : state.stepDrain outcome = some next) :
    state.DrainMove next := by
  revert stepped
  fun_cases stepDrain state outcome <;> rintro ⟨⟩
  case case1 stands _ => exact .finish (.inl stands)
  case case2 stands _ => exact .goOn _ (.inl stands) (.inr (.inl rfl))
  case case3 stands _ => exact .finish (.inr (.inl stands))
  case case4 stands _ => exact .goOn _ (.inr (.inl stands)) (.inr (.inr rfl))
  case case5 stands _ => exact .finish (.inr (.inr stands))
  case case6 stands _ out => exact .drain stands out
  case case8 stands _ => exact .goOn _ (.inr (.inr (.inl stands))) (.inl rfl)
  case case9 stands _ => exact .finish (.inr (.inr stands))
  case case10 stands marked => exact .find stands marked
  case case11 stands unmarked =>
    exact .goOn _ (.inr (.inr (.inr ⟨stands, by simpa using unmarked⟩))) (.inl rfl)
  case case12 stands => exact .flag stands
  case case13 stands => exact .clear stands

theorem LoopMove.of_step (stepped : state.stepLoop = some next) : state.LoopMove next := by
  revert stepped
  fun_cases stepLoop state <;> rintro ⟨⟩
  case case1 stands _ => exact .finish stands
  case case2 stands continues => exact .begin stands (by simpa using continues)
  case case3 stands flagged =>
    rw [Bool.and_eq_true] at flagged
    exact .check stands flagged.1
  case case4 stands _ => exact .skip stands
  case case5 stands => exact .send stands
  case case6 stands => exact .clear stands

theorem FlushMove.flushTo {interrupted : Bool} {count : Nat}
    (stands : state.flush = .draining interrupted count)
    (out : outcome = .succeeds → state.transmitted = state.accepted)
    (tries : outcome = .eintr → 3 ≤ count + 1) :
    state.FlushMove outcome (state.flushTo interrupted) := by
  cases interrupted with
  | true => exact .leave count stands
  | false => exact .drain count stands out tries

theorem FlushMove.of_step (stepped : state.stepFlush outcome = some next) :
    state.FlushMove outcome next := by
  revert stepped
  fun_cases stepFlush state outcome <;> rintro ⟨⟩
  case case2 stands out => exact .flushTo stands (fun _ => out) (by simp)
  case case4 stands _ => exact .again _ _ stands
  case case5 stands last => exact .flushTo stands (by simp) fun _ => Nat.le_of_not_lt last
  case case6 stands => exact .flushTo stands (by simp) (by simp)
  case case7 stands marked => exact .find stands marked
  case case8 stands unmarked => exact .skip stands (by simpa using unmarked)
  case case9 stands => exact .clear stands
  case case10 stands => exact .unflag stands
  case case11 stands => exact .send stands

end Moves

/-! ## No more events than writes -/

/-- The marks on their way from `drain_loop`. -/
def drainShare (state : DrainState) : Nat :=
  match state.drain with
  | .found => 1
  | .flagged => 0
  | _ => state.writing.toNat

/-- The marks on their way from the event loop. -/
def loopShare (state : DrainState) : Nat :=
  match state.loop with
  | .start | .checking => state.outputBufferEmptyFlag.toNat
  | .sending => 1
  | .sent | .ended => 0

/-- An event needs a mark of its own, and a mark needs a write. -/
structure Bounded (state : DrainState) : Prop where
  events : state.sent + state.loopShare + state.drainShare ≤ state.marks
  marks : state.marks + state.unmarked ≤ state.accepted

section Bounds

variable {state next : DrainState} {outcome : Tcdrain} {label : DrainLabel}

theorem Bounded.drain (bounded : state.Bounded) (moved : state.DrainMove next) : next.Bounded := by
  have events := bounded.events
  cases moved with
  | goOn pc between goes =>
      have before : state.drainShare = state.writing.toNat := by
        obtain stands | stands | stands | ⟨stands, -⟩ := between <;> simp [drainShare, stands]
      have after : ({ state with drain := pc } : DrainState).drainShare = state.writing.toNat := by
        obtain rfl | rfl | rfl := goes <;> rfl
      refine ⟨?_, bounded.marks⟩
      rw [after, ← before]
      exact events
  | finish between =>
      have before : state.drainShare = state.writing.toNat := by
        obtain stands | stands | stands := between <;> simp [drainShare, stands]
      refine ⟨?_, bounded.marks⟩
      rw [before] at events
      exact events
  | drain stands =>
      refine ⟨?_, bounded.marks⟩
      rw [drainShare, stands] at events
      exact events
  | find stands marked =>
      refine ⟨?_, bounded.marks⟩
      rw [drainShare, stands, marked] at events
      exact events
  | flag stands =>
      refine ⟨?_, bounded.marks⟩
      have raised : ({ state with outputBufferEmptyFlag := true, drain := .flagged } :
          DrainState).loopShare ≤ state.loopShare + 1 := by
        unfold loopShare
        cases state.loop <;> simp
      rw [drainShare, stands] at events
      exact Nat.le_trans (Nat.add_le_add_left raised _) (by simpa [Nat.add_assoc] using events)
  | clear stands =>
      refine ⟨?_, bounded.marks⟩
      rw [drainShare, stands] at events
      exact events

theorem Bounded.loop (bounded : state.Bounded) (moved : state.LoopMove next) : next.Bounded := by
  have events := bounded.events
  refine ⟨?_, ?_⟩
  · cases moved with
    | begin stands | skip stands | send stands =>
        rw [loopShare, stands] at events
        simp only [drainShare, loopShare] at events ⊢
        omega
    | finish stands | clear stands =>
        have lowered : (0 : Nat) ≤ state.loopShare := Nat.zero_le _
        simp only [loopShare, drainShare, stands, Bool.toNat_false] at events lowered ⊢
        omega
    | check stands flagged =>
        rw [loopShare, stands, flagged] at events
        exact events
  · cases moved <;> exact bounded.marks

theorem Bounded.flush (bounded : state.Bounded) (moved : state.FlushMove outcome next) :
    next.Bounded := by
  have events := bounded.events
  cases moved with
  | clear =>
      have lowered : ({ state with writing := false, flush := .cleared } : DrainState).drainShare ≤
          state.drainShare := by
        unfold drainShare
        cases state.drain <;> simp
      exact ⟨Nat.le_trans (Nat.add_le_add_left lowered _) events, bounded.marks⟩
  | unflag =>
      have lowered : ({ state with outputBufferEmptyFlag := false, flush := .sending } :
          DrainState).loopShare ≤ state.loopShare := by
        unfold loopShare
        cases state.loop <;> simp
      refine ⟨Nat.le_trans ?_ events, bounded.marks⟩
      exact Nat.add_le_add_right (Nat.add_le_add_left lowered _) _
  | again | leave | drain | find | skip | send => exact ⟨events, bounded.marks⟩

theorem Bounded.mark (bounded : state.Bounded) (waits : state.unmarked ≠ 0) :
    Bounded
      { state with
        unmarked := state.unmarked - 1
        writing := true
        marks := state.marks + 1
        level := state.accepted } := by
  have events := bounded.events
  have marks := bounded.marks
  have raised : ({ state with
      unmarked := state.unmarked - 1
      writing := true
      marks := state.marks + 1
      level := state.accepted } : DrainState).drainShare ≤ state.drainShare + 1 := by
    unfold drainShare
    cases state.drain <;> simp
  constructor
  · simp only [loopShare] at events raised ⊢
    omega
  · show state.marks + 1 + (state.unmarked - 1) ≤ state.accepted
    omega

theorem Bounded.step (bounded : state.Bounded) (stepped : state.step label = some next) :
    next.Bounded := by
  cases label with
  | drain outcome => exact bounded.drain (.of_step stepped)
  | loop => exact bounded.loop (.of_step stepped)
  | flush outcome => exact bounded.flush (.of_step stepped)
  | mark =>
      simp only [DrainState.step] at stepped
      split at stepped
      next => simp at stepped
      next waits =>
        obtain rfl := Option.some.inj stepped
        exact bounded.mark waits
  | write interrupted =>
      obtain rfl := Option.some.inj stepped
      have marks := bounded.marks
      have := (!interrupted).toNat_le
      refine ⟨bounded.events, ?_⟩
      show state.marks + (state.unmarked + (!interrupted).toNat) ≤ state.accepted + 1
      omega
  | transmit | nativeDrain interrupted | cancel =>
      simp only [DrainState.step] at stepped
      split at stepped
      next =>
        obtain rfl := Option.some.inj stepped
        exact ⟨bounded.events, bounded.marks⟩
      next => simp at stepped
  | notifyOnOutputEmpty enable | interruptEventLoop =>
      obtain rfl := Option.some.inj stepped
      exact ⟨bounded.events, bounded.marks⟩

/-- However the threads interleave, the event loop sends no more events than there are
writes. -/
theorem events_le_writes (reachable : drainSystem.Reachable state) :
    state.sent ≤ state.accepted := by
  have bounded : state.Bounded :=
    reachable.invariant (fun _ started => started ▸ ⟨Nat.le_refl _, Nat.le_refl _⟩)
      fun _ _ _ bounded stepped => bounded.step stepped
  have events := bounded.events
  have marks := bounded.marks
  omega

/-- A write that leaves a mark and gets out. -/
def writes : List DrainLabel := [.write false, .mark, .transmit]

/-- The second mark comes before `drain_loop` clears the first, and only one event is sent. -/
theorem events_le_writes_overlapping :
    ∃ state, drainSystem.Reachable state ∧ state.sent = 1 ∧ state.writing = false ∧
      state.outputBufferEmptyFlag = false ∧ state.accepted = 2 ∧ state.sent ≤ state.accepted := by
  have reachable : drainSystem.Reachable _ := System.reachable_of_run
    ([.notifyOnOutputEmpty true] ++ writes ++ List.replicate 5 (.drain .succeeds) ++ writes ++
      [.drain .succeeds] ++ List.replicate 4 .loop) rfl rfl
  exact ⟨_, reachable, rfl, rfl, rfl, rfl, events_le_writes reachable⟩

end Bounds

end DrainState

/-! ## Threads that do not overlap -/

/-- The loop around `tcdrain` goes on, or has succeeded. -/
def FlushPc.Succeeds : FlushPc → Tcdrain → Prop
  | .draining false count, outcome => outcome = .succeeds ∨ outcome = .eintr ∧ count + 1 < 3
  | _, _ => True

instance : ∀ pc outcome, Decidable (FlushPc.Succeeds pc outcome)
  | .draining false _, _ => inferInstanceAs (Decidable (_ ∨ _ ∧ _))
  | .draining true _, _ | .idle, _ | .drained, _ | .found, _ | .cleared, _ | .sending, _ =>
      inferInstanceAs (Decidable True)

namespace DrainState

/-- Between the end of `tcdrain` and the use of what it means. -/
def Drains (state : DrainState) : Prop :=
  state.drain = .drained ∨ state.drain = .found ∨ state.drain = .flagged

/-- Between the test of `output_buffer_empty_flag` and its clearing. -/
def Sends (state : DrainState) : Prop :=
  state.loop = .sending ∨ state.loop = .sent

/-- `nativeDrain` after `tcdrain`. -/
def Flushes (state : DrainState) : Prop :=
  state.flush = .drained ∨ state.flush = .found ∨ state.flush = .cleared ∨ state.flush = .sending

instance (state : DrainState) : Decidable state.Drains :=
  inferInstanceAs (Decidable (_ ∨ _ ∨ _))

instance (state : DrainState) : Decidable state.Sends :=
  inferInstanceAs (Decidable (_ ∨ _))

instance (state : DrainState) : Decidable state.Flushes :=
  inferInstanceAs (Decidable (_ ∨ _ ∨ _ ∨ _))

/-- While one thread is about to use what it has found, no other one goes on, and `nativeDrain`
does not fail. -/
def OneAtATime (state : DrainState) : DrainLabel → Prop
  | .write _ | .mark => ¬state.Drains ∧ ¬state.Sends ∧ ¬state.Flushes
  | .drain _ => ¬state.Sends ∧ ¬state.Flushes
  | .loop => ¬state.Drains ∧ ¬state.Flushes
  | .flush outcome => ¬state.Drains ∧ ¬state.Sends ∧ state.flush.Succeeds outcome
  | _ => True

instance : ∀ state label, Decidable (OneAtATime state label)
  | state, .write _ | state, .mark =>
      inferInstanceAs (Decidable (¬state.Drains ∧ ¬state.Sends ∧ ¬state.Flushes))
  | state, .drain _ => inferInstanceAs (Decidable (¬state.Sends ∧ ¬state.Flushes))
  | state, .loop => inferInstanceAs (Decidable (¬state.Drains ∧ ¬state.Flushes))
  | state, .flush outcome =>
      inferInstanceAs
        (Decidable (¬state.Drains ∧ ¬state.Sends ∧ state.flush.Succeeds outcome))
  | _, .transmit | _, .nativeDrain _ | _, .notifyOnOutputEmpty _ | _, .interruptEventLoop
  | _, .cancel => inferInstanceAs (Decidable True)

/-- What is known of the marks. -/
structure Accounted (state : DrainState) : Prop where
  drains : state.Drains → ¬state.Sends ∧ ¬state.Flushes
  sends : state.Sends → ¬state.Flushes
  transmitted : state.transmitted ≤ state.accepted
  level : state.level ≤ state.accepted
  takenLevel : state.takenLevel ≤ state.transmitted
  /-- nothing has been written since `tcdrain` ended -/
  out : state.drain = .drained ∨ state.flush = .drained → state.transmitted = state.accepted
  marked : state.marks ≠ state.taken → state.writing = true
  found : state.drain = .found ∨ state.drain = .flagged ∨ state.flush = .found →
    state.marks = state.taken
  flagged : state.taken ≠ state.reported → state.outputBufferEmptyFlag = true ∨
    state.drain = .found ∨ state.loop = .sending ∨ state.loop = .ended ∨
    state.flush = .found ∨ state.flush = .cleared ∨ state.flush = .sending
  sent : state.loop = .sent → state.taken = state.reported

section Accounts

variable {state next : DrainState} {outcome : Tcdrain} {label : DrainLabel}

/-- `drain_loop` goes where nothing depends on what it has found. -/
theorem Accounted.outside (accounted : state.Accounted) (pc : DrainPc) (closing : Bool)
    (before : state.drain ≠ .found) (after : pc = .start ∨ pc = .asleep ∨ pc = .draining ∨
      pc = .ended) : Accounted { state with drain := pc, closing } := by
  have left : pc ≠ .drained ∧ pc ≠ .found ∧ pc ≠ .flagged := by
    obtain rfl | rfl | rfl | rfl := after <;> decide
  refine { accounted with drains := ?_, out := ?_, found := ?_, flagged := ?_ }
  · rintro (stands | stands | stands)
    · exact absurd stands left.1
    · exact absurd stands left.2.1
    · exact absurd stands left.2.2
  · rintro (stands | flush)
    · exact absurd stands left.1
    · exact accounted.out (.inr flush)
  · rintro (stands | stands | flush)
    · exact absurd stands left.2.1
    · exact absurd stands left.2.2
    · exact accounted.found (.inr (.inr flush))
  · intro unreported
    obtain flag | drain | others := accounted.flagged unreported
    · exact .inl flag
    · exact absurd drain before
    · exact .inr (.inr others)

theorem Accounted.drain (accounted : state.Accounted) (alone : ¬state.Sends ∧ ¬state.Flushes)
    (moved : state.DrainMove next) : next.Accounted := by
  cases moved with
  | goOn pc between goes =>
      apply accounted.outside pc state.closing
      · obtain stands | stands | stands | ⟨stands, -⟩ := between <;> simp [stands]
      · obtain rfl | rfl | rfl := goes <;> simp
  | finish between =>
      apply accounted.outside .ended true
      · obtain stands | stands | stands := between <;> simp [stands]
      · simp
  | drain stands out =>
      refine { accounted with
        drains := fun _ => alone
        out := fun _ => out
        found := ?_
        flagged := ?_ }
      · rintro (found | flagged | flush)
        · cases found
        · cases flagged
        · exact absurd (.inr (.inl flush)) alone.2
      · intro unreported
        obtain flag | drain | others := accounted.flagged unreported
        · exact .inl flag
        · simp [stands] at drain
        · exact .inr (.inr others)
  | find stands marked =>
      have out := accounted.out (.inl stands)
      refine { accounted with
        drains := fun _ => alone
        takenLevel := Nat.le_trans accounted.level (Nat.le_of_eq out.symm)
        out := fun _ => out
        marked := fun unmarked => absurd rfl unmarked
        found := fun _ => rfl
        flagged := fun _ => .inr (.inl rfl)
        sent := fun sent => absurd (.inr sent) alone.1 }
  | flag stands =>
      refine { accounted with
        drains := fun _ => alone
        out := ?_
        found := fun _ => accounted.found (.inl stands)
        flagged := fun _ => .inl rfl }
      rintro (drained | flush)
      · cases drained
      · exact accounted.out (.inr flush)
  | clear stands =>
      have found := accounted.found (.inr (.inl stands))
      have cleared : Accounted { state with writing := false } :=
        { accounted with marked := fun unmarked => absurd found unmarked }
      exact cleared.outside .start state.closing (by simp [stands]) (.inl rfl)

/-- The event loop goes where nothing depends on what it has found. -/
theorem Accounted.back (accounted : state.Accounted) (pc : LoopPc)
    (before : state.loop ≠ .sending ∧ state.loop ≠ .ended)
    (after : pc = .start ∨ pc = .checking) : Accounted { state with loop := pc } := by
  have left : pc ≠ .sending ∧ pc ≠ .sent := by
    obtain rfl | rfl := after <;> decide
  refine { accounted with
    drains := fun drains => ⟨fun sends => sends.elim left.1 left.2, (accounted.drains drains).2⟩
    sends := fun sends => sends.elim (absurd · left.1) (absurd · left.2)
    flagged := ?_
    sent := fun sent => absurd sent left.2 }
  intro unreported
  obtain flag | drain | sending | ended | flush := accounted.flagged unreported
  · exact .inl flag
  · exact .inr (.inl drain)
  · exact absurd sending before.1
  · exact absurd ended before.2
  · exact .inr (.inr (.inr (.inr flush)))

theorem Accounted.loop (accounted : state.Accounted) (alone : ¬state.Drains ∧ ¬state.Flushes)
    (moved : state.LoopMove next) : next.Accounted := by
  cases moved with
  | begin stands => exact accounted.back .checking (by simp [stands]) (.inr rfl)
  | skip stands => exact accounted.back .start (by simp [stands]) (.inl rfl)
  | finish stands =>
      exact { accounted with
        drains := fun drains => absurd drains alone.1
        sends := fun _ => alone.2
        flagged := fun _ => .inr (.inr (.inr (.inl rfl)))
        sent := by simp }
  | check stands flagged =>
      exact { accounted with
        drains := fun drains => absurd drains alone.1
        sends := fun _ => alone.2
        flagged := fun _ => .inl flagged
        sent := by simp }
  | send stands =>
      exact { accounted with
        drains := fun drains => absurd drains alone.1
        sends := fun _ => alone.2
        flagged := fun unreported => absurd rfl unreported
        sent := fun _ => rfl }
  | clear stands =>
      have reported := accounted.sent stands
      have cleared : Accounted { state with outputBufferEmptyFlag := false } :=
        { accounted with flagged := fun unreported => absurd reported unreported }
      exact cleared.back .start (by simp [stands]) (.inl rfl)

/-- `nativeDrain` has found nothing yet. -/
theorem Accounted.away (accounted : state.Accounted) (pc : FlushPc)
    (before : state.flush ≠ .found ∧ state.flush ≠ .cleared ∧ state.flush ≠ .sending)
    (after : pc = .idle ∨ ∃ interrupted count, pc = .draining interrupted count) :
    Accounted { state with flush := pc } := by
  have left : pc ≠ .drained ∧ pc ≠ .found ∧ pc ≠ .cleared ∧ pc ≠ .sending := by
    obtain rfl | ⟨_, _, rfl⟩ := after <;> simp
  have away : ¬Flushes { state with flush := pc } := by
    rintro (drained | found | cleared | sending)
    · exact left.1 drained
    · exact left.2.1 found
    · exact left.2.2.1 cleared
    · exact left.2.2.2 sending
  refine { accounted with
    drains := fun drains => ⟨(accounted.drains drains).1, away⟩
    sends := fun _ => away
    out := ?_
    found := ?_
    flagged := ?_ }
  · rintro (drain | flush)
    · exact accounted.out (.inl drain)
    · exact absurd flush left.1
  · rintro (found | flagged | flush)
    · exact accounted.found (.inl found)
    · exact accounted.found (.inr (.inl flagged))
    · exact absurd flush left.2.1
  · intro unreported
    obtain flag | drain | sending | ended | found | cleared | flushes :=
      accounted.flagged unreported
    · exact .inl flag
    · exact .inr (.inl drain)
    · exact .inr (.inr (.inl sending))
    · exact .inr (.inr (.inr (.inl ended)))
    · exact absurd found before.1
    · exact absurd cleared before.2.1
    · exact absurd flushes before.2.2

theorem Accounted.flush (accounted : state.Accounted) (alone : ¬state.Drains ∧ ¬state.Sends)
    (succeeds : state.flush.Succeeds outcome) (moved : state.FlushMove outcome next) :
    next.Accounted := by
  have notFound : state.drain ≠ .found := fun found => alone.1 (.inr (.inl found))
  have notFlagged : state.drain ≠ .flagged := fun flagged => alone.1 (.inr (.inr flagged))
  have notSending : state.loop ≠ .sending := fun sending => alone.2 (.inl sending)
  have notSent : state.loop ≠ .sent := fun sent => alone.2 (.inr sent)
  cases moved with
  | again interrupted count stands =>
      exact accounted.away _ (by simp [stands]) (.inr ⟨_, _, rfl⟩)
  | leave count stands => exact accounted.away _ (by simp [stands]) (.inl rfl)
  | drain count stands out tries =>
      have drained : state.transmitted = state.accepted := by
        rw [stands] at succeeds
        obtain succeeded | ⟨eintr, more⟩ := succeeds
        · exact out succeeded
        · have last := tries eintr
          omega
      refine { accounted with
        drains := fun drains => absurd drains alone.1
        sends := fun sends => absurd sends alone.2
        out := fun _ => drained
        found := ?_
        flagged := ?_ }
      · rintro (found | flagged | flush)
        · exact absurd found notFound
        · exact absurd flagged notFlagged
        · cases flush
      · intro unreported
        obtain flag | drain | sending | ended | others := accounted.flagged unreported
        · exact .inl flag
        · exact absurd drain notFound
        · exact absurd sending notSending
        · exact .inr (.inr (.inr (.inl ended)))
        · simp [stands] at others
  | find stands marked =>
      have out := accounted.out (.inr stands)
      exact { accounted with
        drains := fun drains => absurd drains alone.1
        sends := fun sends => absurd sends alone.2
        takenLevel := Nat.le_trans accounted.level (Nat.le_of_eq out.symm)
        out := fun _ => out
        marked := fun unmarked => absurd rfl unmarked
        found := fun _ => rfl
        flagged := fun _ => .inr (.inr (.inr (.inr (.inl rfl))))
        sent := fun sent => absurd sent notSent }
  | skip stands unmarked =>
      refine { accounted with
        drains := fun drains => absurd drains alone.1
        sends := fun sends => absurd sends alone.2
        out := fun _ => accounted.out (.inr stands)
        found := ?_
        flagged := fun _ => .inr (.inr (.inr (.inr (.inr (.inr rfl))))) }
      rintro (found | flagged | flush)
      · exact absurd found notFound
      · exact absurd flagged notFlagged
      · cases flush
  | clear stands =>
      have found := accounted.found (.inr (.inr stands))
      refine { accounted with
        drains := fun drains => absurd drains alone.1
        sends := fun sends => absurd sends alone.2
        out := ?_
        marked := fun unmarked => absurd found unmarked
        found := fun _ => found
        flagged := fun _ => .inr (.inr (.inr (.inr (.inr (.inl rfl))))) }
      rintro (drain | flush)
      · exact accounted.out (.inl drain)
      · cases flush
  | unflag stands =>
      refine { accounted with
        drains := fun drains => absurd drains alone.1
        sends := fun sends => absurd sends alone.2
        out := ?_
        found := ?_
        flagged := fun _ => .inr (.inr (.inr (.inr (.inr (.inr rfl))))) }
      · rintro (drain | flush)
        · exact accounted.out (.inl drain)
        · cases flush
      · rintro (found | flagged | flush)
        · exact absurd found notFound
        · exact absurd flagged notFlagged
        · cases flush
  | send stands =>
      refine { accounted with
        drains := fun drains => absurd drains alone.1
        sends := fun sends => absurd sends alone.2
        out := ?_
        found := ?_
        flagged := fun unreported => absurd rfl unreported
        sent := fun _ => rfl }
      · rintro (drain | flush)
        · exact accounted.out (.inl drain)
        · cases flush
      · rintro (found | flagged | flush)
        · exact absurd found notFound
        · exact absurd flagged notFlagged
        · cases flush

/-- A write comes while nothing depends on there being none. -/
theorem Accounted.write (accounted : state.Accounted)
    (alone : ¬state.Drains ∧ ¬state.Sends ∧ ¬state.Flushes) (unmarked : Nat) :
    Accounted { state with accepted := state.accepted + 1, unmarked } := by
  refine { accounted with
    transmitted := Nat.le_succ_of_le accounted.transmitted
    level := Nat.le_succ_of_le accounted.level
    out := ?_ }
  rintro (drain | flush)
  · exact absurd (.inl drain) alone.1
  · exact absurd (.inl flush) alone.2.2

theorem Accounted.mark (accounted : state.Accounted)
    (alone : ¬state.Drains ∧ ¬state.Sends ∧ ¬state.Flushes) (unmarked marks : Nat) :
    Accounted { state with unmarked, writing := true, marks, level := state.accepted } := by
  refine { accounted with
    level := Nat.le_refl _
    marked := fun _ => rfl
    found := ?_ }
  rintro (found | flagged | flush)
  · exact absurd (.inr (.inl found)) alone.1
  · exact absurd (.inr (.inr flagged)) alone.1
  · exact absurd (.inr (.inl flush)) alone.2.2

theorem Accounted.transmit (accounted : state.Accounted)
    (more : state.transmitted < state.accepted) :
    Accounted { state with transmitted := state.transmitted + 1 } :=
  { accounted with
    transmitted := more
    takenLevel := Nat.le_succ_of_le accounted.takenLevel
    out := fun drained => absurd (accounted.out drained) (Nat.ne_of_lt more) }

theorem Accounted.step (accounted : state.Accounted) (alone : state.OneAtATime label)
    (stepped : state.step label = some next) : next.Accounted := by
  cases label with
  | drain outcome => exact accounted.drain alone (.of_step stepped)
  | loop => exact accounted.loop alone (.of_step stepped)
  | flush outcome => exact accounted.flush ⟨alone.1, alone.2.1⟩ alone.2.2 (.of_step stepped)
  | write interrupted =>
      obtain rfl := Option.some.inj stepped
      exact accounted.write alone _
  | mark =>
      simp only [DrainState.step] at stepped
      split at stepped
      next => simp at stepped
      next =>
        obtain rfl := Option.some.inj stepped
        exact accounted.mark alone _ _
  | transmit =>
      simp only [DrainState.step] at stepped
      split at stepped
      next more =>
        obtain rfl := Option.some.inj stepped
        exact accounted.transmit more
      next => simp at stepped
  | nativeDrain interrupted =>
      simp only [DrainState.step] at stepped
      split at stepped
      next idle =>
        obtain rfl := Option.some.inj stepped
        exact accounted.away _ (by simp [idle]) (.inr ⟨_, _, rfl⟩)
      next => simp at stepped
  | cancel =>
      simp only [DrainState.step] at stepped
      split at stepped
      next =>
        obtain rfl := Option.some.inj stepped
        exact { accounted with }
      next => simp at stepped
  | notifyOnOutputEmpty enable | interruptEventLoop =>
      obtain rfl := Option.some.inj stepped
      exact { accounted with }

/-- If the threads do not overlap, an event is sent, or `nativeDrain` returns, only when all
that had been written at the last mark before is out; and when the threads are done with the
marks and the event loop has not ended, none is left that has not been followed by one of
these. -/
theorem marks_reported (reached : drainSystem.ReachedBy OneAtATime state) :
    state.takenLevel ≤ state.transmitted ∧
      (state.writing = false → state.outputBufferEmptyFlag = false → ¬state.Drains →
        ¬state.Sends → ¬state.Flushes → state.loop ≠ .ended → state.marks = state.reported) := by
  have accounted : state.Accounted := by
    refine reached.invariant (fun _ started => ?_)
      fun _ _ _ accounted alone stepped => accounted.step alone stepped
    obtain rfl : _ = initialised := started
    constructor <;> decide
  refine ⟨accounted.takenLevel, ?_⟩
  intro unwritten unflagged notDrains notSends notFlushes running
  have taken : state.marks = state.taken := by
    by_contra unmarked
    simp [accounted.marked unmarked] at unwritten
  rw [taken]
  by_contra unreported
  obtain flag | drain | sending | ended | found | cleared | flushes := accounted.flagged unreported
  · simp [flag] at unflagged
  · exact notDrains (.inr (.inl drain))
  · exact notSends (.inl sending)
  · exact running ended
  · exact notFlushes (.inr (.inl found))
  · exact notFlushes (.inr (.inr (.inl cleared)))
  · exact notFlushes (.inr (.inr (.inr flushes)))

/-- A write is followed by an event, and another one by a call of `nativeDrain` that is
interrupted once. -/
theorem marks_reported_two :
    ∃ state, drainSystem.ReachedBy OneAtATime state ∧ state.sent = 1 ∧ state.flushed = 1 ∧
      state.marks = 2 ∧ state.marks = state.reported := by
  have reached : drainSystem.ReachedBy OneAtATime _ :=
    (System.ReachedBy.start rfl).runAllowed
      ([.notifyOnOutputEmpty true] ++ writes ++ List.replicate 6 (.drain .succeeds) ++
        List.replicate 4 .loop ++ writes ++ [.nativeDrain false, .flush .eintr] ++
        List.replicate 5 (.flush .succeeds)) rfl
  exact ⟨_, reached, rfl, rfl, rfl, (marks_reported reached).2 rfl rfl (by decide) (by decide)
    (by decide) (by decide)⟩

end Accounts

end DrainState

end Jrxtx.SerialImp.DrainLoop
