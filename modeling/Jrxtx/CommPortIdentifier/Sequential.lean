import Jrxtx.CommPortIdentifier.Open

/-!
# Opening an identifier in one thread

`open(TheOwner, i)` and `fireOwnershipEvent` as functions, for callers that the
other threads leave alone meanwhile.  A run of the concurrent model in which no
other thread takes part computes the same.
-/

namespace Jrxtx.CommPortIdentifier

open Jrxtx.CommPortIdentifier.Open

/-- What `open()` ends with. -/
inductive OpenResult where
  | returned (port : PortRef)
  | portInUse
  | threw
  deriving DecidableEq, Repr

/-- `fireOwnershipEvent(eventType)`: the listeners called, and whether one of
them threw.  The listener at the index `throwsAt` throws, which ends the walk. -/
def fireOwnershipEvent (self : CommPortIdentifier) (eventType : OwnershipEvent)
    (throwsAt : Option Nat) : List (ListenerRef × OwnershipEvent) × Bool :=
  match throwsAt with
  | none => (self.listeners.map (·, eventType), false)
  | some index =>
      ((self.listeners.take (index + 1)).map (·, eventType),
        decide (index < self.listeners.length))

/-- `if (commport == null) commport = RXTXDriver.getCommPort(PortName, PortType)`;
`none` if the driver throws. -/
def openDriver (self : CommPortIdentifier) (outcome : DriverOutcome)
    (freshPort : PortRef) : Option CommPortIdentifier :=
  match self.commport, outcome with
  | some _, _ => some self
  | none, .opened => some { self with commport := some freshPort }
  | none, .null => some self
  | none, .threw => none

/-- The `finally` clause of `open()`. -/
def finallyUnown (self : CommPortIdentifier) : CommPortIdentifier :=
  if self.commport = none then self.unown else self

/-- What `open()` leaves behind: the identifier, how the call ended and the
events it sent to listeners. -/
structure Opening where
  ident : CommPortIdentifier
  result : OpenResult
  sent : List (ListenerRef × OwnershipEvent)

/-- The `try` statement of `open()`, once the caller owns the identifier. -/
def openOwned (self : CommPortIdentifier) (outcome : DriverOutcome) (freshPort : PortRef)
    (throwsAt : Option Nat) : Opening :=
  match self.openDriver outcome freshPort with
  | none => ⟨self.finallyUnown, .threw, []⟩
  | some self =>
      match self.commport with
      | none => ⟨self.finallyUnown, .portInUse, []⟩
      | some port =>
          let events := self.fireOwnershipEvent .portOwned throwsAt
          ⟨self.finallyUnown, if events.2 then .threw else .returned port, events.1⟩

section OpenOwned

variable {self : CommPortIdentifier} (unset : self.commport = none)
include unset

/-- Without a port yet, an opening driver's port stays with the identifier, even
if a listener throws; otherwise the identifier is given up. -/
theorem openOwned_ident (outcome : DriverOutcome) (freshPort : PortRef)
    (throwsAt : Option Nat) :
    (self.openOwned outcome freshPort throwsAt).ident =
      if outcome = .opened then { self with commport := some freshPort } else self.unown := by
  cases outcome <;> simp [openOwned, openDriver, finallyUnown, unset]

/-- A returned port is the one that the driver has just opened. -/
theorem openOwned_returned {outcome : DriverOutcome} {freshPort port : PortRef}
    {throwsAt : Option Nat}
    (returned : (self.openOwned outcome freshPort throwsAt).result = .returned port) :
    outcome = .opened ∧ port = freshPort := by
  cases outcome with
  | opened =>
      simp only [openOwned, openDriver, unset] at returned
      split at returned
      · simp at returned
      · simpa using returned.symm
  | null => simp [openOwned, openDriver, unset] at returned
  | threw => simp [openOwned, openDriver, unset] at returned

end OpenOwned

/-! ## Solo runs of the concurrent model -/

section Solo

variable {Tid : Type*} [DecidableEq Tid]

/-- The thread gets from one state to another while the other threads rest. -/
inductive Solo (tid : Tid) : State Tid → State Tid → Prop where
  | refl (state : State Tid) : Solo tid state state
  | step {state final : State Tid} (action : Action) (next : State Tid) :
      state.stepThread tid action = some next → Solo tid next final → Solo tid state final

/-- Where a thread is after `open()`. -/
def OpenResult.pc : OpenResult → Pc
  | .returned port => .holding port
  | .portInUse | .threw => .idle

variable {tid : Tid} {state : State Tid}

@[simp] theorem goto_pc (pc : Pc) : (state.goto tid pc).pc tid = pc := by
  simp [State.goto]

@[simp] theorem goto_ident (pc : Pc) : (state.goto tid pc).ident = state.ident := rfl

@[simp] theorem goto_goto (first second : Pc) :
    (state.goto tid first).goto tid second = state.goto tid second := by
  simp [State.goto]

/-- The statements after the port has been opened, from a listener index on. -/
theorem solo_owned {port : PortRef} (opened : state.ident.commport = some port)
    (throwsAt : Option Nat) {index rest : Nat}
    (left : state.ident.listeners.length = index + rest)
    (ahead : ∀ other, throwsAt = some other → index ≤ other) :
    Solo tid (state.goto tid (.owned index))
      (state.goto tid (if (state.ident.fireOwnershipEvent .portOwned throwsAt).2 then .idle
        else .holding port)) := by
  induction rest generalizing index with
  | zero =>
      have quiet : (state.ident.fireOwnershipEvent .portOwned throwsAt).2 = false := by
        cases throwsAt with
        | none => rfl
        | some other =>
            have late := ahead other rfl
            simp [fireOwnershipEvent]
            omega
      rw [quiet]
      refine .step .advance (state.goto tid .returning) ?_ ?_
      · simp [State.stepThread, State.fire, left]
      refine .step .advance (state.goto tid (.cleanup (.returned (some port)))) ?_ ?_
      · simp [State.stepThread, opened]
      refine .step .advance (state.goto tid (.holding port)) ?_ (.refl _)
      simp [State.stepThread, opened, Pc.resume]
  | succ rest ih =>
      have more : index < state.ident.listeners.length := by omega
      by_cases throws : throwsAt = some index
      · have loud : (state.ident.fireOwnershipEvent .portOwned throwsAt).2 = true := by
          simp [fireOwnershipEvent, throws, more]
        rw [loud]
        refine .step (.callback true) (state.goto tid (.cleanup .threw)) ?_ ?_
        · simp [State.stepThread, State.fire]
        refine .step .advance (state.goto tid .idle) ?_ (.refl _)
        simp [State.stepThread, opened, Pc.resume]
      · refine .step (.callback false) (state.goto tid (.owned (index + 1))) ?_ ?_
        · simp [State.stepThread, State.fire, more]
        apply ih
        · omega
        · intro other isOther
          have after := ahead other isOther
          have distinct : other ≠ index := by
            rintro rfl
            exact throws isOther
          omega

/-- The `finally` clause without a port. -/
theorem solo_giveUp (unset : state.ident.commport = none) :
    Solo tid (state.goto tid (.cleanup .threw))
      (({ state with ident := state.ident.unown, holder := none } : State Tid).goto tid .idle) := by
  refine .step .advance (state.goto tid (.unown .threw)) ?_ (.step .advance _ ?_ (.refl _))
  · simp [State.stepThread, unset]
  · simp [State.stepThread, State.goto, Pc.resume]

/-- The `try` statement of an owner without a port. -/
theorem solo_openOwned (unset : state.ident.commport = none) (outcome : DriverOutcome)
    (throwsAt : Option Nat) :
    ∃ final : State Tid,
      Solo tid (state.goto tid .getCommPort)
        (final.goto tid (state.ident.openOwned outcome state.freshPort throwsAt).result.pc) ∧
      final.ident = (state.ident.openOwned outcome state.freshPort throwsAt).ident ∧
      final.pc = state.pc := by
  rw [openOwned_ident unset]
  cases outcome with
  | opened =>
      let opened : State Tid :=
        { state with
          freshPort := state.freshPort + 1
          ident := { state.ident with commport := some state.freshPort } }
      have walk : Solo tid (opened.goto tid (.owned 0)) (opened.goto tid
          (if (opened.ident.fireOwnershipEvent .portOwned throwsAt).2 then .idle
            else .holding state.freshPort)) :=
        solo_owned rfl throwsAt (Nat.zero_add _).symm fun _ _ => Nat.zero_le _
      have ends : (state.ident.openOwned .opened state.freshPort throwsAt).result.pc =
          if (opened.ident.fireOwnershipEvent .portOwned throwsAt).2 then .idle
            else .holding state.freshPort := by
        simp only [openOwned, openDriver, unset, opened]
        split <;> rfl
      refine ⟨opened, ?_, rfl, rfl⟩
      rw [ends]
      refine .step (.driver .opened)
        { state.goto tid (.assign (some state.freshPort)) with freshPort := state.freshPort + 1 } ?_
        (.step .advance (opened.goto tid .testOpened) ?_
          (.step .advance (opened.goto tid (.owned 0)) ?_ walk))
      · simp [State.stepThread, State.goto]
      · simp [State.stepThread, State.goto, opened]
      · simp [State.stepThread, opened]
  | null =>
      have ends : (state.ident.openOwned .null state.freshPort throwsAt).result.pc = .idle := by
        simp only [openOwned, openDriver, unset, OpenResult.pc]
      rw [ends]
      refine ⟨_, .step (.driver .null) (state.goto tid (.assign none)) ?_
        (.step .advance (state.goto tid .testOpened) ?_
          (.step .advance (state.goto tid .reportOwner) ?_
            (.step .advance _ ?_ (solo_giveUp unset)))), rfl, rfl⟩
      · simp [State.stepThread]
      · simp [State.stepThread, State.goto, ← unset]
      · simp [State.stepThread, unset]
      · simp [State.stepThread]
  | threw =>
      have ends : (state.ident.openOwned .threw state.freshPort throwsAt).result.pc = .idle := by
        simp only [openOwned, openDriver, unset, OpenResult.pc]
      rw [ends]
      refine ⟨_, .step (.driver .threw) _ ?_ (solo_giveUp unset), rfl, rfl⟩
      simp [State.stepThread]

/-- `open()` of an available identifier, run by one thread alone, does to the
identifier what the function says, and ends as it says. -/
theorem solo_open {theOwner : String} (ready : state.pc tid = .acquire theOwner)
    (free : state.ident.available = true) (unset : state.ident.commport = none)
    (outcome : DriverOutcome) (throwsAt : Option Nat) :
    ∃ final, Solo tid state final ∧
      final.ident = ((state.ident.assumeOwnership theOwner).openOwned outcome state.freshPort
        throwsAt).ident ∧
      final.pc tid = ((state.ident.assumeOwnership theOwner).openOwned outcome state.freshPort
        throwsAt).result.pc ∧
      ∀ other, other ≠ tid → final.pc other = state.pc other := by
  let taken : State Tid :=
    { state with ident := state.ident.assumeOwnership theOwner, holder := some tid }
  have unsetTaken : taken.ident.commport = none := unset
  obtain ⟨final, (rest : Solo tid _ _), ident, pcs⟩ := solo_openOwned unsetTaken outcome throwsAt
  refine ⟨_, .step .advance (taken.goto tid .testCommport) ?_
    (.step .advance (taken.goto tid .getCommPort) ?_ rest), ident, goto_pc _, ?_⟩
  · simp [State.stepThread, ready, free, State.take, State.goto, taken]
  · simp [State.stepThread, unsetTaken]
  · intro other distinct
    simp [State.goto, distinct, pcs, taken]

end Solo

end Jrxtx.CommPortIdentifier
