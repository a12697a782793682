import Jrxtx.CommPortIdentifier.Open
import Jrxtx.Transition.Exclusive

/-!
# Ownership of an identifier

Every step of a client leaves the ownership of the identifier alone, takes it,
stores the port of the owner or gives the ownership up.  `Effect` says which,
and mutual exclusion follows from it by one invariant over all threads.  The
identifier refines the abstract exclusive resource, with `holder` as its state.
-/

namespace Jrxtx.CommPortIdentifier.Open

open Jrxtx.Transition

variable {Tid : Type*} [DecidableEq Tid]

/-- What the field `commport` contains when a thread is about to execute a
statement.  Threads that do not own the identifier know nothing about it. -/
def Pc.CommportAt (commport : Option PortRef) : Pc → Prop
  | .testCommport | .getCommPort | .assign _ | .reportOwner => commport = none
  | .owned _ | .returning => commport ≠ none
  | .cleanup (.returned port) => port ≠ none ∧ commport = port
  | .unown exit => commport = none ∧ exit = .threw
  | .holding port | .lookup port | .relookup port | .internalClosePort port =>
      commport = some port
  | _ => True

theorem Pc.commportAt_of_not_owning {pc : Pc} (free : pc.owning = false)
    (commport : Option PortRef) : pc.CommportAt commport := by
  cases pc <;> trivial

@[simp] theorem Pc.commportAt_notify (pc : Pc) (commport : Option PortRef) :
    pc.notify.CommportAt commport ↔ pc.CommportAt commport := by
  cases pc <;> rfl

/-- The fields that ownership is about keep their values. -/
structure SameOwnership (before after : CommPortIdentifier) : Prop where
  available : after.available = before.available
  owner : after.owner = before.owner
  commport : after.commport = before.commport

theorem SameOwnership.refl (ident : CommPortIdentifier) :
    SameOwnership ident ident := ⟨rfl, rfl, rfl⟩

/-- All that one step of thread `tid` can do to the ownership. -/
inductive Effect (state : State Tid) (tid : Tid) (next : State Tid) : Prop where
  | moved (pc : Pc)
      (ident : SameOwnership state.ident next.ident)
      (pcs : next.pc = Function.update state.pc tid pc)
      (holder : next.holder = state.holder)
      (owning : pc.owning = true → (state.pc tid).owning = true)
      (commport : pc.CommportAt state.ident.commport)
  | took (theOwner : String)
      (free : state.ident.available = true)
      (ident : next.ident = state.ident.assumeOwnership theOwner)
      (pcs : next.pc = Function.update state.pc tid .testCommport)
      (holder : next.holder = some tid)
  | assigned (result : Option PortRef)
      (owning : (state.pc tid).owning = true)
      (ident : next.ident = { state.ident with commport := result })
      (pcs : next.pc = Function.update state.pc tid .testOpened)
      (holder : next.holder = state.holder)
  | released (pc : Pc) (others : Tid → Pc)
      (owning : (state.pc tid).owning = true)
      (available : next.ident.available = true)
      (owner : next.ident.owner = none)
      (commport : next.ident.commport = none)
      (same : ∀ other, others other = state.pc other ∨
        others other = (state.pc other).notify)
      (pcs : next.pc = Function.update others tid pc)
      (left : pc.owning = false)
      (holder : next.holder = none)

theorem Effect.goto {state : State Tid} {tid : Tid} {pc : Pc}
    (owning : pc.owning = true → (state.pc tid).owning = true)
    (commport : pc.CommportAt state.ident.commport) :
    Effect state tid (state.goto tid pc) :=
  .moved pc (.refl _) rfl rfl owning commport

/-- A thread that does not own the identifier says nothing about `commport`. -/
theorem Effect.leave {state : State Tid} {tid : Tid} {pc : Pc} (outside : pc.owning = false) :
    Effect state tid (state.goto tid pc) :=
  .goto (fun owning => absurd (outside.symm.trans owning) Bool.false_ne_true)
    (Pc.commportAt_of_not_owning outside _)

/-- A round of `fireOwnershipEvent` only moves the thread. -/
theorem fire_eq_goto {state next : State Tid} {tid : Tid} {index : Nat}
    {following : Nat → Pc} {done aborted : Pc} {action : Action}
    (fired : state.fire tid index following done aborted action = some next) :
    ∃ pc, next = state.goto tid pc ∧
      (pc = following (index + 1) ∨ pc = done ∨ pc = aborted) := by
  cases action with
  | callback throws =>
      cases throws with
      | true => exact ⟨aborted, by simpa [State.fire] using fired.symm, .inr (.inr rfl)⟩
      | false =>
          simp only [State.fire] at fired
          split at fired
          · exact ⟨_, by simpa using fired.symm, .inl rfl⟩
          · simp at fired
  | advance =>
      simp only [State.fire] at fired
      split at fired
      · simp at fired
      · exact ⟨_, by simpa using fired.symm, .inr (.inl rfl)⟩
  | _ => simp [State.fire] at fired

/-- Inversion of a thread's step: what it did to the ownership. -/
theorem effect_of_stepThread {state next : State Tid} {tid : Tid} {action : Action}
    (agrees : (state.pc tid).CommportAt state.ident.commport)
    (stepped : state.stepThread tid action = some next) : Effect state tid next := by
  cases atPc : state.pc tid with
  | idle =>
      cases action <;>
        simp only [State.stepThread, atPc, reduceCtorEq, Option.some.injEq] at stepped
      exact stepped ▸ .leave rfl
  | acquire theOwner =>
      cases action <;> simp only [State.stepThread, atPc, reduceCtorEq] at stepped
      split at stepped <;> simp only [Option.some.injEq] at stepped
      next free => exact stepped ▸ .took theOwner free rfl rfl rfl
      next => exact stepped ▸ .leave rfl
  | requesting theOwner index =>
      simp only [State.stepThread, atPc] at stepped
      obtain ⟨pc, rfl, rfl | rfl | rfl⟩ := fire_eq_goto stepped
      all_goals exact .leave rfl
  | contend theOwner =>
      cases action <;> simp only [State.stepThread, atPc, reduceCtorEq] at stepped
      split at stepped
      next free =>
        simp only [Option.some.injEq] at stepped
        exact stepped ▸ .took theOwner free rfl rfl rfl
      next =>
        split at stepped <;> simp only [Option.some.injEq] at stepped
        all_goals exact stepped ▸ .leave rfl
  | waiting theOwner notified =>
      cases action <;>
        simp only [State.stepThread, atPc, reduceCtorEq, Option.some.injEq] at stepped
      exact stepped ▸ .leave rfl
  | refused =>
      cases action <;>
        simp only [State.stepThread, atPc, reduceCtorEq, Option.some.injEq] at stepped
      exact stepped ▸ .leave rfl
  | testCommport =>
      cases action <;> simp only [State.stepThread, atPc, reduceCtorEq] at stepped
      split at stepped <;> simp only [Option.some.injEq] at stepped
      next unset => exact stepped ▸ .goto (by simp [atPc, Pc.owning]) unset
      next => exact stepped ▸ .goto (by simp [atPc, Pc.owning]) trivial
  | getCommPort =>
      have unset : state.ident.commport = none := by simpa [atPc, Pc.CommportAt] using agrees
      cases action <;> simp only [State.stepThread, atPc, reduceCtorEq] at stepped
      next outcome =>
        cases outcome <;> simp only [Option.some.injEq] at stepped
        · exact stepped ▸ .moved _ (.refl _) rfl rfl (by simp [atPc, Pc.owning]) unset
        · exact stepped ▸ .goto (by simp [atPc, Pc.owning]) unset
        · exact stepped ▸ .goto (by simp [atPc, Pc.owning]) trivial
  | assign result =>
      cases action <;>
        simp only [State.stepThread, atPc, reduceCtorEq, Option.some.injEq] at stepped
      exact stepped ▸ .assigned result (by simp [atPc, Pc.owning]) rfl rfl rfl
  | testOpened =>
      cases action <;> simp only [State.stepThread, atPc, reduceCtorEq] at stepped
      split at stepped <;> simp only [Option.some.injEq] at stepped
      next unset => exact stepped ▸ .goto (by simp [atPc, Pc.owning]) unset
      next opened => exact stepped ▸ .goto (by simp [atPc, Pc.owning]) opened
  | owned index =>
      have opened : state.ident.commport ≠ none := by
        simpa [atPc, Pc.CommportAt] using agrees
      simp only [State.stepThread, atPc] at stepped
      obtain ⟨pc, rfl, rfl | rfl | rfl⟩ := fire_eq_goto stepped
      · exact .goto (by simp [atPc, Pc.owning]) opened
      · exact .goto (by simp [atPc, Pc.owning]) opened
      · exact .goto (by simp [atPc, Pc.owning]) trivial
  | returning =>
      have opened : state.ident.commport ≠ none := by
        simpa [atPc, Pc.CommportAt] using agrees
      cases action <;>
        simp only [State.stepThread, atPc, reduceCtorEq, Option.some.injEq] at stepped
      exact stepped ▸ .goto (by simp [atPc, Pc.owning]) ⟨opened, rfl⟩
  | reportOwner =>
      cases action <;>
        simp only [State.stepThread, atPc, reduceCtorEq, Option.some.injEq] at stepped
      exact stepped ▸ .goto (by simp [atPc, Pc.owning]) trivial
  | cleanup exit =>
      cases action <;> simp only [State.stepThread, atPc, reduceCtorEq] at stepped
      split at stepped <;> simp only [Option.some.injEq] at stepped
      next unset =>
        -- a `return` has just read a non-null `commport`, so only an exception gets here
        cases exit with
        | threw => exact stepped ▸ .goto (by simp [atPc, Pc.owning]) ⟨unset, rfl⟩
        | returned port =>
            obtain ⟨opened, same⟩ : port ≠ none ∧ state.ident.commport = port := by
              simpa [atPc, Pc.CommportAt] using agrees
            exact absurd (same.symm.trans unset) opened
      next =>
        cases exit with
        | threw => exact stepped ▸ .leave rfl
        | returned port =>
            obtain ⟨opened, same⟩ : port ≠ none ∧ state.ident.commport = port := by
              simpa [atPc, Pc.CommportAt] using agrees
            cases port with
            | none => exact absurd rfl opened
            | some port => exact stepped ▸ .goto (by simp [atPc, Pc.owning]) same
  | unown exit =>
      obtain ⟨unset, rfl⟩ : state.ident.commport = none ∧ exit = .threw := by
        simpa [atPc, Pc.CommportAt] using agrees
      cases action <;>
        simp only [State.stepThread, atPc, reduceCtorEq, Option.some.injEq] at stepped
      exact stepped ▸ .released .idle state.pc (by simp [atPc, Pc.owning]) rfl rfl unset
        (fun _ => .inl rfl) rfl rfl rfl
  | holding port =>
      have current : state.ident.commport = some port := by
        simpa [atPc, Pc.CommportAt] using agrees
      cases action <;>
        simp only [State.stepThread, atPc, reduceCtorEq, Option.some.injEq] at stepped
      exact stepped ▸ .goto (by simp [atPc, Pc.owning]) current
  | lookup port =>
      have current : state.ident.commport = some port := by
        simpa [atPc, Pc.CommportAt] using agrees
      cases action <;> simp only [State.stepThread, atPc, reduceCtorEq] at stepped
      split at stepped <;> simp only [Option.some.injEq] at stepped
      · exact stepped ▸ .goto (by simp [atPc, Pc.owning]) current
      · exact stepped ▸ .leave rfl
  | relookup port =>
      have current : state.ident.commport = some port := by
        simpa [atPc, Pc.CommportAt] using agrees
      cases action <;> simp only [State.stepThread, atPc, reduceCtorEq] at stepped
      split at stepped <;> simp only [Option.some.injEq] at stepped
      · exact stepped ▸ .goto (by simp [atPc, Pc.owning]) current
      · exact stepped ▸ .leave rfl
  | internalClosePort port =>
      cases action <;>
        simp only [State.stepThread, atPc, reduceCtorEq, Option.some.injEq] at stepped
      exact stepped ▸ .released (.unowned 0) (fun other => (state.pc other).notify)
        (by simp [atPc, Pc.owning]) rfl rfl rfl (fun _ => .inr rfl) rfl rfl rfl
  | unowned index =>
      simp only [State.stepThread, atPc] at stepped
      obtain ⟨pc, rfl, rfl | rfl | rfl⟩ := fire_eq_goto stepped
      all_goals exact .leave rfl

/-! ## The invariant over all threads -/

/-- Ownership as the fields, the ghost holder and the threads see it. -/
structure Invariant (state : State Tid) : Prop where
  owner : state.ident.available = true ↔ state.ident.owner = none
  holder : state.ident.available = true ↔ state.holder = none
  owning : ∀ tid, (state.pc tid).owning = true → state.holder = some tid
  unset : state.ident.available = true → state.ident.commport = none
  commportAt : ∀ tid, (state.pc tid).CommportAt state.ident.commport

omit [DecidableEq Tid] in
theorem invariant_initial {state : State Tid} (initial : Initial state) :
    Invariant state where
  owner := by simp [initial.available, initial.owner]
  holder := by simp [initial.available, initial.holder]
  owning := by simp [initial.idle, Pc.owning]
  unset := fun _ => initial.commport
  commportAt := fun tid => by simp [initial.idle, Pc.CommportAt]

omit [DecidableEq Tid] in
/-- While one thread owns the identifier, the others do not. -/
theorem Invariant.not_owning {state : State Tid} (inv : Invariant state)
    {tid other : Tid} (owning : (state.pc tid).owning = true) (distinct : other ≠ tid) :
    (state.pc other).owning = false := by
  by_contra otherOwning
  have held := inv.owning tid owning
  have otherHeld := inv.owning other (by simpa using otherOwning)
  exact distinct (Option.some.inj (otherHeld.symm.trans held))

omit [DecidableEq Tid] in
theorem Invariant.not_available {state : State Tid} (inv : Invariant state)
    {tid : Tid} (held : state.holder = some tid) : state.ident.available = false := by
  by_contra free
  have unheld := inv.holder.mp (by simpa using free)
  exact absurd (held.symm.trans unheld) (by simp)

theorem Invariant.effect {state next : State Tid} {tid : Tid} (inv : Invariant state)
    (effect : Effect state tid next) : Invariant next := by
  cases effect with
  | moved pc ident pcs holder owning commport =>
      refine ⟨?_, ?_, ?_, ?_, ?_⟩
      · rw [ident.available, ident.owner]; exact inv.owner
      · rw [ident.available, holder]; exact inv.holder
      · intro other otherOwning
        rw [holder]
        rcases eq_or_ne other tid with rfl | distinct
        · exact inv.owning other (owning (by simpa [pcs] using otherOwning))
        · exact inv.owning other (by simpa [pcs, distinct] using otherOwning)
      · rw [ident.available, ident.commport]; exact inv.unset
      · intro other
        rw [ident.commport]
        rcases eq_or_ne other tid with rfl | distinct
        · simpa [pcs] using commport
        · simpa [pcs, distinct] using inv.commportAt other
  | took theOwner free ident pcs holder =>
      have unheld := inv.holder.mp free
      refine ⟨by simp [ident], by simp [ident, holder], ?_, by simp [ident], ?_⟩
      · intro other otherOwning
        rcases eq_or_ne other tid with rfl | distinct
        · exact holder
        · have before := inv.owning other (by simpa [pcs, distinct] using otherOwning)
          exact absurd (unheld.symm.trans before) (by simp)
      · intro other
        rcases eq_or_ne other tid with rfl | distinct
        · simpa [pcs, ident, Pc.CommportAt] using inv.unset free
        · simpa [pcs, distinct, ident] using inv.commportAt other
  | assigned result owning ident pcs holder =>
      have held := inv.owning tid owning
      have taken := inv.not_available held
      refine ⟨by simpa [ident] using inv.owner, by simpa [ident, holder] using inv.holder,
        ?_, by simp [ident, taken], ?_⟩
      · intro other otherOwning
        rw [holder]
        rcases eq_or_ne other tid with rfl | distinct
        · exact held
        · exact inv.owning other (by simpa [pcs, distinct] using otherOwning)
      · intro other
        rcases eq_or_ne other tid with rfl | distinct
        · simp [pcs, Pc.CommportAt]
        · have free := inv.not_owning owning distinct
          simpa [pcs, distinct] using Pc.commportAt_of_not_owning free _
  | released pc others owning available owner commport same pcs left holder =>
      have free : ∀ other, (next.pc other).owning = false := by
        intro other
        rcases eq_or_ne other tid with rfl | distinct
        · simpa [pcs] using left
        · have before := inv.not_owning owning distinct
          rcases same other with equal | notified
          · simpa [pcs, distinct, equal] using before
          · simpa [pcs, distinct, notified] using before
      exact ⟨by simp [available, owner], by simp [available, holder],
        fun other otherOwning => by simp [free other] at otherOwning,
        fun _ => commport, fun other => Pc.commportAt_of_not_owning (free other) _⟩

omit [DecidableEq Tid] in
/-- A change of the listener vector is invisible to the invariant. -/
theorem Invariant.congr {state next : State Tid} (inv : Invariant state)
    (ident : SameOwnership state.ident next.ident) (pcs : next.pc = state.pc)
    (holder : next.holder = state.holder) : Invariant next where
  owner := by rw [ident.available, ident.owner]; exact inv.owner
  holder := by rw [ident.available, holder]; exact inv.holder
  owning := by rw [pcs, holder]; exact inv.owning
  unset := by rw [ident.available, ident.commport]; exact inv.unset
  commportAt := by rw [pcs, ident.commport]; exact inv.commportAt

theorem invariant_step {state next : State Tid} {label : Label Tid}
    (inv : Invariant state) (stepped : (clients Tid).step state label = some next) :
    Invariant next := by
  cases label with
  | thread tid action => exact inv.effect (effect_of_stepThread (inv.commportAt tid) stepped)
  | addPortOwnershipListener c =>
      obtain rfl := Option.some.inj stepped
      exact inv.congr ⟨rfl, rfl, rfl⟩ rfl rfl
  | removePortOwnershipListener c =>
      obtain rfl := Option.some.inj stepped
      exact inv.congr ⟨rfl, rfl, rfl⟩ rfl rfl

theorem invariant_reachable {state : State Tid}
    (reachable : (clients Tid).Reachable state) : Invariant state :=
  reachable.invariant (fun _ => invariant_initial) fun _ _ _ => invariant_step

/-! ## Refinement and mutual exclusion -/

/-- A thread's step cannot touch the ownership that another thread holds. -/
theorem Invariant.frame {state next : State Tid} {tid other : Tid}
    (inv : Invariant state) (effect : Effect state tid next)
    (held : state.holder = some other) (distinct : other ≠ tid) :
    SameOwnership state.ident next.ident ∧ next.holder = some other := by
  have taken := inv.not_available held
  cases effect with
  | moved pc ident pcs holder => exact ⟨ident, holder.trans held⟩
  | took theOwner free => simp [taken] at free
  | assigned result owning | released pc others owning =>
      exact absurd (Option.some.inj (held.symm.trans (inv.owning tid owning))) distinct

/-- An event of the exclusive resource is a step of the thread it names. -/
def Performs (label : Label Tid) (event : ExclusiveEvent Tid) : Prop :=
  ∃ action, label = .thread event.agent action

/-- The identifier with its clients refines the exclusive resource. -/
theorem clients_refine_exclusive :
    Simulation (clients Tid) (exclusive Tid) State.holder Performs where
  start := fun _ initial => initial.holder
  step := by
    intro state label next reachable stepped
    have inv := invariant_reachable reachable
    cases label with
    | thread tid action =>
        have effect := effect_of_stepThread (inv.commportAt tid) stepped
        cases effect with
        | moved pc ident pcs holder => exact .inl holder
        | assigned result owning ident pcs holder => exact .inl holder
        | took theOwner free ident pcs holder =>
            refine .inr ⟨.acquire tid, ⟨action, rfl⟩, ?_⟩
            simp [exclusive, inv.holder.mp free, holder]
        | released pc others owning available owner commport same pcs left holder =>
            refine .inr ⟨.release tid, ⟨action, rfl⟩, ?_⟩
            simp [exclusive, inv.owning tid owning, holder]
    | addPortOwnershipListener c => exact .inl (by rw [← Option.some.inj stepped])
    | removePortOwnershipListener c => exact .inl (by rw [← Option.some.inj stepped])

/-- Who owns the identifier loses it only by a step of its own, and to nobody. -/
theorem holder_released {state next : State Tid} {label : Label Tid} {tid : Tid}
    (reachable : (clients Tid).Reachable state)
    (stepped : (clients Tid).step state label = some next)
    (held : state.holder = some tid) (lost : next.holder ≠ some tid) :
    (∃ action, label = .thread tid action) ∧ next.holder = none := by
  rcases clients_refine_exclusive.step state label next reachable stepped with
    same | ⟨event, performs, moved⟩
  · exact absurd (same.trans held) lost
  · rw [held] at moved
    obtain ⟨own, free⟩ := exclusive_step_agent moved
    exact ⟨own ▸ performs, free⟩

/-- Mutual exclusion of `open()`: two clients never hold ports at once, the
identifier is available exactly while nobody owns it, and no statement of one
thread's `open()` releases what another thread owns. -/
theorem open_mutual_exclusion {state : State Tid}
    (reachable : (clients Tid).Reachable state) :
    (∀ left right, (state.pc left).holdsPort = true →
      (state.pc right).holdsPort = true → left = right) ∧
    (state.ident.available = true ↔ state.ident.owner = none) ∧
    (state.ident.available = true ↔ ∀ tid, state.holder ≠ some tid) ∧
    (∀ tid, (state.pc tid).owning = true → state.holder = some tid) ∧
    (∀ tid action next other,
      (clients Tid).step state (.thread tid action) = some next →
      (state.pc tid).inOpen = true → state.holder = some other → other ≠ tid →
      next.ident.available = false ∧ next.ident.owner = state.ident.owner ∧
        next.holder = some other) := by
  have inv := invariant_reachable reachable
  refine ⟨?_, inv.owner, ?_, inv.owning, ?_⟩
  · intro left right leftHolds rightHolds
    have leftHeld := inv.owning left (Pc.owning_of_holdsPort leftHolds)
    have rightHeld := inv.owning right (Pc.owning_of_holdsPort rightHolds)
    exact Option.some.inj (leftHeld.symm.trans rightHeld)
  · rw [inv.holder, Option.eq_none_iff_forall_ne_some]
  · intro tid action next other stepped _ held distinct
    have effect := effect_of_stepThread (inv.commportAt tid) stepped
    obtain ⟨ident, stillHeld⟩ := inv.frame effect held distinct
    exact ⟨ident.available.trans (inv.not_available held), ident.owner, stillHeld⟩

/-- One client opens the port while another one waits for it and a third is
refused; the holder is the only one with a port. -/
theorem open_mutual_exclusion_contended :
    ∃ state : State (Fin 3), (state.pc 0).holdsPort = true ∧
      state.pc 1 = .waiting "b" false ∧ state.pc 2 = .refused ∧
      ∀ right, (state.pc right).holdsPort = true → 0 = right := by
  refine ⟨_, rfl, rfl, rfl, fun right => (open_mutual_exclusion (System.reachable_of_run
    [.thread 0 (.call "a"), .thread 0 .advance, .thread 1 (.call "b"),
      .thread 0 .advance, .thread 1 .advance, .thread 2 (.call "c"),
      .thread 2 .advance, .thread 0 (.driver .opened), .thread 0 .advance,
      .thread 0 .advance, .thread 1 .advance, .thread 2 .advance,
      .thread 0 .advance, .thread 1 (.loopTest false), .thread 0 .advance,
      .thread 2 (.loopTest true), .thread 0 .advance]
    (initial_initial "/dev/ttyS0" 1 0) rfl)).1 0 right rfl⟩

end Jrxtx.CommPortIdentifier.Open
