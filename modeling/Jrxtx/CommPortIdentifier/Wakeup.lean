import Jrxtx.CommPortIdentifier.Open

/-!
# Waking the threads that wait for an identifier

A thread in `wait(..)` inside `open()` goes on when it is notified, or at the end of its
time.  `internalClosePort()` makes the identifier available and notifies; the `finally`
clause of a failed `open()` makes it available and does not.
-/

namespace Jrxtx.CommPortIdentifier.Open

open Jrxtx.Transition

/-- In `wait(..)`, with no `notifyAll()` since it began. -/
def Pc.unnotified : Pc → Bool
  | .waiting _ notified => !notified
  | _ => false

theorem Pc.unnotified_notify (pc : Pc) : pc.notify.unnotified = false := by
  cases pc <;> rfl

theorem Pc.unnotified_resume (exit : Exit) : (Pc.resume exit).unnotified = false := by
  cases exit with
  | returned port => cases port <;> rfl
  | threw => rfl

variable {Tid : Type*}

/-- Every thread in `wait(..)` has been notified. -/
def AllNotified (state : State Tid) : Prop :=
  ∀ tid theOwner notified, state.pc tid = .waiting theOwner notified → notified = true

theorem allNotified_iff {state : State Tid} :
    AllNotified state ↔ ∀ tid, (state.pc tid).unnotified = false := by
  constructor
  · intro notified tid
    cases atPc : state.pc tid with
    | waiting theOwner flag =>
        obtain rfl := notified tid theOwner flag atPc
        rfl
    | _ => rfl
  · intro none tid theOwner notified waits
    simpa [waits, Pc.unnotified] using none tid

variable [DecidableEq Tid]

/-- All that a step of thread `tid` means for the threads in `wait(..)`. -/
inductive WaitEffect (state : State Tid) (tid : Tid) (next : State Tid) : Prop where
  | moved (pc : Pc)
      (available : next.ident.available = true → state.ident.available = true)
      (pcs : next.pc = Function.update state.pc tid pc)
      (waits : pc.unnotified = true → state.ident.available = false)
  | unowned (exit : Exit)
      (atUnown : state.pc tid = .unown exit)
      (available : next.ident.available = true)
      (pcs : next.pc = Function.update state.pc tid (Pc.resume exit))
  | closed (port : PortRef)
      (atClose : state.pc tid = .internalClosePort port)
      (available : next.ident.available = true)
      (pcs : next.pc =
        Function.update (fun other => (state.pc other).notify) tid (.unowned 0))

section Steps

variable {state next : State Tid} {tid : Tid} {action : Action}

theorem WaitEffect.goto (pc : Pc) (waits : pc.unnotified = true → state.ident.available = false) :
    WaitEffect state tid (state.goto tid pc) :=
  .moved pc id rfl waits

theorem waitEffect_of_fire {index : Nat} {following : Nat → Pc} {done aborted : Pc}
    (fired : state.fire tid index following done aborted action = some next)
    (notFollowing : (following (index + 1)).unnotified = false)
    (notDone : done.unnotified = false) (notAborted : aborted.unnotified = false) :
    WaitEffect state tid next := by
  revert fired
  fun_cases State.fire state tid index following done aborted action <;> intro fired <;>
    simp only [Option.some.injEq, reduceCtorEq] at fired <;> subst fired <;>
    exact .goto _ (by simp [notFollowing, notDone, notAborted])

/-- Inversion of a thread's step. -/
theorem waitEffect_of_stepThread (stepped : state.stepThread tid action = some next) :
    WaitEffect state tid next := by
  revert stepped
  fun_cases State.stepThread state tid action <;> intro stepped
  case case4 | case18 | case30 => exact waitEffect_of_fire stepped rfl rfl rfl
  case case2 | case5 =>
    obtain rfl := Option.some.inj stepped
    exact .moved .testCommport (by simp [State.take]) rfl (by simp [Pc.unnotified])
  case case7 taken _ =>
    obtain rfl := Option.some.inj stepped
    exact .goto _ fun _ => by simpa using taken
  case case22 =>
    obtain rfl := Option.some.inj stepped
    exact .goto _ (by simp [Pc.unnotified_resume])
  case case23 atUnown =>
    obtain rfl := Option.some.inj stepped
    exact .unowned _ atUnown rfl rfl
  case case29 atClose =>
    obtain rfl := Option.some.inj stepped
    exact .closed _ atClose rfl rfl
  case case31 => simp at stepped
  all_goals
    obtain rfl := Option.some.inj stepped
    exact .moved _ id rfl (by simp [Pc.unnotified])

end Steps

/-! ## Runs in which no failed open meets a waiting thread -/

/-- The condition on one step: the `finally` clause of a failed `open()` gives the identifier
back while no thread waits for it without having been notified. -/
def NobodyWaits (state : State Tid) : Label Tid → Prop
  | .thread tid _ =>
      ∀ exit, state.pc tid = .unown exit → ∀ other, (state.pc other).unnotified = false
  | _ => True

section Proofs

variable {state next : State Tid} {label : Label Tid}

/-- A step that makes the identifier available notifies those who wait for it if and only if
it meets the condition. -/
theorem allNotified_of_freeing_iff (stepped : state.step label = some next)
    (taken : state.ident.available = false) (free : next.ident.available = true) :
    AllNotified next ↔ NobodyWaits state label := by
  rw [allNotified_iff]
  cases label with
  | addPortOwnershipListener c | removePortOwnershipListener c =>
      obtain rfl := Option.some.inj stepped
      simp [taken] at free
  | thread tid action =>
      cases waitEffect_of_stepThread stepped with
      | moved pc available =>
          have already := available free
          simp [taken] at already
      | unowned exit atUnown _ pcs =>
          rw [pcs, Function.forall_update_iff state.pc fun _ pc => pc.unnotified = false]
          constructor
          · intro others _ _ other
            by_cases same : other = tid
            · rw [same, atUnown]
              rfl
            · exact others.2 other same
          · intro nobody
            exact ⟨Pc.unnotified_resume exit, fun other _ => nobody exit atUnown other⟩
      | closed port atClose _ pcs =>
          constructor
          · intro _ exit atUnown
            exact nomatch atClose.symm.trans atUnown
          · intro _
            rw [pcs]
            apply (Function.forall_update_iff (fun other => (state.pc other).notify)
              fun _ pc => pc.unnotified = false).mpr
            exact ⟨rfl, fun other _ => (state.pc other).unnotified_notify⟩

/-- Nobody waits for an available identifier without having been notified. -/
def NoLostWakeup (state : State Tid) : Prop :=
  state.ident.available = true → AllNotified state

theorem NoLostWakeup.step (held : NoLostWakeup state) (permitted : NobodyWaits state label)
    (stepped : state.step label = some next) : NoLostWakeup next := by
  intro free
  cases already : state.ident.available with
  | false => exact (allNotified_of_freeing_iff stepped already free).mpr permitted
  | true =>
      have notified := allNotified_iff.mp (held already)
      rw [allNotified_iff]
      cases label with
      | addPortOwnershipListener c | removePortOwnershipListener c =>
          obtain rfl := Option.some.inj stepped
          exact notified
      | thread tid action =>
          cases waitEffect_of_stepThread stepped with
          | moved pc _ pcs waits =>
              rw [pcs]
              apply (Function.forall_update_iff state.pc fun _ pc => pc.unnotified = false).mpr
              refine ⟨?_, fun other _ => notified other⟩
              rw [← Bool.not_eq_true]
              intro unnotified
              simp [waits unnotified] at already
          | unowned exit _ _ pcs =>
              rw [pcs]
              apply (Function.forall_update_iff state.pc fun _ pc => pc.unnotified = false).mpr
              exact ⟨Pc.unnotified_resume exit, fun other _ => notified other⟩
          | closed port _ _ pcs =>
              rw [pcs]
              apply (Function.forall_update_iff (fun other => (state.pc other).notify)
                fun _ pc => pc.unnotified = false).mpr
              exact ⟨rfl, fun other _ => (state.pc other).unnotified_notify⟩

theorem noLostWakeup_of_reachedBy (reached : (clients Tid).ReachedBy NobodyWaits state) :
    NoLostWakeup state := by
  apply reached.invariant
  · intro state initial _ tid theOwner notified waits
    exact nomatch (initial.idle tid).symm.trans waits
  · exact fun _ _ _ held permitted stepped => held.step permitted stepped

/-- In runs in which no failed `open()` gives the identifier back while somebody waits for it,
nobody waits un-notified for an available identifier; and a further step that makes it
available notifies the waiting threads exactly if it meets the condition. -/
theorem wakeup_of_nobodyWaits (reached : (clients Tid).ReachedBy NobodyWaits state) :
    (state.ident.available = true → AllNotified state) ∧
      ∀ label next, (clients Tid).step state label = some next →
        state.ident.available = false → next.ident.available = true →
          (AllNotified next ↔ NobodyWaits state label) :=
  ⟨noLostWakeup_of_reachedBy reached, fun _ _ => allNotified_of_freeing_iff⟩

end Proofs

instance {n : Nat} (state : State (Fin n)) : (label : Label (Fin n)) →
    Decidable (NobodyWaits state label)
  | .thread tid _ =>
      match atPc : state.pc tid with
      | .unown _ =>
          decidable_of_iff (∀ other, (state.pc other).unnotified = false)
            (by simp [NobodyWaits, atPc])
      | .idle | .acquire _ | .requesting _ _ | .contend _ | .waiting _ _ | .refused
      | .testCommport | .getCommPort | .assign _ | .testOpened | .owned _ | .returning
      | .reportOwner | .cleanup _ | .holding _ | .lookup _ | .relookup _
      | .internalClosePort _ | .unowned _ => isTrue (by simp [NobodyWaits, atPc])
  | .addPortOwnershipListener _ | .removePortOwnershipListener _ => isTrue trivial

/-- One client waits for the identifier that another one owns and is about to close. -/
theorem wakeup_of_nobodyWaits_closed :
    ∃ state : State (Fin 2), (clients (Fin 2)).ReachedBy NobodyWaits state ∧
      state.ident.available = true ∧ state.pc 1 = .waiting "b" true ∧ AllNotified state := by
  have reached : (clients (Fin 2)).ReachedBy NobodyWaits _ :=
    (System.ReachedBy.start (initial_initial "/dev/ttyS0" 1 0)).runAllowed
      [.thread 0 (.call "a"), .thread 0 .advance, .thread 0 .advance,
        .thread 0 (.driver .opened), .thread 0 .advance, .thread 0 .advance, .thread 0 .advance,
        .thread 0 .advance, .thread 0 .advance, .thread 1 (.call "b"), .thread 1 .advance,
        .thread 1 .advance, .thread 1 (.loopTest false), .thread 0 .close,
        .thread 0 (.lookup true), .thread 0 (.lookup true), .thread 0 .advance] rfl
  exact ⟨_, reached, rfl, rfl, (wakeup_of_nobodyWaits reached).1 rfl⟩

/-- The driver cannot open the port for one client, and another one that waits for the
identifier is not told. -/
theorem failed_open_wakes_nobody :
    ∃ state : State (Fin 2), (clients (Fin 2)).Reachable state ∧
      state.ident.available = true ∧ state.pc 1 = .waiting "b" false := by
  have reachable : (clients (Fin 2)).Reachable _ := System.reachable_of_run
    [.thread 0 (.call "a"), .thread 0 .advance, .thread 0 .advance, .thread 1 (.call "b"),
      .thread 1 .advance, .thread 1 .advance, .thread 1 (.loopTest false),
      .thread 0 (.driver .null), .thread 0 .advance, .thread 0 .advance, .thread 0 .advance,
      .thread 0 .advance, .thread 0 .advance]
    (initial_initial "/dev/ttyS0" 1 0) rfl
  exact ⟨_, reachable, rfl, rfl⟩

end Jrxtx.CommPortIdentifier.Open

