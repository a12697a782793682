import Mathlib.Data.List.Count
import Jrxtx.CommPortIdentifier.Sequential
import Jrxtx.Lists.LiveWalk

/-!
# Listeners that change the listeners

`fireOwnershipEvent` walks over the live vector `ownershipListener` by index, and the
listeners may add and remove listeners from within `ownershipChange`, or throw an exception.  A
step of the walk is one round of its loop, or one such call of the listener whose callback is
running, or its exception, which ends the loop.
-/

namespace Jrxtx.CommPortIdentifier

open Jrxtx.Lists Jrxtx.Transition

/-- The walk of one event.  `callback` is the listener whose `ownershipChange` is running. -/
structure EventWalk where
  ident : CommPortIdentifier
  index : Nat
  callback : Option ListenerRef
  /-- a callback has thrown an exception -/
  thrown : Bool
  /-- the listeners called so far -/
  notified : List ListenerRef
  /-- those that have been removed from the vector -/
  removed : List ListenerRef
  /-- those whose first removal was by another listener, ahead of the walk -/
  withdrawn : List ListenerRef
  deriving DecidableEq, Repr

/-- What happens next: the callback returns and `e.nextElement()` gives the next listener,
or the callback throws an exception, adds a listener or removes one. -/
inductive WalkStep where
  | nextElement
  | throws
  | addPortOwnershipListener (c : ListenerRef)
  | removePortOwnershipListener (c : ListenerRef)
  deriving DecidableEq, Repr

namespace EventWalk

/-- The beginning of `fireOwnershipEvent`. -/
def start (ident : CommPortIdentifier) : EventWalk :=
  ⟨ident, 0, none, false, [], [], []⟩

/-- The vector with the index of its enumeration. -/
def vector (walk : EventWalk) : LiveWalk ListenerRef :=
  ⟨walk.ident.listeners, walk.index⟩

/-- One step; without a callback nothing is added or removed. -/
def step (walk : EventWalk) (label : WalkStep) : Option EventWalk :=
  if walk.thrown then none
  else
    match label with
    | .nextElement =>
        walk.vector.next?.map fun (c, vector) =>
          { walk with
            index := vector.index
            callback := some c
            notified := walk.notified ++ [c] }
    | .throws => walk.callback.map fun _ => { walk with thrown := true }
    | .addPortOwnershipListener c =>
        walk.callback.map fun _ => { walk with ident := walk.ident.addPortOwnershipListener c }
    | .removePortOwnershipListener c =>
        walk.callback.map fun caller =>
          { walk with
            ident := walk.ident.removePortOwnershipListener c
            removed :=
              if c ∈ walk.vector.elements then c :: walk.removed else walk.removed
            withdrawn :=
              if c ≠ caller ∧ c ∈ walk.vector.ahead ∧ c ∉ walk.removed then c :: walk.withdrawn
              else walk.withdrawn }

/-- The listeners that the walk is still to come to. -/
def coming (walk : EventWalk) : List ListenerRef :=
  if walk.thrown then [] else walk.vector.ahead

/-- `e.hasMoreElements()` is false, or an exception has ended the loop. -/
def finished (walk : EventWalk) : Bool :=
  walk.coming.isEmpty

/-- The event has reached a listener that was registered at the start exactly once, or it
is still to come to it, or another listener has removed it before its turn. -/
def Fair (registered : List ListenerRef) (walk : EventWalk) : Prop :=
  ∀ c ∈ registered, c ∉ walk.withdrawn →
    (c ∈ walk.coming ∧ walk.notified.count c = 0) ∨ walk.notified.count c = 1

/-- The event is owed to a listener: it was registered, and nobody has removed it before
its turn. -/
def Owed (registered : List ListenerRef) (walk : EventWalk) (c : ListenerRef) : Prop :=
  c ∈ registered ∧ c ∉ walk.withdrawn

/-- The walk does not come to a listener that was removed after its turn and added again.  No
listener that it has left behind is removed while the next one is owed the event and has been
registered since the start, and no callback throws an exception while there is one like that
ahead. -/
def Harmless (registered : List ListenerRef) (walk : EventWalk) : WalkStep → Prop
  | .nextElement =>
      ∀ c ∈ walk.vector.ahead.head?, walk.Owed registered c → c ∉ walk.removed
  | .throws => ∀ c ∈ walk.vector.ahead, walk.Owed registered c → c ∈ walk.removed
  | .addPortOwnershipListener _ => True
  | .removePortOwnershipListener c =>
      c ∈ walk.vector.passed →
        ∀ following ∈ walk.vector.ahead.head?,
          walk.Owed registered following → following ∈ walk.removed

instance (registered : List ListenerRef) (walk : EventWalk) (c : ListenerRef) :
    Decidable (walk.Owed registered c) :=
  inferInstanceAs (Decidable (_ ∧ _))

instance (registered : List ListenerRef) (walk : EventWalk) :
    ∀ label, Decidable (walk.Harmless registered label)
  | .nextElement => inferInstanceAs (Decidable (∀ c ∈ _, _ → _))
  | .throws => inferInstanceAs (Decidable (∀ c ∈ _, _ → _))
  | .addPortOwnershipListener _ => inferInstanceAs (Decidable True)
  | .removePortOwnershipListener _ => inferInstanceAs (Decidable (_ → ∀ following ∈ _, _ → _))

end EventWalk

/-- The walks of `fireOwnershipEvent`. -/
def walks : System EventWalk WalkStep where
  start walk := ∃ ident : CommPortIdentifier, ident.listeners.Nodup ∧ walk = .start ident
  step := EventWalk.step

/-! ## Steps -/

section Steps

variable {walk next : EventWalk} {registered : List ListenerRef} {c : ListenerRef}

theorem listeners_add (self : CommPortIdentifier) (c : ListenerRef) :
    (self.addPortOwnershipListener c).listeners =
      if c ∈ self.listeners then self.listeners else self.listeners ++ [c] := by
  by_cases member : c ∈ self.ownershipListener.getD [] <;>
    simp [addPortOwnershipListener, listeners, member]

theorem listeners_remove (self : CommPortIdentifier) (c : ListenerRef) :
    (self.removePortOwnershipListener c).listeners = self.listeners.erase c := by
  cases vector : self.ownershipListener <;>
    simp [removePortOwnershipListener, listeners, vector]

namespace EventWalk

/-- What holds throughout a walk that has been fair: the vector has no duplicates, the listener in
its callback has been notified, and of the listeners that were registered at the start those
have been notified that the walk has left behind, or that were removed after their turn. -/
structure Sound (registered : List ListenerRef) (walk : EventWalk) : Prop where
  distinct : walk.vector.elements.Nodup
  called : ∀ c, walk.callback = some c → c ∈ walk.notified
  passed : ∀ c ∈ walk.notified, c ∉ walk.removed → c ∈ walk.vector.passed
  removed : ∀ c ∈ walk.removed, walk.Owed registered c → c ∈ walk.notified

theorem sound_start {ident : CommPortIdentifier} (distinct : ident.listeners.Nodup) :
    (start ident).Sound ident.listeners :=
  ⟨distinct, by simp [start], by simp [start], by simp [start]⟩

theorem fair_start (ident : CommPortIdentifier) : (start ident).Fair ident.listeners := by
  intro c member _
  exact .inl ⟨member, rfl⟩

theorem coming_of_step {label : WalkStep} (stepped : walk.step label = some next) :
    walk.thrown = false ∧ walk.coming = walk.vector.ahead := by
  have running : walk.thrown = false := by
    by_contra thrown
    simp only [Bool.not_eq_false] at thrown
    simp [step, thrown] at stepped
  exact ⟨running, if_neg (by simp [running])⟩

/-- What a round of the loop does. -/
theorem nextElement_spec (stepped : walk.step .nextElement = some next) :
    ∃ c, walk.vector.ahead = c :: next.vector.ahead ∧
      next = { walk with
        index := walk.index + 1, callback := some c, notified := walk.notified ++ [c] } := by
  have running : ¬walk.thrown = true := by simp [(coming_of_step stepped).1]
  simp only [step, if_neg running, Option.map_eq_some_iff] at stepped
  obtain ⟨⟨c, vector⟩, found, rfl⟩ := stepped
  obtain ⟨ahead, elements, index⟩ := LiveWalk.ahead_next found
  have same : vector = ⟨walk.ident.listeners, walk.index + 1⟩ := by
    rw [LiveWalk.mk.injEq]
    exact ⟨elements, index⟩
  refine ⟨c, ?_, ?_⟩
  · rw [ahead, same]
    rfl
  · rw [same]

theorem throws_spec (stepped : walk.step .throws = some next) :
    next = { walk with thrown := true } := by
  have running : ¬walk.thrown = true := by simp [(coming_of_step stepped).1]
  simp only [step, if_neg running, Option.map_eq_some_iff] at stepped
  obtain ⟨caller, -, rfl⟩ := stepped
  rfl

theorem add_spec (stepped : walk.step (.addPortOwnershipListener c) = some next) :
    next.vector = walk.vector.add c ∧
      next = { walk with ident := walk.ident.addPortOwnershipListener c } := by
  have running : ¬walk.thrown = true := by simp [(coming_of_step stepped).1]
  simp only [step, if_neg running, Option.map_eq_some_iff] at stepped
  obtain ⟨caller, -, rfl⟩ := stepped
  refine ⟨?_, rfl⟩
  by_cases member : c ∈ walk.ident.listeners <;>
    simp [vector, LiveWalk.add, listeners_add, member]

theorem remove_spec (stepped : walk.step (.removePortOwnershipListener c) = some next) :
    ∃ caller, walk.callback = some caller ∧ next.vector = walk.vector.remove c ∧
      next = { walk with
        ident := walk.ident.removePortOwnershipListener c
        removed := if c ∈ walk.vector.elements then c :: walk.removed else walk.removed
        withdrawn :=
          if c ≠ caller ∧ c ∈ walk.vector.ahead ∧ c ∉ walk.removed then c :: walk.withdrawn
          else walk.withdrawn } := by
  have running : ¬walk.thrown = true := by simp [(coming_of_step stepped).1]
  simp only [step, if_neg running, Option.map_eq_some_iff] at stepped
  obtain ⟨caller, isCaller, rfl⟩ := stepped
  refine ⟨caller, isCaller, ?_, rfl⟩
  simp only [vector, LiveWalk.remove, listeners_remove]

/-- A listener that is owed the event and ahead of the walk has been called before exactly if it
has been removed before. -/
theorem Sound.notified_iff (sound : walk.Sound registered) (owed : walk.Owed registered c)
    (isAhead : c ∈ walk.vector.ahead) : c ∈ walk.notified ↔ c ∈ walk.removed := by
  constructor
  · intro called
    by_contra kept
    exact LiveWalk.not_mem_ahead sound.distinct (sound.passed c called kept) isAhead
  · exact fun removed => sound.removed c removed owed

/-- What is left ahead has still to come: without an exception, that is what is fair. -/
theorem Fair.of_ahead (running : walk.thrown = false)
    (fair : ∀ c ∈ registered, c ∉ walk.withdrawn →
      (c ∈ walk.vector.ahead ∧ walk.notified.count c = 0) ∨ walk.notified.count c = 1) :
    walk.Fair registered := by
  rwa [Fair, coming, if_neg (by simp [running])]

/-- A listener that is owed the event and not ahead of the walk has been called. -/
theorem Fair.notified (fair : walk.Fair registered) (owed : walk.Owed registered c)
    (notComing : c ∉ walk.coming) : c ∈ walk.notified := by
  have once := (fair c owed.1 owed.2).resolve_left fun later => notComing later.1
  exact List.count_pos_iff.mp (by omega)

/-- The vector has no duplicates in any walk. -/
theorem nodup_step (distinct : walk.vector.elements.Nodup) {label : WalkStep}
    (stepped : walk.step label = some next) : next.vector.elements.Nodup := by
  cases label with
  | nextElement =>
      obtain ⟨c, -, rfl⟩ := nextElement_spec stepped
      exact distinct
  | throws =>
      obtain rfl := throws_spec stepped
      exact distinct
  | addPortOwnershipListener c =>
      obtain ⟨vector, -⟩ := add_spec stepped
      rw [vector]
      exact LiveWalk.add_elements_nodup distinct c
  | removePortOwnershipListener c =>
      obtain ⟨caller, -, vector, -⟩ := remove_spec stepped
      rw [vector]
      exact LiveWalk.remove_elements_nodup distinct c

theorem Sound.step (sound : walk.Sound registered) (fair : walk.Fair registered)
    {label : WalkStep} (stepped : walk.step label = some next) : next.Sound registered := by
  have ⟨_, coming⟩ := coming_of_step stepped
  have distinct := nodup_step sound.distinct stepped
  cases label with
  | nextElement =>
      obtain ⟨c, ahead, rfl⟩ := nextElement_spec stepped
      refine ⟨distinct, by simp, ?_, ?_⟩
      · intro other called kept
        have passed := LiveWalk.passed_succ ahead
        rw [List.mem_append] at called
        show other ∈ LiveWalk.passed ⟨walk.vector.elements, walk.vector.index + 1⟩
        rw [passed, List.mem_append]
        exact called.imp_left fun before => sound.passed other before kept
      · exact fun other removed owed => List.mem_append_left _ (sound.removed other removed owed)
  | throws =>
      obtain rfl := throws_spec stepped
      exact ⟨distinct, sound.called, sound.passed, sound.removed⟩
  | addPortOwnershipListener c =>
      obtain ⟨vector, rfl⟩ := add_spec stepped
      refine ⟨distinct, sound.called, ?_, sound.removed⟩
      intro other called kept
      rw [vector]
      exact LiveWalk.mem_passed_add (sound.passed other called kept) c
  | removePortOwnershipListener c =>
      obtain ⟨caller, isCaller, vector, rfl⟩ := remove_spec stepped
      refine ⟨distinct, sound.called, ?_, ?_⟩
      · intro other called kept
        rw [vector]
        dsimp only at kept
        split at kept
        next =>
          rw [List.mem_cons, not_or] at kept
          exact LiveWalk.mem_passed_remove (sound.passed other called kept.2) kept.1
        next absent =>
          rw [LiveWalk.remove_of_not_mem absent]
          exact sound.passed other called kept
      · rintro other removed ⟨member, owed⟩
        by_cases before : other ∈ walk.removed
        · refine sound.removed other before ⟨member, fun already => owed ?_⟩
          dsimp only
          split
          next => exact List.mem_cons_of_mem _ already
          next => exact already
        · obtain ⟨there, rfl⟩ : c ∈ walk.vector.elements ∧ other = c := by
            dsimp only at removed
            split at removed
            next there => exact ⟨there, (List.mem_cons.mp removed).resolve_right before⟩
            next => exact absurd removed before
          -- for the first time: after its turn, or by itself
          dsimp only at owed
          rcases LiveWalk.mem_passed_or_ahead there with isPassed | isAhead
          · have notAhead := LiveWalk.not_mem_ahead sound.distinct isPassed
            rw [if_neg fun withdraws => notAhead withdraws.2.1] at owed
            exact fair.notified ⟨member, owed⟩ (coming ▸ notAhead)
          · by_cases itself : other = caller
            · exact sound.called other (itself ▸ isCaller)
            · rw [if_pos ⟨itself, isAhead, before⟩] at owed
              exact absurd List.mem_cons_self owed

/-- The next listener is called once if and only if it has not been removed before. -/
theorem Fair.nextElement_iff (fair : walk.Fair registered) (sound : walk.Sound registered)
    (stepped : walk.step .nextElement = some next) :
    next.Fair registered ↔ walk.Harmless registered .nextElement := by
  obtain ⟨running, coming⟩ := coming_of_step stepped
  obtain ⟨called, ahead, isNext⟩ := nextElement_spec stepped
  have distinct : walk.vector.ahead.Nodup := sound.distinct.sublist (List.drop_sublist _ _)
  have isAhead : called ∈ walk.vector.ahead := by simp [ahead]
  have notAgain : called ∉ next.vector.ahead := by
    rw [ahead] at distinct
    exact (List.nodup_cons.mp distinct).1
  have notified : next.notified = walk.notified ++ [called] := by rw [isNext]
  have withdrawn : next.withdrawn = walk.withdrawn := by rw [isNext]
  have comingNext : next.coming = next.vector.ahead := if_neg (by simp [isNext, running])
  have counted (c : ListenerRef) :
      next.notified.count c = walk.notified.count c + if called = c then 1 else 0 := by
    rw [notified, List.count_append, List.count_singleton]
    simp
  simp only [Harmless, ahead, List.head?_cons, Option.mem_some_iff, forall_eq']
  constructor
  · rintro nextFair owed removed
    have isNotified := (sound.notified_iff owed isAhead).mpr removed
    have again := List.count_pos_iff.mpr isNotified
    have once := (nextFair called owed.1 (withdrawn ▸ owed.2)).resolve_left
      fun later => notAgain (comingNext ▸ later.1)
    rw [counted, if_pos rfl] at once
    omega
  · intro first c member owed
    rw [withdrawn] at owed
    rw [counted, comingNext]
    by_cases same : called = c
    · subst same
      right
      have never := (sound.notified_iff ⟨member, owed⟩ isAhead).not.mpr (first ⟨member, owed⟩)
      rw [if_pos rfl, List.count_eq_zero.mpr never]
    · rw [if_neg same, Nat.add_zero]
      rcases fair c member owed with ⟨isComing, never⟩ | once
      · rw [coming, ahead, List.mem_cons] at isComing
        exact .inl ⟨isComing.resolve_left (Ne.symm same), never⟩
      · exact .inr once

/-- An exception ends the walk: nothing is lost exactly if everybody ahead has been called. -/
theorem Fair.throws_iff (fair : walk.Fair registered) (sound : walk.Sound registered)
    (stepped : walk.step .throws = some next) :
    next.Fair registered ↔ walk.Harmless registered .throws := by
  obtain ⟨-, coming⟩ := coming_of_step stepped
  obtain rfl := throws_spec stepped
  have nothing : EventWalk.coming { walk with thrown := true } = [] := if_pos rfl
  simp only [Fair, nothing, List.not_mem_nil, false_and, false_or, Harmless]
  constructor
  · intro once c isAhead owed
    have called : c ∈ walk.notified := List.count_pos_iff.mp (by
      rw [once c owed.1 owed.2]
      exact Nat.one_pos)
    exact (sound.notified_iff owed isAhead).mp called
  · intro reached c member owed
    refine (fair c member owed).resolve_left fun later => ?_
    rw [coming] at later
    have called := (sound.notified_iff ⟨member, owed⟩ later.1).mpr
      (reached c later.1 ⟨member, owed⟩)
    exact List.count_eq_zero.mp later.2 called

/-- An addition takes nothing away. -/
theorem Fair.add (fair : walk.Fair registered)
    (stepped : walk.step (.addPortOwnershipListener c) = some next) : next.Fair registered := by
  obtain ⟨running, coming⟩ := coming_of_step stepped
  obtain ⟨vector, isNext⟩ := add_spec stepped
  have notified : next.notified = walk.notified := by rw [isNext]
  have withdrawn : next.withdrawn = walk.withdrawn := by rw [isNext]
  refine .of_ahead (by rw [isNext, running]) ?_
  intro other member owed
  rw [withdrawn] at owed
  rw [notified, vector]
  exact (fair other member owed).imp_left fun ⟨isComing, never⟩ =>
    ⟨LiveWalk.mem_ahead_add (coming ▸ isComing) c, never⟩

/-- Whoever is removed ahead of the walk has been called, or is withdrawn. -/
theorem Fair.remove_ahead (fair : walk.Fair registered) (sound : walk.Sound registered)
    (stepped : walk.step (.removePortOwnershipListener c) = some next)
    (isAhead : c ∈ walk.vector.ahead) : next.Fair registered := by
  obtain ⟨running, coming⟩ := coming_of_step stepped
  have soundNext := sound.step fair stepped
  obtain ⟨caller, -, vector, isNext⟩ := remove_spec stepped
  have notified : next.notified = walk.notified := by rw [isNext]
  refine .of_ahead (by rw [isNext, running]) ?_
  intro other member owed
  have owedBefore : other ∉ walk.withdrawn := by
    intro already
    apply owed
    rw [isNext]
    dsimp only
    split
    next => exact List.mem_cons_of_mem _ already
    next => exact already
  rw [notified, vector, LiveWalk.ahead_remove_of_ahead sound.distinct isAhead]
  by_cases same : other = c
  · subst same
    right
    have removed : other ∈ next.removed := by
      rw [isNext]
      dsimp only
      rw [if_pos (List.mem_of_mem_drop isAhead)]
      exact List.mem_cons_self
    have called := soundNext.removed other removed ⟨member, owed⟩
    have positive := List.count_pos_iff.mpr (notified ▸ called)
    exact (fair other member owedBefore).resolve_left fun later => by omega
  · exact (fair other member owedBefore).imp_left fun ⟨isComing, never⟩ =>
      ⟨(List.mem_erase_of_ne same).mpr (coming ▸ isComing), never⟩

/-- A removal behind the walk passes over the next listener. -/
theorem Fair.remove_passed_iff (fair : walk.Fair registered) (sound : walk.Sound registered)
    (stepped : walk.step (.removePortOwnershipListener c) = some next)
    (isPassed : c ∈ walk.vector.passed) :
    next.Fair registered ↔ walk.Harmless registered (.removePortOwnershipListener c) := by
  obtain ⟨running, coming⟩ := coming_of_step stepped
  obtain ⟨caller, -, vector, isNext⟩ := remove_spec stepped
  have notAhead := LiveWalk.not_mem_ahead sound.distinct isPassed
  have notified : next.notified = walk.notified := by rw [isNext]
  have withdrawn : next.withdrawn = walk.withdrawn := by
    rw [isNext]
    exact if_neg fun withdraws => notAhead withdraws.2.1
  have comingNext : next.coming = walk.vector.ahead.tail := by
    rw [← LiveWalk.ahead_remove_of_passed isPassed, ← vector]
    exact if_neg (by simp [isNext, running])
  have distinct : walk.vector.ahead.Nodup := sound.distinct.sublist (List.drop_sublist _ _)
  simp only [Harmless, isPassed, forall_const]
  rw [Fair, notified, withdrawn, comingNext]
  rw [Fair, coming] at fair
  cases split : walk.vector.ahead with
  | nil =>
      rw [split] at fair
      exact iff_of_true fair (by simp)
  | cons following rest =>
      rw [split] at distinct fair
      have isAhead : following ∈ walk.vector.ahead := by simp [split]
      simp only [List.head?_cons, Option.mem_some_iff, forall_eq', List.tail_cons]
      constructor
      · intro nextFair owed
        refine (sound.notified_iff owed isAhead).mp (List.count_pos_iff.mp ?_)
        have once := (nextFair following owed.1 owed.2).resolve_left
          fun later => (List.nodup_cons.mp distinct).1 later.1
        omega
      · intro reached other member owed
        rcases fair other member owed with ⟨isComing, never⟩ | once
        · left
          rw [List.mem_cons] at isComing
          refine ⟨isComing.resolve_left ?_, never⟩
          rintro rfl
          have called := (sound.notified_iff ⟨member, owed⟩ isAhead).mpr (reached ⟨member, owed⟩)
          exact List.count_eq_zero.mp never called
        · exact .inr once

/-- A step keeps the event fair if and only if it is harmless. -/
theorem Fair.step_iff (fair : walk.Fair registered) (sound : walk.Sound registered)
    {label : WalkStep} (stepped : walk.step label = some next) :
    next.Fair registered ↔ walk.Harmless registered label := by
  cases label with
  | nextElement => exact fair.nextElement_iff sound stepped
  | throws => exact fair.throws_iff sound stepped
  | addPortOwnershipListener c => exact iff_of_true (fair.add stepped) trivial
  | removePortOwnershipListener c =>
      by_cases isPassed : c ∈ walk.vector.passed
      · exact fair.remove_passed_iff sound stepped isPassed
      · refine iff_of_true ?_ fun passed => absurd passed isPassed
        by_cases isAhead : c ∈ walk.vector.ahead
        · exact fair.remove_ahead sound stepped isAhead
        · -- not registered: nothing is removed
          obtain ⟨running, coming⟩ := coming_of_step stepped
          obtain ⟨caller, -, vector, isNext⟩ := remove_spec stepped
          have absent : c ∉ walk.vector.elements := fun member =>
            (LiveWalk.mem_passed_or_ahead member).elim isPassed isAhead
          have notified : next.notified = walk.notified := by rw [isNext]
          have withdrawn : next.withdrawn = walk.withdrawn := by
            rw [isNext]
            exact if_neg fun withdraws => isAhead withdraws.2.1
          refine .of_ahead (by rw [isNext, running]) ?_
          rw [notified, withdrawn, vector, LiveWalk.remove_of_not_mem absent, ← coming]
          exact fair

end EventWalk

end Steps

/-! ## Whole walks -/

section Walks

open EventWalk

variable {walk final : EventWalk} {ident : CommPortIdentifier} {labels : List WalkStep}
  {added : List ListenerRef}

/-- At the end of a fair walk, the event has reached everybody it is owed to once. -/
theorem EventWalk.Fair.once {registered : List ListenerRef} (fair : walk.Fair registered)
    (finished : walk.finished = true) {c : ListenerRef} (owed : walk.Owed registered c) :
    walk.notified.count c = 1 := by
  refine (fair c owed.1 owed.2).resolve_left fun later => ?_
  rw [List.isEmpty_iff.mp finished] at later
  exact absurd later.1 List.not_mem_nil

/-- What is registered in a walk was registered before or has been added. -/
theorem EventWalk.elements_step {next : EventWalk} {label : WalkStep}
    (stepped : walk.step label = some next) {c : ListenerRef}
    (member : c ∈ next.vector.elements) :
    c ∈ walk.vector.elements ∨ label = .addPortOwnershipListener c := by
  cases label with
  | nextElement =>
      obtain ⟨called, -, rfl⟩ := nextElement_spec stepped
      exact .inl member
  | throws =>
      obtain rfl := throws_spec stepped
      exact .inl member
  | addPortOwnershipListener new =>
      obtain ⟨vector, -⟩ := add_spec stepped
      rw [vector] at member
      rcases LiveWalk.mem_add member with before | rfl
      · exact .inl before
      · exact .inr rfl
  | removePortOwnershipListener old =>
      obtain ⟨caller, -, vector, -⟩ := remove_spec stepped
      rw [vector] at member
      exact .inl (List.mem_of_mem_erase member)

/-- The index goes up with each round, up to the length of the vector. -/
theorem EventWalk.index_step {next : EventWalk} {label : WalkStep}
    (stepped : walk.step label = some next) :
    (label ≠ .nextElement ∧ next.index = walk.index) ∨
      (label = .nextElement ∧ next.index = walk.index + 1 ∧
        walk.index < walk.vector.elements.length) := by
  cases label with
  | nextElement =>
      right
      obtain ⟨called, ahead, isNext⟩ := nextElement_spec stepped
      refine ⟨rfl, by rw [isNext], ?_⟩
      by_contra beyond
      have nothing : walk.vector.ahead = [] := List.drop_eq_nil_of_le (Nat.le_of_not_lt beyond)
      simp [nothing] at ahead
  | throws =>
      obtain rfl := throws_spec stepped
      exact .inl ⟨by simp, rfl⟩
  | addPortOwnershipListener c =>
      obtain ⟨-, rfl⟩ := add_spec stepped
      exact .inl ⟨by simp, rfl⟩
  | removePortOwnershipListener c =>
      obtain ⟨caller, -, -, rfl⟩ := remove_spec stepped
      exact .inl ⟨by simp, rfl⟩

/-- If all listeners are in a list, the walk makes no more rounds than the list is long. -/
theorem EventWalk.rounds_le (distinct : walk.vector.elements.Nodup) {everybody : List ListenerRef}
    (within : ∀ c ∈ walk.vector.elements, c ∈ everybody)
    (adds : ∀ c, .addPortOwnershipListener c ∈ labels → c ∈ everybody)
    (ran : walks.run walk labels = some final) (bounded : walk.index ≤ everybody.length) :
    walk.index + labels.count .nextElement ≤ everybody.length := by
  induction labels generalizing walk with
  | nil => simpa using bounded
  | cons label labels ih =>
      obtain ⟨next, (stepped : walk.step label = some next), later⟩ := System.run_cons.mp ran
      have withinNext : ∀ c ∈ next.vector.elements, c ∈ everybody := by
        intro c member
        rcases elements_step stepped member with before | rfl
        · exact within c before
        · exact adds c List.mem_cons_self
      have addsLater : ∀ c, .addPortOwnershipListener c ∈ labels → c ∈ everybody :=
        fun c member => adds c (List.mem_cons_of_mem _ member)
      rcases index_step stepped with ⟨other, same⟩ | ⟨rfl, more, room⟩
      · rw [List.count_cons_of_ne other, ← same]
        exact ih (nodup_step distinct stepped) withinNext addsLater later (same ▸ bounded)
      · have length := (List.subperm_of_subset distinct within).length_le
        have rest := ih (nodup_step distinct stepped) withinNext addsLater later (by omega)
        rw [List.count_cons_self]
        omega

/-- Rounds in which the callbacks change nothing. -/
theorem EventWalk.run_rounds {index count : Nat} (callback : Option ListenerRef)
    (notified removed withdrawn : List ListenerRef)
    (enough : index + count ≤ ident.listeners.length) :
    ∃ last, walks.run ⟨ident, index, callback, false, notified, removed, withdrawn⟩
        (.replicate count .nextElement) =
      some ⟨ident, index + count, last, false,
        notified ++ (ident.listeners.drop index).take count, removed, withdrawn⟩ ∧
      (last = none → callback = none ∧ count = 0) := by
  induction count generalizing index callback notified with
  | zero => exact ⟨callback, by simp [System.run], by simp⟩
  | succ count ih =>
      have within : index < ident.listeners.length := by omega
      have rest : index + 1 + count ≤ ident.listeners.length := by omega
      obtain ⟨last, ran, called⟩ := ih (some ident.listeners[index])
        (notified ++ [ident.listeners[index]]) rest
      refine ⟨last, System.run_cons.mpr ⟨_, ?_, ran.trans ?_⟩, fun none => ?_⟩
      · simp [walks, step, vector, LiveWalk.next?, within]
      · rw [List.drop_eq_getElem_cons within, List.take_succ_cons, List.append_assoc,
          List.singleton_append]
        simp only [Nat.add_assoc, Nat.add_comm 1]
      · exact absurd (called none).1 (by simp)

/-- The steps of a walk in which no callback changes the listeners, and the one at the given
index, if there is one, throws an exception. -/
def plainWalk (ident : CommPortIdentifier) (throwsAt : Option Nat) : List WalkStep :=
  match throwsAt with
  | none => .replicate ident.listeners.length .nextElement
  | some index =>
      if index < ident.listeners.length then .replicate (index + 1) .nextElement ++ [.throws]
      else .replicate ident.listeners.length .nextElement

/-- If no callback changes the listeners, then the walk calls those that
`fireOwnershipEvent` calls. -/
theorem walk_fireOwnershipEvent (ident : CommPortIdentifier) (eventType : OwnershipEvent)
    (throwsAt : Option Nat) :
    ∃ final, walks.run (.start ident) (plainWalk ident throwsAt) = some final ∧
      final.finished = true ∧
      (final.notified.map (·, eventType), final.thrown) =
        ident.fireOwnershipEvent eventType throwsAt := by
  have complete : ∃ final, walks.run (.start ident)
        (.replicate ident.listeners.length .nextElement) = some final ∧
      final.finished = true ∧ final.thrown = false ∧ final.notified = ident.listeners := by
    obtain ⟨last, ran, -⟩ := EventWalk.run_rounds none [] [] []
      (Nat.le_of_eq (Nat.zero_add _))
    refine ⟨_, ran, ?_, rfl, by simp⟩
    simp [EventWalk.finished, EventWalk.coming, EventWalk.vector, LiveWalk.ahead]
  obtain ⟨final, ran, finished, running, notified⟩ := complete
  cases throwsAt with
  | none => exact ⟨final, ran, finished, by rw [notified, running]; rfl⟩
  | some index =>
      rw [plainWalk]
      split
      next within =>
        obtain ⟨last, ran, called⟩ := EventWalk.run_rounds none [] [] []
          (show 0 + (index + 1) ≤ ident.listeners.length by omega)
        obtain ⟨caller, rfl⟩ : ∃ caller, last = some caller := by
          cases last with
          | none => exact absurd (called rfl).2 (Nat.succ_ne_zero _)
          | some caller => exact ⟨caller, rfl⟩
        refine ⟨_, System.run_append.mpr ⟨_, ran, rfl⟩, rfl, ?_⟩
        simp [fireOwnershipEvent, within]
      next beyond =>
        refine ⟨final, ran, finished, ?_⟩
        rw [notified, running, fireOwnershipEvent, List.take_of_length_le (by omega)]
        simp [beyond]

/-- In every walk over distinct listeners: there are no more rounds than listeners before
and added; the event stays fair throughout exactly if all steps are harmless; and at the end
of a fair walk it has reached everybody it is owed to once. -/
theorem ownership_event_fair_iff (distinct : ident.listeners.Nodup)
    (ran : walks.run (.start ident) labels = some final) :
    ((∀ c, .addPortOwnershipListener c ∈ labels → c ∈ added) →
        labels.count .nextElement ≤ ident.listeners.length + added.length) ∧
      (walks.Keeps (EventWalk.Fair ident.listeners) (.start ident) labels ↔
        walks.StepsMeet (EventWalk.Harmless ident.listeners) (.start ident) labels) ∧
      (final.finished = true → final.Fair ident.listeners →
        ∀ c, final.Owed ident.listeners c → final.notified.count c = 1) := by
  have sound := sound_start distinct
  refine ⟨?_, ?_, fun finished fair c owed => fair.once finished owed⟩
  · intro adds
    have within : ∀ c ∈ (start ident).vector.elements, c ∈ ident.listeners ++ added :=
      fun c member => List.mem_append_left _ member
    have rounds := rounds_le sound.distinct within
      (fun c member => List.mem_append_right _ (adds c member)) ran (Nat.zero_le _)
    rw [List.length_append] at rounds
    exact Nat.le_trans (Nat.le_add_left _ _) rounds
  · exact System.keeps_iff_stepsMeet
      (fun _ _ _ sound fair stepped => fair.step_iff sound stepped)
      (fun _ _ _ sound fair stepped => sound.step fair stepped) sound (fair_start ident) labels ran

end Walks

/-- Two listeners are registered. -/
def twoListeners : CommPortIdentifier :=
  { CommPortIdentifier.new "/dev/ttyS0" none 1 0 with ownershipListener := some [1, 2] }

/-- The first listener adds a third one. -/
theorem ownership_event_fair_iff_added :
    ∃ final, walks.run (.start twoListeners)
        [.nextElement, .addPortOwnershipListener 3, .nextElement, .nextElement] = some final ∧
      final.notified = [1, 2, 3] ∧ final.Fair [1, 2] := by
  have fair := (@ownership_event_fair_iff _ twoListeners
    [.nextElement, .addPortOwnershipListener 3, .nextElement, .nextElement] [3]
    (by decide) rfl).2.1.mpr
  exact ⟨_, rfl, rfl, (fair (by decide)).at_end rfl⟩

/-- The first listener removes itself, and the second one is passed over. -/
theorem self_removal_skips_listener :
    ∃ final, walks.run (.start twoListeners) [.nextElement, .removePortOwnershipListener 1] =
        some final ∧
      final.finished = true ∧ final.Owed [1, 2] 2 ∧ final.notified.count 2 = 0 :=
  ⟨_, rfl, rfl, by unfold EventWalk.Owed; decide, rfl⟩

/-- The first listener throws an exception. -/
example : ∃ final, walks.run (.start twoListeners) [.nextElement, .throws] = some final ∧
    final.finished = true ∧ final.notified = [1] :=
  ⟨_, rfl, rfl, rfl⟩

end Jrxtx.CommPortIdentifier
