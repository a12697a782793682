import Jrxtx.WinCE.EventHandover

/-!
# The life of `EventInfoStruct`

The thread frees the structure when it finds the event object or the port closed, and `eis`
keeps referring to it.  Nothing uses it afterwards if `eventLoop` is called once, flags are
not set after the loop has ended, and the port is not closed before.
-/

namespace Jrxtx.WinCE

open Jrxtx.Transition

/-- One call of `eventLoop`, flags before it or while it runs, and no closing meanwhile. -/
def OneLoop (state : CommState) : CommLabel → Prop
  | .eventLoop _ => state.created = 0
  | .nativeSetEventFlag _ _ => state.created = 0 ∨ state.loop ≠ .idle
  | .nativeClose => state.loop = .idle
  | _ => True

instance : ∀ state label, Decidable (OneLoop state label)
  | state, .eventLoop _ => inferInstanceAs (Decidable (state.created = 0))
  | state, .nativeSetEventFlag _ _ =>
      inferInstanceAs (Decidable (state.created = 0 ∨ state.loop ≠ .idle))
  | state, .nativeClose => inferInstanceAs (Decidable (state.loop = .idle))
  | _, .loop _ _ _ | _, .thread _ _ | _, .interruptEventLoop => inferInstanceAs (Decidable True)

theorem OneLoop.oneAtATime {state : CommState} {label : CommLabel} (allowed : OneLoop state label) :
    OneAtATime state label := by
  cases label with
  | eventLoop =>
      have none : state.created = 0 := allowed
      intro i early
      omega
  | _ => trivial

namespace CommState

variable {state next : CommState} {i : Nat} {label : CommLabel}

/-- The structure is freed after the loop, by the only thread, which ends. -/
structure Owned (state : CommState) : Prop where
  alone : state.Alone
  sound : state.faulted = false
  unborn : ∀ i, state.created ≤ i → state.threads i = .absent
  single : state.created ≤ 1
  called : state.loop ≠ .idle → state.created = 1
  closed : state.eventHandle = false → state.loop = .idle ∧ state.created = 1
  shut : state.fdOpen = false →
    state.loop = .idle ∨ state.threads 0 = .setCommMask ∨ state.threads 0 = .ended
  freed : state.freed = true →
    state.loop = .idle ∧ state.created = 1 ∧ state.threads 0 = .ended

/-- What is not freed can be used. -/
theorem Owned.touch_faulted (owned : state.Owned) (kept : state.freed = false) :
    state.touch.faulted = false := by
  simp [touch, owned.sound, kept]

/-- A thread that moves is the first, and has not freed the structure. -/
theorem Owned.first (owned : state.Owned) (moved : state.ThreadMove i next) :
    i = 0 ∧ state.created = 1 := by
  have born : i < state.created := by
    by_contra unborn
    exact moved.others.1 (owned.unborn i (Nat.le_of_not_lt unborn))
  have single := owned.single
  omega

theorem ThreadMove.not_ended (moved : state.ThreadMove i next) : state.threads i ≠ .ended := by
  cases moved with
  | specify old new stands moves => obtain ⟨rfl, -⟩ | ⟨rfl, -⟩ := moves <;> simp [stands]
  | giveUp stands => obtain stands | stands := stands <;> simp [stands]
  | free stands =>
      obtain ⟨stands | ⟨_, stands⟩, -⟩ | ⟨stands, -⟩ := stands <;> simp [stands]
  | announce stands | enter _ stands | fail stands | disturbed stands | report _ stands
  | signal stands | spin stands | cleared stands => simp [stands]

theorem Owned.allocated (owned : state.Owned) (moved : state.ThreadMove 0 next) :
    state.freed = false := by
  by_contra freed
  exact moved.not_ended (owned.freed (by simpa using freed)).2.2

/-- The first thread moves on, and nothing else that matters changes. -/
theorem Owned.goto (owned : state.Owned) (called : state.created = 1)
    (sound : next.faulted = false) (created : next.created = state.created)
    (threads : ∀ j, j ≠ 0 → state.threads j = .absent → next.threads j = .absent)
    (loops : next.loops = state.loops) (eventHandle : next.eventHandle = state.eventHandle)
    (shut : next.fdOpen = false →
      next.loop = .idle ∨ next.threads 0 = .setCommMask ∨ next.threads 0 = .ended)
    (freed : next.freed = true → next.loop = .idle ∧ next.threads 0 = .ended) : next.Owned where
  alone := owned.alone.of_eq loops created
  sound := sound
  unborn := by
    intro j late
    have other : j ≠ 0 := by omega
    exact threads j other (owned.unborn j (created ▸ late))
  single := created ▸ owned.single
  called := fun _ => created.trans called
  closed := by
    rw [eventHandle, loop_eq loops created, created]
    exact owned.closed
  shut := shut
  freed := fun isFreed => ⟨(freed isFreed).1, created.trans called, (freed isFreed).2⟩

theorem Owned.thread (owned : state.Owned) (moved : state.ThreadMove i next) : next.Owned := by
  obtain ⟨rfl, called⟩ := owned.first moved
  have kept := owned.allocated moved
  obtain ⟨-, others, created, eventHandle, loops, -⟩ := moved.others
  have threads (j : Nat) (other : j ≠ 0) (absent : state.threads j = .absent) :
      next.threads j = .absent := by
    obtain same | same := others j other <;> simp [same, absent, disturb]
  have sound := owned.touch_faulted kept
  -- the port is open, or no loop is left
  have idle (shut : state.fdOpen = false) (notFirst : state.threads 0 ≠ .setCommMask) :
      state.loop = .idle := by
    obtain idle | first | ended := owned.shut shut
    · exact idle
    · exact absurd first notFirst
    · exact absurd ended moved.not_ended
  cases moved with
  | specify _ _ _ _ isOpen =>
      exact owned.goto called sound created threads loops eventHandle
        (by simp [CommState.goto, setCommMask, touch, isOpen])
        (by simp [CommState.goto, setCommMask, touch, kept])
  | giveUp =>
      exact owned.goto called sound created threads loops eventHandle
        (fun _ => .inr (.inr (by simp [CommState.goto])))
        (by simp [CommState.goto, touch, kept])
  | enter _ _ _ isOpen | fail _ isOpen =>
      exact owned.goto called owned.sound created threads loops eventHandle
        (by simp [CommState.goto, isOpen]) (by simp [CommState.goto, kept])
  | disturbed _ isOpen | report _ _ isOpen =>
      exact owned.goto called sound created threads loops eventHandle
        (by simp [CommState.goto, touch, isOpen]) (by simp [CommState.goto, touch, kept])
  | announce stands | signal stands | spin stands | cleared stands =>
      exact owned.goto called sound created threads loops eventHandle
        (fun shut => .inl (idle shut (by simp [stands])))
        (by simp [CommState.goto, touch, kept])
  | free stands =>
      have left : state.loop = .idle := by
        obtain ⟨stands | ⟨_, stands⟩, shut⟩ | ⟨-, closed⟩ := stands
        · exact idle shut (by simp [stands])
        · exact idle shut (by simp [stands])
        · exact (owned.closed closed).1
      exact owned.goto called sound created threads loops eventHandle (fun _ => .inl left)
        (fun _ => ⟨left, by simp [CommState.free]⟩)

/-- The loop moves on or ends, with the structure allocated. -/
theorem Owned.move (owned : state.Owned) (alone : next.Alone) (called : state.created = 1)
    (sound : next.faulted = false) (created : next.created = state.created)
    (threads : next.threads = state.threads) (fdOpen : next.fdOpen = state.fdOpen)
    (kept : next.freed = false) (busy : state.loop ≠ .idle)
    (closed : next.eventHandle = false → next.loop = .idle) : next.Owned where
  alone := alone
  sound := sound
  unborn := by
    rw [threads, created]
    exact owned.unborn
  single := created ▸ owned.single
  called := fun _ => created.trans called
  closed := fun isClosed => ⟨closed isClosed, created.trans called⟩
  shut := by
    rw [fdOpen, threads]
    exact fun isShut => .inr ((owned.shut isShut).resolve_left busy)
  freed := by simp [kept]

theorem Owned.loop (owned : state.Owned) (moved : state.LoopMove i next) (alone : next.Alone) :
    next.Owned := by
  have last := owned.alone.last moved
  have busy : state.loop ≠ .idle := loop_of_last last ▸ moved.others.1
  have called := owned.called busy
  have kept : state.freed = false := by
    by_contra freed
    exact busy (owned.freed (by simpa using freed)).1
  have isOpen : state.eventHandle = true := by
    by_contra closed
    exact busy (owned.closed (by simpa using closed)).1
  have sound := owned.touch_faulted kept
  cases moved with
  | leave | sendLast =>
      exact owned.move alone called sound rfl rfl rfl kept busy fun _ => loop_loopTo last
  | check | wake | timeout =>
      exact owned.move alone called owned.sound rfl rfl rfl kept busy
        (by simp [loopTo, isOpen])
  | ready | enter | read | clear | send =>
      exact owned.move alone called sound rfl rfl rfl kept busy
        (by simp [loopTo, touch, isOpen])

theorem Owned.startLoop (owned : state.Owned) (alone : state.startLoop.Alone)
    (none : state.created = 0) : state.startLoop.Owned := by
  have kept : state.freed = false := by
    by_contra freed
    have called := (owned.freed (by simpa using freed)).2.1
    omega
  have isOpen : state.eventHandle = true := by
    by_contra closed
    have called := (owned.closed (by simpa using closed)).2
    omega
  have first : state.startLoop.created = 1 := by simp [CommState.startLoop, none]
  refine ⟨alone, owned.sound, ?_, first.le, fun _ => first, ?_, ?_, ?_⟩
  · intro i late
    have late : state.created + 1 ≤ i := late
    rw [(startLoop_of_ne (by omega)).2]
    exact owned.unborn i (by omega)
  · simp [CommState.startLoop, isOpen]
  · exact fun _ => .inr (.inl (by simp [CommState.startLoop, none]))
  · simp [CommState.startLoop, kept]

/-- The structure is used while it is allocated. -/
theorem Owned.touch (owned : state.Owned) (kept : state.freed = false) : state.touch.Owned :=
  { owned with sound := owned.touch_faulted kept }

theorem Owned.setCommMask (owned : state.Owned) (isOpen : state.fdOpen = true) :
    state.setCommMask.Owned where
  alone := owned.alone
  sound := owned.sound
  unborn := by
    intro i late
    change disturb (state.threads i) = .absent
    rw [owned.unborn i late]
    rfl
  single := owned.single
  called := owned.called
  closed := owned.closed
  shut := by simp [CommState.setCommMask, isOpen]
  freed := by
    intro freed
    obtain ⟨idle, called, ended⟩ := owned.freed freed
    refine ⟨idle, called, ?_⟩
    change disturb (state.threads 0) = .ended
    rw [ended]
    rfl

theorem Owned.step (owned : state.Owned) (allowed : OneLoop state label)
    (stepped : commEvents.step state label = some next) : next.Owned := by
  have alone := owned.alone.step allowed.oneAtATime stepped
  obtain ⟨-, moved⟩ := commEvents_step stepped
  cases label with
  | eventLoop created =>
      cases created with
      | true =>
          obtain rfl : next = _ := moved
          exact owned.startLoop alone allowed
      | false =>
          obtain rfl : next = _ := moved
          exact { owned with }
  | loop => exact owned.loop moved alone
  | thread => exact owned.thread moved
  | nativeSetEventFlag event flag =>
      have kept : state.freed = false := by
        by_contra freed
        obtain ⟨idle, called, -⟩ := owned.freed (by simpa using freed)
        obtain none | busy := allowed
        · omega
        · exact busy idle
      obtain ⟨flagged, isFlagged, rfl⟩ := moved
      have flagged : flagged.Owned := isFlagged ▸ { owned.touch kept with }
      split
      next isOpen => exact flagged.setCommMask (isFlagged ▸ isOpen)
      next => exact flagged
  | interruptEventLoop =>
      obtain rfl : next = _ := moved
      exact { owned with }
  | nativeClose =>
      obtain rfl : next = _ := moved
      exact { owned with shut := fun _ => .inl allowed }

end CommState

theorem Opened.owned {state : CommState} (opened : Opened state) : state.Owned := by
  have alone := opened.alone
  obtain ⟨-, isOpen, object, -, kept, sound, idle, absent, created, -⟩ := opened
  exact ⟨alone, sound, fun i _ => absent i, by simp [created], by simp [CommState.loop, idle],
    by simp [object], by simp [isOpen], by simp [kept]⟩

/-- In runs with one loop, freed memory is never used and nothing is freed twice. -/
theorem freed_never_used {state : CommState} (reached : commEvents.ReachedBy OneLoop state) :
    state.faulted = false ∧
      (state.freed = true → ∀ i, state.loops i = .idle ∧
        (state.threads i = .ended ∨ state.threads i = .absent)) := by
  have owned : state.Owned :=
    reached.invariant (fun _ (opened : Opened _) => opened.owned)
      fun _ _ _ owned allowed stepped => owned.step allowed stepped
  refine ⟨owned.sound, ?_⟩
  intro freed
  obtain ⟨idle, called, ended⟩ := owned.freed freed
  intro i
  by_cases first : i = 0
  · subst first
    exact ⟨CommState.loop_of_last called.symm ▸ idle, .inl ended⟩
  · exact ⟨owned.alone i (by omega), .inr (owned.unborn i (by omega))⟩

/-- The loop ends, and the thread frees the structure at the next event. -/
theorem freed_never_used_interrupted :
    ∃ state, commEvents.ReachedBy OneLoop state ∧ state.freed = true ∧
      state.faulted = false := by
  have reached : commEvents.ReachedBy OneLoop _ :=
    (System.ReachedBy.start opened_newPort).runAllowed
      (starts 0 ++ [.interruptEventLoop] ++ loops 0 1 ++ reports 0 evPower ++ [.nativeClose]) rfl
  exact ⟨_, reached, rfl, (freed_never_used reached).1⟩

/-- A second call of `eventLoop` after that uses the freed structure. -/
example : ∃ state, commEvents.Reachable state ∧ state.faulted = true := by
  refine ⟨_, System.reachable_of_run
    (starts 0 ++ [.interruptEventLoop] ++ loops 0 1 ++ reports 0 evPower ++
      [.eventLoop true, .thread 1 none]) opened_newPort rfl, rfl⟩

end Jrxtx.WinCE
