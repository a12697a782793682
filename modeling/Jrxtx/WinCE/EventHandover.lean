import Jrxtx.WinCE.CommEvents

/-!
# The handover between the event threads

`WaitCommEvent` reports an empty mask when `nativeSetEventFlag` interferes, and the thread
does not wait for the loop to take it: the next event may be overwritten.  Between waits the
flags can be set without a loss.  The first loop to end takes the event object with it, and
loops of the port that have not come to their wait by then end there.
-/

namespace Jrxtx.WinCE

open Jrxtx.SerialImp.SerialEvents Jrxtx.Transition

/-- The loop has not come to its wait. -/
def LoopPc.Early : LoopPc → Prop
  | .idle | .check | .ready | .enter => True
  | _ => False

/-- The loop has nothing to clear, and sends events if it sends. -/
def LoopPc.Free : LoopPc → Prop
  | .read | .clear _ => False
  | .send dwEvent => dwEvent ≠ 0
  | _ => True

namespace CommState

variable {state next : CommState} {i : Nat} {label : CommLabel}

/-! ## The event object -/

/-- One loop runs at a time, threads are created in order, and the event object is open from
the start until the first loop ends. -/
structure Lives (state : CommState) : Prop where
  alone : state.Alone
  unborn : ∀ i, state.created ≤ i → state.threads i = .absent
  fresh : state.eventHandle = true → state.loop = .idle → state.created = 0
  single : state.eventHandle = true → state.created ≤ 1
  closed : state.eventHandle = false → state.loop.Early

theorem Lives.of_eq (lives : state.Lives) (threads : ∀ i, state.threads i = .absent →
    next.threads i = .absent) (created : next.created = state.created)
    (eventHandle : next.eventHandle = state.eventHandle) (loops : next.loops = state.loops) :
    next.Lives where
  alone := lives.alone.of_eq loops created
  unborn := fun i late => threads i (lives.unborn i (created ▸ late))
  fresh := by
    rw [created, eventHandle, loop_eq loops created]
    exact lives.fresh
  single := by
    rw [created, eventHandle]
    exact lives.single
  closed := by
    rw [eventHandle, loop_eq loops created]
    exact lives.closed

theorem Lives.thread (lives : state.Lives) (moved : state.ThreadMove i next) : next.Lives := by
  obtain ⟨present, others, created, eventHandle, loops, -⟩ := moved.others
  refine lives.of_eq ?_ created eventHandle loops
  intro j absent
  have other : j ≠ i := by
    rintro rfl
    exact present absent
  obtain kept | kept := others j other <;> simp [kept, absent, disturb]

/-- The loop goes on, and the event object stays as it is. -/
theorem Lives.move (lives : state.Lives) {pc : LoopPc} (alone : next.Alone)
    (threads : next.threads = state.threads) (created : next.created = state.created)
    (eventHandle : next.eventHandle = state.eventHandle) (loop : next.loop = pc)
    (goesOn : pc ≠ .idle) (early : state.eventHandle = false → pc.Early) : next.Lives where
  alone := alone
  unborn := by
    rw [threads, created]
    exact lives.unborn
  fresh := fun _ idle => absurd (loop.symm.trans idle) goesOn
  single := by
    rw [created, eventHandle]
    exact lives.single
  closed := by
    rw [eventHandle, loop]
    exact early

/-- The loop ends, and the event object is closed. -/
theorem Lives.leave (lives : state.Lives) (alone : next.Alone)
    (threads : next.threads = state.threads) (created : next.created = state.created)
    (eventHandle : next.eventHandle = false) (left : next.loop = .idle) : next.Lives where
  alone := alone
  unborn := by
    rw [threads, created]
    exact lives.unborn
  fresh := by simp [eventHandle]
  single := by simp [eventHandle]
  closed := fun _ => left ▸ trivial

theorem Lives.loop (lives : state.Lives) (moved : state.LoopMove i next) (alone : next.Alone) :
    next.Lives := by
  have last := lives.alone.last moved
  have woken (awake : ¬(state.loops i).Early) (closed : state.eventHandle = false) : False :=
    awake (loop_of_last last ▸ lives.closed closed)
  cases moved with
  | leave | sendLast => exact lives.leave alone rfl rfl rfl (loop_loopTo last)
  | check | ready =>
      exact lives.move alone rfl rfl rfl (loop_loopTo last) (by simp) fun _ => trivial
  | enter stands isOpen =>
      exact lives.move alone rfl rfl rfl (loop_loopTo last) (by simp) (by simp [isOpen])
  | wake stands | timeout stands | read stands | clear _ stands | send _ stands =>
      refine lives.move alone rfl rfl rfl (loop_loopTo last) (by simp) ?_
      intro closed
      exact (woken (by simp [stands, LoopPc.Early]) closed).elim

theorem Lives.startLoop (lives : state.Lives) (idle : state.loop = .idle)
    (alone : state.startLoop.Alone) : state.startLoop.Lives where
  alone := alone
  unborn := by
    intro i late
    have late : state.created + 1 ≤ i := late
    rw [(startLoop_of_ne (by omega)).2]
    exact lives.unborn i (by omega)
  fresh := by simp [loop_startLoop]
  single := by
    intro isOpen
    have none := lives.fresh isOpen idle
    simp [CommState.startLoop, none]
  closed := by
    intro _
    rw [loop_startLoop]
    trivial

theorem Lives.step (lives : state.Lives) (allowed : OneAtATime state label)
    (stepped : commEvents.step state label = some next) : next.Lives := by
  have alone := lives.alone.step allowed stepped
  obtain ⟨-, moved⟩ := commEvents_step stepped
  cases label with
  | eventLoop created =>
      cases created with
      | true =>
          obtain rfl : next = _ := moved
          exact lives.startLoop (lives.alone.idle allowed) alone
      | false =>
          obtain rfl : next = _ := moved
          exact lives.of_eq (fun _ absent => absent) rfl rfl rfl
  | loop => exact lives.loop moved alone
  | thread => exact lives.thread moved
  | nativeSetEventFlag event flag =>
      obtain ⟨flagged, rfl, rfl⟩ := moved
      split
      next =>
        refine lives.of_eq ?_ rfl rfl rfl
        intro i absent
        simp [setCommMask, touch, absent, disturb]
      next => exact lives.of_eq (fun _ absent => absent) rfl rfl rfl
  | interruptEventLoop =>
      obtain rfl : next = _ := moved
      exact lives.of_eq (fun _ absent => absent) rfl rfl rfl
  | nativeClose =>
      obtain rfl : next = _ := moved
      exact lives.of_eq (fun _ absent => absent) rfl rfl rfl

end CommState

theorem Opened.lives {state : CommState} (opened : Opened state) : state.Lives := by
  have alone := opened.alone
  obtain ⟨-, -, isOpen, -, -, -, -, absent, created, -⟩ := opened
  exact ⟨alone, fun i _ => absent i, fun _ _ => created, fun _ => by simp [created],
    by simp [isOpen]⟩

/-! ## Handing over -/

/-- A thread is in `WaitCommEvent`. -/
def ThreadPc.waits : ThreadPc → Bool
  | .wait _ => true
  | _ => false

/-- `eventLoop` is not called while another call of it is running, and `nativeSetEventFlag`
not while a thread is in `WaitCommEvent`. -/
def FlagsBetweenWaits (state : CommState) (label : CommLabel) : Prop :=
  OneAtATime state label ∧
    match label with
    | .nativeSetEventFlag _ _ => ∀ i < state.created, (state.threads i).waits = false
    | _ => True

instance : ∀ state label, Decidable (FlagsBetweenWaits state label)
  | state, .nativeSetEventFlag event flag =>
      inferInstanceAs (Decidable (OneAtATime state (.nativeSetEventFlag event flag) ∧
        ∀ i < state.created, (state.threads i).waits = false))
  | _, .eventLoop _ | _, .loop _ _ _ | _, .thread _ _ | _, .interruptEventLoop | _, .nativeClose =>
      inferInstanceAs (Decidable (_ ∧ True))

/-- The thread stores a mask only when the loop has cleared the one before, and the loop is
woken once for each mask. -/
def Paired (pc : ThreadPc) (event : Mask) (signaled : Bool) (loop : LoopPc) : Prop :=
  match pc with
  | .remask | .setEvent => event ≠ 0 ∧ signaled = false ∧ loop.Free
  | .wait true => False
  | .spin =>
      event ≠ 0 ∧ signaled = true ∧ loop.Free ∨
        event ≠ 0 ∧ signaled = false ∧ (loop = .read ∨ loop = .clear event) ∨
        event = 0 ∧ signaled = false ∧ loop.Free
  | .ended => signaled = false ∧ loop.Free
  | _ => event = 0 ∧ signaled = false ∧ loop.Free

section Pairing

variable {pc : ThreadPc} {event dwEvent : Mask} {signaled : Bool} {loop other : LoopPc}

/-- The loop is woken only while the thread spins. -/
theorem Paired.free_or (paired : Paired pc event signaled loop) :
    loop.Free ∨
      pc = .spin ∧ event ≠ 0 ∧ signaled = false ∧ (loop = .read ∨ loop = .clear event) := by
  cases pc with
  | spin =>
      obtain ⟨-, -, free⟩ | ⟨isEvent, unsignaled, woken⟩ | ⟨-, -, free⟩ := paired
      · exact .inl free
      · exact .inr ⟨rfl, isEvent, unsignaled, woken⟩
      · exact .inl free
  | wait disturbed =>
      cases disturbed with
      | true => exact paired.elim
      | false => exact .inl paired.2.2
  | ended => exact .inl paired.2
  | _ => exact .inl paired.2.2

theorem Paired.of_free (paired : Paired pc event signaled loop) (free : loop.Free)
    (still : other.Free) : Paired pc event signaled other := by
  cases pc with
  | spin =>
      obtain ⟨isEvent, signaled, -⟩ | ⟨-, -, rfl | rfl⟩ | ⟨clear, unsignaled, -⟩ := paired
      · exact .inl ⟨isEvent, signaled, still⟩
      · exact free.elim
      · exact free.elim
      · exact .inr (.inr ⟨clear, unsignaled, still⟩)
  | wait disturbed =>
      cases disturbed with
      | true => exact paired.elim
      | false => exact ⟨paired.1, paired.2.1, still⟩
  | ended => exact ⟨paired.1, still⟩
  | _ => exact ⟨paired.1, paired.2.1, still⟩

theorem Paired.wake (paired : Paired pc event true .wait) : Paired pc event false .read := by
  cases pc with
  | spin =>
      obtain ⟨isEvent, -⟩ | ⟨-, unsignaled, -⟩ | ⟨-, unsignaled, -⟩ := paired
      · exact .inr (.inl ⟨isEvent, rfl, .inl rfl⟩)
      · simp at unsignaled
      · simp at unsignaled
  | wait disturbed => cases disturbed <;> simp [Paired] at paired
  | _ => simp [Paired] at paired

theorem Paired.read (paired : Paired pc event signaled .read) :
    Paired pc event signaled (.clear event) := by
  obtain free | ⟨rfl, isEvent, unsignaled, -⟩ := paired.free_or
  · exact free.elim
  · exact .inr (.inl ⟨isEvent, unsignaled, .inr rfl⟩)

theorem Paired.clear (paired : Paired pc event signaled (.clear dwEvent)) :
    Paired pc 0 signaled (.send dwEvent) := by
  obtain free | ⟨rfl, isEvent, unsignaled, woken | copied⟩ := paired.free_or
  · exact free.elim
  · simp at woken
  · obtain rfl := LoopPc.clear.inj copied
    exact .inr (.inr ⟨rfl, unsignaled, isEvent⟩)

theorem Paired.send (paired : Paired pc event signaled (.send dwEvent)) :
    dwEvent ≠ 0 ∧ Paired pc event signaled .check := by
  obtain free | ⟨-, -, -, woken | copied⟩ := paired.free_or
  · exact ⟨free, paired.of_free free trivial⟩
  · simp at woken
  · simp at copied

end Pairing

theorem pendingOf_append {loop : LoopPc} {mask : Mask} (free : loop.Free) (isEvent : mask ≠ 0) :
    pendingOf loop mask = pendingOf loop 0 ++ [mask] := by
  cases loop with
  | clear => exact free.elim
  | send dwEvent => simp only [pendingOf, nonzero_of_ne isEvent, nonzero_zero, List.append_nil]
  | _ => simp only [pendingOf, nonzero_of_ne isEvent, nonzero_zero, List.nil_append]

namespace CommState

variable {state next : CommState} {i : Nat} {label : CommLabel}

/-- Every reported mask has been sent or is on its way, in order. -/
structure Handover (state : CommState) : Prop where
  lives : state.Lives
  paired : state.eventHandle = true →
    Paired (state.threads 0) state.info.event state.signaled state.loop
  complete : state.eventHandle = true → state.sent ++ state.pending = state.reported
  closed : state.sent <+: state.reported

/-- With the event object open only the first thread moves. -/
theorem Handover.first (handover : state.Handover) (isOpen : state.eventHandle = true)
    (moved : state.ThreadMove i next) : i = 0 := by
  have single := handover.lives.single isOpen
  by_contra other
  exact moved.others.1 (handover.lives.unborn i (by omega))

theorem Paired.thread (paired : Paired (state.threads 0) state.info.event state.signaled
    state.loop) (isOpen : state.eventHandle = true) (moved : state.ThreadMove 0 next) :
    Paired (next.threads 0) next.info.event next.signaled state.loop := by
  cases moved with
  | specify old new stands moves =>
      obtain ⟨rfl, rfl⟩ | ⟨rfl, rfl⟩ := moves <;>
        simpa [goto, setCommMask, touch, stands, Paired] using paired
  | giveUp stands =>
      obtain stands | stands := stands <;> simp [stands, Paired] at paired <;>
        simp [goto, touch, Paired, paired]
  | announce stands => simpa [goto, touch, stands, Paired] using paired
  | enter new stands moves =>
      simp only [stands, Paired] at paired
      obtain rfl | rfl | rfl := moves <;> simp [goto, Paired, paired]
  | fail stands =>
      simp only [stands, Paired] at paired
      simp [goto, Paired, paired]
  | disturbed stands => simp [stands, Paired] at paired
  | report mask stands _ isEvent =>
      simp only [stands, Paired] at paired
      simpa [goto, touch, Paired, paired] using isEvent
  | signal stands =>
      simp only [stands, Paired] at paired
      simpa [goto, touch, Paired, paired] using paired.1
  | spin stands => simpa [goto, touch, stands, Paired] using paired
  | cleared stands clear =>
      simp only [stands, Paired, clear, ne_eq, not_true, false_and, false_or, true_and] at paired
      simp [goto, touch, Paired, clear, paired]
  | free stands =>
      obtain ⟨stands | ⟨disturbed, stands⟩, -⟩ | ⟨-, closed⟩ := stands
      · simp only [stands, Paired] at paired
        simp [CommState.free, touch, Paired, paired]
      · cases disturbed <;> simp only [stands, Paired] at paired
        simp [CommState.free, touch, Paired, paired]
      · simp [isOpen] at closed

theorem Handover.of_eq (handover : state.Handover) (lives : next.Lives)
    (paired : next.eventHandle = true →
      Paired (next.threads 0) next.info.event next.signaled next.loop)
    (eventHandle : next.eventHandle = state.eventHandle) (sent : next.sent = state.sent)
    (reported : next.reported = state.reported)
    (pending : state.eventHandle = true → next.pending = state.pending) : next.Handover where
  lives := lives
  paired := paired
  complete := by
    intro isOpen
    rw [eventHandle] at isOpen
    rw [sent, reported, pending isOpen]
    exact handover.complete isOpen
  closed := by
    rw [sent, reported]
    exact handover.closed

theorem Handover.thread (handover : state.Handover) (moved : state.ThreadMove i next) :
    next.Handover := by
  have lives := handover.lives.thread moved
  have opened : next.eventHandle = state.eventHandle := moved.others.2.2.2.1
  have paired (isOpen : next.eventHandle = true) :
      Paired (next.threads 0) next.info.event next.signaled next.loop := by
    rw [opened] at isOpen
    obtain rfl := handover.first isOpen moved
    rw [loop_eq moved.others.2.2.2.2.1 moved.others.2.2.1]
    exact Paired.thread (handover.paired isOpen) isOpen moved
  cases moved with
  | report mask stands fdOpen isEvent =>
      refine ⟨lives, paired, ?_, handover.closed.trans (List.prefix_append _ _)⟩
      intro isOpen
      obtain rfl := handover.first isOpen (.report mask stands fdOpen isEvent)
      have before := handover.paired isOpen
      simp only [stands, Paired] at before
      have complete := handover.complete isOpen
      simp only [pending, before.1] at complete
      change state.sent ++ pendingOf state.loop mask = state.reported ++ [mask]
      rw [pendingOf_append before.2.2 isEvent, ← List.append_assoc, complete]
  | disturbed stands fdOpen =>
      refine handover.of_eq lives paired rfl rfl rfl ?_
      intro isOpen
      obtain rfl := handover.first isOpen (.disturbed stands fdOpen)
      have before := handover.paired isOpen
      simp [stands, Paired] at before
  | _ => exact handover.of_eq lives paired rfl rfl rfl fun _ => rfl

theorem Handover.complete_send (handover : state.Handover) (isOpen : state.eventHandle = true)
    {dwEvent : Mask} (stands : state.loop = .send dwEvent) (isEvent : dwEvent ≠ 0) :
    (state.sent ++ [dwEvent]) ++ nonzero state.info.event = state.reported := by
  have complete := handover.complete isOpen
  rwa [pending, stands, pendingOf, nonzero_of_ne isEvent, ← List.append_assoc] at complete

/-- The only loop moves on, and what it holds and has not copied stays. -/
theorem Handover.loopTo (handover : state.Handover) {pc : LoopPc} (lives : next.Lives)
    (last : i + 1 = state.created) (loops : next.loop = pc)
    (eventHandle : next.eventHandle = state.eventHandle) (sent : next.sent = state.sent)
    (reported : next.reported = state.reported) (threads : next.threads = state.threads)
    (paired : state.eventHandle = true →
      Paired (state.threads 0) state.info.event state.signaled (state.loops i) →
      Paired (state.threads 0) next.info.event next.signaled pc)
    (pending : pendingOf pc next.info.event = pendingOf (state.loops i) state.info.event) :
    next.Handover := by
  have current := loop_of_last last
  refine handover.of_eq lives ?_ eventHandle sent reported ?_
  · rw [eventHandle, threads, loops]
    intro isOpen
    exact paired isOpen (current ▸ handover.paired isOpen)
  · intro _
    rw [CommState.pending, CommState.pending, loops, current]
    exact pending

theorem Handover.loop (handover : state.Handover) (moved : state.LoopMove i next)
    (lives : next.Lives) : next.Handover := by
  have last := handover.lives.alone.last moved
  have current := loop_of_last last
  have woken (awake : ¬(state.loops i).Early) : state.eventHandle = true := by
    by_contra closed
    exact awake (current ▸ handover.lives.closed (by simpa using closed))
  cases moved with
  | leave stands => exact ⟨lives, by simp [CommState.leave], by simp [CommState.leave],
      handover.closed⟩
  | check stands | ready stands | enter stands | timeout stands =>
      refine handover.loopTo lives last (loop_loopTo last) rfl rfl rfl rfl ?_ ?_
      · intro _ paired
        rw [stands] at paired
        exact paired.of_free trivial trivial
      · simp [stands, pendingOf, CommState.loopTo, touch]
  | wake stands signaled =>
      refine handover.loopTo lives last (loop_loopTo last) rfl rfl rfl rfl ?_ ?_
      · intro _ paired
        rw [stands, signaled] at paired
        exact paired.wake
      · simp [stands, pendingOf, CommState.loopTo]
  | read stands =>
      refine handover.loopTo lives last (loop_loopTo last) rfl rfl rfl rfl ?_ ?_
      · intro _ paired
        rw [stands] at paired
        exact paired.read
      · simp [stands, pendingOf]
  | clear dwEvent stands =>
      refine handover.loopTo lives last (loop_loopTo last) rfl rfl rfl rfl ?_ ?_
      · intro _ paired
        rw [stands] at paired
        exact paired.clear
      · simp [stands, pendingOf, CommState.loopTo, nonzero]
  | send dwEvent stands =>
      have isOpen := woken (by simp [stands, LoopPc.Early])
      have paired := handover.paired isOpen
      rw [current, stands] at paired
      obtain ⟨isEvent, checks⟩ := Paired.send paired
      have complete := handover.complete_send isOpen (current.trans stands) isEvent
      have now : ({ state.touch with sent := state.sent ++ [dwEvent] }.loopTo i .check).loop =
          .check := loop_loopTo last
      refine ⟨lives, ?_, ?_, ⟨_, complete⟩⟩
      · rw [now]
        exact fun _ => checks
      · intro _
        rw [pending, now]
        exact complete
  | sendLast dwEvent stands =>
      have isOpen := woken (by simp [stands, LoopPc.Early])
      have paired := handover.paired isOpen
      rw [current, stands] at paired
      obtain ⟨isEvent, -⟩ := Paired.send paired
      exact ⟨lives, by simp [CommState.leave], by simp [CommState.leave],
        ⟨_, handover.complete_send isOpen (current.trans stands) isEvent⟩⟩

/-- Flags, interruptions and closing change nothing that the handover depends on. -/
theorem Handover.keep (handover : state.Handover) (lives : next.Lives)
    (threads : next.threads = state.threads) (event : next.info.event = state.info.event)
    (signaled : next.signaled = state.signaled) (loop : next.loop = state.loop)
    (eventHandle : next.eventHandle = state.eventHandle) (sent : next.sent = state.sent)
    (reported : next.reported = state.reported) : next.Handover := by
  refine handover.of_eq lives ?_ eventHandle sent reported ?_
  · rw [threads, event, signaled, loop, eventHandle]
    exact handover.paired
  · intro _
    rw [pending, loop, event, pending]

theorem Handover.startLoop (handover : state.Handover) (idle : state.loop = .idle)
    (lives : state.startLoop.Lives) : state.startLoop.Handover := by
  refine handover.of_eq lives ?_ rfl rfl rfl ?_
  · intro isOpen
    have none : state.created = 0 := handover.lives.fresh isOpen idle
    have paired := handover.paired isOpen
    rw [handover.lives.unborn 0 (Nat.le_of_eq none)] at paired
    have first : state.startLoop.threads 0 = .setCommMask := by
      simp [CommState.startLoop, none]
    rw [first, loop_startLoop]
    exact ⟨paired.1, paired.2.1, trivial⟩
  · intro _
    rw [pending, loop_startLoop, pending, idle]
    rfl

theorem Handover.step (handover : state.Handover) (allowed : FlagsBetweenWaits state label)
    (stepped : commEvents.step state label = some next) : next.Handover := by
  obtain ⟨oneAtATime, between⟩ := allowed
  have lives := handover.lives.step oneAtATime stepped
  obtain ⟨-, moved⟩ := commEvents_step stepped
  cases label with
  | eventLoop created =>
      cases created with
      | true =>
          obtain rfl : next = _ := moved
          exact handover.startLoop (handover.lives.alone.idle oneAtATime) lives
      | false =>
          obtain rfl : next = _ := moved
          exact handover.keep lives rfl rfl rfl rfl rfl rfl rfl
  | loop => exact handover.loop moved lives
  | thread => exact handover.thread moved
  | nativeSetEventFlag event flag =>
      obtain ⟨flagged, rfl, rfl⟩ := moved
      have undisturbed : (fun i => disturb (state.threads i)) = state.threads := by
        funext i
        by_cases born : i < state.created
        · have awake := between i born
          cases stands : state.threads i with
          | wait disturbed => simp [stands, ThreadPc.waits] at awake
          | _ => rfl
        · rw [handover.lives.unborn i (Nat.le_of_not_lt born)]
          rfl
      split at lives
      next isOpen =>
        rw [if_pos isOpen]
        exact handover.keep lives undisturbed rfl rfl rfl rfl rfl rfl
      next isClosed =>
        rw [if_neg isClosed]
        exact handover.keep lives rfl rfl rfl rfl rfl rfl rfl
  | interruptEventLoop =>
      obtain rfl : next = _ := moved
      exact handover.keep lives rfl rfl rfl rfl rfl rfl rfl
  | nativeClose =>
      obtain rfl : next = _ := moved
      exact handover.keep lives rfl rfl rfl rfl rfl rfl rfl

end CommState

theorem Opened.handover {state : CommState} (opened : Opened state) : state.Handover where
  lives := opened.lives
  paired := by
    obtain ⟨info, -, -, unsignaled, -, -, idle, absent, -⟩ := opened
    intro _
    rw [info, CommState.loop, idle, absent]
    exact ⟨rfl, unsignaled, trivial⟩
  complete := by
    obtain ⟨info, -, -, -, -, -, idle, -, -, reported, sent⟩ := opened
    intro _
    simp [CommState.pending, CommState.loop, info, idle, reported, sent, pendingOf, nonzero]
  closed := by
    obtain ⟨-, -, -, -, -, -, -, -, -, reported, sent⟩ := opened
    simp [reported, sent]

/-- If one loop runs at a time and the flags are set only between waits, the masks of
`SendEvents` are the masks that `WaitCommEvent` has reported, in order, and until the first
loop ends the others are still on their way. -/
theorem reported_handed_over {state : CommState}
    (reached : commEvents.ReachedBy FlagsBetweenWaits state) :
    state.sent <+: state.reported ∧
      (state.eventHandle = true → state.sent ++ state.pending = state.reported) := by
  have handover : state.Handover :=
    reached.invariant (fun _ (opened : Opened _) => opened.handover)
      fun _ _ _ handover allowed stepped => handover.step allowed stepped
  exact ⟨handover.closed, handover.complete⟩

/-- An event is sent, and the next one is on its way. -/
theorem reported_handed_over_two :
    ∃ state, commEvents.ReachedBy FlagsBetweenWaits state ∧ state.sent = [evPower] ∧
      state.reported = [evPower, evPower] ∧ state.sent ++ state.pending = state.reported := by
  have reached : commEvents.ReachedBy FlagsBetweenWaits _ :=
    (System.ReachedBy.start opened_newPort).runAllowed
      (starts 0 ++ reports 0 evPower ++ loops 0 7 ++ List.replicate 2 (.thread 0 (some 0)) ++
        reports 0 evPower) rfl
  exact ⟨_, reached, rfl, rfl, (reported_handed_over reached).2 rfl⟩

/-- A flag is set during the wait: the loop copies the empty mask, and clears the event that
is reported before it has cleared the empty one. -/
example : ∃ state, commEvents.Reachable state ∧ state.eventHandle = true ∧
    state.reported = [1] ∧ state.sent = [0] ∧ state.pending = [] := by
  refine ⟨_, System.reachable_of_run
    (starts 0 ++ [.nativeSetEventFlag .dataAvailable true] ++ reports 0 0 ++ loops 0 5 ++
      List.replicate 2 (.thread 0 (some 0)) ++ reports 0 1 ++ loops 0 2) opened_newPort rfl,
    rfl, rfl, rfl, rfl⟩

/-! ## After the first loop -/

namespace CommState

variable {state next : CommState} {i : Nat} {label : CommLabel}

/-- A loop that has returned has closed the event object. -/
def Closes (state : CommState) : Prop :=
  ∀ i < state.created, state.loops i = .idle → state.eventHandle = false

theorem Closes.of_eq (closes : state.Closes) (loops : next.loops = state.loops)
    (created : next.created = state.created) (eventHandle : next.eventHandle = state.eventHandle) :
    next.Closes := by
  rw [Closes, loops, created, eventHandle]
  exact closes

theorem Closes.loop (closes : state.Closes) (moved : state.LoopMove i next) : next.Closes := by
  obtain ⟨-, others, created, -⟩ := moved.others
  intro j born returned
  by_cases moves : j = i
  · subst moves
    cases moved with
    | leave | sendLast => rfl
    | _ => simp [loopTo] at returned
  · have closed := closes j (created ▸ born) (others j moves ▸ returned)
    cases moved with
    | leave | sendLast => rfl
    | _ => exact closed

theorem Closes.step (closes : state.Closes) (stepped : commEvents.step state label = some next) :
    next.Closes := by
  obtain ⟨-, moved⟩ := commEvents_step stepped
  cases label with
  | eventLoop created =>
      cases created with
      | true =>
          obtain rfl : next = _ := moved
          intro i born returned
          have born : i < state.created + 1 := born
          by_cases new : i = state.created
          · simp [CommState.startLoop, new] at returned
          · exact closes i (by omega) ((startLoop_of_ne new).1 ▸ returned)
      | false =>
          obtain rfl : next = _ := moved
          exact closes
  | loop => exact closes.loop moved
  | thread =>
      obtain ⟨-, -, created, eventHandle, loops, -⟩ := moved.others
      exact closes.of_eq loops created eventHandle
  | nativeSetEventFlag =>
      obtain ⟨flagged, rfl, rfl⟩ := moved
      split <;> exact closes
  | interruptEventLoop =>
      obtain rfl : next = _ := moved
      exact closes
  | nativeClose =>
      obtain rfl : next = _ := moved
      exact closes

/-- No loop is about to be woken, or has been woken and has not sent its events. -/
def Unwoken (state : CommState) : Prop :=
  ∀ i, (state.loops i).Early ∨ state.loops i = .wait ∧ state.signaled = false

theorem Unwoken.of_others (unwoken : state.Unwoken) (signaled : next.signaled = state.signaled)
    (others : ∀ j, j ≠ i → next.loops j = state.loops j)
    (own : (next.loops i).Early ∨ next.loops i = .wait ∧ next.signaled = false) :
    next.Unwoken := by
  intro j
  by_cases moves : j = i
  · exact moves ▸ own
  · rw [others j moves, signaled]
    exact unwoken j

/-- A loop that has not been woken does not send. -/
theorem Unwoken.loop (unwoken : state.Unwoken) (closed : state.eventHandle = false)
    (moved : state.LoopMove i next) :
    next.Unwoken ∧ next.eventHandle = false ∧ next.sent = state.sent := by
  obtain ⟨-, others, -⟩ := moved.others
  cases moved with
  | leave =>
      refine ⟨unwoken.of_others rfl others (.inl ?_), rfl, rfl⟩
      simp [leave, loopTo, LoopPc.Early]
  | check | ready | timeout =>
      refine ⟨unwoken.of_others rfl others (.inl ?_), closed, rfl⟩
      simp [loopTo, LoopPc.Early]
  | enter stands isOpen => simp [isOpen] at closed
  | wake stands signaled =>
      obtain early | ⟨-, unsignaled⟩ := unwoken i
      · simp [stands, LoopPc.Early] at early
      · simp [signaled] at unsignaled
  | read stands | clear _ stands | send _ stands | sendLast _ stands =>
      obtain early | ⟨waits, -⟩ := unwoken i
      · simp [stands, LoopPc.Early] at early
      · simp [stands] at waits

/-- The end of the event object: loops that have not been woken never will be. -/
theorem Unwoken.step (unwoken : state.Unwoken) (closed : state.eventHandle = false)
    (stepped : commEvents.step state label = some next) :
    next.Unwoken ∧ next.eventHandle = false ∧ next.sent = state.sent := by
  obtain ⟨-, moved⟩ := commEvents_step stepped
  cases label with
  | eventLoop created =>
      cases created with
      | true =>
          obtain rfl : next = _ := moved
          refine ⟨?_, closed, rfl⟩
          intro i
          by_cases new : i = state.created
          · exact .inl (by simp [CommState.startLoop, new, LoopPc.Early])
          · rw [(startLoop_of_ne new).1]
            exact unwoken i
      | false =>
          obtain rfl : next = _ := moved
          exact ⟨unwoken, closed, rfl⟩
  | loop => exact unwoken.loop closed moved
  | thread =>
      obtain ⟨-, -, -, eventHandle, loops, sent⟩ := moved.others
      refine ⟨?_, eventHandle.trans closed, sent⟩
      cases moved with
      | signal stands isOpen => simp [isOpen] at closed
      | _ => exact unwoken
  | nativeSetEventFlag =>
      obtain ⟨flagged, rfl, rfl⟩ := moved
      split <;> exact ⟨unwoken, closed, rfl⟩
  | interruptEventLoop =>
      obtain rfl : next = _ := moved
      exact ⟨unwoken, closed, rfl⟩
  | nativeClose =>
      obtain rfl : next = _ := moved
      exact ⟨unwoken, closed, rfl⟩

end CommState

theorem Opened.closes {state : CommState} (opened : Opened state) : state.Closes := by
  obtain ⟨-, -, -, -, -, -, -, -, created, -⟩ := opened
  intro i born
  omega

/-- Once a loop of the port has returned and no other has been woken, neither the loops that
are running nor later ones send anything, whatever the port reports. -/
theorem later_loops_send_nothing {state final : CommState} {labels : List CommLabel} {i : Nat}
    (reachable : commEvents.Reachable state) (called : i < state.created)
    (returned : state.loops i = .idle) (unwoken : state.Unwoken)
    (ran : commEvents.run state labels = some final) : final.sent = state.sent := by
  have closes : state.Closes :=
    reachable.invariant (fun _ (opened : Opened _) => opened.closes)
      fun _ _ _ closes stepped => closes.step stepped
  have closed := closes i called returned
  clear reachable called returned closes
  induction labels generalizing state with
  | nil =>
      obtain rfl := Option.some.inj ran
      rfl
  | cons label labels ih =>
      obtain ⟨next, stepped, ran⟩ := System.run_cons.mp ran
      obtain ⟨still, closed, sent⟩ := unwoken.step closed stepped
      rw [← sent]
      exact ih still ran closed

/-- The first loop is interrupted while a second one waits.  That one finds the event object
closed at its next wait, and so does a third; the event that is reported is not sent. -/
theorem later_loops_send_nothing_second :
    ∃ state final, commEvents.Reachable state ∧
      commEvents.run state
        ([.eventLoop true] ++ List.replicate 3 (.thread 1 (some 0)) ++
          [.thread 1 (some evPower)] ++ loops 1 4 ++ loops 2 3) = some final ∧
      final.reported = [evPower, evPower] ∧ (∀ i, final.loops i = .idle) ∧
      final.sent = state.sent := by
  have reachable : commEvents.Reachable _ := System.reachable_of_run
    (starts 0 ++ reports 0 evPower ++ loops 0 7 ++ [.eventLoop true] ++ loops 1 3 ++
      [.interruptEventLoop] ++ loops 0 1) opened_newPort rfl
  refine ⟨_, _, reachable, rfl, rfl, ?_, ?_⟩
  · rintro (_ | _ | _ | _) <;> rfl
  · apply later_loops_send_nothing (i := 0) reachable (by decide) rfl
    · rintro (_ | _ | _)
      · exact .inl trivial
      · exact .inr ⟨rfl, rfl⟩
      · exact .inl trivial
    · show commEvents.run _ ([.eventLoop true] ++ List.replicate 3 (.thread 1 (some 0)) ++
        [.thread 1 (some evPower)] ++ loops 1 4 ++ loops 2 3) = some _
      rfl

end Jrxtx.WinCE
