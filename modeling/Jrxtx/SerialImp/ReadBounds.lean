import Mathlib.Logic.Relation
import Mathlib.Tactic.SplitIfs
import Jrxtx.SerialImp.DataAvailable
import Jrxtx.Transition.Loop

/-!
# Where a read writes

The loop of `read_byte_array` with every call of `SELECT` as a step of its own, so that one
that a signal interrupts is made again, and with the part of the buffer that each `READ` is
given.  What happens between two tests of the loop condition is one `Reading.round`.
-/

namespace Jrxtx.SerialImp.ReadBounds

open Transition
open DataAvailable (Reading Outcome)

/-- What a call of `SELECT` returns, and whether `errno` is `EINTR` then. -/
structure Selected where
  ret : Int
  eintr : Bool

/-- The outcomes of the system calls of one `read_byte_array`, each numbered from 0. -/
structure SystemCalls where
  /-- the first `GetTickCount()` -/
  start : Int
  /-- the `GetTickCount()` of each round -/
  tick : Nat → Int
  select : Nat → Selected
  /-- `READ`, by the number of bytes asked for; `none` is a negative result, whatever `errno`
  says -/
  read : Nat → Int → Option (List UInt8)

/-- `ret < 0 && errno == EINTR` -/
def Selected.Interrupted (selected : Selected) : Prop :=
  selected.ret < 0 ∧ selected.eintr = true

instance (selected : Selected) : Decidable selected.Interrupted :=
  inferInstanceAs (Decidable (_ ∧ _))

/-- The arguments `buffer + bytes` and `left` of a `READ`. -/
structure Asked where
  bytes : Int
  left : Int
  deriving DecidableEq, Repr

/-- The part of the buffer lies in `buffer[0..length)`. -/
def Asked.Within (asked : Asked) (length : Int) : Prop :=
  0 ≤ asked.bytes ∧ 0 ≤ asked.left ∧ asked.bytes + asked.left ≤ length

instance (asked : Asked) (length : Int) : Decidable (asked.Within length) :=
  inferInstanceAs (Decidable (_ ∧ _))

inductive Pc where
  /-- at the condition of the outer loop -/
  | head
  /-- at the `SELECT` of the inner loop -/
  | selecting
  deriving DecidableEq, Repr

/-- The local variables, and the calls made so far. -/
structure State where
  reading : Reading
  now : Int := 0
  pc : Pc := .head
  selects : Nat := 0
  asked : List Asked := []

def State.begin (flag length timeout : Int) (calls : SystemCalls) : State where
  reading := Reading.begin flag length timeout calls.start

namespace State

section Loops

variable (calls : SystemCalls) (state : State)

/-- `READ(fd, buffer + bytes, left)`, as it is recorded. -/
def ask : List Asked :=
  state.asked ++ [⟨state.reading.bytes, state.reading.left⟩]

/-- `count++`, and then `now = GetTickCount()` if there is a timeout. -/
def next : State :=
  { state with
    reading := { state.reading with count := state.reading.count + 1 }
    now := if 0 ≤ state.reading.timeout then calls.tick state.reading.count else state.now
    pc := .selecting }

/-- `timeout >= 0` and `now - start >= timeout` -/
def TimedOut : Prop :=
  0 ≤ state.reading.timeout ∧ state.reading.timeout ≤ state.now - state.reading.start

instance : Decidable state.TimedOut :=
  inferInstanceAs (Decidable (_ ∧ _))

/-- `bytes += ret; left -= ret;` -/
def receive (received : List UInt8) : State :=
  { state with
    reading :=
      { state.reading with
        buffer := state.reading.buffer ++ received
        bytes := state.reading.bytes + received.length
        left := state.reading.left - received.length }
    pc := .head
    asked := state.ask }

/-- The condition of the outer loop and the test of the time. -/
def test : Except (Int × List Asked) State :=
  if state.reading.bytes < state.reading.length ∧ state.reading.count < 20 then
    if (state.next calls).TimedOut then .error (state.reading.bytes, state.asked)
    else .ok (state.next calls)
  else .error (state.reading.bytes, state.asked)

/-- One `SELECT`, and the `READ` behind it. -/
def select : Except (Int × List Asked) State :=
  let selected := calls.select state.selects
  let state := { state with selects := state.selects + 1 }
  if selected.Interrupted then .ok state
  else if selected.ret = -1 then .error (-1, state.asked)
  else if 0 < selected.ret then
    match calls.read state.asked.length state.reading.left with
    | none => .error (-1, state.ask)
    | some received => .ok (state.receive received)
  else .ok { state with pc := .head }

end Loops

end State

/-- One step of the two loops; `.error` is a `return`, with the `READ`s that have been made. -/
def body (calls : SystemCalls) (state : State) : Except (Int × List Asked) State :=
  match state.pc with
  | .head => state.test calls
  | .selecting => state.select calls

/-- The loop gets from one state to another. -/
def Reaches (calls : SystemCalls) : State → State → Prop :=
  Relation.ReflTransGen fun state next => body calls state = .ok next

/-- A read returns at most the number of bytes asked for. -/
def SystemCalls.AtMostAsked (calls : SystemCalls) : Prop :=
  ∀ n left received, 0 ≤ left → calls.read n left = some received → received.length ≤ left

/-- Signals interrupt `SELECT` only finitely often. -/
def SystemCalls.FinitelyInterrupted (calls : SystemCalls) : Prop :=
  ∃ bound, ∀ n, bound ≤ n → ¬(calls.select n).Interrupted

/-! ## What a step does -/

section Cases

variable (calls : SystemCalls) (state : State)

/-- The outer loop goes on. -/
structure Enters : Prop where
  atHead : state.pc = .head
  goesOn : state.reading.bytes < state.reading.length ∧ state.reading.count < 20
  inTime : ¬(state.next calls).TimedOut

/-- `SELECT` returns, and not because of a signal. -/
structure Selects (ret : Int) : Prop where
  atSelect : state.pc = .selecting
  uninterrupted : ¬(calls.select state.selects).Interrupted
  returned : (calls.select state.selects).ret = ret

/-- What a step that goes on does. -/
inductive Steps : State → Prop where
  | enter (enters : Enters calls state) : Steps (state.next calls)
  | again (atSelect : state.pc = .selecting)
      (interrupted : (calls.select state.selects).Interrupted) :
      Steps { state with selects := state.selects + 1 }
  | receive {ret : Int} {received : List UInt8} (selects : Selects calls state ret)
      (isReady : 0 < ret)
      (read : calls.read state.asked.length state.reading.left = some received) :
      Steps ({ state with selects := state.selects + 1 }.receive received)
  | notReady {ret : Int} (selects : Selects calls state ret) (valid : ret ≠ -1)
      (notReady : ¬0 < ret) :
      Steps { state with selects := state.selects + 1, pc := .head }

/-- What a step that returns does. -/
inductive Returns : Int × List Asked → Prop where
  | complete (atHead : state.pc = .head)
      (complete : ¬(state.reading.bytes < state.reading.length ∧ state.reading.count < 20)) :
      Returns (state.reading.bytes, state.asked)
  | timedOut (atHead : state.pc = .head)
      (goesOn : state.reading.bytes < state.reading.length ∧ state.reading.count < 20)
      (late : (state.next calls).TimedOut) :
      Returns (state.reading.bytes, state.asked)
  | selectFails (selects : Selects calls state (-1)) : Returns (-1, state.asked)
  | readFails {ret : Int} (selects : Selects calls state ret) (isReady : 0 < ret)
      (read : calls.read state.asked.length state.reading.left = none) :
      Returns (-1, state.ask)

variable {calls state} {next : State} {result : Int × List Asked}

theorem steps_of_body (stepped : body calls state = .ok next) : Steps calls state next := by
  rw [body] at stepped
  split at stepped
  next atHead =>
    rw [State.test] at stepped
    split_ifs at stepped with goesOn late
    obtain rfl := Except.ok.inj stepped
    exact .enter ⟨atHead, goesOn, late⟩
  next atSelect =>
    simp only [State.select] at stepped
    split_ifs at stepped with interrupted failed isReady
    · obtain rfl := Except.ok.inj stepped
      exact .again atSelect interrupted
    · split at stepped
      next => simp at stepped
      next received read =>
        obtain rfl := Except.ok.inj stepped
        exact .receive ⟨atSelect, interrupted, rfl⟩ isReady read
    · obtain rfl := Except.ok.inj stepped
      exact .notReady ⟨atSelect, interrupted, rfl⟩ failed isReady

theorem returns_of_body (returned : body calls state = .error result) :
    Returns calls state result := by
  rw [body] at returned
  split at returned
  next atHead =>
    rw [State.test] at returned
    split_ifs at returned with goesOn late
    · obtain rfl := Except.error.inj returned
      exact .timedOut atHead goesOn late
    · obtain rfl := Except.error.inj returned
      exact .complete atHead goesOn
  next atSelect =>
    simp only [State.select] at returned
    split_ifs at returned with interrupted failed isReady
    · obtain rfl := Except.error.inj returned
      exact .selectFails ⟨atSelect, interrupted, failed⟩
    · split at returned
      next read =>
        obtain rfl := Except.error.inj returned
        exact .readFails ⟨atSelect, interrupted, rfl⟩ isReady read
      next => simp at returned

end Cases

/-! ## The invariant -/

/-- What holds throughout the loop. -/
structure Invariant (length : Int) (state : State) : Prop where
  requested : state.reading.length = length
  split : state.reading.bytes + state.reading.left = length
  bytes : 0 ≤ state.reading.bytes
  left : 0 ≤ state.reading.left
  asked : ∀ asked ∈ state.asked, asked.Within length

/-- What holds where the loop returns. -/
structure Post (length : Int) (result : Int × List Asked) : Prop where
  returned : result.1 = -1 ∨ 0 ≤ result.1 ∧ result.1 ≤ length
  asked : ∀ asked ∈ result.2, asked.Within length

section Invariants

variable {calls : SystemCalls} {state next : State} {result : Int × List Asked} {length : Int}

theorem invariant_begin (flag timeout : Int) (calls : SystemCalls) (valid : 0 ≤ length) :
    Invariant length (State.begin flag length timeout calls) where
  requested := rfl
  split := Int.zero_add length
  bytes := Int.le_refl 0
  left := valid
  asked := nofun

/-- The next `READ` stays within the buffer. -/
theorem Invariant.ask (held : Invariant length state) :
    ∀ asked ∈ state.ask, asked.Within length := by
  intro asked member
  rcases List.mem_append.mp member with before | now
  · exact held.asked asked before
  · obtain rfl := List.mem_singleton.mp now
    exact ⟨held.bytes, held.left, Int.le_of_eq held.split⟩

theorem Invariant.receive {received : List UInt8} (held : Invariant length state)
    (fits : received.length ≤ state.reading.left) :
    Invariant length (state.receive received) where
  requested := held.requested
  split := by
    have split := held.split
    simp only [State.receive]
    omega
  bytes := Int.add_nonneg held.bytes (Int.natCast_nonneg _)
  left := Int.sub_nonneg_of_le fits
  asked := held.ask

theorem Invariant.step (atMost : calls.AtMostAsked) (held : Invariant length state)
    (stepped : body calls state = .ok next) : Invariant length next := by
  cases steps_of_body stepped with
  | enter enters => exact { held with }
  | again => exact { held with }
  | receive selects isReady read =>
      have fits := atMost _ _ _ held.left read
      exact Invariant.receive { held with } fits
  | notReady => exact { held with }

theorem Invariant.exit (held : Invariant length state)
    (returned : body calls state = .error result) : Post length result := by
  have bound : state.reading.bytes ≤ length := by
    have split := held.split
    have left := held.left
    omega
  cases returns_of_body returned with
  | complete | timedOut => exact ⟨.inr ⟨held.bytes, bound⟩, held.asked⟩
  | selectFails => exact ⟨.inl rfl, held.asked⟩
  | readFails => exact ⟨.inl rfl, held.ask⟩

theorem Invariant.reaches (atMost : calls.AtMostAsked) (held : Invariant length state)
    (reaches : Reaches calls state next) : Invariant length next := by
  induction reaches with
  | refl => exact held
  | tail _ stepped ih => exact ih.step atMost stepped

/-! ## The end of the loop -/

/-- The interruptions that may still come, and twice the rounds that are left. -/
def variant (bound : Nat) (state : State) : Nat :=
  (bound - state.selects) + 2 * (20 - state.reading.count) +
    match state.pc with
    | .head => 0
    | .selecting => 1

theorem variant_lt {bound : Nat} (never : ∀ n, bound ≤ n → ¬(calls.select n).Interrupted)
    (stepped : body calls state = .ok next) : variant bound next < variant bound state := by
  cases steps_of_body stepped with
  | enter enters =>
      have below := enters.goesOn.2
      simp only [variant, State.next, enters.atHead]
      omega
  | again atSelect interrupted =>
      have early : state.selects < bound :=
        Nat.lt_of_not_le fun late => never _ late interrupted
      simp only [variant, atSelect]
      omega
  | receive selects | notReady selects =>
      simp only [variant, State.receive, selects.atSelect]
      omega

theorem exists_loopsTo (atMost : calls.AtMostAsked) (finitely : calls.FinitelyInterrupted)
    (held : Invariant length state) :
    ∃ result, LoopsTo (body calls) state result ∧ Post length result := by
  obtain ⟨bound, never⟩ := finitely
  obtain ⟨result, ends, post⟩ :=
    exists_loop_post (Invariant length) (variant bound) (Post length) held
      (fun _ _ held stepped => ⟨held.step atMost stepped, variant_lt never stepped⟩)
      (fun _ _ held returned => held.exit returned) (Nat.lt_succ_self (variant bound state))
  exact ⟨result, .of_loop ends, post⟩

end Invariants

/-! ## Rounds -/

/-- What a round that gets to its last `SELECT` has as its outcome. -/
def State.outcome (calls : SystemCalls) (state : State) : Outcome where
  now := state.now
  select := (calls.select state.selects).ret
  read := calls.read state.asked.length state.reading.left

/-- A round that has not got past its `SELECT`. -/
structure Entered (before : Reading) (state : State) : Prop where
  atSelect : state.pc = .selecting
  goesOn : before.bytes < before.length ∧ before.count < 20
  inTime : ¬(0 ≤ before.timeout ∧ before.timeout ≤ state.now - before.start)
  reading : state.reading = { before with count := before.count + 1 }

/-- Rounds lead to the state, or to where its round has begun. -/
inductive Simulated (first : Reading) (state : State) : Prop where
  | head (outcomes : List Outcome) (atHead : state.pc = .head)
      (rounds : outcomes.foldlM Reading.round first = .ok state.reading)
  | selecting (outcomes : List Outcome) (before : Reading)
      (rounds : outcomes.foldlM Reading.round first = .ok before)
      (entered : Entered before state)

/-- Some rounds lead to the return value. -/
def RoundsReturn (first : Reading) (returned : Int) : Prop :=
  ∃ outcomes : List Outcome, outcomes.foldlM Reading.round first = .error returned

section Rounds

variable {calls : SystemCalls} {state next : State} {result : Int × List Asked}
  {first before : Reading} {outcomes : List Outcome}

theorem foldlM_concat (rounds : outcomes.foldlM Reading.round first = .ok before)
    (outcome : Outcome) :
    (outcomes ++ [outcome]).foldlM Reading.round first = before.round outcome := by
  rw [List.foldlM_append, rounds]
  exact bind_pure (before.round outcome)

/-- The round from where it has begun to its end. -/
theorem Entered.round_eq (entered : Entered before state) (calls : SystemCalls) :
    before.round (state.outcome calls) =
      if (calls.select state.selects).ret = -1 then .error (-1)
      else if 0 < (calls.select state.selects).ret then
        match calls.read state.asked.length state.reading.left with
        | none => .error (-1)
        | some received => .ok (state.receive received).reading
      else .ok state.reading := by
  rw [State.outcome]
  generalize calls.read state.asked.length state.reading.left = read
  cases read with
  | none =>
      simp only [Reading.round, if_pos entered.goesOn, if_neg entered.inTime, entered.reading]
  | some received =>
      simp only [Reading.round, if_pos entered.goesOn, if_neg entered.inTime, State.receive,
        entered.reading]

theorem Simulated.step (simulated : Simulated first state)
    (stepped : body calls state = .ok next) : Simulated first next := by
  cases simulated with
  | head outcomes atHead rounds =>
      cases steps_of_body stepped with
      | enter enters =>
          exact .selecting outcomes state.reading rounds ⟨rfl, enters.goesOn, enters.inTime, rfl⟩
      | again atSelect => exact nomatch atHead.symm.trans atSelect
      | receive selects | notReady selects => exact nomatch atHead.symm.trans selects.atSelect
  | selecting outcomes before rounds entered =>
      have round := entered.round_eq calls
      have concat := foldlM_concat rounds (state.outcome calls)
      cases steps_of_body stepped with
      | enter enters => exact nomatch enters.atHead.symm.trans entered.atSelect
      | again => exact .selecting outcomes before rounds { entered with }
      | receive selects isReady read =>
          refine .head _ rfl (concat.trans ?_)
          rw [round, selects.returned, if_neg (by omega), if_pos isReady, read]
          rfl
      | notReady selects valid notReady =>
          refine .head _ rfl (concat.trans ?_)
          rw [round, selects.returned, if_neg valid, if_neg notReady]

theorem Simulated.exit (simulated : Simulated first state)
    (returned : body calls state = .error result) : RoundsReturn first result.1 := by
  cases simulated with
  | head outcomes atHead rounds =>
      cases returns_of_body returned with
      | complete atHead complete =>
          refine ⟨_, (foldlM_concat rounds (state.outcome calls)).trans ?_⟩
          rw [Reading.round, if_neg complete]
      | timedOut atHead goesOn late =>
          refine ⟨_, (foldlM_concat rounds ((state.next calls).outcome calls)).trans ?_⟩
          rw [Reading.round, if_pos goesOn]
          exact if_pos late
      | selectFails selects | readFails selects =>
          exact nomatch atHead.symm.trans selects.atSelect
  | selecting outcomes before rounds entered =>
      have round := entered.round_eq calls
      refine ⟨_, (foldlM_concat rounds (state.outcome calls)).trans ?_⟩
      cases returns_of_body returned with
      | complete atHead | timedOut atHead => exact nomatch atHead.symm.trans entered.atSelect
      | selectFails selects => rw [round, if_pos selects.returned]
      | readFails selects isReady read =>
          rw [round, selects.returned, if_neg (by omega), if_pos isReady, read]

/-- The loops return what rounds return. -/
theorem roundsReturn_of_loopsTo {flag length timeout : Int}
    (ends : LoopsTo (body calls) (State.begin flag length timeout calls) result) :
    RoundsReturn (Reading.begin flag length timeout calls.start) result.1 :=
  ends.of_invariant (Simulated (Reading.begin flag length timeout calls.start))
    (fun result => RoundsReturn (Reading.begin flag length timeout calls.start) result.1)
    (.head [] rfl rfl) (fun _ _ simulated stepped => simulated.step stepped)
    fun _ _ simulated returned => simulated.exit returned

end Rounds

/-! ## All calls -/

/-- `bytes` and `left` split the length between them throughout the loop, every `READ` is
given a part of the buffer, the return value is -1 or a number of bytes in it, and there is
one unless signals keep interrupting `SELECT`. -/
theorem reads_within_buffer (flag length timeout : Int) {calls : SystemCalls}
    (valid : 0 ≤ length) (atMost : calls.AtMostAsked) :
    (∀ state, Reaches calls (State.begin flag length timeout calls) state →
      state.reading.bytes + state.reading.left = length ∧ 0 ≤ state.reading.bytes ∧
        0 ≤ state.reading.left ∧ ∀ asked ∈ state.asked, asked.Within length) ∧
      (∀ result asked,
        LoopsTo (body calls) (State.begin flag length timeout calls) (result, asked) →
          (result = -1 ∨ 0 ≤ result ∧ result ≤ length) ∧ ∀ read ∈ asked, read.Within length) ∧
      (calls.FinitelyInterrupted →
        ∃ result, LoopsTo (body calls) (State.begin flag length timeout calls) result) := by
  have begins := invariant_begin flag timeout calls valid
  refine ⟨?_, ?_, ?_⟩
  · intro state reaches
    have held := begins.reaches atMost reaches
    exact ⟨held.split, held.bytes, held.left, held.asked⟩
  · intro result asked ends
    have post := ends.of_invariant (Invariant length) (Post length) begins
      (fun _ _ held stepped => held.step atMost stepped) fun _ _ held => held.exit
    exact ⟨post.returned, post.asked⟩
  · intro finitely
    obtain ⟨result, ends, -⟩ := exists_loopsTo atMost finitely begins
    exact ⟨result, ends⟩

/-- A signal comes first, and every `READ` then has all that is asked for, up to two bytes. -/
def signalled : SystemCalls where
  start := 0
  tick n := n
  select n := if n = 0 then ⟨-1, true⟩ else ⟨1, false⟩
  read _ left := some (List.replicate (min left.toNat 2) 65)

theorem reads_within_buffer_signalled :
    (∀ state, Reaches signalled (State.begin 1 3 10 signalled) state →
      state.reading.bytes + state.reading.left = 3 ∧ 0 ≤ state.reading.bytes ∧
        0 ≤ state.reading.left ∧ ∀ asked ∈ state.asked, asked.Within 3) ∧
      ∃ result, LoopsTo (body signalled) (State.begin 1 3 10 signalled) result := by
  have atMost : signalled.AtMostAsked := by
    intro n left received nonneg read
    obtain rfl := Option.some.inj read
    rw [List.length_replicate]
    omega
  have finitely : signalled.FinitelyInterrupted := by
    refine ⟨1, fun n later => ?_⟩
    simp [signalled, Selected.Interrupted, Nat.ne_of_gt later]
  have ⟨invariant, _, ends⟩ := reads_within_buffer 1 3 10 (by decide) atMost
  exact ⟨invariant, ends finitely⟩

/-- The interrupted `SELECT` is made again, and the second `READ` asks for what is left. -/
example : loop (body signalled) 10 (State.begin 1 3 10 signalled) = some (3, [⟨0, 3⟩, ⟨2, 1⟩]) :=
  rfl

end Jrxtx.SerialImp.ReadBounds
