import Jrxtx.SerialImp.WriteArray
import Jrxtx.Transition.Loop
import Mathlib.Order.Monotone.Basic

/-!
# Writing to an RS485 port

The data loop of `writeArray` goes on as long as bytes are missing or a signal interrupts
`write()`.  After it come the poll for the empty transmitter and the flush of the input.  The
modem-line `ioctl` calls around them have no part in the data.
-/

namespace Jrxtx.RS485

open Jrxtx.SerialImp Jrxtx.Transition

/-- What `tcflush()` results in. -/
inductive FlushResult where
  | ok
  | eintr
  | error (errno : Nat)
  deriving DecidableEq, Repr

/-- What happens during a call of `writeArray`: the results of the calls of `write()`, whether
the transmitter is empty at every poll, and the results of the calls of `tcflush()`. -/
structure WriteCalls where
  writes : Nat → WriteResult
  transmitterEmpty : Nat → Bool
  tcflush : Nat → FlushResult

/-- The local variables of the data loop after `calls` calls of `write()`. -/
structure Writing where
  progress : Progress
  calls : Nat
  deriving DecidableEq, Repr

/-- How `writeArray` ends, after `calls` calls of `write()`. -/
structure Written where
  outcome : WriteOutcome
  calls : Nat
  deriving DecidableEq, Repr

section Loops

variable (bytes : List UInt8) (count : Nat) (calls : WriteCalls)

/-- A round of the data loop; it ends with the last result. -/
def Writing.round (writing : Writing) : Except (WriteResult × Writing) Writing :=
  let result := calls.writes writing.calls
  let next : Writing := ⟨write bytes 0 count result writing.progress, writing.calls + 1⟩
  if next.progress.total < count ∨ result = .eintr then .ok next else .error (result, next)

/-- A round of the poll with `TIOCSERGETLSR`. -/
def pollRound (polls : Nat) : Except Nat Nat :=
  if calls.transmitterEmpty polls then .error polls else .ok (polls + 1)

/-- A round of the loop around `tcflush()`, which does not change `count`. -/
def flushRound (flushes : Nat) : Except FlushResult Nat :=
  if calls.tcflush flushes = .eintr ∧ count < 5 then .ok (flushes + 1)
  else .error (calls.tcflush flushes)

end Loops

/-- `RS485Port.writeArray`, as far as `fuel` rounds of each loop lead. -/
def writeArray (body : List UInt8) (offset count : Nat) (calls : WriteCalls) (fuel : Nat) :
    Option Written :=
  match loop (Writing.round (requested body offset count) count calls) fuel ⟨⟨0, []⟩, 0⟩ with
  | none => none
  | some (result, writing) =>
      if result.failed then some ⟨.ioException result writing.progress.sent, writing.calls⟩
      else
        match loop (pollRound calls) fuel 0 with
        | none => none
        | some _ =>
            match loop (flushRound count calls) fuel 0 with
            | none => none
            | some .ok => some ⟨.returned writing.progress.sent, writing.calls⟩
            | some .eintr => some ⟨.ioException .eintr writing.progress.sent, writing.calls⟩
            | some (.error errno) =>
                some ⟨.ioException (.error errno) writing.progress.sent, writing.calls⟩

/-! ## Complete writes -/

namespace WriteCalls

/-- How many bytes the device has accepted before call `n` of `write()`. -/
def accepted (calls : WriteCalls) (count : Nat) : Nat → Nat
  | 0 => 0
  | n + 1 => calls.accepted count n + (calls.writes n).accepted (count - calls.accepted count n)

variable (calls : WriteCalls)

/-- Call `n` of `write()` fails with another error than `EINTR`. -/
def Fails (n : Nat) : Prop :=
  ∃ errno, calls.writes n = .error errno

/-- `EINTR` and empty writes are finitely many, and what follows on the data succeeds. -/
structure Regular : Prop where
  finite : ∃ bound, ∀ n ≥ bound, calls.writes n ≠ .eintr ∧ calls.writes n ≠ .accepts 0
  transmitterEmpty : ∃ n, calls.transmitterEmpty n = true
  tcflush : calls.tcflush 0 = .ok

end WriteCalls

/-- All bytes are written, or a call fails and the exception is thrown. -/
def Written.Right (body : List UInt8) (offset count : Nat) (calls : WriteCalls)
    (written : Written) : Prop :=
  ((∃ n < written.calls, calls.Fails n) →
      ∃ result sent, written.outcome = .ioException result sent) ∧
    ((¬∃ n < written.calls, calls.Fails n) →
      written.outcome = .returned (requested body offset count))

/-- `writeArray` ends, and all bytes are written or the failure of a call is reported. -/
def Completes (body : List UInt8) (offset count : Nat) (calls : WriteCalls) : Prop :=
  ∃ fuel written, writeArray body offset count calls fuel = some written ∧
    written.Right body offset count calls

section Rounds

variable {bytes body : List UInt8} {offset count n : Nat} {calls : WriteCalls}

theorem accepted_le (calls : WriteCalls) (count n : Nat) : calls.accepted count n ≤ count := by
  induction n with
  | zero => exact Nat.zero_le count
  | succ n ih =>
      have bounded := (calls.writes n).accepted_le (count - calls.accepted count n)
      rw [WriteCalls.accepted]
      omega

theorem accepted_mono (calls : WriteCalls) (count : Nat) : Monotone (calls.accepted count) :=
  monotone_nat_of_le_succ fun _ => Nat.le_add_right _ _

/-- The local variables before call `n` of `write()`. -/
def writingAt (bytes : List UInt8) (count : Nat) (calls : WriteCalls) (n : Nat) : Writing where
  progress := ⟨calls.accepted count n, bytes.take (calls.accepted count n)⟩
  calls := n

theorem writingAt_zero (bytes : List UInt8) (count : Nat) (calls : WriteCalls) :
    ⟨⟨0, []⟩, 0⟩ = writingAt bytes count calls 0 := by
  simp [writingAt, WriteCalls.accepted]

theorem round_writingAt (bytes : List UInt8) (count : Nat) (calls : WriteCalls) (n : Nat) :
    (writingAt bytes count calls n).round bytes count calls =
      if calls.accepted count (n + 1) < count ∨ calls.writes n = .eintr then
        .ok (writingAt bytes count calls (n + 1))
      else .error (calls.writes n, writingAt bytes count calls (n + 1)) := by
  have next : write bytes 0 count (calls.writes n) (writingAt bytes count calls n).progress =
      (writingAt bytes count calls (n + 1)).progress := by
    simp [write, writingAt, WriteCalls.accepted, List.take_add]
  simp only [Writing.round]
  rw [show (writingAt bytes count calls n).calls = n from rfl, next]
  rfl

variable (count) in
theorem accepted_succ_of_failed (failed : (calls.writes n).failed = true) :
    calls.accepted count (n + 1) = calls.accepted count n := by
  rw [WriteCalls.accepted]
  cases result : calls.writes n with
  | accepts limit => simp [WriteResult.failed, result] at failed
  | eintr => rfl
  | error errno => rfl

end Rounds

/-! ## The loops after the data -/

section Tail

variable {body : List UInt8} {offset count : Nat} {calls : WriteCalls}

theorem exists_poll (regular : calls.Regular) : ∃ polls, LoopsTo (pollRound calls) 0 polls := by
  obtain ⟨n, empty⟩ := regular.transmitterEmpty
  have keeps (polls next : Nat) (before : polls ≤ n) (goesOn : pollRound calls polls = .ok next) :
      next ≤ n ∧ n - next < n - polls := by
    unfold pollRound at goesOn
    split at goesOn
    next => simp at goesOn
    next waits =>
      obtain rfl := Except.ok.inj goesOn
      have later : polls ≠ n := fun same => waits (same ▸ empty)
      omega
  obtain ⟨polls, ends⟩ := exists_loop_of_variant (· ≤ n) (n - ·) (Nat.zero_le n) keeps
    (Nat.lt_succ_self _)
  exact ⟨polls, .of_loop ends⟩

variable (count) in
theorem flush_ends (regular : calls.Regular) : LoopsTo (flushRound count calls) 0 .ok :=
  .of_error (by simp [flushRound, regular.tcflush])

variable (body offset count) in
/-- The data loop decides what `writeArray` ends with. -/
theorem exists_writeArray_iff (regular : calls.Regular) (written : Written) :
    (∃ fuel, writeArray body offset count calls fuel = some written) ↔
      ∃ result writing,
        LoopsTo (Writing.round (requested body offset count) count calls) ⟨⟨0, []⟩, 0⟩
            (result, writing) ∧
          written = ⟨if result.failed then .ioException result writing.progress.sent
            else .returned writing.progress.sent, writing.calls⟩ := by
  obtain ⟨polls, polled⟩ := exists_poll regular
  have flushed := flush_ends count regular
  constructor
  · rintro ⟨fuel, ended⟩
    unfold writeArray at ended
    split at ended
    next => simp at ended
    next result writing data =>
      refine ⟨result, writing, .of_loop data, ?_⟩
      split at ended
      next failed => exact (Option.some.inj ended).symm.trans (by rw [if_pos failed])
      next succeeds =>
        rw [if_neg succeeds]
        split at ended
        next => simp at ended
        next =>
          split at ended
          next => simp at ended
          next => exact (Option.some.inj ended).symm
          next flush => exact absurd (flushed.unique (.of_loop flush)) (by simp)
          next flush => exact absurd (flushed.unique (.of_loop flush)) (by simp)
  · rintro ⟨result, writing, ⟨fuel, data⟩, rfl⟩
    obtain ⟨fuel', poll⟩ := polled
    obtain ⟨fuel'', flush⟩ := flushed
    refine ⟨max fuel (max fuel' fuel''), ?_⟩
    rw [writeArray, loop_mono data (by omega), loop_mono poll (by omega),
      loop_mono flush (by omega)]
    simp only
    split <;> rfl

end Tail

section Complete

variable {body bytes : List UInt8} {offset count n : Nat} {calls : WriteCalls}
  {result : WriteResult} {writing : Writing}

/-- No call fails while bytes are still missing. -/
def WriteCalls.FailsLate (calls : WriteCalls) (count : Nat) : Prop :=
  ∀ n, calls.accepted count n < count → ¬calls.Fails n

variable (bytes) in
/-- The data loop ends if no call fails while bytes are missing. -/
theorem exists_data (regular : calls.Regular) (late : calls.FailsLate count) :
    ∃ outcome, LoopsTo (Writing.round bytes count calls) ⟨⟨0, []⟩, 0⟩ outcome := by
  obtain ⟨bound, finite⟩ := regular.finite
  have keeps (writing next : Writing) (isAt : ∃ n, writing = writingAt bytes count calls n)
      (goesOn : writing.round bytes count calls = .ok next) :
      (∃ n, next = writingAt bytes count calls n) ∧
        bound - next.calls + (count - next.progress.total) <
          bound - writing.calls + (count - writing.progress.total) := by
    obtain ⟨n, rfl⟩ := isAt
    rw [round_writingAt] at goesOn
    split at goesOn
    next missing =>
      obtain rfl := Except.ok.inj goesOn
      refine ⟨⟨n + 1, rfl⟩, ?_⟩
      have more := accepted_mono calls count (Nat.le_add_right n 1)
      have within := accepted_le calls count n
      simp only [writingAt]
      rcases Nat.lt_or_ge n bound with before | behind
      · omega
      · obtain ⟨uninterrupted, nonempty⟩ := finite n behind
        have short := missing.resolve_right uninterrupted
        -- no signal, no empty write and no failure: the call makes progress
        have progress : calls.accepted count n < calls.accepted count (n + 1) := by
          cases result : calls.writes n with
          | accepts limit =>
              have positive : limit ≠ 0 := fun none => nonempty (none ▸ result)
              simp only [WriteCalls.accepted, result, WriteResult.accepted]
              omega
          | eintr => exact absurd result uninterrupted
          | error errno => exact absurd ⟨errno, result⟩ (late n (by omega))
        omega
    next => simp at goesOn
  obtain ⟨outcome, ends⟩ := exists_loop_of_variant
    (fun writing => ∃ n, writing = writingAt bytes count calls n)
    (fun writing => bound - writing.calls + (count - writing.progress.total))
    ⟨0, writingAt_zero bytes count calls⟩ keeps (Nat.lt_succ_self _)
  exact ⟨outcome, .of_loop ends⟩

/-- What has kept the data loop going up to call `n`. -/
structure KeptGoing (calls : WriteCalls) (count n : Nat) : Prop where
  missing : 0 < count → calls.accepted count n < count
  before : ∀ m < n, calls.accepted count m < count ∨ calls.writes m = .eintr

/-- Call `n` is the last one. -/
structure EndsAt (calls : WriteCalls) (count n : Nat) : Prop extends KeptGoing calls count n where
  complete : calls.accepted count (n + 1) = count
  uninterrupted : calls.writes n ≠ .eintr

theorem KeptGoing.zero (calls : WriteCalls) (count : Nat) : KeptGoing calls count 0 where
  missing := id
  before := fun _ within => absurd within (Nat.not_lt_zero _)

theorem KeptGoing.succ (kept : KeptGoing calls count n)
    (again : calls.accepted count (n + 1) < count ∨ calls.writes n = .eintr) :
    KeptGoing calls count (n + 1) where
  missing := by
    intro nonempty
    rcases again with short | interrupted
    · exact short
    · rw [accepted_succ_of_failed count (by rw [interrupted]; rfl)]
      exact kept.missing nonempty
  before := by
    intro m within
    rcases Nat.lt_succ_iff_lt_or_eq.mp within with earlier | rfl
    · exact kept.before m earlier
    · exact again.imp_left (accepted_mono calls count (Nat.le_add_right m 1)).trans_lt

/-- Where the data loop ends. -/
theorem data_ends {outcome : WriteResult × Writing}
    (ends : LoopsTo (Writing.round bytes count calls) ⟨⟨0, []⟩, 0⟩ outcome) :
    ∃ n, outcome = (calls.writes n, writingAt bytes count calls (n + 1)) ∧
      EndsAt calls count n := by
  refine ends.of_invariant
    (fun writing => ∃ n, writing = writingAt bytes count calls n ∧ KeptGoing calls count n)
    (fun outcome => ∃ n, outcome = (calls.writes n, writingAt bytes count calls (n + 1)) ∧
      EndsAt calls count n)
    ⟨0, writingAt_zero bytes count calls, .zero calls count⟩ ?_ ?_
  · rintro writing next ⟨n, rfl, kept⟩ goesOn
    rw [round_writingAt] at goesOn
    split at goesOn
    next again =>
      obtain rfl := Except.ok.inj goesOn
      exact ⟨n + 1, rfl, kept.succ again⟩
    next => simp at goesOn
  · rintro writing outcome ⟨n, rfl, kept⟩ ended
    rw [round_writingAt] at ended
    split at ended
    next => simp at ended
    next complete =>
      obtain rfl := Except.error.inj ended
      rw [not_or, Nat.not_lt] at complete
      have all := (accepted_le calls count (n + 1)).antisymm complete.1
      exact ⟨n, rfl, ⟨kept, all, complete.2⟩⟩

/-- `writeArray` ends, and writes all bytes or reports the failure of a call, exactly if no
call fails while bytes are still missing. -/
theorem writeArray_completes_iff (body : List UInt8) (offset count : Nat)
    (regular : calls.Regular) :
    Completes body offset count calls ↔ calls.FailsLate count := by
  have reached (written : Written) := exists_writeArray_iff body offset count regular written
  constructor
  · rintro ⟨fuel, written, returned, right⟩ n missing fails
    obtain ⟨result, writing, ends, rfl⟩ := (reached written).mp ⟨fuel, returned⟩
    obtain ⟨last, isLast, ended⟩ := data_ends ends
    obtain ⟨rfl, rfl⟩ := Prod.mk.inj isLast
    have progress : ¬(calls.writes last).failed = true := fun failed => by
      have nothing := accepted_succ_of_failed count failed
      have short := ended.missing (Nat.zero_lt_of_lt missing)
      have complete := ended.complete
      omega
    have isEarlier : n < last + 1 :=
      (accepted_mono calls count).reflect_lt (by rw [ended.complete]; exact missing)
    obtain ⟨result, sent, thrown⟩ := right.1 ⟨n, isEarlier, fails⟩
    simp [progress] at thrown
  · intro late
    obtain ⟨⟨result, writing⟩, ends⟩ := exists_data (requested body offset count) regular late
    obtain ⟨fuel, returned⟩ := (reached _).mpr ⟨result, writing, ends, rfl⟩
    refine ⟨fuel, _, returned, ?_⟩
    obtain ⟨last, isLast, ended⟩ := data_ends ends
    obtain ⟨rfl, rfl⟩ := Prod.mk.inj isLast
    have onlyLast : ∀ m < last + 1, calls.Fails m → m = last := by
      rintro m within ⟨errno, failed⟩
      rcases Nat.lt_succ_iff_lt_or_eq.mp within with earlier | same
      · rcases ended.before m earlier with missing | interrupted
        · exact absurd ⟨errno, failed⟩ (late m missing)
        · simp [failed] at interrupted
      · exact same
    constructor
    · rintro ⟨m, within, fails⟩
      obtain rfl := onlyLast m within fails
      obtain ⟨errno, failed⟩ := fails
      exact ⟨_, _, if_pos (by rw [failed]; rfl)⟩
    · intro none
      have succeeds : ¬(calls.writes last).failed = true := by
        cases result : calls.writes last with
        | accepts limit => simp [WriteResult.failed]
        | eintr => exact absurd result ended.uninterrupted
        | error errno => exact absurd ⟨last, last.lt_succ_self, errno, result⟩ none
      have short : (requested body offset count).length ≤ count :=
        List.length_take_le _ _
      simp only [if_neg succeeds, writingAt, ended.complete, List.take_of_length_le short]

end Complete

/-- The transmitter is empty at once, and the flush succeeds. -/
def afterData (writes : Nat → WriteResult) : WriteCalls where
  writes := writes
  transmitterEmpty := fun _ => true
  tcflush := fun _ => .ok

theorem afterData_regular {writes : Nat → WriteResult} (bound : Nat)
    (finite : ∀ n ≥ bound, writes n ≠ .eintr ∧ writes n ≠ .accepts 0) :
    (afterData writes).Regular :=
  ⟨⟨bound, finite⟩, ⟨0, rfl⟩, rfl⟩

/-- An interrupted call, and the bytes one at a time. -/
theorem writeArray_completes_interrupted :
    Completes [65, 66, 67] 1 2 (afterData fun n => if n = 0 then .eintr else .accepts 1) :=
  (writeArray_completes_iff [65, 66, 67] 1 2 (afterData_regular 1 fun n later => by
    simp [Nat.ne_of_gt later])).mpr (by
      rintro n - ⟨errno, failed⟩
      simp only [afterData] at failed
      split at failed <;> simp at failed)

/-- A device that is gone: every call fails, and `writeArray` never ends. -/
theorem failing_write_repeats :
    (afterData fun _ => .error 5).Regular ∧
      (∀ fuel, writeArray [65] 0 1 (afterData fun _ => .error 5) fuel = none) ∧
      ¬Completes [65] 0 1 (afterData fun _ => .error 5) := by
  have never (fuel : Nat) : writeArray [65] 0 1 (afterData fun _ => .error 5) fuel = none := by
    have endless (outcome : WriteResult × Writing) :
        ¬LoopsTo (Writing.round (requested [65] 0 1) 1 (afterData fun _ => .error 5))
          ⟨⟨0, []⟩, 0⟩ outcome := by
      refine not_loopsTo (fun writing => writing.progress.total = 0) rfl fun writing none => ?_
      refine ⟨⟨write (requested [65] 0 1) 0 1 (.error 5) writing.progress, writing.calls + 1⟩,
        ?_, ?_⟩
      · simp [Writing.round, afterData, write, WriteResult.accepted, none]
      · simp [write, WriteResult.accepted, none]
    unfold writeArray
    split
    next => rfl
    next data => exact absurd (.of_loop data) (endless _)
  refine ⟨afterData_regular 0 (by simp), never, ?_⟩
  rintro ⟨fuel, written, returned, -⟩
  simp [never] at returned

end Jrxtx.RS485
