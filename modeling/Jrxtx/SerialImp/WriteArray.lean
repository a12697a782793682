import Mathlib.Data.List.Basic

/-!
# The native write

`RXTXPort.writeArray` of `SerialImp.c`.  The results of the `write()` system
calls are given as a list, and the device is the sequence of the bytes it has
accepted.  The loop goes on only after `EINTR`, so it never follows up on a
partial write.
-/

namespace Jrxtx.SerialImp

/-- Outcome of one `write()`: the device accepts up to `limit` of the requested
bytes, or the call fails and sets `errno`. -/
inductive WriteResult where
  | accepts (limit : Nat)
  | eintr
  | error (errno : Nat)
  deriving DecidableEq, Repr

namespace WriteResult

/-- `result < 0` -/
def failed : WriteResult → Bool
  | .accepts _ => false
  | .eintr | .error _ => true

/-- How many of the requested bytes the device accepts. -/
def accepted (request : Nat) : WriteResult → Nat
  | .accepts limit => min limit request
  | .eintr | .error _ => 0

theorem accepted_le (request : Nat) (result : WriteResult) :
    result.accepted request ≤ request := by
  cases result with
  | accepts limit => exact Nat.min_le_right limit request
  | eintr => exact Nat.zero_le request
  | error errno => exact Nat.zero_le request

end WriteResult

/-- The local `total` and the bytes that the device has accepted so far. -/
structure Progress where
  total : Nat
  sent : List UInt8
  deriving DecidableEq, Repr

/-- How `writeArray` ends. -/
inductive WriteOutcome where
  | returned (sent : List UInt8)
  | ioException (result : WriteResult) (sent : List UInt8)
  deriving DecidableEq, Repr

section WriteArray

variable (body : List UInt8) (offset count : Nat)

/-- `result = WRITE(fd, body + total + offset, count - total)` and
`if (result > 0) total += result`. -/
def write (result : WriteResult) (progress : Progress) : Progress :=
  let accepted := result.accepted (count - progress.total)
  { total := progress.total + accepted
    sent := progress.sent ++ (body.drop (progress.total + offset)).take accepted }

/-- The `do` loop; `none` if the system calls given so far do not end it. -/
def writeLoop : List WriteResult → Progress → Option (WriteResult × Progress)
  | [], _ => none
  | result :: results, progress =>
      let progress := write body offset count result progress
      if progress.total < count ∧ result = .eintr then writeLoop results progress
      else some (result, progress)

/-- `RXTXPort.writeArray` -/
def writeArray (results : List WriteResult) : Option WriteOutcome :=
  match writeLoop body offset count results ⟨0, []⟩ with
  | none => none
  | some (result, progress) =>
      if result.failed then some (.ioException result progress.sent)
      else some (.returned progress.sent)

/-- What the caller asked for. -/
def requested : List UInt8 :=
  (body.drop offset).take count

/-- The first result other than `EINTR`. -/
def firstAnswer (results : List WriteResult) : Option WriteResult :=
  results.find? (· ≠ .eintr)

end WriteArray

/-! ## The loop -/

section Loop

variable {body : List UInt8} {offset count : Nat}

/-- The device has accepted the first `total` requested bytes, in order. -/
structure Sent (body : List UInt8) (offset count : Nat) (progress : Progress) : Prop where
  within : progress.total ≤ count
  sent_eq : progress.sent = (body.drop offset).take progress.total

theorem sent_start : Sent body offset count ⟨0, []⟩ where
  within := Nat.zero_le count
  sent_eq := by simp

/-- One system call keeps what the device has accepted a prefix of the request. -/
theorem Sent.write {progress : Progress} (sent : Sent body offset count progress)
    (result : WriteResult) :
    Sent body offset count (write body offset count result progress) := by
  constructor
  · have bounded := result.accepted_le (count - progress.total)
    have within := sent.within
    simp only [SerialImp.write]
    omega
  · simp only [SerialImp.write]
    rw [List.take_add, ← sent.sent_eq, List.drop_drop, Nat.add_comm offset]

/-- Whatever the system calls do, the device has accepted a prefix of the request
when the loop ends. -/
theorem writeLoop_sent {results : List WriteResult} {progress final : Progress}
    {result : WriteResult} (sent : Sent body offset count progress)
    (ended : writeLoop body offset count results progress = some (result, final)) :
    Sent body offset count final := by
  induction results generalizing progress with
  | nil => simp [writeLoop] at ended
  | cons head results ih =>
      simp only [writeLoop] at ended
      split at ended
      next => exact ih (sent.write head) ended
      next =>
        simp only [Option.some.injEq, Prod.mk.injEq] at ended
        exact ended.2 ▸ sent.write head

/-- An interrupted call changes nothing. -/
theorem write_eintr (progress : Progress) :
    write body offset count .eintr progress = progress := by
  simp [write, WriteResult.accepted]

/-- The loop ends with the first result other than `EINTR`, and the bytes that
this one call accepted are all that is sent. -/
theorem writeLoop_eq_firstAnswer {results : List WriteResult} {final : Progress}
    {result : WriteResult} (nonempty : 0 < count)
    (ended : writeLoop body offset count results ⟨0, []⟩ = some (result, final)) :
    firstAnswer results = some result ∧ final.total = result.accepted count := by
  induction results with
  | nil => simp [writeLoop] at ended
  | cons head results ih =>
      by_cases interrupted : head = .eintr
      · subst interrupted
        rw [writeLoop, write_eintr, if_pos ⟨nonempty, rfl⟩] at ended
        simpa [firstAnswer] using ih ended
      · rw [writeLoop, if_neg fun goesOn => interrupted goesOn.2] at ended
        simp only [Option.some.injEq, Prod.mk.injEq] at ended
        obtain ⟨rfl, rfl⟩ := ended
        constructor
        · simp [firstAnswer, interrupted]
        · simp [write]

variable (body offset count) in
/-- The loop ends as soon as a call is not interrupted. -/
theorem writeLoop_isSome {results : List WriteResult} {answer : WriteResult}
    (answered : firstAnswer results = some answer) (progress : Progress) :
    (writeLoop body offset count results progress).isSome = true := by
  induction results generalizing progress with
  | nil => simp [firstAnswer] at answered
  | cons head results ih =>
      rw [writeLoop]
      split
      next goesOn =>
        apply ih
        simpa [firstAnswer, goesOn.2] using answered
      next => rfl

end Loop

/-! ## All of the bytes, or an exception -/

section Complete

variable {body : List UInt8} {offset count : Nat}

/-- `writeArray` returns normally only with all bytes accepted, in order and once. -/
def Complete (body : List UInt8) (offset count : Nat) (outcome : WriteOutcome) : Prop :=
  ∀ sent, outcome = .returned sent → sent = requested body offset count

/-- `writeArray` returns or throws once a call is not interrupted. -/
theorem writeArray_isSome {results : List WriteResult} {answer : WriteResult}
    (answered : firstAnswer results = some answer) :
    (writeArray body offset count results).isSome = true := by
  have ended := writeLoop_isSome body offset count answered ⟨0, []⟩
  obtain ⟨⟨result, final⟩, eq⟩ := Option.isSome_iff_exists.mp ended
  simp only [writeArray, eq]
  split <;> rfl

/-- A prefix of the request is the whole request only at full length. -/
theorem take_eq_requested_iff (inBounds : offset + count ≤ body.length) {total : Nat}
    (within : total ≤ count) :
    (body.drop offset).take total = requested body offset count ↔ total = count := by
  constructor
  · intro same
    have lengths := congrArg List.length same
    simp only [requested, List.length_take, List.length_drop] at lengths
    omega
  · rintro rfl
    rfl

/-- `writeArray` writes all or throws exactly if nothing is requested, or the
first `write()` that is not interrupted fails or accepts the whole request. -/
theorem writeArray_complete_iff (inBounds : offset + count ≤ body.length)
    {results : List WriteResult} {outcome : WriteOutcome}
    (ran : writeArray body offset count results = some outcome) :
    Complete body offset count outcome ↔
      (count = 0 ∨ ∀ limit, firstAnswer results = some (.accepts limit) → count ≤ limit) := by
  unfold writeArray at ran
  split at ran
  next => simp at ran
  next result final ended =>
    obtain ⟨within, sentEq⟩ := writeLoop_sent sent_start ended
    split at ran
    next failed =>
      obtain rfl := Option.some.inj ran
      have complete : Complete body offset count (.ioException result final.sent) := by
        intro sent returned
        simp at returned
      refine iff_of_true complete ?_
      rcases Nat.eq_zero_or_pos count with none | nonempty
      · exact .inl none
      · right
        intro limit answered
        rw [(writeLoop_eq_firstAnswer nonempty ended).1, Option.some.injEq] at answered
        simp [answered, WriteResult.failed] at failed
    next succeeded =>
      obtain rfl := Option.some.inj ran
      have completeIff : Complete body offset count (.returned final.sent) ↔
          final.total = count := by
        rw [← take_eq_requested_iff inBounds within, ← sentEq]
        constructor
        · intro complete
          exact complete final.sent rfl
        · rintro same sent ⟨⟩
          exact same
      rw [completeIff]
      rcases Nat.eq_zero_or_pos count with none | nonempty
      · exact iff_of_true (by omega) (.inl none)
      · obtain ⟨answer, total⟩ := writeLoop_eq_firstAnswer nonempty ended
        cases result with
        | accepts limit =>
            simp only [answer, Option.some.injEq, WriteResult.accepts.injEq, forall_eq', total,
              WriteResult.accepted]
            omega
        | eintr => simp [WriteResult.failed] at succeeded
        | error errno => simp [WriteResult.failed] at succeeded

/-- After an interruption, one call accepts all three bytes. -/
theorem writeArray_complete_interrupted :
    ∃ outcome, writeArray [1, 2, 3, 4] 1 3 [.eintr, .accepts 3] = some outcome ∧
      Complete [1, 2, 3, 4] 1 3 outcome := by
  have ran : writeArray [1, 2, 3, 4] 1 3 [.eintr, .accepts 3] = some (.returned [2, 3, 4]) := by
    decide
  refine ⟨_, ran, (writeArray_complete_iff (by decide) ran).mpr (.inr ?_)⟩
  intro limit answered
  have same : limit = 3 := by simpa [firstAnswer, eq_comm] using answered
  exact Nat.le_of_eq same.symm

/-- One `write()` accepts one of three bytes, and `writeArray` returns normally. -/
theorem writeArray_partial :
    ∃ outcome, writeArray [1, 2, 3] 0 3 [.accepts 1] = some outcome ∧
      ¬Complete [1, 2, 3] 0 3 outcome := by
  refine ⟨.returned [1], by decide, ?_⟩
  intro complete
  have all := complete [1] rfl
  simp [requested] at all

end Complete

end Jrxtx.SerialImp
