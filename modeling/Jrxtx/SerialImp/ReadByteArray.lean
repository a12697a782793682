import Jrxtx.SerialImp.DataAvailable

/-!
# What a read returns

`read_byte_array` with all that happens during it as its argument: the clock, and the
results of `select()` and `read()` in every round of its loop.  The loop ends when it has
all bytes, when the time is over, when a call fails, and after twenty rounds.
-/

namespace Jrxtx.SerialImp

open DataAvailable

/-- What happens during one call of `read_byte_array`.  The outcomes of rounds that it does
not get to are arbitrary, but for the time at which it returns. -/
structure ReadCalls where
  /-- the first `GetTickCount()` -/
  start : Int
  outcomes : Nat → Outcome

namespace ReadCalls

/-- The bytes that the device gives in round `n`. -/
def given (calls : ReadCalls) (n : Nat) : List UInt8 :=
  if 0 < (calls.outcomes n).select then ((calls.outcomes n).read).getD [] else []

/-- The bytes that the device gives before round `n`. -/
def received (calls : ReadCalls) : Nat → List UInt8
  | 0 => []
  | n + 1 => calls.received n ++ calls.given n

variable (calls : ReadCalls)

/-- `select()` or `read()` fails in round `n`. -/
def Fails (n : Nat) : Prop :=
  (calls.outcomes n).select = -1 ∨
    0 < (calls.outcomes n).select ∧ (calls.outcomes n).read = none

/-- The timeout is set, and over at the beginning of round `n`. -/
def TimedOut (timeout : Int) (n : Nat) : Prop :=
  0 ≤ timeout ∧ timeout ≤ (calls.outcomes n).now - calls.start

/-- The loop does not get past the beginning of round `n`. -/
def Ends (length timeout : Int) (n : Nat) : Prop :=
  length ≤ (calls.received n).length ∨ 20 ≤ n ∨ calls.TimedOut timeout n

instance (n : Nat) : Decidable (calls.Fails n) :=
  inferInstanceAs (Decidable (_ ∨ _))

instance (timeout : Int) (n : Nat) : Decidable (calls.TimedOut timeout n) :=
  inferInstanceAs (Decidable (_ ∧ _))

instance (length timeout : Int) (n : Nat) : Decidable (calls.Ends length timeout n) :=
  inferInstanceAs (Decidable (_ ∨ _))

/-- No `read()` gives more bytes than are left of `length`. -/
def Within (length : Int) : Prop :=
  ∀ n, (calls.given n).length ≤ (length - (calls.received n).length).toNat

/-- Every call succeeds. -/
structure Faultless (length : Int) : Prop where
  within : calls.Within length
  succeeds : ∀ n, ¬calls.Fails n

end ReadCalls

/-- The loop of `read_byte_array`: what is returned, and the local variables at that point.
`none` if the fuel does not suffice. -/
def DataAvailable.Reading.loop (calls : ReadCalls) : Nat → Reading → Option (Int × Reading)
  | 0, _ => none
  | fuel + 1, reading =>
      match reading.round (calls.outcomes reading.count) with
      | .error result => some (result, reading)
      | .ok next => next.loop calls fuel

/-- `read_byte_array`, with enough fuel for its rounds. -/
def readByteArray (flag length timeout : Int) (calls : ReadCalls) : Option (Int × Reading) :=
  (Reading.begin flag length timeout calls.start).loop calls 21

/-- The local variables at the beginning of round `n`. -/
def readingAt (flag length timeout : Int) (calls : ReadCalls) (n : Nat) : Reading :=
  { Reading.begin flag length timeout calls.start with
    buffer := calls.received n
    bytes := (calls.received n).length
    left := length - (calls.received n).length
    count := n }

section Loop

variable {flag length timeout result : Int} {calls : ReadCalls} {reading : Reading}
  {n m fuel : Nat}

theorem ReadCalls.received_succ (calls : ReadCalls) (n : Nat) :
    calls.received (n + 1) = calls.received n ++ calls.given n := rfl

/-- No more bytes arrive than are asked for. -/
theorem ReadCalls.Within.length_received_le (within : calls.Within length) (n : Nat) :
    (calls.received n).length ≤ length.toNat := by
  induction n with
  | zero => simp [ReadCalls.received]
  | succ n ih =>
      have given := within n
      rw [ReadCalls.received_succ, List.length_append]
      omega

theorem count_readingAt : (readingAt flag length timeout calls n).count = n := rfl

theorem timedOut_readingAt_iff (flag length : Int) :
    (0 ≤ timeout ∧ timeout ≤ (calls.outcomes n).now -
      (readingAt flag length timeout calls n).start) ↔ calls.TimedOut timeout n := by
  apply and_congr_right
  intro isSet
  simp [readingAt, Reading.begin, isSet]

/-- The tests at the beginning of a round. -/
theorem not_ends_iff : ¬calls.Ends length timeout n ↔
    (((calls.received n).length : Int) < length ∧ n < 20) ∧ ¬calls.TimedOut timeout n := by
  rw [ReadCalls.Ends, not_or, not_or, Int.not_le, Nat.not_le, and_assoc]

theorem not_ends_of_readingAt
    (goesOn : (readingAt flag length timeout calls n).bytes < length ∧ n < 20)
    (notYet : ¬(0 ≤ timeout ∧ timeout ≤ (calls.outcomes n).now -
      (readingAt flag length timeout calls n).start)) : ¬calls.Ends length timeout n :=
  not_ends_iff.mpr ⟨goesOn, mt (timedOut_readingAt_iff flag length).mpr notYet⟩

theorem ReadCalls.length_received_mono (calls : ReadCalls) (le : n ≤ m) :
    (calls.received n).length ≤ (calls.received m).length := by
  induction le with
  | refl => exact Nat.le_refl _
  | step _ ih =>
      rw [ReadCalls.received_succ, List.length_append]
      exact Nat.le_add_right_of_le ih

/-- One round either ends the loop or leads to the beginning of the next. -/
theorem round_readingAt (flag length timeout : Int) (calls : ReadCalls) (n : Nat) :
    (readingAt flag length timeout calls n).round (calls.outcomes n) =
      if calls.Ends length timeout n then .error (calls.received n).length
      else if calls.Fails n then .error (-1)
      else .ok (readingAt flag length timeout calls (n + 1)) := by
  fun_cases Reading.round (readingAt flag length timeout calls n) (calls.outcomes n) with
  | case1 goesOn reading timedOut =>
      rw [if_pos (.inr (.inr ((timedOut_readingAt_iff flag length).mp timedOut)))]
      rfl
  | case2 goesOn reading notYet failed =>
      rw [if_neg (not_ends_of_readingAt goesOn notYet),
        if_pos (.inl failed)]
  | case3 goesOn reading notYet selected isReady failed =>
      rw [if_neg (not_ends_of_readingAt goesOn notYet),
        if_pos (.inr ⟨isReady, failed⟩)]
  | case4 goesOn reading notYet selected isReady bytes received =>
      have given : calls.given n = bytes := by simp [ReadCalls.given, isReady, received]
      rw [if_neg (not_ends_of_readingAt goesOn notYet),
        if_neg (by simp [ReadCalls.Fails, selected, received])]
      simp [readingAt, reading, ReadCalls.received_succ, given, Int.sub_sub]
  | case5 goesOn reading notYet selected notReady =>
      have given : calls.given n = [] := by simp [ReadCalls.given, notReady]
      rw [if_neg (not_ends_of_readingAt goesOn notYet),
        if_neg (by simp [ReadCalls.Fails, selected, notReady])]
      simp [readingAt, reading, ReadCalls.received_succ, given]
  | case6 complete =>
      rw [if_pos]
      · rfl
      · by_contra goesOn
        exact complete (not_ends_iff.mp goesOn).1

/-- What `read_byte_array` comes to: round `n` is the first one that the loop does not get
past, or in which a call fails. -/
structure Returns (flag length timeout : Int) (calls : ReadCalls) (n : Nat) (result : Int)
    (reading : Reading) : Prop where
  goesOn : ∀ m < n, ¬calls.Ends length timeout m ∧ ¬calls.Fails m
  ends : calls.Ends length timeout n ∧ result = (calls.received n).length ∨
    ¬calls.Ends length timeout n ∧ calls.Fails n ∧ result = -1
  locals : reading = readingAt flag length timeout calls n

theorem loop_readingAt (goesOn : ∀ m < n, ¬calls.Ends length timeout m ∧ ¬calls.Fails m)
    (enough : 20 < n + fuel) :
    ∃ final result reading, (readingAt flag length timeout calls n).loop calls fuel =
      some (result, reading) ∧ Returns flag length timeout calls final result reading := by
  induction fuel generalizing n with
  | zero =>
      have ends : calls.Ends length timeout 20 := .inr (.inl (Nat.le_refl 20))
      exact absurd ends (goesOn 20 enough).1
  | succ fuel ih =>
      rw [Reading.loop, count_readingAt, round_readingAt]
      by_cases ends : calls.Ends length timeout n
      · rw [if_pos ends]
        exact ⟨n, _, _, rfl, goesOn, .inl ⟨ends, rfl⟩, rfl⟩
      · by_cases fails : calls.Fails n
        · rw [if_neg ends, if_pos fails]
          exact ⟨n, _, _, rfl, goesOn, .inr ⟨ends, fails, rfl⟩, rfl⟩
        · rw [if_neg ends, if_neg fails]
          apply ih
          · intro m before
            rcases Nat.lt_succ_iff_lt_or_eq.mp before with earlier | rfl
            · exact goesOn m earlier
            · exact ⟨ends, fails⟩
          · omega

theorem returns (flag length timeout : Int) (calls : ReadCalls) :
    ∃ n result reading, readByteArray flag length timeout calls = some (result, reading) ∧
      Returns flag length timeout calls n result reading := by
  have begins : readingAt flag length timeout calls 0 =
      Reading.begin flag length timeout calls.start := by
    simp [readingAt, Reading.begin, ReadCalls.received]
  rw [readByteArray, ← begins]
  apply loop_readingAt <;> simp

namespace Returns

theorem le_twenty (ret : Returns flag length timeout calls n result reading) : n ≤ 20 := by
  by_contra beyond
  exact (ret.goesOn 20 (Nat.lt_of_not_le beyond)).1 (.inr (.inl (Nat.le_refl 20)))

/-- Without failures the return value is the number of bytes received. -/
theorem of_succeeds (ret : Returns flag length timeout calls n result reading)
    (succeeds : ∀ m, ¬calls.Fails m) :
    calls.Ends length timeout n ∧ result = (calls.received n).length := by
  rcases ret.ends with ended | ⟨-, fails, -⟩
  · exact ended
  · exact absurd fails (succeeds n)

/-- A read that does not fail returns fewer bytes than requested only after the timeout,
exactly if the bytes arrive, or the timeout is over, within twenty rounds. -/
theorem short_only_after_timeout_iff
    (ret : Returns flag length timeout calls n result reading)
    (succeeds : ∀ m, ¬calls.Fails m) :
    (result < length → calls.TimedOut timeout n) ↔
      ∃ m ≤ 20, length ≤ (calls.received m).length ∨ calls.TimedOut timeout m := by
  obtain ⟨ended, rfl⟩ := ret.of_succeeds succeeds
  constructor
  · intro onlyLate
    refine ⟨n, ret.le_twenty, ?_⟩
    rcases Int.lt_or_le (calls.received n).length length with short | complete
    · exact .inr (onlyLate short)
    · exact .inl complete
  · rintro ⟨m, bounded, last⟩ short
    rcases ended with complete | capped | timedOut
    · exact absurd short (Int.not_lt.mpr complete)
    · -- the loop has used up its rounds, so `m` cannot come later
      have notLater : n ≤ m := by
        by_contra later
        have notYet := (ret.goesOn m (Nat.lt_of_not_le later)).1
        exact notYet (last.elim .inl fun timedOut => .inr (.inr timedOut))
      obtain rfl : m = n := by omega
      exact last.resolve_left (Int.not_le.mpr short)
    · exact timedOut

/-- Without a timeout, a read that does not fail is complete exactly if the bytes arrive within
twenty rounds. -/
theorem complete_iff (ret : Returns flag length timeout calls n result reading)
    (faultless : calls.Faultless length) (valid : 0 ≤ length) (disabled : timeout < 0) :
    result = length ↔ length ≤ (calls.received 20).length := by
  have never : ∀ m, ¬calls.TimedOut timeout m := fun m timedOut =>
    Int.not_lt.mpr timedOut.1 disabled
  have within := faultless.within.length_received_le n
  have ⟨_, counted⟩ := ret.of_succeeds faultless.succeeds
  have short := ret.short_only_after_timeout_iff faultless.succeeds
  simp only [never, imp_false, or_false, Int.not_lt] at short
  constructor
  · intro complete
    obtain ⟨m, bounded, enough⟩ := short.mp (Int.le_of_eq complete.symm)
    have grown := calls.length_received_mono bounded
    omega
  · intro enough
    have := short.mpr ⟨20, Nat.le_refl 20, enough⟩
    omega

end Returns

end Loop

end Jrxtx.SerialImp
