import Jrxtx.SerialImp.ReadArray

/-!
# Reading up to a terminator

`RXTXPort.readTerminatedArray` reads byte by byte.  It returns what the last call of
`read_byte_array` has returned, not their sum `total`, and compares the terminator with the
elements before `total`, not with those before `offset + total`.
-/

namespace Jrxtx.SerialImp

open DataAvailable

/-- The local variables of `readTerminatedArray` with the elements of the array, and all
that has been taken from the device. -/
structure TerminatedRead where
  body : Body
  total : Int := 0
  calls : Nat := 0
  taken : List UInt8 := []

/-- The two bytes before `total` are the terminator. -/
def TerminatedRead.GotTerminator (read : TerminatedRead) (terminator : UInt8 × UInt8) : Prop :=
  1 < read.total ∧ terminator.2 = read.body (read.total - 1) ∧
    terminator.1 = read.body (read.total - 2)

instance (read : TerminatedRead) (terminator : UInt8 × UInt8) :
    Decidable (read.GotTerminator terminator) :=
  inferInstanceAs (Decidable (_ ∧ _))

section Native

variable (flag offset length timeout : Int) (terminator : UInt8 × UInt8)
  (calls : Nat → ReadCalls)

/-- The `do` loop; `none` if the fuel does not suffice. -/
def terminatedLoop : Nat → TerminatedRead → Option (NativeRead × TerminatedRead)
  | 0, _ => none
  | fuel + 1, read =>
      match readByteArray flag 1 timeout (calls read.calls) with
      | none => none
      | some (bytes, reading) =>
          let read : TerminatedRead :=
            { body := store read.body (offset + read.total) reading.buffer
              total := read.total + bytes
              calls := read.calls + 1
              taken := read.taken ++ (calls read.calls).received reading.count }
          if bytes < 0 then some (.ioException, read)
          else if read.GotTerminator terminator then some (.returned bytes, read)
          else if 0 < bytes ∧ read.total < length then terminatedLoop fuel read
          else some (.returned bytes, read)

/-- `RXTXPort.readTerminatedArray`, with the results of what each call of
`read_byte_array` asks of the system. -/
def readTerminatedArray (body : Body) : Option (NativeRead × TerminatedRead) :=
  if length < 0 then some (.arrayIndexOutOfBoundsException, { body })
  else terminatedLoop flag offset length timeout terminator calls (length.toNat + 1) { body }

end Native

/-- A byte arrives in the rounds of a read, and before the timeout. -/
def ReadCalls.Arrives (calls : ReadCalls) (timeout : Int) : Prop :=
  ∃ n ≤ 20, calls.received n ≠ [] ∧ ∀ m < n, ¬calls.TimedOut timeout m

/-- The timeout is over within the rounds of a read. -/
def ReadCalls.RunsOut (calls : ReadCalls) (timeout : Int) : Prop :=
  ∃ n ≤ 20, calls.TimedOut timeout n

/-- What `readTerminatedArray` should have done when it returns `bytes`. -/
structure Terminates (offset length timeout : Int) (terminator : UInt8 × UInt8)
    (calls : Nat → ReadCalls) (bytes : Int) (read : TerminatedRead) : Prop where
  returned : bytes = read.taken.length
  stored : ∀ i (inRange : i < read.taken.length), read.body (offset + i) = read.taken[i]
  /-- the device is asked for more as long as there is no reason to stop -/
  goesOn : ∀ front, front <+: read.taken → front ≠ read.taken →
    ¬[terminator.1, terminator.2] <:+ front ∧ (front.length : Int) < length
  stops : [terminator.1, terminator.2] <:+ read.taken ∨ (read.taken.length : Int) = length ∨
    ¬(calls (read.calls - 1)).Arrives timeout ∧ (calls (read.calls - 1)).RunsOut timeout

section Proofs

variable {flag offset length timeout : Int} {terminator : UInt8 × UInt8}
  {calls : Nat → ReadCalls} {fuel : Nat} {read : TerminatedRead}

/-- A read of one byte returns 1 with it, 0, or -1. -/
theorem readByteArray_one_of_within (flag timeout : Int) {calls : ReadCalls}
    (within : calls.Within 1) :
    ∃ bytes reading, readByteArray flag 1 timeout calls = some (bytes, reading) ∧
      reading.buffer = calls.received reading.count ∧
      (calls.received reading.count).length ≤ 1 ∧
      (bytes = (calls.received reading.count).length ∨
        bytes = -1 ∧ calls.received reading.count = []) := by
  obtain ⟨n, bytes, reading, ran, ret⟩ := returns flag 1 timeout calls
  obtain rfl := ret.locals
  have one : (calls.received n).length ≤ 1 := within.length_received_le n
  refine ⟨bytes, readingAt flag 1 timeout calls n, ran, rfl, one, ?_⟩
  rcases ret.ends with ⟨-, counted⟩ | ⟨notYet, -, failed⟩
  · exact .inl counted
  · refine .inr ⟨failed, List.length_eq_zero_iff.mp ?_⟩
    have goesOn := (not_ends_iff.mp notYet).1.1
    rw [count_readingAt]
    omega

/-- A read of one byte without failures returns 1 with it, or 0. -/
theorem readByteArray_one (flag timeout : Int) {calls : ReadCalls} (faultless : calls.Faultless 1) :
    ∃ reading, readByteArray flag 1 timeout calls =
        some (((calls.received reading.count).length : Int), reading) ∧
      reading.buffer = calls.received reading.count ∧
      (calls.received reading.count).length ≤ 1 ∧
      (calls.received reading.count ≠ [] ↔ calls.Arrives timeout) := by
  obtain ⟨n, result, reading, ran, ret⟩ := returns flag 1 timeout calls
  obtain rfl := ret.locals
  obtain ⟨ended, rfl⟩ := ret.of_succeeds faultless.succeeds
  have one : (calls.received n).length ≤ 1 := faultless.within.length_received_le n
  refine ⟨readingAt flag 1 timeout calls n, ran, rfl, one, ?_⟩
  rw [count_readingAt]
  constructor
  · intro arrived
    refine ⟨n, ret.le_twenty, arrived, ?_⟩
    intro m before timedOut
    exact (ret.goesOn m before).1 (.inr (.inr timedOut))
  · rintro ⟨m, bounded, arrived, inTime⟩ nothing
    have some : 0 < (calls.received m).length := List.length_pos_iff.mpr arrived
    rcases Nat.lt_trichotomy m n with before | rfl | behind
    · exact (ret.goesOn m before).1 (.inl (by omega))
    · exact arrived nothing
    · rcases ended with complete | capped | timedOut
      · simp [nothing] at complete
      · omega
      · exact inTime n behind timedOut

/-- The bytes taken are in the array from `offset` on. -/
structure TerminatedRead.Stores (body : Body) (offset : Int) (read : TerminatedRead) : Prop where
  body : read.body = store body offset read.taken
  total : read.total = read.taken.length

/-- Whatever happens, the loop takes no more than `length` bytes, and stores them. -/
theorem terminatedLoop_stores {body : Body} (flag offset timeout : Int)
    (terminator : UInt8 × UInt8) (within : ∀ k, (calls k).Within 1)
    (stores : read.Stores body offset) (goesOn : read.total < length)
    (enough : length - read.total ≤ fuel) :
    ∃ result final, terminatedLoop flag offset length timeout terminator calls fuel read =
      some (result, final) ∧ final.body = store body offset final.taken ∧
      final.taken.length ≤ length := by
  induction fuel generalizing read with
  | zero => omega
  | succ fuel ih =>
      obtain ⟨bytes, reading, ran, buffer, one, result⟩ :=
        readByteArray_one_of_within flag timeout (within read.calls)
      have stored : store read.body (offset + read.total) reading.buffer =
          store body offset (read.taken ++ (calls read.calls).received reading.count) := by
        rw [stores.body, stores.total, buffer, store_append]
      have bounded : ((read.taken ++ (calls read.calls).received reading.count).length : Int) ≤
          length := by
        have total := stores.total
        rw [List.length_append]
        omega
      rw [terminatedLoop, ran]
      simp only
      split
      next => exact ⟨_, _, rfl, stored, bounded⟩
      next succeeds =>
        split
        next => exact ⟨_, _, rfl, stored, bounded⟩
        next =>
          split
          next again =>
            have counted := result.resolve_right fun failed => by omega
            apply ih
            · exact ⟨stored, by simp [stores.total, counted]⟩
            · exact again.2
            · simp only
              omega
          next => exact ⟨_, _, rfl, stored, bounded⟩

/-- `readTerminatedArray` writes the bytes it takes, no more than it is asked for, from
`offset` on. -/
theorem readTerminatedArray_stores (body : Body) (flag offset timeout : Int)
    (terminator : UInt8 × UInt8) (within : ∀ k, (calls k).Within 1) (nonzero : length ≠ 0) :
    ∃ result final,
      readTerminatedArray flag offset length timeout terminator calls body =
        some (result, final) ∧
      final.body = store body offset final.taken ∧ final.taken.length ≤ length.toNat := by
  unfold readTerminatedArray
  split
  next => exact ⟨_, _, rfl, store_nil.symm, Nat.zero_le _⟩
  next valid =>
    let read : TerminatedRead := { body }
    have stores : read.Stores body offset := ⟨store_nil.symm, rfl⟩
    have goesOn : read.total < length := by
      change 0 < length
      omega
    have enough : length - read.total ≤ (length.toNat + 1 : Nat) := by
      change length - 0 ≤ _
      omega
    obtain ⟨result, final, ran, stored, bounded⟩ :=
      terminatedLoop_stores flag offset timeout terminator within stores goesOn enough
    exact ⟨result, final, ran, stored, by omega⟩

/-- Behind the first byte, the value returned falls short of what has been read. -/
theorem terminatedLoop_short (flag offset timeout : Int) (terminator : UInt8 × UInt8)
    (faultless : ∀ k, (calls k).Faultless 1)
    (total : read.total = read.taken.length) (started : 0 < read.total)
    (goesOn : read.total < length) (enough : length - read.total ≤ fuel) :
    ∃ bytes final, terminatedLoop flag offset length timeout terminator calls fuel read =
      some (.returned bytes, final) ∧ bytes < final.taken.length := by
  induction fuel generalizing read with
  | zero => omega
  | succ fuel ih =>
      obtain ⟨reading, ran, buffer, one, -⟩ :=
        readByteArray_one flag timeout (faultless read.calls)
      rw [terminatedLoop, ran]
      simp only
      rw [if_neg (by omega)]
      split
      next =>
        refine ⟨_, _, rfl, ?_⟩
        simp only [List.length_append]
        omega
      next =>
        split
        next again =>
          apply ih
          · simp [total]
          · simp only
            omega
          · exact again.2
          · simp only
            omega
        next =>
          refine ⟨_, _, rfl, ?_⟩
          simp only [List.length_append]
          omega

/-- The first call of `read_byte_array` returns 0. -/
theorem readTerminatedArray_of_nothing (body : Body) (offset : Int) (terminator : UInt8 × UInt8)
    (faultless : (calls 0).Faultless 1) (nothing : ¬(calls 0).Arrives timeout)
    (valid : 0 ≤ length) :
    readTerminatedArray flag offset length timeout terminator calls body =
      some (.returned 0, { body, calls := 1 }) := by
  obtain ⟨reading, ran, buffer, -, arrives⟩ := readByteArray_one flag timeout faultless
  have empty : (calls 0).received reading.count = [] := by
    by_contra some
    exact nothing (arrives.mp some)
  rw [empty] at ran buffer
  rw [readTerminatedArray, if_neg (Int.not_lt.mpr valid), terminatedLoop, ran]
  simp [TerminatedRead.GotTerminator, buffer, empty, store_nil]

/-- The first call of `read_byte_array` returns 1. -/
theorem readTerminatedArray_of_arrives (body : Body) (flag offset : Int)
    (terminator : UInt8 × UInt8) (faultless : (calls 0).Faultless 1)
    (arrives : (calls 0).Arrives timeout) (valid : 0 ≤ length) :
    ∃ byte, readTerminatedArray flag offset length timeout terminator calls body =
      if 1 < length then
        terminatedLoop flag offset length timeout terminator calls length.toNat
          { body := store body offset [byte], total := 1, calls := 1, taken := [byte] }
      else
        some (.returned 1,
          { body := store body offset [byte], total := 1, calls := 1, taken := [byte] }) := by
  obtain ⟨reading, ran, buffer, one, some⟩ := readByteArray_one flag timeout faultless
  obtain ⟨byte, single⟩ : ∃ byte, (calls 0).received reading.count = [byte] :=
    List.length_eq_one_iff.mp
      (Nat.le_antisymm one (List.length_pos_iff.mpr (some.mpr arrives)))
  rw [single] at ran buffer
  refine ⟨byte, ?_⟩
  rw [readTerminatedArray, if_neg (Int.not_lt.mpr valid), terminatedLoop, ran]
  simp [TerminatedRead.GotTerminator, buffer, single]

/-- One byte has been read and returned: as it should be if one is requested. -/
theorem terminates_single_iff (body : Body) (byte : UInt8) (valid : 0 ≤ length)
    (few : length ≤ 1) :
    Terminates offset length timeout terminator calls 1
        { body := store body offset [byte], total := 1, calls := 1, taken := [byte] } ↔
      length = 1 := by
  constructor
  · intro terminates
    have before := (terminates.goesOn [] List.nil_prefix (List.cons_ne_nil byte []).symm).2
    rw [List.length_nil] at before
    omega
  · rintro rfl
    constructor
    case returned => rfl
    case stored => exact fun i inRange => store_of_lt inRange
    case goesOn =>
      intro front isPrefix proper
      rcases List.prefix_cons_iff.mp isPrefix with rfl | ⟨rest, rfl, inNone⟩
      · simp
      · exact absurd (congrArg (byte :: ·) (List.prefix_nil.mp inNone)) proper
    case stops => exact .inr (.inl rfl)

/-- Nothing has been read: as it should be after the timeout, or if nothing is requested. -/
theorem terminates_nothing_iff (body : Body) (nothing : ¬(calls 0).Arrives timeout) :
    Terminates offset length timeout terminator calls 0 { body, calls := 1 } ↔
      length = 0 ∨ (calls 0).RunsOut timeout := by
  constructor
  · intro terminates
    rcases terminates.stops with terminated | complete | ⟨-, runsOut⟩
    · simp at terminated
    · exact .inl complete.symm
    · exact .inr runsOut
  · intro reason
    constructor
    case returned => rfl
    case stored => simp
    case goesOn =>
      intro front isPrefix proper
      exact absurd (List.prefix_nil.mp isPrefix) proper
    case stops =>
      rcases reason with rfl | runsOut
      · exact .inr (.inl rfl)
      · exact .inr (.inr ⟨nothing, runsOut⟩)

/-- Without failures, `readTerminatedArray` does what it should exactly if nothing arrives
for the first byte, or if one byte is requested. -/
theorem readTerminatedArray_terminates_iff (body : Body) (flag offset length timeout : Int)
    (terminator : UInt8 × UInt8) (faultless : ∀ k, (calls k).Faultless 1) :
    ∃ result read,
      readTerminatedArray flag offset length timeout terminator calls body =
        some (result, read) ∧
      (0 ≤ length → ∃ bytes, result = .returned bytes) ∧
      ((∀ bytes, result = .returned bytes →
          Terminates offset length timeout terminator calls bytes read) ↔
        length < 0 ∨ length = 1 ∧ (calls 0).Arrives timeout ∨
          ¬(calls 0).Arrives timeout ∧ (length = 0 ∨ (calls 0).RunsOut timeout)) := by
  rcases Int.lt_or_le length 0 with negative | valid
  · refine ⟨.arrayIndexOutOfBoundsException, { body }, ?_, ?_, ?_⟩
    · rw [readTerminatedArray, if_pos negative]
    · intro valid
      omega
    · simp [negative]
  · have notNegative : ¬length < 0 := Int.not_lt.mpr valid
    by_cases arrives : (calls 0).Arrives timeout
    · obtain ⟨byte, ran⟩ := readTerminatedArray_of_arrives body flag offset terminator
        (faultless 0) arrives valid
      rcases Int.lt_or_le 1 length with several | few
      · let read : TerminatedRead :=
          { body := store body offset [byte], total := 1, calls := 1, taken := [byte] }
        have total : read.total = read.taken.length := rfl
        have enough : length - read.total ≤ length.toNat := by
          change length - 1 ≤ _
          omega
        obtain ⟨bytes, final, looped, short⟩ := terminatedLoop_short flag offset timeout
          terminator faultless total Int.one_pos several enough
        rw [if_pos several, looped] at ran
        refine ⟨_, _, ran, fun _ => ⟨bytes, rfl⟩, ?_⟩
        have wrong : ¬Terminates offset length timeout terminator calls bytes final :=
          fun terminates => absurd terminates.returned (Int.ne_of_lt short)
        simp [wrong, arrives, notNegative, Int.ne_of_gt several]
      · rw [if_neg (Int.not_lt.mpr few)] at ran
        refine ⟨_, _, ran, fun _ => ⟨1, rfl⟩, ?_⟩
        simp [terminates_single_iff body byte valid few, arrives, notNegative]
    · refine ⟨_, _, readTerminatedArray_of_nothing body offset terminator (faultless 0) arrives
        valid, fun _ => ⟨0, rfl⟩, ?_⟩
      simp [terminates_nothing_iff body arrives, arrives, notNegative]

end Proofs

/-- One byte arrives for each call. -/
def oneByteEach (_ : Nat) : ReadCalls where
  start := 0
  outcomes := fun n => { now := 0, select := 1, read := if n = 0 then some [65] else some [] }

theorem faultless_oneByteEach (k : Nat) : (oneByteEach k).Faultless 1 := by
  constructor
  case succeeds =>
    intro n
    by_cases first : n = 0 <;> simp [ReadCalls.Fails, oneByteEach, first]
  case within =>
    intro n
    cases n with
    | zero => simp [ReadCalls.given, oneByteEach, ReadCalls.received]
    | succ n => simp [ReadCalls.given, oneByteEach]

/-- A single byte is requested and arrives. -/
theorem readTerminatedArray_terminates_iff_single :
    ∃ result read,
      readTerminatedArray 0 3 1 (-1) (13, 10) oneByteEach (fun _ => 0) = some (result, read) ∧
      read.taken = [65] ∧ Terminates 3 1 (-1) (13, 10) oneByteEach 1 read := by
  obtain ⟨result, read, ran, -, terminates⟩ :=
    readTerminatedArray_terminates_iff (fun _ => 0) 0 3 1 (-1) (13, 10) faultless_oneByteEach
  have arrives : (oneByteEach 0).Arrives (-1) := ⟨1, by decide, by decide, by decide⟩
  obtain ⟨rfl, rfl⟩ := Prod.mk.inj (Option.some.inj ran)
  exact ⟨_, _, rfl, rfl, terminates.mpr (.inr (.inl ⟨rfl, arrives⟩)) 1 rfl⟩

/-- Two bytes are read, and 1 is returned. -/
theorem readTerminatedArray_returns_last :
    ∃ read, readTerminatedArray 0 0 2 (-1) (13, 10) oneByteEach (fun _ => 0) =
        some (.returned 1, read) ∧
      read.taken = [65, 65] ∧ ¬Terminates 0 2 (-1) (13, 10) oneByteEach 1 read := by
  refine ⟨_, rfl, rfl, ?_⟩
  intro terminates
  exact absurd terminates.returned (by decide)

end Jrxtx.SerialImp
