import Jrxtx.SerialImp.ReadArray
import Jrxtx.Transition.Loop

/-!
# Reading from an RS485 port

`RS485InputStream.read(b, off, len)` asks the native `readArray` for the smallest of several
sizes.  The native side writes into the array no more than it is asked for.
-/

namespace Jrxtx

/-- The receive settings of a `gnu.io.RS485`. -/
structure RS485 where
  timeout : Int
  threshold : Int
  inputBuffer : Int
  timeout_nonneg : 0 ≤ timeout
  threshold_nonneg : 0 ≤ threshold

namespace RS485

open SerialImp Transition

theorem zero_nonneg : (0 : Int) ≤ 0 := Int.le_refl 0

/-- The settings of a new port. -/
def new : RS485 where
  timeout := 0
  threshold := 0
  inputBuffer := 0
  timeout_nonneg := zero_nonneg
  threshold_nonneg := zero_nonneg

def enableReceiveTimeout (self : RS485) (time : Int) : RS485 :=
  if valid : time ≥ 0 then { self with timeout := time, timeout_nonneg := valid } else self

def enableReceiveThreshold (self : RS485) (thresh : Int) : RS485 :=
  if valid : thresh ≥ 0 then { self with threshold := thresh, threshold_nonneg := valid } else self

def setInputBufferSize (self : RS485) (size : Int) : RS485 :=
  { self with inputBuffer := size }

/-! ## The native side -/

/-- A round of `read_byte_array`: the result of the last `select()`, which depends on the
timeout, and the bytes that the device has for `read()`; `none` if it fails. -/
structure ReadRound where
  select : Int
  read : Option (List UInt8)

/-- What happens during a read: whether `nativeavailable` throws, whether `malloc` succeeds, and
the rounds of `read_byte_array`. -/
structure ReadCalls where
  availableThrows : Bool
  malloc : Bool
  rounds : Nat → ReadRound

/-- The local variables of `read_byte_array` after `count` rounds. -/
structure Reading where
  buffer : List UInt8
  count : Nat

/-- A round of the loop of `read_byte_array`; it ends with what is returned and the buffer. -/
def Reading.round (length : Int) (calls : ReadCalls) (reading : Reading) :
    Except (Int × List UInt8) Reading :=
  let outcome := calls.rounds reading.count
  let bytes : Int := reading.buffer.length
  if bytes < length then
    if outcome.select = 0 then .error (bytes, reading.buffer)
    else if outcome.select < 0 then .error (-1, reading.buffer)
    else
      match outcome.read with
      | none => .error (-1, reading.buffer)
      | some ready =>
          match ready.take (length - bytes).toNat with
          | [] => .error (bytes, reading.buffer)
          | given => .ok ⟨reading.buffer ++ given, reading.count + 1⟩
  else .error (bytes, reading.buffer)

/-- `read_byte_array`, with enough fuel: every round that goes on has read something. -/
def readByteArray (length : Int) (calls : ReadCalls) : Option (Int × List UInt8) :=
  loop (Reading.round length calls) (length.toNat + 1) ⟨[], 0⟩

/-- How the native `readArray` ends. -/
inductive ReadArray where
  | returned (bytes : Int)
  | ioException
  | arrayIndexOutOfBoundsException
  | outOfMemoryError
  deriving DecidableEq, Repr

/-- `RS485.readArray`, with the elements that it leaves. -/
def readArray (body : Body) (offset length : Int) (calls : ReadCalls) :
    Option (ReadArray × Body) :=
  -- as a `size_t`, a negative length is larger than `SSIZE_MAX`
  if length < 0 then some (.arrayIndexOutOfBoundsException, body)
  else if !calls.malloc then some (.outOfMemoryError, body)
  else
    (readByteArray length calls).map fun (bytes, buffer) =>
      if bytes < 0 then (.ioException, body)
      else (.returned (if bytes ≠ 0 then bytes else -1), store body offset buffer)

/-! ## The Java side -/

/-- `while (intArray[i] == 0 && i < intArray.length) i++`: the elements from `i` on; `none` if
`intArray[i]` is behind the last one. -/
def skipZeros : List Int → Option (Int × List Int)
  | [] => none
  | value :: rest => if value = 0 then skipZeros rest else some (value, value :: rest)

variable (self : RS485)

/-- The size that `read` asks for; `none` if it indexes `intArray` out of bounds. -/
def minimum (bLength len : Int) : Option Int :=
  (skipZeros [bLength, self.inputBuffer, len]).map fun (first, rest) =>
    let minimum :=
      rest.foldl (fun minimum value => if value > 0 then min minimum value else minimum) first
    let minimum := min minimum self.threshold
    if minimum = 0 then 1 else minimum

/-- How a read goes: it indexes `intArray` out of bounds, or `available()` throws, or the native
`readArray` is asked for some bytes. -/
inductive Read where
  | leavesArray
  | availableThrows
  | asked (bytes : Int) (result : ReadArray)
  deriving DecidableEq, Repr

/-- `RS485InputStream.read(b, off, len)`, with the elements that it leaves. -/
def read (body : Body) (bLength off len : Int) (calls : ReadCalls) : Option (Read × Body) :=
  match self.minimum bLength len with
  | none => some (.leavesArray, body)
  | some minimum =>
      if calls.availableThrows then some (.availableThrows, body)
      else (readArray body off minimum calls).map fun (result, after) =>
        (.asked minimum result, after)

/-- `intArray` is indexed within its length, at most `len` bytes are asked for, and nothing
outside of them is written. -/
structure InBounds (body : Body) (off len : Int) (read : Read) (after : Body) : Prop where
  indexed : read ≠ .leavesArray
  asked : ∀ bytes result, read = .asked bytes result → bytes ≤ len
  frame : ∀ index, index < off ∨ off + len ≤ index → after index = body index

/-! ## Bounds -/

section Bounds

variable {self} {body : Body} {bLength off len length : Int} {calls : ReadCalls}

/-- A round ends the loop, or appends some of the bytes that are missing. -/
theorem round_cases (reading : Reading) (length : Int) (calls : ReadCalls) :
    (∃ bytes, reading.round length calls = .error (bytes, reading.buffer)) ∨
      ∃ given, given ≠ [] ∧ (reading.buffer.length : Int) + given.length ≤ length ∧
        reading.round length calls = .ok ⟨reading.buffer ++ given, reading.count + 1⟩ := by
  simp only [Reading.round]
  by_cases missing : (reading.buffer.length : Int) < length
  case neg => exact .inl ⟨_, if_neg missing⟩
  case pos =>
    simp only [if_pos missing]
    by_cases timedOut : (calls.rounds reading.count).select = 0
    · exact .inl ⟨_, if_pos timedOut⟩
    by_cases fails : (calls.rounds reading.count).select < 0
    · exact .inl ⟨-1, by simp [timedOut, fails]⟩
    simp only [timedOut, fails, if_false]
    cases (calls.rounds reading.count).read with
    | none => exact .inl ⟨_, rfl⟩
    | some ready =>
        have taken := List.length_take_le (length - reading.buffer.length).toNat ready
        cases given : ready.take (length - reading.buffer.length).toNat with
        | nil => exact .inl ⟨reading.buffer.length, by simp only [given]⟩
        | cons first rest =>
            rw [given] at taken
            exact .inr ⟨first :: rest, List.cons_ne_nil _ _, by omega, by simp only [given]⟩

/-- `read_byte_array` returns, and its buffer holds no more than it is asked for. -/
theorem exists_readByteArray (nonneg : 0 ≤ length) (calls : ReadCalls) :
    ∃ result, readByteArray length calls = some result ∧ (result.2.length : Int) ≤ length := by
  have keeps (reading next : Reading) (within : (reading.buffer.length : Int) ≤ length)
      (goesOn : reading.round length calls = .ok next) :
      (next.buffer.length : Int) ≤ length ∧
        length.toNat - next.buffer.length < length.toNat - reading.buffer.length := by
    rcases round_cases reading length calls with ⟨bytes, ends⟩ | ⟨given, some, fits, round⟩
    · simp [ends] at goesOn
    · obtain rfl := Except.ok.inj (goesOn.symm.trans round)
      have positive := List.length_pos_iff.mpr some
      simp only [List.length_append]
      omega
  have exits (reading : Reading) (result : Int × List UInt8)
      (within : (reading.buffer.length : Int) ≤ length)
      (ends : reading.round length calls = .error result) : (result.2.length : Int) ≤ length := by
    rcases round_cases reading length calls with ⟨bytes, round⟩ | ⟨given, -, -, round⟩
    · obtain rfl := Except.error.inj (ends.symm.trans round)
      exact within
    · simp [round] at ends
  have initial : ((⟨[], 0⟩ : Reading).buffer.length : Int) ≤ length := nonneg
  exact exists_loop_post (fun reading : Reading => (reading.buffer.length : Int) ≤ length)
    (fun reading => length.toNat - reading.buffer.length)
    (fun result => (result.2.length : Int) ≤ length) initial keeps exits
    (Nat.lt_succ_of_le (Nat.sub_le _ _))

/-- The native `readArray` writes no more than it is asked for. -/
theorem exists_readArray (body : Body) (offset length : Int) (calls : ReadCalls) :
    ∃ result stored, readArray body offset length calls = some (result, store body offset stored) ∧
      (stored.length : Int) ≤ max length 0 := by
  unfold readArray
  split
  next => exact ⟨_, [], by rw [store_nil], Int.le_max_right _ _⟩
  next valid =>
    split
    next => exact ⟨_, [], by rw [store_nil], Int.le_max_right _ _⟩
    next =>
      obtain ⟨⟨bytes, buffer⟩, read, fits⟩ := exists_readByteArray (Int.not_lt.mp valid) calls
      simp only [read, Option.map_some]
      split
      next => exact ⟨_, [], by rw [store_nil], Int.le_max_right _ _⟩
      next => exact ⟨_, buffer, rfl, Int.le_trans fits (Int.le_max_left _ _)⟩

variable (self) in
/-- The scan leaves the array exactly if there is nothing but zeros. -/
theorem minimum_eq_none_iff (nonneg : 0 ≤ len) (fits : len ≤ bLength) :
    self.minimum bLength len = none ↔ bLength = 0 ∧ self.inputBuffer = 0 := by
  simp only [minimum, Option.map_eq_none_iff, skipZeros]
  split
  next empty =>
    have none : len = 0 := by omega
    split <;> simp_all
  next => simp_all

/-- What is asked for is at most `len` exactly if `len` counts, or if the scan stops at a
negative size. -/
theorem minimum_le_iff {bytes : Int} (nonneg : 0 ≤ len) (fits : len ≤ bLength)
    (isMinimum : self.minimum bLength len = some bytes) :
    bytes ≤ len ↔ 0 < len ∨ bLength = 0 ∧ self.inputBuffer < 0 := by
  have threshold := self.threshold_nonneg
  simp only [minimum, skipZeros, Option.map_eq_some_iff] at isMinimum
  obtain ⟨⟨first, rest⟩, isScan, rfl⟩ := isMinimum
  by_cases empty : bLength = 0
  case pos =>
    -- then `len` is zero too, and the scan can only stop at the buffer size
    obtain rfl : len = 0 := by omega
    have isBuffer : self.inputBuffer ≠ 0 := by
      intro none
      simp [empty, none] at isScan
    simp only [empty, if_true, isBuffer, if_false, Option.some.injEq, Prod.mk.injEq] at isScan
    obtain ⟨rfl, rfl⟩ := isScan
    simp only [List.foldl_cons, List.foldl_nil]
    grind
  case neg =>
    simp only [if_neg empty, Option.some.injEq, Prod.mk.injEq] at isScan
    obtain ⟨rfl, rfl⟩ := isScan
    simp only [List.foldl_cons, List.foldl_nil]
    grind

/-- A read stays in bounds exactly if it is not empty, or if the array is empty and the buffer
size negative, or if `available()` throws before the native side is asked. -/
theorem read_inBounds_iff (self : RS485) (body : Body) (off : Int) (calls : ReadCalls)
    (nonneg : 0 ≤ len) (fits : len ≤ bLength) :
    ∃ result after, self.read body bLength off len calls = some (result, after) ∧
      (InBounds body off len result after ↔
        0 < len ∨ bLength = 0 ∧ self.inputBuffer < 0 ∨
          calls.availableThrows = true ∧ (bLength ≠ 0 ∨ self.inputBuffer ≠ 0)) := by
  unfold read
  cases isMinimum : self.minimum bLength len with
  | none =>
      obtain ⟨empty, unset⟩ := (self.minimum_eq_none_iff nonneg fits).mp isMinimum
      refine ⟨_, _, rfl, iff_of_false (fun bounds => bounds.indexed rfl) ?_⟩
      omega
  | some bytes =>
      have scanned : bLength ≠ 0 ∨ self.inputBuffer ≠ 0 := by
        by_contra zeros
        have none := (self.minimum_eq_none_iff nonneg fits).mpr (by omega)
        simp [isMinimum] at none
      have least := minimum_le_iff nonneg fits isMinimum
      cases throws : calls.availableThrows with
      | true =>
          refine ⟨_, _, if_pos rfl, iff_of_true ⟨by simp, by simp, fun _ _ => rfl⟩ ?_⟩
          exact .inr (.inr ⟨rfl, scanned⟩)
      | false =>
          obtain ⟨result, stored, returned, length⟩ := exists_readArray body off bytes calls
          refine ⟨.asked bytes result, store body off stored, by simp [returned], ?_⟩
          simp only [Bool.false_eq_true, false_and, or_false]
          rw [← least]
          constructor
          · exact fun bounds => bounds.asked bytes result rfl
          · intro within
            refine ⟨by simp, ?_, fun index outside => store_of_outside (by omega)⟩
            rintro other result' ⟨⟩
            exact within

end Bounds

/-- A device with one byte in every round. -/
def oneByteReady : ReadCalls where
  availableThrows := false
  malloc := true
  rounds := fun _ => ⟨1, some [65]⟩

/-- Two bytes, with a threshold of eight. -/
theorem read_inBounds_iff_twoBytes :
    ∃ result after,
      (new.enableReceiveThreshold 8).read (fun _ => 0) 4 2 2 oneByteReady = some (result, after) ∧
        (InBounds (fun _ => 0) 2 2 result after ↔
          0 < (2 : Int) ∨ (4 : Int) = 0 ∧ (new.enableReceiveThreshold 8).inputBuffer < 0 ∨
            oneByteReady.availableThrows = true ∧
              ((4 : Int) ≠ 0 ∨ (new.enableReceiveThreshold 8).inputBuffer ≠ 0)) :=
  read_inBounds_iff _ _ 2 oneByteReady (by decide) (by decide)

/-- An empty read at the end of an array writes behind it, and an empty read of an empty array
leaves `intArray`. -/
theorem empty_read_leaves_bounds :
    (∃ after,
        new.read (fun _ => 0) 4 4 0 oneByteReady = some (.asked 1 (.returned 1), after) ∧
          after 4 = 65 ∧ ¬InBounds (fun _ => 0) 4 0 (.asked 1 (.returned 1)) after) ∧
      new.read (fun _ => 0) 0 0 0 oneByteReady = some (.leavesArray, fun _ => 0) := by
  refine ⟨⟨_, rfl, rfl, fun bounds => ?_⟩, rfl⟩
  exact absurd (bounds.asked 1 _ rfl) (by decide)

end RS485

end Jrxtx
