import Jrxtx.SerialImp.ReadByteArray

/-!
# Reading into a Java array

`RXTXPort.readArray` has `read_byte_array` write behind `body + offset`, where `body` are
the elements of the array.  A round that fails makes `read_byte_array` return -1, whatever
it has received before.
-/

namespace Jrxtx.SerialImp

open DataAvailable

/-- The elements of a Java array, with the memory around them. -/
abbrev Body := Int → UInt8

/-- The memory after `bytes` have been written from `offset` on. -/
def store (body : Body) (offset : Int) (bytes : List UInt8) : Body :=
  fun index =>
    if index < offset then body index
    else (bytes[(index - offset).toNat]?).getD (body index)

/-- How a native read ends. -/
inductive NativeRead where
  | returned (bytes : Int)
  | ioException
  | arrayIndexOutOfBoundsException
  deriving DecidableEq, Repr

/-- `RXTXPort.readArray`, with the elements that it leaves. -/
def readArray (body : Body) (flag offset length timeout : Int) (calls : ReadCalls) :
    Option (NativeRead × Body) :=
  -- as a `size_t`, a negative length is larger than `SSIZE_MAX`
  if length < 0 then some (.arrayIndexOutOfBoundsException, body)
  else
    (readByteArray flag length timeout calls).map fun (bytes, reading) =>
      (if bytes < 0 then .ioException else .returned bytes, store body offset reading.buffer)

/-- A call fails in a round that `read_byte_array` gets to with some bytes received. -/
structure LosesAt (length timeout : Int) (calls : ReadCalls) (n : Nat) : Prop where
  goesOn : ∀ m ≤ n, ¬calls.Ends length timeout m
  succeeds : ∀ m < n, ¬calls.Fails m
  fails : calls.Fails n
  received : calls.received n ≠ []

section Store

variable {body : Body} {offset : Int} {bytes : List UInt8}

theorem store_of_lt {i : Nat} (inRange : i < bytes.length) :
    store body offset bytes (offset + i) = bytes[i] := by
  have behind : ¬offset + i < offset := by omega
  have position : (offset + i - offset).toNat = i := by omega
  rw [store, if_neg behind, position, List.getElem?_eq_getElem inRange, Option.getD_some]

/-- Nothing else is written. -/
theorem store_of_outside {index : Int}
    (outside : index < offset ∨ offset + bytes.length ≤ index) :
    store body offset bytes index = body index := by
  unfold store
  split
  next => rfl
  next behind =>
    have beyond : bytes.length ≤ (index - offset).toNat := by omega
    rw [List.getElem?_eq_none beyond, Option.getD_none]

theorem store_nil : store body offset [] = body := by
  funext index
  exact store_of_outside (by simp; omega)

/-- Bytes written behind those just written. -/
theorem store_append {more : List UInt8} :
    store (store body offset bytes) (offset + bytes.length) more =
      store body offset (bytes ++ more) := by
  funext index
  rcases Int.lt_or_le index (offset + bytes.length) with before | behind
  · rw [store_of_outside (.inl before)]
    rcases Int.lt_or_le index offset with outside | inside
    · rw [store_of_outside (.inl outside), store_of_outside (.inl outside)]
    · obtain ⟨i, rfl⟩ := Int.le.dest inside
      have inRange : i < bytes.length := by omega
      rw [store_of_lt inRange, store_of_lt (by simp; omega), List.getElem_append_left inRange]
  · obtain ⟨i, rfl⟩ := Int.le.dest behind
    rcases Nat.lt_or_ge i more.length with inRange | beyond
    · have position : offset + bytes.length + i = offset + (bytes.length + i : Nat) := by omega
      rw [store_of_lt inRange, position, store_of_lt (by simp; omega)]
      simp
    · rw [store_of_outside (.inr (by omega)), store_of_outside (.inr (by omega)),
        store_of_outside (.inr (by simp; omega))]

end Store

variable {flag offset length timeout result : Int} {calls : ReadCalls} {reading : Reading}
  {n : Nat}

/-- The round in which bytes are lost is the last one. -/
theorem LosesAt.eq_last (loses : LosesAt length timeout calls n) {m : Nat}
    (ret : Returns flag length timeout calls m result reading) : m = n := by
  rcases Nat.lt_trichotomy m n with before | same | behind
  · rcases ret.ends with ⟨ended, -⟩ | ⟨-, fails, -⟩
    · exact absurd ended (loses.goesOn m (Nat.le_of_lt before))
    · exact absurd fails (loses.succeeds m before)
  · exact same
  · exact absurd loses.fails (ret.goesOn n behind).2

theorem readArray_of_nonneg {bytes : Int} (body : Body) (offset : Int)
    (ran : readByteArray flag length timeout calls = some (bytes, reading)) (valid : 0 ≤ length)
    (succeeds : 0 ≤ bytes) : readArray body flag offset length timeout calls =
      some (.returned bytes, store body offset reading.buffer) := by
  rw [readArray, if_neg (Int.not_lt.mpr valid), ran]
  simp [Int.not_lt.mpr succeeds]

/-- Without a request nothing is read. -/
theorem Returns.received_of_nonpos (ret : Returns flag length timeout calls n result reading)
    (nonpos : length ≤ 0) : calls.received n = [] := by
  cases n with
  | zero => rfl
  | succ n => exact absurd (.inl nonpos) (ret.goesOn 0 (Nat.succ_pos n)).1

/-- Whatever happens, `readArray` writes no more bytes than it is asked for, from `offset`
on. -/
theorem readArray_stores (body : Body) (flag offset timeout : Int) (within : calls.Within length) :
    ∃ result stored, readArray body flag offset length timeout calls =
        some (result, store body offset stored) ∧ stored.length ≤ length.toNat := by
  unfold readArray
  split
  next => exact ⟨_, [], by rw [store_nil], Nat.zero_le _⟩
  next =>
    obtain ⟨n, result, reading, ran, ret⟩ := returns flag length timeout calls
    obtain rfl := ret.locals
    exact ⟨_, _, by rw [ran]; rfl, within.length_received_le n⟩

/-- The return value does not cover the bytes received exactly if some are lost. -/
theorem Returns.covers_iff (ret : Returns flag length timeout calls n result reading) :
    (calls.received n = [] ∨ result = (calls.received n).length) ↔
      ¬∃ m, LosesAt length timeout calls m := by
  constructor
  · rintro covered ⟨m, loses⟩
    obtain rfl := loses.eq_last ret
    rcases ret.ends with ⟨ended, -⟩ | ⟨-, -, failed⟩
    · exact loses.goesOn n (Nat.le_refl n) ended
    · have counted := covered.resolve_left loses.received
      omega
  · intro kept
    rcases ret.ends with ⟨-, counted⟩ | ⟨notYet, fails, -⟩
    · exact .inr counted
    · left
      by_contra received
      refine kept ⟨n, ?_, fun m before => (ret.goesOn m before).2, fails, received⟩
      intro m le
      rcases Nat.lt_or_eq_of_le le with before | rfl
      · exact (ret.goesOn m before).1
      · exact notYet

/-- The bytes `taken` from the device are reported: `read_byte_array` stores them in order
and returns their number, and so does `readArray`, from `offset` on. -/
structure Reported (offset : Int) (taken : List UInt8) (bytes : Int) (reading : Reading)
    (result : NativeRead) (body : Body) : Prop where
  buffer : reading.buffer = taken
  returned : bytes = taken.length
  result : result = .returned taken.length
  stored : ∀ i (inRange : i < taken.length), body (offset + i) = taken[i]

/-- The bytes that the rounds of a read have taken from the device, if any, are reported
exactly if no call fails in a round in which there are some. -/
theorem taken_bytes_reported_iff (body : Body) (flag offset length timeout : Int)
    (calls : ReadCalls) :
    ∃ bytes reading result after,
      readByteArray flag length timeout calls = some (bytes, reading) ∧
      readArray body flag offset length timeout calls = some (result, after) ∧
      ((calls.received reading.count ≠ [] →
          Reported offset (calls.received reading.count) bytes reading result after) ↔
        ¬∃ m, LosesAt length timeout calls m) := by
  obtain ⟨n, bytes, reading, ran, ret⟩ := returns flag length timeout calls
  obtain rfl := ret.locals
  have count : (readingAt flag length timeout calls n).count = n := rfl
  rw [ran, readArray, ran]
  by_cases negative : length < 0
  · have nothing : calls.received n = [] := ret.received_of_nonpos (Int.le_of_lt negative)
    refine ⟨_, _, _, _, rfl, if_pos negative, ?_⟩
    rw [count, ← ret.covers_iff]
    simp [nothing]
  · refine ⟨_, _, _, _, rfl, if_neg negative, ?_⟩
    rw [count, ← ret.covers_iff, ← or_iff_not_imp_left]
    apply or_congr_right
    constructor
    · exact Reported.returned
    · intro covered
      constructor
      case buffer => rfl
      case returned => exact covered
      case result => rw [if_neg (by omega), covered]
      case stored => exact fun i inRange => store_of_lt inRange

/-- The first `read()` gives a byte, the second fails. -/
def oneByteThenFailure : ReadCalls where
  start := 0
  outcomes := fun n => { now := 0, select := 1, read := if n = 0 then some [65] else none }

/-- Of two bytes requested, one is taken from the device and lost. -/
theorem failed_read_loses_byte :
    ∃ bytes reading result after,
      readByteArray 0 2 (-1) oneByteThenFailure = some (bytes, reading) ∧
      readArray (fun _ => 0) 0 0 2 (-1) oneByteThenFailure = some (result, after) ∧
      oneByteThenFailure.received reading.count = [65] ∧ bytes = -1 ∧ result = .ioException ∧
      ¬Reported 0 [65] bytes reading result after := by
  refine ⟨-1, _, .ioException, _, rfl, rfl, rfl, rfl, rfl, ?_⟩
  intro reported
  exact absurd reported.returned (by decide)

end Jrxtx.SerialImp
