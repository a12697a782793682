import Mathlib.Algebra.Group.Int.Defs
import Jrxtx.RXTXPort.Write
import Jrxtx.SerialImp.ReadTerminatedArray

/-!
# Reading from a port

The methods `read(byte[], int, int)` and `read(byte[], int, int, byte[])` of
`SerialInputStream` make the same checks and derive the same `Minimum` for their native
reads.  The checks add `off` and `len` as Java does.
-/

namespace Jrxtx

open SerialImp

/-- A `byte[]`. -/
structure JavaBytes where
  length : Nat
  isInt : length < 2 ^ 31
  body : Body

/-- The arguments of a `read` are valid. -/
def JavaBytes.InRange (b : JavaBytes) (off len : Int) : Prop :=
  0 ≤ off ∧ 0 ≤ len ∧ off + len ≤ b.length

namespace RXTXPort

/-- How a `read` ends. -/
inductive ReadResult where
  | returned (bytes : Int)
  | throws (exception : CallResult)
  deriving DecidableEq, Repr

/-- What a `read` comes to before its native read. -/
inductive BeforeRead where
  | ends (result : ReadResult)
  /-- `Minimum` bytes are to be read into `b` -/
  | reads (b : JavaBytes) (minimum : Int)

/-- `Minimum`, with the result of `nativeavailable()`; `none` is an exception. -/
def minimum (threshold len : Int) (nativeavailable : Option Int) : Option Int :=
  if threshold = 0 then nativeavailable.map fun a => if a = 0 then 1 else min len a
  else some (min len threshold)

/-- The end of a native read; `ArrayIndexOutOfBoundsException` is a subclass of
`IndexOutOfBoundsException`. -/
def ReadResult.ofNative : NativeRead → ReadResult
  | .returned bytes => .returned bytes
  | .ioException => .throws .ioException
  | .arrayIndexOutOfBoundsException => .throws .indexOutOfBoundsException

/-- `waitForTheNativeCodeSilly`, with what its tests of `MonitorThreadLock` find: it goes on once
another thread has cleared it, and until then there is no result. -/
def waitForTheNativeCodeSilly : List Bool → Option Unit
  | [] => none
  | true :: tests => waitForTheNativeCodeSilly tests
  | false :: _ => some ()

section Methods

variable (self : RXTXPort) (threshold : Int) (b : Option JavaBytes) (off len : Int)
  (nativeavailable : Option Int) (tests : List Bool)

/-- What both methods do before the native read; `tests` are those of `MonitorThreadLock` behind
the first one. -/
def beforeRead : Option BeforeRead :=
  if self.fd = 0 then some (.ends (.throws .ioException))
  else
    match b with
    | none => some (.ends (.throws .nullPointerException))
    | some b =>
        if off < 0 ∨ len < 0 ∨ addInt off len > b.length then
          some (.ends (.throws .indexOutOfBoundsException))
        else if len = 0 then some (.ends (.returned 0))
        else
          match minimum threshold len nativeavailable with
          | none => some (.ends (.throws .ioException))
          | some minimum =>
              if self.monThreadisInterrupted then some (.ends (.returned 0))
              else
                (waitForTheNativeCodeSilly (self.monitorThreadLock :: tests)).map fun _ =>
                  .reads b minimum

variable (flag timeout : Int)

/-- `read(byte[], int, int)` -/
def read (calls : ReadCalls) : Option ReadResult :=
  (self.beforeRead threshold b off len nativeavailable tests).bind fun
    | .ends result => some result
    | .reads b minimum =>
        (readArray b.body flag off minimum timeout calls).map fun (result, _) =>
          .ofNative result

/-- `read(byte[], int, int, byte[])`, with the two bytes of `t` -/
def readTerminated (t : UInt8 × UInt8) (calls : Nat → ReadCalls) : Option ReadResult :=
  (self.beforeRead threshold b off len nativeavailable tests).bind fun
    | .ends result => some result
    | .reads b minimum =>
        (readTerminatedArray flag off minimum timeout t calls b.body).map fun (result, _) =>
          .ofNative result

end Methods

/-- The checks admit nothing but valid arguments to the native read, and it stores its
bytes in the part of the array that these name. -/
structure Bounded (port : RXTXPort) (threshold : Int) (b : Option JavaBytes) (off len : Int)
    (nativeavailable : Option Int) : Prop where
  checked : ∀ tests b' minimum,
    port.beforeRead threshold b off len nativeavailable tests = some (.reads b' minimum) →
      b = some b' ∧ b'.InRange off len
  throws : (∀ b', b = some b' → ¬b'.InRange off len) →
    ∃ exception, ∀ tests,
      port.beforeRead threshold b off len nativeavailable tests = some (.ends (.throws exception))
  array : ∀ tests b' minimum,
    port.beforeRead threshold b off len nativeavailable tests = some (.reads b' minimum) →
      ∀ flag timeout calls, ReadCalls.Within calls minimum →
        ∃ result stored, readArray b'.body flag off minimum timeout calls =
            some (result, store b'.body off stored) ∧
          (stored.length : Int) ≤ len
  terminatedArray : ∀ tests b' minimum,
    port.beforeRead threshold b off len nativeavailable tests = some (.reads b' minimum) →
      ∀ flag timeout t calls, (∀ k, ReadCalls.Within (calls k) 1) →
        ∃ result read, readTerminatedArray flag off minimum timeout t calls b'.body =
            some (result, read) ∧
          read.body = store b'.body off read.taken ∧
          (read.taken.length : Int) ≤ len

/-- A value of Java's type `int`. -/
def IsInt (value : Int) : Prop :=
  -2 ^ 31 ≤ value ∧ value < 2 ^ 31

instance (value : Int) : Decidable (IsInt value) :=
  inferInstanceAs (Decidable (_ ∧ _))

/-! ## The arguments of the native read -/

section Arguments

variable {self : RXTXPort} {threshold off len m : Int} {b : Option JavaBytes} {b' : JavaBytes}
  {nativeavailable : Option Int} {tests : List Bool}

/-- The wait ends with a test that finds `MonitorThreadLock` cleared. -/
theorem waitForTheNativeCodeSilly_eq (tests : List Bool) :
    waitForTheNativeCodeSilly tests = if false ∈ tests then some () else none := by
  fun_induction waitForTheNativeCodeSilly tests with
  | case1 => rfl
  | case2 tests ih => simpa using ih
  | case3 tests => simp

theorem addInt_of_lt {left right : Int} (nonneg : 0 ≤ left + right)
    (small : left + right < 2 ^ 31) : addInt left right = left + right := by
  unfold addInt
  rw [Int.bmod_def]
  omega

/-- Java's sum of two large numbers is negative. -/
theorem addInt_neg {left right : Int} (large : 2 ^ 31 ≤ left + right)
    (bounded : left + right < 2 ^ 32) : addInt left right < 0 := by
  unfold addInt
  rw [Int.bmod_def]
  omega

/-- `Minimum` is no more than `len`, and not 0. -/
theorem minimum_le (eq : minimum threshold len nativeavailable = some m) (positive : 0 < len) :
    m ≤ len ∧ m ≠ 0 := by
  unfold minimum at eq
  split at eq
  next =>
    obtain ⟨a, -, rfl⟩ := Option.map_eq_some_iff.mp eq
    split <;> omega
  next enabled =>
    obtain rfl := Option.some.inj eq
    omega

theorem minimum_eq_none_iff (len : Int) : minimum threshold len nativeavailable = none ↔
    threshold = 0 ∧ nativeavailable = none := by
  unfold minimum
  split <;> simp [*]

/-- Arguments that pass the tests. -/
structure Passes (port : RXTXPort) (b : JavaBytes) (off len : Int) : Prop where
  isOpen : port.fd ≠ 0
  off_nonneg : 0 ≤ off
  len_nonneg : 0 ≤ len
  sum_le : addInt off len ≤ b.length

/-- What comes behind the tests, for a `len` other than 0. -/
theorem Passes.beforeRead_eq (passes : Passes self b' off len) (nonzero : len ≠ 0) :
    self.beforeRead threshold (some b') off len nativeavailable tests =
      match minimum threshold len nativeavailable with
      | none => some (.ends (.throws .ioException))
      | some minimum =>
          if self.monThreadisInterrupted then some (.ends (.returned 0))
          else if false ∈ self.monitorThreadLock :: tests then some (.reads b' minimum)
          else none := by
  have valid : ¬(off < 0 ∨ len < 0 ∨ addInt off len > b'.length) := by
    have ⟨_, _, _, _⟩ := passes
    omega
  rw [beforeRead, if_neg passes.isOpen, if_neg valid, if_neg nonzero]
  simp only [waitForTheNativeCodeSilly_eq]
  split
  next => rfl
  next =>
    split
    next => rfl
    next => split <;> rfl

/-- The native read is made only with arguments that pass the tests. -/
theorem passes_of_reads
    (reads : self.beforeRead threshold b off len nativeavailable tests = some (.reads b' m)) :
    b = some b' ∧ Passes self b' off len ∧ len ≠ 0 ∧
      minimum threshold len nativeavailable = some m := by
  revert reads
  fun_cases beforeRead self threshold b off len nativeavailable tests with
  | case7 isOpen array valid nonzero minimum asked running =>
      intro reads
      obtain ⟨-, -, reads⟩ := Option.map_eq_some_iff.mp reads
      obtain ⟨rfl, rfl⟩ := BeforeRead.reads.inj reads
      refine ⟨rfl, ?_, nonzero, asked⟩
      constructor <;> omega
  | _ => simp

/-- What is left for the sum to go wrong with. -/
theorem Bounded.of_inRange
    (within : ∀ tests b' m,
      self.beforeRead threshold b off len nativeavailable tests = some (.reads b' m) →
        b'.InRange off len)
    (throws : (∀ b', b = some b' → ¬b'.InRange off len) →
      ∃ exception, ∀ tests,
        self.beforeRead threshold b off len nativeavailable tests =
          some (.ends (.throws exception))) :
    self.Bounded threshold b off len nativeavailable where
  checked tests b' m reads := by
    exact ⟨(passes_of_reads reads).1, within tests b' m reads⟩
  throws := throws
  array tests b' m reads flag timeout calls within := by
    obtain ⟨-, passes, nonzero, asked⟩ := passes_of_reads reads
    have positive : 0 < len := Int.lt_iff_le_and_ne.mpr ⟨passes.len_nonneg, nonzero.symm⟩
    obtain ⟨result, stored, ran, bounded⟩ := readArray_stores b'.body flag off timeout within
    have := minimum_le asked positive
    exact ⟨result, stored, ran, by omega⟩
  terminatedArray tests b' m reads flag timeout t calls within := by
    obtain ⟨-, passes, nonzero, asked⟩ := passes_of_reads reads
    have positive : 0 < len := Int.lt_iff_le_and_ne.mpr ⟨passes.len_nonneg, nonzero.symm⟩
    have asked := minimum_le asked positive
    obtain ⟨result, read, ran, stored, bounded⟩ :=
      readTerminatedArray_stores b'.body flag off timeout t within asked.2
    exact ⟨result, read, ran, stored, by omega⟩

/-- If the sum does not overflow, the tests are the ones they should be. -/
theorem Passes.inRange (passes : Passes self b' off len) (small : off + len < 2 ^ 31) :
    b'.InRange off len := by
  have nonneg := Int.add_nonneg passes.off_nonneg passes.len_nonneg
  refine ⟨passes.off_nonneg, passes.len_nonneg, ?_⟩
  rw [← addInt_of_lt nonneg small]
  exact passes.sum_le

/-- Arguments that do not pass the tests are rejected. -/
theorem throws_of_not_passes (rejected : ∀ b', b = some b' → ¬Passes self b' off len) :
    ∃ exception, ∀ tests,
      self.beforeRead threshold b off len nativeavailable tests =
        some (.ends (.throws exception)) := by
  unfold beforeRead
  split
  next => exact ⟨_, fun _ => rfl⟩
  next isOpen =>
    cases b with
    | none => exact ⟨_, fun _ => rfl⟩
    | some b =>
        refine ⟨_, fun _ => if_pos ?_⟩
        by_contra valid
        apply rejected b rfl
        constructor <;> omega

/-- After an overflow, only `nativeavailable()` can keep a read with a port and an array from
going on with invalid arguments. -/
theorem bounded_of_overflow_iff (isOpen : self.fd ≠ 0) (offNonneg : 0 ≤ off)
    (lenNonneg : 0 ≤ len) (large : 2 ^ 31 ≤ off + len) (offInt : IsInt off)
    (lenInt : IsInt len) :
    self.Bounded threshold (some b') off len nativeavailable ↔
      threshold = 0 ∧ nativeavailable = none := by
  have ⟨_, offSmall⟩ := offInt
  have ⟨_, lenSmall⟩ := lenInt
  have negative : addInt off len < 0 := addInt_neg large (by omega)
  have passes : Passes self b' off len := by
    constructor <;> omega
  have nonzero : len ≠ 0 := by omega
  have outside : ∀ array, some b' = some array → ¬array.InRange off len := by
    rintro _ ⟨⟩ ⟨-, -, fits⟩
    have isInt := b'.isInt
    omega
  rw [← minimum_eq_none_iff len]
  constructor
  · intro bounded
    obtain ⟨exception, thrown⟩ := bounded.throws outside
    have thrown := thrown []
    rw [passes.beforeRead_eq nonzero] at thrown
    cases asked : minimum threshold len nativeavailable with
    | none => rfl
    | some m =>
        rw [asked] at thrown
        simp only at thrown
        split at thrown
        next => simp at thrown
        next => split at thrown <;> simp at thrown
  · intro noMinimum
    have thrown (tests : List Bool) :
        self.beforeRead threshold (some b') off len nativeavailable tests =
          some (.ends (.throws .ioException)) := by
      rw [passes.beforeRead_eq nonzero, noMinimum]
    apply Bounded.of_inRange
    · intro tests array m reads
      rw [thrown] at reads
      simp at reads
    · exact fun _ => ⟨_, thrown⟩

/-- The native reads stay within the arguments, and invalid ones are rejected, unless Java's
sum of `off` and `len` overflows with nothing else throwing an exception. -/
theorem read_bounded_iff (offInt : IsInt off) (lenInt : IsInt len) :
    self.Bounded threshold b off len nativeavailable ↔
      self.fd = 0 ∨ b = none ∨ off < 0 ∨ len < 0 ∨ off + len < 2 ^ 31 ∨
        threshold = 0 ∧ nativeavailable = none := by
  by_cases overflows :
      ∃ b', b = some b' ∧ self.fd ≠ 0 ∧ 0 ≤ off ∧ 0 ≤ len ∧ 2 ^ 31 ≤ off + len
  · obtain ⟨b', rfl, isOpen, offNonneg, lenNonneg, large⟩ := overflows
    rw [bounded_of_overflow_iff isOpen offNonneg lenNonneg large offInt lenInt]
    have offValid := Int.not_lt.mpr offNonneg
    have lenValid := Int.not_lt.mpr lenNonneg
    have notSmall := Int.not_lt.mpr large
    simp only [isOpen, offValid, lenValid, notSmall, false_or]
    simp
  · have inRange : ∀ b', b = some b' → Passes self b' off len → b'.InRange off len := by
      intro b' isSome passes
      apply passes.inRange
      by_contra large
      exact overflows
        ⟨b', isSome, passes.isOpen, passes.off_nonneg, passes.len_nonneg, Int.not_lt.mp large⟩
    refine iff_of_true ?_ ?_
    · apply Bounded.of_inRange
      · intro tests b' m reads
        obtain ⟨isSome, passes, -⟩ := passes_of_reads reads
        exact inRange b' isSome passes
      · intro outside
        apply throws_of_not_passes
        exact fun b' isSome passes => outside b' isSome (inRange b' isSome passes)
    · by_contra noReason
      simp only [not_or, Int.not_lt] at noReason
      obtain ⟨isOpen, array, offNonneg, lenNonneg, large, -⟩ := noReason
      obtain ⟨b', isSome⟩ := Option.ne_none_iff_exists'.mp array
      exact overflows ⟨b', isSome, isOpen, offNonneg, lenNonneg, large⟩

/-! ## The threshold -/

variable {flag length timeout : Int} {calls : ReadCalls}

/-- Without a native read, both methods end in the same way. -/
theorem read_of_ends {result : ReadResult} (flag timeout : Int)
    (ends : self.beforeRead threshold b off len nativeavailable tests = some (.ends result)) :
    (∀ calls,
        self.read threshold b off len nativeavailable tests flag timeout calls = some result) ∧
      ∀ t calls,
        self.readTerminated threshold b off len nativeavailable tests flag timeout t calls =
          some result := by
  simp [read, readTerminated, ends]

/-- With arguments that pass the tests, `read` depends on the monitor thread. -/
theorem Passes.read_eq (passes : Passes self b' off len) (nonzero : len ≠ 0)
    (asked : minimum threshold len nativeavailable = some m) :
    self.read threshold (some b') off len nativeavailable tests flag timeout calls =
      if self.monThreadisInterrupted then some (.returned 0)
      else if false ∈ self.monitorThreadLock :: tests then
        (readArray b'.body flag off m timeout calls).map fun (result, _) => .ofNative result
      else none := by
  rw [read, passes.beforeRead_eq nonzero, asked]
  simp only
  split
  next => rfl
  next => split <;> rfl

/-- Without a timeout, a native read is complete if the bytes arrive within twenty rounds. -/
theorem readArray_complete_iff (positive : 0 < m) (disabled : timeout < 0)
    (faultless : calls.Faultless m) :
    ((readArray b'.body flag off m timeout calls).map fun (result, _) =>
        ReadResult.ofNative result) = some (.returned m) ↔
      m ≤ (calls.received 20).length := by
  obtain ⟨n, bytes, reading, ran, ret⟩ := returns flag m timeout calls
  have valid : 0 ≤ m := Int.le_of_lt positive
  have succeeds : 0 ≤ bytes := by
    have ⟨_, counted⟩ := ret.of_succeeds faultless.succeeds
    omega
  rw [readArray_of_nonneg b'.body off ran valid succeeds,
    ← ret.complete_iff faultless valid disabled]
  simp [ReadResult.ofNative]

/-- Without a timeout, `read` gets what the threshold asks for exactly if the monitor thread
runs, its lock is or will be cleared, and the bytes arrive within twenty rounds. -/
theorem read_complete_iff (isOpen : self.fd ≠ 0) (valid : b'.InRange off len)
    (enabled : 0 < threshold) (disabled : timeout < 0)
    (faultless : calls.Faultless (min len threshold)) :
    self.read threshold (some b') off len nativeavailable tests flag timeout calls =
        some (.returned (min len threshold)) ↔
      len = 0 ∨ self.monThreadisInterrupted = false ∧ false ∈ self.monitorThreadLock :: tests ∧
        min len threshold ≤ (calls.received 20).length := by
  obtain ⟨offNonneg, lenNonneg, fits⟩ := valid
  have isInt := b'.isInt
  have sum := addInt_of_lt (Int.add_nonneg offNonneg lenNonneg) (by omega)
  have passes : Passes self b' off len := by
    constructor <;> omega
  have asked : minimum threshold len nativeavailable = some (min len threshold) :=
    if_neg (Int.ne_of_gt enabled)
  by_cases empty : len = 0
  · have nothing : self.beforeRead threshold (some b') off len nativeavailable tests =
        some (.ends (.returned 0)) := by
      have valid : ¬(off < 0 ∨ len < 0 ∨ addInt off len > b'.length) := by omega
      rw [beforeRead, if_neg isOpen, if_neg valid, if_pos empty]
    have zero : min len threshold = 0 := by omega
    rw [zero]
    exact iff_of_true ((read_of_ends flag timeout nothing).1 calls) (.inl empty)
  · have positive : 0 < min len threshold := by omega
    rw [or_iff_right empty, passes.read_eq empty asked]
    cases interrupted : self.monThreadisInterrupted with
    | true =>
        refine iff_of_false ?_ fun running => Bool.noConfusion running.1
        intro same
        rw [if_pos rfl, Option.some.injEq, ReadResult.returned.injEq] at same
        exact Int.ne_of_lt positive same
    | false =>
        by_cases unlocked : false ∈ self.monitorThreadLock :: tests
        · simp only [Bool.false_eq_true, if_false, true_and, unlocked, if_true]
          exact readArray_complete_iff positive disabled faultless
        · rw [if_neg Bool.false_ne_true, if_neg unlocked]
          exact iff_of_false (Option.some_ne_none _).symm fun running => unlocked running.2.1

/-- A native read without failures returns fewer bytes than requested only after the timeout,
exactly if the bytes arrive, or the timeout is over, within twenty rounds; and `read` then gets
what the threshold asks for. -/
theorem short_reads_iff (flag timeout : Int) (faultless : calls.Faultless length) :
    (∃ bytes reading, readByteArray flag length timeout calls = some (bytes, reading) ∧
      ((bytes < length → calls.TimedOut timeout reading.count) ↔
        ∃ m ≤ 20, length ≤ (calls.received m).length ∨ calls.TimedOut timeout m)) ∧
    ∀ (self : RXTXPort) (threshold : Int) (b' : JavaBytes) (off len : Int)
        (nativeavailable : Option Int) (tests : List Bool),
      self.fd ≠ 0 → b'.InRange off len → 0 < threshold → length = min len threshold →
      timeout < 0 →
      (self.read threshold (some b') off len nativeavailable tests flag timeout calls =
          some (.returned (min len threshold)) ↔
        len = 0 ∨ self.monThreadisInterrupted = false ∧ false ∈ self.monitorThreadLock :: tests ∧
          min len threshold ≤ (calls.received 20).length) := by
  constructor
  · obtain ⟨n, bytes, reading, ran, ret⟩ := returns flag length timeout calls
    obtain rfl := ret.locals
    exact ⟨bytes, _, ran, ret.short_only_after_timeout_iff faultless.succeeds⟩
  · rintro self threshold b' off len nativeavailable tests isOpen valid enabled rfl disabled
    exact read_complete_iff isOpen valid enabled disabled faultless

end Arguments

/-- An open port whose event loop runs. -/
def monitored : RXTXPort where
  fd := 5
  monThreadisInterrupted := false
  monitorThreadLock := false

/-- An array of ten elements. -/
def tenBytes : JavaBytes where
  length := 10
  isInt := by decide
  body := fun _ => 0

/-- The last five elements, of which three are available. -/
theorem read_bounded_iff_last : monitored.Bounded 0 (some tenBytes) 5 5 (some 3) :=
  (read_bounded_iff (by decide) (by decide)).mpr (by decide)

/-- The index behind the last one that an array can have: the sum overflows, and the native
read is asked for one byte. -/
theorem read_beyond_array :
    monitored.beforeRead 0 (some tenBytes) (2 ^ 31 - 1) 1 (some 0) [] =
        some (.reads tenBytes 1) ∧
      ¬tenBytes.InRange (2 ^ 31 - 1) 1 ∧
      ¬monitored.Bounded 0 (some tenBytes) (2 ^ 31 - 1) 1 (some 0) := by
  have reads : monitored.beforeRead 0 (some tenBytes) (2 ^ 31 - 1) 1 (some 0) [] =
      some (.reads tenBytes 1) := rfl
  have outside : ¬tenBytes.InRange (2 ^ 31 - 1) 1 := by
    rintro ⟨-, -, fits⟩
    exact absurd fits (by decide)
  exact ⟨reads, outside, fun bounded => outside (bounded.checked _ _ _ reads).2⟩

/-- Bytes arrive one by one. -/
def oneByOne (bytes : Nat) : ReadCalls where
  start := 0
  outcomes := fun n => { now := n, select := 1, read := if n < bytes then some [65] else some [] }

theorem received_oneByOne (bytes n : Nat) :
    ((oneByOne bytes).received n).length = min n bytes := by
  induction n with
  | zero => simp [ReadCalls.received]
  | succ n ih =>
      rw [ReadCalls.received_succ, List.length_append, ih]
      by_cases more : n < bytes <;> simp [ReadCalls.given, oneByOne, more] <;> omega

theorem faultless_oneByOne (bytes : Nat) : (oneByOne bytes).Faultless bytes where
  succeeds n := by
    by_cases more : n < bytes <;> simp [ReadCalls.Fails, oneByOne, more]
  within n := by
    rw [received_oneByOne]
    by_cases more : n < bytes <;> simp [ReadCalls.given, oneByOne, more]
    omega

/-- Three bytes are requested while the monitor thread is being started, and arrive one by one
once it has cleared `MonitorThreadLock`. -/
theorem short_reads_iff_three :
    { monitored with monitorThreadLock := true }.read 3 (some tenBytes) 0 5 none [true, false] 0
      (-1) (oneByOne 3) = some (.returned 3) :=
  ((short_reads_iff 0 (-1) (faultless_oneByOne 3)).2 { monitored with monitorThreadLock := true }
    3 tenBytes 0 5 none [true, false] (by decide) ⟨by decide, by decide, by decide⟩ (by decide)
    rfl (by decide)).mpr (.inr ⟨rfl, by decide, by decide⟩)

/-- Thirty bytes are requested and arrive one by one, without a timeout: twenty are
returned. -/
theorem read_stops_after_twenty_rounds :
    ∃ reading, readByteArray 0 30 (-1) (oneByOne 30) = some (20, reading) ∧
      ¬(oneByOne 30).TimedOut (-1) reading.count ∧
      monitored.read 30 (some ⟨30, by decide, fun _ => 0⟩) 0 30 none [] 0 (-1) (oneByOne 30) =
        some (.returned 20) :=
  ⟨_, rfl, by decide, rfl⟩

end RXTXPort

end Jrxtx
