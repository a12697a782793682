import Jrxtx.LPRPort.Core
import Jrxtx.SerialImp.ReadArray
import Jrxtx.Transition.Loop

/-!
# Reading from a parallel port

`readArray` fetches the settings of the port by the names of their fields and has
`read_byte_array` wait for the bytes.  On Linux, `select()` leaves in its argument the rest
of the time, so that the calls of one read share one timeout.
-/

namespace Jrxtx.ParallelImp

open Jrxtx.SerialImp Jrxtx.Transition

/-! ## Waiting -/

/-- `struct timeval` -/
structure TimeVal where
  tvSec : Int
  tvUsec : Int
  deriving DecidableEq, Repr

/-- How `read_byte_array` sets its `sleep`. -/
def TimeVal.ofMillis (timeout : Int) : TimeVal :=
  ⟨timeout.tdiv 1000, 1000 * timeout.tmod 1000⟩

theorem TimeVal.ofMillis_injective : Function.Injective ofMillis := by
  intro one other same
  simp only [ofMillis, TimeVal.mk.injEq] at same
  rw [← Int.mul_tdiv_add_tmod one 1000, ← Int.mul_tdiv_add_tmod other 1000, same.1]
  omega

/-- A call of `select()`: the timeout that it is given, its result, and what it leaves. -/
structure Select where
  given : TimeVal
  result : Int
  left : TimeVal
  deriving DecidableEq, Repr

/-- The calls share a timeout: the first is given all of it, every other what the one before
has left, and so much is left at last. -/
def Share (timeout : TimeVal) : List Select → (last : TimeVal) → Prop
  | [], last => last = timeout
  | select :: selects, last => select.given = timeout ∧ Share select.left selects last

section Share

variable {timeout other last last' : TimeVal} {selects : List Select}

theorem Share.append (shared : Share timeout selects last) (result : Int) (left : TimeVal) :
    Share timeout (selects ++ [⟨last, result, left⟩]) left := by
  induction selects generalizing timeout with
  | nil => exact ⟨shared, rfl⟩
  | cons select selects ih => exact ⟨shared.1, ih shared.2⟩

/-- The first call shows the timeout. -/
theorem Share.unique (some : selects ≠ []) (one : Share timeout selects last)
    (two : Share other selects last') : timeout = other := by
  cases selects with
  | nil => exact absurd rfl some
  | cons select selects => exact one.1.symm.trans two.1

end Share

/-! ## Reading bytes -/

/-- What happens in a round of `read_byte_array`: what every call of `select()` leaves that a
signal interrupts, the result of the last call and what it leaves, and what `read()` gives. -/
structure ReadRound where
  interrupted : List TimeVal
  select : Int
  left : TimeVal
  read : Option (List UInt8)

/-- The local variables of `read_byte_array` after `count` rounds, with the calls of
`select()` so far. -/
structure Reading where
  buffer : List UInt8
  bytes : Int
  left : Int
  sleep : TimeVal
  count : Nat
  selects : List Select

/-- What happens during a call of `readArray`. -/
structure ReadCalls where
  malloc : Bool
  rounds : Nat → ReadRound

namespace Reading

def begin (length timeout : Int) : Reading where
  buffer := []
  bytes := 0
  left := length
  sleep := .ofMillis timeout
  count := 0
  selects := []

variable (reading : Reading)

/-- One call of `select()`. -/
def select (result : Int) (left : TimeVal) : Reading :=
  { reading with
    sleep := left
    selects := reading.selects ++ [⟨reading.sleep, result, left⟩] }

/-- `select()` is called again as long as signals interrupt it. -/
def wait (round : ReadRound) : Reading :=
  (round.interrupted.foldl (fun reading => reading.select (-1)) reading).select round.select
    round.left

/-- A round of the loop of `read_byte_array`; it ends with what is returned and the local
variables. -/
def round (length threshold timeout : Int) (calls : ReadCalls) :
    Except (Int × Reading) Reading :=
  let outcome := calls.rounds reading.count
  if reading.bytes < length ∧ reading.bytes < threshold then
    let waited := if timeout > 0 then reading.wait outcome else reading
    if timeout > 0 ∧ outcome.select = 0 then .error (waited.bytes, waited)
    else if timeout > 0 ∧ outcome.select < 0 then .error (-1, waited)
    else
      match outcome.read with
      | none => .error (-1, waited)
      | some [] => .error (waited.bytes, waited)
      | some given =>
          .ok
            { waited with
              buffer := waited.buffer ++ given
              bytes := waited.bytes + given.length
              left := waited.left - given.length
              count := waited.count + 1 }
  else .error (reading.bytes, reading)

end Reading

/-- `read_byte_array`, with enough fuel: every round that goes on has read something. -/
def readByteArray (length threshold timeout : Int) (calls : ReadCalls) : Option (Int × Reading) :=
  loop (Reading.round · length threshold timeout calls) (length.toNat + 1)
    (.begin length timeout)

/-- `LPRPort.readArray`, with the elements that it leaves and the local variables of
`read_byte_array`. -/
def readArray (port : LPRPort) (body : Body) (offset length : Int) (calls : ReadCalls) :
    Option (NativeRead × Body × Reading) :=
  let threshold := port.getJavaVar "threshold"
  let timeout := port.getJavaVar "threshold"
  if length < 1 || !calls.malloc then some (.ioException, body, .begin length timeout)
  else
    (readByteArray length threshold timeout calls).map fun (bytes, reading) =>
      if bytes < 0 then (.ioException, body, reading)
      else (.returned (if bytes ≠ 0 then bytes else -1), store body offset reading.buffer, reading)

/-! ## What is read -/

namespace ReadCalls

/-- The bytes that `read()` gives in round `n`. -/
def given (calls : ReadCalls) (n : Nat) : List UInt8 :=
  (calls.rounds n).read.getD []

/-- The bytes that the rounds before round `n` consume from the device. -/
def received (calls : ReadCalls) : Nat → List UInt8
  | 0 => []
  | n + 1 => calls.received n ++ calls.given n

/-- No call fails, and as long as bytes are missing `read()` gives some, and not more than
it is asked for. -/
structure Faultless (calls : ReadCalls) (length : Int) : Prop where
  malloc : calls.malloc = true
  select : ∀ n, 0 ≤ (calls.rounds n).select
  read : ∀ n, ((calls.received n).length : Int) < length →
    calls.given n ≠ [] ∧ ((calls.received (n + 1)).length : Int) ≤ length

end ReadCalls

namespace Reading

variable {reading next : Reading} {calls : ReadCalls} {length threshold timeout bytes : Int}
  {sleep : TimeVal}

theorem share_wait (shared : Share sleep reading.selects reading.sleep) (outcome : ReadRound) :
    Share sleep (reading.wait outcome).selects (reading.wait outcome).sleep := by
  refine Share.append ?_ _ _
  induction outcome.interrupted generalizing reading with
  | nil => exact shared
  | cons left interrupted ih => exact @ih (reading.select (-1) left) (shared.append _ _)

/-- Waiting changes nothing else. -/
theorem wait_frame (reading : Reading) (outcome : ReadRound) :
    (reading.wait outcome).buffer = reading.buffer ∧
      (reading.wait outcome).bytes = reading.bytes ∧
      (reading.wait outcome).left = reading.left ∧
      (reading.wait outcome).count = reading.count := by
  unfold wait
  change (outcome.interrupted.foldl _ reading).buffer = _ ∧ _
  induction outcome.interrupted generalizing reading with
  | nil => exact ⟨rfl, rfl, rfl, rfl⟩
  | cons left interrupted ih => exact ih (reading.select (-1) left)

theorem mem_wait_selects (reading : Reading) (outcome : ReadRound) :
    ∃ select ∈ (reading.wait outcome).selects, select.result = outcome.select :=
  ⟨_, List.mem_append_right _ List.mem_cons_self, rfl⟩

/-- What holds before every round. -/
structure Sound (length timeout : Int) (calls : ReadCalls) (reading : Reading) : Prop where
  buffer : reading.buffer = calls.received reading.count
  bytes : reading.bytes = reading.buffer.length
  within : reading.bytes ≤ length
  shared : Share (.ofMillis timeout) reading.selects reading.sleep
  waited : 0 < reading.bytes → reading.selects ≠ []

/-- What holds when the loop ends. -/
structure Done (length threshold timeout : Int) (calls : ReadCalls) (result : Int × Reading) :
    Prop where
  buffer : result.2.buffer = calls.received result.2.count
  bytes : result.1 = result.2.buffer.length
  shared : Share (.ofMillis timeout) result.2.selects result.2.sleep
  waited : result.2.selects ≠ []
  enough : result.1 < min length threshold → ∃ select ∈ result.2.selects, select.result = 0

theorem Sound.begin (nonneg : 0 ≤ length) : Sound length timeout calls (.begin length timeout) where
  buffer := rfl
  bytes := rfl
  within := nonneg
  shared := rfl
  waited := fun some => absurd some (Int.lt_irrefl 0)

/-- The local variables after a round in which `read()` gives some bytes. -/
def after (reading : Reading) (calls : ReadCalls) : Reading :=
  let waited := reading.wait (calls.rounds reading.count)
  { waited with
    buffer := waited.buffer ++ calls.given reading.count
    bytes := waited.bytes + (calls.given reading.count).length
    left := waited.left - (calls.given reading.count).length
    count := waited.count + 1 }

variable (threshold) in
/-- The loop has all that it waits for, or runs out of time, or goes on with more bytes. -/
theorem Sound.round_spec (sound : Sound length timeout calls reading) (positive : 0 < timeout)
    (faultless : calls.Faultless length) :
    min length threshold ≤ reading.bytes ∧
        reading.round length threshold timeout calls = .error (reading.bytes, reading) ∨
      (calls.rounds reading.count).select = 0 ∧
        reading.round length threshold timeout calls =
          .error (reading.bytes, reading.wait (calls.rounds reading.count)) ∨
      reading.bytes < length ∧
        reading.round length threshold timeout calls = .ok (reading.after calls) := by
  obtain ⟨-, bytes, -, -⟩ := wait_frame reading (calls.rounds reading.count)
  by_cases missing : reading.bytes < length ∧ reading.bytes < threshold
  case neg =>
    refine .inl ⟨by omega, ?_⟩
    rw [round]
    exact if_neg missing
  case pos =>
    right
    simp only [round, if_pos missing, positive, true_and, if_true, bytes]
    by_cases timedOut : (calls.rounds reading.count).select = 0
    · exact .inl ⟨timedOut, if_pos timedOut⟩
    · refine .inr ⟨missing.1, ?_⟩
      obtain ⟨some, -⟩ := faultless.read reading.count
        (by rw [← sound.buffer, ← sound.bytes]; exact missing.1)
      rw [if_neg timedOut, if_neg (Int.not_lt.mpr (faultless.select _))]
      unfold ReadCalls.given at some
      cases read : (calls.rounds reading.count).read with
      | none => simp [read] at some
      | some given =>
          cases given with
          | nil => simp [read] at some
          | cons first rest => simp [after, ReadCalls.given, read, bytes]

theorem Sound.after (sound : Sound length timeout calls reading)
    (faultless : calls.Faultless length) (missing : reading.bytes < length) :
    Sound length timeout calls (reading.after calls) ∧
      reading.bytes < (reading.after calls).bytes := by
  obtain ⟨buffer, bytes, -, count⟩ := wait_frame reading (calls.rounds reading.count)
  have counted := sound.bytes
  obtain ⟨some, fits⟩ := faultless.read reading.count
    (by rw [← sound.buffer, ← counted]; exact missing)
  rw [ReadCalls.received, ← sound.buffer, List.length_append] at fits
  have positive := List.length_pos_iff.mpr some
  refine ⟨⟨?_, ?_, ?_, ?_, fun _ => ?_⟩, ?_⟩
  · simp [Reading.after, buffer, count, ReadCalls.received, sound.buffer]
  · simp [Reading.after, buffer, bytes, counted]
  · simp only [Reading.after, bytes]
    omega
  · exact share_wait sound.shared _
  · obtain ⟨select, member, -⟩ := mem_wait_selects reading (calls.rounds reading.count)
    exact List.ne_nil_of_mem member
  · simp only [Reading.after, bytes]
    omega

/-- How a faultless read ends. -/
theorem Sound.done (sound : Sound length timeout calls reading) (isLength : 1 ≤ length)
    (isThreshold : 1 ≤ threshold) (positive : 0 < timeout) (faultless : calls.Faultless length)
    {result : Int × Reading}
    (ends : reading.round length threshold timeout calls = .error result) :
    Done length threshold timeout calls result := by
  obtain ⟨buffer, bytes, -, count⟩ := wait_frame reading (calls.rounds reading.count)
  rcases sound.round_spec threshold positive faultless with
    ⟨all, round⟩ | ⟨timedOut, round⟩ | ⟨-, round⟩
  · obtain rfl := Except.error.inj (ends.symm.trans round)
    exact
      { buffer := sound.buffer
        bytes := sound.bytes
        shared := sound.shared
        waited := sound.waited (by omega)
        enough := fun few => absurd all (Int.not_le.mpr few) }
  · obtain rfl := Except.error.inj (ends.symm.trans round)
    obtain ⟨select, member, result⟩ := mem_wait_selects reading (calls.rounds reading.count)
    exact
      { buffer := by rw [buffer, count, sound.buffer]
        bytes := by rw [buffer, sound.bytes]
        shared := share_wait sound.shared _
        waited := List.ne_nil_of_mem member
        enough := fun _ => ⟨select, member, result.trans timedOut⟩ }
  · simp [round] at ends

/-- A faultless read ends. -/
theorem exists_readByteArray (isLength : 1 ≤ length) (isThreshold : 1 ≤ threshold)
    (positive : 0 < timeout) (faultless : calls.Faultless length) :
    ∃ result, readByteArray length threshold timeout calls = some result ∧
      Done length threshold timeout calls result := by
  have initial : Sound length timeout calls (begin length timeout) := Sound.begin (by omega)
  have keeps (reading next : Reading) (sound : Sound length timeout calls reading)
      (goesOn : reading.round length threshold timeout calls = .ok next) :
      Sound length timeout calls next ∧
        (length - next.bytes).toNat < (length - reading.bytes).toNat := by
    rcases sound.round_spec threshold positive faultless with
      ⟨-, round⟩ | ⟨-, round⟩ | ⟨missing, round⟩
    · simp [round] at goesOn
    · simp [round] at goesOn
    · obtain rfl := Except.ok.inj (goesOn.symm.trans round)
      obtain ⟨kept, more⟩ := sound.after faultless missing
      exact ⟨kept, by omega⟩
  exact exists_loop_post (Sound length timeout calls)
    (fun reading => (length - reading.bytes).toNat) (Done length threshold timeout calls) initial
    keeps (fun _ _ sound ended => sound.done isLength isThreshold positive faultless ended)
    (Nat.lt_succ_of_le (by simp [begin]))

end Reading

/-! ## The settings -/

/-- A read honours the settings of the port: its calls of `select()` share the timeout of the
port, fewer bytes than asked for mean that one of them has timed out, and the bytes that it
takes from the device are those that it returns. -/
structure Honours (port : LPRPort) (offset length : Int) (calls : ReadCalls)
    (result : NativeRead) (after : Body) (reading : Reading) : Prop where
  selects : ∃ last, Share (.ofMillis port.timeout) reading.selects last
  enough : ((calls.received reading.count).length : Int) < min length port.threshold →
    ∃ select ∈ reading.selects, select.result = 0
  result : result = .returned (if calls.received reading.count ≠ [] then
    (calls.received reading.count).length else -1)
  stored : ∀ i (inRange : i < (calls.received reading.count).length),
    after (offset + i) = (calls.received reading.count)[i]

/-- A faultless read honours the settings of the port exactly if its timeout is as large as
its threshold. -/
theorem readArray_honours_iff (port : LPRPort) (body : Body) (offset : Int) {length : Int}
    {calls : ReadCalls} (isLength : 1 ≤ length) (faultless : calls.Faultless length) :
    ∃ result after reading,
      readArray port body offset length calls = some (result, after, reading) ∧
        (Honours port offset length calls result after reading ↔
          port.timeout = port.threshold) := by
  have isThreshold : port.getJavaVar "threshold" = port.threshold := by simp [LPRPort.getJavaVar]
  obtain ⟨⟨bytes, reading⟩, read, done⟩ := Reading.exists_readByteArray isLength
    port.threshold_pos (Int.lt_of_lt_of_le Int.zero_lt_one port.threshold_pos) faultless
  obtain ⟨buffer, counted, shared, waited, enough⟩ := done
  have valid : ¬length < 1 := Int.not_lt.mpr isLength
  refine ⟨.returned (if bytes ≠ 0 then bytes else -1), store body offset reading.buffer, reading,
    ?_, ?_⟩
  · have nonneg : ¬bytes < 0 := by omega
    simp [readArray, isThreshold, valid, faultless.malloc, read, nonneg]
  · dsimp only at buffer counted shared waited enough
    rw [buffer] at counted
    constructor
    · intro honours
      obtain ⟨last, honoured⟩ := honours.selects
      exact TimeVal.ofMillis_injective (Share.unique waited honoured shared)
    · intro same
      exact
        { selects := ⟨_, same ▸ shared⟩
          enough := fun few => enough (by rw [counted]; exact few)
          result := by simp [counted, ← List.length_eq_zero_iff]
          stored := by
            intro i inRange
            rw [buffer]
            exact store_of_lt inRange }

/-- A byte that is there or not when `select()` returns. -/
def oneByte (select : Int) : ReadCalls where
  malloc := true
  rounds := fun n =>
    { interrupted := []
      select := select
      left := ⟨0, 0⟩
      read := if n = 0 then some [65] else none }

theorem oneByte_faultless {select : Int} (nonneg : 0 ≤ select) :
    (oneByte select).Faultless 1 where
  malloc := rfl
  select := fun _ => nonneg
  read := by
    intro n missing
    have received (n : Nat) : (oneByte select).received (n + 1) = [65] := by
      induction n with
      | zero => rfl
      | succ n ih => rw [ReadCalls.received, ih]; rfl
    cases n with
    | zero => exact ⟨List.cons_ne_nil _ _, by simp [received]⟩
    | succ n => simp [received] at missing

/-- A port that waits for seven bytes, and for seven milliseconds. -/
def sevenEach : LPRPort :=
  ((LPRPort.new 3).enableReceiveTimeout 7).enableReceiveThreshold 7

theorem readArray_honours_iff_sevenEach :
    ∃ result after reading,
      readArray sevenEach (fun _ => 0) 0 1 (oneByte 1) = some (result, after, reading) ∧
        (Honours sevenEach 0 1 (oneByte 1) result after reading ↔
          sevenEach.timeout = sevenEach.threshold) :=
  readArray_honours_iff sevenEach _ 0 (by decide) (oneByte_faultless (by decide))

/-- With a timeout of five seconds and the default threshold, the read gives up after a
millisecond. -/
theorem readArray_waits_threshold :
    ∃ result after reading,
      readArray ((LPRPort.new 3).enableReceiveTimeout 5000) (fun _ => 0) 0 1 (oneByte 0) =
          some (result, after, reading) ∧
        (oneByte 0).Faultless 1 ∧ result = .returned (-1) ∧
        reading.selects = [⟨⟨0, 1000⟩, 0, ⟨0, 0⟩⟩] ∧
        ¬Honours ((LPRPort.new 3).enableReceiveTimeout 5000) 0 1 (oneByte 0) result after
          reading := by
  refine ⟨_, _, _, rfl, oneByte_faultless (by decide), rfl, rfl, fun honours => ?_⟩
  obtain ⟨last, selected, -⟩ := honours.selects
  exact absurd selected (by decide)

end Jrxtx.ParallelImp
