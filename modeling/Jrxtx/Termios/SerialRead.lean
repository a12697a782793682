import Jrxtx.SerialImp.ReadArray
import Jrxtx.Transition.Loop

/-!
# Reading from a Windows port

`serial_read` waits until the driver has all bytes that it is asked for, or until the time of
`VTIME` is over, and then calls `ReadFile` until it has them.  On Windows it is the `READ` of
`read_byte_array`, which does not call `select()` there.
-/

namespace Jrxtx.Termios

open SerialImp Transition

/-- What `serial_read` reads from its `struct termios_list`. -/
structure ReadPort where
  /-- `open_flags & O_NONBLOCK` -/
  nonblock : Bool
  /-- `ttyset->c_cc[VTIME]` -/
  vtime : Nat

/-- A round of polling: what `ClearErrors` finds, and the time since `start`. -/
structure QueuePoll where
  cbInQue : Nat
  elapsed : Int

/-- How an operation ends that `ReadFile` has left pending, with the bytes that it transfers. -/
inductive Overlapped where
  /-- with the time since `start` -/
  | completes (bytes : List UInt8) (elapsed : Int)
  /-- with another error than `ERROR_IO_INCOMPLETE` -/
  | fails (bytes : List UInt8)

/-- What a call of `ReadFile` comes to, with the bytes that it transfers. -/
inductive FileRead where
  | succeeds (bytes : List UInt8)
  | brokenPipe (bytes : List UInt8)
  | moreData (bytes : List UInt8)
  /-- `ReadFile` leaves 0 in `nBytes` -/
  | pending (overlapped : Overlapped)
  | fails (bytes : List UInt8)

namespace FileRead

/-- All bytes that are transferred to where `ReadFile` has been told to. -/
def bytes : FileRead → List UInt8
  | succeeds bytes | brokenPipe bytes | moreData bytes | fails bytes => bytes
  | pending (.completes bytes _) | pending (.fails bytes) => bytes

/-- Bytes of a pending operation that is cut off are in the array and not counted. -/
def Drops : FileRead → Prop
  | pending (.fails bytes) => bytes ≠ []
  | _ => False

def Fails : FileRead → Prop
  | fails _ => True
  | _ => False

/-- `serial_read` returns behind it. -/
def Final : FileRead → Prop
  | succeeds _ | pending (.fails _) | fails _ => True
  | _ => False

end FileRead

/-- What happens during one call of `serial_read`, as far as it gets. -/
structure SerialReadCalls where
  polls : Nat → QueuePoll
  files : Nat → FileRead

/-- The bytes that the first `n` calls of `ReadFile` take from the driver. -/
def SerialReadCalls.taken (calls : SerialReadCalls) : Nat → List UInt8
  | 0 => []
  | n + 1 => calls.taken n ++ (calls.files n).bytes

/-- The local variables of `serial_read`, with what is in front of `dest + total`, what an
operation that is cut off has left behind it, and the number of calls of `ReadFile`. -/
structure SerialReading where
  size : Int
  total : Nat := 0
  dest : List UInt8 := []
  beyond : List UInt8 := []
  files : Nat := 0

namespace ReadPort

variable (port : ReadPort)

def TimedOut (elapsed : Int) : Prop :=
  port.vtime ≠ 0 ∧ port.vtime * 100 ≤ elapsed

instance (elapsed : Int) : Decidable (port.TimedOut elapsed) :=
  inferInstanceAs (Decidable (_ ∧ _))

/-- A round of the first loop; it ends with whether the time is not over. -/
def poll (size : Int) (polls : Nat → QueuePoll) (n : Nat) : Except Bool Nat :=
  if port.TimedOut (polls n).elapsed then .error false
  else if (polls n).cbInQue < size ∧ 1 < size then .ok (n + 1)
  else .error true

end ReadPort

namespace SerialReading

/-- `size -= nBytes; total += nBytes` -/
def receive (reading : SerialReading) (bytes : List UInt8) : SerialReading :=
  { reading with
    size := reading.size - bytes.length
    total := reading.total + bytes.length
    dest := reading.dest ++ bytes }

/-- A round of the second loop; it ends with what is returned and the local variables. -/
def round (port : ReadPort) (files : Nat → FileRead) (reading : SerialReading) :
    Except (Int × SerialReading) SerialReading :=
  if 0 < reading.size then
    let called := { reading with files := reading.files + 1 }
    match files reading.files with
    | .succeeds bytes => .error ((called.receive bytes).total, called.receive bytes)
    | .brokenPipe bytes | .moreData bytes => .ok (called.receive bytes)
    | .pending (.fails bytes) => .error (called.total, { called with beyond := bytes })
    | .pending (.completes bytes elapsed) =>
        let reading := called.receive bytes
        if 0 < reading.size ∧ port.TimedOut elapsed then .error (reading.total, reading)
        else .ok reading
    | .fails bytes => .error (-1, called.receive bytes)
  else .error (reading.total, reading)

end SerialReading

/-- `serial_read`, with what `find_port` finds; `none` if the fuel does not suffice. -/
def serialRead (fuel : Nat) (fd : Int) (index : Option ReadPort) (size : Int)
    (calls : SerialReadCalls) : Option (Int × SerialReading) :=
  let reading : SerialReading := { size }
  if fd ≤ 0 then some (0, reading)
  else
    match index with
    | none => some (-1, reading)
    | some port =>
        -- the other branch waits for the time of `VTIME`, whatever comes
        let polled := if port.nonblock then loop (port.poll size calls.polls) fuel 0 else some true
        polled.bind fun goesOn =>
          if goesOn then loop (SerialReading.round port calls.files) fuel reading
          else some (0, reading)

/-! ## One call -/

/-- What has been counted is all that has been taken from the driver. -/
structure SerialReading.Sound (size : Int) (calls : SerialReadCalls) (reading : SerialReading) :
    Prop where
  total : reading.total = reading.dest.length
  size : reading.size = size - reading.dest.length
  dest : reading.dest = calls.taken reading.files
  beyond : reading.beyond = []
  drops : ∀ n < reading.files, ¬(calls.files n).Drops
  fails : ∀ n < reading.files, ¬(calls.files n).Fails

/-- How a call ends: all that has been taken is counted, or the last `ReadFile` fails, or its
operation is cut off. -/
inductive SerialReading.Ends (size : Int) (calls : SerialReadCalls) :
    Int → SerialReading → Prop where
  | counted {reading : SerialReading} (sound : reading.Sound size calls) :
      SerialReading.Ends size calls reading.total reading
  | fails {reading : SerialReading} (bytes : List UInt8) (sound : reading.Sound size calls)
      (isFile : calls.files reading.files = .fails bytes) :
      SerialReading.Ends size calls (-1)
        (SerialReading.receive { reading with files := reading.files + 1 } bytes)
  | cutOff {reading : SerialReading} (bytes : List UInt8) (sound : reading.Sound size calls)
      (isFile : calls.files reading.files = .pending (.fails bytes)) :
      SerialReading.Ends size calls reading.total
        { reading with files := reading.files + 1, beyond := bytes }

section OneCall

variable {port : ReadPort} {fd size result : Int} {calls : SerialReadCalls}
  {reading next last : SerialReading} {fuel : Nat}

theorem sound_start (size : Int) (calls : SerialReadCalls) :
    SerialReading.Sound size calls { size } where
  total := rfl
  size := by simp
  dest := rfl
  beyond := rfl
  drops := fun n before => absurd before n.not_lt_zero
  fails := fun n before => absurd before n.not_lt_zero

/-- A call of `ReadFile` whose bytes are counted. -/
theorem SerialReading.Sound.receive (sound : reading.Sound size calls)
    (drops : ¬(calls.files reading.files).Drops) (fails : ¬(calls.files reading.files).Fails) :
    (SerialReading.receive { reading with files := reading.files + 1 }
      (calls.files reading.files).bytes).Sound size calls where
  total := by simp [SerialReading.receive, sound.total]
  size := by
    simp only [SerialReading.receive, sound.size, List.length_append]
    omega
  dest := by simp [SerialReading.receive, sound.dest, SerialReadCalls.taken]
  beyond := sound.beyond
  drops := Nat.forall_lt_succ_right.mpr ⟨sound.drops, drops⟩
  fails := Nat.forall_lt_succ_right.mpr ⟨sound.fails, fails⟩

variable (port) in
/-- What a round of the second loop comes to. -/
theorem SerialReading.Sound.round (sound : reading.Sound size calls) :
    (∃ next, reading.round port calls.files = .ok next ∧ next.Sound size calls) ∨
      ∃ result last, reading.round port calls.files = .error (result, last) ∧
        SerialReading.Ends size calls result last := by
  have received := sound.receive
  unfold SerialReading.round
  split
  next =>
    generalize isFile : calls.files reading.files = file at received ⊢
    match file with
    | .succeeds bytes => exact .inr ⟨_, _, rfl, .counted (received id id)⟩
    | .brokenPipe bytes => exact .inl ⟨_, rfl, received id id⟩
    | .moreData bytes => exact .inl ⟨_, rfl, received id id⟩
    | .pending (.fails bytes) => exact .inr ⟨_, _, rfl, .cutOff bytes sound isFile⟩
    | .fails bytes => exact .inr ⟨_, _, rfl, .fails bytes sound isFile⟩
    | .pending (.completes bytes elapsed) =>
        dsimp only
        split
        next => exact .inr ⟨_, _, rfl, .counted (received id id)⟩
        next => exact .inl ⟨_, rfl, received id id⟩
  next => exact .inr ⟨_, _, rfl, .counted sound⟩

/-- How `serial_read` ends for a port that `find_port` finds. -/
theorem ends_of_serialRead
    (ran : serialRead fuel fd (some port) size calls = some (result, last)) :
    SerialReading.Ends size calls result last := by
  have start := sound_start size calls
  unfold serialRead at ran
  split at ran
  next =>
    cases ran
    exact .counted start
  next =>
    obtain ⟨goesOn, -, ran⟩ := Option.bind_eq_some_iff.mp ran
    cases goesOn with
    | false =>
        cases ran
        exact .counted start
    | true =>
        refine (LoopsTo.of_loop ran).of_invariant (SerialReading.Sound size calls)
          (fun ended => SerialReading.Ends size calls ended.1 ended.2) start ?_ ?_
        · intro reading next sound goesOn
          rcases sound.round port with ⟨other, isNext, kept⟩ | ⟨_, _, isEnd, -⟩
          · obtain rfl := Except.ok.inj (isNext.symm.trans goesOn)
            exact kept
          · simp [isEnd] at goesOn
        · intro reading ended sound isEnd
          rcases sound.round port with ⟨_, isNext, -⟩ | ⟨_, _, isEnded, kept⟩
          · simp [isNext] at isEnd
          · obtain rfl := Except.error.inj (isEnded.symm.trans isEnd)
            exact kept

theorem SerialReading.round_ok {files : Nat → FileRead}
    (goesOn : reading.round port files = .ok next) :
    next.files = reading.files + 1 ∧ ¬(files reading.files).Final := by
  unfold SerialReading.round at goesOn
  split at goesOn
  next =>
    generalize files reading.files = file at goesOn ⊢
    match file with
    | .succeeds _ | .pending (.fails _) | .fails _ => cases goesOn
    | .brokenPipe _ | .moreData _ =>
        cases goesOn
        exact ⟨rfl, id⟩
    | .pending (.completes _ _) =>
        dsimp only at goesOn
        split at goesOn
        next => cases goesOn
        next =>
          cases goesOn
          exact ⟨rfl, id⟩
  next => cases goesOn

/-- The first loop ends if the time is over, or the driver has what is asked for, in some
round. -/
theorem exists_poll {polls : Nat → QueuePoll}
    (ends : ∃ n, port.TimedOut (polls n).elapsed ∨ size ≤ (polls n).cbInQue ∨ size ≤ 1) :
    ∃ fuel goesOn, loop (port.poll size polls) fuel 0 = some goesOn := by
  obtain ⟨last, ends⟩ := ends
  refine ⟨last + 1, exists_loop_of_variant (fun n => n ≤ last) (fun n => last - n)
    (Nat.zero_le _) ?_ (by omega)⟩
  intro n next before round
  unfold ReadPort.poll at round
  split at round
  next => cases round
  next notYet =>
    split at round
    next short =>
      cases round
      have later : n ≠ last := by
        rintro rfl
        rcases ends with timedOut | queued | single
        · exact notYet timedOut
        · omega
        · omega
      omega
    next => cases round

variable (port size) in
/-- The second loop ends with the first `ReadFile` that is final, if not earlier. -/
theorem exists_round {files : Nat → FileRead} (final : ∃ n, (files n).Final) :
    ∃ fuel ended, loop (SerialReading.round port files) fuel { size } = some ended := by
  obtain ⟨final, isFinal⟩ := final
  refine ⟨final + 1, exists_loop_of_variant (fun reading => reading.files ≤ final)
    (fun reading => final - reading.files) (Nat.zero_le _) ?_ (by simp)⟩
  intro reading next before round
  obtain ⟨isNext, goesOn⟩ := SerialReading.round_ok round
  have later : reading.files ≠ final := fun same => goesOn (same ▸ isFinal)
  omega

/-- `serial_read` returns if the driver has what it is asked for, or the time is over, in some
round of the first loop, and some `ReadFile` would end the second. -/
theorem exists_serialRead (fd : Int)
    (ends : ∃ n, port.TimedOut (calls.polls n).elapsed ∨ size ≤ (calls.polls n).cbInQue ∨
      size ≤ 1)
    (final : ∃ n, (calls.files n).Final) :
    ∃ fuel ended, serialRead fuel fd (some port) size calls = some ended := by
  obtain ⟨few, goesOn, polled⟩ := exists_poll ends
  obtain ⟨more, ended, read⟩ := exists_round port size final
  obtain ⟨fuel, polled, read⟩ : ∃ fuel, loop (port.poll size calls.polls) fuel 0 = some goesOn ∧
      loop (SerialReading.round port calls.files) fuel { size } = some ended :=
    ⟨_, loop_mono polled (Nat.le_max_left _ more), loop_mono read (Nat.le_max_right few _)⟩
  refine ⟨fuel, ?_⟩
  unfold serialRead
  split
  next => exact ⟨_, rfl⟩
  next => cases isNonblock : port.nonblock <;> cases goesOn <;> simp [isNonblock, polled, read]

namespace SerialReading.Ends

/-- What has been taken is in the array, counted or behind what is counted. -/
theorem taken_eq (ends : SerialReading.Ends size calls result last) :
    calls.taken last.files = last.dest ++ last.beyond := by
  cases ends with
  | counted sound => rw [sound.dest, sound.beyond, List.append_nil]
  | @fails reading bytes sound isFile =>
      simp [SerialReading.receive, SerialReadCalls.taken, sound.dest, sound.beyond, isFile,
        FileRead.bytes]
  | @cutOff reading bytes sound isFile =>
      simp [SerialReadCalls.taken, sound.dest, isFile, FileRead.bytes]

theorem beyond_eq_nil_iff (ends : SerialReading.Ends size calls result last) :
    last.beyond = [] ↔ ∀ n < last.files, ¬(calls.files n).Drops := by
  cases ends with
  | counted sound => exact iff_of_true sound.beyond sound.drops
  | @fails reading bytes sound isFile =>
      exact iff_of_true sound.beyond
        (Nat.forall_lt_succ_right.mpr ⟨sound.drops, isFile ▸ id⟩)
  | @cutOff reading bytes sound isFile =>
      dsimp only
      rw [Nat.forall_lt_succ_right, isFile]
      constructor
      · exact fun nothing => ⟨sound.drops, fun drops => drops nothing⟩
      · exact fun keeps => not_not.mp keeps.2

/-- The number of bytes counted is returned, or -1 if the last `ReadFile` fails. -/
theorem result_cases (ends : SerialReading.Ends size calls result last) :
    result = last.dest.length ∧ (∀ n < last.files, ¬(calls.files n).Fails) ∨
      result = -1 ∧ ∃ n < last.files, (calls.files n).Fails := by
  cases ends with
  | counted sound => exact .inl ⟨congrArg Int.ofNat sound.total, sound.fails⟩
  | @fails reading bytes sound isFile =>
      exact .inr ⟨rfl, reading.files, Nat.lt_succ_self _, isFile ▸ trivial⟩
  | @cutOff reading bytes sound isFile =>
      exact .inl ⟨congrArg Int.ofNat sound.total,
        Nat.forall_lt_succ_right.mpr ⟨sound.fails, isFile ▸ id⟩⟩

end SerialReading.Ends

/-- A driver obliges if `ReadFile` never transfers more than it is asked for, does not stop
within bytes that have been counted, and no operation is cut off with some. -/
structure SerialReadCalls.Obliges (size : Int) (calls : SerialReadCalls) : Prop where
  within : ∀ n, ((calls.taken n).length : Int) ≤ max size 0
  counted : ∀ n m, size ≤ (calls.polls n).cbInQue → calls.taken m = [] →
    (calls.files m).bytes = [] ∨ size ≤ (calls.files m).bytes.length
  keeps : ∀ n, ¬(calls.files n).Drops

theorem SerialReadCalls.Obliges.taken_cases (obliges : calls.Obliges size) (positive : 0 < size)
    (enough : ∃ n, size ≤ (calls.polls n).cbInQue ∨ size ≤ 1) (m : Nat) :
    calls.taken m = [] ∨ (calls.taken m).length = size := by
  induction m with
  | zero => exact .inl rfl
  | succ m ih =>
      have within := obliges.within (m + 1)
      rw [SerialReadCalls.taken, List.length_append] at within
      rw [SerialReadCalls.taken, List.length_append]
      rcases ih with nothing | all
      · rw [nothing] at within ⊢
        obtain ⟨n, counted | single⟩ := enough
        · rcases obliges.counted n m counted nothing with none | most
          · exact .inl none
          · right
            simp only [List.length_nil] at within ⊢
            omega
        · cases bytes : (calls.files m).bytes with
          | nil => exact .inl rfl
          | cons first rest =>
              right
              simp only [bytes, List.length_nil, List.length_cons] at within ⊢
              omega
      · right
        omega

/-- The first loop lets a call through when the driver has what it asks for. -/
theorem enough_of_serialRead (nonblock : port.nonblock = true)
    (ran : serialRead fuel fd (some port) size calls = some (result, last)) :
    last.dest = [] ∨ ∃ n, size ≤ (calls.polls n).cbInQue ∨ size ≤ 1 := by
  unfold serialRead at ran
  split at ran
  next =>
    cases ran
    exact .inl rfl
  next =>
    obtain ⟨goesOn, polled, ran⟩ := Option.bind_eq_some_iff.mp ran
    cases goesOn with
    | false =>
        cases ran
        exact .inl rfl
    | true =>
        right
        rw [if_pos nonblock] at polled
        refine (LoopsTo.of_loop polled).of_invariant (fun _ => True)
          (fun goesOn => goesOn = true → ∃ n, size ≤ (calls.polls n).cbInQue ∨ size ≤ 1) trivial
          (fun _ _ _ _ => trivial) ?_ rfl
        intro n goesOn _ ends isTrue
        subst isTrue
        unfold ReadPort.poll at ends
        split at ends
        next => cases ends
        next =>
          split at ends
          next => cases ends
          next short => exact ⟨n, by omega⟩

/-- A call of `serial_read` leaves all that it is asked for in the array, or nothing. -/
theorem serialRead_all_or_none (nonblock : port.nonblock = true) (obliges : calls.Obliges size)
    (ran : serialRead fuel fd (some port) size calls = some (result, last)) :
    last.beyond = [] ∧ (last.dest = [] ∨ (last.dest.length : Int) = size) := by
  have ends := ends_of_serialRead ran
  have beyond := ends.beyond_eq_nil_iff.mpr fun n _ => obliges.keeps n
  refine ⟨beyond, ?_⟩
  rcases enough_of_serialRead nonblock ran with nothing | enough
  · exact .inl nothing
  · have isTaken := ends.taken_eq
    rw [beyond, List.append_nil] at isTaken
    rw [← isTaken]
    by_cases positive : 0 < size
    · exact obliges.taken_cases positive enough last.files
    · have within := obliges.within last.files
      exact .inl (List.eq_nil_of_length_eq_zero (by omega))

end OneCall

/-! ## `read_byte_array` on Windows -/

/-- What happens during one `read_byte_array` on Windows. -/
structure WindowsRead where
  start : Int
  now : Nat → Int
  reads : Nat → SerialReadCalls
  /-- what the call of `serial_read` in round `n` comes to -/
  ran : Nat → Int × SerialReading

namespace WindowsRead

variable (read : WindowsRead)

/-- The outcomes of its rounds: `select()` is not called, and `ret = 1`. -/
def calls : ReadCalls where
  start := read.start
  outcomes := fun n =>
    { now := read.now n
      select := 1
      read := if (read.ran n).1 < 0 then none else some (read.ran n).2.dest }

/-- Every `serial_read`, for the bytes that are left of `length`, returns what it is said to. -/
def Returns (fd : Int) (port : ReadPort) (length : Int) : Prop :=
  ∀ n, ∃ fuel, serialRead fuel fd (some port) (length - (read.calls.received n).length)
    (read.reads n) = some (read.ran n)

/-- The bytes that round `n` takes from the driver. -/
def takenIn (n : Nat) : List UInt8 :=
  (read.reads n).taken (read.ran n).2.files

/-- The bytes that the first `n` rounds take from the driver. -/
def taken : Nat → List UInt8
  | 0 => []
  | n + 1 => taken n ++ read.takenIn n

/-- The number of calls of `serial_read`, if round `n` is the last one. -/
def rounds (length timeout : Int) (n : Nat) : Nat :=
  if read.calls.Ends length timeout n then n else n + 1

/-- The array after the first `n` rounds.  `ReadFile` writes behind what has been counted, and
what it writes is there whether it is counted or not. -/
def array (body : Body) (offset : Int) : Nat → Body
  | 0 => body
  | n + 1 =>
      store (array body offset n) (offset + (read.calls.received n).length)
        ((read.ran n).2.dest ++ (read.ran n).2.beyond)

/-- `RXTXPort.readArray` on Windows, with the elements that it leaves. -/
def readArray (body : Body) (flag offset length timeout : Int) : Option (NativeRead × Body) :=
  if length < 0 then some (.arrayIndexOutOfBoundsException, body)
  else
    (readByteArray flag length timeout read.calls).map fun (bytes, reading) =>
      (if bytes < 0 then .ioException else .returned bytes,
        read.array body offset (read.rounds length timeout reading.count))

/-- No operation of the first `k` rounds is cut off with bytes, and no `ReadFile` fails but when
nothing has been taken. -/
def KeepsAll (k : Nat) : Prop :=
  ∀ m < k, ∀ n < (read.ran m).2.files,
    ¬((read.reads m).files n).Drops ∧ (((read.reads m).files n).Fails → read.taken k = [])

variable {read} {fd length timeout : Int} {port : ReadPort} {n k : Nat}

theorem Returns.ends (returns : read.Returns fd port length) (n : Nat) :
    SerialReading.Ends (length - (read.calls.received n).length) (read.reads n) (read.ran n).1
      (read.ran n).2 := by
  obtain ⟨fuel, ran⟩ := returns n
  exact ends_of_serialRead ran

theorem fails_iff : read.calls.Fails n ↔ (read.ran n).1 < 0 := by
  simp [ReadCalls.Fails, calls]

theorem given_eq (succeeds : ¬read.calls.Fails n) : read.calls.given n = (read.ran n).2.dest := by
  rw [fails_iff] at succeeds
  simp [ReadCalls.given, calls, succeeds]

/-- Without a failure, all that has been taken is received unless some is dropped. -/
theorem Returns.received_eq_iff (returns : read.Returns fd port length)
    (succeed : ∀ m < n, ¬read.calls.Fails m) :
    (read.calls.received n).length ≤ (read.taken n).length ∧
      (read.calls.received n = read.taken n ↔
        ∀ m < n, ∀ i < (read.ran m).2.files, ¬((read.reads m).files i).Drops) := by
  induction n with
  | zero => exact ⟨Nat.le_refl 0, iff_of_true rfl fun m before => absurd before m.not_lt_zero⟩
  | succ n ih =>
      obtain ⟨shorter, ih⟩ := ih fun m before => succeed m (Nat.lt_succ_of_lt before)
      have ends := returns.ends n
      rw [ReadCalls.received_succ, taken, takenIn, given_eq (succeed n (Nat.lt_succ_self n)),
        ends.taken_eq]
      constructor
      · simp only [List.length_append]
        omega
      · rw [Nat.forall_lt_succ_right, ← ih, ← ends.beyond_eq_nil_iff]
        constructor
        · intro same
          have lengths := congrArg List.length same
          simp only [List.length_append] at lengths
          have nothing : (read.ran n).2.beyond = [] :=
            List.eq_nil_of_length_eq_zero (by omega)
          exact ⟨(List.append_inj same (by omega)).1, nothing⟩
        · rintro ⟨same, nothing⟩
          rw [same, nothing, List.append_nil]

/-- The array holds what is received, and nothing else if nothing has been dropped. -/
theorem Returns.array_eq (body : Body) (offset : Int) (returns : read.Returns fd port length)
    (succeed : ∀ m < n, ¬read.calls.Fails m)
    (keeps : ∀ m < n, ∀ i < (read.ran m).2.files, ¬((read.reads m).files i).Drops) :
    read.array body offset n = store body offset (read.calls.received n) := by
  induction n with
  | zero => exact store_nil.symm
  | succ n ih =>
      have nothing := (returns.ends n).beyond_eq_nil_iff.mpr (keeps n (Nat.lt_succ_self n))
      rw [array, nothing, List.append_nil,
        ih (fun m before => succeed m (Nat.lt_succ_of_lt before))
          (fun m before => keeps m (Nat.lt_succ_of_lt before)),
        store_append, ReadCalls.received_succ, given_eq (succeed n (Nat.lt_succ_self n))]

theorem takenIn_eq_nil (nothing : read.taken k = []) (before : n < k) : read.takenIn n = [] := by
  induction k with
  | zero => exact absurd before n.not_lt_zero
  | succ k ih =>
      obtain ⟨earlier, last⟩ := List.append_eq_nil_iff.mp nothing
      rcases Nat.lt_succ_iff_lt_or_eq.mp before with before | rfl
      · exact ih earlier before
      · exact last

/-- A round that takes nothing drops nothing. -/
theorem Returns.keeps_of_nothing (returns : read.Returns fd port length)
    (nothing : read.takenIn n = []) :
    ∀ i < (read.ran n).2.files, ¬((read.reads n).files i).Drops := by
  have ends := returns.ends n
  exact ends.beyond_eq_nil_iff.mp (List.append_eq_nil_iff.mp (ends.taken_eq.symm.trans nothing)).2

theorem Returns.no_file_fails (returns : read.Returns fd port length)
    (succeeds : ¬read.calls.Fails n) :
    ∀ i < (read.ran n).2.files, ¬((read.reads n).files i).Fails := by
  rcases (returns.ends n).result_cases with ⟨-, succeed⟩ | ⟨isResult, -⟩
  · exact succeed
  · exact absurd (fails_iff.mpr (isResult ▸ by decide)) succeeds

/-- Rounds that go on keep all exactly if they drop nothing. -/
theorem Returns.keepsAll_iff (returns : read.Returns fd port length)
    (succeed : ∀ m < n, ¬read.calls.Fails m) :
    read.KeepsAll n ↔
      ∀ m < n, ∀ i < (read.ran m).2.files, ¬((read.reads m).files i).Drops := by
  constructor
  · exact fun keeps m before i called => (keeps m before i called).1
  · intro keeps m before i called
    have succeeds := returns.no_file_fails (succeed m before) i called
    exact ⟨keeps m before i called, fun fails => absurd fails succeeds⟩

/-- A round that fails keeps all exactly if nothing has been taken. -/
theorem Returns.keepsAll_of_fails (returns : read.Returns fd port length)
    (fails : read.calls.Fails n) : read.KeepsAll (n + 1) ↔ read.taken (n + 1) = [] := by
  constructor
  · intro keeps
    rcases (returns.ends n).result_cases with ⟨isResult, -⟩ | ⟨-, i, called, isFailure⟩
    · have negative := fails_iff.mp fails
      omega
    · exact (keeps n (Nat.lt_succ_self n) i called).2 isFailure
  · intro nothing m before i called
    exact ⟨returns.keeps_of_nothing (takenIn_eq_nil nothing before) i called, fun _ => nothing⟩

theorem readArray_eq {flag bytes : Int} {reading : DataAvailable.Reading} (body : Body)
    (offset : Int) (valid : ¬length < 0)
    (ran : readByteArray flag length timeout read.calls = some (bytes, reading)) :
    read.readArray body flag offset length timeout =
      some (if bytes < 0 then .ioException else .returned bytes,
        read.array body offset (read.rounds length timeout reading.count)) := by
  rw [readArray, if_neg valid, ran]
  rfl

/-- The bytes that a `readArray` on Windows takes from the driver, if any, are reported exactly if
no operation is cut off with bytes and no `ReadFile` fails after some. -/
theorem taken_reported_iff (body : Body) (flag offset timeout : Int)
    (returns : read.Returns fd port length) :
    ∃ bytes reading result after,
      readByteArray flag length timeout read.calls = some (bytes, reading) ∧
      read.readArray body flag offset length timeout = some (result, after) ∧
      ((read.taken (read.rounds length timeout reading.count) ≠ [] →
          Reported offset (read.taken (read.rounds length timeout reading.count)) bytes reading
            result after) ↔
        read.KeepsAll (read.rounds length timeout reading.count)) := by
  obtain ⟨n, bytes, reading, ran, ret⟩ := SerialImp.returns flag length timeout read.calls
  obtain rfl := ret.locals
  have succeed (m : Nat) (before : m < n) : ¬read.calls.Fails m := (ret.goesOn m before).2
  rcases ret.ends with ⟨ended, rfl⟩ | ⟨notYet, fails, rfl⟩
  · have isRounds : read.rounds length timeout n = n := if_pos ended
    obtain ⟨shorter, same⟩ := returns.received_eq_iff succeed
    by_cases negative : length < 0
    · have first : n = 0 := by
        by_contra later
        exact (ret.goesOn 0 (Nat.pos_of_ne_zero later)).1 (.inl (by omega))
      subst first
      refine ⟨_, _, _, _, ran, if_pos negative, ?_⟩
      rw [count_readingAt, isRounds]
      exact iff_of_true (fun some => absurd rfl some) fun m before => absurd before m.not_lt_zero
    · refine ⟨_, _, _, _, ran, readArray_eq body offset negative ran, ?_⟩
      rw [count_readingAt, isRounds, if_neg (Int.not_lt.mpr (Int.natCast_nonneg _)),
        returns.keepsAll_iff succeed, ← same]
      constructor
      · intro reported
        by_cases nothing : read.taken n = []
        · rw [nothing] at shorter ⊢
          exact List.eq_nil_of_length_eq_zero (Nat.le_zero.mp shorter)
        · exact (reported nothing).buffer
      · intro isTaken _
        rw [returns.array_eq body offset succeed (same.mp isTaken), ← isTaken]
        exact ⟨rfl, rfl, rfl, fun i inRange => store_of_lt inRange⟩
  · have isRounds : read.rounds length timeout n = n + 1 := if_neg notYet
    have valid : ¬length < 0 := fun negative => notYet (.inl (by omega))
    refine ⟨_, _, _, _, ran, readArray_eq body offset valid ran, ?_⟩
    rw [count_readingAt, isRounds, returns.keepsAll_of_fails fails]
    constructor
    · intro reported
      by_contra some
      have counted := (reported some).returned
      omega
    · exact fun nothing some => absurd nothing some

/-- Of two bytes one comes, and the device is gone. -/
def unplugged : WindowsRead where
  start := 0
  now := fun _ => 0
  reads := fun _ =>
    { polls := fun _ => ⟨2, 0⟩
      files := fun n => if n = 0 then .moreData [65] else .fails [] }
  ran := fun _ => (-1, { size := 1, total := 1, dest := [65], files := 2 })

theorem unplugged_returns : unplugged.Returns 3 ⟨true, 0⟩ 2 := by
  intro n
  have nothing : unplugged.calls.received n = [] := by
    induction n with
    | zero => rfl
    | succ n ih => rw [ReadCalls.received_succ, ih]; rfl
  rw [nothing]
  exact ⟨3, rfl⟩

theorem taken_reported_iff_unplugged :
    ∃ bytes reading result after,
      readByteArray 0 2 (-1) unplugged.calls = some (bytes, reading) ∧
      unplugged.readArray (fun _ => 0) 0 0 2 (-1) = some (result, after) ∧
      ((unplugged.taken (unplugged.rounds 2 (-1) reading.count) ≠ [] →
          Reported 0 (unplugged.taken (unplugged.rounds 2 (-1) reading.count)) bytes reading
            result after) ↔
        unplugged.KeepsAll (unplugged.rounds 2 (-1) reading.count)) :=
  taken_reported_iff (fun _ => 0) 0 0 (-1) unplugged_returns

/-- On Windows, what is received is all that is asked for, or nothing. -/
theorem Returns.received_all_or_none (returns : read.Returns fd port length)
    (nonblock : port.nonblock = true)
    (obliges : ∀ n, (read.reads n).Obliges (length - (read.calls.received n).length))
    (succeed : ∀ m < n, ¬read.calls.Fails m) :
    read.calls.received n = [] ∨ ((read.calls.received n).length : Int) = length := by
  induction n with
  | zero => exact .inl rfl
  | succ n ih =>
      obtain ⟨fuel, ran⟩ := returns n
      have all : (read.ran n).2.dest = [] ∨
          ((read.ran n).2.dest.length : Int) = length - (read.calls.received n).length :=
        (serialRead_all_or_none nonblock (obliges n) ran).2
      rw [ReadCalls.received_succ, given_eq (succeed n (Nat.lt_succ_self n))]
      rcases ih fun m before => succeed m (Nat.lt_succ_of_lt before) with nothing | complete
      · rw [nothing, List.nil_append]
        simpa [nothing] using all
      · rcases all with nothing | rest
        · rw [nothing, List.append_nil]
          exact .inr complete
        · right
          rw [List.length_append]
          omega

/-- On Windows `readArray` is all or nothing: it leaves all bytes that it is asked for in the
array and returns their number, or none, whatever the receive timeout. -/
theorem readArray_all_or_none (body : Body) (flag offset timeout : Int) (valid : 0 ≤ length)
    (nonblock : port.nonblock = true) (returns : read.Returns fd port length)
    (obliges : ∀ n, (read.reads n).Obliges (length - (read.calls.received n).length)) :
    ∃ result stored,
      read.readArray body flag offset length timeout =
        some (result, store body offset stored) ∧
      (stored = [] ∨ (stored.length : Int) = length) ∧
      (result = .returned stored.length ∨ result = .ioException) := by
  obtain ⟨n, bytes, reading, ran, ret⟩ := SerialImp.returns flag length timeout read.calls
  obtain rfl := ret.locals
  have succeed (m : Nat) (before : m < n) : ¬read.calls.Fails m := (ret.goesOn m before).2
  have all := returns.received_all_or_none nonblock obliges succeed
  have isArray : read.array body offset n = store body offset (read.calls.received n) :=
    returns.array_eq body offset succeed fun m _ i _ => (obliges m).keeps i
  have isRead := readArray_eq body offset (Int.not_lt.mpr valid) ran
  rw [count_readingAt] at isRead
  rcases ret.ends with ⟨ended, rfl⟩ | ⟨notYet, fails, rfl⟩
  · rw [rounds, if_pos ended, isArray, if_neg (Int.not_lt.mpr (Int.natCast_nonneg _))] at isRead
    exact ⟨_, _, isRead, all, .inl rfl⟩
  · -- the round that fails is the first that gets anything
    obtain ⟨fuel, serialRan⟩ := returns n
    obtain ⟨nothing, last⟩ := serialRead_all_or_none nonblock (obliges n) serialRan
    have first : read.calls.received n = [] := by
      refine all.resolve_right fun complete => notYet (.inl ?_)
      omega
    rw [rounds, if_neg notYet, array, nothing, List.append_nil, isArray, store_append, first,
      List.nil_append, if_pos (by decide)] at isRead
    rw [first] at last
    exact ⟨_, _, isRead, by simpa using last, .inr rfl⟩

/-- Two bytes are asked for.  One is there when the time is over; the second call of
`serial_read` finds both, and the operation that is left pending transfers them. -/
def bothLater : WindowsRead where
  start := 0
  now := fun n => 100 * n
  reads := fun
    | 1 =>
      { polls := fun _ => ⟨2, 0⟩
        files := fun n => if n = 0 then .pending (.completes [65, 66] 0) else .succeeds [] }
    | _ => { polls := fun _ => ⟨1, 100⟩, files := fun _ => .succeeds [] }
  ran := fun
    | 0 => (0, { size := 2 })
    | 1 => (2, { size := 0, total := 2, dest := [65, 66], files := 1 })
    | _ => (0, { size := 0 })

theorem received_bothLater (n : Nat) : bothLater.calls.received (n + 2) = [65, 66] := by
  induction n with
  | zero => rfl
  | succ n ih => rw [ReadCalls.received_succ, ih]; rfl

theorem bothLater_returns : bothLater.Returns 3 ⟨true, 1⟩ 2
  | 0 => ⟨1, rfl⟩
  | 1 => ⟨2, rfl⟩
  | n + 2 => by
      rw [received_bothLater]
      exact ⟨1, rfl⟩

theorem bothLater_obliges (n : Nat) :
    (bothLater.reads n).Obliges (2 - (bothLater.calls.received n).length) := by
  by_cases second : n = 1
  · subst second
    have taken (m : Nat) : (bothLater.reads 1).taken (m + 1) = [65, 66] := by
      induction m with
      | zero => rfl
      | succ m ih => rw [SerialReadCalls.taken, ih]; rfl
    refine ⟨?_, ?_, ?_⟩
    · rintro (_ | m)
      · decide
      · rw [taken]
        decide
    · rintro _ (_ | m) - -
      · exact .inr (by decide)
      · exact .inl rfl
    · rintro (_ | m) <;> exact id
  · have early : bothLater.reads n =
        { polls := fun _ => ⟨1, 100⟩, files := fun _ => .succeeds [] } := by
      match n with
      | 0 | _ + 2 => rfl
    have taken (m : Nat) : (bothLater.reads n).taken m = [] := by
      rw [early]
      induction m with
      | zero => rfl
      | succ m ih => rw [SerialReadCalls.taken, ih]; rfl
    refine ⟨?_, ?_, ?_⟩
    · intro m
      rw [taken]
      exact Int.le_max_right _ _
    · rw [early]
      exact fun _ _ _ _ => .inl rfl
    · rw [early]
      exact fun _ => id

/-- Both bytes are stored and counted. -/
theorem readArray_all_or_none_bothLater :
    ∃ stored,
      bothLater.readArray (fun _ => 0) 0 0 2 1000 =
        some (.returned 2, store (fun _ => 0) 0 stored) ∧ stored.length = 2 := by
  obtain ⟨result, stored, ran, -, counted⟩ := readArray_all_or_none (fun _ => 0) 0 0 1000
    (by decide) rfl bothLater_returns bothLater_obliges
  have isResult : (bothLater.readArray (fun _ => 0) 0 0 2 1000).map Prod.fst =
      some (.returned 2) := by decide
  rw [ran] at isResult
  obtain rfl : result = .returned 2 := Option.some.inj isResult
  refine ⟨stored, ran, ?_⟩
  rcases counted with isCount | isException
  · have isCount := NativeRead.returned.inj isCount
    omega
  · simp at isException

/-- An operation that is cut off leaves its bytes in the array, and none is counted. -/
example :
    (WindowsRead.readArray
      { start := 0
        now := fun n => 100 * n
        reads := fun _ => { polls := fun _ => ⟨2, 0⟩, files := fun _ => .pending (.fails [65, 66]) }
        ran := fun _ => (0, { size := 2, beyond := [65, 66], files := 1 }) }
      (fun _ => 0) 0 0 2 100).map (fun (result, after) => (result, after 0, after 1)) =
      some (.returned 0, 65, 66) := by
  decide

end WindowsRead

end Jrxtx.Termios
