import Jrxtx.RXTXPort.Read
import Jrxtx.SerialImp.WriteArray
import Mathlib.Data.List.TakeDrop

/-!
# From one port to another

Any number of threads write to a port, and one thread reads from the port at the other end of
the cable; `read` is synchronized.  One `write()` system call, and one round of the loop of
`read_byte_array`, is a step.  The cable keeps the bytes that the one device has accepted, in
order, until the other device gives them out.  Listeners come and go at both ports, which stay
open.
-/

namespace Jrxtx

open Jrxtx.Transition SerialImp SerialImp.DataAvailable

namespace SerialImp

/-- One round of the loop of `writeArray`; `.error` ends it. -/
def writeRound (body : List UInt8) (offset count : Nat) (result : WriteResult)
    (progress : Progress) : Except (WriteResult × Progress) Progress :=
  let progress := write body offset count result progress
  if progress.total < count ∧ result = .eintr then .ok progress else .error (result, progress)

theorem writeLoop_cons (body : List UInt8) (offset count : Nat) (result : WriteResult)
    (results : List WriteResult) (progress : Progress) :
    writeLoop body offset count (result :: results) progress =
      match writeRound body offset count result progress with
      | .ok next => writeLoop body offset count results next
      | .error ended => some ended := by
  simp only [writeLoop, writeRound]
  split <;> rfl

/-- The `do` loop of `writeByte`, which goes on after `EINTR` only. -/
def writeByteLoop (byte : UInt8) : List WriteResult → Option (WriteResult × List UInt8)
  | [] => none
  | result :: results =>
      if result = .eintr then writeByteLoop byte results
      else some (result, [byte].take (result.accepted 1))

/-- `writeByte` writes what `writeArray` writes of an array with one element. -/
theorem writeByteLoop_eq (byte : UInt8) (results : List WriteResult) :
    writeByteLoop byte results =
      (writeLoop [byte] 0 1 results ⟨0, []⟩).map fun ended => (ended.1, ended.2.sent) := by
  induction results with
  | nil => rfl
  | cons result results ih =>
      rw [writeByteLoop, writeLoop_cons, writeRound]
      by_cases interrupted : result = .eintr
      · subst interrupted
        rw [if_pos rfl, write_eintr, if_pos ⟨Nat.one_pos, rfl⟩, ih]
      · rw [if_neg interrupted, if_neg fun goesOn => interrupted goesOn.2]
        simp [write]

namespace DataAvailable.Reading

/-- The round gets to a call that fails. -/
def Fails (reading : Reading) (outcome : Outcome) : Prop :=
  (reading.bytes < reading.length ∧ reading.count < 20) ∧
    ¬(0 ≤ reading.timeout ∧ reading.timeout ≤ outcome.now - reading.start) ∧
    (outcome.select = -1 ∨ 0 < outcome.select ∧ outcome.read = none)

/-- What a round comes to. -/
inductive RoundCase (reading : Reading) (outcome : Outcome) : Except Int Reading → Prop where
  | fails (failed : reading.Fails outcome) : RoundCase reading outcome (.error (-1))
  | ends (succeeds : ¬reading.Fails outcome) : RoundCase reading outcome (.error reading.bytes)
  | receives (succeeds : ¬reading.Fails outcome) (received : List UInt8)
      (given : outcome.read = some received) :
      RoundCase reading outcome
        (.ok
          { reading with
            count := reading.count + 1
            buffer := reading.buffer ++ received
            bytes := reading.bytes + received.length
            left := reading.left - received.length })
  | waits (succeeds : ¬reading.Fails outcome) :
      RoundCase reading outcome (.ok { reading with count := reading.count + 1 })

theorem roundCase (reading : Reading) (outcome : Outcome) :
    reading.RoundCase outcome (reading.round outcome) := by
  fun_cases Reading.round reading outcome with
  | case1 goesOn again timedOut => exact .ends fun failed => failed.2.1 timedOut
  | case2 goesOn again notYet failed => exact .fails ⟨goesOn, notYet, .inl failed⟩
  | case3 goesOn again notYet selected isReady failed =>
      exact .fails ⟨goesOn, notYet, .inr ⟨isReady, failed⟩⟩
  | case4 goesOn again notYet selected isReady received given =>
      refine .receives (fun failed => ?_) received given
      rcases failed.2.2 with selectFailed | ⟨-, readFailed⟩
      · exact selected selectFailed
      · simp [given] at readFailed
  | case5 goesOn again notYet selected notReady =>
      refine .waits fun failed => ?_
      rcases failed.2.2 with selectFailed | ⟨isReady, -⟩
      · exact selected selectFailed
      · exact notReady isReady
  | case6 complete => exact .ends fun failed => complete failed.1

end DataAvailable.Reading

end SerialImp

namespace RXTXPort

/-! ## The two ports -/

/-- A `write` in the native code. -/
structure Writing where
  send : List UInt8
  progress : Progress := ⟨0, []⟩

/-- Valid arguments of `read(byte[], int, int)`. -/
structure ReadRequest where
  b : JavaBytes
  off : Int
  len : Int
  inRange : b.InRange off len

/-- A `read` in the native code. -/
structure Receiving where
  request : ReadRequest
  reading : Reading

namespace Receiving

/-- The elements that `read` says it has read. -/
def elements (receiving : Receiving) (bytes : Int) : List UInt8 :=
  let body := store receiving.request.b.body receiving.request.off receiving.reading.buffer
  (List.range bytes.toNat).map fun i : Nat => body (receiving.request.off + i)

end Receiving

structure Link (Tid : Type*) where
  sender : RXTXPort
  receiver : RXTXPort
  writing : Tid → Option Writing
  receiving : Option Receiving
  /-- the bytes in the cable and in the buffers of the devices -/
  line : List UInt8
  /-- what the `write` calls that returned normally were asked to write -/
  written : List UInt8
  /-- the elements that the `read` calls have read -/
  delivered : List UInt8

inductive LinkLabel (Tid : Type*) where
  | sender (call : Call)
  | receiver (call : Call)
  /-- a `write` call, up to its first system call -/
  | write (tid : Tid) (call : WriteCall)
  /-- a `write()` system call, and the end of the `write` call unless it is repeated -/
  | systemCall (tid : Tid) (result : WriteResult)
  /-- a `read` call, up to the loop of `read_byte_array` -/
  | read (request : ReadRequest) (threshold : Int) (nativeavailable : Option Int)
      (flag timeout now : Int)
  /-- a round of the loop; `read()` gives no more than `limit` bytes, or fails -/
  | round (now select : Int) (limit : Option Nat)

/-- The methods that manage the listener. -/
def manage (self : RXTXPort) : Call → Option RXTXPort
  | .write _ _ => none
  | call => (State.step ⟨self, []⟩ call).map State.port

variable {Tid : Type*}

namespace Link

variable [DecidableEq Tid] (link : Link Tid)

/-- The end of a `write` call. -/
def finishWrite (requested : List UInt8) (result : CallResult) : Link Tid :=
  if result = .returned then { link with written := link.written ++ requested } else link

def goto (tid : Tid) (writing : Option Writing) : Link Tid :=
  { link with writing := Function.update link.writing tid writing }

/-- Without a byte handed over there is nothing to do for the native code. -/
def write (tid : Tid) (call : WriteCall) : Option (Link Tid) :=
  match link.writing tid with
  | some _ => none
  | none =>
      (link.sender.write false call).map fun record =>
        if record.handed = [] then link.finishWrite record.requested record.result
        else link.goto tid (some { send := record.handed })

def systemCall (tid : Tid) (result : WriteResult) : Option (Link Tid) :=
  (link.writing tid).map fun writing =>
    let accepts (progress : Progress) : Link Tid :=
      { link with line := link.line ++ progress.sent.drop writing.progress.sent.length }
    match writeRound writing.send 0 writing.send.length result writing.progress with
    | .ok progress => (accepts progress).goto tid (some { writing with progress })
    | .error (result, progress) =>
        ((accepts progress).goto tid none).finishWrite writing.send (nativeResult result.failed)

def read (request : ReadRequest) (threshold : Int) (nativeavailable : Option Int)
    (flag timeout now : Int) : Option (Link Tid) :=
  if link.receiving.isSome then none
  else
    (link.receiver.beforeRead threshold (some request.b) request.off request.len
        nativeavailable []).map fun
      | .ends _ => link
      | .reads _ minimum =>
          -- `ArrayIndexOutOfBoundsException`
          if minimum < 0 then link
          else
            let reading := Reading.begin flag minimum timeout now
            { link with receiving := some { request, reading } }

/-- What a round of the given read finds. -/
def outcome (receiving : Receiving) (now select : Int) (limit : Option Nat) : Outcome where
  now
  select
  read := limit.map fun limit => link.line.take (min limit receiving.reading.left.toNat)

def round (now select : Int) (limit : Option Nat) : Option (Link Tid) :=
  link.receiving.map fun receiving =>
    match receiving.reading.round (link.outcome receiving now select limit) with
    | .ok reading =>
        let taken := reading.buffer.length - receiving.reading.buffer.length
        { link with line := link.line.drop taken, receiving := some { receiving with reading } }
    | .error bytes =>
        { link with
          receiving := none
          delivered := link.delivered ++ receiving.elements bytes }

def step : LinkLabel Tid → Option (Link Tid)
  | .sender call => (link.sender.manage call).map fun sender => { link with sender }
  | .receiver call => (link.receiver.manage call).map fun receiver => { link with receiver }
  | .write tid call => link.write tid call
  | .systemCall tid result => link.systemCall tid result
  | .read request threshold nativeavailable flag timeout now =>
      link.read request threshold nativeavailable flag timeout now
  | .round now select limit => link.round now select limit

end Link

/-- Two open ports, and nothing in the cable. -/
structure Connected (link : Link Tid) : Prop where
  isOpen : link.sender.IsOpen
  writing : ∀ tid, link.writing tid = none
  receiving : link.receiving = none
  line : link.line = []
  written : link.written = []
  delivered : link.delivered = []

def linked (Tid : Type*) [DecidableEq Tid] : System (Link Tid) (LinkLabel Tid) where
  start := Connected
  step := Link.step

namespace Link

/-- What the read in progress has received. -/
def held (link : Link Tid) : List UInt8 :=
  link.receiving.elim [] fun receiving => receiving.reading.buffer

/-- Every byte of the `write` calls that have returned normally has been read, is being read, or is
on its way, in order and once. -/
def Intact (link : Link Tid) : Prop :=
  link.written = link.delivered ++ link.held ++ link.line

/-- The step loses nothing. -/
def Lossless (link : Link Tid) : LinkLabel Tid → Prop
  | .write _ call => link.sender.Monitored call
  | .systemCall tid result =>
      ∀ writing, link.writing tid = some writing →
        ∀ limit, result = .accepts limit → writing.send.length ≤ limit
  | .round now select limit =>
      ∀ receiving, link.receiving = some receiving →
        receiving.reading.Fails (link.outcome receiving now select limit) →
        receiving.reading.buffer = []
  | _ => True

/-- What holds between two steps, whatever is lost. -/
structure Sound (link : Link Tid) : Prop where
  isOpen : link.sender.IsOpen
  /-- so far every system call has been interrupted -/
  writing : ∀ tid writing, link.writing tid = some writing →
    writing.progress = ⟨0, []⟩ ∧ writing.send ≠ []
  receiving : ∀ receiving, link.receiving = some receiving →
    receiving.reading.bytes = receiving.reading.buffer.length

end Link

section Steps

variable {self after : RXTXPort} {call : Call}

theorem IsOpen.manage (isOpen : self.IsOpen) (managed : self.manage call = some after) :
    after.IsOpen := by
  have opened (notWrite : ∀ write nativeThrows, call ≠ .write write nativeThrows)
      (managed : (State.step ⟨self, []⟩ call).map State.port = some after) : after.IsOpen := by
    obtain ⟨state, stepped, rfl⟩ := Option.map_eq_some_iff.mp managed
    rcases State.step_cases stepped with ⟨same, -⟩ | ⟨write, nativeThrows, _, isWrite, -, -⟩
    · exact isOpen.congr same
    · exact absurd isWrite (notWrite write nativeThrows)
  cases call with
  | write => simp [RXTXPort.manage] at managed
  | addEventListener | removeEventListener | notifyOn | monitorExits =>
      exact opened (by simp) managed

/-- A `write` hands over everything or nothing. -/
theorem write_handed {call : WriteCall} {record : WriteRecord} {nativeThrows : Bool}
    (wrote : self.write nativeThrows call = some record) :
    record.handed = [] ∨ record.handed = record.requested := by
  cases call with
  | int b =>
      revert wrote
      rw [RXTXPort.write]
      fun_cases writeInt self b nativeThrows <;> rintro ⟨⟩ <;> simp
  | bytes b =>
      revert wrote
      rw [RXTXPort.write]
      fun_cases writeBytes self b nativeThrows <;> rintro ⟨⟩ <;> simp
  | range b off len =>
      revert wrote
      rw [RXTXPort.write]
      fun_cases writeRange self b off len nativeThrows <;> rintro ⟨⟩ <;> simp

end Steps

namespace Receiving

variable (receiving : Receiving)

/-- A read that fails reports nothing. -/
theorem elements_failed : receiving.elements (-1) = [] := rfl

/-- A read that succeeds reports what it has received. -/
theorem elements_length :
    receiving.elements receiving.reading.buffer.length = receiving.reading.buffer := by
  apply List.ext_getElem
  · simp [elements]
  · intro i _ inRange
    simp [elements, store_of_lt inRange]

end Receiving

namespace Link

section Steps

variable {link : Link Tid} {requested : List UInt8} {ended : CallResult}

theorem intact_finishWrite_iff : (link.finishWrite requested ended).Intact ↔
    if ended = .returned then
      link.written ++ requested = link.delivered ++ link.held ++ link.line
    else link.Intact := by
  unfold finishWrite
  split <;> rfl

theorem Sound.finishWrite (sound : link.Sound) : (link.finishWrite requested ended).Sound := by
  unfold Link.finishWrite
  split
  · exact ⟨sound.isOpen, sound.writing, sound.receiving⟩
  · exact sound

variable [DecidableEq Tid] {next : Link Tid} {tid : Tid} {result : WriteResult}
  {now select : Int} {limit : Option Nat}

theorem Sound.goto (sound : link.Sound) {writing : Option Writing}
    (starts : ∀ started, writing = some started → started.progress = ⟨0, []⟩ ∧ started.send ≠ []) :
    (link.goto tid writing).Sound := by
  refine ⟨sound.isOpen, ?_, sound.receiving⟩
  intro other started isWriting
  by_cases same : other = tid
  · subst same
    exact starts started (by simpa [Link.goto] using isWriting)
  · exact sound.writing other started (by simpa [Link.goto, same] using isWriting)

/-! ### The steps of a `write` -/

theorem write_cases {call : WriteCall} (stepped : link.write tid call = some next) :
    ∃ record, link.sender.write false call = some record ∧
      next = if record.handed = [] then link.finishWrite record.requested record.result
        else link.goto tid (some { send := record.handed }) := by
  unfold Link.write at stepped
  split at stepped
  next => simp at stepped
  next =>
    obtain ⟨record, wrote, eq⟩ := Option.map_eq_some_iff.mp stepped
    exact ⟨record, wrote, eq.symm⟩

/-- What a system call comes to. -/
inductive SystemCallCase (link : Link Tid) (tid : Tid) (writing : Writing) :
    WriteResult → Link Tid → Prop where
  | again : SystemCallCase link tid writing .eintr link
  | fails (errno : Nat) : SystemCallCase link tid writing (.error errno) (link.goto tid none)
  | accepts (limit : Nat) :
      SystemCallCase link tid writing (.accepts limit)
        { link with
          line := link.line ++ writing.send.take limit
          written := link.written ++ writing.send
          writing := Function.update link.writing tid none }

theorem systemCall_cases (sound : link.Sound) (stepped : link.systemCall tid result = some next) :
    ∃ writing, link.writing tid = some writing ∧
      link.SystemCallCase tid writing result next := by
  obtain ⟨writing, isWriting, rfl⟩ := Option.map_eq_some_iff.mp stepped
  obtain ⟨progress, nonempty⟩ := sound.writing tid writing isWriting
  refine ⟨writing, isWriting, ?_⟩
  obtain ⟨send, total⟩ := writing
  obtain rfl : total = ⟨0, []⟩ := progress
  cases result with
  | eintr =>
      have goesOn : 0 < send.length := List.length_pos_of_ne_nil nonempty
      have same : Function.update link.writing tid (some ⟨send, ⟨0, []⟩⟩) = link.writing := by
        rw [← isWriting, Function.update_eq_self]
      simpa [writeRound, write_eintr, goesOn, goto, same] using SystemCallCase.again
  | error errno =>
      simpa [writeRound, SerialImp.write, WriteResult.accepted, WriteResult.failed, nativeResult,
        finishWrite, goto] using SystemCallCase.fails errno
  | accepts limit =>
      simpa [writeRound, SerialImp.write, WriteResult.accepted, WriteResult.failed, nativeResult,
        finishWrite, goto, ← List.take_eq_take_min] using SystemCallCase.accepts limit

theorem Sound.write {call : WriteCall} (sound : link.Sound)
    (stepped : link.write tid call = some next) : next.Sound := by
  obtain ⟨record, -, rfl⟩ := write_cases stepped
  split
  next => exact sound.finishWrite
  next handed =>
    apply sound.goto
    rintro _ ⟨⟩
    exact ⟨rfl, handed⟩

theorem Sound.systemCall (sound : link.Sound) (stepped : link.systemCall tid result = some next) :
    next.Sound := by
  obtain ⟨writing, -, came⟩ := systemCall_cases sound stepped
  have left : (link.goto tid none).Sound := sound.goto (by simp)
  cases came with
  | again => exact sound
  | fails => exact left
  | accepts => exact ⟨left.isOpen, left.writing, left.receiving⟩

/-- The bytes are lost silently exactly if the monitor thread is interrupted. -/
theorem Intact.write_iff {call : WriteCall} (sound : link.Sound) (intact : link.Intact)
    (stepped : link.write tid call = some next) :
    next.Intact ↔ link.sender.Monitored call := by
  obtain ⟨record, wrote, rfl⟩ := write_cases stepped
  rw [← write_complete_iff sound.isOpen wrote]
  split
  next nothing =>
    rw [intact_finishWrite_iff, ← intact, WriteRecord.Complete, nothing]
    split
    next returned => simp [returned, eq_comm]
    next thrown => exact iff_of_true intact fun returned => absurd returned thrown
  next handed =>
    have all := (write_handed wrote).resolve_left handed
    exact iff_of_true intact fun _ => all

theorem Intact.systemCall_iff (sound : link.Sound) (intact : link.Intact)
    (stepped : link.systemCall tid result = some next) :
    next.Intact ↔ link.Lossless (.systemCall tid result) := by
  obtain ⟨writing, isWriting, came⟩ := systemCall_cases sound stepped
  have lossless : link.Lossless (.systemCall tid result) ↔
      ∀ limit, result = .accepts limit → writing.send.length ≤ limit := by
    simp [Lossless, isWriting]
  rw [lossless]
  cases came with
  | again => exact iff_of_true intact (by simp)
  | fails => exact iff_of_true intact (by simp)
  | accepts limit =>
      have written : link.written ++ writing.send =
          link.delivered ++ link.held ++ (link.line ++ writing.send.take limit) ↔
          writing.send = writing.send.take limit := by
        rw [intact, List.append_assoc _ link.line]
        simp
      refine written.trans ?_
      rw [eq_comm, List.take_eq_self_iff]
      simp

end Steps

/-! ### The steps of a `read` -/

section Reads

variable {link next : Link Tid} {now select : Int} {limit : Option Nat}

/-- What a round comes to. -/
inductive RoundCase (link : Link Tid) (now select : Int) (limit : Option Nat)
    (receiving : Receiving) : Link Tid → Prop where
  | fails (failed : receiving.reading.Fails (link.outcome receiving now select limit)) :
      RoundCase link now select limit receiving { link with receiving := none }
  | ends (succeeds : ¬receiving.reading.Fails (link.outcome receiving now select limit)) :
      RoundCase link now select limit receiving
        { link with
          receiving := none
          delivered := link.delivered ++ receiving.reading.buffer }
  | goesOn (succeeds : ¬receiving.reading.Fails (link.outcome receiving now select limit))
      (taken : Nat) (reading : Reading)
      (buffer : reading.buffer = receiving.reading.buffer ++ link.line.take taken)
      (bytes : reading.bytes = reading.buffer.length) :
      RoundCase link now select limit receiving
        { link with
          line := link.line.drop taken
          receiving := some { receiving with reading } }

theorem round_cases (sound : link.Sound) (stepped : link.round now select limit = some next) :
    ∃ receiving, link.receiving = some receiving ∧
      link.RoundCase now select limit receiving next := by
  obtain ⟨receiving, isReceiving, rfl⟩ := Option.map_eq_some_iff.mp stepped
  have counted := sound.receiving receiving isReceiving
  refine ⟨receiving, isReceiving, ?_⟩
  have came := receiving.reading.roundCase (link.outcome receiving now select limit)
  generalize receiving.reading.round (link.outcome receiving now select limit) = comes at came
  cases came with
  | fails failed => simpa [Receiving.elements_failed] using RoundCase.fails failed
  | ends succeeds =>
      rw [counted]
      simpa [Receiving.elements_length] using RoundCase.ends succeeds
  | receives succeeds received given =>
      obtain ⟨most, -, rfl⟩ := Option.map_eq_some_iff.mp given
      have front := List.prefix_iff_eq_take.mp
        (List.take_prefix (min most receiving.reading.left.toNat) link.line)
      simp only [List.length_append, Nat.add_sub_cancel_left]
      apply RoundCase.goesOn succeeds
      · simp only [← front]
      · simp [counted]
  | waits succeeds =>
      simp only [Nat.sub_self]
      exact RoundCase.goesOn succeeds _ _ (by simp) counted

theorem Sound.round (sound : link.Sound) (stepped : link.round now select limit = some next) :
    next.Sound := by
  obtain ⟨receiving, -, came⟩ := round_cases sound stepped
  cases came with
  | fails | ends => exact ⟨sound.isOpen, sound.writing, by simp⟩
  | goesOn succeeds taken reading buffer bytes =>
      refine ⟨sound.isOpen, sound.writing, ?_⟩
      rintro _ ⟨⟩
      exact bytes

theorem Intact.round_iff (sound : link.Sound) (intact : link.Intact)
    (stepped : link.round now select limit = some next) :
    next.Intact ↔ link.Lossless (.round now select limit) := by
  obtain ⟨receiving, isReceiving, came⟩ := round_cases sound stepped
  have holds : link.held = receiving.reading.buffer := by rw [held, isReceiving]; rfl
  have lossless : link.Lossless (.round now select limit) ↔
      (receiving.reading.Fails (link.outcome receiving now select limit) →
        receiving.reading.buffer = []) := by
    simp [Lossless, isReceiving]
  rw [Intact, holds] at intact
  rw [lossless]
  cases came with
  | fails failed =>
      rw [Intact]
      simp [intact, failed, held]
  | ends succeeds =>
      refine iff_of_true ?_ fun failed => absurd failed succeeds
      simp [Intact, intact, held]
  | goesOn succeeds taken reading buffer bytes =>
      refine iff_of_true ?_ fun failed => absurd failed succeeds
      simp [Intact, intact, held, buffer]

theorem read_cases {request : ReadRequest} {threshold flag timeout : Int}
    {nativeavailable : Option Int}
    (stepped : link.read request threshold nativeavailable flag timeout now = some next) :
    next = link ∨ link.receiving = none ∧ ∃ length,
      next = { link with receiving := some ⟨request, Reading.begin flag length timeout now⟩ } := by
  unfold Link.read at stepped
  split at stepped
  next => simp at stepped
  next free =>
    obtain ⟨before, -, rfl⟩ := Option.map_eq_some_iff.mp stepped
    cases before with
    | ends => exact .inl rfl
    | reads b minimum =>
        dsimp only
        split
        next => exact .inl rfl
        next => exact .inr ⟨by simpa using free, _, rfl⟩

end Reads

/-! ## Runs -/

section Runs

variable [DecidableEq Tid] {link next final : Link Tid} {label : LinkLabel Tid}
  {labels : List (LinkLabel Tid)}

theorem Sound.step (sound : link.Sound) (stepped : link.step label = some next) : next.Sound := by
  cases label with
  | sender call =>
      obtain ⟨after, managed, rfl⟩ := Option.map_eq_some_iff.mp stepped
      exact ⟨sound.isOpen.manage managed, sound.writing, sound.receiving⟩
  | receiver call =>
      obtain ⟨after, -, rfl⟩ := Option.map_eq_some_iff.mp stepped
      exact ⟨sound.isOpen, sound.writing, sound.receiving⟩
  | write tid call => exact sound.write stepped
  | systemCall tid result => exact sound.systemCall stepped
  | round now select limit => exact sound.round stepped
  | read =>
      rcases read_cases stepped with rfl | ⟨-, length, rfl⟩
      · exact sound
      · refine ⟨sound.isOpen, sound.writing, ?_⟩
        rintro _ ⟨⟩
        rfl

/-- A step keeps the bytes exactly if it is lossless. -/
theorem Intact.step_iff (sound : link.Sound) (intact : link.Intact)
    (stepped : link.step label = some next) : next.Intact ↔ link.Lossless label := by
  cases label with
  | sender call | receiver call =>
      obtain ⟨after, -, rfl⟩ := Option.map_eq_some_iff.mp stepped
      exact iff_of_true intact trivial
  | write tid call => exact intact.write_iff sound stepped
  | systemCall tid result => exact intact.systemCall_iff sound stepped
  | round now select limit => exact intact.round_iff sound stepped
  | read =>
      refine iff_of_true ?_ trivial
      rcases read_cases stepped with rfl | ⟨free, length, rfl⟩
      · exact intact
      · rw [Intact, held, free] at intact
        exact intact

/-- Whatever the threads at both ports do, in every state of a run the bytes of the `write` calls
that have returned normally have been read, are being read or are on their way, in order and
once, exactly if no step loses any. -/
theorem stream_intact_iff (connected : Connected link)
    (ran : (linked Tid).run link labels = some final) :
    (linked Tid).Keeps Intact link labels ↔ (linked Tid).StepsMeet Lossless link labels := by
  have sound : link.Sound := by
    refine ⟨connected.isOpen, ?_, ?_⟩
    · simp [connected.writing]
    · simp [connected.receiving]
  have intact : link.Intact := by
    simp [Intact, held, connected.written, connected.delivered, connected.receiving,
      connected.line]
  exact System.keeps_iff_stepsMeet (fun _ _ _ sound intact stepped => intact.step_iff sound stepped)
    (fun _ _ _ sound _ stepped => sound.step stepped) sound intact labels ran

/-- A port whose event loop runs. -/
def runningPort : RXTXPort where
  fd := 3
  monThreadisInterrupted := false
  monThread := some {}
  monitorThreadLock := false
  monitorThreadAlive := true

/-- Two running ports and a cable. -/
def fresh (Tid : Type*) : Link Tid where
  sender := runningPort
  receiver := runningPort
  writing := fun _ => none
  receiving := none
  line := []
  written := []
  delivered := []

theorem isOpen_runningPort : runningPort.IsOpen :=
  ⟨by decide, by decide⟩

theorem connected_fresh (Tid : Type*) : Connected (fresh Tid) :=
  ⟨isOpen_runningPort, fun _ => rfl, rfl, rfl, rfl, rfl⟩

/-- Four elements of an array of eight. -/
def fourBytes : ReadRequest where
  b := ⟨8, by decide, fun _ => 0⟩
  off := 2
  len := 4
  inRange := ⟨by decide, by decide, by decide⟩

/-- A write is interrupted by a signal, and another thread writes its byte before it goes on.
A read takes two rounds. -/
def twoWriters : List (LinkLabel Bool) :=
  [.write false (.bytes [1, 2, 3]), .systemCall false .eintr, .write true (.int 65),
    .systemCall true (.accepts 1), .systemCall false (.accepts 3),
    .sender (.removeEventListener false), .read fourBytes 4 none 0 (-1) 0,
    .round 0 1 (some 2), .round 0 1 (some 9), .round 0 0 none]

theorem stream_intact_iff_twoWriters :
    ∃ final, (linked Bool).run (fresh Bool) twoWriters = some final ∧
      final.delivered = [65, 1, 2, 3] ∧ final.Intact := by
  have ran : (linked Bool).run (fresh Bool) twoWriters = some _ := rfl
  have lossless : (linked Bool).StepsMeet Lossless (fresh Bool) twoWriters := by
    refine ⟨.inr rfl, ?_, rfl, ?_, ?_, trivial, trivial, ?_, ?_, ?_, trivial⟩
    · rintro _ - _ ⟨⟩
    · rintro _ ⟨⟩ _ ⟨⟩
      decide
    · rintro _ ⟨⟩ _ ⟨⟩
      decide
    · rintro _ ⟨⟩ _
      rfl
    · rintro _ ⟨⟩ ⟨-, -, failed⟩
      simp [outcome] at failed
    · rintro _ ⟨⟩ ⟨⟨short, -⟩, -⟩
      exact absurd short (by decide)
  refine ⟨_, ran, rfl, ?_⟩
  exact ((stream_intact_iff (connected_fresh Bool) ran).mpr lossless).at_end ran

end Runs

end Link

end RXTXPort

end Jrxtx
