import Jrxtx.RXTXPort.Listener
import Jrxtx.Transition.System
import Mathlib.Data.Int.Init
import Mathlib.Algebra.Group.Nat.Defs

/-!
# Writing to a port

The three `write` methods of `SerialOutputStream`.  Whether they hand their
bytes to the native code depends on `monThreadisInterrupted`, which belongs to
the life cycle of the event listener.  `IOLocked` is left out: one thread's calls
leave it as they find it.
-/

namespace Jrxtx.RXTXPort

open Jrxtx.Transition

/-- A call of one of the `write` methods. -/
inductive WriteCall where
  | int (b : Int)
  | bytes (b : List UInt8)
  | range (b : List UInt8) (off len : Int)
  deriving DecidableEq, Repr

/-- A finished call: the bytes it was asked to write, those that it has passed
to `writeByte` or `writeArray`, and how it ended. -/
structure WriteRecord where
  requested : List UInt8
  handed : List UInt8
  result : CallResult
  deriving DecidableEq, Repr

/-- The call has handed every byte over or thrown an exception. -/
def WriteRecord.Complete (record : WriteRecord) : Prop :=
  record.result = .returned → record.handed = record.requested

/-- Java's addition of two `int` values. -/
def addInt (left right : Int) : Int :=
  Int.bmod (left + right) (2 ^ 32)

/-- The end of the native call, which throws `IOException` if it fails. -/
def nativeResult (nativeThrows : Bool) : CallResult :=
  if nativeThrows then .ioException else .returned

/-- `write(int)` -/
def writeInt (self : RXTXPort) (b : Int) (nativeThrows : Bool) : Option WriteRecord :=
  let requested := [UInt8.ofInt b]
  if self.speed = 0 then some ⟨requested, [], .returned⟩
  else if self.monThreadisInterrupted then some ⟨requested, [], .returned⟩
  else if self.monitorThreadLock then none
  else if self.fd = 0 then some ⟨requested, [], .ioException⟩
  else some ⟨requested, requested, nativeResult nativeThrows⟩

/-- `write(byte[])` -/
def writeBytes (self : RXTXPort) (b : List UInt8) (nativeThrows : Bool) :
    Option WriteRecord :=
  if self.speed = 0 then some ⟨b, [], .returned⟩
  else if self.monThreadisInterrupted then some ⟨b, [], .returned⟩
  else if self.fd = 0 then some ⟨b, [], .ioException⟩
  else if self.monitorThreadLock then none
  else some ⟨b, b, nativeResult nativeThrows⟩

/-- `write(byte[], int, int)` -/
def writeRange (self : RXTXPort) (b : List UInt8) (off len : Int) (nativeThrows : Bool) :
    Option WriteRecord :=
  let send := (b.drop off.toNat).take len.toNat
  if self.speed = 0 then some ⟨send, [], .returned⟩
  else if addInt off len > b.length then some ⟨send, [], .indexOutOfBoundsException⟩
  else if len < 0 then some ⟨send, [], .negativeArraySizeException⟩
  -- the check of `System.arraycopy`
  else if off < 0 ∨ off + len > b.length then some ⟨send, [], .indexOutOfBoundsException⟩
  else if self.fd = 0 then some ⟨send, [], .ioException⟩
  else if self.monThreadisInterrupted then some ⟨send, [], .returned⟩
  else if self.monitorThreadLock then none
  else some ⟨send, send, nativeResult nativeThrows⟩

def write (self : RXTXPort) (nativeThrows : Bool) : WriteCall → Option WriteRecord
  | .int b => self.writeInt b nativeThrows
  | .bytes b => self.writeBytes b nativeThrows
  | .range b off len => self.writeRange b off len nativeThrows

/-- The arguments of `write(byte[], int, int)` are valid. -/
def InRange (b : List UInt8) (off len : Int) : Prop :=
  0 ≤ off ∧ 0 ≤ len ∧ off + len ≤ b.length

/-- The monitor thread is not interrupted, or nothing is to be written. -/
def Monitored (self : RXTXPort) : WriteCall → Prop
  | .int _ => self.monThreadisInterrupted = false
  | .bytes b => b = [] ∨ self.monThreadisInterrupted = false
  | .range b off len => InRange b off len → len = 0 ∨ self.monThreadisInterrupted = false

/-- The port is open. -/
structure IsOpen (port : RXTXPort) : Prop where
  fd : 0 < port.fd
  speed : port.speed ≠ 0

theorem nativeResult_complete (requested : List UInt8) (nativeThrows : Bool) :
    (WriteRecord.mk requested requested (nativeResult nativeThrows)).Complete := by
  intro _
  rfl

theorem lost_complete_iff (requested : List UInt8) :
    (WriteRecord.mk requested [] .returned).Complete ↔ requested = [] := by
  constructor
  · intro complete
    exact (complete rfl).symm
  · intro none _
    exact none.symm

section Calls

variable {self : RXTXPort} {nativeThrows : Bool} {record : WriteRecord}

theorem writeInt_complete_iff (isOpen : self.IsOpen) {b : Int}
    (wrote : self.writeInt b nativeThrows = some record) :
    record.Complete ↔ self.monThreadisInterrupted = false := by
  have fd : self.fd ≠ 0 := Int.ne_of_gt isOpen.fd
  simp only [writeInt, isOpen.speed, fd, if_false] at wrote
  split at wrote
  next interrupted =>
    obtain rfl := Option.some.inj wrote
    simp [lost_complete_iff, interrupted]
  next running =>
    split at wrote
    next => simp at wrote
    next =>
      obtain rfl := Option.some.inj wrote
      exact iff_of_true (nativeResult_complete _ _) (by simpa using running)

theorem writeBytes_complete_iff (isOpen : self.IsOpen) {b : List UInt8}
    (wrote : self.writeBytes b nativeThrows = some record) :
    record.Complete ↔ (b = [] ∨ self.monThreadisInterrupted = false) := by
  have fd : self.fd ≠ 0 := Int.ne_of_gt isOpen.fd
  simp only [writeBytes, isOpen.speed, fd, if_false] at wrote
  split at wrote
  next interrupted =>
    obtain rfl := Option.some.inj wrote
    simp [lost_complete_iff, interrupted]
  next running =>
    split at wrote
    next => simp at wrote
    next =>
      obtain rfl := Option.some.inj wrote
      exact iff_of_true (nativeResult_complete _ _) (.inr (by simpa using running))

/-- An exception loses nothing silently. -/
theorem thrown_complete {requested handed : List UInt8} {result : CallResult}
    (thrown : result ≠ .returned) : (WriteRecord.mk requested handed result).Complete := by
  intro returned
  exact absurd returned thrown

/-- An overflow makes the sum of two `int` values smaller, never greater. -/
theorem addInt_le {left right : Int} (nonneg : 0 ≤ left + right) :
    addInt left right ≤ left + right := by
  unfold addInt
  rw [Int.bmod_def]
  split <;> omega

/-- A valid range is empty only if its length is zero. -/
theorem range_eq_nil_iff {b : List UInt8} {off len : Int} (inRange : InRange b off len) :
    (b.drop off.toNat).take len.toNat = [] ↔ len = 0 := by
  obtain ⟨offNonneg, lenNonneg, fits⟩ := inRange
  rw [← List.length_eq_zero_iff, List.length_take, List.length_drop]
  omega

theorem writeRange_complete_iff (isOpen : self.IsOpen) {b : List UInt8} {off len : Int}
    (wrote : self.writeRange b off len nativeThrows = some record) :
    record.Complete ↔
      (InRange b off len → len = 0 ∨ self.monThreadisInterrupted = false) := by
  have fd : self.fd ≠ 0 := Int.ne_of_gt isOpen.fd
  simp only [writeRange, isOpen.speed, fd, if_false] at wrote
  split at wrote
  next tooFar =>
    obtain rfl := Option.some.inj wrote
    apply iff_of_true (thrown_complete (by decide))
    intro ⟨offNonneg, lenNonneg, fits⟩
    have bounded := addInt_le (Int.add_nonneg offNonneg lenNonneg)
    omega
  next =>
    split at wrote
    next negative =>
      obtain rfl := Option.some.inj wrote
      apply iff_of_true (thrown_complete (by decide))
      intro ⟨_, lenNonneg, _⟩
      omega
    next lenNonneg =>
      split at wrote
      next outside =>
        obtain rfl := Option.some.inj wrote
        apply iff_of_true (thrown_complete (by decide))
        intro ⟨offNonneg, _, fits⟩
        omega
      next inside =>
        have inRange : InRange b off len := by
          unfold InRange
          omega
        split at wrote
        next interrupted =>
          obtain rfl := Option.some.inj wrote
          simp [lost_complete_iff, range_eq_nil_iff inRange, inRange, interrupted]
        next running =>
          split at wrote
          next => simp at wrote
          next =>
            obtain rfl := Option.some.inj wrote
            apply iff_of_true (nativeResult_complete _ _)
            intro _
            exact .inr (by simpa using running)

/-- A `write` call on an open port hands over all its bytes or throws exactly if
the monitor thread is not interrupted or nothing is to be written. -/
theorem write_complete_iff (isOpen : self.IsOpen) {call : WriteCall}
    (wrote : self.write nativeThrows call = some record) :
    record.Complete ↔ self.Monitored call := by
  cases call with
  | int b => exact writeInt_complete_iff isOpen wrote
  | bytes b => exact writeBytes_complete_iff isOpen wrote
  | range b off len => exact writeRange_complete_iff isOpen wrote

end Calls

/-! ## Runs -/

/-- The port and, newest first, its finished `write` calls. -/
structure State where
  port : RXTXPort
  writes : List WriteRecord

/-- A call on the port, or the end of the event loop. -/
inductive Call where
  | addEventListener (lsnr : Option ListenerRef) (loopStarts : Bool)
  | removeEventListener (interrupted : Bool)
  | notifyOn (event : SerialEvent) (enable : Bool)
  | write (call : WriteCall) (nativeThrows : Bool)
  | monitorExits

/-- The state after a call; `none` if the call does not return. -/
def State.step (state : State) : Call → Option State
  | .addEventListener lsnr loopStarts =>
      (state.port.addEventListener lsnr loopStarts).map fun after =>
        { state with port := after.1 }
  | .removeEventListener interrupted =>
      (state.port.removeEventListener interrupted).map fun after => { state with port := after }
  | .notifyOn event enable =>
      (state.port.notifyOn event enable).map fun after => { state with port := after.1 }
  | .write call nativeThrows =>
      (state.port.write nativeThrows call).map fun record =>
        { state with writes := record :: state.writes }
  | .monitorExits => some { state with port := state.port.monitorExits }

/-- The runs that start with any open port. -/
def openPorts : System State Call where
  start := fun state => state.port.IsOpen ∧ state.writes = []
  step := State.step

/-- The condition on one call: no bytes are written while the monitor thread is
interrupted. -/
def WritesMonitored (state : State) : Call → Prop
  | .write call _ => state.port.Monitored call
  | _ => True

theorem IsOpen.congr {before after : RXTXPort} (isOpen : before.IsOpen)
    (same : SameDevice before after) : after.IsOpen where
  fd := same.fd ▸ isOpen.fd
  speed := same.speed ▸ isOpen.speed

/-- A call leaves the device open, and adds its record if it is a `write`. -/
theorem State.step_cases {state next : State} {call : Call}
    (stepped : state.step call = some next) :
    (SameDevice state.port next.port ∧ next.writes = state.writes) ∨
      ∃ write nativeThrows record, call = .write write nativeThrows ∧
        state.port.write nativeThrows write = some record ∧
        next = { state with writes := record :: state.writes } := by
  cases call with
  | addEventListener lsnr loopStarts =>
      obtain ⟨⟨after, result⟩, added, rfl⟩ := Option.map_eq_some_iff.mp stepped
      exact .inl ⟨.addEventListener added, rfl⟩
  | removeEventListener interrupted =>
      obtain ⟨after, removed, rfl⟩ := Option.map_eq_some_iff.mp stepped
      exact .inl ⟨.removeEventListener removed, rfl⟩
  | notifyOn event enable =>
      obtain ⟨⟨after, result⟩, notified, rfl⟩ := Option.map_eq_some_iff.mp stepped
      exact .inl ⟨.notifyOn notified, rfl⟩
  | write call nativeThrows =>
      obtain ⟨record, wrote, rfl⟩ := Option.map_eq_some_iff.mp stepped
      exact .inr ⟨call, nativeThrows, record, rfl, wrote, rfl⟩
  | monitorExits =>
      obtain rfl := Option.some.inj stepped
      exact .inl ⟨⟨rfl, rfl⟩, rfl⟩

theorem isOpen_of_reachable {state : State} (reachable : openPorts.Reachable state) :
    state.port.IsOpen := by
  apply reachable.invariant
  · intro initial started
    exact started.1
  · intro before call after isOpen stepped
    rcases State.step_cases stepped with ⟨same, -⟩ | ⟨_, _, _, -, -, rfl⟩
    · exact isOpen.congr same
    · exact isOpen

theorem complete_of_reachedBy {state : State}
    (reached : openPorts.ReachedBy WritesMonitored state) :
    state.port.IsOpen ∧ ∀ record ∈ state.writes, record.Complete := by
  apply reached.invariant
  · intro initial started
    refine ⟨started.1, ?_⟩
    simp [started.2]
  · intro before call after ⟨isOpen, complete⟩ monitored stepped
    rcases State.step_cases stepped with
      ⟨same, sameWrites⟩ | ⟨write, _, record, rfl, wrote, rfl⟩
    · exact ⟨isOpen.congr same, sameWrites ▸ complete⟩
    · refine ⟨isOpen, ?_⟩
      intro other member
      rcases List.mem_cons.mp member with rfl | earlier
      · exact (write_complete_iff isOpen wrote).mpr monitored
      · exact complete other earlier

/-- No write is lost silently in runs whose writes find the monitor thread not
interrupted, and in any state reached a further write is lost otherwise. -/
theorem writes_complete {state : State} (reached : openPorts.ReachedBy WritesMonitored state) :
    (∀ record ∈ state.writes, record.Complete) ∧
    ∀ call nativeThrows record, state.port.write nativeThrows call = some record →
      (record.Complete ↔ state.port.Monitored call) := by
  obtain ⟨isOpen, complete⟩ := complete_of_reachedBy reached
  refine ⟨complete, ?_⟩
  intro call nativeThrows record wrote
  exact write_complete_iff isOpen wrote

/-- A listener is added, removed and added again; then two bytes are written. -/
theorem writes_complete_listener :
    ∃ state : State, state.writes = [⟨[1, 2], [1, 2], .returned⟩] ∧
      ∀ record ∈ state.writes, record.Complete := by
  have opened :
      openPorts.ReachedBy WritesMonitored ⟨⟨5, 9600, true, none, none, false, false⟩, []⟩ :=
    .start ⟨⟨by decide, by decide⟩, rfl⟩
  have added := opened.extend (.addEventListener (some 1) true) trivial rfl
  have removed := added.extend (.removeEventListener false) trivial rfl
  have again := removed.extend (.addEventListener (some 1) true) trivial rfl
  have written := again.extend (.write (.bytes [1, 2]) false) (.inr rfl) rfl
  exact ⟨_, rfl, (writes_complete written).1⟩

/-- `removeEventListener` always leaves the monitor thread interrupted. -/
theorem removeEventListener_interrupts {before after : RXTXPort} {interrupted : Bool}
    (removed : before.removeEventListener interrupted = some after) :
    after.monThreadisInterrupted = true := by
  simp only [removeEventListener] at removed
  split at removed
  next => simp at removed
  next =>
    split at removed
    next already => exact Option.some.inj removed ▸ already
    next =>
      split at removed
      next => exact Option.some.inj removed ▸ rfl
      next => exact Option.some.inj removed ▸ rfl

/-- After `removeEventListener` a `write` returns normally and hands nothing over. -/
theorem write_lost_after_removeEventListener {before after : RXTXPort} {interrupted : Bool}
    (removed : before.removeEventListener interrupted = some after) (b : List UInt8)
    (nativeThrows : Bool) : after.writeBytes b nativeThrows = some ⟨b, [], .returned⟩ := by
  have lost := removeEventListener_interrupts removed
  simp only [writeBytes, lost, if_true, ite_self]

/-- The listener of a fresh port is removed; then two bytes are written, and the
call returns normally without having handed them over. -/
theorem write_can_be_lost :
    ∃ port state, RXTXPort.new 5 true = some port ∧ openPorts.start ⟨port, []⟩ ∧
      openPorts.run ⟨port, []⟩ [.addEventListener (some 1) true, .removeEventListener false,
        .write (.bytes [1, 2]) false] = some state ∧
      ∃ record ∈ state.writes, ¬record.Complete := by
  let port : RXTXPort :=
    { fd := 5
      monThreadisInterrupted := false
      monThread := some {}
      monitorThreadLock := false
      monitorThreadAlive := true }
  have isOpen : port.IsOpen := ⟨by decide, by decide⟩
  refine ⟨port, _, rfl, ⟨isOpen, rfl⟩, rfl, ⟨[1, 2], [], .returned⟩, ?_, ?_⟩
  · exact List.mem_singleton_self _
  · intro complete
    exact absurd (complete rfl) (by decide)

end Jrxtx.RXTXPort
