import Mathlib.Algebra.Group.Int.Defs
import Mathlib.Algebra.Group.Nat.Defs
import Jrxtx.SerialImp.ReadArray
import Jrxtx.Transition.Loop

/-!
# Reading on Windows CE

`readArray` calls `ReadFile` until nothing comes or the threshold is reached.  Every call is
given `body + off` and `len`.
-/

namespace Jrxtx.WinCE

open Jrxtx.SerialImp Jrxtx.Transition

/-- `(DWORD) value` -/
def dword (value : Int) : Nat := (value % 2 ^ 32).toNat

/-- A `DWORD` as a `jint`. -/
def jint (value : Nat) : Int := (value : Int).bmod (2 ^ 32)

/-- The local variables of `readArray` after `count` calls of `ReadFile`. -/
structure Reading where
  body : Body
  dwTotalRead : Nat
  count : Nat

/-- How `readArray` ends: what it returns, the elements of the array, and the number of calls
that have delivered. -/
structure Read where
  result : NativeRead
  body : Body
  calls : Nat

/-- A round of the loop, with what every call of `ReadFile` delivers; `none` if it fails. -/
def Reading.round (body : Body) (off len threshold : Int) (readFile : Nat → Option (List UInt8))
    (reading : Reading) : Except Read Reading :=
  match readFile reading.count with
  -- `JNI_ABORT`: the elements are not copied back
  | none => .error ⟨.ioException, body, reading.count⟩
  | some bytes =>
      let next : Reading :=
        { body := store reading.body off bytes
          dwTotalRead := dword (reading.dwTotalRead + bytes.length)
          count := reading.count + 1 }
      if bytes.length > 0 ∧ threshold ≠ 0 ∧ next.dwTotalRead ≤ dword len ∧
          next.dwTotalRead < dword threshold then
        .ok next
      else .error ⟨.returned (jint next.dwTotalRead), next.body, next.count⟩

/-- `RXTXPort.readArray`, with enough fuel: every round that goes on has read something, and
at most `len` bytes together. -/
def readArray (body : Body) (off len threshold : Int) (readFile : Nat → Option (List UInt8)) :
    Option Read :=
  if len < 0 then some ⟨.arrayIndexOutOfBoundsException, body, 0⟩
  else loop (Reading.round body off len threshold readFile) (len.toNat + 1) ⟨body, 0, 0⟩

/-- The bytes that the first `n` calls consume from the device. -/
def consumed (deliveries : Nat → List UInt8) : Nat → List UInt8
  | 0 => []
  | n + 1 => consumed deliveries n ++ deliveries n

/-- The bytes consumed are those that are returned, from `off` on, and nothing else is
written. -/
structure Delivers (body : Body) (off len : Int) (deliveries : Nat → List UInt8) (read : Read) :
    Prop where
  result : read.result = .returned (consumed deliveries read.calls).length
  within : ((consumed deliveries read.calls).length : Int) ≤ len
  stored : ∀ i (inRange : i < (consumed deliveries read.calls).length),
    read.body (off + i) = (consumed deliveries read.calls)[i]
  frame : ∀ index, index < off ∨ off + len ≤ index → read.body index = body index

/-- A first call that delivers so much ends the loop. -/
def Suffices (threshold : Int) (size : Nat) : Prop :=
  size = 0 ∨ threshold = 0 ∨ dword threshold ≤ size

instance (threshold : Int) (size : Nat) : Decidable (Suffices threshold size) :=
  inferInstanceAs (Decidable (_ ∨ _))

section Rounds

variable {body : Body} {off len threshold : Int} {deliveries : Nat → List UInt8}
  {reading : Reading}

theorem dword_of_lt {value : Int} (nonneg : 0 ≤ value) (fits : value < 2 ^ 32) :
    dword value = value.toNat := by
  rw [dword, Int.emod_eq_of_lt nonneg fits]

theorem jint_of_lt {value : Nat} (fits : value < 2 ^ 31) : jint value = value := by
  apply Int.bmod_eq_of_le <;> omega

/-- The local variables after one more delivery. -/
def Reading.after (off : Int) (deliveries : Nat → List UInt8) (reading : Reading) : Reading where
  body := store reading.body off (deliveries reading.count)
  dwTotalRead := reading.dwTotalRead + (deliveries reading.count).length
  count := reading.count + 1

variable (body off threshold) in
/-- A round without a failure, as long as the numbers fit. -/
theorem round_eq (isLen : 0 ≤ len ∧ len < 2 ^ 31) (total : reading.dwTotalRead ≤ len)
    (size : ((deliveries reading.count).length : Int) ≤ len) :
    reading.round body off len threshold (fun n => some (deliveries n)) =
      if (deliveries reading.count).length > 0 ∧ threshold ≠ 0 ∧
          ((reading.after off deliveries).dwTotalRead : Int) ≤ len ∧
          (reading.after off deliveries).dwTotalRead < dword threshold then
        .ok (reading.after off deliveries)
      else
        .error ⟨.returned (jint (reading.after off deliveries).dwTotalRead),
          (reading.after off deliveries).body, (reading.after off deliveries).count⟩ := by
  have fits : dword (reading.dwTotalRead + (deliveries reading.count).length) =
      reading.dwTotalRead + (deliveries reading.count).length := by
    rw [dword_of_lt (by omega) (by omega)]
    omega
  simp only [Reading.round, Reading.after, fits, dword_of_lt isLen.1 (by omega),
    Int.le_toNat isLen.1]
  rfl

theorem delivers_of_store {calls : Nat} (isConsumed : consumed deliveries calls = deliveries 0)
    (within : ((deliveries 0).length : Int) ≤ len) (isLen : len < 2 ^ 31) :
    Delivers body off len deliveries
      ⟨.returned (jint (deliveries 0).length), store body off (deliveries 0), calls⟩ where
  result := by rw [isConsumed, jint_of_lt (by omega)]
  within := isConsumed ▸ within
  stored := by
    intro i inRange
    simp only [isConsumed] at inRange ⊢
    exact store_of_lt inRange
  frame := fun index outside => store_of_outside (by omega)

variable (body off threshold) in
/-- The first round. -/
theorem round_begin (isLen : 0 ≤ len ∧ len < 2 ^ 31)
    (size : ((deliveries 0).length : Int) ≤ len) :
    Reading.round body off len threshold (fun n => some (deliveries n)) ⟨body, 0, 0⟩ =
      if Suffices threshold (deliveries 0).length then
        .error ⟨.returned (jint (deliveries 0).length), store body off (deliveries 0), 1⟩
      else .ok ⟨store body off (deliveries 0), (deliveries 0).length, 1⟩ := by
  rw [round_eq body off threshold isLen isLen.1 size]
  simp only [Reading.after, Nat.zero_add]
  by_cases goesOn : (deliveries 0).length > 0 ∧ threshold ≠ 0 ∧
      ((deliveries 0).length : Int) ≤ len ∧ (deliveries 0).length < dword threshold
  · rw [if_pos goesOn, if_neg]
    rintro (none | none | enough)
    · exact absurd none (Nat.ne_of_gt goesOn.1)
    · exact goesOn.2.1 none
    · exact absurd enough (Nat.not_le.mpr goesOn.2.2.2)
  · rw [if_neg goesOn, if_pos]
    by_contra insufficient
    rw [Suffices, not_or, not_or, Nat.not_le] at insufficient
    exact goesOn ⟨Nat.pos_of_ne_zero insufficient.1, insufficient.2.1, size, insufficient.2.2⟩

/-- Where one call delivers everything, it is returned. -/
theorem readArray_delivers (isLen : 0 ≤ len ∧ len < 2 ^ 31)
    (size : ∀ n, ((deliveries n).length : Int) ≤ len)
    (once : Suffices threshold (deliveries 0).length ∨ (deliveries 1).length = 0) :
    ∃ read, readArray body off len threshold (fun n => some (deliveries n)) = some read ∧
      Delivers body off len deliveries read := by
  have first := round_begin body off threshold isLen (size 0)
  rw [readArray, if_neg (Int.not_lt.mpr isLen.1)]
  by_cases enough : Suffices threshold (deliveries 0).length
  · rw [if_pos enough] at first
    exact ⟨_, loop_of_error first _, delivers_of_store (List.nil_append _) (size 0) isLen.2⟩
  · have nothing := once.resolve_left enough
    rw [if_neg enough] at first
    have second := @round_eq body off len threshold deliveries
      ⟨store body off (deliveries 0), (deliveries 0).length, 1⟩ isLen (size 0) (size 1)
    rw [if_neg (by simp [nothing])] at second
    obtain ⟨fuel, isFuel⟩ : ∃ fuel, len.toNat + 1 = fuel + 1 + 1 := by
      have some : (deliveries 0).length ≠ 0 := fun none => enough (.inl none)
      have fits := size 0
      exact ⟨len.toNat - 1, by omega⟩
    have isEmpty := List.eq_nil_of_length_eq_zero nothing
    refine ⟨_, isFuel ▸ (loop_of_ok first _).trans (loop_of_error second fuel), ?_⟩
    simp only [Reading.after, isEmpty, store_nil, List.length_nil, Nat.add_zero]
    exact delivers_of_store (by simp [consumed, isEmpty]) (size 0) isLen.2

theorem prefix_consumed (deliveries : Nat → List UInt8) (n : Nat) :
    deliveries 0 <+: consumed deliveries (n + 1) := by
  induction n with
  | zero => exact List.prefix_rfl
  | succ n ih => exact ih.trans (List.prefix_append _ _)

/-- Bytes by which the first delivery and the later ones are told apart. -/
def marked (sizes : Nat → Nat) (n : Nat) : List UInt8 :=
  List.replicate (sizes n) (if n = 0 then 1 else 2)

variable {sizes : Nat → Nat}

theorem store_marked {n : Nat} (later : n ≠ 0) (some : 0 < (marked sizes n).length) :
    store body off (marked sizes n) off = 2 := by
  have first : store body off (marked sizes n) (off + (0 : Nat)) = (marked sizes n)[0] :=
    store_of_lt some
  simpa [marked, later] using first

/-- Every later delivery overwrites the first. -/
theorem marked_overwritten {read : Read} (isLen : 0 ≤ len ∧ len < 2 ^ 31)
    (size : ∀ n, (sizes n : Int) ≤ len)
    (twice : ¬Suffices threshold (sizes 0) ∧ sizes 1 ≠ 0)
    (returned : readArray body off len threshold (fun n => some (marked sizes n)) = some read) :
    read.body off = 2 ∧ ∃ n, read.calls = n + 1 := by
  have length (n : Nat) : (marked sizes n).length = sizes n := List.length_replicate
  have bounded (n : Nat) : ((marked sizes n).length : Int) ≤ len := length n ▸ size n
  have first := round_begin body off threshold isLen (bounded 0)
  rw [length, if_neg twice.1] at first
  rw [readArray, if_neg (Int.not_lt.mpr isLen.1), loop_of_ok first] at returned
  have round {reading : Reading} (total : reading.dwTotalRead ≤ len) :=
    round_eq body off threshold isLen total (bounded reading.count)
  refine (LoopsTo.of_loop returned).of_invariant
    (fun reading => reading.dwTotalRead ≤ len ∧ 1 ≤ reading.count ∧
      (2 ≤ reading.count → reading.body off = 2))
    (fun read => read.body off = 2 ∧ ∃ n, read.calls = n + 1)
    ⟨size 0, Nat.le_refl 1, by simp⟩ ?_ ?_
  · rintro reading next ⟨total, later, -⟩ goesOn
    rw [round total] at goesOn
    split at goesOn
    next some =>
      obtain rfl := Except.ok.inj goesOn
      exact ⟨some.2.2.1, Nat.le_add_left _ _, fun _ => store_marked (Nat.ne_of_gt later) some.1⟩
    next => simp at goesOn
  · rintro reading read ⟨total, later, overwritten⟩ ends
    rw [round total] at ends
    split at ends
    next => simp at ends
    next =>
      obtain rfl := Except.error.inj ends
      refine ⟨?_, reading.count, rfl⟩
      rcases Nat.eq_zero_or_pos (marked sizes reading.count).length with none | some
      · rw [Reading.after, List.eq_nil_of_length_eq_zero none, store_nil]
        apply overwritten
        by_contra isFirst
        have isOne : reading.count = 1 := by omega
        rw [isOne, length] at none
        exact twice.2 none
      · exact store_marked (Nat.ne_of_gt later) some

/-- Whatever the bytes are, they are returned, exactly if the first call ends the loop or the
second delivers nothing. -/
theorem readArray_delivers_iff (body : Body) (off : Int) (isLen : 0 ≤ len ∧ len < 2 ^ 31)
    (size : ∀ n, (sizes n : Int) ≤ len) :
    (∀ deliveries : Nat → List UInt8, (∀ n, (deliveries n).length = sizes n) →
        ∃ read, readArray body off len threshold (fun n => some (deliveries n)) = some read ∧
          Delivers body off len deliveries read) ↔
      Suffices threshold (sizes 0) ∨ sizes 1 = 0 := by
  constructor
  · intro delivered
    by_contra twice
    rw [not_or] at twice
    obtain ⟨read, returned, delivers⟩ := delivered (marked sizes) fun n => List.length_replicate
    obtain ⟨overwritten, n, calls⟩ := marked_overwritten isLen size twice returned
    have isPrefix := prefix_consumed (marked sizes) n
    have some : 0 < (marked sizes 0).length := by
      simp only [marked, List.length_replicate]
      exact Nat.pos_of_ne_zero fun none => twice.1 (.inl none)
    have first := delivers.stored 0 (calls ▸ Nat.lt_of_lt_of_le some isPrefix.length_le)
    simp only [calls, Int.add_zero, Int.natCast_zero] at first
    rw [overwritten, ← isPrefix.getElem some] at first
    simp [marked] at first
  · intro once deliveries length
    apply readArray_delivers isLen (fun n => length n ▸ size n)
    rwa [length, length]

end Rounds

/-- Two bytes at once reach a threshold of two. -/
theorem readArray_delivers_iff_twoBytes :
    (∀ deliveries : Nat → List UInt8, (∀ n, (deliveries n).length = 2) →
        ∃ read, readArray (fun _ => 0) 0 4 2 (fun n => some (deliveries n)) = some read ∧
          Delivers (fun _ => 0) 0 4 deliveries read) ↔
      Suffices 2 2 ∨ 2 = 0 :=
  @readArray_delivers_iff 4 2 (fun _ => 2) _ 0 (by decide) fun _ => by decide

/-- Of four bytes in two deliveries the first two are lost. -/
theorem second_delivery_overwrites :
    ∃ read,
      readArray (fun _ => 0) 0 4 4 (fun n => if n = 0 then some [65, 66] else some [67, 68]) =
          some read ∧
        read.result = .returned 4 ∧ read.calls = 2 ∧
        [read.body 0, read.body 1, read.body 2, read.body 3] = [67, 68, 0, 0] ∧
        ¬Delivers (fun _ => 0) 0 4 (fun n => if n = 0 then [65, 66] else [67, 68]) read := by
  refine ⟨_, rfl, rfl, rfl, rfl, fun delivers => ?_⟩
  exact absurd (delivers.stored 0 (by decide)) (by decide)

end Jrxtx.WinCE
