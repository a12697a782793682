import Mathlib.Data.List.Basic

/-!
# The baud base and the divisor

`setBaudBase` and `setDivisor` of `RXTXPort` read the `serial_struct` of the device, change
it and write it back.  `nativeSetDivisor` writes back what it has read.
-/

namespace Jrxtx.SerialImp.BaudBase

/-- `serial_struct`, with the fields that nothing here looks at in one. -/
structure SerialStruct (Others : Type*) where
  baudBase : Int
  customDivisor : Int
  others : Others
  deriving DecidableEq, Repr

/-- The outcomes of the system calls of one native function. -/
structure IoctlCalls where
  /-- `ioctl(fd, TIOCGSERIAL, &sstruct)` -/
  tiocgserial : Bool
  /-- `ioctl(fd, TIOCSSERIAL, &sstruct)` -/
  tiocsserial : Bool
  /-- `strerror(errno)` -/
  strerror : String

/-- Both calls succeed. -/
def IoctlCalls.Succeed (ioctl : IoctlCalls) : Prop :=
  ioctl.tiocgserial = true ∧ ioctl.tiocsserial = true

/-- What a native function returns, and the message of an `IOException` it has thrown. -/
structure Native (α : Type*) where
  ret : α
  exception : Option String := none

/-- The message that `throw_java_exception` makes of its arguments. -/
def throwJavaException (foo msg : String) : Option String :=
  some (String.ofList ((msg ++ " in " ++ foo).toList.take 59))

/-- What a Java method gets from a native function: the return value, if no exception is
pending. -/
def Native.result {α : Type*} (native : Native α) : Except String α :=
  match native.exception with
  | none => .ok native.ret
  | some message => .error message

section Natives

variable {Others : Type*} (device : SerialStruct Others) (ioctl : IoctlCalls)

def nativeSetBaudBase (baudBase : Int) : Native Bool × SerialStruct Others :=
  let fail := (⟨true, throwJavaException "nativeSetBaudBase" ioctl.strerror⟩, device)
  if !ioctl.tiocgserial then fail
  else
    let sstruct := { device with baudBase }
    if sstruct.baudBase < 1 ∨ ioctl.tiocsserial = false then fail
    else (⟨false, none⟩, sstruct)

def nativeGetBaudBase : Native Int :=
  if !ioctl.tiocgserial then ⟨-1, throwJavaException "nativeGetBaudBase" ioctl.strerror⟩
  else ⟨device.baudBase, none⟩

/-- Nothing is done with the divisor that is given. -/
def nativeSetDivisor (_divisor : Int) : Native Bool × SerialStruct Others :=
  let fail := (⟨true, throwJavaException "nativeSetDivisor" ioctl.strerror⟩, device)
  if !ioctl.tiocgserial then fail
  else
    let sstruct := device
    if sstruct.customDivisor < 1 ∨ ioctl.tiocsserial = false then fail
    else (⟨false, none⟩, sstruct)

def nativeGetDivisor : Native Int :=
  if !ioctl.tiocgserial then ⟨-1, throwJavaException "nativeGetDivisor" ioctl.strerror⟩
  else ⟨device.customDivisor, none⟩

/-! ## The methods of `RXTXPort` -/

def setBaudBase (baudBase : Int) : Except String Bool × SerialStruct Others :=
  let (native, device) := nativeSetBaudBase device ioctl baudBase
  (native.result, device)

def getBaudBase : Except String Int :=
  (nativeGetBaudBase device ioctl).result

def setDivisor (divisor : Int) : Except String Bool × SerialStruct Others :=
  let (native, device) := nativeSetDivisor device ioctl divisor
  (native.result, device)

def getDivisor : Except String Int :=
  (nativeGetDivisor device ioctl).result

end Natives

/-! ## Sequences of calls -/

inductive Setter where
  | setBaudBase (baudBase : Int)
  | setDivisor (divisor : Int)
  deriving DecidableEq, Repr

/-- A call of a setter, with the outcomes of its system calls. -/
structure Call where
  setter : Setter
  ioctl : IoctlCalls

/-- The argument is at least 1, and the system calls succeed. -/
structure Call.Valid (call : Call) : Prop where
  positive : match call.setter with
    | .setBaudBase baudBase => 1 ≤ baudBase
    | .setDivisor divisor => 1 ≤ divisor
  succeed : call.ioctl.Succeed

def Setter.baudBase? : Setter → Option Int
  | .setBaudBase baudBase => some baudBase
  | .setDivisor _ => none

def Setter.divisor? : Setter → Option Int
  | .setBaudBase _ => none
  | .setDivisor divisor => some divisor

/-- The last value given to `setBaudBase`. -/
def lastBaudBase (calls : List Call) : Option Int :=
  (calls.filterMap fun call => call.setter.baudBase?).getLast?

/-- The last value given to `setDivisor`. -/
def lastDivisor (calls : List Call) : Option Int :=
  (calls.filterMap fun call => call.setter.divisor?).getLast?

section Runs

variable {Others : Type*}

def Call.perform (call : Call) (device : SerialStruct Others) :
    Except String Bool × SerialStruct Others :=
  match call.setter with
  | .setBaudBase baudBase => setBaudBase device call.ioctl baudBase
  | .setDivisor divisor => setDivisor device call.ioctl divisor

/-- The device after the calls. -/
def run (device : SerialStruct Others) (calls : List Call) : SerialStruct Others :=
  calls.foldl (fun device call => (call.perform device).2) device

/-- The `@return true on success` of `setBaudBase`.  The documentation of `setDivisor` only
speaks of its exceptions. -/
def Call.ReportsSuccess (call : Call) (result : Except String Bool) : Prop :=
  match call.setter with
  | .setBaudBase _ => result = .ok true
  | .setDivisor _ => ∃ value, result = .ok value

/-- What the getter of the other setting returns stays the same. -/
def Call.KeepsOther (call : Call) (device : SerialStruct Others) : Prop :=
  ∀ ioctl, match call.setter with
    | .setBaudBase _ => getDivisor (call.perform device).2 ioctl = getDivisor device ioctl
    | .setDivisor _ => getBaudBase (call.perform device).2 ioctl = getBaudBase device ioctl

/-- Something holds of each call, with the device it is made on. -/
def Each (holds : Call → SerialStruct Others → Prop) : SerialStruct Others → List Call → Prop
  | _, [] => True
  | device, call :: calls => holds call device ∧ Each holds (call.perform device).2 calls

/-- The calls report success, the getters return the last values, or what they were, and the
two settings are independent. -/
structure ReadsBack (device : SerialStruct Others) (calls : List Call) : Prop where
  reports : Each (fun call device => call.ReportsSuccess (call.perform device).1) device calls
  baudBase : ∀ ioctl : IoctlCalls, ioctl.Succeed →
    getBaudBase (run device calls) ioctl = .ok ((lastBaudBase calls).getD device.baudBase)
  divisor : ∀ ioctl : IoctlCalls, ioctl.Succeed →
    getDivisor (run device calls) ioctl = .ok ((lastDivisor calls).getD device.customDivisor)
  independent : Each Call.KeepsOther device calls

/-! ## What the calls do -/

variable {device : SerialStruct Others} {ioctl : IoctlCalls} {call : Call} {calls : List Call}

theorem getBaudBase_eq (succeed : ioctl.Succeed) :
    getBaudBase device ioctl = .ok device.baudBase := by
  simp [getBaudBase, nativeGetBaudBase, Native.result, succeed.1]

theorem getDivisor_eq (succeed : ioctl.Succeed) :
    getDivisor device ioctl = .ok device.customDivisor := by
  simp [getDivisor, nativeGetDivisor, Native.result, succeed.1]

theorem setBaudBase_eq {baudBase : Int} (succeed : ioctl.Succeed) (positive : 1 ≤ baudBase) :
    setBaudBase device ioctl baudBase = (.ok false, { device with baudBase }) := by
  simp [setBaudBase, nativeSetBaudBase, Native.result, succeed.1, succeed.2,
    Int.not_lt.mpr positive]

/-- The device is what it was, whether the call fails or not. -/
theorem setDivisor_eq (divisor : Int) (succeed : ioctl.Succeed) :
    setDivisor device ioctl divisor =
      (if 1 ≤ device.customDivisor then .ok false
        else (Native.mk true (throwJavaException "nativeSetDivisor" ioctl.strerror)).result,
        device) := by
  rcases Int.lt_or_le device.customDivisor 1 with small | positive
  · simp [setDivisor, nativeSetDivisor, succeed.1, small, Int.not_le.mpr small]
  · simp [setDivisor, nativeSetDivisor, Native.result, succeed.1, succeed.2, positive,
      Int.not_lt.mpr positive]

/-- `nativeSetBaudBase` returns 0 where it succeeds, which is `false`. -/
theorem Call.perform_baudBase {baudBase : Int} (valid : call.Valid)
    (setter : call.setter = .setBaudBase baudBase) :
    call.perform device = (.ok false, { device with baudBase }) := by
  have positive := valid.positive
  simp only [setter] at positive
  simp only [Call.perform, setter, setBaudBase_eq valid.succeed positive]

theorem Call.perform_divisor {divisor : Int} (valid : call.Valid)
    (setter : call.setter = .setDivisor divisor) (device : SerialStruct Others) :
    (call.perform device).2 = device ∧
      ((call.perform device).1 = .ok false ↔ 1 ≤ device.customDivisor) ∧
      (call.perform device).1 ≠ .ok true := by
  simp only [Call.perform, setter, setDivisor_eq divisor valid.succeed]
  split_ifs with positive
  · simp [positive]
  · simp [positive, Native.result, throwJavaException]

theorem Call.customDivisor_perform (valid : call.Valid) (device : SerialStruct Others) :
    (call.perform device).2.customDivisor = device.customDivisor := by
  cases setter : call.setter with
  | setBaudBase baudBase => rw [Call.perform_baudBase valid setter]
  | setDivisor divisor => rw [(Call.perform_divisor valid setter device).1]

theorem Call.baudBase_perform (valid : call.Valid) (device : SerialStruct Others) :
    (call.perform device).2.baudBase = call.setter.baudBase?.getD device.baudBase := by
  cases setter : call.setter with
  | setBaudBase baudBase => rw [Call.perform_baudBase valid setter]; rfl
  | setDivisor divisor => rw [(Call.perform_divisor valid setter device).1]; rfl

/-- No setter touches the setting of the other. -/
theorem Call.keepsOther (valid : call.Valid) (device : SerialStruct Others) :
    call.KeepsOther device := by
  intro ioctl
  cases setter : call.setter with
  | setBaudBase baudBase =>
      simp only [getDivisor, nativeGetDivisor, Call.customDivisor_perform valid]
  | setDivisor divisor => rw [(Call.perform_divisor valid setter device).1]

/-! ## What sequences of calls do -/

theorem Each.of_forall {holds : Call → SerialStruct Others → Prop}
    (all : ∀ call ∈ calls, ∀ device, holds call device) : Each holds device calls := by
  induction calls generalizing device with
  | nil => trivial
  | cons call calls ih =>
      obtain ⟨first, rest⟩ := List.forall_mem_cons.mp all
      exact ⟨first device, ih rest⟩

theorem lastBaudBase_cons (call : Call) (calls : List Call) :
    lastBaudBase (call :: calls) = (lastBaudBase calls).or call.setter.baudBase? := by
  rw [lastBaudBase, List.filterMap_cons]
  cases call.setter.baudBase? with
  | none => simp [lastBaudBase]
  | some baudBase =>
      simp only [lastBaudBase, List.getLast?_cons]
      cases (calls.filterMap fun call => call.setter.baudBase?).getLast? <;> rfl

variable (valid : ∀ call ∈ calls, call.Valid)
include valid

theorem customDivisor_run (device : SerialStruct Others) :
    (run device calls).customDivisor = device.customDivisor := by
  induction calls generalizing device with
  | nil => rfl
  | cons call calls ih =>
      obtain ⟨first, rest⟩ := List.forall_mem_cons.mp valid
      exact (ih rest _).trans (Call.customDivisor_perform first device)

theorem baudBase_run (device : SerialStruct Others) :
    (run device calls).baudBase = (lastBaudBase calls).getD device.baudBase := by
  induction calls generalizing device with
  | nil => rfl
  | cons call calls ih =>
      obtain ⟨first, rest⟩ := List.forall_mem_cons.mp valid
      rw [lastBaudBase_cons, Option.getD_or, ← Call.baudBase_perform first device]
      exact ih rest _

/-- Success is reported exactly by `setDivisor` on a device that has a divisor. -/
theorem reports_iff :
    Each (fun call device => call.ReportsSuccess (call.perform device).1) device calls ↔
      ∀ call ∈ calls, call.setter.baudBase? = none ∧ 1 ≤ device.customDivisor := by
  induction calls generalizing device with
  | nil => simp [Each]
  | cons call calls ih =>
      obtain ⟨first, rest⟩ := List.forall_mem_cons.mp valid
      rw [Each, ih rest, List.forall_mem_cons, Call.customDivisor_perform first]
      apply and_congr_left
      intro _
      cases setter : call.setter with
      | setBaudBase baudBase =>
          simp [Call.ReportsSuccess, setter, Call.perform_baudBase first setter, Setter.baudBase?]
      | setDivisor divisor =>
          have ⟨_, reported, notTrue⟩ := Call.perform_divisor first setter device
          simp only [Call.ReportsSuccess, setter, Setter.baudBase?, true_and, ← reported]
          constructor
          · rintro ⟨value, result⟩
            cases value with
            | false => exact result
            | true => exact absurd result notTrue
          · exact fun result => ⟨false, result⟩

/-- What the getters return after the calls: `setDivisor` has changed nothing. -/
theorem getters_run (device : SerialStruct Others) {ioctl : IoctlCalls}
    (succeed : ioctl.Succeed) :
    getBaudBase (run device calls) ioctl = .ok ((lastBaudBase calls).getD device.baudBase) ∧
      getDivisor (run device calls) ioctl = .ok device.customDivisor := by
  rw [getBaudBase_eq succeed, getDivisor_eq succeed, baudBase_run valid, customDivisor_run valid]
  exact ⟨rfl, rfl⟩

/-- The divisor that is read back is the last one given if the device has had it before. -/
theorem divisor_reads_back_iff :
    (∀ ioctl : IoctlCalls, ioctl.Succeed →
      getDivisor (run device calls) ioctl =
        .ok ((lastDivisor calls).getD device.customDivisor)) ↔
      ∀ divisor, lastDivisor calls = some divisor → divisor = device.customDivisor := by
  constructor
  · intro readsBack divisor last
    have succeed : (IoctlCalls.mk true true "").Succeed := ⟨rfl, rfl⟩
    have same := readsBack _ succeed
    rw [(getters_run valid device succeed).2, last] at same
    exact (Except.ok.inj same).symm
  · intro had ioctl succeed
    rw [(getters_run valid device succeed).2]
    cases last : lastDivisor calls with
    | none => rfl
    | some divisor => rw [had divisor last]; rfl

/-- A device that has the last divisor given to it has a divisor. -/
theorem customDivisor_positive (had : ∀ divisor, lastDivisor calls = some divisor →
    divisor = device.customDivisor) (member : call ∈ calls)
    (setter : call.setter.baudBase? = none) : 1 ≤ device.customDivisor := by
  have given : (calls.filterMap fun call => call.setter.divisor?) ≠ [] := by
    rw [Ne, List.filterMap_eq_nil_iff]
    intro none
    have none := none call member
    cases same : call.setter with
    | setBaudBase => simp [same, Setter.baudBase?] at setter
    | setDivisor => simp [same, Setter.divisor?] at none
  have last : lastDivisor calls = some (List.getLast _ given) :=
    List.getLast?_eq_some_getLast given
  obtain ⟨giver, member, divisor⟩ := List.mem_filterMap.mp (List.getLast_mem given)
  rw [had _ last] at divisor
  have positive := (valid giver member).positive
  cases same : giver.setter with
  | setBaudBase => simp [same, Setter.divisor?] at divisor
  | setDivisor value =>
      simp only [same, Setter.divisor?, Option.some.injEq] at divisor positive
      exact divisor ▸ positive

/-- The settings read back and success is reported exactly for calls of `setDivisor` that end
with what the device has had before.  In fact no call returns `true`; the baud base always
reads back, the divisor is never set, and each setter leaves the setting of the other. -/
theorem readsBack_iff (device : SerialStruct Others) :
    (ReadsBack device calls ↔
      (∀ call ∈ calls, call.setter.baudBase? = none) ∧
        ∀ divisor, lastDivisor calls = some divisor → divisor = device.customDivisor) ∧
      Each (fun call device => (call.perform device).1 ≠ .ok true) device calls ∧
      (∀ ioctl : IoctlCalls, ioctl.Succeed →
        getBaudBase (run device calls) ioctl = .ok ((lastBaudBase calls).getD device.baudBase) ∧
          getDivisor (run device calls) ioctl = .ok device.customDivisor) ∧
      Each Call.KeepsOther device calls := by
  have independent : Each Call.KeepsOther device calls :=
    .of_forall fun call member device => Call.keepsOther (valid call member) device
  have notTrue : Each (fun call device => (call.perform device).1 ≠ .ok true) device calls := by
    refine .of_forall fun call member device => ?_
    cases setter : call.setter with
    | setBaudBase => simp [Call.perform_baudBase (valid call member) setter]
    | setDivisor => exact (Call.perform_divisor (valid call member) setter device).2.2
  refine ⟨⟨?_, ?_⟩, notTrue, fun ioctl succeed => getters_run valid device succeed, independent⟩
  · intro holds
    have reports := (reports_iff valid).mp holds.reports
    exact ⟨fun call member => (reports call member).1,
      (divisor_reads_back_iff valid).mp holds.divisor⟩
  · rintro ⟨only, had⟩
    have reports : ∀ call ∈ calls, call.setter.baudBase? = none ∧ 1 ≤ device.customDivisor :=
      fun call member =>
        ⟨only call member, customDivisor_positive valid had member (only call member)⟩
    exact
      { reports := (reports_iff valid).mpr reports
        baudBase := fun ioctl succeed => (getters_run valid device succeed).1
        divisor := (divisor_reads_back_iff valid).mpr had
        independent }

end Runs

/-- Two calls of `setDivisor`, the last with 4 -/
def setsDivisor : List Call :=
  [⟨.setDivisor 7, ⟨true, true, "Success"⟩⟩, ⟨.setDivisor 4, ⟨true, true, "Success"⟩⟩]

/-- The divisor of the device has been 4 before. -/
theorem readsBack_iff_setsDivisor :
    ReadsBack (⟨115200, 4, ()⟩ : SerialStruct Unit) setsDivisor := by
  have valid : ∀ call ∈ setsDivisor, call.Valid := by
    intro call member
    rcases List.mem_pair.mp member with rfl | rfl <;> exact ⟨by decide, rfl, rfl⟩
  exact (readsBack_iff valid _).1.mpr ⟨by decide, by decide⟩

/-- `setBaudBase` returns `false`, and `setDivisor` does not set a divisor. -/
theorem not_readsBack_setters :
    ¬ ReadsBack (⟨115200, 1, ()⟩ : SerialStruct Unit)
        [⟨.setBaudBase 38400, ⟨true, true, "Success"⟩⟩] ∧
      ¬ ReadsBack (⟨115200, 1, ()⟩ : SerialStruct Unit)
        [⟨.setDivisor 3, ⟨true, true, "Success"⟩⟩] := by
  constructor
  · intro holds
    have reported : (.ok false : Except String Bool) = .ok true := holds.reports.1
    exact absurd reported (by decide)
  · intro holds
    have readsBack : (.ok 1 : Except String Int) = .ok 3 :=
      holds.divisor ⟨true, true, "Success"⟩ ⟨rfl, rfl⟩
    exact absurd readsBack (by decide)

end Jrxtx.SerialImp.BaudBase
