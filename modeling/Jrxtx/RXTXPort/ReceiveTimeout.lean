import Jrxtx.Transition.System
import Mathlib.Data.BitVec
import Mathlib.Data.Int.Init

/-!
# The receive timeout and threshold

`RXTXPort` keeps a timeout and a threshold and hands both to
`NativeEnableReceiveTimeoutThreshold`, which stores them in two control
characters of the terminal.  The timeout is read back from there.
-/

namespace Jrxtx.RXTXPort

open Jrxtx.Transition

/-- The entries `VMIN` and `VTIME` of `c_cc`, of type `cc_t`. -/
structure ControlChars where
  vmin : BitVec 8
  vtime : BitVec 8
  deriving DecidableEq, Repr

/-- The fields `timeout` and `threshold` of the port, and the device behind `fd`. -/
structure ReceivePort where
  timeout : Int
  threshold : Int
  device : ControlChars
  deriving DecidableEq, Repr

/-- Which of the system calls succeed. -/
structure AttrCalls where
  tcgetattr : Bool
  tcsetattr : Bool
  deriving DecidableEq, Repr

/-- What a call throws. -/
inductive ReceiveException where
  | illegalArgument (message : String)
  | io (method : String)
  deriving DecidableEq, Repr

/-- The local variable `timeout` of `NativeEnableReceiveTimeoutThreshold`. -/
def nativeTimeout (vtime : Int) : Int :=
  if vtime < 0 then 0
  else if vtime = 0 then 1
  else vtime

/-- The assignments to `c_cc`, which keep the low 8 bits. -/
def writeControlChars (vtime threshold : Int) : ControlChars where
  vmin := BitVec.ofInt 8 threshold
  vtime := BitVec.ofInt 8 (nativeTimeout vtime / 100)

/-- `NativeEnableReceiveTimeoutThreshold` -/
def nativeEnableReceiveTimeoutThreshold (calls : AttrCalls) (vtime threshold : Int)
    (device : ControlChars) : ControlChars × Option ReceiveException :=
  if !calls.tcgetattr then (device, some (.io "TimeoutThreshold"))
  else if !calls.tcsetattr then (device, some (.io "TimeoutThreshold"))
  else (writeControlChars vtime threshold, none)

/-- `NativegetReceiveTimeout` -/
def nativegetReceiveTimeout (tcgetattr : Bool) (device : ControlChars) :
    Except ReceiveException Int :=
  if tcgetattr then .ok (device.vtime.toNat * 100) else .error (.io "getReceiveTimeout")

/-- `NativeisReceiveTimeoutEnabled` -/
def nativeisReceiveTimeoutEnabled (tcgetattr : Bool) (device : ControlChars) :
    Except ReceiveException Bool :=
  if tcgetattr then .ok (0 < device.vtime.toNat) else .error (.io "isReceiveTimeoutEnabled")

/-- A call that sets the timeout or the threshold. -/
inductive ReceiveCall where
  | enableReceiveTimeout (time : Int)
  | disableReceiveTimeout
  | enableReceiveThreshold (thresh : Int)
  | disableReceiveThreshold
  deriving DecidableEq, Repr

namespace ReceivePort

/-- A port that has just been opened: `configure_port` has cleared both entries. -/
def opened : ReceivePort where
  timeout := -1
  threshold := 0
  device := ⟨0, 0⟩

variable (port : ReceivePort) (calls : AttrCalls)

/-- The call of the native method with the fields as they are. -/
def enableNative : ReceivePort × Option ReceiveException :=
  let written :=
    nativeEnableReceiveTimeoutThreshold calls port.timeout port.threshold port.device
  ({ port with device := written.1 }, written.2)

def enableReceiveTimeout (time : Int) : ReceivePort × Option ReceiveException :=
  if 0 ≤ time then enableNative { port with timeout := time } calls
  else (port, some (.illegalArgument "Unexpected negative timeout value"))

def disableReceiveTimeout : ReceivePort × Option ReceiveException :=
  enableNative { port with timeout := -1 } calls

def enableReceiveThreshold (thresh : Int) : ReceivePort × Option ReceiveException :=
  if 0 ≤ thresh then enableNative { port with threshold := thresh } calls
  else (port, some (.illegalArgument "Unexpected negative threshold value"))

def disableReceiveThreshold : ReceivePort × Option ReceiveException :=
  port.enableReceiveThreshold calls 0

def call : ReceiveCall → ReceivePort × Option ReceiveException
  | .enableReceiveTimeout time => port.enableReceiveTimeout calls time
  | .disableReceiveTimeout => port.disableReceiveTimeout calls
  | .enableReceiveThreshold thresh => port.enableReceiveThreshold calls thresh
  | .disableReceiveThreshold => port.disableReceiveThreshold calls

def getReceiveTimeout (tcgetattr : Bool) : Except ReceiveException Int :=
  nativegetReceiveTimeout tcgetattr port.device

def isReceiveTimeoutEnabled (tcgetattr : Bool) : Except ReceiveException Bool :=
  nativeisReceiveTimeoutEnabled tcgetattr port.device

def getReceiveThreshold : Int := port.threshold

end ReceivePort

/-- Calls that return normally, each with the outcomes of its system calls. -/
def receive : System ReceivePort (ReceiveCall × AttrCalls) where
  start port := port = .opened
  step port label :=
    match port.call label.2 label.1 with
    | (next, none) => some next
    | (_, some _) => none

/-! ## What has been asked for -/

/-- The timeout after a call: `none` if it is disabled. -/
def timeoutAfter (timeout : Option Int) : ReceiveCall → Option Int
  | .enableReceiveTimeout time => some time
  | .disableReceiveTimeout => none
  | .enableReceiveThreshold _ => timeout
  | .disableReceiveThreshold => timeout

/-- The threshold after a call. -/
def thresholdAfter (threshold : Int) : ReceiveCall → Int
  | .enableReceiveTimeout _ => threshold
  | .disableReceiveTimeout => threshold
  | .enableReceiveThreshold thresh => thresh
  | .disableReceiveThreshold => 0

/-- The timeout that the last of the timeout calls has asked for. -/
def requestedTimeout (calls : List (ReceiveCall × AttrCalls)) : Option Int :=
  calls.foldl (fun timeout label => timeoutAfter timeout label.1) none

/-- The threshold that the last of the threshold calls has asked for. -/
def requestedThreshold (calls : List (ReceiveCall × AttrCalls)) : Int :=
  calls.foldl (fun threshold label => thresholdAfter threshold label.1) 0

/-- A timeout in tenths of a second, 0 if it is disabled. -/
def tenths : Option Int → Int
  | none => 0
  | some time => time / 100

/-- The port stands for `timeout` and `threshold`: the timeout is read back and the control
characters encode both. -/
structure Holds (timeout : Option Int) (threshold : Int) (port : ReceivePort) : Prop where
  enabled : timeout.isSome → port.isReceiveTimeoutEnabled true = .ok true
  readBack : ∀ time, timeout = some time → port.getReceiveTimeout true = .ok (time / 100 * 100)
  vtime : (port.device.vtime.toNat : Int) = tenths timeout
  vmin : (port.device.vmin.toNat : Int) = threshold

/-- The next call leaves the setting that it is not about. -/
structure KeepsOther (port : ReceivePort) (call : ReceiveCall) (next : ReceivePort) : Prop where
  timeout : (∀ timeout, timeoutAfter timeout call = timeout) →
    next.getReceiveTimeout true = port.getReceiveTimeout true ∧
      next.isReceiveTimeoutEnabled true = port.isReceiveTimeoutEnabled true
  threshold : (∀ threshold, thresholdAfter threshold call = threshold) →
    next.getReceiveThreshold = port.getReceiveThreshold ∧ next.device.vmin = port.device.vmin

/-- The requested settings fit into the control characters, and the timeout is at least one
tenth of a second. -/
structure Encodable (timeout : Option Int) (threshold : Int) : Prop where
  timeout : ∀ time, timeout = some time → 100 ≤ time ∧ time < 25600
  threshold : threshold < 256

/-! ## Runs -/

/-- The fields stand for the requests, and the device has been written from them. -/
structure Recorded (asked : Option Int) (thresh : Int) (port : ReceivePort) : Prop where
  timeout : port.timeout = asked.getD (-1)
  notNegative : ∀ time, asked = some time → 0 ≤ time
  threshold : port.threshold = thresh
  thresholdNotNegative : 0 ≤ thresh
  device : port.device = writeControlChars port.timeout port.threshold

section Steps

variable {port next : ReceivePort} {calls : AttrCalls} {call : ReceiveCall}
  {timeout : Option Int} {threshold : Int}

/-- A call of the native method that returns normally. -/
theorem enableNative_returned (returned : port.enableNative calls = (next, none)) :
    next = { port with device := writeControlChars port.timeout port.threshold } := by
  unfold ReceivePort.enableNative nativeEnableReceiveTimeoutThreshold at returned
  cases gets : calls.tcgetattr with
  | false => simp [gets] at returned
  | true =>
      cases sets : calls.tcsetattr with
      | false => simp [gets, sets] at returned
      | true =>
          simp only [gets, sets, Bool.not_true, Bool.false_eq_true, if_false, Prod.mk.injEq,
            and_true] at returned
          exact returned.symm

/-- The port after a call that returns normally. -/
theorem step_spec (recorded : Recorded timeout threshold port)
    (stepped : receive.step port (call, calls) = some next) :
    Recorded (timeoutAfter timeout call) (thresholdAfter threshold call) next := by
  have returned : port.call calls call = (next, none) := by
    simp only [receive] at stepped
    cases result : port.call calls call with
    | mk after thrown =>
        cases thrown with
        | none =>
            simp only [result, Option.some.injEq] at stepped
            rw [stepped]
        | some thrown => simp [result] at stepped
  have enableThreshold : ∀ thresh, port.enableReceiveThreshold calls thresh = (next, none) →
      Recorded timeout thresh next := by
    intro thresh returned
    unfold ReceivePort.enableReceiveThreshold at returned
    split at returned
    next valid =>
      rw [enableNative_returned returned]
      exact ⟨recorded.timeout, recorded.notNegative, rfl, valid, rfl⟩
    next => simp at returned
  cases call with
  | enableReceiveTimeout time =>
      simp only [ReceivePort.call, ReceivePort.enableReceiveTimeout] at returned
      split at returned
      next valid =>
        rw [enableNative_returned returned]
        refine ⟨rfl, ?_, recorded.threshold, recorded.thresholdNotNegative, rfl⟩
        intro asked isAsked
        exact Option.some.inj isAsked ▸ valid
      next => simp at returned
  | disableReceiveTimeout =>
      simp only [ReceivePort.call, ReceivePort.disableReceiveTimeout] at returned
      rw [enableNative_returned returned]
      exact ⟨rfl, nofun, recorded.threshold, recorded.thresholdNotNegative, rfl⟩
  | enableReceiveThreshold thresh => exact enableThreshold thresh returned
  | disableReceiveThreshold => exact enableThreshold 0 returned

theorem run_recorded {labels : List (ReceiveCall × AttrCalls)}
    (recorded : Recorded timeout threshold port)
    (ran : receive.run port labels = some next) :
    Recorded (labels.foldl (fun timeout label => timeoutAfter timeout label.1) timeout)
      (labels.foldl (fun threshold label => thresholdAfter threshold label.1) threshold) next := by
  induction labels generalizing port timeout threshold with
  | nil =>
      simp only [System.run, Option.some.injEq] at ran
      exact ran ▸ recorded
  | cons label labels ih =>
      obtain ⟨after, stepped, ran⟩ := System.run_cons.mp ran
      exact ih (step_spec recorded stepped) ran

theorem Recorded.opened : Recorded none 0 .opened where
  timeout := rfl
  notNegative := nofun
  threshold := rfl
  thresholdNotNegative := Int.le_refl 0
  device := by decide

/-- What `VTIME` holds. -/
theorem Recorded.vtime (recorded : Recorded timeout threshold port) :
    (port.device.vtime.toNat : Int) = nativeTimeout (timeout.getD (-1)) / 100 % 256 := by
  rw [recorded.device, recorded.timeout, writeControlChars, BitVec.toNat_ofInt,
    Int.toNat_of_nonneg (Int.emod_nonneg _ (by decide))]
  rfl

/-- What `VMIN` holds. -/
theorem Recorded.vmin (recorded : Recorded timeout threshold port) :
    (port.device.vmin.toNat : Int) = threshold % 256 := by
  rw [recorded.device, recorded.threshold, writeControlChars, BitVec.toNat_ofInt,
    Int.toNat_of_nonneg (Int.emod_nonneg _ (by decide))]
  rfl

/-- A timeout is enabled and read back exactly if it fits. -/
theorem Recorded.timeout_iff {time : Int} (recorded : Recorded (some time) threshold port) :
    (port.isReceiveTimeoutEnabled true = .ok true ∧
      port.getReceiveTimeout true = .ok (time / 100 * 100)) ↔ 100 ≤ time ∧ time < 25600 := by
  have vtime := recorded.vtime
  have notNegative := recorded.notNegative time rfl
  simp only [ReceivePort.isReceiveTimeoutEnabled, nativeisReceiveTimeoutEnabled, if_true,
    ReceivePort.getReceiveTimeout, nativegetReceiveTimeout, Except.ok.injEq, decide_eq_true_iff]
  simp only [Option.getD_some, nativeTimeout] at vtime
  grind

theorem Recorded.holds_iff (recorded : Recorded timeout threshold port) :
    Holds timeout threshold port ↔ Encodable timeout threshold := by
  have vmin := recorded.vmin
  have thresholdNotNegative := recorded.thresholdNotNegative
  constructor
  · intro holds
    constructor
    · intro time isTime
      subst isTime
      exact recorded.timeout_iff.mp ⟨holds.enabled rfl, holds.readBack time rfl⟩
    · have encoded := holds.vmin
      omega
  · intro encodable
    have vtime := recorded.vtime
    have fits := encodable.threshold
    refine ⟨?_, ?_, ?_, by omega⟩
    · intro asked
      obtain ⟨time, rfl⟩ := Option.isSome_iff_exists.mp asked
      exact (recorded.timeout_iff.mpr (encodable.timeout time rfl)).1
    · intro time isTime
      subst isTime
      exact (recorded.timeout_iff.mpr (encodable.timeout time rfl)).2
    · cases timeout with
      | none => exact vtime
      | some time =>
          have range := encodable.timeout time rfl
          simp only [Option.getD_some, nativeTimeout] at vtime
          simp only [tenths]
          grind

/-- Neither setting is touched by a call for the other one. -/
theorem Recorded.keepsOther (recorded : Recorded timeout threshold port)
    (stepped : receive.step port (call, calls) = some next) : KeepsOther port call next := by
  have after := step_spec recorded stepped
  constructor
  · intro same
    have sameTimeout : next.timeout = port.timeout := by
      rw [after.timeout, recorded.timeout, same]
    have sameDevice : next.device.vtime = port.device.vtime := by
      rw [after.device, recorded.device, writeControlChars, writeControlChars, sameTimeout]
    constructor
    · simp only [ReceivePort.getReceiveTimeout, nativegetReceiveTimeout, sameDevice]
    · simp only [ReceivePort.isReceiveTimeoutEnabled, nativeisReceiveTimeoutEnabled, sameDevice]
  · intro same
    have sameThreshold : next.threshold = port.threshold := by
      rw [after.threshold, recorded.threshold, same]
    refine ⟨sameThreshold, ?_⟩
    rw [after.device, recorded.device, writeControlChars, writeControlChars, sameThreshold]

end Steps

/-! ## The round trip -/

/-- After any sequence of calls that return normally the settings hold if and only if they
can be encoded, and a further call leaves the setting that it is not about. -/
theorem receive_roundTrip_iff (labels : List (ReceiveCall × AttrCalls)) {port : ReceivePort}
    (ran : receive.run .opened labels = some port) :
    (Holds (requestedTimeout labels) (requestedThreshold labels) port ∧
        ∀ call calls next, receive.step port (call, calls) = some next →
          KeepsOther port call next) ↔
      Encodable (requestedTimeout labels) (requestedThreshold labels) := by
  have recorded : Recorded (requestedTimeout labels) (requestedThreshold labels) port :=
    run_recorded .opened ran
  rw [recorded.holds_iff]
  constructor
  · exact And.left
  · intro encodable
    exact ⟨encodable, fun _ _ _ stepped => recorded.keepsOther stepped⟩

/-- All system calls succeed. -/
def succeeding : AttrCalls := ⟨true, true⟩

theorem receive_roundTrip_iff_500 :
    ∃ port, receive.run .opened
        [(.enableReceiveTimeout 500, succeeding), (.enableReceiveThreshold 8, succeeding)] =
          some port ∧
      Holds (some 500) 8 port :=
  ⟨⟨500, 8, ⟨8, 5⟩⟩, by decide,
    ((receive_roundTrip_iff
      [(.enableReceiveTimeout 500, succeeding), (.enableReceiveThreshold 8, succeeding)]
      (by decide)).mpr
      ⟨fun time isTime => Option.some.inj isTime ▸ by decide, by decide⟩).1⟩

/-- A timeout of 50 ms returns normally and leaves the timeout disabled. -/
theorem receiveTimeout_50_disabled :
    ∃ port, receive.run .opened [(.enableReceiveTimeout 50, succeeding)] = some port ∧
      port.isReceiveTimeoutEnabled true = .ok false ∧
      ¬ Holds (requestedTimeout [(.enableReceiveTimeout 50, succeeding)]) 0 port := by
  refine ⟨⟨50, 0, ⟨0, 0⟩⟩, by decide, rfl, ?_⟩
  intro holds
  exact absurd (holds.enabled rfl) (by decide)

end Jrxtx.RXTXPort
