import Jrxtx.JRxTxPort.FlowControlMode
import Jrxtx.RXTXPort.ReceiveTimeout
import Jrxtx.SerialImp.Decoders
import Jrxtx.Transition.ReadModifyWrite

/-!
# Changing the settings from several threads

`nativeSetSerialPortParams`, `setflowcontrol`, `NativeEnableReceiveTimeoutThreshold` and
`nativeSetEndOfInputChar` each read the `struct termios` of the port, change some members and
write it back.  Only `setSerialPortParams` is synchronized.
-/

namespace Jrxtx.SerialImp

open Jrxtx.FlowControlMode (Termios crtscts assign_and_other flowControlMode_withFlowmode)
open Jrxtx.RXTXPort (ControlChars writeControlChars)
open Jrxtx.Transition Jrxtx.Words

/-- The members of a `struct termios` that the calls change. -/
structure SharedTermios where
  cflag : BitVec 32
  iflag : BitVec 32
  speed : Int
  chars : ControlChars
  veof : BitVec 8
  deriving DecidableEq, Repr

/-- Arguments that `set_port_params` does not refuse, and the speed that `cfsetispeed` accepts. -/
structure PortParams where
  speed : Int
  dataBits : Int
  stopBits : Int
  parity : Int
  translated : ∀ cflag, (translateCflag cflag dataBits stopBits parity).isSome

inductive TermiosCall where
  | setPortParams (params : PortParams)
  | setflowcontrol (flowmode : BitVec 32)
  | enableReceiveTimeoutThreshold (vtime threshold : Int)
  | setEndOfInputChar (value : BitVec 8)

/-- What the call makes of the members that it has read. -/
def TermiosCall.change (ttyset : SharedTermios) : TermiosCall → SharedTermios
  | .setPortParams params =>
      { ttyset with
        cflag := (translateCflag ttyset.cflag params.dataBits params.stopBits params.parity).get
          (params.translated ttyset.cflag)
        speed := params.speed }
  | .setflowcontrol flowmode =>
      let changed := Termios.withFlowmode ⟨ttyset.cflag, ttyset.iflag⟩ flowmode
      { ttyset with cflag := changed.cflag, iflag := changed.iflag }
  | .enableReceiveTimeoutThreshold vtime threshold =>
      { ttyset with chars := writeControlChars vtime threshold }
  | .setEndOfInputChar value => { ttyset with veof := value }

/-- The format as `set_java_vars` reads it. -/
def formatRead (cflag : BitVec 32) : FrameFormat :=
  setJavaVars ⟨cflag, 0, 0, 0, false⟩

/-- The format and the speed that are read. -/
def SharedTermios.params (ttyset : SharedTermios) : FrameFormat × Int :=
  (formatRead ttyset.cflag, ttyset.speed)

/-- `nativeGetFlowControlMode` -/
def SharedTermios.flowmode (ttyset : SharedTermios) : BitVec 32 :=
  Termios.flowControlMode ⟨ttyset.cflag, ttyset.iflag⟩

namespace TermiosCall

/-- The format and the speed that a call sets. -/
def params : TermiosCall → Option (FrameFormat × Int)
  | .setPortParams params =>
      some (formatOf params.dataBits params.stopBits params.parity, params.speed)
  | _ => none

/-- The mode that a call sets: RTS and CTS go together. -/
def flowmode : TermiosCall → Option (BitVec 32)
  | .setflowcontrol flowmode =>
      some (Termios.flowControlMode (Termios.withFlowmode ⟨0, 0⟩ flowmode))
  | _ => none

/-- The control characters of the timeout and the threshold that a call sets. -/
def chars : TermiosCall → Option ControlChars
  | .enableReceiveTimeoutThreshold vtime threshold => some (writeControlChars vtime threshold)
  | _ => none

def veof : TermiosCall → Option (BitVec 8)
  | .setEndOfInputChar value => some value
  | _ => none

/-- The settings that the call does not set read the same. -/
structure SameOthers (call : TermiosCall) (ttyset memory : SharedTermios) : Prop where
  params : call.params = none → ttyset.params = memory.params
  flowmode : call.flowmode = none → ttyset.flowmode = memory.flowmode
  chars : call.chars = none → ttyset.chars = memory.chars
  veof : call.veof = none → ttyset.veof = memory.veof

end TermiosCall

/-- A setting, and what is read for it. -/
inductive Setting where
  | params
  | flowmode
  | chars
  | veof

inductive SettingValue where
  | params (params : FrameFormat × Int)
  | flowmode (flowmode : BitVec 32)
  | chars (chars : ControlChars)
  | veof (veof : BitVec 8)

def SharedTermios.read (ttyset : SharedTermios) : Setting → SettingValue
  | .params => .params ttyset.params
  | .flowmode => .flowmode ttyset.flowmode
  | .chars => .chars ttyset.chars
  | .veof => .veof ttyset.veof

/-- The value that a call sets a setting to. -/
def TermiosCall.asks (call : TermiosCall) : Setting → Option SettingValue
  | .params => call.params.map .params
  | .flowmode => call.flowmode.map .flowmode
  | .chars => call.chars.map .chars
  | .veof => call.veof.map .veof

section Settings

variable {cflag changed : BitVec 32} {dataBits stopBits parity : Int}

theorem part_congr {part : BitVec 32} (within : formatMask &&& part = part)
    (same : changed &&& formatMask = cflag &&& formatMask) : changed &&& part = cflag &&& part := by
  rw [and_part within, same, ← and_part within]

/-- The format is read off its bits. -/
theorem formatRead_congr (same : changed &&& formatMask = cflag &&& formatMask) :
    formatRead changed = formatRead cflag := by
  have size := part_congr (show formatMask &&& csize = csize by decide) same
  have stop := part_congr (show formatMask &&& cstopb = cstopb by decide) same
  have bits := part_congr (show formatMask &&& (parenb ||| parodd ||| cmspar) = _ by decide) same
  simp only [formatRead, setJavaVars, Device.dataBits, Device.stopBits, Device.parity, size, stop,
    bits]

theorem formatRead_translated
    (translated : translateCflag cflag dataBits stopBits parity = some changed) :
    formatRead changed = formatOf dataBits stopBits parity := by
  have onDevice : translateCflag cflag dataBits stopBits parity =
      some (Device.cflag ⟨changed, 0, 0, 0, false⟩) := translated
  have read := read_translated onDevice
  rw [formatRead, setJavaVars, read.1, read.2.1, read.2.2, formatOf]

theorem flowControlMode_congr {iflag : BitVec 32}
    (same : changed &&& crtscts = cflag &&& crtscts) :
    Termios.flowControlMode ⟨changed, iflag⟩ = Termios.flowControlMode ⟨cflag, iflag⟩ := by
  rw [Termios.flowControlMode, Termios.flowControlMode, same]

/-- What is read after a call is what it sets, and for what it does not set what it has read. -/
theorem params_change (call : TermiosCall) (ttyset : SharedTermios) :
    (call.change ttyset).params = call.params.getD ttyset.params := by
  cases call with
  | setPortParams params =>
      have translated := (Option.some_get (params.translated ttyset.cflag)).symm
      exact congrArg (·, params.speed) (formatRead_translated translated)
  | setflowcontrol flowmode =>
      have kept : (Termios.withFlowmode ⟨ttyset.cflag, ttyset.iflag⟩ flowmode).cflag &&&
          formatMask = ttyset.cflag &&& formatMask := assign_and_other (by decide)
      exact congrArg (·, ttyset.speed) (formatRead_congr kept)
  | enableReceiveTimeoutThreshold | setEndOfInputChar => rfl

theorem flowmode_change (call : TermiosCall) (ttyset : SharedTermios) :
    (call.change ttyset).flowmode = call.flowmode.getD ttyset.flowmode := by
  cases call with
  | setPortParams params =>
      have translated := (Option.some_get (params.translated ttyset.cflag)).symm
      have within : ~~~formatMask &&& crtscts = crtscts := by decide
      refine flowControlMode_congr ?_
      exact (and_part within).trans
        ((congrArg (· &&& crtscts) (translateCflag_outside translated)).trans
          (and_part within).symm)
  | setflowcontrol flowmode =>
      exact (flowControlMode_withFlowmode ⟨ttyset.cflag, ttyset.iflag⟩ flowmode).trans
        (flowControlMode_withFlowmode ⟨0, 0⟩ flowmode).symm
  | enableReceiveTimeoutThreshold | setEndOfInputChar => rfl

theorem chars_change (call : TermiosCall) (ttyset : SharedTermios) :
    (call.change ttyset).chars = call.chars.getD ttyset.chars := by
  cases call <;> rfl

theorem veof_change (call : TermiosCall) (ttyset : SharedTermios) :
    (call.change ttyset).veof = call.veof.getD ttyset.veof := by
  cases call <;> rfl

theorem read_change (call : TermiosCall) (ttyset : SharedTermios) (setting : Setting) :
    (call.change ttyset).read setting = (call.asks setting).getD (ttyset.read setting) := by
  cases setting with
  | params =>
      rw [SharedTermios.read, params_change]
      exact (Option.getD_map _ _ _).symm
  | flowmode =>
      rw [SharedTermios.read, flowmode_change]
      exact (Option.getD_map _ _ _).symm
  | chars =>
      rw [SharedTermios.read, chars_change]
      exact (Option.getD_map _ _ _).symm
  | veof =>
      rw [SharedTermios.read, veof_change]
      exact (Option.getD_map _ _ _).symm

/-- The settings of the port as fields that are changed through copies.  After a `tcgetattr` that
fails there is no call of `tcsetattr`. -/
def portSettings : Fields SharedTermios TermiosCall Empty Setting SettingValue where
  read setting ttyset := ttyset.read setting
  asks := TermiosCall.asks
  written _ call ttyset := call.change ttyset
  unread := none
  occur := nofun
  read_asked _ call ttyset setting _ asked := by rw [read_change, asked, Option.getD_some]
  read_other _ call ttyset setting other := by rw [read_change, other, Option.getD_none]
  read_occur := nofun

end Settings

/-! ## Settings that stay as they have been set -/

section Runs

variable {Thread : Type} {initial : SharedTermios}
  {state final : Sharing SharedTermios TermiosCall Thread}
  {labels : List (SharingLabel TermiosCall Empty Thread)}

/-- What the last call that sets it has set. -/
def lastOf {α : Type} (sets : TermiosCall → Option α) (initial : α)
    (done : List TermiosCall) : α :=
  (done.filterMap sets).getLast?.getD initial

/-- Each setting reads as the last call has set it. -/
structure SettingsHold (initial : SharedTermios)
    (state : Sharing SharedTermios TermiosCall Thread) : Prop where
  params : state.memory.params = lastOf TermiosCall.params initial.params state.done
  flowmode : state.memory.flowmode = lastOf TermiosCall.flowmode initial.flowmode state.done
  chars : state.memory.chars = lastOf TermiosCall.chars initial.chars state.done
  veof : state.memory.veof = lastOf TermiosCall.veof initial.veof state.done

/-- `tcsetattr` writes the settings of the other calls as they are. -/
def WritesOtherSettings (state : Sharing SharedTermios TermiosCall Thread) :
    SharingLabel TermiosCall Empty Thread → Prop
  | .write thread true =>
      ∀ call ttyset, state.copies thread = some (call, ttyset) →
        call.SameOthers ttyset state.memory
  | _ => True

theorem lastOf_map {α : Type} (sets : TermiosCall → Option α) (value : α → SettingValue)
    (initial : α) (done : List TermiosCall) :
    (done.filterMap fun call => (sets call).map value).getLast?.getD (value initial) =
      value (lastOf sets initial done) := by
  rw [← List.map_filterMap, List.getLast?_map, Option.getD_map, lastOf]

theorem settingsHold_iff : SettingsHold initial state ↔ portSettings.AsAsked initial state := by
  constructor
  · intro hold setting
    cases setting with
    | params => exact (congrArg _ hold.params).trans (lastOf_map _ _ _ _).symm
    | flowmode => exact (congrArg _ hold.flowmode).trans (lastOf_map _ _ _ _).symm
    | chars => exact (congrArg _ hold.chars).trans (lastOf_map _ _ _ _).symm
    | veof => exact (congrArg _ hold.veof).trans (lastOf_map _ _ _ _).symm
  · intro asAsked
    constructor
    · exact SettingValue.params.inj ((asAsked .params).trans (lastOf_map _ _ _ _))
    · exact SettingValue.flowmode.inj ((asAsked .flowmode).trans (lastOf_map _ _ _ _))
    · exact SettingValue.chars.inj ((asAsked .chars).trans (lastOf_map _ _ _ _))
    · exact SettingValue.veof.inj ((asAsked .veof).trans (lastOf_map _ _ _ _))

theorem settingsHold_eq (initial : SharedTermios) :
    SettingsHold initial = (portSettings.AsAsked initial : Sharing _ _ Thread → Prop) :=
  funext fun _ => propext settingsHold_iff

theorem sameOthers_iff {call : TermiosCall} {ttyset memory : SharedTermios} :
    call.SameOthers ttyset memory ↔ portSettings.UpToDate memory call ttyset := by
  constructor
  · intro same setting other
    cases setting with
    | params => exact congrArg SettingValue.params (same.params (Option.map_eq_none_iff.mp other))
    | flowmode =>
        exact congrArg SettingValue.flowmode (same.flowmode (Option.map_eq_none_iff.mp other))
    | chars => exact congrArg SettingValue.chars (same.chars (Option.map_eq_none_iff.mp other))
    | veof => exact congrArg SettingValue.veof (same.veof (Option.map_eq_none_iff.mp other))
  · intro upToDate
    constructor
    · intro other
      exact SettingValue.params.inj (upToDate .params (Option.map_eq_none_iff.mpr other))
    · intro other
      exact SettingValue.flowmode.inj (upToDate .flowmode (Option.map_eq_none_iff.mpr other))
    · intro other
      exact SettingValue.chars.inj (upToDate .chars (Option.map_eq_none_iff.mpr other))
    · intro other
      exact SettingValue.veof.inj (upToDate .veof (Option.map_eq_none_iff.mpr other))

theorem writesOtherSettings_iff {label : SharingLabel TermiosCall Empty Thread} :
    WritesOtherSettings state label ↔ portSettings.WritesUpToDate state label := by
  cases label with
  | read _ _ _ => exact Iff.rfl
  | occur event => cases event
  | write thread succeeds =>
      cases succeeds with
      | false => exact Iff.rfl
      | true => exact forall₃_congr fun _ _ _ => sameOthers_iff

/-- Whatever calls overlap or fail: in every state each setting reads as the last call has set it,
exactly if every call that writes has read the other settings as they still are. -/
theorem port_settings_hold_iff [DecidableEq Thread] (started : portSettings.sharing.start state)
    (ran : portSettings.sharing.run state labels = some final) :
    portSettings.sharing.Keeps (SettingsHold state.memory) state labels ↔
      portSettings.sharing.StepsMeet WritesOtherSettings state labels := by
  have writes : WritesOtherSettings =
      (portSettings.WritesUpToDate : Sharing _ _ Thread → _) :=
    funext₂ fun _ _ => propext writesOtherSettings_iff
  rw [settingsHold_eq, writes]
  exact Fields.keeps_asAsked_iff started ran

/-- A port that has just been opened. -/
def openedTermios : SharedTermios where
  cflag := 0x8b0
  iflag := 0x4
  speed := 13
  chars := ⟨0, 0⟩
  veof := 4

def twoSetters : Sharing SharedTermios TermiosCall Bool where
  memory := openedTermios
  copies := fun _ => none
  done := []

/-- 7 data bits and even parity, at 19200 baud. -/
def sevenEven : PortParams where
  speed := 14
  dataBits := 7
  stopBits := 1
  parity := 2
  translated _ := rfl

/-- `setSerialPortParams` overlaps with `setFlowControlMode`. -/
def overlappingSetters : List (SharingLabel TermiosCall Empty Bool) :=
  [.read false (.setflowcontrol 3) true, .read true (.setPortParams sevenEven) true,
    .write true true, .write false true]

/-- The new parameters are undone by the call that sets the flow control. -/
theorem port_settings_hold_iff_overlapping :
    ¬portSettings.sharing.Keeps (SettingsHold openedTermios) twoSetters overlappingSetters := by
  intro kept
  have started : portSettings.sharing.start twoSetters := ⟨rfl, fun _ => rfl⟩
  have ran : portSettings.sharing.run twoSetters overlappingSetters = some _ := rfl
  have writes := ((port_settings_hold_iff started ran).mp kept).2.2.2.1
  have stale := (writes (.setflowcontrol 3) openedTermios rfl).params rfl
  revert stale
  decide

/-- A client that ends each call before the next one begins finds every setting as it has set
it. -/
theorem port_settings_hold_of_turns [DecidableEq Thread]
    (started : portSettings.sharing.start state)
    (ran : portSettings.sharing.run state labels = some final)
    (turns : portSettings.sharing.StepsMeet Sharing.TakesTurns state labels) :
    portSettings.sharing.Keeps (SettingsHold state.memory) state labels := by
  rw [settingsHold_eq]
  exact Fields.keeps_asAsked_of_turns started ran turns

end Runs

end Jrxtx.SerialImp
