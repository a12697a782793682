import Jrxtx.JRxTxPort.FlowControlMode
import Jrxtx.Transition.ReadModifyWrite
import Jrxtx.Words.Masks

/-!
# Setting the modem lines

`setRTS`, `setDTR` and `setDSR` read the modem lines with `TIOCMGET`, change one bit and write the
word back with `TIOCMSET`.  Nothing synchronizes them, and neither result is checked: after a
`TIOCMGET` that fails the word is 0.
-/

namespace Jrxtx.SerialImp

open Jrxtx.FlowControlMode (assign assign_and_other)
open Jrxtx.Transition Jrxtx.Words

/-- The lines that there are calls for. -/
inductive ControlLine where
  | rts
  | dtr
  | dsr
  deriving DecidableEq, Repr

namespace ControlLine

def mask : ControlLine → BitVec 32
  | .rts => 0x004
  | .dtr => 0x002
  | .dsr => 0x100

variable (line : ControlLine)

/-- `result & TIOCM_*` -/
def isSet (result : BitVec 32) : Bool :=
  result &&& line.mask ≠ 0

end ControlLine

def isRTS (result : BitVec 32) : Bool := ControlLine.rts.isSet result

def isDTR (result : BitVec 32) : Bool := ControlLine.dtr.isSet result

def isDSR (result : BitVec 32) : Bool := ControlLine.dsr.isSet result

/-- A call that sets a line. -/
structure LineCall where
  line : ControlLine
  state : Bool
  deriving DecidableEq, Repr

def setRTS (state : Bool) : LineCall := ⟨.rts, state⟩

/-- `setDTR`; `set_port_params` does the same with `false` for the speed 0. -/
def setDTR (state : Bool) : LineCall := ⟨.dtr, state⟩

def setDSR (state : Bool) : LineCall := ⟨.dsr, state⟩

/-- What the call makes of the word that it has read. -/
def LineCall.change (call : LineCall) (result : BitVec 32) : BitVec 32 :=
  assign call.state result call.line.mask

/-- The lines of `field`; those that there is no call for if it is `none`. -/
def fieldMask : Option ControlLine → BitVec 32
  | some line => line.mask
  | none => ~~~0x106

section Fields

variable (outputs : BitVec 32)

/-- `ioctl(fd, TIOCMSET, &word)`: only the outputs can be set. -/
def tiocmset (lines word : BitVec 32) : BitVec 32 :=
  (lines &&& ~~~outputs) ||| (word &&& outputs)

/-- The device at the other end sets its lines. -/
def peerSets (word lines : BitVec 32) : BitVec 32 :=
  (word &&& ~~~outputs) ||| (lines &&& outputs)

/-- The value of a field after a call that sets it. -/
def LineCall.asks (call : LineCall) (field : Option ControlLine) : Option (BitVec 32) :=
  if field = some call.line then
    some (if call.state then outputs &&& fieldMask field else 0)
  else none

variable {outputs} {field : Option ControlLine} {call : LineCall} {lines word value : BitVec 32}

theorem outputs_field (outputs : BitVec 32) (field : Option ControlLine) :
    outputs &&& (outputs &&& fieldMask field) = outputs &&& fieldMask field := by
  rw [← BitVec.and_assoc, BitVec.and_self]

/-- A part of what is assigned. -/
theorem assign_and_part {on : Prop} [Decidable on] {flags mask part : BitVec 32}
    (within : part &&& mask = part) :
    assign on flags mask &&& part = if on then part else 0 := by
  unfold assign
  split
  next =>
    ext i inRange
    have bit := congrArg (fun word : BitVec 32 => word[i]) within
    simp only [BitVec.getElem_and, BitVec.getElem_or] at bit ⊢
    cases isPart : part[i] <;> simp_all
  next =>
    rw [BitVec.and_comm]
    exact and_cleared within

theorem change_asked (asked : call.asks outputs field = some value) :
    call.change word &&& (outputs &&& fieldMask field) = value := by
  rw [LineCall.asks] at asked
  split at asked
  next own =>
    rw [← Option.some.inj asked, own, LineCall.change]
    refine assign_and_part ?_
    rw [BitVec.and_assoc]
    exact congrArg (outputs &&& ·) (BitVec.and_self)
  next => cases asked

theorem mask_apart (other : call.asks outputs field = none) :
    call.line.mask &&& fieldMask field = 0 := by
  rw [LineCall.asks] at other
  split at other
  next => cases other
  next apart =>
    cases field with
    | none => cases call.line <;> decide
    | some line =>
        have differ : line ≠ call.line := fun same => apart (congrArg some same)
        revert differ
        cases line <;> cases call.line <;> decide

theorem change_other (other : call.asks outputs field = none) :
    call.change word &&& (outputs &&& fieldMask field) =
      word &&& (outputs &&& fieldMask field) := by
  refine assign_and_other ?_
  rw [← BitVec.and_assoc, BitVec.and_comm call.line.mask, BitVec.and_assoc, mask_apart other]
  exact BitVec.and_zero

/-- The outputs as fields that are changed through copies. -/
def modemLines (outputs : BitVec 32) :
    Fields (BitVec 32) LineCall (BitVec 32) (Option ControlLine) (BitVec 32) where
  read field lines := lines &&& (outputs &&& fieldMask field)
  asks call field := call.asks outputs field
  written lines call result := tiocmset outputs lines (call.change result)
  unread := some 0
  occur := peerSets outputs
  read_asked _ _ _ field _ asked :=
    (select_within (outputs_field outputs field)).trans (change_asked asked)
  read_other _ _ _ field other :=
    (select_within (outputs_field outputs field)).trans (change_other other)
  read_occur _ _ field := select_within (outputs_field outputs field)

end Fields

/-! ## Lines that stay as they have been set -/

section Lines

variable {Thread : Type} {outputs initial : BitVec 32}
  {state final : Sharing (BitVec 32) LineCall Thread}

/-- The state that the last call has set the line to. -/
def lastSet (line : ControlLine) (initial : Bool) (done : List LineCall) : Bool :=
  ((done.filter fun call => call.line = line).getLast?.map LineCall.state).getD initial

/-- `isRTS`, `isDTR` and `isDSR` tell what the last call has set, and the other outputs are as
they have been. -/
structure LinesHold (outputs initial : BitVec 32) (state : Sharing (BitVec 32) LineCall Thread) :
    Prop where
  line : ∀ line, outputs &&& ControlLine.mask line ≠ 0 →
    line.isSet state.memory = lastSet line (line.isSet initial) state.done
  others : state.memory &&& (outputs &&& fieldMask none) = initial &&& (outputs &&& fieldMask none)

/-- `TIOCMSET` writes the other outputs as they are. -/
def WritesOthers (outputs : BitVec 32) (state : Sharing (BitVec 32) LineCall Thread) :
    SharingLabel LineCall (BitVec 32) Thread → Prop
  | .write thread true =>
      ∀ call result, state.copies thread = some (call, result) →
        result &&& (outputs &&& ~~~call.line.mask) =
          state.memory &&& (outputs &&& ~~~call.line.mask)
  | _ => True

theorem exists_twoPow (line : ControlLine) : ∃ i, line.mask = BitVec.twoPow 32 i := by
  cases line with
  | rts => exact ⟨2, rfl⟩
  | dtr => exact ⟨1, rfl⟩
  | dsr => exact ⟨8, rfl⟩

/-- A line among the outputs of a word. -/
theorem and_line (line : ControlLine) (word : BitVec 32) :
    word &&& (outputs &&& line.mask) = if line.isSet word then outputs &&& line.mask else 0 := by
  obtain ⟨i, isBit⟩ := exists_twoPow line
  rw [BitVec.and_comm outputs, ← BitVec.and_assoc, ControlLine.isSet]
  rcases single_cases isBit word with clear | set
  · rw [clear]
    simp
  · rw [set]
    have nonzero : line.mask ≠ 0 := by cases line <;> decide
    rw [decide_eq_true nonzero, if_pos rfl, BitVec.and_comm]

theorem lastSet_append (line : ControlLine) (initial : Bool) (done : List LineCall)
    (call : LineCall) :
    lastSet line initial (done ++ [call]) =
      if call.line = line then call.state else lastSet line initial done := by
  rw [lastSet, List.filter_append]
  split
  next same => simp [same]
  next other => simp [other, lastSet]

theorem lastAsked_line (line : ControlLine) (done : List LineCall) :
    (modemLines outputs).lastAsked (some line) initial done =
      if lastSet line (line.isSet initial) done then outputs &&& line.mask else 0 := by
  induction done using List.reverseRecOn with
  | nil => exact and_line line initial
  | append_singleton done call ih =>
      rw [Fields.lastAsked_append, ih, lastSet_append]
      by_cases same : call.line = line
      · simp [modemLines, LineCall.asks, same, fieldMask]
      · have other : ¬line = call.line := fun eq => same eq.symm
        simp [modemLines, LineCall.asks, same, other]

theorem lastAsked_others (done : List LineCall) :
    (modemLines outputs).lastAsked none initial done =
      initial &&& (outputs &&& fieldMask none) := by
  have unasked : done.filterMap (fun call => (modemLines outputs).asks call none) = [] := by
    rw [List.filterMap_eq_nil_iff]
    intro call member
    rfl
  rw [Fields.lastAsked, unasked]
  rfl

theorem linesHold_iff : LinesHold outputs initial state ↔
    (modemLines outputs).AsAsked initial state := by
  constructor
  · intro hold field
    cases field with
    | none => exact hold.others.trans (lastAsked_others _).symm
    | some line =>
        rw [lastAsked_line]
        refine (and_line line _).trans ?_
        by_cases settable : outputs &&& line.mask = 0
        · simp [settable]
        · rw [hold.line line settable]
  · intro asAsked
    refine ⟨?_, (asAsked none).trans (lastAsked_others _)⟩
    intro line settable
    have same := (and_line line _).symm.trans ((asAsked (some line)).trans (lastAsked_line line _))
    split at same <;> split at same <;> simp_all

theorem linesHold_eq (outputs initial : BitVec 32) :
    LinesHold outputs initial =
      ((modemLines outputs).AsAsked initial : Sharing _ _ Thread → Prop) :=
  funext fun _ => propext linesHold_iff

/-- Words that agree on two masks agree on both. -/
theorem agree_or {word other first second : BitVec 32}
    (onFirst : word &&& (outputs &&& first) = other &&& (outputs &&& first))
    (onSecond : word &&& (outputs &&& second) = other &&& (outputs &&& second)) :
    word &&& (outputs &&& (first ||| second)) = other &&& (outputs &&& (first ||| second)) := by
  simp only [BitVec.and_or_distrib_left, onFirst, onSecond]

/-- The lines that a call does not set are the other fields. -/
theorem agree_others_iff (call : LineCall) (result lines : BitVec 32) :
    result &&& (outputs &&& ~~~call.line.mask) = lines &&& (outputs &&& ~~~call.line.mask) ↔
      (modemLines outputs).UpToDate lines call result := by
  constructor
  · intro agree field other
    have apart := mask_apart other
    have within : outputs &&& ~~~call.line.mask &&& (outputs &&& fieldMask field) =
        outputs &&& fieldMask field := by
      ext i inRange
      have bit := congrArg (fun word : BitVec 32 => word[i]) apart
      simp only [BitVec.getElem_and, BitVec.getElem_not] at bit ⊢
      cases isLine : call.line.mask[i] <;> cases isField : (fieldMask field)[i] <;> simp_all
    exact (and_part within).trans ((congrArg (· &&& _) agree).trans (and_part within).symm)
  · intro upToDate
    have agree : ∀ field, field ≠ some call.line →
        result &&& (outputs &&& fieldMask field) = lines &&& (outputs &&& fieldMask field) := by
      intro field other
      exact upToDate field (if_neg other)
    cases line : call.line with
    | rts =>
        rw [line] at agree
        exact agree_or (agree_or (agree none nofun) (agree (some .dtr) nofun))
          (agree (some .dsr) nofun)
    | dtr =>
        rw [line] at agree
        exact agree_or (agree_or (agree none nofun) (agree (some .rts) nofun))
          (agree (some .dsr) nofun)
    | dsr =>
        rw [line] at agree
        exact agree_or (agree_or (agree none nofun) (agree (some .rts) nofun))
          (agree (some .dtr) nofun)

theorem writesOthers_iff {label : SharingLabel LineCall (BitVec 32) Thread} :
    WritesOthers outputs state label ↔ (modemLines outputs).WritesUpToDate state label := by
  cases label with
  | read _ _ _ => exact Iff.rfl
  | occur _ => exact Iff.rfl
  | write thread succeeds =>
      cases succeeds with
      | false => exact Iff.rfl
      | true =>
          constructor
          · intro writes call result waiting
            exact (agree_others_iff call result _).mp (writes call result waiting)
          · intro writes call result waiting
            exact (agree_others_iff call result _).mpr (writes call result waiting)

/-- Whatever calls overlap or fail, and whatever the other end does: in every state each line is as
the last call has set it, exactly if no call writes another line as it was before. -/
theorem modem_lines_hold_iff [DecidableEq Thread]
    {labels : List (SharingLabel LineCall (BitVec 32) Thread)}
    (started : (modemLines outputs).sharing.start state)
    (ran : (modemLines outputs).sharing.run state labels = some final) :
    (modemLines outputs).sharing.Keeps (LinesHold outputs state.memory) state labels ↔
      (modemLines outputs).sharing.StepsMeet (WritesOthers outputs) state labels := by
  have writes : WritesOthers outputs =
      ((modemLines outputs).WritesUpToDate : Sharing _ _ Thread → _) :=
    funext₂ fun _ _ => propext writesOthers_iff
  rw [linesHold_eq, writes]
  exact Fields.keeps_asAsked_iff started ran

/-- DTR is set, and two threads are about to set RTS and to clear DTR. -/
def twoCallers : Sharing (BitVec 32) LineCall Bool where
  memory := 0x002
  copies := fun _ => none
  done := []

def overlapping : List (SharingLabel LineCall (BitVec 32) Bool) :=
  [.read false (setRTS true) true, .read true (setDTR false) true, .write true true,
    .write false true]

/-- The call that clears DTR is undone by the one that sets RTS. -/
theorem modem_lines_hold_iff_overlapping :
    ¬(modemLines 0x006).sharing.Keeps (LinesHold 0x006 0x002) twoCallers overlapping := by
  intro kept
  have started : (modemLines 0x006).sharing.start twoCallers := ⟨rfl, fun _ => rfl⟩
  have ran : (modemLines 0x006).sharing.run twoCallers overlapping = some _ := rfl
  have stale := ((modem_lines_hold_iff started ran).mp kept).2.2.2.1 (setRTS true) 0x002 rfl
  revert stale
  decide

/-- If no call begins before another one has ended, and `TIOCMGET` does not fail, then each line is
as the last call has set it. -/
theorem modem_lines_hold_of_turns [DecidableEq Thread]
    {labels : List (SharingLabel LineCall (BitVec 32) Thread)}
    (started : (modemLines outputs).sharing.start state)
    (ran : (modemLines outputs).sharing.run state labels = some final)
    (turns : (modemLines outputs).sharing.StepsMeet Sharing.TakesTurns state labels) :
    (modemLines outputs).sharing.Keeps (LinesHold outputs state.memory) state labels := by
  rw [linesHold_eq]
  exact Fields.keeps_asAsked_of_turns started ran turns

end Lines

end Jrxtx.SerialImp
