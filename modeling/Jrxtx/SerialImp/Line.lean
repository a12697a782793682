import Jrxtx.SerialImp.Device
import Jrxtx.Words.Masks

/-!
# What `set_port_params` changes on a line

The model of `Jrxtx.SerialImp.Device` with every system call of its own, the
modem control lines, the whole `flags` of the `struct serial_struct` and the
custom divisor that the call has written.  `setPortParams_device` connects both.
-/

namespace Jrxtx.SerialImp

open Jrxtx.Words

/-- The outcomes of the calls of `set_port_params`. -/
structure LineCalls where
  tcgetattr : Bool
  tiocmget : Bool
  tiocmset : Bool
  /-- the first `ioctl(fd, TIOCGSERIAL, &sstruct)`, for `B38400` only -/
  supportsCustomSpeed : Bool
  cfsetispeed : Int → Bool
  cfsetospeed : Int → Bool
  /-- the second `ioctl(fd, TIOCGSERIAL, &sstruct)` -/
  tiocgserial : Bool
  tiocsserial : Bool
  tcsetattr : Bool

/-- Both halves of the condition on `cfsetispeed` and `cfsetospeed`. -/
def LineCalls.accepts (calls : LineCalls) (speed : Int) : Bool :=
  calls.cfsetispeed speed && calls.cfsetospeed speed

/-- `TIOCM_DTR` -/
def tiocmDtr : BitVec 32 := 0x2

/-- The bits that `TIOCMSET` drives: DTR, RTS, the two outputs and the loopback. -/
def tiocmControl : BitVec 32 := 0xe006

/-- `ASYNC_SPD_MASK` -/
def asyncSpdMask : BitVec 32 := 0x1030

/-- `ASYNC_SPD_CUST` -/
def asyncSpdCust : BitVec 32 := 0x0030

/-- A serial line: the `c_cflag` and the speed of its `struct termios`, its modem lines, and
the `struct serial_struct`. -/
structure Line where
  cflag : BitVec 32
  speed : Int
  modem : BitVec 32
  flags : BitVec 32
  baudBase : Int
  customDivisor : Int
  deriving DecidableEq, Repr

/-- What a call of `set_port_params` ends with: whether it returns 1, the line, and the
divisor that `TIOCSSERIAL` has accepted in this call. -/
structure ParamResult where
  fails : Bool
  line : Line
  divisor : Option Int
  deriving DecidableEq, Repr

/-- The three translations, in the order of `set_port_params`. -/
def translateCflag (cflag : BitVec 32) (dataBits stopBits parity : Int) : Option (BitVec 32) :=
  (translateDataBits cflag dataBits).bind fun cflag =>
    (translateStopBits cflag stopBits).bind fun cflag => translateParity cflag parity

/-- The division of two `int` values, with no result where it traps. -/
def divInt (dividend divisor : Int) : Option Int :=
  if divisor = 0 then none
  else if dividend = -2147483648 ∧ divisor = -1 then none
  else some (dividend.tdiv divisor)

namespace Line

variable (line : Line) (calls : LineCalls)

/-- The modem lines after the two `ioctl` calls of a hang up.  `TIOCMGET` fails without a
notice, and `result` is 0 then. -/
def modemHungUp : BitVec 32 :=
  let result := if calls.tiocmget then line.modem &&& ~~~tiocmDtr else 0
  if calls.tiocmset then (line.modem &&& ~~~tiocmControl) ||| (result &&& tiocmControl)
  else line.modem

def hangUp : Line := { line with modem := line.modemHungUp calls }

/-- The speed that is asked for. -/
def askedSpeed (cspeed : Int) : Int :=
  if cspeed = b38400 ∧ calls.supportsCustomSpeed then 38400 else cspeed

/-- The end of the call: `tcsetattr` with the new flags and speed. -/
def applyAttr (cflag : BitVec 32) (speed : Int) (divisor : Option Int) : ParamResult :=
  if calls.tcsetattr then ⟨false, { line with cflag, speed }, divisor⟩
  else ⟨true, line, divisor⟩

/-- The branch for a speed without a constant. -/
def setCustomSpeed (cflag : BitVec 32) (cspeed : Int) : Option ParamResult :=
  if !calls.tiocgserial then some ⟨true, line, none⟩
  else
    (divInt line.baudBase cspeed).map fun divisor =>
      if !calls.accepts b38400 then ⟨true, line, none⟩
      else if line.baudBase < 1 then ⟨true, line, none⟩
      else if calls.tiocsserial then
        applyAttr { line with customDivisor := divisor } calls cflag b38400 (some divisor)
      -- errors of `TIOCSSERIAL` are ignored for 38400
      else if cspeed ≠ 38400 then ⟨true, line, none⟩
      else applyAttr line calls cflag b38400 none

/-- `set_port_params` -/
def setPortParams (cspeed dataBits stopBits parity : Int) : Option ParamResult :=
  if !calls.tcgetattr then some ⟨true, line, none⟩
  else
    match translateCflag line.cflag dataBits stopBits parity with
    | none => some ⟨true, line, none⟩
    | some cflag =>
        let line := if cspeed = 0 then line.hangUp calls else line
        let cspeed := askedSpeed calls cspeed
        if calls.accepts cspeed then some (line.applyAttr calls cflag cspeed none)
        else line.setCustomSpeed calls cflag cspeed

/-- `nativeSetSerialPortParams` -/
def nativeSetSerialPortParams (speed dataBits stopBits parity : Int) : Option ParamResult :=
  let cspeed := translateSpeed speed
  if cspeed < 0 then some ⟨true, line, none⟩
  else line.setPortParams calls cspeed dataBits stopBits parity

/-- The line as `Jrxtx.SerialImp.Device` has it. -/
def device : Device where
  cflag := line.cflag
  speed := line.speed
  baudBase := line.baudBase
  customDivisor := line.customDivisor
  spdCust := line.flags &&& asyncSpdMask = asyncSpdCust

@[simp] theorem device_setAttr (cflag : BitVec 32) (speed : Int) :
    ({ line with cflag, speed } : Line).device = { line.device with cflag, speed } := rfl

@[simp] theorem device_setDivisor (customDivisor : Int) :
    ({ line with customDivisor } : Line).device = { line.device with customDivisor } := rfl

theorem device_cflag : line.device.cflag = line.cflag := rfl

end Line

/-! ## The two models -/

/-- The outcomes that matter to `Jrxtx.SerialImp.Device`. -/
def LineCalls.device (calls : LineCalls) : DeviceCalls where
  tcgetattr := calls.tcgetattr
  supportsCustomSpeed := calls.supportsCustomSpeed
  tiocgserial := calls.tiocgserial
  tiocsserial := calls.tiocsserial
  tcsetattr := calls.tcsetattr

section Refinement

variable {line : Line} {calls : LineCalls} {result : ParamResult}
  {cflag : BitVec 32} {cspeed dataBits stopBits parity : Int}

theorem divInt_eq_some {dividend divisor quotient : Int}
    (divides : divInt dividend divisor = some quotient) :
    divisor ≠ 0 ∧ quotient = dividend.tdiv divisor := by
  unfold divInt at divides
  split at divides
  next => simp at divides
  next nonzero =>
    split at divides
    next => simp at divides
    next => exact ⟨nonzero, (Option.some.inj divides).symm⟩

/-- Without the modem lines a call of `set_port_params` is that of
`Jrxtx.SerialImp.Device`. -/
theorem Line.setPortParams_device (accepted : ∀ speed, calls.accepts speed = isSpeedConstant speed)
    (ran : line.setPortParams calls cspeed dataBits stopBits parity = some result) :
    SerialImp.setPortParams calls.device line.device cspeed dataBits stopBits parity =
      (result.fails, result.line.device) := by
  have base : isSpeedConstant b38400 = true := by decide
  have hungUp : (if cspeed = 0 then line.hangUp calls else line).device = line.device := by
    split <;> rfl
  revert ran
  fun_cases Line.setPortParams line calls cspeed dataBits stopBits parity
  case case1 noAttr =>
    intro ran
    simp only [Option.some.injEq] at ran
    subst ran
    simp [SerialImp.setPortParams, LineCalls.device, noAttr]
  case case2 attr rejected =>
    intro ran
    simp only [Option.some.injEq] at ran
    subst ran
    simp only [Bool.not_eq_true, Bool.not_eq_false', translateCflag] at attr rejected
    simp [SerialImp.setPortParams, LineCalls.device, attr, Line.device, rejected]
  case case3 attr cflag translated left asked accepts =>
    intro ran
    simp only [Option.some.injEq] at ran
    subst ran
    have constant : isSpeedConstant (SerialImp.askedSpeed calls.device cspeed) = true :=
      accepted asked ▸ accepts
    simp only [Bool.not_eq_true, Bool.not_eq_false', translateCflag] at attr translated
    have same : left.device = line.device := hungUp
    simp only [SerialImp.setPortParams, constant, if_true]
    simp only [LineCalls.device, attr, Line.device_cflag, translated, Line.applyAttr]
    cases calls.tcsetattr with
    | false => simp [same]
    | true => simp [same, asked, Line.askedSpeed, SerialImp.askedSpeed]
  case case4 attr cflag translated left asked rejects =>
    intro ran
    have isAsked : SerialImp.askedSpeed calls.device cspeed = asked := rfl
    have noConstant : isSpeedConstant asked = false :=
      accepted asked ▸ Bool.eq_false_iff.mpr rejects
    have same : line.device = left.device := hungUp.symm
    have sameCflag : line.cflag = left.cflag := congrArg Device.cflag same
    simp only [Bool.not_eq_true, Bool.not_eq_false', translateCflag] at attr translated
    simp only [SerialImp.setPortParams, isAsked, noConstant, if_false, Bool.false_eq_true]
    simp only [LineCalls.device, attr, Line.device_cflag, translated, Bool.not_true,
      Bool.false_eq_true, if_false]
    rw [same]
    unfold Line.setCustomSpeed at ran
    split at ran
    next noSerial =>
      simp only [Option.some.injEq] at ran
      subst ran
      simp [noSerial]
    next serial =>
      simp only [Option.map_eq_some_iff] at ran
      obtain ⟨divisor, divides, ran⟩ := ran
      obtain ⟨-, rfl⟩ := divInt_eq_some divides
      simp only [accepted, base, Bool.not_true, Bool.false_eq_true, if_false] at ran
      subst ran
      unfold Line.applyAttr
      by_cases low : left.baudBase < 1 <;> by_cases target : asked = 38400 <;>
        cases calls.tiocsserial <;> cases calls.tcsetattr <;>
        simp [serial, low, target, Line.device, sameCflag]

end Refinement

/-! ## What a call can do -/

/-- The branch for a speed without a constant gets as far as writing its divisor. -/
structure LineCalls.WritesDivisor (calls : LineCalls) (baudBase : Int) : Prop where
  tiocgserial : calls.tiocgserial = true
  accepts : calls.accepts b38400 = true
  baudBase : 1 ≤ baudBase
  tiocsserial : calls.tiocsserial = true

section Outcomes

variable {line : Line} {calls : LineCalls} {result : ParamResult}
  {cflag : BitVec 32} {speed cspeed dataBits stopBits parity : Int} {divisor : Option Int}

theorem applyAttr_succeeds
    (succeeds : (line.applyAttr calls cflag speed divisor).fails = false) :
    line.applyAttr calls cflag speed divisor = ⟨false, { line with cflag, speed }, divisor⟩ := by
  unfold Line.applyAttr at succeeds ⊢
  split
  next => rfl
  next refused => simp [refused] at succeeds

theorem applyAttr_fails (fails : (line.applyAttr calls cflag speed divisor).fails = true) :
    line.applyAttr calls cflag speed divisor = ⟨true, line, divisor⟩ := by
  unfold Line.applyAttr at fails ⊢
  split
  next accepted => simp [accepted] at fails
  next => rfl

/-- The branch for a speed without a constant fails at once, writes the divisor, or has it
refused for 38400. -/
theorem setCustomSpeed_cases (ran : line.setCustomSpeed calls cflag cspeed = some result) :
    (¬ calls.WritesDivisor line.baudBase ∧ result = ⟨true, line, none⟩) ∨
      (calls.WritesDivisor line.baudBase ∧
        result = Line.applyAttr { line with customDivisor := line.baudBase.tdiv cspeed } calls
          cflag b38400 (some (line.baudBase.tdiv cspeed))) ∨
      (calls.tiocsserial = false ∧ 1 ≤ line.baudBase ∧ cspeed = 38400 ∧
        result = line.applyAttr calls cflag b38400 none) := by
  unfold Line.setCustomSpeed at ran
  split at ran
  next refused =>
    refine .inl ⟨fun writes => ?_, (Option.some.inj ran).symm⟩
    simp [writes.tiocgserial] at refused
  next serial =>
    simp only [Option.map_eq_some_iff] at ran
    obtain ⟨divisor, divides, ran⟩ := ran
    obtain ⟨-, rfl⟩ := divInt_eq_some divides
    split at ran
    next refused =>
      refine .inl ⟨fun writes => ?_, ran.symm⟩
      simp [writes.accepts] at refused
    next accepted =>
      split at ran
      next low => exact .inl ⟨fun writes => absurd writes.baudBase (by omega), ran.symm⟩
      next base =>
        split at ran
        next sets =>
          refine .inr (.inl ⟨⟨?_, ?_, by omega, sets⟩, ran.symm⟩)
          · simpa using serial
          · simpa using accepted
        next refused =>
          split at ran
          next => exact .inl ⟨fun writes => refused writes.tiocsserial, ran.symm⟩
          next target =>
            exact .inr (.inr ⟨Bool.eq_false_iff.mpr refused, by omega,
              Decidable.not_not.mp target, ran.symm⟩)

/-- The line once the modem has been hung up for speed 0. -/
def Line.left (line : Line) (calls : LineCalls) (cspeed : Int) : Line :=
  if cspeed = 0 then line.hangUp calls else line

@[simp] theorem left_baudBase : (line.left calls cspeed).baudBase = line.baudBase := by
  unfold Line.left
  split <;> rfl

@[simp] theorem left_customDivisor :
    (line.left calls cspeed).customDivisor = line.customDivisor := by
  unfold Line.left
  split <;> rfl

/-- A call fails before it changes anything, applies an accepted speed, or goes on to the
branch for the other speeds. -/
theorem setPortParams_cases
    (ran : line.setPortParams calls cspeed dataBits stopBits parity = some result) :
    ((calls.tcgetattr = false ∨ translateCflag line.cflag dataBits stopBits parity = none) ∧
        result = ⟨true, line, none⟩) ∨
      ∃ cflag, calls.tcgetattr = true ∧
        translateCflag line.cflag dataBits stopBits parity = some cflag ∧
        ((calls.accepts (Line.askedSpeed calls cspeed) = true ∧
            result = (line.left calls cspeed).applyAttr calls cflag
              (Line.askedSpeed calls cspeed) none) ∨
          (calls.accepts (Line.askedSpeed calls cspeed) = false ∧
            (line.left calls cspeed).setCustomSpeed calls cflag
              (Line.askedSpeed calls cspeed) = some result)) := by
  revert ran
  fun_cases Line.setPortParams line calls cspeed dataBits stopBits parity
  case case1 refused =>
    intro ran
    exact .inl ⟨.inl (by simpa using refused), (Option.some.inj ran).symm⟩
  case case2 rejected =>
    intro ran
    exact .inl ⟨.inr rejected, (Option.some.inj ran).symm⟩
  case case3 attr cflag translated left asked accepts =>
    intro ran
    exact .inr ⟨cflag, by simpa using attr, translated,
      .inl ⟨accepts, (Option.some.inj ran).symm⟩⟩
  case case4 attr cflag translated left asked rejects =>
    intro ran
    exact .inr ⟨cflag, by simpa using attr, translated, .inr ⟨Bool.eq_false_iff.mpr rejects, ran⟩⟩

end Outcomes

/-! ## The programmed rate -/

/-- The values of Linux's constants, from `B0` to `B4000000`. -/
def isBConstant (speed : Int) : Bool :=
  (0 ≤ speed && speed ≤ 15) || (4097 ≤ speed && speed ≤ 4111)

/-- `cfsetispeed` and `cfsetospeed` accept the constants and nothing else. -/
structure LineCalls.Standard (calls : LineCalls) : Prop where
  cfsetispeed : ∀ speed, calls.cfsetispeed speed = isBConstant speed
  cfsetospeed : ∀ speed, calls.cfsetospeed speed = isBConstant speed

/-- A successful call has programmed `speed`: by its constant, or by `B38400` and the
divisor of the device's `baud_base`. -/
def ParamResult.Programs (result : ParamResult) (speed : Int) : Prop :=
  match result.divisor with
  | none => getJavaBaudrate result.line.speed = speed
  | some divisor =>
      result.line.speed = b38400 ∧ 1 ≤ divisor ∧ divisor = result.line.baudBase / speed

/-- There is a constant for `speed`. -/
def hasConstant (speed : Int) : Bool :=
  getJavaBaudrate (translateSpeed speed) = speed

/-- A speed without a constant of its own is no value of a constant, and a custom divisor
does not exceed the `baud_base`. -/
def Programmable (calls : LineCalls) (baudBase speed : Int) : Prop :=
  if speed = 38400 then
    calls.supportsCustomSpeed = true → calls.tiocsserial = true → 38400 ≤ baudBase
  else if hasConstant speed then True
  else isBConstant speed = false ∧ speed ≤ baudBase

section Rate

variable {line : Line} {calls : LineCalls} {result : ParamResult}
  {cflag : BitVec 32} {speed cspeed dataBits stopBits parity : Int}

/-- The table of `translate_speed` gives constants, and every other speed is kept. -/
theorem translateSpeed_cases (notNegative : 0 ≤ speed) :
    (hasConstant speed = true ∧ isBConstant (translateSpeed speed) = true ∧
        (translateSpeed speed = b38400 ↔ speed = 38400)) ∨
      (hasConstant speed = false ∧ translateSpeed speed = speed) := by
  unfold hasConstant
  fun_cases translateSpeed speed
  case case32 =>
    refine .inr ⟨?_, rfl⟩
    rw [decide_eq_false_iff_not]
    fun_cases getJavaBaudrate speed <;> first | contradiction | omega
  case case33 negative => exact absurd notNegative negative
  all_goals exact .inl (by decide)

/-- A successful call of `set_port_params`: the speed is accepted, or a custom divisor is
used; for 38400 that may have been refused. -/
theorem setPortParams_succeeds
    (ran : line.setPortParams calls cspeed dataBits stopBits parity = some result)
    (succeeds : result.fails = false) :
    (calls.accepts (Line.askedSpeed calls cspeed) = true ∧
        result.line.speed = Line.askedSpeed calls cspeed ∧ result.divisor = none) ∨
      (calls.accepts (Line.askedSpeed calls cspeed) = false ∧ result.line.speed = b38400 ∧
        result.line.baudBase = line.baudBase ∧ 1 ≤ line.baudBase ∧
        ((calls.tiocsserial = true ∧
            result.divisor = some (line.baudBase.tdiv (Line.askedSpeed calls cspeed))) ∨
          (calls.tiocsserial = false ∧ result.divisor = none ∧
            Line.askedSpeed calls cspeed = 38400))) := by
  rcases setPortParams_cases ran with ⟨-, rfl⟩ | ⟨cflag, -, -, accepted | ⟨rejects, custom⟩⟩
  · simp at succeeds
  · obtain ⟨accepts, rfl⟩ := accepted
    rw [applyAttr_succeeds succeeds]
    exact .inl ⟨accepts, rfl, rfl⟩
  · refine .inr ⟨rejects, ?_⟩
    rcases setCustomSpeed_cases custom with
      ⟨-, rfl⟩ | ⟨writes, rfl⟩ | ⟨refused, base, target, rfl⟩
    · simp at succeeds
    · rw [applyAttr_succeeds succeeds]
      have base := writes.baudBase
      rw [left_baudBase] at base
      exact ⟨rfl, left_baudBase, base, .inl ⟨writes.tiocsserial, by rw [left_baudBase]⟩⟩
    · rw [applyAttr_succeeds succeeds]
      rw [left_baudBase] at base
      exact ⟨rfl, left_baudBase, base, .inr ⟨refused, rfl, target⟩⟩

/-- The quotient that is programmed is the speed's divisor, if it is positive. -/
theorem programs_quotient_iff {base : Int} (positive : 1 ≤ base) (above : 0 < speed) :
    1 ≤ base.tdiv speed ∧ base.tdiv speed = base / speed ↔ speed ≤ base := by
  rw [Int.tdiv_eq_ediv_of_nonneg (by omega)]
  constructor
  · intro atLeast
    have product := Int.mul_le_mul_of_nonneg_right atLeast.1 (Int.le_of_lt above)
    have quotient := Int.ediv_mul_le base (Int.ne_of_gt above)
    omega
  · intro fits
    exact ⟨(Int.le_ediv_iff_mul_le above).mpr (by omega), rfl⟩

theorem translateSpeed_not_negative (notNegative : 0 ≤ speed) : ¬ translateSpeed speed < 0 := by
  rcases translateSpeed_cases notNegative with ⟨-, constant, -⟩ | ⟨-, kept⟩
  · simp only [isBConstant, Bool.or_eq_true, Bool.and_eq_true, decide_eq_true_eq] at constant
    omega
  · omega

/-- A speed with a constant of its own. -/
theorem programs_constant_iff (accepts : ∀ speed, calls.accepts speed = isBConstant speed)
    (has : hasConstant speed = true) (constant : isBConstant (translateSpeed speed) = true)
    (is38400 : translateSpeed speed = b38400 ↔ speed = 38400)
    (ran : line.setPortParams calls (translateSpeed speed) dataBits stopBits parity = some result)
    (succeeds : result.fails = false) :
    result.Programs speed ↔ Programmable calls line.baudBase speed := by
  have outcome := setPortParams_succeeds ran succeeds
  rw [accepts] at outcome
  unfold ParamResult.Programs Programmable
  by_cases target : speed = 38400
  · subst target
    have constant38400 : isBConstant b38400 = true := by decide
    have noConstant : isBConstant 38400 = false := by decide
    have isSpeed : translateSpeed 38400 = b38400 := rfl
    rw [if_pos rfl]
    cases supports : calls.supportsCustomSpeed with
    | false =>
        simp only [Line.askedSpeed, isSpeed, supports, constant38400, Bool.false_eq_true, and_false,
          if_false, true_and, false_and, or_false, Bool.true_eq_false] at outcome
        rw [outcome.1, outcome.2]
        exact iff_of_true rfl nofun
    | true =>
        simp only [Line.askedSpeed, isSpeed, supports, noConstant, and_self, if_true,
          Bool.false_eq_true, false_and, false_or, true_and, and_true] at outcome
        obtain ⟨isB38400, sameBase, positive, ⟨sets, wrote⟩ | ⟨refused, wrote⟩⟩ := outcome
        · rw [isB38400, sameBase, wrote]
          simp only [true_and, sets, forall_const]
          exact programs_quotient_iff positive (by decide)
        · rw [isB38400, wrote, refused]
          exact iff_of_true rfl nofun
  · have other : translateSpeed speed ≠ b38400 := fun equal => target (is38400.mp equal)
    simp only [Line.askedSpeed, other, false_and, if_false, constant, true_and,
      Bool.true_eq_false, or_false] at outcome
    rw [if_neg target, if_pos has, outcome.1, outcome.2]
    exact iff_of_true (of_decide_eq_true has) trivial

/-- A speed without a constant of its own. -/
theorem programs_custom_iff (accepts : ∀ speed, calls.accepts speed = isBConstant speed)
    (notNegative : 0 ≤ speed) (hasNot : hasConstant speed = false)
    (kept : translateSpeed speed = speed)
    (ran : line.setPortParams calls speed dataBits stopBits parity = some result)
    (succeeds : result.fails = false) :
    result.Programs speed ↔ Programmable calls line.baudBase speed := by
  have outcome := setPortParams_succeeds ran succeeds
  rw [accepts] at outcome
  have other : getJavaBaudrate speed ≠ speed := by
    rw [hasConstant, kept] at hasNot
    exact of_decide_eq_false hasNot
  have target : speed ≠ 38400 := by
    rintro rfl
    exact absurd hasNot (by decide)
  have nonzero : speed ≠ 0 := by
    rintro rfl
    exact absurd hasNot (by decide)
  unfold ParamResult.Programs Programmable
  rw [if_neg target, hasNot]
  simp only [Bool.false_eq_true, if_false]
  by_cases replaced : speed = b38400 ∧ calls.supportsCustomSpeed = true
  · -- 15 is taken for `B38400`, and the divisor is that of 38400
    obtain ⟨rfl, supports⟩ := replaced
    have constant : isBConstant b38400 = true := by decide
    have noConstant : isBConstant 38400 = false := by decide
    simp only [Line.askedSpeed, supports, and_self, if_true, noConstant, Bool.false_eq_true,
      false_and, false_or, true_and, and_true] at outcome
    refine iff_of_false ?_ (by simp [constant])
    obtain ⟨isB38400, sameBase, positive, ⟨-, wrote⟩ | ⟨-, wrote⟩⟩ := outcome
    · rw [wrote, sameBase, Int.tdiv_eq_ediv_of_nonneg (by omega)]
      simp only [b38400]
      omega
    · rw [wrote, isB38400]
      exact other
  · have isAsked : Line.askedSpeed calls speed = speed := if_neg replaced
    rw [isAsked] at outcome
    cases constant : isBConstant speed with
    | true =>
        simp only [constant, true_and, Bool.true_eq_false, false_and, or_false] at outcome
        rw [outcome.1, outcome.2]
        exact iff_of_false other (by simp)
    | false =>
        simp only [constant, Bool.false_eq_true, false_and, false_or, true_and, target, and_false,
          or_false] at outcome
        obtain ⟨isB38400, sameBase, positive, -, wrote⟩ := outcome
        rw [isB38400, sameBase, wrote]
        simp only [true_and]
        exact programs_quotient_iff positive (by omega)

/-- A successful call with a speed from 0 on programs that speed if and only if it is
programmable. -/
theorem nativeSetSerialPortParams_programs_iff (standard : calls.Standard) (notNegative : 0 ≤ speed)
    (ran : line.nativeSetSerialPortParams calls speed dataBits stopBits parity = some result)
    (succeeds : result.fails = false) :
    result.Programs speed ↔ Programmable calls line.baudBase speed := by
  have accepts : ∀ speed, calls.accepts speed = isBConstant speed := by
    intro speed
    rw [LineCalls.accepts, standard.cfsetispeed, standard.cfsetospeed, Bool.and_self]
  simp only [Line.nativeSetSerialPortParams,
    if_neg (translateSpeed_not_negative notNegative)] at ran
  rcases translateSpeed_cases notNegative with ⟨has, constant, is38400⟩ | ⟨hasNot, kept⟩
  · exact programs_constant_iff accepts has constant is38400 ran succeeds
  · rw [kept] at ran
    exact programs_custom_iff accepts notNegative hasNot kept ran succeeds

end Rate

/-- All calls succeed, and the two functions of the speed accept the constants. -/
def workingCalls : LineCalls where
  tcgetattr := true
  tiocmget := true
  tiocmset := true
  supportsCustomSpeed := true
  cfsetispeed := isBConstant
  cfsetospeed := isBConstant
  tiocgserial := true
  tiocsserial := true
  tcsetattr := true

/-- A line at 9600 baud, 8 data bits, with DTR and RTS set. -/
def workingLine : Line where
  cflag := cs8
  speed := 13
  modem := 0x6
  flags := 0
  baudBase := 115200
  customDivisor := 0

theorem nativeSetSerialPortParams_programs_iff_28800 :
    ∃ result, workingLine.nativeSetSerialPortParams workingCalls 28800 8 1 0 = some result ∧
      result.Programs 28800 :=
  have ran : workingLine.nativeSetSerialPortParams workingCalls 28800 8 1 0 =
      some ⟨false, { workingLine with speed := 15, customDivisor := 4 }, some 4⟩ := by decide
  ⟨_, ran,
    (nativeSetSerialPortParams_programs_iff ⟨fun _ => rfl, fun _ => rfl⟩ (by decide) ran rfl).mpr
      (by unfold Programmable; decide)⟩

/-- The speed 13 is programmed as `B9600`, which has the value 13. -/
theorem speed_13_programs_9600 :
    ∃ result, workingLine.nativeSetSerialPortParams workingCalls 13 8 1 0 = some result ∧
      result.fails = false ∧ getJavaBaudrate result.line.speed = 9600 ∧
      ¬ result.Programs 13 :=
  ⟨⟨false, workingLine, none⟩, by decide, rfl, rfl, by unfold ParamResult.Programs; decide⟩

/-! ## Failing calls -/

/-- The hang up for speed 0 drops a line: DTR, or without `TIOCMGET` any line that
`TIOCMSET` drives. -/
def LineCalls.HangsUp (calls : LineCalls) (modem : BitVec 32) (cspeed : Int) : Prop :=
  cspeed = 0 ∧ calls.tiocmset = true ∧
    modem &&& (if calls.tiocmget then tiocmDtr else tiocmControl) ≠ 0

/-- A custom divisor is written that the device does not have yet. -/
def LineCalls.ChangesDivisor (calls : LineCalls) (baudBase customDivisor cspeed : Int) : Prop :=
  calls.accepts (Line.askedSpeed calls cspeed) = false ∧ calls.WritesDivisor baudBase ∧
    baudBase.tdiv (Line.askedSpeed calls cspeed) ≠ customDivisor

section Failing

variable {line : Line} {calls : LineCalls} {result : ParamResult}
  {cspeed dataBits stopBits parity : Int}

/-- The modem lines are kept unless the hang up drops one. -/
theorem modemHungUp_eq_self_iff :
    line.modemHungUp calls = line.modem ↔ ¬ calls.HangsUp line.modem 0 := by
  have dtr : (line.modem &&& ~~~tiocmControl) ||| ((line.modem &&& ~~~tiocmDtr) &&& tiocmControl) =
      line.modem ↔ line.modem &&& tiocmDtr = 0 := cleared_eq_self_iff (by decide)
  have control : (line.modem &&& ~~~tiocmControl) |||
        ((line.modem &&& ~~~tiocmControl) &&& tiocmControl) = line.modem ↔
      line.modem &&& tiocmControl = 0 := cleared_eq_self_iff (by decide)
  unfold Line.modemHungUp LineCalls.HangsUp
  cases calls.tiocmset with
  | false => simp
  | true =>
      cases calls.tiocmget with
      | true => simp [dtr]
      | false =>
          rw [BitVec.and_assoc, BitVec.not_and_self] at control
          simpa using control

theorem left_eq_self_iff : line.left calls cspeed = line ↔ ¬ calls.HangsUp line.modem cspeed := by
  unfold Line.left
  by_cases zero : cspeed = 0
  · subst zero
    rw [if_pos rfl, ← modemHungUp_eq_self_iff]
    constructor
    · intro kept
      exact congrArg Line.modem kept
    · intro kept
      rw [Line.hangUp, kept]
  · simp [zero, LineCalls.HangsUp]

theorem left_divisor_eq_self_iff {divisor : Int} :
    ({ line.left calls cspeed with customDivisor := divisor } : Line) = line ↔
      line.left calls cspeed = line ∧ divisor = line.customDivisor := by
  constructor
  · intro kept
    have same : divisor = line.customDivisor := congrArg Line.customDivisor kept
    refine ⟨?_, same⟩
    calc line.left calls cspeed
        = { line.left calls cspeed with customDivisor := divisor } := by
          rw [same, ← (left_customDivisor : (line.left calls cspeed).customDivisor = _)]
      _ = line := kept
  · rintro ⟨kept, rfl⟩
    rw [kept]

/-- A call of `set_port_params` that fails leaves the line as it was if and only if it fails
before its first change, or drops no modem line and writes no other divisor. -/
theorem setPortParams_unchanged_iff
    (ran : line.setPortParams calls cspeed dataBits stopBits parity = some result)
    (fails : result.fails = true) :
    result.line = line ↔
      (calls.tcgetattr = false ∨ translateCflag line.cflag dataBits stopBits parity = none) ∨
        (¬ calls.HangsUp line.modem cspeed ∧
          ¬ calls.ChangesDivisor line.baudBase line.customDivisor cspeed) := by
  rcases setPortParams_cases ran with ⟨early, rfl⟩ | ⟨cflag, attr, translated, outcome⟩
  · exact iff_of_true rfl (.inl early)
  · have late : ¬ (calls.tcgetattr = false ∨
        translateCflag line.cflag dataBits stopBits parity = none) := by
      simp [attr, translated]
    rw [or_iff_right late, ← left_eq_self_iff]
    rcases outcome with ⟨accepts, rfl⟩ | ⟨rejects, custom⟩
    · have keeps : ¬ calls.ChangesDivisor line.baudBase line.customDivisor cspeed := by
        intro changes
        exact absurd changes.1 (by simp [accepts])
      rw [applyAttr_fails fails]
      exact (and_iff_left keeps).symm
    · rcases setCustomSpeed_cases custom with
        ⟨noWrite, rfl⟩ | ⟨writes, rfl⟩ | ⟨refused, -, -, rfl⟩
      · rw [left_baudBase] at noWrite
        exact (and_iff_left fun changes => noWrite changes.2.1).symm
      · rw [left_baudBase] at writes
        rw [applyAttr_fails fails]
        refine left_divisor_eq_self_iff.trans ?_
        rw [left_baudBase]
        simp [LineCalls.ChangesDivisor, rejects, writes]
      · rw [applyAttr_fails fails]
        refine (and_iff_left fun changes => ?_).symm
        exact absurd changes.2.1.tiocsserial (by simp [refused])

end Failing

/-- The calls of a line whose settings cannot be applied. -/
def refusingCalls : LineCalls := { workingCalls with tcsetattr := false }

theorem setPortParams_unchanged_iff_9600 :
    ∃ result, workingLine.setPortParams refusingCalls 13 7 2 1 = some result ∧
      result.line = workingLine :=
  have ran : workingLine.setPortParams refusingCalls 13 7 2 1 = some ⟨true, workingLine, none⟩ := by
    decide
  ⟨_, ran, (setPortParams_unchanged_iff ran rfl).mpr
    (.inr ⟨fun hangsUp => absurd hangsUp.1 (by decide),
      fun changes => absurd changes.1 (by decide)⟩)⟩

/-- A failing call for speed 0 has dropped DTR. -/
theorem failed_speed_0_drops_dtr :
    ∃ result, workingLine.setPortParams refusingCalls 0 8 1 0 = some result ∧
      result.fails = true ∧ result.line.modem = 0x4 ∧ result.line ≠ workingLine :=
  ⟨⟨true, { workingLine with modem := 0x4 }, none⟩, by decide, rfl, rfl, by decide⟩

end Jrxtx.SerialImp
