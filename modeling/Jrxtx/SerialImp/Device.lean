import Jrxtx.SerialImp.Params

/-!
# The settings of a device

What `set_port_params` writes to a device, and how `set_java_vars` reads the
settings back.  A device is left with the last settings that `tcsetattr` and
`TIOCSSERIAL` have accepted.
-/

namespace Jrxtx.SerialImp

/-! ## Flags and speeds -/

def csize : BitVec 32 := 0x30
def cs5 : BitVec 32 := 0x00
def cs6 : BitVec 32 := 0x10
def cs7 : BitVec 32 := 0x20
def cs8 : BitVec 32 := 0x30
def cstopb : BitVec 32 := 0x40
def parenb : BitVec 32 := 0x100
def parodd : BitVec 32 := 0x200
def cmspar : BitVec 32 := 0x40000000

/-- `translate_data_bits`: the new flags, or `none` if it returns 1. -/
def translateDataBits (cflag : BitVec 32) (dataBits : Int) : Option (BitVec 32) :=
  let temp := cflag &&& ~~~csize
  match dataBits with
  | 5 => some (temp ||| cs5)
  | 6 => some (temp ||| cs6)
  | 7 => some (temp ||| cs7)
  | 8 => some (temp ||| cs8)
  | _ => none

/-- `translate_stop_bits`; 3 stands for 1.5 stop bits. -/
def translateStopBits (cflag : BitVec 32) (stopBits : Int) : Option (BitVec 32) :=
  match stopBits with
  | 1 => some (cflag &&& ~~~cstopb)
  | 3 => translateDataBits (cflag ||| cstopb) 5
  | 2 => some (cflag ||| cstopb)
  | _ => none

/-- `translate_parity` -/
def translateParity (cflag : BitVec 32) (parity : Int) : Option (BitVec 32) :=
  let cleared := cflag &&& ~~~(parenb ||| parodd ||| cmspar)
  match parity with
  | 0 => some cleared
  | 2 => some (cleared ||| parenb)
  | 1 => some (cleared ||| (parenb ||| parodd))
  | 3 => some (cleared ||| (parenb ||| parodd ||| cmspar))
  | 4 => some (cleared ||| (parenb ||| cmspar))
  | _ => none

/-- `get_java_baudrate`, with the constants of Linux. -/
def getJavaBaudrate (nativeSpeed : Int) : Int :=
  match nativeSpeed with
  | 0 => 0
  | 1 => 50
  | 2 => 75
  | 3 => 110
  | 4 => 134
  | 5 => 150
  | 6 => 200
  | 7 => 300
  | 8 => 600
  | 9 => 1200
  | 10 => 1800
  | 11 => 2400
  | 12 => 4800
  | 13 => 9600
  | 14 => 19200
  | 15 => 38400
  | 4097 => 57600
  | 4098 => 115200
  | 4099 => 230400
  | 4100 => 460800
  | 4101 => 500000
  | 4102 => 576000
  | 4103 => 921600
  | 4104 => 1000000
  | 4105 => 1152000
  | 4106 => 1500000
  | 4107 => 2000000
  | 4108 => 2500000
  | 4109 => 3000000
  | 4110 => 3500000
  | 4111 => 4000000
  | _ => -1

/-- The arguments that `cfsetispeed` and `cfsetospeed` accept: `B0` to `B38400`, and the
extended constants. -/
def isSpeedConstant (speed : Int) : Bool :=
  (0 ≤ speed && speed ≤ 15) || (4096 ≤ speed && speed ≤ 4111)

/-! ## The device -/

/-- The settings of a device: `c_cflag` and the speed of its `struct termios`, and of its
`struct serial_struct` what matters for the speed. -/
structure Device where
  cflag : BitVec 32
  speed : Int
  baudBase : Int
  customDivisor : Int
  /-- `ASYNC_SPD_CUST`: the divisor is used in place of 38400 -/
  spdCust : Bool
  deriving DecidableEq, Repr

namespace Device

variable (device : Device)

/-- The data bits as `set_java_vars` reads them. -/
def dataBits : Int :=
  if device.cflag &&& csize = cs5 then 5
  else if device.cflag &&& csize = cs6 then 6
  else if device.cflag &&& csize = cs7 then 7
  else if device.cflag &&& csize = cs8 then 8
  else -1

/-- The stop bits as `set_java_vars` reads them. -/
def stopBits : Int :=
  if device.cflag &&& cstopb = 0 then 1
  else if device.cflag &&& csize = cs5 then 3
  else 2

/-- The parity as `set_java_vars` reads it. -/
def parity : Int :=
  let bits := device.cflag &&& (parenb ||| parodd ||| cmspar)
  if bits = 0 then 0
  else if bits = parenb then 2
  else if bits = parenb ||| parodd then 1
  else if bits = parenb ||| parodd ||| cmspar then 3
  else if bits = parenb ||| cmspar then 4
  else -1

/-- The baud rate at which the device runs. -/
def baudRate : Int :=
  if device.speed = b38400 ∧ device.spdCust = true then device.baudBase / device.customDivisor
  else getJavaBaudrate device.speed

end Device

/-- Which of the system calls of one call of `set_port_params` succeed. -/
structure DeviceCalls where
  tcgetattr : Bool
  /-- the first `ioctl(fd, TIOCGSERIAL, &sstruct)`, for `B38400` only -/
  supportsCustomSpeed : Bool
  /-- the second `ioctl(fd, TIOCGSERIAL, &sstruct)` -/
  tiocgserial : Bool
  tiocsserial : Bool
  tcsetattr : Bool
  deriving DecidableEq, Repr

/-- The speed that `set_port_params` asks for: that of a device with custom speeds for
`B38400`. -/
def askedSpeed (calls : DeviceCalls) (cspeed : Int) : Int :=
  if cspeed = b38400 ∧ calls.supportsCustomSpeed then 38400 else cspeed

/-- `set_port_params`: whether it returns 1, and the device afterwards. -/
def setPortParams (calls : DeviceCalls) (device : Device)
    (cspeed dataBits stopBits parity : Int) : Bool × Device :=
  if !calls.tcgetattr then (true, device)
  else
    match (translateDataBits device.cflag dataBits).bind fun cflag =>
        (translateStopBits cflag stopBits).bind fun cflag => translateParity cflag parity with
    | none => (true, device)
    | some cflag =>
        let cspeed := askedSpeed calls cspeed
        if isSpeedConstant cspeed then
          if calls.tcsetattr then (false, { device with cflag, speed := cspeed })
          else (true, device)
        else if !calls.tiocgserial then (true, device)
        else if device.baudBase < 1 then (true, device)
        else
          let changed :=
            if calls.tiocsserial then
              { device with customDivisor := device.baudBase.tdiv cspeed }
            else device
          -- errors of `TIOCSSERIAL` are ignored for 38400
          if !calls.tiocsserial && cspeed ≠ 38400 then (true, changed)
          else if calls.tcsetattr then (false, { changed with cflag, speed := b38400 })
          else (true, changed)

/-- `nativeSetSerialPortParams` -/
def nativeSetSerialPortParams (calls : DeviceCalls) (device : Device)
    (speed dataBits stopBits parity : Int) : Bool × Device :=
  let cspeed := translateSpeed speed
  if cspeed < 0 then (true, device)
  else setPortParams calls device cspeed dataBits stopBits parity

/-- The system calls of a device, as `setPortParamsFails` takes them. -/
def DeviceCalls.params (calls : DeviceCalls) (device : Device) : ParamCalls where
  tcgetattr := calls.tcgetattr
  supportsCustomSpeed := calls.supportsCustomSpeed
  cfsetispeed := isSpeedConstant
  cfsetospeed := isSpeedConstant
  baudBase := if calls.tiocgserial then some device.baudBase else none
  tiocsserial := calls.tiocsserial
  tcsetattr := calls.tcsetattr

section Failing

variable {calls : DeviceCalls} {device : Device} {cflag : BitVec 32}
  {cspeed dataBits stopBits parity : Int}

theorem translateDataBits_eq_none_iff (cflag : BitVec 32) (dataBits : Int) :
    translateDataBits cflag dataBits = none ↔ translateDataBitsFails dataBits = true := by
  fun_cases translateDataBits cflag dataBits <;> simp_all [translateDataBitsFails]

theorem translateStopBits_eq_none_iff (cflag : BitVec 32) (stopBits : Int) :
    translateStopBits cflag stopBits = none ↔ translateStopBitsFails stopBits = true := by
  fun_cases translateStopBits cflag stopBits <;>
    simp_all [translateStopBitsFails, translateDataBits]

theorem translateParity_eq_none_iff (cflag : BitVec 32) (parity : Int) :
    translateParity cflag parity = none ↔ translateParityFails parity = true := by
  fun_cases translateParity cflag parity <;> simp_all [translateParityFails]

/-- The new flags, if none of the three translations fails. -/
theorem translate_eq_none_iff (cflag : BitVec 32) (dataBits stopBits parity : Int) :
    ((translateDataBits cflag dataBits).bind fun cflag =>
        (translateStopBits cflag stopBits).bind fun cflag => translateParity cflag parity) = none ↔
      translateDataBitsFails dataBits = true ∨ translateStopBitsFails stopBits = true ∨
        translateParityFails parity = true := by
  cases data : translateDataBits cflag dataBits with
  | none => simp [(translateDataBits_eq_none_iff _ _).mp data]
  | some withData =>
      have dataOk : translateDataBitsFails dataBits = false := by
        simp [← Bool.not_eq_true, ← translateDataBits_eq_none_iff cflag, data]
      cases stop : translateStopBits withData stopBits with
      | none => simp [(translateStopBits_eq_none_iff _ _).mp stop, stop]
      | some withStop =>
          have stopOk : translateStopBitsFails stopBits = false := by
            simp [← Bool.not_eq_true, ← translateStopBits_eq_none_iff withData, stop]
          simp [dataOk, stopOk, stop, translateParity_eq_none_iff]

/-- `set_port_params` fails when its system calls make it fail. -/
theorem setPortParams_fails :
    (setPortParams calls device cspeed dataBits stopBits parity).1 =
      setPortParamsFails (calls.params device) cspeed dataBits stopBits parity := by
  have translated := translate_eq_none_iff device.cflag dataBits stopBits parity
  unfold setPortParams setPortParamsFails DeviceCalls.params askedSpeed
  cases bits : (translateDataBits device.cflag dataBits).bind fun cflag =>
      (translateStopBits cflag stopBits).bind fun cflag => translateParity cflag parity with
  | none =>
      have fails := translated.mp bits
      grind
  | some cflag =>
      obtain ⟨dataOk, stopOk, parityOk⟩ : translateDataBitsFails dataBits = false ∧
          translateStopBitsFails stopBits = false ∧ translateParityFails parity = false := by
        simpa [bits] using translated
      have base : isSpeedConstant b38400 = true := by decide
      simp only [dataOk, stopOk, parityOk, base, Bool.and_self, Bool.not_true, Bool.false_eq_true,
        if_false]
      generalize (if cspeed = b38400 ∧ calls.supportsCustomSpeed = true then (38400 : Int)
        else cspeed) = asked
      by_cases low : device.baudBase < 1 <;> by_cases target : asked = 38400 <;>
        cases calls.tcgetattr <;> cases isSpeedConstant asked <;> cases calls.tiocgserial <;>
        cases calls.tiocsserial <;> cases calls.tcsetattr <;> simp [low, target]

end Failing

/-! ## Reading back -/

section Reading

variable {calls : DeviceCalls} {device : Device} {cflag changed : BitVec 32}
  {cspeed dataBits stopBits parity : Int}

/-- The size bits of a number of data bits. -/
def sizeBits (dataBits : Int) : BitVec 32 :=
  if dataBits = 5 then cs5 else if dataBits = 6 then cs6 else if dataBits = 7 then cs7 else cs8

theorem and_or_self (flags mask : BitVec 32) : flags &&& mask ||| mask = mask := by
  ext i _
  simp only [BitVec.getElem_or, BitVec.getElem_and]
  cases mask[i] <;> simp

theorem translateDataBits_spec (translated : translateDataBits cflag dataBits = some changed) :
    changed &&& csize = sizeBits dataBits ∧
      (dataBits = 5 ∨ dataBits = 6 ∨ dataBits = 7 ∨ dataBits = 8) := by
  revert translated
  fun_cases translateDataBits cflag dataBits <;> intro translated <;>
    simp only [Option.some.injEq, reduceCtorEq] at translated <;> subst translated <;>
    simp +zetaDelta [sizeBits, csize, cs5, cs6, cs7, cs8, BitVec.and_or_distrib_right,
      BitVec.and_assoc]

theorem translateStopBits_spec (translated : translateStopBits cflag stopBits = some changed) :
    changed &&& csize = (if stopBits = 3 then cs5 else cflag &&& csize) ∧
      changed &&& cstopb = (if stopBits = 1 then 0 else cstopb) ∧
      (stopBits = 1 ∨ stopBits = 3 ∨ stopBits = 2) := by
  revert translated
  fun_cases translateStopBits cflag stopBits <;> intro translated <;>
    simp only [translateDataBits, Option.some.injEq, reduceCtorEq] at translated <;>
    subst translated <;>
    simp [csize, cs5, cstopb, BitVec.and_or_distrib_right, BitVec.and_assoc, and_or_self]

theorem translateParity_spec (translated : translateParity cflag parity = some changed)
    (isCflag : device.cflag = changed) :
    changed &&& csize = cflag &&& csize ∧ changed &&& cstopb = cflag &&& cstopb ∧
      device.parity = parity := by
  revert translated
  fun_cases translateParity cflag parity <;> intro translated <;>
    simp only [Option.some.injEq, reduceCtorEq] at translated <;> subst translated <;>
    simp +zetaDelta [Device.parity, isCflag, csize, cstopb, parenb, parodd, cmspar,
      BitVec.and_or_distrib_right, BitVec.and_assoc]

/-- Data bits, stop bits and parity as they are read back: 1.5 stop bits go together with
5 data bits, and with these 2 stop bits are 1.5. -/
theorem read_translated
    (translated : ((translateDataBits cflag dataBits).bind fun cflag =>
      (translateStopBits cflag stopBits).bind fun cflag => translateParity cflag parity) =
        some device.cflag) :
    device.dataBits = (if stopBits = 3 then 5 else dataBits) ∧
      device.stopBits =
        (if stopBits = 1 then 1 else if stopBits = 3 ∨ dataBits = 5 then 3 else 2) ∧
      device.parity = parity := by
  simp only [Option.bind_eq_some_iff] at translated
  obtain ⟨withData, data, withStop, stop, par⟩ := translated
  obtain ⟨sizeData, isData⟩ := translateDataBits_spec data
  obtain ⟨sizeStop, bitStop, isStop⟩ := translateStopBits_spec stop
  obtain ⟨size, bit, isParity⟩ := translateParity_spec par rfl
  rw [sizeStop, sizeData] at size
  rw [bitStop] at bit
  refine ⟨?_, ?_, isParity⟩
  · rw [Device.dataBits, size]
    split
    next => rfl
    next => rcases isData with rfl | rfl | rfl | rfl <;> rfl
  · rw [Device.stopBits, size, bit]
    rcases isStop with rfl | rfl | rfl
    · rfl
    · rfl
    · rcases isData with rfl | rfl | rfl | rfl <;> rfl

/-- The divisor that the device has after `speed` has been set by way of a custom
divisor. -/
def divisorFor (calls : DeviceCalls) (device : Device) (speed : Int) : Int :=
  if translateSpeed speed = b38400 then
    if calls.supportsCustomSpeed && calls.tiocsserial then device.baudBase.tdiv 38400
    else device.customDivisor
  else device.baudBase.tdiv (translateSpeed speed)

/-- The device can run at `speed`: there is a constant for it, or it uses the custom
divisor and that gives `speed`; 38400 is also the rate without a custom divisor. -/
def CanRun (calls : DeviceCalls) (device : Device) (speed : Int) : Prop :=
  if translateSpeed speed = b38400 ∨ isSpeedConstant (translateSpeed speed) = false then
    if device.spdCust then device.baudBase / divisorFor calls device speed = speed
    else speed = 38400
  else getJavaBaudrate (translateSpeed speed) = speed

/-- The device after a successful call. -/
theorem setPortParams_spec
    (succeeds : (setPortParams calls device cspeed dataBits stopBits parity).1 = false) :
    ∃ cflag, ((translateDataBits device.cflag dataBits).bind fun cflag =>
        (translateStopBits cflag stopBits).bind fun cflag => translateParity cflag parity) =
          some cflag ∧
      (isSpeedConstant (askedSpeed calls cspeed) = true ∨ calls.tiocsserial = true ∨
        askedSpeed calls cspeed = 38400) ∧
      (setPortParams calls device cspeed dataBits stopBits parity).2 =
        if isSpeedConstant (askedSpeed calls cspeed) then
          { device with cflag, speed := askedSpeed calls cspeed }
        else
          { device with
            cflag
            speed := b38400
            customDivisor :=
              if calls.tiocsserial then device.baudBase.tdiv (askedSpeed calls cspeed)
              else device.customDivisor } := by
  revert succeeds
  fun_cases setPortParams calls device cspeed dataBits stopBits parity
  case case3 _ cflag translated asked constant _ =>
    intro _
    refine ⟨cflag, translated, .inl constant, ?_⟩
    rw [if_pos constant]
  case case8 _ cflag translated asked noConstant _ _ changed ignored _ =>
    intro _
    refine ⟨cflag, translated, .inr ?_, ?_⟩
    · cases sets : calls.tiocsserial with
      | true => exact .inl rfl
      | false => exact .inr (by simpa [sets] using ignored)
    · rw [if_neg noConstant]
      simp only [changed]
      split <;> rfl
  all_goals intro succeeds; simp at succeeds

theorem translateSpeed_ne_38400 {speed : Int} : translateSpeed speed ≠ 38400 := by
  fun_cases translateSpeed speed <;> simp_all [b38400]

/-- After a successful call the device runs at `speed` if and only if it can. -/
theorem nativeSetSerialPortParams_baudRate {speed : Int}
    (succeeds : (nativeSetSerialPortParams calls device speed dataBits stopBits parity).1 =
      false) :
    (nativeSetSerialPortParams calls device speed dataBits stopBits parity).2.baudRate = speed ↔
      CanRun calls device speed := by
  unfold nativeSetSerialPortParams at succeeds ⊢
  by_cases negative : translateSpeed speed < 0
  · simp [negative] at succeeds
  · simp only [if_neg negative] at succeeds ⊢
    obtain ⟨cflag, -, written, after⟩ := setPortParams_spec succeeds
    rw [after, CanRun, divisorFor]
    unfold askedSpeed
    have standard : getJavaBaudrate b38400 = speed ↔ speed = 38400 := eq_comm
    by_cases custom : translateSpeed speed = b38400
    · have constant : isSpeedConstant b38400 = true := by decide
      have noConstant : isSpeedConstant 38400 = false := by decide
      by_cases supports : calls.supportsCustomSpeed = true
      · by_cases uses : device.spdCust = true
        · cases calls.tiocsserial <;> simp [custom, supports, noConstant, uses, Device.baudRate]
        · simp [custom, supports, noConstant, uses, Device.baudRate, standard]
      · by_cases uses : device.spdCust = true
        · simp [custom, supports, constant, uses, Device.baudRate]
        · simp [custom, supports, constant, uses, Device.baudRate, standard]
    · by_cases constant : isSpeedConstant (translateSpeed speed) = true
      · simp [custom, constant, Device.baudRate]
      · by_cases uses : device.spdCust = true
        · simp only [askedSpeed, custom, false_and, if_false, constant,
            translateSpeed_ne_38400, or_false, Bool.false_eq_true, false_or] at written
          simp [custom, constant, uses, Device.baudRate, written]
        · simp [custom, constant, uses, Device.baudRate, standard]

/-- After a successful call data bits, stop bits and parity are read back as
`read_translated` says. -/
theorem nativeSetSerialPortParams_read {speed : Int} {after : Device}
    (succeeds : nativeSetSerialPortParams calls device speed dataBits stopBits parity =
      (false, after)) :
    after.dataBits = (if stopBits = 3 then 5 else dataBits) ∧
      after.stopBits =
        (if stopBits = 1 then 1 else if stopBits = 3 ∨ dataBits = 5 then 3 else 2) ∧
      after.parity = parity := by
  unfold nativeSetSerialPortParams at succeeds
  by_cases negative : translateSpeed speed < 0
  · simp [negative] at succeeds
  · simp only [if_neg negative] at succeeds
    obtain ⟨cflag, translated, -, written⟩ := setPortParams_spec (congrArg Prod.fst succeeds)
    rw [succeeds] at written
    have isCflag : after.cflag = cflag := by
      simp only at written
      rw [written]
      split <;> rfl
    exact read_translated (isCflag ▸ translated)

/-- No call changes the `baud_base`, and a failing call keeps the terminal settings. -/
theorem setPortParams_kept :
    (setPortParams calls device cspeed dataBits stopBits parity).2.baudBase = device.baudBase ∧
      ((setPortParams calls device cspeed dataBits stopBits parity).1 = true →
        (setPortParams calls device cspeed dataBits stopBits parity).2.cflag = device.cflag ∧
          (setPortParams calls device cspeed dataBits stopBits parity).2.speed =
            device.speed) := by
  have divisor : ∀ divisor : Int,
      (if calls.tiocsserial then { device with customDivisor := divisor } else device).baudBase =
          device.baudBase ∧
        (if calls.tiocsserial then { device with customDivisor := divisor } else device).cflag =
          device.cflag ∧
        (if calls.tiocsserial then { device with customDivisor := divisor } else device).speed =
          device.speed := by
    intro divisor
    split <;> exact ⟨rfl, rfl, rfl⟩
  fun_cases setPortParams calls device cspeed dataBits stopBits parity
  case case7 _ _ _ asked _ _ _ changed _ =>
    obtain ⟨baudBase, cflag, speed⟩ := divisor (device.baudBase.tdiv asked)
    exact ⟨baudBase, fun _ => ⟨cflag, speed⟩⟩
  case case8 _ _ _ asked _ _ _ changed _ _ =>
    exact ⟨(divisor (device.baudBase.tdiv asked)).1, by simp⟩
  case case9 _ _ _ asked _ _ _ changed _ _ =>
    obtain ⟨baudBase, cflag, speed⟩ := divisor (device.baudBase.tdiv asked)
    exact ⟨baudBase, fun _ => ⟨cflag, speed⟩⟩
  all_goals simp

theorem nativeSetSerialPortParams_kept (calls : DeviceCalls) (device : Device)
    (speed dataBits stopBits parity : Int) :
    (nativeSetSerialPortParams calls device speed dataBits stopBits parity).2.baudBase =
        device.baudBase ∧
      ((nativeSetSerialPortParams calls device speed dataBits stopBits parity).1 = true →
        (nativeSetSerialPortParams calls device speed dataBits stopBits parity).2.cflag =
            device.cflag ∧
          (nativeSetSerialPortParams calls device speed dataBits stopBits parity).2.speed =
            device.speed) := by
  by_cases negative : translateSpeed speed < 0
  · simp [nativeSetSerialPortParams, negative]
  · simpa only [nativeSetSerialPortParams, if_neg negative] using setPortParams_kept

/-- Whether a call fails depends on the device through its `baud_base` only. -/
theorem nativeSetSerialPortParams_congr {other : Device} (calls : DeviceCalls)
    (speed dataBits stopBits parity : Int) (same : other.baudBase = device.baudBase) :
    (nativeSetSerialPortParams calls other speed dataBits stopBits parity).1 =
      (nativeSetSerialPortParams calls device speed dataBits stopBits parity).1 := by
  by_cases negative : translateSpeed speed < 0
  · simp [nativeSetSerialPortParams, negative]
  · simp only [nativeSetSerialPortParams, if_neg negative, setPortParams_fails,
      DeviceCalls.params, same]

end Reading

end Jrxtx.SerialImp
