import Mathlib.Data.Int.Notation

/-!
# Configuring a serial port

The outcomes of the system calls of `configure_port` and `set_port_params` are
given, and the functions tell whether they report a failure.  The settings that
they write to the device play no part here.
-/

namespace Jrxtx.SerialImp

/-! ## Speeds -/

/-- The value of the constant `B38400`. -/
def b38400 : Int := 15

/-- `translate_speed`: the `speed_t` constants of Linux, custom speeds as they
are, and -1 for a negative speed. -/
def translateSpeed (speed : Int) : Int :=
  match speed with
  | 0 => 0
  | 50 => 1
  | 75 => 2
  | 110 => 3
  | 134 => 4
  | 150 => 5
  | 200 => 6
  | 300 => 7
  | 600 => 8
  | 1200 => 9
  | 1800 => 10
  | 2400 => 11
  | 4800 => 12
  | 9600 => 13
  | 19200 => 14
  | 38400 => b38400
  | 57600 => 4097
  | 115200 => 4098
  | 230400 => 4099
  | 460800 => 4100
  | 500000 => 4101
  | 576000 => 4102
  | 921600 => 4103
  | 1000000 => 4104
  | 1152000 => 4105
  | 1500000 => 4106
  | 2000000 => 4107
  | 2500000 => 4108
  | 3000000 => 4109
  | 3500000 => 4110
  | 4000000 => 4111
  | speed => if 0 ≤ speed then speed else -1

theorem translateSpeed_eq_neg_one_iff {speed : Int} : translateSpeed speed = -1 ↔ speed < 0 := by
  fun_cases translateSpeed speed <;> simp_all [b38400]
  all_goals omega

/-- In which cases `translate_data_bits` returns 1. -/
def translateDataBitsFails (dataBits : Int) : Bool :=
  dataBits ∉ [5, 6, 7, 8]

/-- In which cases `translate_stop_bits` returns 1. -/
def translateStopBitsFails (stopBits : Int) : Bool :=
  stopBits ∉ [1, 2, 3]

/-- In which cases `translate_parity` returns 1. -/
def translateParityFails (parity : Int) : Bool :=
  parity ∉ [0, 1, 2, 3, 4]

/-! ## System calls -/

/-- Which of the calls of `configure_port` succeed. -/
structure ConfigureCalls where
  tcgetattr : Bool
  cfsetispeed : Bool
  cfsetospeed : Bool
  tcsetattr : Bool
  deriving DecidableEq, Repr

/-- `configure_port` returns 1.  The results of its calls of `fcntl` are ignored. -/
def configurePortFails (calls : ConfigureCalls) (fd : Int) : Bool :=
  fd < 0 || !calls.tcgetattr || !calls.cfsetispeed || !calls.cfsetospeed || !calls.tcsetattr

/-- The outcomes of the calls of `set_port_params`: which of them succeed, for
which speeds, and the `baud_base` that the driver reports. -/
structure ParamCalls where
  tcgetattr : Bool
  /-- the first `ioctl(fd, TIOCGSERIAL, &sstruct)`, for `B38400` only -/
  supportsCustomSpeed : Bool
  cfsetispeed : Int → Bool
  cfsetospeed : Int → Bool
  /-- the second `ioctl(fd, TIOCGSERIAL, &sstruct)` -/
  baudBase : Option Int
  tiocsserial : Bool
  tcsetattr : Bool

/-- `set_port_params` returns 1. -/
def setPortParamsFails (calls : ParamCalls) (cspeed dataBits stopBits parity : Int) : Bool :=
  if !calls.tcgetattr then true
  else if translateDataBitsFails dataBits then true
  else if translateStopBitsFails stopBits then true
  else if translateParityFails parity then true
  else
    let cspeed := if cspeed = b38400 ∧ calls.supportsCustomSpeed then 38400 else cspeed
    if calls.cfsetispeed cspeed && calls.cfsetospeed cspeed then !calls.tcsetattr
    else
      match calls.baudBase with
      | none => true
      | some baudBase =>
          if !(calls.cfsetispeed b38400 && calls.cfsetospeed b38400) then true
          -- errors of `TIOCSSERIAL` are ignored for 38400
          else if baudBase < 1 || (!calls.tiocsserial && cspeed ≠ 38400) then true
          else !calls.tcsetattr

end Jrxtx.SerialImp
