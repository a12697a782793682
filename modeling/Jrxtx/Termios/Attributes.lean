import Jrxtx.JRxTxPort.FlowControlMode
import Jrxtx.RXTXPort.ReceiveTimeout
import Jrxtx.SerialImp.Line

/-!
# The terminal attributes on Windows

`tcgetattr` and `tcsetattr` of `termios.c` keep a `struct termios` with every
port and translate between it and the `DCB` of the system.  What `SetCommState`
has accepted is what `GetCommState` returns.
-/

namespace Jrxtx.Termios

open Jrxtx.FlowControlMode (crtscts ixon ixany ixoff)
open Jrxtx.SerialImp (csize cs5 cs6 cs7 cs8 cstopb parenb parodd cmspar translateSpeed
  translateCflag)

/-! ## Constants -/

def cbaud : BitVec 32 := 0x300f
def cbaudex : BitVec 32 := 0x1000
def cread : BitVec 32 := 0x80
def clocal : BitVec 32 := 0x800
def cignore : BitVec 32 := 0x20000
def ignpar : BitVec 32 := 0x4
def inpck : BitVec 32 := 0x10
def icanon : BitVec 32 := 0x2

/-- The fields that stand for the parity. -/
def parityMask : BitVec 32 := parenb ||| parodd ||| cmspar

/-- `CBR_to_B`; what is not in the table is a custom speed. -/
def cbrToB (baud : Int) : Int :=
  match baud with
  | 0 => 0
  | 50 => 1
  | 75 => 2
  | 110 => 3
  | 134 => 4
  | 150 => 5
  | 200 => 6
  | 300 => 7
  | 600 => 8
  | 1200 => 9
  | 1800 => 10
  | 2400 => 11
  | 4800 => 12
  | 9600 => 13
  | 14400 => 8193
  | 19200 => 14
  | 28800 => 8194
  | 38400 => 15
  | 57600 => 4097
  | 115200 => 4098
  | 128000 => 8195
  | 230400 => 4099
  | 256000 => 8196
  | 460800 => 4100
  | 500000 => 4101
  | 576000 => 4102
  | 921600 => 4103
  | 1000000 => 4104
  | 1152000 => 4105
  | 1500000 => 4106
  | 2000000 => 4107
  | 2500000 => 4108
  | 3000000 => 4109
  | 3500000 => 4110
  | 4000000 => 4111
  | baud => baud

/-- `B_to_CBR` -/
def bToCbr (baud : Int) : Int :=
  match baud with
  | 0 => 0
  | 1 => 50
  | 2 => 75
  | 3 => 110
  | 4 => 134
  | 5 => 150
  | 6 => 200
  | 7 => 300
  | 8 => 600
  | 9 => 1200
  | 10 => 1800
  | 11 => 2400
  | 12 => 4800
  | 13 => 9600
  | 8193 => 14400
  | 14 => 19200
  | 8194 => 28800
  | 15 => 38400
  | 4097 => 57600
  | 4098 => 115200
  | 8195 => 128000
  | 4099 => 230400
  | 8196 => 256000
  | 4100 => 460800
  | 4101 => 500000
  | 4102 => 576000
  | 4103 => 921600
  | 4104 => 1000000
  | 4105 => 1152000
  | 4106 => 1500000
  | 4107 => 2000000
  | 4108 => 2500000
  | 4109 => 3000000
  | 4110 => 3500000
  | 4111 => 4000000
  | baud => baud

/-- `translate_speed` with the constants of `win32termios.h`, which has four more. -/
def translateSpeedWin32 (speed : Int) : Int :=
  match speed with
  | 14400 => 8193
  | 28800 => 8194
  | 128000 => 8195
  | 256000 => 8196
  | speed => translateSpeed speed

/-! ## The structures -/

/-- The members of `struct termios` that are read. -/
structure Attr where
  iflag : BitVec 32
  cflag : BitVec 32
  lflag : BitVec 32
  vtime : BitVec 8
  vmin : BitVec 8
  vstart : BitVec 8
  vstop : BitVec 8
  veof : BitVec 8
  ispeed : Int
  ospeed : Int
  deriving DecidableEq, Repr

inductive DcbParity where
  | no
  | odd
  | even
  | mark
  | space
  deriving DecidableEq, Repr

inductive DcbStopBits where
  | one
  | oneFive
  | two
  deriving DecidableEq, Repr

inductive RtsControl where
  | disable
  | enable
  | handshake
  | toggle
  deriving DecidableEq, Repr

/-- The members of the `DCB` that are read. -/
structure Dcb where
  baudRate : Int
  byteSize : Nat
  parity : DcbParity
  stopBits : DcbStopBits
  fParity : Bool
  fOutxCtsFlow : Bool
  fTXContinueOnXoff : Bool
  fOutX : Bool
  fInX : Bool
  fRtsControl : RtsControl
  xonChar : BitVec 8
  xoffChar : BitVec 8
  eofChar : BitVec 8
  deriving DecidableEq, Repr

/-- An open port: the `ttyset` of its `struct termios_list`, and what the system has for its
handle. -/
structure WinPort where
  ttyset : Attr
  dcb : Dcb
  readTotalTimeoutConstant : Nat
  deriving DecidableEq, Repr

/-! ## From `termios` to the `DCB` -/

/-- The bits of a speed. -/
def speedBits (speed : Int) : BitVec 32 := BitVec.ofInt 32 speed

/-- `cfsetospeed`, which `cfsetispeed` calls too.  It always succeeds. -/
def cfsetospeed (ttyset : Attr) (speed : Int) : Attr :=
  let cleared := ttyset.cflag &&& ~~~cbaud
  let cflag :=
    if speedBits speed &&& ~~~cbaud ≠ 0 then cleared ||| speedBits 15 ||| cbaudex
    else if speed ≠ 0 then cleared ||| speedBits speed
    -- "PC blows up with speed 0"
    else cleared ||| speedBits 13
  { ttyset with cflag, ispeed := speed, ospeed := speed }

/-- `termios_to_bytesize` -/
def termiosToBytesize (cflag : BitVec 32) : Nat :=
  if cflag &&& csize = cs5 then 5
  else if cflag &&& csize = cs6 then 6
  else if cflag &&& csize = cs7 then 7
  else 8

/-- `bytesize_to_termios` -/
def bytesizeToTermios (byteSize : Nat) : BitVec 32 :=
  match byteSize with
  | 5 => cs5
  | 6 => cs6
  | 7 => cs7
  | _ => cs8

/-- The parity that `termios_to_DCB` writes. -/
def dcbParity (cflag : BitVec 32) : DcbParity :=
  if cflag &&& parenb ≠ 0 then
    if cflag &&& parodd ≠ 0 ∧ cflag &&& cmspar ≠ 0 then .mark
    else if cflag &&& parodd ≠ 0 then .odd
    else if cflag &&& cmspar ≠ 0 then .space
    else .even
  else .no

/-- The stop bits that `termios_to_DCB` writes. -/
def dcbStopBits (cflag : BitVec 32) : DcbStopBits :=
  if cflag &&& cstopb ≠ 0 then
    if termiosToBytesize cflag = 5 then .oneFive else .two
  else .one

/-- The first assignment of `termios_to_DCB`: the speed is that of `c_cflag`, unless it is
marked as a custom speed. -/
def Attr.codeSpeed (ttyset : Attr) : Attr :=
  if ttyset.cflag &&& cbaudex = 0 then
    { ttyset with
      ispeed := (ttyset.cflag &&& cbaud).toNat
      ospeed := (ttyset.cflag &&& cbaud).toNat }
  else ttyset

/-- `termios_to_DCB`, which changes both structures. -/
def termiosToDcb (ttyset : Attr) (dcb : Dcb) : Attr × Dcb :=
  let ttyset := ttyset.codeSpeed
  let flow := ttyset.cflag &&& crtscts ≠ 0
  (ttyset,
    { dcb with
      baudRate := bToCbr ttyset.ispeed
      byteSize := termiosToBytesize ttyset.cflag
      parity := dcbParity ttyset.cflag
      stopBits := dcbStopBits ttyset.cflag
      fRtsControl := if flow then .handshake else .disable
      fOutxCtsFlow := flow })

/-- Which calls of the system succeed in `tcsetattr`. -/
structure SetCalls where
  getCommState : Bool
  getCommTimeouts : Bool
  setCommState : Bool
  setCommTimeouts : Bool
  deriving DecidableEq, Repr

/-- The `DCB` that `tcsetattr` hands to `SetCommState`, and the `termios` that it keeps. -/
def WinPort.encode (port : WinPort) (ttyset : Attr) : Attr × Dcb :=
  let (ttyset, dcb) :=
    if ttyset.cflag &&& cignore = 0 then termiosToDcb ttyset { port.dcb with fParity := true }
    else (ttyset, port.dcb)
  (ttyset,
    { dcb with
      fOutX := ttyset.iflag &&& ixon ≠ 0
      fInX := ttyset.iflag &&& ixoff ≠ 0
      fTXContinueOnXoff := ttyset.iflag &&& ixany ≠ 0
      xonChar := ttyset.vstart
      xoffChar := ttyset.vstop
      eofChar := ttyset.veof })

/-- The time limit that `tcsetattr` hands to `SetCommTimeouts`. -/
def readTimeout (ttyset : Attr) : Nat :=
  let vtime := ttyset.vtime.toNat * 100
  if ttyset.vmin = 0 ∧ vtime = 0 then 0 else vtime

/-- `tcsetattr`: whether it fails, and the port afterwards. -/
def WinPort.tcsetattr (port : WinPort) (calls : SetCalls) (ttyset : Attr) : Bool × WinPort :=
  if ttyset.lflag &&& icanon ≠ 0 then (true, port)
  else if !calls.getCommState then (true, port)
  else if !calls.getCommTimeouts then (true, port)
  else
    let (ttyset, dcb) := port.encode ttyset
    if !calls.setCommState then (true, port)
    else if !calls.setCommTimeouts then (true, { port with dcb })
    else (false, ⟨ttyset, dcb, readTimeout ttyset⟩)

/-! ## From the `DCB` to `termios` -/

/-- `flags |= mask` or `flags &= ~mask` -/
def setIf (on : Bool) (flags mask : BitVec 32) : BitVec 32 :=
  if on then flags ||| mask else flags &&& ~~~mask

/-- The input flags that `tcgetattr` returns. -/
def Dcb.readIflag (dcb : Dcb) (iflag : BitVec 32) : BitVec 32 :=
  let iflag :=
    if dcb.fParity then (iflag ||| inpck) &&& ~~~ignpar else (iflag &&& ~~~inpck) ||| ignpar
  setIf dcb.fTXContinueOnXoff (setIf dcb.fInX (setIf dcb.fOutX iflag ixon) ixoff) ixany

/-- What the stop bits make of `c_cflag`. -/
def Dcb.readStopBits (dcb : Dcb) (cflag : BitVec 32) : BitVec 32 :=
  match dcb.stopBits with
  | .two => cflag ||| cstopb
  | .oneFive => cflag ||| cstopb ||| cs5
  | .one => cflag &&& ~~~cstopb

/-- What the parity makes of `c_cflag`; `fParity` has just been set to 1. -/
def Dcb.readParity (dcb : Dcb) (cflag : BitVec 32) : BitVec 32 :=
  let cflag := (cflag &&& ~~~parityMask) ||| parenb
  match dcb.parity with
  | .mark => cflag ||| (parodd ||| cmspar)
  | .space => cflag ||| cmspar
  | .odd => cflag ||| parodd
  | .even => cflag &&& ~~~parodd
  | .no => cflag &&& ~~~(parodd ||| cmspar ||| parenb)

/-- The control flags that `tcgetattr` returns, but for the speed. -/
def Dcb.readCflag (dcb : Dcb) (cflag : BitVec 32) : BitVec 32 :=
  let cflag := dcb.readParity (dcb.readStopBits cflag)
  setIf (dcb.fOutxCtsFlow || dcb.fRtsControl = .handshake)
    (cflag ||| bytesizeToTermios dcb.byteSize) crtscts

/-- `DCB_to_termios` -/
def dcbToTermios (dcb : Dcb) (ttyset : Attr) : Attr :=
  let speed := cbrToB dcb.baudRate
  { ttyset with
    ispeed := speed
    ospeed := speed
    cflag := ttyset.cflag ||| (speedBits speed &&& cbaud) }

/-- Which calls of the system succeed in `tcgetattr`. -/
structure GetCalls where
  getCommState : Bool
  getCommTimeouts : Bool
  deriving DecidableEq, Repr

/-- The `termios` that `tcgetattr` returns if all calls succeed. -/
def WinPort.decode (port : WinPort) : Attr :=
  dcbToTermios port.dcb
    { port.ttyset with
      iflag := port.dcb.readIflag port.ttyset.iflag
      cflag := port.dcb.readCflag port.ttyset.cflag
      vtime := BitVec.ofNat 8 (port.readTotalTimeoutConstant / 100)
      vstart := port.dcb.xonChar
      vstop := port.dcb.xoffChar
      veof := port.dcb.eofChar }

/-- `tcgetattr`, with no result if it fails. -/
def WinPort.tcgetattr (port : WinPort) (calls : GetCalls) : Option Attr :=
  if calls.getCommState && calls.getCommTimeouts then some port.decode else none

/-! ## Settings -/

/-- The values of Java's `int`. -/
abbrev Jint := { value : Int // -2147483648 ≤ value ∧ value < 2147483648 }

/-- The functions that read the attributes, change some of them and write them back. -/
inductive Setting where
  | configurePort
  | setPortParams (speed : Jint) (dataBits stopBits parity : Int)
  | setflowcontrol (flowmode : BitVec 32)
  | enableReceiveTimeoutThreshold (vtime threshold : Int)

/-- What a setting writes, if it accepts its arguments. -/
def Setting.change : Setting → Attr → Option Attr
  | .configurePort, ttyset =>
      some (cfsetospeed
        { ttyset with
          iflag := inpck, lflag := 0, cflag := cread ||| cs8 ||| clocal, vmin := 0, vtime := 0 }
        (translateSpeedWin32 9600))
  | .setPortParams speed dataBits stopBits parity, ttyset =>
      let cspeed := translateSpeedWin32 speed
      if cspeed < 0 then none
      else
        (translateCflag ttyset.cflag dataBits stopBits parity).map fun cflag =>
          cfsetospeed { ttyset with cflag } cspeed
  | .setflowcontrol flowmode, ttyset =>
      let flags := (FlowControlMode.Termios.mk ttyset.cflag ttyset.iflag).withFlowmode flowmode
      some { ttyset with cflag := flags.cflag, iflag := flags.iflag }
  | .enableReceiveTimeoutThreshold vtime threshold, ttyset =>
      let written := RXTXPort.writeControlChars vtime threshold
      some { ttyset with vmin := written.vmin, vtime := written.vtime }

/-- The calls of one setting. -/
structure SettingCalls where
  get : GetCalls
  set : SetCalls
  deriving DecidableEq, Repr

/-- A setting: the port afterwards, and what `tcsetattr` has been given if it has succeeded. -/
def WinPort.apply (port : WinPort) (calls : SettingCalls) (setting : Setting) :
    WinPort × Option Attr :=
  match (port.tcgetattr calls.get).bind setting.change with
  | none => (port, none)
  | some ttyset =>
      match port.tcsetattr calls.set ttyset with
      | (true, port) => (port, none)
      | (false, port) => (port, some ttyset)

end Jrxtx.Termios
