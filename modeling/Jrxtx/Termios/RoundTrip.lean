import Jrxtx.SerialImp.Decoders
import Jrxtx.Termios.Attributes

/-!
# What `tcgetattr` returns after `tcsetattr`

The invariant of a port after any sequence of settings: its `DCB` and its
`termios` are those of the last successful `tcsetattr`, and what that was given
can be told from them.
-/

namespace Jrxtx.Termios

open Jrxtx.FlowControlMode (crtscts ixon ixany ixoff)
open Jrxtx.SerialImp (csize cs5 cs6 cs7 cs8 cstopb parenb parodd cmspar translateSpeed
  translateCflag)
open Jrxtx.Transition Jrxtx.Words

/-! ## Reading the flags -/

section Flags

variable {cflag : BitVec 32} {dcb : Dcb}

theorem parenb_cases (cflag : BitVec 32) : cflag &&& parenb = 0 ∨ cflag &&& parenb = parenb :=
  single_cases (i := 8) rfl cflag

theorem parodd_cases (cflag : BitVec 32) : cflag &&& parodd = 0 ∨ cflag &&& parodd = parodd :=
  single_cases (i := 9) rfl cflag

theorem cmspar_cases (cflag : BitVec 32) : cflag &&& cmspar = 0 ∨ cflag &&& cmspar = cmspar :=
  single_cases (i := 30) rfl cflag

/-- Without `PARENB` the other two parity flags are clear. -/
def ParityCoded (cflag : BitVec 32) : Prop :=
  cflag &&& parenb = 0 → cflag &&& parodd = 0 ∧ cflag &&& cmspar = 0

/-- The parity flags of a `DCB`. -/
def parityFlags : DcbParity → BitVec 32
  | .no => 0
  | .odd => parenb ||| parodd
  | .even => parenb
  | .mark => parenb ||| parodd ||| cmspar
  | .space => parenb ||| cmspar

theorem parityFlags_dcbParity (coded : ParityCoded cflag) :
    parityFlags (dcbParity cflag) = cflag &&& parityMask := by
  have split : cflag &&& parityMask =
      (cflag &&& parenb) ||| (cflag &&& parodd) ||| (cflag &&& cmspar) := by
    rw [parityMask, BitVec.and_or_distrib_left, BitVec.and_or_distrib_left]
  rcases parenb_cases cflag with enb | enb
  · rw [split, dcbParity, enb, (coded enb).1, (coded enb).2]
    decide
  · rcases parodd_cases cflag with odd | odd <;> rcases cmspar_cases cflag with spar | spar <;>
      rw [split, dcbParity, enb, odd, spar] <;> decide

/-- The parity flags are cleared and written again. -/
theorem readParity_eq (dcb : Dcb) (cflag : BitVec 32) :
    dcb.readParity cflag = (cflag &&& ~~~parityMask) ||| parityFlags dcb.parity := by
  have outside : ∀ part : BitVec 32, ~~~parityMask &&& part = 0 →
      cflag &&& ~~~parityMask &&& part = 0 := by
    intro part apart
    rw [BitVec.and_assoc, apart]
    exact BitVec.and_zero
  have cleared : ∀ part : BitVec 32, parenb &&& ~~~part = 0 → ~~~parityMask &&& part = 0 →
      ((cflag &&& ~~~parityMask) ||| parenb) &&& ~~~part = cflag &&& ~~~parityMask := by
    intro part gone apart
    rw [BitVec.and_or_distrib_right, gone, clear_eq_self (outside part apart)]
    exact BitVec.or_zero
  cases parity : dcb.parity with
  | no =>
      simp only [Dcb.readParity, parity, parityFlags]
      rw [cleared _ (by decide) (by decide)]
      exact BitVec.or_zero.symm
  | even =>
      simp only [Dcb.readParity, parity, parityFlags]
      refine clear_eq_self ?_
      rw [or_within (by decide), outside parodd (by decide)]
  | odd => simp only [Dcb.readParity, parity, parityFlags, BitVec.or_assoc]
  | mark => simp only [Dcb.readParity, parity, parityFlags, BitVec.or_assoc]
  | space => simp only [Dcb.readParity, parity, parityFlags, BitVec.or_assoc]

theorem readParity_eq_self (coded : ParityCoded cflag) (written : dcb.parity = dcbParity cflag) :
    dcb.readParity cflag = cflag := by
  rw [readParity_eq, written, parityFlags_dcbParity coded, rewrite_eq_self]

theorem readStopBits_eq_self (written : dcb.stopBits = dcbStopBits cflag) :
    dcb.readStopBits cflag = cflag := by
  have single : cflag &&& cstopb = 0 ∨ cflag &&& cstopb = cstopb :=
    single_cases (i := 6) rfl cflag
  rcases single with clear | isSet
  · simp only [Dcb.readStopBits, written, dcbStopBits, clear, ne_eq, not_true, if_false]
    exact clear_eq_self clear
  · have nonzero : cflag &&& cstopb ≠ 0 := by
      rw [isSet]
      decide
    have kept : cflag ||| cstopb = cflag := or_eq_self isSet
    simp only [Dcb.readStopBits, written, dcbStopBits, if_pos nonzero]
    split
    next => exact kept
    next => rw [kept]; exact BitVec.or_zero
    next ends => split at ends <;> simp at ends

theorem bytesize_roundTrip (cflag : BitVec 32) :
    bytesizeToTermios (termiosToBytesize cflag) = cflag &&& csize := by
  have split : cflag &&& csize = (cflag &&& cs6) ||| (cflag &&& cs7) :=
    BitVec.and_or_distrib_left (x := cflag) (y := cs6) (z := cs7)
  have low : cflag &&& cs6 = 0 ∨ cflag &&& cs6 = cs6 := single_cases (i := 4) rfl cflag
  have high : cflag &&& cs7 = 0 ∨ cflag &&& cs7 = cs7 := single_cases (i := 5) rfl cflag
  unfold termiosToBytesize
  rw [split]
  rcases low with low | low <;> rcases high with high | high <;> rw [low, high] <;> decide

theorem setIf_eq_self {mask : BitVec 32} {i : Nat} (isBit : mask = BitVec.twoPow 32 i)
    (on : Bool) (written : on = decide (cflag &&& mask ≠ 0)) : setIf on cflag mask = cflag := by
  subst written
  unfold setIf
  rcases single_cases isBit cflag with clear | isSet
  · simp only [clear, ne_eq, not_true, decide_false, Bool.false_eq_true, if_false]
    exact clear_eq_self clear
  · split
    next => exact or_eq_self isSet
    next off =>
      have zero : cflag &&& mask = 0 := by simpa using off
      exact clear_eq_self zero

/-- A flag that has just been written is read. -/
theorem setIf_and_self {flags mask : BitVec 32} {i : Nat} (isBit : mask = BitVec.twoPow 32 i)
    (word : BitVec 32) :
    setIf (decide (word &&& mask ≠ 0)) flags mask &&& mask = word &&& mask := by
  have whole : (flags ||| mask) &&& mask = mask := by
    rw [BitVec.and_or_distrib_right, BitVec.and_self, SerialImp.and_or_self]
  unfold setIf
  rcases single_cases isBit word with clear | isSet
  · simp only [clear, ne_eq, not_true, decide_false, Bool.false_eq_true, if_false]
    rw [BitVec.and_assoc, BitVec.not_and_self]
    exact BitVec.and_zero
  · split
    next => rw [whole, isSet]
    next off =>
      have zero : word &&& mask = 0 := by simpa using off
      rw [BitVec.and_assoc, BitVec.not_and_self, zero]
      exact BitVec.and_zero

theorem setIf_and_other {on : Bool} {flags mask other : BitVec 32} (apart : mask &&& other = 0) :
    setIf on flags mask &&& other = flags &&& other := by
  unfold setIf
  split
  next => exact or_within apart
  next =>
    have kept : ((flags &&& ~~~mask) ||| 0) &&& other = flags &&& other :=
      update_within apart (by simp)
    simpa using kept

end Flags

/-! ## Speeds -/

/-- The values of the constants but for `B0`. -/
def isBValue (speed : Int) : Bool :=
  (1 ≤ speed && speed ≤ 15) || (4097 ≤ speed && speed ≤ 4111) || (8193 ≤ speed && speed ≤ 8196)

section Speeds

variable {speed : Int}

/-- A speed that is in neither table, or the value of a constant. -/
theorem cbrToB_bToCbr (noRate : cbrToB speed = speed) : cbrToB (bToCbr speed) = speed := by
  fun_cases bToCbr speed
  case case36 => exact noRate
  all_goals rfl

theorem bToCbr_of_noBValue (noValue : isBValue speed = false) : bToCbr speed = speed := by
  fun_cases bToCbr speed
  all_goals first | rfl | exact absurd noValue (by decide)

/-- What `translate_speed` makes of a speed. -/
theorem translateSpeedWin32_spec (notNegative : 0 ≤ speed) :
    cbrToB (bToCbr (translateSpeedWin32 speed)) = translateSpeedWin32 speed ∧
      0 ≤ translateSpeedWin32 speed ∧ translateSpeedWin32 speed ≤ max speed 8196 ∧
      (translateSpeedWin32 speed = 0 ↔ speed = 0) ∧
      (isBValue speed = false → bToCbr (translateSpeedWin32 speed) = speed) := by
  fun_cases translateSpeedWin32 speed
  case case5 =>
    fun_cases translateSpeed speed
    case case32 =>
      have noRate : cbrToB speed = speed := by
        fun_cases cbrToB speed <;> first | contradiction | rfl
      exact ⟨cbrToB_bToCbr noRate, notNegative, by omega, Iff.rfl, bToCbr_of_noBValue⟩
    case case33 negative => exact absurd notNegative negative
    all_goals decide
  all_goals decide

theorem speedBits_toNat (word : BitVec 32) : speedBits (word.toNat : Int) = word := by
  rw [speedBits, BitVec.ofInt_natCast, BitVec.ofNat_toNat, BitVec.setWidth_eq]

theorem toNat_speedBits (notNegative : 0 ≤ speed) (isInt : speed < 2147483648) :
    ((speedBits speed).toNat : Int) = speed := by
  rw [speedBits, BitVec.toNat_ofInt, Int.toNat_of_nonneg (Int.emod_nonneg _ (by decide))]
  exact Int.emod_eq_of_lt notNegative (by omega)

theorem codeSpeed_ispeed (ttyset : Attr) :
    ttyset.codeSpeed.ispeed =
      if ttyset.cflag &&& cbaudex = 0 then ((ttyset.cflag &&& cbaud).toNat : Int)
      else ttyset.ispeed := by
  unfold Attr.codeSpeed
  split <;> rfl

@[simp] theorem codeSpeed_cflag (ttyset : Attr) : ttyset.codeSpeed.cflag = ttyset.cflag := by
  unfold Attr.codeSpeed
  split <;> rfl

@[simp] theorem codeSpeed_iflag (ttyset : Attr) : ttyset.codeSpeed.iflag = ttyset.iflag := by
  unfold Attr.codeSpeed
  split <;> rfl

/-- What `cfsetospeed` writes to the field of the speed. -/
def codedBits (speed : Int) : BitVec 32 :=
  if speedBits speed &&& ~~~cbaud ≠ 0 then speedBits 15 ||| cbaudex
  else if speed ≠ 0 then speedBits speed
  else speedBits 13

theorem cfsetospeed_cflag (ttyset : Attr) (speed : Int) :
    (cfsetospeed ttyset speed).cflag = (ttyset.cflag &&& ~~~cbaud) ||| codedBits speed := by
  unfold cfsetospeed codedBits
  dsimp only
  split
  next => exact BitVec.or_assoc ..
  next => split <;> rfl

theorem codedBits_within (speed : Int) : codedBits speed &&& cbaud = codedBits speed := by
  unfold codedBits
  split
  next => decide
  next inside =>
    split
    next => exact within_of_outside (by simpa using inside)
    next => decide

/-- The flags outside of the speed are kept. -/
theorem cfsetospeed_and_other (ttyset : Attr) (speed : Int) {other : BitVec 32}
    (apart : cbaud &&& other = 0) :
    (cfsetospeed ttyset speed).cflag &&& other = ttyset.cflag &&& other := by
  have sets : codedBits speed &&& other = 0 := by
    rw [← codedBits_within, BitVec.and_assoc, apart]
    exact BitVec.and_zero
  rw [cfsetospeed_cflag]
  exact update_within apart sets

/-- The speed that `termios_to_DCB` finds after `cfsetospeed`. -/
theorem cfsetospeed_codeSpeed (ttyset : Attr) (notNegative : 0 ≤ speed)
    (isInt : speed < 2147483648) :
    (cfsetospeed ttyset speed).codeSpeed.ispeed = if speed = 0 then 13 else speed := by
  have field : (cfsetospeed ttyset speed).cflag &&& cbaud = codedBits speed := by
    rw [cfsetospeed_cflag, write_and_self (codedBits_within speed)]
  have mark : (cfsetospeed ttyset speed).cflag &&& cbaudex = codedBits speed &&& cbaudex := by
    rw [← field]
    exact and_part (by decide)
  have isSpeed : (cfsetospeed ttyset speed).ispeed = speed := rfl
  rw [codeSpeed_ispeed, mark, field, isSpeed]
  by_cases zero : speed = 0
  · subst zero
    decide
  · by_cases custom : speedBits speed &&& ~~~cbaud = 0
    · have isBits : codedBits speed = speedBits speed := by
        rw [codedBits, if_neg (not_not_intro custom), if_pos zero]
      rw [if_neg zero, isBits, toNat_speedBits notNegative isInt, ite_self]
    · have isBits : codedBits speed = speedBits 15 ||| cbaudex := by
        rw [codedBits, if_pos custom]
      rw [if_neg zero, isBits, if_neg (by decide)]

end Speeds

/-! ## What the settings write -/

/-- The baud rate of the `DCB` is `requested`, except where a speed has no rate of its own. -/
def HasRate (requested rate : Int) : Prop :=
  requested ≠ 0 → isBValue requested = false → rate = requested

/-- What `tcsetattr` is given: it can be told from the `DCB`. -/
structure Prepared (requested : Int) (ttyset : Attr) : Prop where
  parity : ParityCoded ttyset.cflag
  notIgnored : ttyset.cflag &&& cignore = 0
  canonical : cbrToB (bToCbr ttyset.codeSpeed.ispeed) = ttyset.codeSpeed.ispeed
  speed : ttyset.ispeed ≠ 0 → ttyset.codeSpeed.ispeed = ttyset.ispeed
  both : ttyset.ospeed = ttyset.ispeed
  rate : HasRate requested (bToCbr ttyset.codeSpeed.ispeed)

/-- What `tcgetattr` returns: moreover the speed is the one that `termios_to_DCB` would find. -/
structure Returned (requested : Int) (ttyset : Attr) : Prop extends Prepared requested ttyset where
  coded : ttyset.codeSpeed.ispeed = ttyset.ispeed

/-- The speed that is asked for from then on. -/
def Setting.requested : Setting → Int → Int
  | .configurePort, _ => 9600
  | .setPortParams speed _ _ _, _ => speed
  | .setflowcontrol _, requested => requested
  | .enableReceiveTimeoutThreshold _ _, requested => requested

section Settings

variable {requested speed : Int} {ttyset changed : Attr}

theorem ParityCoded.congr {cflag other : BitVec 32} (coded : ParityCoded cflag)
    (same : other &&& parityMask = cflag &&& parityMask) : ParityCoded other := by
  have part : ∀ mask : BitVec 32, parityMask &&& mask = mask →
      other &&& mask = cflag &&& mask := by
    intro mask within
    rw [and_part within, same, ← and_part within]
  intro clear
  rw [part parenb (by decide)] at clear
  rw [part parodd (by decide), part cmspar (by decide)]
  exact coded clear

/-- Other flags do not matter to what is written. -/
theorem Prepared.congr (prepared : Prepared requested ttyset)
    (parity : changed.cflag &&& parityMask = ttyset.cflag &&& parityMask)
    (ignored : changed.cflag &&& cignore = ttyset.cflag &&& cignore)
    (speed : changed.cflag &&& cbaud = ttyset.cflag &&& cbaud)
    (ispeed : changed.ispeed = ttyset.ispeed) (ospeed : changed.ospeed = ttyset.ospeed) :
    Prepared requested changed := by
  have mark : changed.cflag &&& cbaudex = ttyset.cflag &&& cbaudex := by
    have within : cbaud &&& cbaudex = cbaudex := by decide
    rw [and_part within, speed, ← and_part within]
  have coded : changed.codeSpeed.ispeed = ttyset.codeSpeed.ispeed := by
    rw [codeSpeed_ispeed, codeSpeed_ispeed, mark, speed, ispeed]
  constructor
  · exact prepared.parity.congr parity
  · rw [ignored]
    exact prepared.notIgnored
  · rw [coded]
    exact prepared.canonical
  · rw [coded, ispeed]
    exact prepared.speed
  · rw [ispeed, ospeed]
    exact prepared.both
  · rw [coded]
    exact prepared.rate

/-- The flags of `translate_data_bits` and so on, with the speed of `cfsetospeed`. -/
theorem prepared_cfsetospeed (speed : Int) (notNegative : 0 ≤ speed) (isInt : speed < 2147483648)
    (parity : ParityCoded ttyset.cflag) (notIgnored : ttyset.cflag &&& cignore = 0) :
    Prepared speed (cfsetospeed ttyset (translateSpeedWin32 speed)) := by
  obtain ⟨canonical, lower, upper, isZero, rate⟩ := translateSpeedWin32_spec notNegative
  have coded := cfsetospeed_codeSpeed ttyset lower (by omega)
  constructor
  · exact parity.congr (cfsetospeed_and_other ttyset _ (by decide))
  · rw [cfsetospeed_and_other ttyset _ (by decide)]
    exact notIgnored
  · rw [coded]
    split
    next => decide
    next => exact canonical
  · intro nonzero
    have isSpeed : (cfsetospeed ttyset (translateSpeedWin32 speed)).ispeed =
        translateSpeedWin32 speed := rfl
    rw [isSpeed] at nonzero ⊢
    rw [coded, if_neg nonzero]
  · rfl
  · intro nonzero noValue
    rw [coded, if_neg fun zero => nonzero (isZero.mp zero)]
    exact rate noValue

/-- An opened port, whatever `tcgetattr` has returned. -/
theorem configurePort_prepared (ttyset : Attr)
    (changes : Setting.configurePort.change ttyset = some changed) : Prepared 9600 changed := by
  rw [← Option.some.inj changes]
  have coded : ParityCoded (cread ||| cs8 ||| clocal) := by
    intro _
    decide
  have notIgnored : (cread ||| cs8 ||| clocal) &&& cignore = 0 := by decide
  exact prepared_cfsetospeed 9600 (by decide) (by decide) coded notIgnored

theorem translateSpeedWin32_accepts (accepted : ¬ translateSpeedWin32 speed < 0) : 0 ≤ speed := by
  by_contra negative
  have isNegative : translateSpeedWin32 speed = -1 := by
    fun_cases translateSpeedWin32 speed
    case case5 => exact SerialImp.translateSpeed_eq_neg_one_iff.mpr (by omega)
    all_goals omega
  omega

/-- `translate_parity` writes the three flags together. -/
theorem parityCoded_translated {cflag flags : BitVec 32} {dataBits stopBits parity : Int}
    (translated : translateCflag flags dataBits stopBits parity = some cflag) :
    ParityCoded cflag := by
  simp only [translateCflag, Option.bind_eq_some_iff] at translated
  obtain ⟨withData, -, withStop, -, par⟩ := translated
  obtain ⟨bits, isParity⟩ := SerialImp.translateParity_bits par
  have coded : ParityCoded (SerialImp.parityBits parity) := by
    unfold ParityCoded
    rcases isParity with rfl | rfl | rfl | rfl | rfl <;> decide
  refine coded.congr ?_
  rw [parityMask, bits, ← bits, BitVec.and_assoc, BitVec.and_self]

/-- Every setting writes what can be told from the `DCB`. -/
theorem Setting.change_prepared (setting : Setting)
    (returned : Returned requested ttyset) (changes : setting.change ttyset = some changed) :
    Prepared (setting.requested requested) changed := by
  cases setting with
  | configurePort => exact configurePort_prepared ttyset changes
  | setPortParams speed dataBits stopBits parity =>
      simp only [Setting.change] at changes
      split at changes
      next => simp at changes
      next accepted =>
        simp only [Option.map_eq_some_iff] at changes
        obtain ⟨cflag, translated, rfl⟩ := changes
        have notIgnored : cflag &&& cignore = 0 := by
          have within : ~~~SerialImp.formatMask &&& cignore = cignore := by decide
          rw [and_part within, SerialImp.translateCflag_outside translated, ← and_part within]
          exact returned.notIgnored
        exact prepared_cfsetospeed speed (translateSpeedWin32_accepts accepted) speed.2.2
          (parityCoded_translated translated) notIgnored
  | setflowcontrol flowmode =>
      rw [← Option.some.inj changes]
      have kept : ∀ other : BitVec 32, crtscts &&& other = 0 →
          ((FlowControlMode.Termios.mk ttyset.cflag ttyset.iflag).withFlowmode flowmode).cflag &&&
            other = ttyset.cflag &&& other := by
        intro other apart
        exact FlowControlMode.assign_and_other apart
      exact returned.congr (kept _ (by decide)) (kept _ (by decide)) (kept _ (by decide)) rfl rfl
  | enableReceiveTimeoutThreshold vtime threshold =>
      rw [← Option.some.inj changes]
      exact returned.congr rfl rfl rfl rfl rfl

end Settings

/-! ## Reading back -/

/-- `after` has the same settings as `ttyset`; a speed of 0 is excepted. -/
structure SameSettings (ttyset after : Attr) : Prop where
  size : after.cflag &&& csize = ttyset.cflag &&& csize
  parity : after.cflag &&& parityMask = ttyset.cflag &&& parityMask
  stopBits : after.cflag &&& cstopb = ttyset.cflag &&& cstopb
  hardwareFlow : after.cflag &&& crtscts = ttyset.cflag &&& crtscts
  outputFlow : after.iflag &&& ixon = ttyset.iflag &&& ixon
  inputFlow : after.iflag &&& ixoff = ttyset.iflag &&& ixoff
  anyRestarts : after.iflag &&& ixany = ttyset.iflag &&& ixany
  speed : ttyset.ispeed ≠ 0 → after.ispeed = ttyset.ispeed ∧ after.ospeed = ttyset.ospeed

/-- What `tcsetattr` has kept and handed to the system for `ttyset`. -/
structure Holds (ttyset : Attr) (port : WinPort) : Prop where
  kept : port.ttyset = ttyset.codeSpeed
  baudRate : port.dcb.baudRate = bToCbr ttyset.codeSpeed.ispeed
  byteSize : port.dcb.byteSize = termiosToBytesize ttyset.cflag
  parity : port.dcb.parity = dcbParity ttyset.cflag
  stopBits : port.dcb.stopBits = dcbStopBits ttyset.cflag
  handshake : (port.dcb.fOutxCtsFlow || decide (port.dcb.fRtsControl = .handshake)) =
    decide (ttyset.cflag &&& crtscts ≠ 0)
  fOutX : port.dcb.fOutX = decide (ttyset.iflag &&& ixon ≠ 0)
  fInX : port.dcb.fInX = decide (ttyset.iflag &&& ixoff ≠ 0)
  fTXContinueOnXoff : port.dcb.fTXContinueOnXoff = decide (ttyset.iflag &&& ixany ≠ 0)

section Reading

variable {requested : Int} {ttyset : Attr} {port after : WinPort} {calls : SetCalls}

/-- The ways in which `tcsetattr` can go. -/
theorem tcsetattr_cases (port : WinPort) (calls : SetCalls) (ttyset : Attr) :
    port.tcsetattr calls ttyset = (true, port) ∨
      (calls.setCommState = true ∧ calls.setCommTimeouts = false ∧
        port.tcsetattr calls ttyset = (true, { port with dcb := (port.encode ttyset).2 })) ∨
      port.tcsetattr calls ttyset = (false, ⟨(port.encode ttyset).1, (port.encode ttyset).2,
        readTimeout (port.encode ttyset).1⟩) := by
  unfold WinPort.tcsetattr
  split
  next => exact .inl rfl
  next =>
    cases calls.getCommState <;> cases calls.getCommTimeouts <;> cases calls.setCommState <;>
      cases calls.setCommTimeouts <;> simp

theorem Holds.of_tcsetattr (notIgnored : ttyset.cflag &&& cignore = 0)
    (written : port.tcsetattr calls ttyset = (false, after)) : Holds ttyset after := by
  have isAfter : after = ⟨(port.encode ttyset).1, (port.encode ttyset).2,
      readTimeout (port.encode ttyset).1⟩ := by
    rcases tcsetattr_cases port calls ttyset with failed | ⟨-, -, failed⟩ | succeeded
    · simp [failed] at written
    · simp [failed] at written
    · rw [succeeded] at written
      exact (Prod.mk.inj written).2.symm
  subst isAfter
  simp only [WinPort.encode, if_pos notIgnored, termiosToDcb]
  constructor <;> simp

/-- The control flags are read as they were written. -/
theorem Holds.readCflag (holds : Holds ttyset port) (coded : ParityCoded ttyset.cflag) :
    port.dcb.readCflag ttyset.cflag = ttyset.cflag := by
  have size : ttyset.cflag ||| (ttyset.cflag &&& csize) = ttyset.cflag :=
    or_eq_self (by rw [← BitVec.and_assoc, BitVec.and_self])
  simp only [Dcb.readCflag]
  rw [readStopBits_eq_self holds.stopBits, readParity_eq_self coded holds.parity, holds.byteSize,
    bytesize_roundTrip, size]
  exact setIf_eq_self (i := 31) rfl _ holds.handshake

/-- A flag of the input flags is read as it was written. -/
theorem Holds.readIflag (holds : Holds ttyset port) (iflag : BitVec 32) :
    port.dcb.readIflag iflag &&& ixon = ttyset.iflag &&& ixon ∧
      port.dcb.readIflag iflag &&& ixoff = ttyset.iflag &&& ixoff ∧
      port.dcb.readIflag iflag &&& ixany = ttyset.iflag &&& ixany := by
  simp only [Dcb.readIflag, holds.fOutX, holds.fInX, holds.fTXContinueOnXoff]
  refine ⟨?_, ?_, ?_⟩
  · rw [setIf_and_other (by decide), setIf_and_other (by decide)]
    exact setIf_and_self (i := 10) rfl _
  · rw [setIf_and_other (by decide)]
    exact setIf_and_self (i := 12) rfl _
  · exact setIf_and_self (i := 11) rfl _

/-- What `tcgetattr` returns of the control flags and the speed. -/
theorem Holds.decode (holds : Holds ttyset port) (prepared : Prepared requested ttyset) :
    port.decode.cflag = ttyset.cflag ||| (speedBits ttyset.codeSpeed.ispeed &&& cbaud) ∧
      port.decode.ispeed = ttyset.codeSpeed.ispeed ∧
      port.decode.ospeed = ttyset.codeSpeed.ispeed := by
  have speed : cbrToB port.dcb.baudRate = ttyset.codeSpeed.ispeed := by
    rw [holds.baudRate, prepared.canonical]
  have cflag : port.dcb.readCflag port.ttyset.cflag = ttyset.cflag := by
    rw [holds.kept, codeSpeed_cflag, holds.readCflag prepared.parity]
  simp only [WinPort.decode, dcbToTermios, speed, cflag, and_self]

theorem Holds.decode_and_other (holds : Holds ttyset port)
    (prepared : Prepared requested ttyset) {other : BitVec 32} (apart : cbaud &&& other = 0) :
    port.decode.cflag &&& other = ttyset.cflag &&& other := by
  rw [(holds.decode prepared).1]
  exact or_within (by rw [BitVec.and_assoc, apart]; exact BitVec.and_zero)

/-- `tcgetattr` after a `tcsetattr` returns the same settings. -/
theorem Holds.sameSettings (holds : Holds ttyset port) (prepared : Prepared requested ttyset) :
    SameSettings ttyset port.decode := by
  obtain ⟨-, ispeed, ospeed⟩ := holds.decode prepared
  obtain ⟨outputFlow, inputFlow, anyRestarts⟩ := holds.readIflag port.ttyset.iflag
  constructor
  · exact holds.decode_and_other prepared (by decide)
  · exact holds.decode_and_other prepared (by decide)
  · exact holds.decode_and_other prepared (by decide)
  · exact holds.decode_and_other prepared (by decide)
  · exact outputFlow
  · exact inputFlow
  · exact anyRestarts
  · intro nonzero
    rw [ispeed, ospeed, prepared.both]
    exact ⟨prepared.speed nonzero, prepared.speed nonzero⟩

/-- Reading adds no mark of a custom speed: the bits of a speed without it are there. -/
theorem Holds.decode_coded (holds : Holds ttyset port) (prepared : Prepared requested ttyset) :
    port.decode.codeSpeed.ispeed = ttyset.codeSpeed.ispeed := by
  obtain ⟨cflag, ispeed, -⟩ := holds.decode prepared
  rw [codeSpeed_ispeed, ispeed]
  split
  next unmarked =>
    rw [cflag] at unmarked ⊢
    have clear : ttyset.cflag &&& cbaudex = 0 := by
      rw [BitVec.and_or_distrib_right] at unmarked
      exact (BitVec.or_eq_zero_iff.mp unmarked).1
    have coded : ttyset.codeSpeed.ispeed = ((ttyset.cflag &&& cbaud).toNat : Int) := by
      rw [codeSpeed_ispeed, if_pos clear]
    rw [coded, speedBits_toNat, BitVec.and_assoc, BitVec.and_self,
      or_eq_self (by rw [← BitVec.and_assoc, BitVec.and_self])]
  next => rfl

/-- What `tcgetattr` returns can be written again. -/
theorem Holds.returned (holds : Holds ttyset port) (prepared : Prepared requested ttyset) :
    Returned requested port.decode := by
  obtain ⟨-, ispeed, ospeed⟩ := holds.decode prepared
  have coded := holds.decode_coded prepared
  constructor
  · constructor
    · exact prepared.parity.congr (holds.decode_and_other prepared (by decide))
    · rw [holds.decode_and_other prepared (by decide)]
      exact prepared.notIgnored
    · rw [coded]
      exact prepared.canonical
    · intro _
      rw [coded, ispeed]
    · rw [ispeed, ospeed]
    · rw [coded]
      exact prepared.rate
  · rw [coded, ispeed]

end Reading

/-! ## Runs -/

/-- An open port, what the last successful `tcsetattr` was given, and the speed that has been
asked for last. -/
structure Emulation where
  port : WinPort
  last : Attr
  requested : Int
  deriving DecidableEq

/-- A port that has been opened, and any sequence of settings. -/
def emulation : System Emulation (Setting × SettingCalls) where
  start state :=
    state.requested = 9600 ∧
      ∃ before calls, WinPort.apply before calls .configurePort = (state.port, some state.last)
  step state label :=
    match state.port.apply label.2 label.1 with
    | (port, some ttyset) => some ⟨port, ttyset, label.1.requested state.requested⟩
    | (port, none) => some { state with port }

/-- A `tcsetattr` does not fail at its last call, with the `DCB` already changed. -/
def Completes (_ : Emulation) (label : Setting × SettingCalls) : Prop :=
  label.2.set.setCommState = true → label.2.set.setCommTimeouts = true

instance (state : Emulation) (label : Setting × SettingCalls) :
    Decidable (Completes state label) :=
  inferInstanceAs (Decidable (_ → _))

section Runs

variable {setting : Setting} {calls : SettingCalls} {port after : WinPort} {ttyset : Attr}
  {requested : Int} {state next : Emulation} {label : Setting × SettingCalls}

theorem tcgetattr_eq_some {calls : GetCalls} (returns : port.tcgetattr calls = some ttyset) :
    port.decode = ttyset := by
  unfold WinPort.tcgetattr at returns
  split at returns
  next => exact Option.some.inj returns
  next => simp at returns

/-- A setting that is applied. -/
theorem apply_some (applied : port.apply calls setting = (after, some ttyset)) :
    setting.change port.decode = some ttyset ∧
      port.tcsetattr calls.set ttyset = (false, after) := by
  unfold WinPort.apply at applied
  cases changes : (port.tcgetattr calls.get).bind setting.change with
  | none => simp [changes] at applied
  | some changed =>
      simp only [changes] at applied
      cases written : port.tcsetattr calls.set changed with
      | mk fails left =>
          cases fails with
          | true => simp [written] at applied
          | false =>
              simp only [written, Prod.mk.injEq, Option.some.injEq] at applied
              obtain ⟨rfl, rfl⟩ := applied
              obtain ⟨returned, returns, changed⟩ := Option.bind_eq_some_iff.mp changes
              rw [tcgetattr_eq_some returns]
              exact ⟨changed, written⟩

/-- A setting that is not applied leaves the port. -/
theorem apply_none (applied : port.apply calls setting = (after, none))
    (completes : calls.set.setCommState = true → calls.set.setCommTimeouts = true) :
    after = port := by
  unfold WinPort.apply at applied
  cases changes : (port.tcgetattr calls.get).bind setting.change with
  | none =>
      simp only [changes, Prod.mk.injEq, and_true] at applied
      exact applied.symm
  | some changed =>
      simp only [changes] at applied
      rcases tcsetattr_cases port calls.set changed with failed | ⟨sets, timesOut, -⟩ | succeeded
      · simp only [failed, Prod.mk.injEq, and_true] at applied
        exact applied.symm
      · simp [completes sets] at timesOut
      · simp [succeeded] at applied

/-- The port stands for the last settings. -/
structure Emulation.Faithful (state : Emulation) : Prop where
  prepared : Prepared state.requested state.last
  holds : Holds state.last state.port

theorem faithful_of_step (faithful : state.Faithful) (completes : Completes state label)
    (stepped : emulation.step state label = some next) : next.Faithful := by
  simp only [emulation] at stepped
  cases applied : state.port.apply label.2 label.1 with
  | mk port written =>
      cases written with
      | none =>
          simp only [applied, Option.some.injEq] at stepped
          rw [← stepped, apply_none applied completes]
          exact faithful
      | some ttyset =>
          simp only [applied, Option.some.injEq] at stepped
          subst stepped
          obtain ⟨changes, writes⟩ := apply_some applied
          have returned := faithful.holds.returned faithful.prepared
          have prepared := label.1.change_prepared returned changes
          exact ⟨prepared, .of_tcsetattr prepared.notIgnored writes⟩

theorem faithful_of_reached (reached : emulation.ReachedBy Completes state) : state.Faithful := by
  refine reached.invariant ?_ fun _ _ _ faithful completes stepped =>
    faithful_of_step faithful completes stepped
  intro state started
  obtain ⟨isRequested, before, calls, applied⟩ := started
  obtain ⟨changes, writes⟩ := apply_some applied
  have prepared := configurePort_prepared _ changes
  rw [← isRequested] at prepared
  exact ⟨prepared, .of_tcsetattr prepared.notIgnored writes⟩

/-- In every state reached, `tcgetattr` returns the settings of the last successful `tcsetattr`,
and the `DCB` has the baud rate that has been asked for. -/
theorem tcgetattr_roundTrip {calls : GetCalls} (reached : emulation.ReachedBy Completes state)
    (returns : state.port.tcgetattr calls = some ttyset) :
    SameSettings state.last ttyset ∧ HasRate state.requested state.port.dcb.baudRate := by
  obtain ⟨prepared, holds⟩ := faithful_of_reached reached
  rw [← tcgetattr_eq_some returns, holds.baudRate]
  exact ⟨holds.sameSettings prepared, prepared.rate⟩

end Runs

/-! ## A port -/

/-- What the system has for a handle before the port is opened. -/
def closedPort : WinPort :=
  ⟨⟨0, 0, 0, 0, 0, 0, 0, 0, 0, 0⟩,
    ⟨1200, 7, .even, .one, false, false, false, false, false, .enable, 0, 0, 0⟩, 0⟩

/-- All calls succeed. -/
def workingSetting : SettingCalls := ⟨⟨true, true⟩, ⟨true, true, true, true⟩⟩

/-- `SetCommTimeouts` fails. -/
def halfSetting : SettingCalls := ⟨⟨true, true⟩, ⟨true, true, true, false⟩⟩

/-- What `configure_port` writes. -/
def openedAttr : Attr := ⟨0x10, 0x8bd, 0, 0, 0, 0, 0, 0, 13, 13⟩

def openedState : Emulation :=
  ⟨⟨openedAttr, ⟨9600, 8, .no, .one, true, false, false, false, false, .disable, 0, 0, 0⟩, 0⟩,
    openedAttr, 9600⟩

theorem openedState_starts : emulation.start openedState :=
  ⟨rfl, closedPort, workingSetting, by decide⟩

/-- What is written after a change of the speed and the frame, of the flow control, and of the
time limits. -/
def timedAttr : Attr := ⟨0x10, 0x800019e2, 0, 5, 10, 0, 0, 0, 4098, 4098⟩

def timedState : Emulation :=
  ⟨⟨timedAttr,
      ⟨115200, 7, .even, .two, true, true, false, false, false, .handshake, 0, 0, 0⟩, 500⟩,
    timedAttr, 115200⟩

/-- The three changes are read again. -/
theorem tcgetattr_roundTrip_opened :
    emulation.ReachedBy Completes timedState ∧ SameSettings timedState.last timedAttr ∧
      HasRate 115200 115200 := by
  have started : emulation.ReachedBy Completes openedState := .start openedState_starts
  have reached : emulation.ReachedBy Completes timedState :=
    started.runAllowed
      [(.setPortParams ⟨115200, by decide⟩ 7 2 2, workingSetting),
        (.setflowcontrol 3, workingSetting),
        (.enableReceiveTimeoutThreshold 500 10, workingSetting)] (by decide)
  exact ⟨reached, tcgetattr_roundTrip reached
    (show timedState.port.tcgetattr ⟨true, true⟩ = some timedAttr by decide)⟩

/-- The speed 0 becomes 9600, and 8193 is taken for `B14400`.  After a call that has failed
at its end, the bits of its speed and of the one before are mixed. -/
theorem unfaithful_speeds :
    (∃ state, emulation.Reachable state ∧ state.requested = 0 ∧ state.last.ispeed = 0 ∧
      state.port.decode.ispeed = 13 ∧ state.port.dcb.baudRate = 9600) ∧
    (∃ state, emulation.Reachable state ∧ state.requested = 8193 ∧
      state.port.dcb.baudRate = 14400) ∧
    ∃ state, emulation.Reachable state ∧ state.requested = 9600 ∧ state.last.ispeed = 14 ∧
      state.port.decode.ispeed = 15 ∧ state.port.dcb.baudRate = 38400 := by
  refine ⟨⟨_, System.reachable_of_run
      [(.setPortParams ⟨0, by decide⟩ 8 1 0, workingSetting)] openedState_starts rfl, ?_⟩,
    ⟨_, System.reachable_of_run
      [(.setPortParams ⟨8193, by decide⟩ 8 1 0, workingSetting)] openedState_starts rfl, ?_⟩,
    ⟨_, System.reachable_of_run
      [(.setPortParams ⟨19200, by decide⟩ 8 1 0, halfSetting), (.setflowcontrol 0, workingSetting)]
      openedState_starts rfl, ?_⟩⟩
  all_goals decide

end Jrxtx.Termios
