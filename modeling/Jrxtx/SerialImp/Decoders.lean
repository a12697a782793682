import Jrxtx.SerialImp.Line

/-!
# Reading data bits, stop bits and parity

The functions that read these settings off a `c_cflag`: `set_java_vars`, which
is that of `Jrxtx.SerialImp.Device`, the static queries and `nativeGetParity`.
-/

namespace Jrxtx.SerialImp

open Jrxtx.Words

/-- The settings that a `c_cflag` stands for. -/
structure FrameFormat where
  dataBits : Int
  stopBits : Int
  parity : Int
  deriving DecidableEq, Repr

/-- What `set_java_vars` writes to the fields of the port. -/
def setJavaVars (device : Device) : FrameFormat :=
  ⟨device.dataBits, device.stopBits, device.parity⟩

/-- The `switch` of `nativeStaticGetDataBits`. -/
def staticDataBits (cflag : BitVec 32) : Int :=
  if cflag &&& csize = cs5 then 5
  else if cflag &&& csize = cs6 then 6
  else if cflag &&& csize = cs7 then 7
  else if cflag &&& csize = cs8 then 8
  else -1

/-- The `switch` of `nativeStaticGetParity`. -/
def staticParity (cflag : BitVec 32) : Int :=
  let bits := cflag &&& (parenb ||| parodd ||| cmspar)
  if bits = 0 then 0
  else if bits = parenb then 2
  else if bits = parenb ||| parodd then 1
  else if bits = parenb ||| parodd ||| cmspar then 3
  else if bits = parenb ||| cmspar then 4
  else -1

/-- The `switch` of `nativeStaticGetStopBits`, which tests `c_cflag & CS5`. -/
def staticStopBits (cflag : BitVec 32) : Int :=
  if cflag &&& cstopb = 0 then 1
  else if cflag &&& cstopb = cstopb then
    if cflag &&& cs5 ≠ 0 then 3 else 2
  else -1

/-- `PARENB && c_cflag & CMSPAR`, whose value is 0 or 1. -/
def parenbAndCmspar (cflag : BitVec 32) : BitVec 32 :=
  if parenb ≠ 0 ∧ cflag &&& cmspar ≠ 0 then 1 else 0

/-- `nativeGetParity`, once `tcgetattr` has succeeded. -/
def nativeGetParity (cflag : BitVec 32) : Int :=
  if cflag &&& parenb ≠ 0 ∧ cflag &&& parodd ≠ 0 ∧ cflag &&& cmspar ≠ 0 then 3
  else if cflag &&& parenbAndCmspar cflag ≠ 0 then 4
  else if cflag &&& parenb ≠ 0 ∧ cflag &&& parodd ≠ 0 then 1
  else if cflag &&& parenb ≠ 0 then 2
  else 0

/-! ## What has been set -/

/-- The setting that an accepted combination stands for: 1.5 stop bits go with 5 data bits,
and 2 stop bits are 1.5 there. -/
def formatOf (dataBits stopBits parity : Int) : FrameFormat where
  dataBits := if stopBits = 3 then 5 else dataBits
  stopBits := if stopBits = 1 then 1 else if stopBits = 3 ∨ dataBits = 5 then 3 else 2
  parity := parity

/-- The bits of the three fields. -/
def formatMask : BitVec 32 := csize ||| cstopb ||| parenb ||| parodd ||| cmspar

/-- Every decoder reads `format` off the flags. -/
structure ReadAs (format : FrameFormat) (device : Device) : Prop where
  setJavaVars : setJavaVars device = format
  staticDataBits : staticDataBits device.cflag = format.dataBits
  staticParity : staticParity device.cflag = format.parity
  staticStopBits : staticStopBits device.cflag = format.stopBits
  nativeGetParity : nativeGetParity device.cflag = format.parity

/-- The setting is not 1.5 stop bits, and space parity comes with an odd `c_cflag`. -/
structure Readable (cflag : BitVec 32) (format : FrameFormat) : Prop where
  stopBits : format.stopBits ≠ 3
  parity : format.parity = 4 → cflag &&& 1 ≠ 0

section Reading

variable {device : Device} {cflag changed : BitVec 32} {dataBits stopBits parity : Int}

theorem translateDataBits_outside (translated : translateDataBits cflag dataBits = some changed) :
    changed &&& ~~~formatMask = cflag &&& ~~~formatMask := by
  revert translated
  fun_cases translateDataBits cflag dataBits <;> intro translated <;>
    simp only [Option.some.injEq, reduceCtorEq] at translated <;> subst translated
  all_goals exact update_outside (by decide) (by decide)

theorem translateStopBits_outside (translated : translateStopBits cflag stopBits = some changed) :
    changed &&& ~~~formatMask = cflag &&& ~~~formatMask := by
  have setStop : (cflag ||| cstopb) &&& ~~~formatMask = cflag &&& ~~~formatMask :=
    set_outside (by decide)
  revert translated
  fun_cases translateStopBits cflag stopBits
  case case1 =>
    intro translated
    exact Option.some.inj translated ▸ clear_outside (by decide)
  case case2 =>
    intro translated
    exact (translateDataBits_outside translated).trans setStop
  case case3 =>
    intro translated
    exact Option.some.inj translated ▸ setStop
  case case4 =>
    intro translated
    exact absurd translated (by simp)

theorem translateParity_outside (translated : translateParity cflag parity = some changed) :
    changed &&& ~~~formatMask = cflag &&& ~~~formatMask := by
  revert translated
  fun_cases translateParity cflag parity <;> intro translated <;>
    simp only [Option.some.injEq, reduceCtorEq] at translated <;> subst translated
  case case1 => exact clear_outside (by decide)
  all_goals exact update_outside (by decide) (by decide)

/-- Outside of the three fields nothing changes. -/
theorem translateCflag_outside
    (translated : translateCflag cflag dataBits stopBits parity = some changed) :
    changed &&& ~~~formatMask = cflag &&& ~~~formatMask := by
  simp only [translateCflag, Option.bind_eq_some_iff] at translated
  obtain ⟨withData, data, withStop, stop, par⟩ := translated
  calc changed &&& ~~~formatMask
      = withStop &&& ~~~formatMask := translateParity_outside par
    _ = withData &&& ~~~formatMask := translateStopBits_outside stop
    _ = cflag &&& ~~~formatMask := translateDataBits_outside data

/-- The bits that `translate_parity` sets. -/
def parityBits (parity : Int) : BitVec 32 :=
  if parity = 0 then 0
  else if parity = 2 then parenb
  else if parity = 1 then parenb ||| parodd
  else if parity = 3 then parenb ||| parodd ||| cmspar
  else parenb ||| cmspar

theorem translateParity_bits (translated : translateParity cflag parity = some changed) :
    changed &&& (parenb ||| parodd ||| cmspar) = parityBits parity ∧
      (parity = 0 ∨ parity = 2 ∨ parity = 1 ∨ parity = 3 ∨ parity = 4) := by
  revert translated
  fun_cases translateParity cflag parity <;> intro translated <;>
    simp only [Option.some.injEq, reduceCtorEq] at translated <;> subst translated <;>
    simp +zetaDelta [parityBits, parenb, parodd, cmspar, BitVec.and_or_distrib_right,
      BitVec.and_assoc]

/-- `nativeGetParity` reads space parity as even parity unless the lowest bit is set. -/
theorem nativeGetParity_translated (translated : translateParity cflag parity = some changed) :
    nativeGetParity changed = if parity = 4 ∧ changed &&& 1 = 0 then 2 else parity := by
  obtain ⟨bits, isParity⟩ := translateParity_bits translated
  have enb : changed &&& parenb = parityBits parity &&& parenb := bits ▸ and_part (by decide)
  have odd : changed &&& parodd = parityBits parity &&& parodd := bits ▸ and_part (by decide)
  have spar : changed &&& cmspar = parityBits parity &&& cmspar := bits ▸ and_part (by decide)
  unfold nativeGetParity parenbAndCmspar
  rw [enb, odd, spar]
  rcases isParity with rfl | rfl | rfl | rfl | rfl
  all_goals simp [parityBits, parenb, parodd, cmspar]

/-- `nativeStaticGetStopBits` never reads 1.5 stop bits. -/
theorem staticStopBits_eq (cflag : BitVec 32) :
    staticStopBits cflag = if cflag &&& cstopb = 0 then 1
      else if cflag &&& cstopb = cstopb then 2 else -1 := by
  have none : cflag &&& cs5 = 0 := BitVec.and_zero
  simp [staticStopBits, none]

/-- Whether a second stop bit has been asked for is all it reads. -/
theorem staticStopBits_translated
    (translated : translateCflag cflag dataBits stopBits parity = some device.cflag) :
    staticStopBits device.cflag = if stopBits = 1 then 1 else 2 := by
  simp only [translateCflag, Option.bind_eq_some_iff] at translated
  obtain ⟨withData, data, withStop, stop, par⟩ := translated
  have bit := (translateParity_spec par rfl).2.1.trans (translateStopBits_spec stop).2.1
  rw [staticStopBits_eq, bit]
  by_cases one : stopBits = 1
  · simp [one]
  · simp [one, cstopb]

/-- The lowest bit is outside of the three fields, so that the prior one decides. -/
theorem nativeGetParity_translateCflag
    (translated : translateCflag cflag dataBits stopBits parity = some changed) :
    nativeGetParity changed = if parity = 4 ∧ cflag &&& 1 = 0 then 2 else parity := by
  have outside := translateCflag_outside translated
  have lowest : changed &&& 1 = cflag &&& 1 :=
    calc changed &&& 1
        = (changed &&& ~~~formatMask) &&& 1 := and_part (by decide)
      _ = (cflag &&& ~~~formatMask) &&& 1 := by rw [outside]
      _ = cflag &&& 1 := (and_part (by decide)).symm
  simp only [translateCflag, Option.bind_eq_some_iff] at translated
  obtain ⟨withData, data, withStop, stop, par⟩ := translated
  rw [nativeGetParity_translated par, lowest]

/-- Whatever the flags were, an accepted combination is read off the new flags by every
decoder if and only if it is readable; the other flags are kept. -/
theorem translateCflag_readAs_iff
    (translated : translateCflag cflag dataBits stopBits parity = some device.cflag) :
    (ReadAs (formatOf dataBits stopBits parity) device ∧
        device.cflag &&& ~~~formatMask = cflag &&& ~~~formatMask) ↔
      Readable cflag (formatOf dataBits stopBits parity) := by
  rw [and_iff_left (translateCflag_outside translated)]
  have read := read_translated translated
  have javaVars : setJavaVars device = formatOf dataBits stopBits parity := by
    rw [setJavaVars, read.1, read.2.1, read.2.2, formatOf]
  have parityRead := nativeGetParity_translateCflag translated
  have stopRead := staticStopBits_translated translated
  constructor
  · intro reads
    constructor
    · have read := stopRead.symm.trans reads.staticStopBits
      intro isOneAndHalf
      rw [isOneAndHalf] at read
      split at read <;> simp at read
    · intro space clear
      rw [if_pos ⟨space, clear⟩] at parityRead
      have read : 2 = (formatOf dataBits stopBits parity).parity :=
        parityRead.symm.trans reads.nativeGetParity
      exact absurd (read.trans space) (by decide)
  · intro readable
    have halves := readable.stopBits
    simp only [formatOf] at halves
    refine ⟨javaVars, congrArg FrameFormat.dataBits javaVars, congrArg FrameFormat.parity javaVars,
      ?_, ?_⟩
    · rw [stopRead, formatOf]
      grind
    · rw [parityRead, if_neg fun space => readable.parity space.1 space.2]
      rfl

end Reading

/-- A device at 9600 baud, with 8 data bits. -/
def workingDevice : Device := ⟨cs8 ||| 13, 13, 115200, 0, false⟩

theorem translateCflag_readAs_iff_mark :
    translateCflag (cs8 ||| 13) 7 2 3 = some 0x4000036d ∧
      ReadAs (formatOf 7 2 3) { workingDevice with cflag := 0x4000036d } :=
  have translated : translateCflag (cs8 ||| 13) 7 2 3 = some
      { workingDevice with cflag := 0x4000036d }.cflag := by decide
  ⟨translated, ((translateCflag_readAs_iff translated).mpr
    ⟨by decide, fun space => absurd space (by decide)⟩).1⟩

/-- Space parity is read as even parity, and 1.5 stop bits are read as 2. -/
theorem space_parity_and_half_stop_bit_misread :
    translateCflag cs8 8 1 4 = some (cs8 ||| parenb ||| cmspar) ∧
      nativeGetParity (cs8 ||| parenb ||| cmspar) = 2 ∧
      translateCflag cs8 5 3 0 = some cstopb ∧ staticStopBits cstopb = 2 ∧
      ¬ ∀ cflag dataBits stopBits parity device,
        translateCflag cflag dataBits stopBits parity = some device.cflag →
          ReadAs (formatOf dataBits stopBits parity) device := by
  refine ⟨by decide, by decide, by decide, by decide, ?_⟩
  intro reads
  have translated : translateCflag cs8 8 1 4 = some
      { workingDevice with cflag := cs8 ||| parenb ||| cmspar }.cflag := by decide
  exact absurd (reads _ _ _ _ _ translated).nativeGetParity (by decide)

end Jrxtx.SerialImp
