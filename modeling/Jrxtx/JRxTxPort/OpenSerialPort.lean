import Jrxtx.CommPortIdentifier.Lookup
import Jrxtx.CommPortIdentifier.Sequential
import Jrxtx.RXTXCommDriver.Initialize

/-!
# Opening a serial port

`JRxTxPort.openSerialPort`, in one thread, with the outcome of each of its steps
given.  The ownership of the identifier is acquired in `CommPortIdentifier.open`;
the steps after it can fail too, and none of the `catch` clauses gives it back.  The
native `open` behind `getCommPort` locks the device, and does not unlock it when it fails.
-/

namespace Jrxtx

open Jrxtx.CommPortIdentifier Jrxtx.CommPortIdentifier.Open Jrxtx.Registry

/-! ## Settings -/

inductive DataBits where
  | dataBits5
  | dataBits6
  | dataBits7
  | dataBits8
  deriving DecidableEq, Repr

def DataBits.getOldValue : DataBits → Int
  | .dataBits5 => 5
  | .dataBits6 => 6
  | .dataBits7 => 7
  | .dataBits8 => 8

inductive Parity where
  | none
  | odd
  | even
  | mark
  | space
  deriving DecidableEq, Repr

def Parity.getOldValue : Parity → Int
  | .none => 0
  | .odd => 1
  | .even => 2
  | .mark => 3
  | .space => 4

inductive StopBits where
  | stopBits1
  | stopBits1_5
  | stopBits2
  deriving DecidableEq, Repr

def StopBits.getOldValue : StopBits → Int
  | .stopBits1 => 1
  | .stopBits1_5 => 3
  | .stopBits2 => 2

inductive FlowControl where
  | none
  | rtsCts
  | xonXoff
  deriving DecidableEq, Repr

/-- The mode that `setFlowControl` passes to `setFlowControlMode`. -/
def FlowControl.mode : FlowControl → Int
  | .rtsCts => 1 + 2
  | .xonXoff => 4 + 8
  | .none => 0

/-- The settings of a `SerialPortBuilder`; those that are objects may be `null`. -/
structure Configuration where
  baudRate : Int
  parity : Option Parity
  dataBits : Option DataBits
  stopBits : Option StopBits
  flowControl : Option FlowControl
  deriving DecidableEq, Repr

/-- The settings of an `RXTXPort`, as its constructor leaves them. -/
structure PortSettings where
  speed : Int := 9600
  dataBits : Int := 8
  stopBits : Int := 1
  parity : Int := 0
  flowmode : Int := 0
  deriving DecidableEq, Repr

/-- `RXTXPort.setSerialPortParams`, when the native call succeeds. -/
def PortSettings.setSerialPortParams (settings : PortSettings) (b d s p : Int) : PortSettings :=
  { settings with
    speed := b
    dataBits := if s = 3 then 5 else d
    stopBits := s
    parity := p }

/-- The fields of a `JRxTxPort`. -/
structure JRxTxPort where
  rxtxPort : PortRef
  portName : String
  baudRate : Int
  parity : Parity
  dataBits : DataBits
  stopBits : StopBits
  flowControl : FlowControl
  serialPortTimeout : Int := 0
  closed : Bool := false
  deriving DecidableEq, Repr

namespace JRxTxPort

/-! ## The method -/

/-- The registry, the property `gnu.io.rxtx.SerialPorts`, the ports, of which the native
part may be open, and what failed native calls have left. -/
structure World where
  registry : Registry
  serialPorts : Option String
  freshPort : PortRef
  nativeOpen : PortRef → Bool
  /-- the name that a port has been opened by -/
  device : PortRef → String
  settings : PortRef → PortSettings
  /-- the devices with a lock file of this process, but without a port -/
  leftLocks : List String
  /-- the devices with a file descriptor of this process, but without a port -/
  leftDescriptors : List String
  fresh : ∀ port, freshPort ≤ port → nativeOpen port = false

/-- Where `getCommPort` fails if it returns no port. -/
inductive GetCommPortFailure where
  /-- before the device is locked, or in `LOCK` -/
  | unlocked
  /-- in `OPEN` -/
  | notOpened
  /-- in `configure_port`, or in the constructor of `RXTXPort` behind `open` -/
  | notConfigured
  deriving DecidableEq, Repr

/-- Outcome of `setSerialPortParams`. -/
inductive ParamsOutcome where
  | applied
  /-- the native call returns true -/
  | rejected
  | threw
  deriving DecidableEq, Repr

/-- Outcome of `setFlowControlMode`. -/
inductive FlowOutcome where
  | applied
  /-- the monitor thread is interrupted, or an `IOException` is caught -/
  | ignored
  | threw
  deriving DecidableEq, Repr

/-- The outcomes of the steps of one call. -/
structure Steps where
  /-- `System.setProperty` throws a `SecurityException` -/
  denied : Bool
  detection : Detection
  currentTimeMillis : String
  /-- the owner closes its port when the ownership is requested -/
  released : Bool
  requestThrowsAt : Option Nat
  /-- what `getCommPort` does if the device is not locked -/
  driver : DriverOutcome
  failure : GetCommPortFailure
  ownedThrowsAt : Option Nat
  /-- `comPort instanceof RXTXPort` -/
  isRxtx : Bool
  params : ParamsOutcome
  flow : FlowOutcome
  /-- the constructor of `JRxTxPort`, which gets the streams, throws -/
  streamsThrow : Bool
  deriving DecidableEq, Repr

/-- `String theOwner` -/
def Steps.theOwner (steps : Steps) : String :=
  "org.openmuc.jrxtx.JRxTxPort" ++ steps.currentTimeMillis

/-- What `openSerialPort` throws. -/
inductive Thrown where
  | nullPointer
  | security
  | serialPort (message : String)
  | portNotFound (message : String)
  | unchecked
  deriving DecidableEq, Repr

namespace World

variable (world : World) (steps : Steps)

/-- A lock file of this process names the device. -/
def lockHeld (name : String) : Bool :=
  name ∈ world.leftLocks ||
    (List.range world.freshPort).any fun port =>
      world.nativeOpen port && world.device port = name

/-- `LOCK` fails for the device of an identifier; a parallel port is not locked. -/
def locked (ident : CommPortIdentifier) : Bool :=
  ident.portType = RXTXCommDriver.portSerial && world.lockHeld ident.portName

/-- The driver opens the native part of a new port. -/
def openNative (name : String) : World :=
  { world with
    freshPort := world.freshPort + 1
    nativeOpen := Function.update world.nativeOpen world.freshPort true
    device := Function.update world.device world.freshPort name
    settings := Function.update world.settings world.freshPort {}
    fresh := by
      intro port later
      have distinct : port ≠ world.freshPort := Nat.ne_of_gt (Nat.lt_of_succ_le later)
      rw [Function.update_of_ne distinct]
      exact world.fresh port (Nat.le_of_succ_le later) }

/-- `getCommPort` returns no port, and nothing behind `LOCK` is given back. -/
def leave (name : String) : GetCommPortFailure → World
  | .unlocked => world
  | .notOpened => { world with leftLocks := name :: world.leftLocks }
  | .notConfigured =>
      { world with
        leftLocks := name :: world.leftLocks
        leftDescriptors := name :: world.leftDescriptors }

/-- The result of `getCommPort` for an identifier. -/
def getCommPort (ident : CommPortIdentifier) : DriverOutcome :=
  if world.locked ident && steps.driver = .opened then .null else steps.driver

/-- Where it fails. -/
def failure (ident : CommPortIdentifier) : GetCommPortFailure :=
  if world.locked ident then .unlocked else steps.failure

/-- The owner of an identifier closes its port. -/
def release (ref : IdentRef) : World :=
  { world with
    registry := world.registry.modify ref CommPortIdentifier.releasePort
    nativeOpen := fun port =>
      world.nativeOpen port && (world.registry.heap ref).commport ≠ some port
    fresh := by
      intro port later
      simp [world.fresh port later] }

/-- `open()` from where the caller has seen the identifier available. -/
def takeIdentifier (ref : IdentRef) (theOwner : String) : World × OpenResult :=
  let ident := world.registry.heap ref
  let outcome := world.getCommPort steps ident
  let opening :=
    (ident.assumeOwnership theOwner).openOwned outcome world.freshPort steps.ownedThrowsAt
  let opened :=
    if ident.commport ≠ none then world
    else if outcome = .opened then world.openNative ident.portName
    else world.leave ident.portName (world.failure steps ident)
  ({ opened with registry := world.registry.modify ref fun _ => opening.ident }, opening.result)

/-- `portIdentifier.open(theOwner, 0)` -/
def openIdentifier (ref : IdentRef) (theOwner : String) : World × OpenResult :=
  let ident := world.registry.heap ref
  if ident.available then world.takeIdentifier steps ref theOwner
  else
    let requested := ident.fireOwnershipEvent .portOwnershipRequested steps.requestThrowsAt
    let world := if steps.released then world.release ref else world
    if requested.2 then (world, .threw)
    else if (world.registry.heap ref).available then world.takeIdentifier steps ref theOwner
    else (world, .portInUse)

/-- `openSerialPort` after `portIdentifier.open` has returned a port. -/
def configure (port : PortRef) (name : String) (configuration : Configuration) :
    World × Except Thrown JRxTxPort :=
  if !steps.isRxtx then
    (world, .error (.serialPort "Unable to open the serial port. Port is not RXTX."))
  else
    match configuration.dataBits, configuration.stopBits, configuration.parity with
    | some dataBits, some stopBits, some parity =>
        match steps.params with
        | .threw => (world, .error .unchecked)
        | .rejected =>
            (world, .error (.serialPort
              "Unable to apply config on serial port.\nInvalid Parameter"))
        | .applied =>
            let settings := (world.settings port).setSerialPortParams configuration.baudRate
              dataBits.getOldValue stopBits.getOldValue parity.getOldValue
            let world := { world with settings := Function.update world.settings port settings }
            match configuration.flowControl with
            | none => (world, .error .nullPointer)
            | some flowControl =>
                let flowmode :=
                  if steps.flow = .applied then flowControl.mode else settings.flowmode
                let world :=
                  { world with
                    settings := Function.update world.settings port { settings with flowmode } }
                if steps.flow = .threw || steps.streamsThrow then (world, .error .unchecked)
                else
                  (world, .ok
                    { rxtxPort := port
                      portName := name
                      baudRate := configuration.baudRate
                      parity
                      dataBits
                      stopBits
                      flowControl })
    | _, _, _ => (world, .error .nullPointer)

/-- `openSerialPort` from where the identifier has been found. -/
def openFound (ref : IdentRef) (name : String) (configuration : Configuration) :
    World × Except Thrown JRxTxPort :=
  match world.openIdentifier steps ref steps.theOwner with
  | (world, .threw) => (world, .error .unchecked)
  | (world, .portInUse) =>
      (world, .error (.portNotFound ("Serial port " ++ name ++ " is already in use.")))
  | (world, .returned port) => world.configure steps port name configuration

/-- `openSerialPort`; `none` if the lookup of the port never returns. -/
def openSerialPort (portName : Option String) (configuration : Configuration) :
    Option (World × Except Thrown JRxTxPort) :=
  match portName with
  | none => some (world, .error .nullPointer)
  | some name =>
      if steps.denied then some (world, .error .security)
      else
        let world := { world with serialPorts := some name }
        match world.registry.getPortIdentifier name steps.detection with
        | none => none
        | some (registry, none) =>
            some ({ world with registry }, .error (.portNotFound
              ("Serial port " ++ name ++ " not found or port is busy.")))
        | some (registry, some ref) =>
            some ({ world with registry }.openFound steps ref name configuration)

end World

/-! ## All or nothing -/

/-- Every native port that is open was open before, and no other lock file or file
descriptor is left. -/
structure NativesAsBefore (before after : World) : Prop where
  native : ∀ port, after.nativeOpen port = true →
    before.nativeOpen port = true ∧ after.device port = before.device port
  locks : after.leftLocks = before.leftLocks
  descriptors : after.leftDescriptors = before.leftDescriptors

/-- Every identifier that is owned afterwards was owned before, by the same owner
with the same port (one that the call has created was not), and nothing native is open or
locked that was not before. -/
structure AllOrNothing (before after : World) : Prop extends NativesAsBefore before after where
  owned : ∀ ref, (after.registry.heap ref).available = false →
    SameOwner (before.registry.heap ref) (after.registry.heap ref)

/-- The world in which `open()` of an identifier takes it: at once, or after its owner has
closed the port. -/
def World.taking (world : World) (steps : Steps) (ref : IdentRef) : Option World :=
  if (world.registry.heap ref).available then some world
  else if steps.released &&
      !((world.registry.heap ref).fireOwnershipEvent .portOwnershipRequested
        steps.requestThrowsAt).2 then
    some (world.release ref)
  else none

/-- `open()` of the identifier gets a port: it takes the identifier, which has a port already
or for which `getCommPort` opens one. -/
def GetsPort (world : World) (steps : Steps) (ref : IdentRef) : Prop :=
  ∃ taking, world.taking steps ref = some taking ∧
    ((taking.registry.heap ref).commport ≠ none ∨
      taking.getCommPort steps (taking.registry.heap ref) = .opened)

/-- If `getCommPort` opens none, then it fails before the device is locked. -/
def FailsUnlocked (world : World) (steps : Steps) (ref : IdentRef) : Prop :=
  ∀ taking, world.taking steps ref = some taking → (taking.registry.heap ref).commport = none →
    taking.getCommPort steps (taking.registry.heap ref) ≠ .opened →
    taking.failure steps (taking.registry.heap ref) = .unlocked

/-- Every step after the port has been opened succeeds. -/
@[mk_iff completes_iff]
structure Completes (configuration : Configuration) (steps : Steps) (ident : CommPortIdentifier) :
    Prop where
  owned : (ident.fireOwnershipEvent .portOwned steps.ownedThrowsAt).2 = false
  isRxtx : steps.isRxtx = true
  dataBits : configuration.dataBits ≠ none
  stopBits : configuration.stopBits ≠ none
  parity : configuration.parity ≠ none
  params : steps.params = .applied
  flowControl : configuration.flowControl ≠ none
  flow : steps.flow ≠ .threw
  streams : steps.streamsThrow = false

/-- If the call gets a port, then every later step succeeds, and if not, then no native step
behind `LOCK` has failed. -/
def LaterStepsSucceed (world : World) (portName : Option String) (configuration : Configuration)
    (steps : Steps) : Prop :=
  ∀ name registry ref, portName = some name → steps.denied = false →
    world.registry.getPortIdentifier name steps.detection = some (registry, some ref) →
    (GetsPort { world with serialPorts := some name, registry } steps ref →
      Completes configuration steps (registry.heap ref)) ∧
    FailsUnlocked { world with serialPorts := some name, registry } steps ref

/-- A later call is not refused: if its lookup finds an identifier that was available
before, of a device that was not locked before, the driver opens a device that is not locked
and every later step succeeds, then the call returns a port. -/
def NotRefused (before after : World) : Prop :=
  ∀ (name : String) (steps : Steps) (configuration : Configuration) (registry : Registry)
    (ref : IdentRef), steps.denied = false →
    after.registry.getPortIdentifier name steps.detection = some (registry, some ref) →
    (before.registry.heap ref).available = true →
    before.lockHeld (registry.heap ref).portName = false → steps.driver = .opened →
    Completes configuration steps (registry.heap ref) →
    ∃ final port, after.openSerialPort steps (some name) configuration = some (final, .ok port)

section Proofs

variable {before world after : World} {steps : Steps} {ref : IdentRef} {theOwner : String}
  {configuration : Configuration} {ident : CommPortIdentifier}

/-! ### Native ports -/

theorem NativesAsBefore.refl (world : World) : NativesAsBefore world world :=
  ⟨fun _ isOpen => ⟨isOpen, rfl⟩, rfl, rfl⟩

theorem NativesAsBefore.trans {first second third : World} (one : NativesAsBefore first second)
    (two : NativesAsBefore second third) : NativesAsBefore first third where
  native := by
    intro port isOpen
    obtain ⟨wasOpen, device⟩ := two.native port isOpen
    obtain ⟨wasOpenFirst, deviceFirst⟩ := one.native port wasOpen
    exact ⟨wasOpenFirst, device.trans deviceFirst⟩
  locks := two.locks.trans one.locks
  descriptors := two.descriptors.trans one.descriptors

theorem lockHeld_iff {name : String} :
    world.lockHeld name = true ↔ name ∈ world.leftLocks ∨
      ∃ port, world.nativeOpen port = true ∧ world.device port = name := by
  simp only [World.lockHeld, Bool.or_eq_true, decide_eq_true_eq, List.any_eq_true, List.mem_range,
    Bool.and_eq_true]
  refine or_congr Iff.rfl (exists_congr fun port => and_iff_right_of_imp ?_)
  rintro ⟨isOpen, -⟩
  by_contra later
  simp [world.fresh port (not_lt.mp later)] at isOpen

theorem getCommPort_of_free (free : world.lockHeld ident.portName = false) :
    world.getCommPort steps ident = steps.driver := by
  simp [World.getCommPort, World.locked, free]

/-- No device is locked that was not. -/
theorem NativesAsBefore.lockHeld {name : String} (natives : NativesAsBefore before after)
    (free : before.lockHeld name = false) : after.lockHeld name = false := by
  rw [← Bool.not_eq_true, lockHeld_iff] at free ⊢
  rintro (left | ⟨port, isOpen, device⟩)
  · exact free (.inl (natives.locks ▸ left))
  · obtain ⟨wasOpen, same⟩ := natives.native port isOpen
    exact free (.inr ⟨port, wasOpen, same ▸ device⟩)

theorem AllOrNothing.of_ownedAsBefore
    (owned : OwnedAsBefore before.registry after.registry)
    (natives : NativesAsBefore before after) : AllOrNothing before after where
  toNativesAsBefore := natives
  owned := by
    intro ref taken
    rcases owned ref with same | unowned
    · exact same
    · simp [unowned.available] at taken

/-! ### The last steps -/

theorem configure_frame (world : World) (steps : Steps) (port : PortRef) (name : String)
    (configuration : Configuration) :
    ∃ settings, (world.configure steps port name configuration).1 = { world with settings } := by
  fun_cases World.configure world steps port name configuration <;> exact ⟨_, rfl⟩

/-- The last part of the method fails exactly if one of its steps does. -/
theorem configure_error_iff (world : World) (steps : Steps) (port : PortRef) (name : String)
    (configuration : Configuration)
    (quiet : (ident.fireOwnershipEvent .portOwned steps.ownedThrowsAt).2 = false) :
    (∃ thrown, (world.configure steps port name configuration).2 = .error thrown) ↔
      ¬Completes configuration steps ident := by
  rw [completes_iff]
  fun_cases World.configure world steps port name configuration
  case case7 rxtx incomplete =>
    simp only [Except.error.injEq, exists_eq', true_iff]
    intro completes
    obtain ⟨-, -, dataBits, stopBits, parity, -⟩ := completes
    obtain ⟨dataBits, isDataBits⟩ := Option.ne_none_iff_exists'.mp dataBits
    obtain ⟨stopBits, isStopBits⟩ := Option.ne_none_iff_exists'.mp stopBits
    obtain ⟨parity, isParity⟩ := Option.ne_none_iff_exists'.mp parity
    exact incomplete dataBits stopBits parity isDataBits isStopBits isParity
  all_goals simp_all
  case case5 failed => grind

/-! ### `CommPortIdentifier.open` -/

section Taking

variable (theOwner)

/-- Without a port the identifier is given up again. -/
theorem takeIdentifier_fails (noPort : (world.registry.heap ref).commport = none)
    (failed : world.getCommPort steps (world.registry.heap ref) ≠ .opened) :
    OwnedAsBefore world.registry (world.takeIdentifier steps ref theOwner).1.registry ∧
      ∀ port, (world.takeIdentifier steps ref theOwner).2 ≠ .returned port := by
  have unset : ((world.registry.heap ref).assumeOwnership theOwner).commport = none := noPort
  constructor
  · change OwnedAsBefore _ (world.registry.modify ref fun _ => _)
    apply OwnedAsBefore.disown
    rw [openOwned_ident unset, if_neg failed]
    exact ⟨rfl, rfl, noPort⟩
  · intro port returned
    exact failed (openOwned_returned unset returned).1

/-- What `getCommPort` leaves then. -/
theorem takeIdentifier_left (noPort : (world.registry.heap ref).commport = none)
    (failed : world.getCommPort steps (world.registry.heap ref) ≠ .opened) :
    ∃ registry, (world.takeIdentifier steps ref theOwner).1 =
      { world.leave (world.registry.heap ref).portName
          (world.failure steps (world.registry.heap ref)) with registry } := by
  simp only [World.takeIdentifier, noPort, ne_eq, not_true_eq_false, if_false, failed]
  exact ⟨_, rfl⟩

/-- With a port the identifier stays taken, also if a listener throws. -/
theorem takeIdentifier_gets
    (gets : (world.registry.heap ref).commport ≠ none ∨
      world.getCommPort steps (world.registry.heap ref) = .opened) :
    ((world.takeIdentifier steps ref theOwner).1.registry.heap ref).available = false ∧
      ∃ port, (world.takeIdentifier steps ref theOwner).2 =
        if ((world.registry.heap ref).fireOwnershipEvent .portOwned steps.ownedThrowsAt).2
        then .threw else .returned port := by
  have listeners (port : Option PortRef) :
      ({ (world.registry.heap ref).assumeOwnership theOwner with commport := port } :
        CommPortIdentifier).fireOwnershipEvent .portOwned steps.ownedThrowsAt =
      (world.registry.heap ref).fireOwnershipEvent .portOwned steps.ownedThrowsAt := rfl
  cases atPort : (world.registry.heap ref).commport with
  | some port =>
      have same : (world.registry.heap ref).assumeOwnership theOwner =
          { (world.registry.heap ref).assumeOwnership theOwner with commport := some port } := by
        rw [← atPort]
        rfl
      simp only [World.takeIdentifier, openOwned, openDriver, assumeOwnership_commport, atPort,
        finallyUnown, Registry.modify]
      refine ⟨by simp, port, ?_⟩
      rw [same, listeners]
  | none =>
      have opened := gets.resolve_left (by simp [atPort])
      simp only [World.takeIdentifier, openOwned, openDriver, assumeOwnership_commport, atPort,
        opened, finallyUnown, Registry.modify, listeners]
      exact ⟨by simp, world.freshPort, rfl⟩

/-- A port that the driver opens stays open. -/
theorem takeIdentifier_opens (noPort : (world.registry.heap ref).commport = none)
    (opened : world.getCommPort steps (world.registry.heap ref) = .opened) :
    (world.takeIdentifier steps ref theOwner).1.nativeOpen world.freshPort = true := by
  simp [World.takeIdentifier, noPort, opened, World.openNative]

end Taking

theorem release_ownedAsBefore (world : World) (ref : IdentRef) :
    OwnedAsBefore world.registry (world.release ref).registry :=
  .disown ref ⟨rfl, rfl, rfl⟩

theorem release_natives (world : World) (ref : IdentRef) :
    NativesAsBefore world (world.release ref) where
  native := by
    intro port isOpen
    simp only [World.release, Bool.and_eq_true] at isOpen
    exact ⟨isOpen.1, rfl⟩
  locks := rfl
  descriptors := rfl

@[simp] theorem release_heap (world : World) (ref : IdentRef) :
    (world.release ref).registry.heap ref = (world.registry.heap ref).releasePort := by
  simp [World.release, Registry.modify]

/-- The identifier is taken at once, or after its owner has released it. -/
theorem taking_cases {taking : World} (takes : world.taking steps ref = some taking) :
    taking = world ∧ (world.registry.heap ref).available = true ∨ taking = world.release ref := by
  simp only [World.taking] at takes
  split at takes
  next available => exact .inl ⟨(Option.some.inj takes).symm, available⟩
  next =>
    split at takes
    next => exact .inr (Option.some.inj takes).symm
    next => simp at takes

/-- `open()` takes the identifier or ends before. -/
theorem openIdentifier_cases (world : World) (steps : Steps) (ref : IdentRef)
    (theOwner : String) :
    (∃ taking, world.taking steps ref = some taking ∧
      world.openIdentifier steps ref theOwner = taking.takeIdentifier steps ref theOwner) ∨
    (world.taking steps ref = none ∧
      ((world.openIdentifier steps ref theOwner).1 = world ∨
        (world.openIdentifier steps ref theOwner).1 = world.release ref) ∧
      ∀ port, (world.openIdentifier steps ref theOwner).2 ≠ .returned port) := by
  cases available : (world.registry.heap ref).available with
  | true => exact .inl ⟨world, by simp [World.taking, available],
      by simp [World.openIdentifier, available]⟩
  | false =>
      cases threw : ((world.registry.heap ref).fireOwnershipEvent .portOwnershipRequested
          steps.requestThrowsAt).2 <;>
        cases released : steps.released <;>
        simp [World.taking, World.openIdentifier, available, threw, released]

/-- Nothing changes for the owners and the native ports before the identifier is taken. -/
theorem taking_asBefore {taking : World} (takes : world.taking steps ref = some taking) :
    OwnedAsBefore world.registry taking.registry ∧ NativesAsBefore world taking ∧
      taking.freshPort = world.freshPort ∧
      (taking.registry.heap ref).fireOwnershipEvent .portOwned steps.ownedThrowsAt =
        (world.registry.heap ref).fireOwnershipEvent .portOwned steps.ownedThrowsAt := by
  rcases taking_cases takes with ⟨rfl, -⟩ | rfl
  · exact ⟨.refl _, .refl _, rfl, rfl⟩
  · refine ⟨release_ownedAsBefore world ref, release_natives world ref, rfl, ?_⟩
    rw [release_heap]
    rfl

/-- What is left of a call that has found the identifier in `looking`: its native port is
open, the identifier, which had a port already, is taken, or a lock file stays. -/
def Left (looking after : World) (ref : IdentRef) : Prop :=
  after.nativeOpen looking.freshPort = true ∨
    ((looking.registry.heap ref).available = true ∧ (looking.registry.heap ref).commport ≠ none ∧
      (after.registry.heap ref).available = false) ∨
    after.leftLocks ≠ looking.leftLocks

theorem Left.not_allOrNothing {looking : World} (left : Left looking after ref)
    (owned : OwnedAsBefore before.registry looking.registry)
    (native : looking.nativeOpen = before.nativeOpen)
    (locks : looking.leftLocks = before.leftLocks) : ¬AllOrNothing before after := by
  intro nothing
  rcases left with isOpen | ⟨available, port, taken⟩ | leftLocks
  · have wasOpen := (nothing.native looking.freshPort isOpen).1
    rw [← native, looking.fresh _ le_rfl] at wasOpen
    simp at wasOpen
  · rcases owned ref with same | unowned
    · have unavailable := (nothing.owned ref taken).available
      rw [taken, ← same.available, available] at unavailable
      simp at unavailable
    · exact port unowned.commport
  · exact leftLocks (nothing.locks.trans locks.symm)

/-- If `open()` gets a port, then it is not as before. -/
theorem openIdentifier_gets (theOwner : String) (gets : GetsPort world steps ref) :
    Left world (world.openIdentifier steps ref theOwner).1 ref ∧
      ∃ port, (world.openIdentifier steps ref theOwner).2 =
        if ((world.registry.heap ref).fireOwnershipEvent .portOwned steps.ownedThrowsAt).2
        then .threw else .returned port := by
  obtain ⟨taking, takes, gets⟩ := gets
  rcases openIdentifier_cases world steps ref theOwner with ⟨other, alsoTakes, same⟩ | ⟨none, -⟩
  · obtain rfl : taking = other := Option.some.inj (takes.symm.trans alsoTakes)
    obtain ⟨-, -, fresh, listeners⟩ := taking_asBefore takes
    obtain ⟨taken, result⟩ := takeIdentifier_gets theOwner gets
    rw [same]
    refine ⟨?_, listeners ▸ result⟩
    by_cases noPort : (taking.registry.heap ref).commport = none
    · have opens := takeIdentifier_opens theOwner noPort (gets.resolve_left (not_not.mpr noPort))
      exact .inl (fresh ▸ opens)
    · rcases taking_cases takes with ⟨rfl, available⟩ | rfl
      · exact .inr (.inl ⟨available, noPort, taken⟩)
      · simp at noPort
  · simp [takes] at none

/-- If `open()` gets no port, and no native step behind `LOCK` fails, then nobody owns more
than before. -/
theorem openIdentifier_fails (theOwner : String) (gets : ¬GetsPort world steps ref)
    (unlocked : FailsUnlocked world steps ref) :
    OwnedAsBefore world.registry (world.openIdentifier steps ref theOwner).1.registry ∧
      NativesAsBefore world (world.openIdentifier steps ref theOwner).1 := by
  rcases openIdentifier_cases world steps ref theOwner with
    ⟨taking, takes, same⟩ | ⟨-, unchanged | released, -⟩
  · simp only [GetsPort, not_exists, not_and, not_or, not_not] at gets
    obtain ⟨noPort, failed⟩ := gets taking takes
    obtain ⟨owned, natives, -⟩ := taking_asBefore takes
    obtain ⟨registry, left⟩ := takeIdentifier_left theOwner noPort failed
    rw [same]
    refine ⟨owned.trans (takeIdentifier_fails theOwner noPort failed).1, natives.trans ?_⟩
    rw [left, unlocked taking takes noPort failed]
    exact ⟨fun _ isOpen => ⟨isOpen, rfl⟩, rfl, rfl⟩
  · rw [unchanged]
    exact ⟨.refl _, .refl _⟩
  · rw [released]
    exact ⟨release_ownedAsBefore world ref, release_natives world ref⟩

theorem openIdentifier_not_returned (theOwner : String) (gets : ¬GetsPort world steps ref)
    (port : PortRef) : (world.openIdentifier steps ref theOwner).2 ≠ .returned port := by
  rcases openIdentifier_cases world steps ref theOwner with ⟨taking, takes, same⟩ | ⟨-, -, ends⟩
  · simp only [GetsPort, not_exists, not_and, not_or, not_not] at gets
    obtain ⟨noPort, failed⟩ := gets taking takes
    rw [same]
    exact (takeIdentifier_fails theOwner noPort failed).2 port
  · exact ends port

/-- A native step that fails behind `LOCK` leaves the lock file. -/
theorem openIdentifier_leaves (theOwner : String) (fails : ¬FailsUnlocked world steps ref) :
    Left world (world.openIdentifier steps ref theOwner).1 ref := by
  simp only [FailsUnlocked, not_forall] at fails
  obtain ⟨taking, takes, noPort, failed, locked⟩ := fails
  rcases openIdentifier_cases world steps ref theOwner with ⟨other, alsoTakes, same⟩ | ⟨none, -⟩
  · obtain rfl : taking = other := Option.some.inj (takes.symm.trans alsoTakes)
    obtain ⟨-, natives, -⟩ := taking_asBefore takes
    obtain ⟨registry, left⟩ := takeIdentifier_left theOwner noPort failed
    refine .inr (.inr ?_)
    rw [same, left, ← natives.locks]
    cases atStep : taking.failure steps (taking.registry.heap ref) with
    | unlocked => exact absurd atStep locked
    | notOpened | notConfigured => simp [World.leave]
  · simp [takes] at none

/-! ### The method -/

theorem openFound_of_not_returned (name : String) (configuration : Configuration)
    (ends : ∀ port, (world.openIdentifier steps ref steps.theOwner).2 ≠ .returned port) :
    ∃ thrown, world.openFound steps ref name configuration =
      ((world.openIdentifier steps ref steps.theOwner).1, .error thrown) := by
  simp only [World.openFound]
  split
  next opening => exact ⟨_, by rw [opening]⟩
  next opening => exact ⟨_, by rw [opening]⟩
  next port opening => exact absurd (congrArg Prod.snd opening) (ends port)

theorem openFound_of_returned {port : PortRef} (name : String) (configuration : Configuration)
    (ends : (world.openIdentifier steps ref steps.theOwner).2 = .returned port) :
    world.openFound steps ref name configuration =
      (world.openIdentifier steps ref steps.theOwner).1.configure steps port name
        configuration := by
  simp only [World.openFound]
  split
  next opening => simp [opening] at ends
  next opening => simp [opening] at ends
  next opened other opening =>
    rw [opening] at ends
    obtain rfl : other = port := by simpa using ends
    rw [opening]

/-- From the identifier on. -/
theorem openFound_allOrNothing_iff (name : String) (configuration : Configuration)
    (owned : OwnedAsBefore before.registry world.registry)
    (natives : NativesAsBefore before world)
    (native : world.nativeOpen = before.nativeOpen) :
    ((∃ thrown, (world.openFound steps ref name configuration).2 = .error thrown) →
        AllOrNothing before (world.openFound steps ref name configuration).1) ↔
      (GetsPort world steps ref → Completes configuration steps (world.registry.heap ref)) ∧
        FailsUnlocked world steps ref := by
  by_cases gets : GetsPort world steps ref
  · obtain ⟨left, port, ends⟩ := openIdentifier_gets steps.theOwner gets
    have unlocked : FailsUnlocked world steps ref := by
      intro taking takes noPort failed
      obtain ⟨other, alsoTakes, port | opened⟩ := gets <;>
        obtain rfl : taking = other := Option.some.inj (takes.symm.trans alsoTakes)
      · exact absurd noPort port
      · exact absurd opened failed
    simp only [gets, true_imp_iff, unlocked, and_true]
    cases fires : ((world.registry.heap ref).fireOwnershipEvent .portOwned
        steps.ownedThrowsAt).2 with
    | true =>
        rw [fires, if_pos rfl] at ends
        have notReturned : ∀ port,
            (world.openIdentifier steps ref steps.theOwner).2 ≠ .returned port := by
          simp [ends]
        obtain ⟨thrown, found⟩ := openFound_of_not_returned name configuration notReturned
        rw [found]
        constructor
        · intro undone
          exact absurd (undone ⟨_, rfl⟩) (left.not_allOrNothing owned native natives.locks)
        · intro completes
          simp [completes.owned] at fires
    | false =>
        rw [fires, if_neg (by simp)] at ends
        rw [openFound_of_returned name configuration ends, configure_error_iff _ _ _ _ _ fires]
        obtain ⟨settings, frame⟩ := configure_frame
          (world.openIdentifier steps ref steps.theOwner).1 steps port name configuration
        rw [frame]
        constructor
        · intro undone
          by_contra incomplete
          have stillLeft : Left world
              { (world.openIdentifier steps ref steps.theOwner).1 with settings } ref := left
          exact stillLeft.not_allOrNothing owned native natives.locks (undone incomplete)
        · intro completes incomplete
          exact absurd completes incomplete
  · have notReturned := openIdentifier_not_returned steps.theOwner gets
    obtain ⟨thrown, found⟩ := openFound_of_not_returned name configuration notReturned
    simp only [gets, false_imp_iff, true_and, found, Except.error.injEq, exists_eq', true_imp_iff]
    constructor
    · intro nothing
      by_contra fails
      exact (openIdentifier_leaves steps.theOwner fails).not_allOrNothing owned native
        natives.locks nothing
    · intro unlocked
      obtain ⟨kept, kept'⟩ := openIdentifier_fails steps.theOwner gets unlocked
      exact .of_ownedAsBefore (owned.trans kept) (natives.trans kept')

theorem laterStepsSucceed_iff {name : String} {registry : Registry} (allowed : steps.denied = false)
    (looked : world.registry.getPortIdentifier name steps.detection = some (registry, some ref)) :
    LaterStepsSucceed world (some name) configuration steps ↔
      (GetsPort { world with serialPorts := some name, registry } steps ref →
        Completes configuration steps (registry.heap ref)) ∧
      FailsUnlocked { world with serialPorts := some name, registry } steps ref := by
  constructor
  · intro succeed
    exact succeed name registry ref rfl allowed looked
  · intro succeed other otherRegistry otherRef isName _ found
    obtain rfl := Option.some.inj isName
    rw [looked, Option.some.injEq, Prod.mk.injEq, Option.some.injEq] at found
    obtain ⟨rfl, rfl⟩ := found
    exact succeed

/-- If the identifier was available and its device not locked before, then a later call with
valid parameters succeeds. -/
theorem AllOrNothing.notRefused (nothing : AllOrNothing before after) :
    NotRefused before after := by
  intro name steps configuration registry ref allowed looked free unlocked opens completes
  have available : (registry.heap ref).available = true := by
    rcases OwnedAsBefore.getPortIdentifier looked ref with same | unowned
    · rw [same.available]
      by_contra taken
      rw [Bool.not_eq_true] at taken
      have unavailable := (nothing.owned ref taken).available
      simp [taken, free] at unavailable
    · exact unowned.available
  let looking : World := { after with serialPorts := some name, registry }
  have stillFree : looking.lockHeld (registry.heap ref).portName = false :=
    nothing.toNativesAsBefore.lockHeld unlocked
  have gets : GetsPort looking steps ref := by
    refine ⟨looking, by simp [World.taking, looking, available], .inr ?_⟩
    exact (getCommPort_of_free stillFree).trans opens
  obtain ⟨-, port, ends⟩ := openIdentifier_gets steps.theOwner gets
  have quiet : ((looking.registry.heap ref).fireOwnershipEvent .portOwned
      steps.ownedThrowsAt).2 = false := completes.owned
  rw [quiet, if_neg (by simp)] at ends
  have found : looking.openFound steps ref name configuration = _ :=
    openFound_of_returned name configuration ends
  have fails := configure_error_iff (looking.openIdentifier steps ref steps.theOwner).1 steps port
    name configuration quiet
  simp only [World.openSerialPort, allowed, Bool.false_eq_true, if_false, looked]
  change ∃ final port, some (looking.openFound steps ref name configuration) = _
  rw [found]
  cases configured : (looking.openIdentifier steps ref steps.theOwner).1.configure steps port name
      configuration with
  | mk final result =>
      cases result with
      | ok jRxTxPort => exact ⟨final, jRxTxPort, rfl⟩
      | error thrown =>
          rw [configured] at fails
          exact absurd completes (fails.mp ⟨thrown, rfl⟩)

/-- The whole method. -/
theorem openSerialPort_spec {after : World} {portName : Option String}
    {result : Except Thrown JRxTxPort}
    (returned : world.openSerialPort steps portName configuration = some (after, result)) :
    ((∃ thrown, result = .error thrown) → AllOrNothing world after) ↔
      LaterStepsSucceed world portName configuration steps := by
  have unchanged : AllOrNothing world world := .of_ownedAsBefore (.refl _) (.refl _)
  simp only [World.openSerialPort] at returned
  split at returned
  next =>
    simp only [Option.some.injEq, Prod.mk.injEq] at returned
    obtain ⟨rfl, rfl⟩ := returned
    exact ⟨fun _ _ _ _ isName => by simp at isName, fun _ _ => unchanged⟩
  next name =>
    split at returned
    next denied =>
      simp only [Option.some.injEq, Prod.mk.injEq] at returned
      obtain ⟨rfl, rfl⟩ := returned
      exact ⟨fun _ _ _ _ _ allowed => by simp [denied] at allowed, fun _ _ => unchanged⟩
    next allowed =>
      split at returned
      next => simp at returned
      next registry looked =>
        simp only [Option.some.injEq, Prod.mk.injEq] at returned
        obtain ⟨rfl, rfl⟩ := returned
        constructor
        · intro _ other registry ref isName _ found
          obtain rfl := Option.some.inj isName
          simp [looked] at found
        · intro _ _
          exact .of_ownedAsBefore (.getPortIdentifier looked)
            ⟨fun _ isOpen => ⟨isOpen, rfl⟩, rfl, rfl⟩
      next registry ref looked =>
        rw [laterStepsSucceed_iff (by simpa using allowed) looked]
        have owned := OwnedAsBefore.getPortIdentifier looked
        let looking : World := { world with serialPorts := some name, registry }
        have opened : looking.openFound steps ref name configuration = (after, result) :=
          Option.some.inj returned
        have natives : NativesAsBefore world looking :=
          ⟨fun _ isOpen => ⟨isOpen, rfl⟩, rfl, rfl⟩
        have iff : _ ↔ (GetsPort looking steps ref → _) ∧ _ :=
          openFound_allOrNothing_iff name configuration owned natives rfl
        rwa [opened] at iff

end Proofs

/-- After a call that throws everything is as before, and a later call is not
refused, exactly if the call has got no port, or in fact none of the later steps
fails. -/
theorem openSerialPort_allOrNothing_iff {world after : World} {steps : Steps}
    {portName : Option String} {configuration : Configuration} {result : Except Thrown JRxTxPort}
    (returned : world.openSerialPort steps portName configuration = some (after, result)) :
    ((∃ thrown, result = .error thrown) → AllOrNothing world after ∧ NotRefused world after) ↔
      LaterStepsSucceed world portName configuration steps := by
  rw [← openSerialPort_spec returned]
  constructor
  · intro undone throws
    exact (undone throws).1
  · intro undone throws
    exact ⟨undone throws, (undone throws).notRefused⟩

/-- A registry that lists one serial port. -/
def listed : World where
  registry :=
    { heap := fun _ => .new "/dev/ttyS0" none 1 7
      allocated := 1
      commPortIndex := some 0 }
  serialPorts := none
  freshPort := 0
  nativeOpen := fun _ => false
  device := fun _ => ""
  settings := fun _ => {}
  leftLocks := []
  leftDescriptors := []
  fresh := fun _ _ => rfl

/-- Every step succeeds. -/
def succeeding : Steps where
  denied := false
  detection := ⟨7, [("/dev/ttyS0", 1)], false⟩
  currentTimeMillis := "1"
  released := false
  requestThrowsAt := none
  driver := .opened
  failure := .unlocked
  ownedThrowsAt := none
  isRxtx := true
  params := .applied
  flow := .applied
  streamsThrow := false

/-- The settings of a new `SerialPortBuilder`. -/
def defaults : Configuration where
  baudRate := 9600
  parity := some .even
  dataBits := some .dataBits8
  stopBits := some .stopBits1
  flowControl := some .none

/-- Another process has locked the device, and the call leaves nothing behind. -/
theorem openSerialPort_allOrNothing_busy :
    ∃ after, listed.openSerialPort { succeeding with driver := .null } (some "/dev/ttyS0")
        defaults =
          some (after, .error (.portNotFound "Serial port /dev/ttyS0 is already in use.")) ∧
      AllOrNothing listed after ∧ NotRefused listed after := by
  have returned : listed.openSerialPort { succeeding with driver := .null } (some "/dev/ttyS0")
      defaults = some (_, .error (.portNotFound "Serial port /dev/ttyS0 is already in use.")) :=
    rfl
  have condition : LaterStepsSucceed listed (some "/dev/ttyS0") defaults
      { succeeding with driver := .null } := by
    apply (laterStepsSucceed_iff rfl rfl).mpr
    constructor
    · rintro ⟨taking, takes, port | opened⟩ <;> obtain rfl := Option.some.inj takes
      · exact absurd rfl port
      · exact absurd opened (by decide)
    · intro taking takes _ _
      obtain rfl := Option.some.inj takes
      rfl
  exact ⟨_, returned, (openSerialPort_allOrNothing_iff returned).mpr condition ⟨_, rfl⟩⟩

/-- `configure_port` fails.  Nobody owns the identifier, but the device stays locked. -/
example :
    ∃ after final,
      listed.openSerialPort { succeeding with driver := .null, failure := .notConfigured }
          (some "/dev/ttyS0") defaults =
        some (after, .error (.portNotFound "Serial port /dev/ttyS0 is already in use.")) ∧
      (after.registry.heap 0).available = true ∧ after.leftLocks = ["/dev/ttyS0"] ∧
      after.leftDescriptors = ["/dev/ttyS0"] ∧
      after.openSerialPort succeeding (some "/dev/ttyS0") defaults =
        some (final, .error (.portNotFound "Serial port /dev/ttyS0 is already in use.")) :=
  ⟨_, _, rfl, rfl, rfl, rfl, rfl⟩

/-- The parameters are rejected.  The call throws, the identifier stays owned, the
native port stays open, and a later call with valid parameters is refused. -/
theorem openSerialPort_leaves_port :
    ∃ after, listed.openSerialPort { succeeding with params := .rejected } (some "/dev/ttyS0")
        defaults =
          some (after, .error (.serialPort
            "Unable to apply config on serial port.
Invalid Parameter")) ∧
      (after.registry.heap 0).owner = some "org.openmuc.jrxtx.JRxTxPort1" ∧
      after.nativeOpen 0 = true ∧ ¬AllOrNothing listed after ∧
      ∃ final, after.openSerialPort succeeding (some "/dev/ttyS0") defaults =
        some (final, .error (.portNotFound "Serial port /dev/ttyS0 is already in use.")) := by
  refine ⟨_, rfl, by decide, by decide, ?_, _, rfl⟩
  intro nothing
  exact absurd (nothing.native 0 (by decide)).1 (by decide)

end JRxTxPort

end Jrxtx
