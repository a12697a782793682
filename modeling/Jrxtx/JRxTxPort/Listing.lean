import Jrxtx.CommPortIdentifier.Acyclic
import Jrxtx.JRxTxPort.OpenSerialPort
import Jrxtx.RXTXCommDriver.Initialize

/-!
# Listing the serial ports

`SerialPortBuilder.getSerialPortNames()` after a history of opened and closed ports.
`openSerialPort` sets the property `gnu.io.rxtx.SerialPorts` to the name it is given, and
every later detection of ports reads it.
-/

namespace Jrxtx.JRxTxPort

open Jrxtx.CommPortIdentifier Jrxtx.Registry Jrxtx.RXTXCommDriver

/-- A process: its static state, and the ports that `openSerialPort` has returned and that
are not closed. -/
structure Process where
  world : World
  opened : List PortRef

/-- A call; the detection in the steps of an open is the one that the host gives. -/
inductive Event where
  | openSerialPort (steps : Steps) (portName : Option String) (configuration : Configuration)
  | close (port : PortRef)

/-- `close()` of an open port, if nothing interrupts it; `none` if the lookup of the
identifier never returns. -/
def World.close (world : World) (port : PortRef) : Option World :=
  let closed :=
    { world with
      nativeOpen := Function.update world.nativeOpen port false
      fresh := by
        intro other later
        by_cases same : other = port
        · simp [same]
        · simpa [same] using world.fresh other later }
  match world.registry.getPortIdentifierOf port with
  | none => none
  | some none => some closed
  | some (some ref) => some (closed.release ref)

namespace Process

variable (process : Process) (host : Host)

/-- The steps of an open, with what a detection of ports finds then. -/
def detecting (steps : Steps) (portName : Option String) : Steps :=
  { steps with
    detection := host.detect portName process.world.lockHeld steps.detection.driver }

/-- One call; `none` if it does not return, or if the port is not open. -/
def perform : Event → Option Process
  | .openSerialPort steps portName configuration =>
      match process.world.openSerialPort (process.detecting host steps portName) portName
          configuration with
      | none => none
      | some (world, result) =>
          some
            { world
              opened :=
                match result with
                | .ok port => port.rxtxPort :: process.opened
                | .error _ => process.opened }
  | .close port =>
      if port ∈ process.opened then
        (process.world.close port).map fun world =>
          { process with world, opened := process.opened.filter (· ≠ port) }
      else none

/-- A history of calls. -/
def run (process : Process) : List Event → Option Process
  | [] => some process
  | event :: events =>
      match process.perform host event with
      | some after => after.run events
      | none => none

/-- `SerialPortBuilder.getSerialPortNames()`; `none` if it never returns. -/
def getSerialPortNames (driver : DriverRef) : Option (List String) :=
  let detection := host.detect process.world.serialPorts process.world.lockHeld driver
  match process.world.registry.getPortIdentifiers detection with
  | none => none
  | some registry =>
      (registry.enumerate registry.allocated none).map fun identifiers =>
        (identifiers.filter fun ref => (registry.heap ref).portType = portSerial).map
          fun ref => (registry.heap ref).portName

/-! ## Histories -/

/-- The list of ports is finite, and no port is open or locked. -/
structure Idle : Prop where
  lists : ∃ nodes, process.world.registry.Lists nodes
  nativeOpen : ∀ port, process.world.nativeOpen port = false
  leftLocks : process.world.leftLocks = []
  opened : process.opened = []

/-- An open that gets a port returns it, no native step behind `LOCK` fails, and a detection
during its lookup leaves no repeated match behind. -/
def Clean : Event → Prop
  | .openSerialPort steps portName configuration =>
      let steps := process.detecting host steps portName
      LaterStepsSucceed process.world portName configuration steps ∧
        ∀ name, portName = some name → steps.denied = false →
          process.world.registry.KeepsChain (.getPortIdentifier name steps.detection)
  | .close _ => True

/-- Every call of the history is clean. -/
def CleanRun (process : Process) : List Event → Prop
  | [] => True
  | event :: events =>
      process.Clean host event ∧
        ∀ after, process.perform host event = some after → after.CleanRun events

end Process

/-- What a call sets the property `gnu.io.rxtx.SerialPorts` to. -/
def Event.property : Event → Option String
  | .openSerialPort steps (some name) _ => if steps.denied then none else some name
  | _ => none

/-- The property after a history: the name of the last call that has set it. -/
def lastProperty (original : Option String) (events : List Event) : Option String :=
  events.foldl (fun property event => event.property.or property) original

/-! ## Names that stand for the ports of a host -/

/-- The readable ports among the tokens of a text. -/
def readableTokens (host : Host) (names : String) : List String :=
  (Host.tokens host.pathSep.toList names.toList []).filter
    (host.testRead (fun _ => false) · portSerial)

/-- The tokens of the names are, as far as they can be read, the ports that the properties, or
else the operating system, or else the device directory give. -/
def NamesPorts (host : Host) (original : Option String) (names : String) : Prop :=
  match host.specifiedPorts original portSerial with
  | some specified => readableTokens host names = readableTokens host specified
  | none =>
      if host.knownPorts portSerial ≠ [] then
        readableTokens host names = host.knownPorts portSerial
      else
        match host.candidateDeviceNames with
        | none => readableTokens host names = []
        | some devices =>
            readableTokens host names =
              (devices.flatMap fun device =>
                host.serialPortPrefixes.flatMap (host.portNames device)).filter
                  (host.testRead (fun _ => false) · portSerial)

/-- The property may be set to the names: it is not read, or they stand for the ports. -/
def MayBeSet (host : Host) (original : Option String) (names : String) : Prop :=
  host.propertiesFiles ≠ [] ∨ host.deniesProperties = true ∨ NamesPorts host original names

/-- A clean call that sets the property, if at all, to names to which it may be set, and with
which no port is detected twice. -/
def Process.KeepsListing (process : Process) (host : Host) (original : Option String)
    (event : Event) : Prop :=
  process.Clean host event ∧
    ∀ names, event.property = some names →
      MayBeSet host original names ∧ host.Distinct (some names)

/-- Every call of the history keeps the listing. -/
def Process.KeepsListingRun (host : Host) (original : Option String) (process : Process) :
    List Event → Prop
  | [] => True
  | event :: events =>
      process.KeepsListing host original event ∧
        ∀ after, process.perform host event = some after →
          after.KeepsListingRun host original events

section Names

variable {host : Host} {original : Option String} {names : String}

theorem serialPortNames_eq (property : Option String) :
    host.serialPortNames property =
      (host.registerPorts property (fun _ => false) portSerial).getD [] := by
  have serial (ports : List String) :
      ((ports.map (·, portSerial)).filter (·.2 = portSerial)).map Prod.fst = ports := by
    simp [List.filter_map, Function.comp_def]
  have parallel (ports : List String) :
      ((ports.map (·, portParallel)).filter (·.2 = portSerial)).map Prod.fst = [] := by
    simp [List.filter_map, Function.comp_def, portParallel, portSerial]
  simp only [Host.serialPortNames, Host.initializePorts]
  split
  next none => simp [none]
  next found =>
    split
    next => rw [serial, found, Option.getD_some]
    next => rw [List.filter_append, List.map_append, serial, parallel, List.append_nil, found,
      Option.getD_some]

/-- The listing stays as it was exactly if the property may be set to the names. -/
theorem serialPortNames_iff :
    host.serialPortNames (some names) = host.serialPortNames original ↔
      MayBeSet host original names := by
  by_cases loaded : host.propertiesFiles = []
  · cases denied : host.deniesProperties with
    | true => simp [serialPortNames_eq, MayBeSet, Host.registerPorts, denied]
    | false =>
        have specified : host.specifiedPorts (some names) portSerial = some names := by
          simp [Host.specifiedPorts, Host.properties, loaded]
        simp only [serialPortNames_eq, MayBeSet, NamesPorts, Host.registerPorts, denied,
          Bool.false_eq_true, if_false, specified, loaded, ne_eq, not_true_eq_false, false_or]
        cases host.specifiedPorts original portSerial with
        | some specified => exact Iff.rfl
        | none =>
            by_cases known : host.knownPorts portSerial = []
            · simp only [known, not_true_eq_false, if_false, Host.registerScannedPorts, if_true]
              cases host.candidateDeviceNames <;> exact Iff.rfl
            · simp only [known, not_false_eq_true, if_true]
              exact Iff.rfl
  · refine iff_of_true ?_ (.inl loaded)
    simp only [Host.serialPortNames, Host.initializePorts_of_file loaded (some names) original]

end Names

/-! ## What a call keeps -/

/-- A finite list stays one with the same elements, and the property stays. -/
structure Keeps (before after : World) : Prop where
  lists : ∀ nodes, before.registry.Lists nodes → after.registry.Lists nodes
  serialPorts : after.serialPorts = before.serialPorts

theorem Keeps.refl (world : World) : Keeps world world :=
  ⟨fun _ => id, rfl⟩

theorem Keeps.trans {first second third : World} (one : Keeps first second)
    (two : Keeps second third) : Keeps first third :=
  ⟨fun nodes lists => two.lists nodes (one.lists nodes lists),
    two.serialPorts.trans one.serialPorts⟩

section Frame

variable {world after : World} {steps : Steps} {ref : IdentRef} {theOwner : String}

theorem Keeps.release (world : World) (ref : IdentRef) : Keeps world (world.release ref) :=
  ⟨fun _ lists => lists.modify rfl, rfl⟩

theorem finallyUnown_next (ident : CommPortIdentifier) : ident.finallyUnown.next = ident.next := by
  unfold CommPortIdentifier.finallyUnown
  split <;> rfl

theorem openOwned_next (ident : CommPortIdentifier) (outcome : Open.DriverOutcome)
    (freshPort : PortRef) (throwsAt : Option Nat) :
    (ident.openOwned outcome freshPort throwsAt).ident.next = ident.next := by
  unfold CommPortIdentifier.openOwned CommPortIdentifier.openDriver
  split
  next => exact finallyUnown_next ident
  next self opened =>
    have same : self.next = ident.next := by
      split at opened <;> simp only [Option.some.injEq, reduceCtorEq] at opened <;>
        rw [← opened]
    split <;> exact (finallyUnown_next self).trans same

theorem Keeps.takeIdentifier (world : World) (steps : Steps) (ref : IdentRef)
    (theOwner : String) : Keeps world (world.takeIdentifier steps ref theOwner).1 where
  lists := by
    intro nodes lists
    change (world.registry.modify ref fun _ => _).Lists nodes
    exact lists.modify (openOwned_next _ _ _ _)
  serialPorts := by
    simp only [World.takeIdentifier]
    split
    next => rfl
    next =>
      split
      next => rfl
      next => cases world.failure steps (world.registry.heap ref) <;> rfl

theorem Keeps.openIdentifier (world : World) (steps : Steps) (ref : IdentRef)
    (theOwner : String) : Keeps world (world.openIdentifier steps ref theOwner).1 := by
  have released : Keeps world (if steps.released then world.release ref else world) := by
    split
    next => exact .release world ref
    next => exact .refl world
  simp only [World.openIdentifier]
  generalize (if steps.released then world.release ref else world) = requested at released ⊢
  split
  next => exact .takeIdentifier world steps ref theOwner
  next =>
    split
    next => exact released
    next =>
      split
      next => exact released.trans (.takeIdentifier requested steps ref theOwner)
      next => exact released

theorem Keeps.configure (world : World) (steps : Steps) (port : PortRef) (name : String)
    (configuration : Configuration) :
    Keeps world (world.configure steps port name configuration).1 := by
  fun_cases World.configure world steps port name configuration <;> exact ⟨fun _ => id, rfl⟩

theorem Keeps.openFound (world : World) (steps : Steps) (ref : IdentRef) (name : String)
    (configuration : Configuration) :
    Keeps world (world.openFound steps ref name configuration).1 := by
  have opening := Keeps.openIdentifier world steps ref steps.theOwner
  simp only [World.openFound]
  split
  next isOpening => simpa only [isOpening] using opening
  next isOpening => simpa only [isOpening] using opening
  next opened port isOpening =>
    rw [isOpening] at opening
    exact opening.trans (.configure opened steps port name configuration)

theorem openSerialPort_serialPorts {portName : Option String} {configuration : Configuration}
    {result : Except Thrown JRxTxPort}
    (returned : world.openSerialPort steps portName configuration = some (after, result)) :
    after.serialPorts =
      (Event.openSerialPort steps portName configuration).property.or world.serialPorts := by
  cases portName with
  | none =>
      simp only [World.openSerialPort, Option.some.injEq, Prod.mk.injEq] at returned
      rw [← returned.1]
      rfl
  | some name =>
      simp only [World.openSerialPort] at returned
      cases denied : steps.denied with
      | true =>
          simp only [denied, if_true, Option.some.injEq, Prod.mk.injEq] at returned
          simp [Event.property, denied, returned.1]
      | false =>
          simp only [denied, Bool.false_eq_true, if_false] at returned
          simp only [Event.property, denied, Bool.false_eq_true, if_false, Option.some_or]
          split at returned
          next => simp at returned
          next =>
            simp only [Option.some.injEq, Prod.mk.injEq] at returned
            rw [← returned.1]
          next registry ref _ =>
            have kept := Keeps.openFound { world with serialPorts := some name, registry } steps
              ref name configuration
            rw [Option.some.inj returned] at kept
            exact kept.serialPorts

/-- The list stays finite if the detection leaves no repeated match behind. -/
theorem openSerialPort_lists {portName : Option String} {configuration : Configuration}
    {result : Except Thrown JRxTxPort}
    (returned : world.openSerialPort steps portName configuration = some (after, result))
    (lists : ∃ nodes, world.registry.Lists nodes)
    (kept : ∀ name, portName = some name → steps.denied = false →
      world.registry.KeepsChain (.getPortIdentifier name steps.detection)) :
    ∃ nodes, after.registry.Lists nodes := by
  cases portName with
  | none =>
      simp only [World.openSerialPort, Option.some.injEq, Prod.mk.injEq] at returned
      rwa [← returned.1]
  | some name =>
      simp only [World.openSerialPort] at returned
      cases denied : steps.denied with
      | true =>
          simp only [denied, if_true, Option.some.injEq, Prod.mk.injEq] at returned
          rwa [← returned.1]
      | false =>
          obtain ⟨nodes, lists⟩ := lists
          obtain ⟨registry, performed, listed, isListed⟩ :=
            lists.perform (kept name rfl denied)
          simp only [Registry.perform] at performed
          simp only [denied, Bool.false_eq_true, if_false] at returned
          split at returned
          next => simp at returned
          next looked =>
            rw [looked] at performed
            obtain rfl := Option.some.inj performed
            simp only [Option.some.injEq, Prod.mk.injEq] at returned
            exact ⟨listed, returned.1 ▸ isListed⟩
          next found ref looked =>
            rw [looked] at performed
            obtain rfl := Option.some.inj performed
            have kept := Keeps.openFound { world with serialPorts := some name, registry := found }
              steps ref name configuration
            rw [Option.some.inj returned] at kept
            exact ⟨listed, kept.lists listed isListed⟩

/-- The only native port that `open()` opens is the one that it returns, and then no lock file
is left. -/
structure Returns (before after : World) (port : PortRef) : Prop where
  native : ∀ other, after.nativeOpen other = true → before.nativeOpen other = true ∨ other = port
  locks : after.leftLocks = before.leftLocks

theorem takeIdentifier_returned {port : PortRef}
    (returned : (world.takeIdentifier steps ref theOwner).2 = .returned port) :
    Returns world (world.takeIdentifier steps ref theOwner).1 port := by
  by_cases noPort : (world.registry.heap ref).commport = none
  · have unset : ((world.registry.heap ref).assumeOwnership theOwner).commport = none := noPort
    obtain ⟨opened, rfl⟩ := openOwned_returned unset returned
    simp only [World.takeIdentifier, noPort, ne_eq, not_true_eq_false, if_false, opened, if_true]
    refine ⟨fun other isOpen => ?_, rfl⟩
    by_cases same : other = world.freshPort
    · exact .inr same
    · left
      simpa [World.openNative, same] using isOpen
  · simp only [World.takeIdentifier, ne_eq, noPort, not_false_eq_true, if_true]
    exact ⟨fun _ => .inl, rfl⟩

theorem openIdentifier_returned {port : PortRef}
    (returned : (world.openIdentifier steps ref theOwner).2 = .returned port) :
    Returns world (world.openIdentifier steps ref theOwner).1 port := by
  rcases openIdentifier_cases world steps ref theOwner with ⟨taking, takes, same⟩ | ⟨-, -, ends⟩
  · obtain ⟨-, natives, -⟩ := taking_asBefore takes
    rw [same] at returned ⊢
    have kept := takeIdentifier_returned returned
    refine ⟨fun other isOpen => ?_, kept.locks.trans natives.locks⟩
    exact (kept.native other isOpen).imp_left fun wasOpen => (natives.native other wasOpen).1
  · exact absurd returned (ends port)

theorem configure_rxtxPort {port : PortRef} {name : String} {configuration : Configuration}
    {opened : JRxTxPort}
    (configured : (world.configure steps port name configuration).2 = .ok opened) :
    opened.rxtxPort = port := by
  revert configured
  fun_cases World.configure world steps port name configuration <;> intro configured <;>
    simp only [Except.ok.injEq, reduceCtorEq] at configured
  rw [← configured]

theorem openFound_ok {name : String} {configuration : Configuration} {opened : JRxTxPort}
    (found : world.openFound steps ref name configuration = (after, .ok opened)) :
    Returns world after opened.rxtxPort := by
  simp only [World.openFound] at found
  split at found
  next => simp at found
  next => simp at found
  next taken port opening =>
    have kept := openIdentifier_returned (congrArg Prod.snd opening)
    rw [opening] at kept
    obtain ⟨settings, frame⟩ := configure_frame taken steps port name configuration
    rw [found] at frame
    obtain rfl := configure_rxtxPort (congrArg Prod.snd found)
    obtain rfl : after = { taken with settings } := frame
    exact ⟨kept.native, kept.locks⟩

/-- If an open that gets a port returns it, and no native step behind `LOCK` fails, then that
is the only native port it opens, and no lock file is left. -/
theorem openSerialPort_natives {portName : Option String} {configuration : Configuration}
    {result : Except Thrown JRxTxPort}
    (returned : world.openSerialPort steps portName configuration = some (after, result))
    (succeed : LaterStepsSucceed world portName configuration steps) :
    after.leftLocks = world.leftLocks ∧ ∀ port, after.nativeOpen port = true →
      world.nativeOpen port = true ∨ ∃ opened, result = .ok opened ∧ opened.rxtxPort = port := by
  cases result with
  | error thrown =>
      have nothing := (openSerialPort_spec returned).mpr succeed ⟨thrown, rfl⟩
      exact ⟨nothing.locks, fun port isOpen => .inl (nothing.native port isOpen).1⟩
  | ok opened =>
      cases portName with
      | none => simp [World.openSerialPort] at returned
      | some name =>
          simp only [World.openSerialPort] at returned
          split at returned
          next => simp at returned
          next =>
            split at returned
            next => simp at returned
            next => simp at returned
            next registry ref _ =>
              obtain ⟨native, locks⟩ := openFound_ok (Option.some.inj returned)
              refine ⟨locks, fun port isOpen => (native port isOpen).imp_right ?_⟩
              exact fun same => ⟨opened, rfl, same.symm⟩

end Frame

/-! ## Runs -/

namespace Process

variable {process after start bare : Process} {host : Host} {event : Event} {events : List Event}

/-- The list of ports is finite, every open native port is a returned one, and no other
device is locked. -/
structure Sound (process : Process) : Prop where
  lists : ∃ nodes, process.world.registry.Lists nodes
  leftLocks : process.world.leftLocks = []
  held : ∀ port, process.world.nativeOpen port = true → port ∈ process.opened

theorem Idle.sound (idle : process.Idle) : process.Sound where
  lists := idle.lists
  leftLocks := idle.leftLocks
  held := fun port isOpen => by simp [idle.nativeOpen port] at isOpen

theorem Sound.idle (sound : process.Sound) (closed : process.opened = []) : process.Idle where
  lists := sound.lists
  leftLocks := sound.leftLocks
  nativeOpen := by
    intro port
    have held := sound.held port
    simpa [closed] using held
  opened := closed

theorem close_spec {world closed : World} {port : PortRef}
    (performed : world.close port = some closed) :
    Keeps world closed ∧ closed.leftLocks = world.leftLocks ∧
      ∀ other, closed.nativeOpen other = true → world.nativeOpen other = true ∧ other ≠ port := by
  have native (other : PortRef)
      (isOpen : Function.update world.nativeOpen port false other = true) :
      world.nativeOpen other = true ∧ other ≠ port := by
    by_cases same : other = port
    · simp [same] at isOpen
    · exact ⟨by simpa [same] using isOpen, same⟩
  simp only [World.close] at performed
  split at performed
  next => simp at performed
  next =>
    obtain rfl := Option.some.inj performed
    exact ⟨⟨fun _ => id, rfl⟩, rfl, native⟩
  next ref _ =>
    obtain rfl := Option.some.inj performed
    refine ⟨⟨fun _ lists => Lists.modify lists rfl, rfl⟩, rfl, fun other isOpen => ?_⟩
    exact native other ((release_natives _ ref).native other isOpen).1

/-- What a call that returns does to the world. -/
theorem perform_openSerialPort {steps : Steps} {portName : Option String}
    {configuration : Configuration}
    (performed : process.perform host (.openSerialPort steps portName configuration) =
      some after) :
    ∃ result, process.world.openSerialPort (process.detecting host steps portName) portName
        configuration = some (after.world, result) ∧
      (∀ port ∈ process.opened, port ∈ after.opened) ∧
      ∀ opened, result = .ok opened → opened.rxtxPort ∈ after.opened := by
  simp only [perform] at performed
  split at performed
  next => simp at performed
  next world result returned =>
    obtain rfl := Option.some.inj performed
    refine ⟨result, returned, ?_, ?_⟩
    · intro port member
      split
      next => exact List.mem_cons_of_mem _ member
      next => exact member
    · rintro opened rfl
      exact List.mem_cons_self

theorem perform_close {port : PortRef}
    (performed : process.perform host (.close port) = some after) :
    process.world.close port = some after.world ∧
      after.opened = process.opened.filter (· ≠ port) := by
  simp only [perform] at performed
  split at performed
  next =>
    obtain ⟨world, closed, rfl⟩ := Option.map_eq_some_iff.mp performed
    exact ⟨closed, rfl⟩
  next => simp at performed

/-- A clean call keeps the ports together. -/
theorem Sound.perform (sound : process.Sound) (clean : process.Clean host event)
    (performed : process.perform host event = some after) : after.Sound := by
  cases event with
  | openSerialPort steps portName configuration =>
      obtain ⟨succeed, chain⟩ := clean
      obtain ⟨result, returned, kept, isHeld⟩ := perform_openSerialPort performed
      obtain ⟨locks, native⟩ := openSerialPort_natives returned succeed
      refine ⟨openSerialPort_lists returned sound.lists chain, locks.trans sound.leftLocks,
        fun port isOpen => ?_⟩
      rcases native port isOpen with wasOpen | ⟨opened, ok, rfl⟩
      · exact kept port (sound.held port wasOpen)
      · exact isHeld opened ok
  | close port =>
      obtain ⟨closed, opened⟩ := perform_close performed
      obtain ⟨keeps, locks, native⟩ := close_spec closed
      obtain ⟨nodes, lists⟩ := sound.lists
      refine ⟨⟨nodes, keeps.lists nodes lists⟩, locks.trans sound.leftLocks,
        fun other isOpen => ?_⟩
      obtain ⟨wasOpen, distinct⟩ := native other isOpen
      simpa [opened, distinct] using sound.held other wasOpen

theorem Sound.run (sound : start.Sound) (clean : start.CleanRun host events)
    (ran : start.run host events = some after) : after.Sound := by
  induction events generalizing start with
  | nil =>
      obtain rfl := Option.some.inj ran
      exact sound
  | cons event events ih =>
      obtain ⟨first, rest⟩ := clean
      cases performed : start.perform host event with
      | none => simp [Process.run, performed] at ran
      | some next =>
          simp only [Process.run, performed] at ran
          exact ih (sound.perform first performed) (rest next performed) ran

theorem perform_serialPorts (performed : process.perform host event = some after) :
    after.world.serialPorts = event.property.or process.world.serialPorts := by
  cases event with
  | openSerialPort steps portName configuration =>
      obtain ⟨result, returned, -⟩ := perform_openSerialPort performed
      rw [openSerialPort_serialPorts returned]
      cases portName <;> rfl
  | close port =>
      obtain ⟨closed, -⟩ := perform_close performed
      exact (close_spec closed).1.serialPorts

theorem run_serialPorts (ran : start.run host events = some after) :
    after.world.serialPorts = lastProperty start.world.serialPorts events := by
  induction events generalizing start with
  | nil =>
      obtain rfl := Option.some.inj ran
      rfl
  | cons event events ih =>
      cases performed : start.perform host event with
      | none => simp [Process.run, performed] at ran
      | some next =>
          simp only [Process.run, performed] at ran
          rw [ih ran, perform_serialPorts performed]
          rfl

/-- The registrations that an enumeration lists. -/
theorem listedAfter_registration {self registry : Registry} {olds : List IdentRef}
    {detection : Detection} (lists : self.Lists olds) (distinct : detection.registrations.Nodup)
    (detected : (self.detectedRefs detection).map registry.registration = detection.registrations)
    (represented : (self.represented (self.lastNamed olds) detection).map registry.registration =
      detection.registrations) :
    (self.listedAfter olds detection).map registry.registration = detection.registrations := by
  cases threw : detection.throws with
  | true => simpa [listedAfter, threw] using detected
  | false => rw [listedAfter_of_distinct lists distinct threw, represented]

/-- With no port open the names are those that the driver detects. -/
theorem Idle.getSerialPortNames_eq (idle : process.Idle)
    (distinct : host.Distinct process.world.serialPorts) (driver : DriverRef) :
    process.getSerialPortNames host driver =
      some (host.serialPortNames process.world.serialPorts) := by
  obtain ⟨olds, lists⟩ := idle.lists
  have unused : process.world.lockHeld = fun _ => false := by
    funext name
    rw [← Bool.not_eq_true, lockHeld_iff]
    simp [idle.leftLocks, idle.nativeOpen]
  have nodup :
      (host.detect process.world.serialPorts process.world.lockHeld driver).registrations.Nodup :=
    unused ▸ distinct
  obtain ⟨registry, enumerated, listed, -, -, detected, represented, -⟩ :=
    getPortIdentifiers_spec lists
      (host.detect process.world.serialPorts process.world.lockHeld driver)
      fun _ => matchesOf_repeatsContinue nodup
  have names := listedAfter_registration lists nodup detected represented
  simp only [getSerialPortNames, enumerated, listed.enumerate_eq, Option.map_some,
    Option.some.injEq, Host.serialPortNames]
  rw [← unused]
  change _ =
    (((host.detect process.world.serialPorts process.world.lockHeld driver).registrations.filter
      _).map _)
  rw [← names, List.filter_map, List.map_map]
  rfl

/-- After a clean history, with every port closed again, the names are those of a process
without a history if and only if the driver detects the same serial ports with the property
that the history leaves. -/
theorem getSerialPortNames_eq_iff (idle : start.Idle) (bareIdle : bare.Idle)
    (same : bare.world.serialPorts = start.world.serialPorts)
    (clean : start.CleanRun host events) (ran : start.run host events = some after)
    (closed : after.opened = []) (distinct : host.Distinct start.world.serialPorts)
    (distinctAfter : host.Distinct (lastProperty start.world.serialPorts events))
    (driver bareDriver : DriverRef) :
    after.getSerialPortNames host driver = bare.getSerialPortNames host bareDriver ↔
      host.serialPortNames (lastProperty start.world.serialPorts events) =
        host.serialPortNames start.world.serialPorts := by
  have afterIdle := (idle.sound.run clean ran).idle closed
  have property := run_serialPorts ran
  rw [afterIdle.getSerialPortNames_eq (property ▸ distinctAfter),
    bareIdle.getSerialPortNames_eq (same ▸ distinct), property, same, Option.some.injEq]

/-- The calls that keep the listing are clean. -/
theorem KeepsListingRun.clean {original : Option String}
    (keeps : start.KeepsListingRun host original events) : start.CleanRun host events := by
  induction events generalizing start with
  | nil => trivial
  | cons event events ih =>
      exact ⟨keeps.1.1, fun after performed => ih (keeps.2 after performed)⟩

/-- The property that they leave is the one before, or one that may be set. -/
theorem KeepsListingRun.lastProperty {original : Option String} (property : Option String)
    (keeps : start.KeepsListingRun host original events)
    (ran : start.run host events = some after) :
    JRxTxPort.lastProperty property events = property ∨
      ∃ names, JRxTxPort.lastProperty property events = some names ∧
        MayBeSet host original names ∧ host.Distinct (some names) := by
  induction events generalizing start property with
  | nil => exact .inl rfl
  | cons event events ih =>
      obtain ⟨⟨-, set⟩, rest⟩ := keeps
      cases performed : start.perform host event with
      | none => simp [Process.run, performed] at ran
      | some next =>
          simp only [Process.run, performed] at ran
          rcases ih (event.property.or property) (rest next performed) ran with unset | later
          · rw [JRxTxPort.lastProperty, List.foldl_cons, ← JRxTxPort.lastProperty, unset]
            cases isSet : event.property with
            | none => exact .inl rfl
            | some names => exact .inr ⟨names, rfl, set names isSet⟩
          · exact .inr later

/-- After a history of calls that keep the listing, with every port closed again, the names
are those of a process without a history. -/
theorem getSerialPortNames_unchanged (idle : start.Idle) (bareIdle : bare.Idle)
    (same : bare.world.serialPorts = start.world.serialPorts)
    (distinct : host.Distinct start.world.serialPorts)
    (keeps : start.KeepsListingRun host start.world.serialPorts events)
    (ran : start.run host events = some after) (closed : after.opened = [])
    (driver bareDriver : DriverRef) :
    after.getSerialPortNames host driver = bare.getSerialPortNames host bareDriver := by
  rcases KeepsListingRun.lastProperty start.world.serialPorts keeps ran with
    unset | ⟨names, set, mayBe, distinctAfter⟩
  · rw [getSerialPortNames_eq_iff idle bareIdle same keeps.clean ran closed distinct
      (by rw [unset]; exact distinct), unset]
  · rw [getSerialPortNames_eq_iff idle bareIdle same keeps.clean ran closed distinct
      (by rw [set]; exact distinctAfter), set]
    exact serialPortNames_iff.mpr mayBe

/-- A Linux host with two serial ports. -/
def twoPorts : Host where
  osName := "Linux"
  pathSep := ":"
  toUpperCase := fun text => String.ofList (text.toList.map Char.toUpper)
  toLowerCase := fun text => String.ofList (text.toList.map Char.toLower)
  deviceDirectory := "/dev/"
  propertiesFiles := []
  property := fun _ => none
  deniesProperties := false
  knownPorts := fun _ => []
  devices := some ["ttyS0", "ttyS1"]
  terms := none
  testRead := fun inUse name portType => !inUse name && portType = portSerial

/-- Its administrator has specified the ports in a properties file. -/
def specified : Host :=
  { twoPorts with
    propertiesFiles := [fun name =>
      if name = "gnu.io.rxtx.SerialPorts" then some "/dev/ttyS0:/dev/ttyS1" else none] }

/-- A new process. -/
def fresh : Process where
  world :=
    { registry := Registry.initial
      serialPorts := none
      freshPort := 0
      nativeOpen := fun _ => false
      device := fun _ => ""
      settings := fun _ => {}
      leftLocks := []
      leftDescriptors := []
      fresh := fun _ _ => rfl }
  opened := []

theorem fresh_idle : fresh.Idle :=
  ⟨⟨[], initial_lists⟩, fun _ => rfl, rfl, rfl⟩

/-- Open the first port and close it. -/
def openAndClose : List Event :=
  [.openSerialPort succeeding (some "/dev/ttyS0") defaults, .close 0]

/-- The properties file keeps the listing as it was. -/
theorem getSerialPortNames_unchanged_specified :
    ∃ after, fresh.run specified openAndClose = some after ∧ after.opened = [] ∧
      after.getSerialPortNames specified 1 = fresh.getSerialPortNames specified 2 := by
  have ran : fresh.run specified openAndClose = some _ := rfl
  have detected (property : Option String) :
      specified.initializePorts property (fun _ => false) =
        specified.initializePorts none (fun _ => false) :=
    Host.initializePorts_of_file (List.cons_ne_nil _ _) property none _
  have distinct (property : Option String) : specified.Distinct property := by
    unfold Host.Distinct
    rw [detected]
    change [("/dev/ttyS0", portSerial), ("/dev/ttyS1", portSerial)].Nodup
    decide
  have keeps : fresh.KeepsListingRun specified none openAndClose := by
    refine ⟨⟨⟨?_, ?_⟩, ?_⟩, fun after _ => ⟨⟨trivial, nofun⟩, fun _ _ => trivial⟩⟩
    · apply (laterStepsSucceed_iff rfl rfl).mpr
      constructor
      · intro _
        exact ⟨rfl, rfl, nofun, nofun, nofun, rfl, nofun, nofun, rfl⟩
      · intro taking takes _ notOpened
        obtain rfl := Option.some.inj takes
        exact absurd rfl notOpened
    · intro name isName _ _ _ oldPorts filled
      obtain rfl := Option.some.inj filled
      obtain rfl := Option.some.inj isName
      trivial
    · intro names _
      exact ⟨.inl (List.cons_ne_nil _ _), distinct _⟩
  exact ⟨_, ran, rfl, getSerialPortNames_unchanged fresh_idle fresh_idle rfl (distinct _) keeps ran
    rfl 1 2⟩

/-- After one open the other port is no longer listed. -/
theorem openSerialPort_hides_ports :
    ∃ after, fresh.Idle ∧ fresh.run twoPorts openAndClose = some after ∧ after.opened = [] ∧
      fresh.getSerialPortNames twoPorts 1 = some ["/dev/ttyS0", "/dev/ttyS1"] ∧
      after.getSerialPortNames twoPorts 1 = some ["/dev/ttyS0"] :=
  ⟨_, fresh_idle, rfl, rfl, rfl, rfl⟩

end Process

end Jrxtx.JRxTxPort
