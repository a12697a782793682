import Jrxtx.CommPortIdentifier.Registry
import Mathlib.Data.List.Infix

/-!
# Detecting the ports

`RXTXCommDriver.initialize()` registers the ports of both types: those that a property
specifies, or else those that the operating system knows, or else those of the device
directory that look like ports.  What the property `gnu.io.rxtx.SerialPorts` is set to
and which ports this process has open are arguments here; everything else belongs to
the host.
-/

namespace Jrxtx.RXTXCommDriver

/-- `CommPortIdentifier.PORT_SERIAL` -/
def portSerial : Int := 1

/-- `CommPortIdentifier.PORT_PARALLEL` -/
def portParallel : Int := 2

/-- The devices of a host and its configuration, apart from the system property
`gnu.io.rxtx.SerialPorts`. -/
structure Host where
  /-- the property `os.name` -/
  osName : String
  /-- the property `path.separator`, or its default `:` -/
  pathSep : String
  /-- `String.toUpperCase()` in the default locale -/
  toUpperCase : String → String
  toLowerCase : String → String
  /-- what `getDeviceDirectory()` returns -/
  deviceDirectory : String
  /-- the files `gnu.io.rxtx.properties` that can be loaded, in the order of the
  extension directories -/
  propertiesFiles : List (String → Option String)
  /-- the other system properties -/
  property : String → Option String
  /-- `System.setProperties` throws a `SecurityException` -/
  deniesProperties : Bool
  /-- the ports that `registerKnownPorts` adds -/
  knownPorts : Int → List String
  /-- the entries of the device directory, if it can be listed -/
  devices : Option (List String)
  /-- how many entries `/dev/term` has, if it can be listed -/
  terms : Option Nat
  /-- `testRead`, with the names of the ports that this process has open -/
  testRead : (String → Bool) → String → Int → Bool

namespace Host

variable (host : Host) (serialPorts : Option String) (inUse : String → Bool) (portType : Int)

/-! ## Specified ports -/

/-- `new StringTokenizer(names, pathSep)`: the tokens, of which none is empty. -/
def tokens (pathSep : List Char) : (names token : List Char) → List String
  | [], [] => []
  | [], token => [String.ofList token]
  | first :: rest, token =>
      if first ∉ pathSep then tokens pathSep rest (token ++ [first])
      else if token = [] then tokens pathSep rest []
      else String.ofList token :: tokens pathSep rest []

/-- The ports that `addSpecifiedPorts` adds. -/
def addSpecifiedPorts (names : String) : List String :=
  (tokens host.pathSep.toList names.toList []).filter (host.testRead inUse · portType)

/-- The properties that `registerSpecifiedPorts` looks at: those of the last file that
it has loaded, or the system properties. -/
def properties (name : String) : Option String :=
  match host.propertiesFiles.getLast? with
  | some file => file name
  | none => if name = "gnu.io.rxtx.SerialPorts" then serialPorts else host.property name

/-- The value of the property for a type of ports. -/
def specifiedPorts : Option String :=
  if portType = portSerial then
    (host.properties serialPorts "gnu.io.rxtx.SerialPorts").or
      (host.properties serialPorts "gnu.io.SerialPorts")
  else if portType = portParallel then
    (host.properties serialPorts "gnu.io.rxtx.ParallelPorts").or
      (host.properties serialPorts "gnu.io.ParallelPorts")
  else none

/-! ## Scanned ports -/

/-- `name.toLowerCase().indexOf(part) != -1` -/
def osContains (part : String) : Bool :=
  decide (part.toList <:+: (host.toLowerCase host.osName).toList)

def isWindows : Bool := host.osContains "windows"

def isSolaris : Bool := host.osName = "Solaris" || host.osName = "SunOS"

/-- The prefixes of serial ports, by operating system. -/
def serialPortPrefixes : List String :=
  if host.osName = "Linux" then
    ["ttySA", "comx", "holter", "modem", "rfcomm", "ttyircomm", "ttycosa0c", "ttycosa1c",
      "ttyACM", "ttyC", "ttyCH", "ttyD", "ttyE", "ttyF", "ttyH", "ttyI", "ttyL", "ttyM",
      "ttyMX", "ttyP", "ttyR", "ttyS", "ttySI", "ttySR", "ttyT", "ttyUSB", "ttyV", "ttyW",
      "ttyX"]
  else if host.osContains "qnx" then ["ser"]
  else if host.osName = "Irix" then
    ["ttyc", "ttyd", "ttyf", "ttym", "ttyq", "tty4d", "tty4f", "midi", "us"]
  else if host.osName = "FreeBSD" then
    ["ttyd", "cuaa", "ttyA", "cuaA", "ttyD", "cuaD", "ttyE", "cuaE", "ttyF", "cuaF", "ttyR",
      "cuaR", "stl"]
  else if host.osName = "NetBSD" then ["tty0"]
  else if host.isSolaris then ["term/", "cua/"]
  else if host.osName = "HP-UX" then ["tty0p", "tty1p"]
  else if host.osName = "UnixWare" || host.osName = "OpenUNIX" then
    ["tty00s", "tty01s", "tty02s", "tty03s"]
  else if host.osName = "OpenServer" then
    ["tty1A", "tty2A", "tty3A", "tty4A", "tty5A", "tty6A", "tty7A", "tty8A", "tty9A", "tty10A",
      "tty11A", "tty12A", "tty13A", "tty14A", "tty15A", "tty16A", "ttyu1A", "ttyu2A", "ttyu3A",
      "ttyu4A", "ttyu5A", "ttyu6A", "ttyu7A", "ttyu8A", "ttyu9A", "ttyu10A", "ttyu11A",
      "ttyu12A", "ttyu13A", "ttyu14A", "ttyu15A", "ttyu16A"]
  else if host.osName = "Compaq's Digital UNIX" || host.osName = "OSF1" then ["tty0"]
  else if host.osName = "BeOS" then ["serial"]
  else if host.osName = "Mac OS X" then
    ["cu.KeyUSA28X191.", "tty.KeyUSA28X191.", "cu.KeyUSA28X181.", "tty.KeyUSA28X181.",
      "cu.KeyUSA19181.", "tty.KeyUSA19181."]
  else if host.isWindows then ["COM"]
  else []

/-- The prefixes of parallel ports, by operating system. -/
def parallelPortPrefixes : List String :=
  if host.osName = "Linux" then ["lp"]
  else if host.osName = "FreeBSD" then ["lpt"]
  else if host.isWindows then ["LPT"]
  else []

/-- The names of the devices to look at; `none` if listing them throws, and nothing if
there are none to check. -/
def candidateDeviceNames : Option (List String) :=
  if host.osName = "Windows CE" then
    some ["COM1:", "COM2:", "COM3:", "COM4:", "COM5:", "COM6:", "COM7:", "COM8:"]
  else if host.isWindows then
    some ((List.range 4096).map (fun i => "COM" ++ toString (i + 1)) ++
      (List.range 3).map fun i => "LPT" ++ toString (i + 1))
  else if host.isSolaris then host.terms.map fun count => if count > 0 then ["term/"] else []
  else some (host.devices.getD [])

/-- The names under which a device can be a port of one of the prefixes: the rest of its
name has no letters. -/
def portNames (device portPrefix : String) : List String :=
  let rest := String.ofList (device.toList.drop portPrefix.length)
  if !portPrefix.toList.isPrefixOf device.toList || host.toUpperCase rest ≠ host.toLowerCase rest
  then []
  else
    let name := if host.isWindows then device else host.deviceDirectory ++ device
    if host.isSolaris then
      (List.range' 97 26 ++ List.range' 48 10).map fun p => name.push (Char.ofNat p)
    else [name]

/-- The ports that `registerValidPorts` adds. -/
def registerValidPorts (candidates prefixes : List String) : List String :=
  (candidates.flatMap fun device => prefixes.flatMap (host.portNames device)).filter
    (host.testRead inUse · portType)

/-- The ports that `registerScannedPorts` adds; `none` if it throws. -/
def registerScannedPorts : Option (List String) :=
  host.candidateDeviceNames.map fun candidates =>
    host.registerValidPorts inUse portType candidates
      (if portType = portSerial then host.serialPortPrefixes
        else if portType = portParallel then host.parallelPortPrefixes else [])

/-! ## All ports -/

/-- The ports of one type that `initialize` adds; `none` if it throws. -/
def registerPorts : Option (List String) :=
  if host.deniesProperties then none
  else
    match host.specifiedPorts serialPorts portType with
    | some names => some (host.addSpecifiedPorts inUse portType names)
    | none =>
        if host.knownPorts portType ≠ [] then some (host.knownPorts portType)
        else host.registerScannedPorts inUse portType

/-- `initialize()`: the registrations, and whether it throws after them. -/
def initializePorts : List (String × Int) × Bool :=
  match host.registerPorts serialPorts inUse portSerial with
  | none => ([], true)
  | some serial =>
      match host.registerPorts serialPorts inUse portParallel with
      | none => (serial.map (·, portSerial), true)
      | some parallel =>
          (serial.map (·, portSerial) ++ parallel.map (·, portParallel), false)

/-- The run of a new driver. -/
def detect (driver : DriverRef) : Detection where
  driver := driver
  registrations := (host.initializePorts serialPorts inUse).1
  throws := (host.initializePorts serialPorts inUse).2

/-- The serial ports that are detected while no port is open. -/
def serialPortNames : List String :=
  ((host.initializePorts serialPorts fun _ => false).1.filter (·.2 = portSerial)).map Prod.fst

/-- No port is detected twice while no port is open. -/
def Distinct : Prop :=
  (host.initializePorts serialPorts fun _ => false).1.Nodup

/-- If a properties file can be loaded, then the system properties do not count. -/
theorem initializePorts_of_file {host : Host} (loaded : host.propertiesFiles ≠ [])
    (one other : Option String) (inUse : String → Bool) :
    host.initializePorts one inUse = host.initializePorts other inUse := by
  have last := List.getLast?_eq_some_getLast loaded
  have properties (name : String) : host.properties one name = host.properties other name := by
    simp only [Host.properties, last]
  have registered (portType : Int) :
      host.registerPorts one inUse portType = host.registerPorts other inUse portType := by
    simp only [registerPorts, specifiedPorts, properties]
  simp only [initializePorts, registered]

end Host

end Jrxtx.RXTXCommDriver
