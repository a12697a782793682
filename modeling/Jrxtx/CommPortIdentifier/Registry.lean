import Jrxtx.CommPortIdentifier.Core
import Jrxtx.Heap.Chain
import Mathlib.Data.List.Range

/-!
# The port registry

`CommPortIdentifier` keeps every identifier it has created in a chain of `next`
references that starts at the static field `CommPortIndex`.  `addPortName`
appends to the chain, the two lookups walk it, and `getPortIdentifiers` lets the
driver rebuild it and then puts the old identifiers back in place of the new
ones, by name and type.

All of it runs under the static lock `Sync`, so each method is one function.
The walks take as fuel the number of identifiers created so far.  No chain is
longer, so a walk that runs out of it has entered a cycle: the result `none`
says that the method never returns.
-/

namespace Jrxtx

open Jrxtx.Heap

/-- The static state: the identifiers created so far and `CommPortIndex`. -/
structure Registry where
  heap : IdentRef → CommPortIdentifier
  allocated : Nat
  commPortIndex : Option IdentRef

/-- What one run of the driver does: `Class.forName(..).newInstance()` makes
`driver`, whose `initialize()` registers ports one after the other.  `throws` if
loading the class or `initialize()` then ends with an exception. -/
structure Detection where
  driver : DriverRef
  registrations : List (String × Int)
  throws : Bool
  deriving DecidableEq, Repr

namespace Registry

/-- The static state when the class is loaded: nothing listed, no object created. -/
def initial : Registry where
  heap := fun _ => .new "" none 0 0
  allocated := 0
  commPortIndex := none

/-- The `next` references. -/
def next (self : Registry) (ref : IdentRef) : Option IdentRef :=
  (self.heap ref).next

/-- Write to the fields of one identifier. -/
def modify (self : Registry) (ref : IdentRef)
    (change : CommPortIdentifier → CommPortIdentifier) : Registry :=
  { self with heap := Function.update self.heap ref (change (self.heap ref)) }

/-- `ref.next = link` -/
def setNext (self : Registry) (ref : IdentRef) (link : Option IdentRef) : Registry :=
  self.modify ref fun ident => { ident with next := link }

/-- `ref.RXTXDriver = driver` -/
def setDriver (self : Registry) (ref : IdentRef) (driver : DriverRef) : Registry :=
  self.modify ref fun ident => { ident with rxtxDriver := driver }

/-- `new CommPortIdentifier(..)`, at the reference `allocated`. -/
def alloc (self : Registry) (ident : CommPortIdentifier) : Registry :=
  { self with
    heap := Function.update self.heap self.allocated ident
    allocated := self.allocated + 1 }

def addIdentifierToList (self : Registry) (cpi : IdentRef) : Option Registry :=
  match self.commPortIndex with
  | none => some { self with commPortIndex := some cpi }
  | some index =>
      match lastFrom self.next self.allocated index with
      | some last => some (self.setNext last (some cpi))
      | none => none

def addPortName (self : Registry) (s : String) (type : Int) (c : DriverRef) :
    Option Registry :=
  (self.alloc (.new s none type c)).addIdentifierToList self.allocated

/-- The walk of `getPortIdentifier(String)`; `some none` if no name matches. -/
def findName (self : Registry) (s : String) : Option (Option IdentRef) :=
  scan self.next (fun ref => (self.heap ref).portName == s) self.allocated
    self.commPortIndex

/-- `getPortIdentifier(CommPort)`; `some none` is `NoSuchPortException`. -/
def getPortIdentifierOf (self : Registry) (p : PortRef) : Option (Option IdentRef) :=
  scan self.next (fun ref => (self.heap ref).commport == some p) self.allocated
    self.commPortIndex

/-- The map `oldPorts` of `getPortIdentifiers`, from names to identifiers. -/
abbrev OldPorts := String → Option IdentRef

/-- The walk that fills `oldPorts`; a later identifier of a name replaces an
earlier one. -/
def rememberPorts (self : Registry) : Nat → Option IdentRef → OldPorts → Option OldPorts
  | _, none, oldPorts => some oldPorts
  | 0, some _, _ => none
  | fuel + 1, some p, oldPorts =>
      self.rememberPorts fuel (self.heap p).next
        (Function.update oldPorts (self.heap p).portName (some p))

def oldPorts (self : Registry) : Option OldPorts :=
  self.rememberPorts self.allocated self.commPortIndex fun _ => none

/-- The registrations of `initialize()`, in order. -/
def register (self : Registry) (driver : DriverRef) :
    List (String × Int) → Option Registry
  | [] => some self
  | (name, type) :: rest =>
      match self.addPortName name type driver with
      | some next => next.register driver rest
      | none => none

/-- `name` and `type` of an identifier. -/
def registration (self : Registry) (ref : IdentRef) : String × Int :=
  ((self.heap ref).portName, (self.heap ref).portType)

/-- The local `matchingOldPort` for a new identifier of this name and type, if
it is not null and has the same type. -/
def matchingOldPort (self : Registry) (oldPorts : OldPorts) (new : String × Int) :
    Option IdentRef :=
  match oldPorts new.1 with
  | some old => if (self.heap old).portType = new.2 then some old else none
  | none => none

/-- Replace the new identifier `curPort` by the old identifier `old`. -/
def replacePort (self : Registry) (prevPort : Option IdentRef)
    (curPort old : IdentRef) : Registry :=
  let self := self.setDriver old (self.heap curPort).rxtxDriver
  let self := self.setNext old (self.heap curPort).next
  match prevPort with
  | none => { self with commPortIndex := some old }
  | some prev => self.setNext prev (some old)

/-- The loop of `getPortIdentifiers` that restores the old identifiers. -/
def restorePorts (oldPorts : OldPorts) :
    Nat → (curPort prevPort : Option IdentRef) → Registry → Option Registry
  | _, none, _, self => some self
  | 0, some _, _, _ => none
  | fuel + 1, some curPort, prevPort, self =>
      match self.matchingOldPort oldPorts (self.registration curPort) with
      | some old =>
          let self := self.replacePort prevPort curPort old
          restorePorts oldPorts fuel (self.heap curPort).next (some old) self
      | none => restorePorts oldPorts fuel (self.heap curPort).next (some curPort) self

def getPortIdentifiers (self : Registry) (detection : Detection) : Option Registry :=
  match self.oldPorts with
  | none => none
  | some oldPorts =>
      let cleared := { self with commPortIndex := none }
      match cleared.register detection.driver detection.registrations with
      | none => none
      | some detected =>
          if detection.throws then some detected
          else restorePorts oldPorts detected.allocated detected.commPortIndex none detected

/-- `getPortIdentifier(String)`: the registry afterwards and what was found. -/
def getPortIdentifier (self : Registry) (s : String) (detection : Detection) :
    Option (Registry × Option IdentRef) :=
  match self.findName s with
  | none => none
  | some (some index) => some (self, some index)
  | some none =>
      match self.getPortIdentifiers detection with
      | none => none
      | some after =>
          match after.findName s with
          | none => none
          | some found => some (after, found)

/-- `nextElement()` of `CommPortEnumerator`, on its field `index`. -/
def nextElement (self : Registry) : Option IdentRef → Option IdentRef
  | some index => self.next index
  | none => self.commPortIndex

def hasMoreElements (self : Registry) : Option IdentRef → Bool
  | some index => (self.next index).isSome
  | none => self.commPortIndex.isSome

/-- The loop `while (hasMoreElements()) nextElement()` of a client. -/
def enumerate (self : Registry) : Nat → Option IdentRef → Option (List IdentRef)
  | 0, index => if self.hasMoreElements index then none else some []
  | fuel + 1, index =>
      if self.hasMoreElements index then
        match self.nextElement index with
        | some element => (self.enumerate fuel (some element)).map (element :: ·)
        | none => none
      else some []

/-- The registry lists exactly `nodes`, all of them created. -/
structure Lists (registry : Registry) (nodes : List IdentRef) : Prop where
  chain : Chain registry.next registry.commPortIndex nodes
  created : ∀ ref ∈ nodes, ref < registry.allocated

/-- Two identifiers differ at most in their `next` reference. -/
def SameButNext (before after : CommPortIdentifier) : Prop :=
  after = { before with next := after.next }

/-- Two identifiers differ at most in `next` and `RXTXDriver`. -/
def SameButDriver (before after : CommPortIdentifier) : Prop :=
  after = { before with next := after.next, rxtxDriver := after.rxtxDriver }

end Registry

end Jrxtx
