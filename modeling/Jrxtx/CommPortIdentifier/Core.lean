import Mathlib.Logic.Function.Basic

/-!
# Port identifiers

The fields of `gnu.io.CommPortIdentifier` and its statement blocks that run
under `synchronized (this)`.  The concurrent model of `open()` and the model of
the port registry both act on this record.

References to Java objects are numbers: two references are the same object
exactly when they are equal.
-/

namespace Jrxtx

/-- Reference to a `CommPort`. -/
abbrev PortRef := Nat

/-- Reference to a `CommDriver`. -/
abbrev DriverRef := Nat

/-- Reference to a `CommPortOwnershipListener`. -/
abbrev ListenerRef := Nat

/-- Reference to a `CommPortIdentifier`. -/
abbrev IdentRef := Nat

/-- Event codes of `CommPortOwnershipListener`. -/
inductive OwnershipEvent where
  | portOwned
  | portUnowned
  | portOwnershipRequested
  deriving DecidableEq, Repr

/-- The instance fields of `CommPortIdentifier`; `none` is `null`. -/
structure CommPortIdentifier where
  portName : String
  available : Bool := true
  owner : Option String := none
  commport : Option PortRef
  rxtxDriver : DriverRef
  next : Option IdentRef := none
  portType : Int
  ownershipListener : Option (List ListenerRef) := none
  deriving DecidableEq, Repr

namespace CommPortIdentifier

/-- The constructor `CommPortIdentifier(pn, cp, pt, driver)`. -/
def new (pn : String) (cp : Option PortRef) (pt : Int) (driver : DriverRef) :
    CommPortIdentifier :=
  { portName := pn, commport := cp, portType := pt, rxtxDriver := driver }

/-- The listeners that an ownership event walks over; no vector, no walk. -/
def listeners (self : CommPortIdentifier) : List ListenerRef :=
  self.ownershipListener.getD []

def addPortOwnershipListener (c : ListenerRef) (self : CommPortIdentifier) :
    CommPortIdentifier :=
  let vector := self.ownershipListener.getD []
  { self with
    ownershipListener := some (if vector.contains c then vector else vector ++ [c]) }

def removePortOwnershipListener (c : ListenerRef) (self : CommPortIdentifier) :
    CommPortIdentifier :=
  { self with ownershipListener := self.ownershipListener.map (·.erase c) }

/-- The body of both synchronized blocks of `open()` once the identifier has
been seen available. -/
def assumeOwnership (theOwner : String) (self : CommPortIdentifier) :
    CommPortIdentifier :=
  { self with available := false, owner := some theOwner }

/-- The synchronized block in the `finally` clause of `open()`. -/
def unown (self : CommPortIdentifier) : CommPortIdentifier :=
  { self with available := true, owner := none }

/-- The synchronized block of `internalClosePort()`, less its `notifyAll()`. -/
def releasePort (self : CommPortIdentifier) : CommPortIdentifier :=
  { self with owner := none, available := true, commport := none }

section Fields

variable (self : CommPortIdentifier) (c : ListenerRef) (theOwner : String)

@[simp] theorem addPortOwnershipListener_available :
    (self.addPortOwnershipListener c).available = self.available := rfl

@[simp] theorem addPortOwnershipListener_owner :
    (self.addPortOwnershipListener c).owner = self.owner := rfl

@[simp] theorem addPortOwnershipListener_commport :
    (self.addPortOwnershipListener c).commport = self.commport := rfl

@[simp] theorem removePortOwnershipListener_available :
    (self.removePortOwnershipListener c).available = self.available := rfl

@[simp] theorem removePortOwnershipListener_owner :
    (self.removePortOwnershipListener c).owner = self.owner := rfl

@[simp] theorem removePortOwnershipListener_commport :
    (self.removePortOwnershipListener c).commport = self.commport := rfl

@[simp] theorem assumeOwnership_available :
    (self.assumeOwnership theOwner).available = false := rfl

@[simp] theorem assumeOwnership_owner :
    (self.assumeOwnership theOwner).owner = some theOwner := rfl

@[simp] theorem assumeOwnership_commport :
    (self.assumeOwnership theOwner).commport = self.commport := rfl

@[simp] theorem unown_available : self.unown.available = true := rfl

@[simp] theorem unown_owner : self.unown.owner = none := rfl

@[simp] theorem unown_commport : self.unown.commport = self.commport := rfl

@[simp] theorem releasePort_available : self.releasePort.available = true := rfl

@[simp] theorem releasePort_owner : self.releasePort.owner = none := rfl

@[simp] theorem releasePort_commport : self.releasePort.commport = none := rfl

end Fields

end CommPortIdentifier

end Jrxtx
