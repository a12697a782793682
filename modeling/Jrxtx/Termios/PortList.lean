import Jrxtx.Heap.Cells
import Jrxtx.Heap.Doubly

/-!
# The list of open ports of the Win32 termios layer

`serial_open` and `serial_close` on the doubly linked list that starts at
`first_tl`.  Memory is a partial function: reading or writing through the null
pointer or a freed node, and a text longer than its field or buffer, have no result.
Allocation succeeds.
-/

namespace Jrxtx.Termios

open Jrxtx.Heap

/-- The address of a node. -/
abbrev PortRef := Nat

/-- What the field `hComm` holds. -/
inductive Handle where
  | null
  | invalidHandleValue
  | opened (handle : Nat)
  deriving DecidableEq, Repr

/-- `struct termios_list`, as far as the list needs it. -/
structure TermiosList where
  filename : String
  hComm : Handle
  fd : Int
  next : Option PortRef
  prev : Option PortRef
  deriving DecidableEq, Repr

/-- The outcomes of the Win32 calls of one `serial_open`. -/
structure OpenCalls where
  /-- the handle of `CreateFile`, unless it returns `INVALID_HANDLE_VALUE` -/
  createFile : Option Nat
  setupComm : Bool
  readEvent : Bool
  selectEvent : Bool
  writeEvent : Bool
  /-- `PCF_DTRDSR` and the other bits of `cp.dwProvCapabilities` -/
  dtrDsr : Bool
  rlsd : Bool
  rtsCts : Bool
  totalTimeouts : Bool
  getCommState : Bool
  deriving DecidableEq, Repr

/-- The handle as `open_port` stores it. -/
def OpenCalls.handle (calls : OpenCalls) : Handle :=
  match calls.createFile with
  | some handle => .opened handle
  | none => .invalidHandleValue

theorem OpenCalls.handle_ne_null (calls : OpenCalls) : calls.handle ≠ .null := by
  unfold OpenCalls.handle
  split <;> simp

/-- `open_port` returns -1. -/
def OpenCalls.openPortFails (calls : OpenCalls) : Bool :=
  calls.createFile.isNone || !calls.setupComm || !calls.readEvent || !calls.selectEvent ||
    !calls.writeEvent

/-- `sprintf` into `char message[80]` -/
def sprintfMessage (text : String) : Option Unit :=
  if text.utf8ByteSize < 80 then some () else none

/-- The report of a capability that is missing. -/
def reportUnless (present : Bool) (text : String) : Option Unit :=
  if present then some () else sprintfMessage text

/-- `check_port_capabilities`: whether it returns -1. -/
def OpenCalls.checkPortCapabilities (calls : OpenCalls) (filename : String) : Option Bool := do
  reportUnless calls.dtrDsr (filename ++ ": no DTR & DSR support\n")
  reportUnless calls.rlsd (filename ++ ": no carrier detect (RLSD) support\n")
  reportUnless calls.rtsCts (filename ++ ": no RTS & CTS support\n")
  reportUnless calls.totalTimeouts (filename ++ ": no timeout support\n")
  some !calls.getCommState

/-- The allocated nodes and the start of the list; `allocated` is the address that
`malloc` gives out next. -/
structure Ports where
  memory : PortRef → Option TermiosList
  firstTl : Option PortRef
  allocated : Nat

/-- The name and its final NUL fit into `char filename[80]`. -/
def fits (filename : String) : Bool :=
  filename.utf8ByteSize < 80

namespace Ports

/-- No port is open. -/
def empty : Ports where
  memory := fun _ => none
  firstTl := none
  allocated := 0

variable (ports : Ports)

/-- Write to an allocated node. -/
def modify (p : PortRef) (change : TermiosList → TermiosList) : Option Ports :=
  match ports.memory p with
  | some node => some { ports with memory := Function.update ports.memory p (some (change node)) }
  | none => none

/-- `free(p)` -/
def free (p : PortRef) : Ports :=
  { ports with memory := Function.update ports.memory p none }

/-- The walk of `port_opened`. -/
def portOpenedFrom (filename : String) : Nat → PortRef → Option Int
  | 0, _ => none
  | fuel + 1, p => do
      let index ← ports.memory p
      if index.filename = filename then some index.fd
      else
        match index.next with
        | some next => portOpenedFrom filename fuel next
        | none => some 0

/-- `port_opened` -/
def portOpened (fuel : Nat) (filename : String) : Option Int :=
  match ports.firstTl with
  | none => some 0
  | some p => ports.portOpenedFrom filename fuel p

/-- The loop of `find_port`. -/
def findPortFrom (fd : Int) : Nat → PortRef → Option (Option PortRef)
  | 0, _ => none
  | fuel + 1, p => do
      let index ← ports.memory p
      if index.fd = 0 then some none
      else if index.fd = fd then some (some p)
      else
        match index.next with
        | some next => findPortFrom fd fuel next
        | none => some none

/-- `find_port`: the node, or `NULL`. -/
def findPort (fuel : Nat) (fd : Int) : Option (Option PortRef) :=
  if fd ≤ 0 then some none
  else
    match ports.firstTl with
    | none => some none
    | some p => ports.findPortFrom fd fuel p

/-- The loop of `get_free_fd`; `last` is the fd of `p`. -/
def freeFdFrom : Nat → PortRef → Int → Option Int
  | 0, _, _ => none
  | fuel + 1, p, last => do
      let index ← ports.memory p
      match index.next with
      | none => some (index.fd + 1)
      | some q => do
          let next ← ports.memory q
          if next.fd ≠ last + 1 then some (last + 1) else freeFdFrom fuel q next.fd

/-- `get_free_fd` -/
def getFreeFd (fuel : Nat) : Option Int :=
  match ports.firstTl with
  | none => some 1
  | some p => do
      let index ← ports.memory p
      if index.fd = 0 then some 1
      else if index.fd > 1 then some 1
      else ports.freeFdFrom fuel p index.fd

/-- The loop of `add_port`. -/
def insertionPoint (fd : Int) : Nat → PortRef → Option PortRef
  | 0, _ => none
  | fuel + 1, p => do
      let index ← ports.memory p
      if index.fd < fd then
        match index.next with
        | some next => insertionPoint fd fuel next
        | none => some p
      else some p

/-- A new node, zeroed apart from its name and fd. -/
def allocate (filename : String) (fd : Int) : Ports :=
  { ports with
    memory := Function.update ports.memory ports.allocated (some ⟨filename, .null, fd, none, none⟩)
    allocated := ports.allocated + 1 }

/-- The last part of `add_port`, for the node `port`.  Before a greater fd the node
goes between `index->prev` and `index`. -/
def link (fuel : Nat) (port : PortRef) (fd : Int) : Option Ports :=
  match ports.firstTl with
  | none => do
      let ports ← ports.modify port fun node => { node with prev := none, next := none }
      some { ports with firstTl := some port }
  | some first => do
      let p ← ports.insertionPoint fd fuel first
      let index ← ports.memory p
      if index.fd > fd then
        let ports ← ports.modify port fun node => { node with prev := index.prev, next := some p }
        let before ← index.prev
        let ports ← ports.modify before fun node => { node with next := some port }
        ports.modify p fun node => { node with prev := some port }
      else
        let ports ← ports.modify port fun node => { node with prev := some p, next := none }
        ports.modify p fun node => { node with next := some port }

/-- `add_port`: the new node. -/
def addPort (fuel : Nat) (filename : String) : Option (PortRef × Ports) :=
  if fits filename then do
    let fd ← ports.getFreeFd fuel
    let linked ← (ports.allocate filename fd).link fuel ports.allocated fd
    some (ports.allocated, linked)
  else none

/-- The part of `serial_close` that takes `index` out of the list and frees it. -/
def unlink (p : PortRef) (index : TermiosList) : Option Ports :=
  match index.prev, index.next with
  | some prev, some next => do
      let ports ← ports.modify next fun node => { node with prev := some prev }
      let ports ← ports.modify prev fun node => { node with next := some next }
      some (ports.free p)
  | some prev, none => do
      let ports ← ports.modify prev fun node => { node with next := none }
      some (ports.free p)
  | none, some next => do
      let ports ← ports.modify next fun node => { node with prev := none }
      some { ports.free p with firstTl := some next }
  | none, none => some { ports.free p with firstTl := none }

/-- `serial_close` -/
def serialClose (fuel : Nat) (fd : Int) : Option (Int × Ports) :=
  match ports.firstTl with
  | none => some (0, ports)
  | some first => do
      let head ← ports.memory first
      if head.hComm = .null then some (0, ports)
      else
        match ← ports.findPort fuel fd with
        | none => some (-1, ports)
        | some p => do
            let index ← ports.memory p
            let closed ← ports.unlink p index
            some (0, closed)

/-- `open_port` stores the handle. -/
def openPort (calls : OpenCalls) (p : PortRef) : Option Ports :=
  ports.modify p fun node => { node with hComm := calls.handle }

/-- The end of a failing `serial_open`. -/
def closeFailed (fuel : Nat) (fd : Int) : Option (Int × Ports) := do
  let (_, ports) ← ports.serialClose fuel fd
  some (-1, ports)

/-- `serial_open`; `tcsetattr` looks the port up again, and its result is not used. -/
def serialOpen (fuel : Nat) (filename : String) (calls : OpenCalls) : Option (Int × Ports) := do
  let opened ← ports.portOpened fuel filename
  if opened ≠ 0 then some (-1, ports)
  else
    let (p, ports) ← ports.addPort fuel filename
    let ports ← ports.openPort calls p
    let index ← ports.memory p
    if calls.openPortFails then
      sprintfMessage ("serial_open():  Invalid Port Reference for " ++ filename ++ "\n")
      ports.closeFailed fuel index.fd
    else if ← calls.checkPortCapabilities index.filename then ports.closeFailed fuel index.fd
    else
      let _ ← ports.findPort fuel index.fd
      let first ← ports.firstTl
      let head ← ports.memory first
      reportUnless (head.hComm ≠ .null)
        ("open():  Invalid Port Reference for " ++ index.filename ++ "\n")
      some (index.fd, ports)

end Ports

end Jrxtx.Termios
