import Jrxtx.Heap.Chain
import Mathlib.Logic.Function.Basic

/-!
# The list of preopened ports

`find_preopened_ports` and `static_add_filename` on the doubly linked list that
starts at `preopened_port`.  Memory is a partial function: an operation that
reads or writes a node after `free` has no result.
-/

namespace Jrxtx.SerialImp

open Jrxtx.Heap

/-- The address of a node. -/
abbrev PreopenedRef := Nat

/-- `struct preopened` -/
structure Preopened where
  filename : String
  fd : Int
  next : Option PreopenedRef
  prev : Option PreopenedRef
  deriving DecidableEq, Repr

/-- The allocated nodes and the start of the list; `allocated` is the address that
`malloc` gives out next. -/
structure PreopenedPorts where
  memory : PreopenedRef → Option Preopened
  preopenedPort : Option PreopenedRef
  allocated : Nat

namespace PreopenedPorts

/-- No port is preopened. -/
def empty : PreopenedPorts where
  memory := fun _ => none
  preopenedPort := none
  allocated := 0

variable (ports : PreopenedPorts)

/-- Where `next` leads; nowhere from a node that is not allocated. -/
def next (p : PreopenedRef) : Option PreopenedRef :=
  (ports.memory p).bind Preopened.next

/-- Write to an allocated node. -/
def modify (p : PreopenedRef) (change : Preopened → Preopened) : Option PreopenedPorts :=
  match ports.memory p with
  | some node => some { ports with memory := Function.update ports.memory p (some (change node)) }
  | none => none

/-- `free(p)` -/
def free (p : PreopenedRef) : PreopenedPorts :=
  { ports with memory := Function.update ports.memory p none }

/-- Take a node out of the list.  Only for a single node is `preopened_port` set;
the first of several stays its target after `free`. -/
def unlink (p : PreopenedRef) (node : Preopened) : Option PreopenedPorts :=
  match node.prev, node.next with
  | some prev, some next => do
      let ports ← ports.modify prev fun before => { before with next := some next }
      let ports ← ports.modify next fun after => { after with prev := some prev }
      some (ports.free p)
  | some prev, none => do
      let ports ← ports.modify prev fun before => { before with next := none }
      some (ports.free p)
  | none, some next => do
      let ports ← ports.modify next fun after => { after with prev := none }
      some (ports.free p)
  | none, none => some { ports.free p with preopenedPort := none }

/-- The loop of `find_preopened_ports`. -/
def findFrom (filename : String) : Nat → PreopenedRef → Option (Int × PreopenedPorts)
  | 0, _ => none
  | fuel + 1, p => do
      let node ← ports.memory p
      if node.filename = filename then
        let unlinked ← ports.unlink p node
        some (node.fd, unlinked)
      else
        match node.next with
        | some next => findFrom filename fuel next
        | none => some (0, ports)

/-- `find_preopened_ports`: the file descriptor, or 0, and the remaining list. -/
def findPreopenedPorts (fuel : Nat) (filename : String) : Option (Int × PreopenedPorts) :=
  match ports.preopenedPort with
  | none => some (0, ports)
  | some p => ports.findFrom filename fuel p

/-- The loop of `static_add_filename`, which appends the allocated node `newp` and
lets `preopened_port` point to the node before it. -/
def addFrom (filename : String) (newp : PreopenedRef) : Nat → PreopenedRef → Option PreopenedPorts
  | 0, _ => none
  | fuel + 1, p => do
      let node ← ports.memory p
      if node.filename = filename then some ports
      else
        match node.next with
        | some next => addFrom filename newp fuel next
        | none => do
            let ports ← ports.modify newp fun added => { added with next := none, prev := some p }
            let ports ← ports.modify p fun last => { last with next := some newp }
            some { ports with preopenedPort := some p }

/-- `static_add_filename` -/
def staticAddFilename (fuel : Nat) (filename : String) (fd : Int) : Option PreopenedPorts :=
  let newp := ports.allocated
  let ports :=
    { ports with
      memory := Function.update ports.memory newp (some ⟨filename, fd, none, none⟩)
      allocated := newp + 1 }
  match ports.preopenedPort with
  | none => some { ports with preopenedPort := some newp }
  | some p => ports.addFrom filename newp fuel p

/-! ## The walk along the list -/

/-- Following `next` from `start` visits allocated nodes, whose predecessors are
allocated too. -/
structure Linked (start : Option PreopenedRef) (nodes : List PreopenedRef) : Prop where
  chain : Chain ports.next start nodes
  allocated : ∀ p ∈ nodes, ∃ node, ports.memory p = some node ∧
    ∀ prev, node.prev = some prev → (ports.memory prev).isSome = true

section Walk

variable {ports} {after : PreopenedPorts} {p q : PreopenedRef} {filename : String}
  {nodes : List PreopenedRef} {fuel : Nat}

theorem modify_eq_some (change : Preopened → Preopened)
    (allocated : (ports.memory p).isSome = true) :
    ∃ after, ports.modify p change = some after ∧
      ∀ q, (ports.memory q).isSome = true → (after.memory q).isSome = true := by
  obtain ⟨node, found⟩ := Option.isSome_iff_exists.mp allocated
  simp only [modify, found, Option.some.injEq, exists_eq_left']
  intro q other
  by_cases same : q = p
  · simp [same]
  · simpa [same] using other

/-- A node can be taken out if its neighbours are allocated. -/
theorem unlink_isSome {node : Preopened}
    (prev : ∀ prev, node.prev = some prev → (ports.memory prev).isSome = true)
    (next : ∀ next, node.next = some next → (ports.memory next).isSome = true) :
    (ports.unlink p node).isSome = true := by
  simp only [unlink]
  split
  next before later atPrev atNext =>
    obtain ⟨first, modified, kept⟩ :=
      modify_eq_some (fun before => { before with next := some later }) (prev before atPrev)
    obtain ⟨second, modifiedAgain, -⟩ :=
      modify_eq_some (fun after => { after with prev := some before })
        (kept later (next later atNext))
    simp [modified, modifiedAgain]
  next before atPrev atNext =>
    obtain ⟨first, modified, -⟩ :=
      modify_eq_some (fun before => { before with next := none }) (prev before atPrev)
    simp [modified]
  next later atPrev atNext =>
    obtain ⟨first, modified, -⟩ :=
      modify_eq_some (fun after => { after with prev := none }) (next later atNext)
    simp [modified]
  next => rfl

/-- The search ends within the length of the list. -/
theorem findPreopenedPorts_isSome (filename : String)
    (linked : ports.Linked ports.preopenedPort nodes)
    (enough : nodes.length ≤ fuel) :
    (ports.findPreopenedPorts fuel filename).isSome = true := by
  have search : ∀ (nodes : List PreopenedRef) (fuel : Nat) (p : PreopenedRef),
      ports.Linked (some p) nodes → nodes.length ≤ fuel →
        (ports.findFrom filename fuel p).isSome = true := by
    intro nodes
    induction nodes with
    | nil =>
        intro fuel p linked _
        have chain := linked.chain
        simp at chain
    | cons node rest ih =>
        intro fuel p linked enough
        obtain ⟨chain, allocated⟩ := linked
        obtain ⟨rfl, tail⟩ : p = node ∧ Chain ports.next (ports.next node) rest := by
          simpa using chain
        obtain ⟨data, found, prev⟩ := allocated p (by simp)
        cases fuel with
        | zero => simp at enough
        | succ fuel =>
            have next : ports.next p = data.next := by simp [PreopenedPorts.next, found]
            rw [next] at tail
            simp only [findFrom, found, Option.bind_eq_bind, Option.bind_some]
            split
            next =>
              have unlinks : (ports.unlink p data).isSome = true := by
                apply unlink_isSome prev
                intro later atNext
                rw [atNext] at tail
                have first := tail.first_eq
                obtain ⟨laterData, laterFound, -⟩ :=
                  allocated later (by simp [List.mem_of_head? first.symm])
                simp [laterFound]
              obtain ⟨after, unlinked⟩ := Option.isSome_iff_exists.mp unlinks
              simp [unlinked]
            next =>
              split
              next later atNext =>
                apply ih fuel later
                · refine ⟨atNext ▸ tail, ?_⟩
                  intro q member
                  exact allocated q (by simp [member])
                · simpa using enough
              next => rfl
  simp only [findPreopenedPorts]
  split
  next => rfl
  next p starts => exact search nodes fuel p (starts ▸ linked) enough

end Walk

end PreopenedPorts

end Jrxtx.SerialImp
