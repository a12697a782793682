import Jrxtx.CommPortIdentifier.Acyclic
import Jrxtx.CommPortIdentifier.Sequential

/-!
# Closing a port

`CommPort.close()` finds the identifier of its port by searching the registry,
which enumerations rebuild.  Runs of enumerations, lookups, opens and closes of
any number of ports; each call is one step.
-/

namespace Jrxtx.Release

open Jrxtx.Heap Jrxtx.Transition Jrxtx.CommPortIdentifier.Open

/-- The registry, the ports returned by `open()` and not closed yet, each with
the identifier it was opened through, the events sent to listeners and the
identifiers on which `notifyAll()` was called.  No call reads the last three. -/
structure World where
  registry : Registry
  freshPort : PortRef
  opened : List (PortRef × IdentRef)
  sent : List (ListenerRef × OwnershipEvent)
  notified : List IdentRef

/-- A call of a client, with the outcomes that its environment chooses. -/
inductive Call where
  | getPortIdentifiers (detection : Detection)
  | getPortIdentifier (s : String) (detection : Detection)
  | addPortOwnershipListener (ident : IdentRef) (c : ListenerRef)
  | removePortOwnershipListener (ident : IdentRef) (c : ListenerRef)
  /-- `open()` of an identifier that somebody owns, up to its waiting -/
  | request (ident : IdentRef) (throwsAt : Option Nat)
  /-- `open()` from the block that finds the identifier available -/
  | openPort (ident : IdentRef) (theOwner : String) (outcome : DriverOutcome)
      (throwsAt : Option Nat)
  | close (port : PortRef) (throwsAt : Option Nat)

namespace World

/-- Change one identifier. -/
def modify (self : World) (ident : IdentRef)
    (change : CommPortIdentifier → CommPortIdentifier) : World :=
  { self with registry := self.registry.modify ident change }

/-- Move the registry on. -/
def withRegistry (self : World) (registry : Registry) : World :=
  { self with registry := registry }

/-- `internalClosePort()` -/
def internalClosePort (self : World) (ident : IdentRef) (throwsAt : Option Nat) : World :=
  let released := (self.registry.heap ident).releasePort
  { self.modify ident fun _ => released with
    notified := self.notified ++ [ident]
    sent := self.sent ++ (released.fireOwnershipEvent .portUnowned throwsAt).1 }

/-- `CommPort.close()`; `none` if a lookup does not return. -/
def close (self : World) (port : PortRef) (throwsAt : Option Nat) : Option World :=
  let closed := { self with opened := self.opened.filter (·.1 ≠ port) }
  match self.registry.getPortIdentifierOf port with
  | none => none
  | some none => some closed
  | some (some _) =>
      match self.registry.getPortIdentifierOf port with
      | none => none
      | some none => some closed
      | some (some ident) => some (closed.internalClosePort ident throwsAt)

/-- `open()` of an available identifier. -/
def openAvailable (self : World) (ident : IdentRef) (theOwner : String)
    (outcome : DriverOutcome) (throwsAt : Option Nat) : World :=
  let owned := (self.registry.heap ident).assumeOwnership theOwner
  let opening := owned.openOwned outcome self.freshPort throwsAt
  { self.modify ident fun _ => opening.ident with
    freshPort := self.freshPort + 1
    opened :=
      match opening.result with
      | .returned port => (port, ident) :: self.opened
      | _ => self.opened
    sent := self.sent ++ opening.sent }

/-- One call; `none` if it does not return or is not the next thing to happen. -/
def step (self : World) : Call → Option World
  | .getPortIdentifiers detection =>
      (self.registry.getPortIdentifiers detection).map self.withRegistry
  | .getPortIdentifier s detection =>
      (self.registry.getPortIdentifier s detection).map fun found => self.withRegistry found.1
  | .addPortOwnershipListener ident c =>
      some (self.modify ident (·.addPortOwnershipListener c))
  | .removePortOwnershipListener ident c =>
      some (self.modify ident (·.removePortOwnershipListener c))
  | .request ident throwsAt =>
      if (self.registry.heap ident).available then none
      else
        let events := (self.registry.heap ident).fireOwnershipEvent .portOwnershipRequested throwsAt
        some { self with sent := self.sent ++ events.1 }
  | .openPort ident theOwner outcome throwsAt =>
      if (self.registry.heap ident).available then
        some (self.openAvailable ident theOwner outcome throwsAt)
      else none
  | .close port throwsAt => self.close port throwsAt

end World

/-- The class has been initialised: the static initialiser's driver has
registered some ports, and no port is open. -/
structure Initial (world : World) : Prop where
  registered : ∃ driver registrations,
    Registry.initial.register driver registrations = some world.registry
  opened : world.opened = []

theorem initial_of_register {driver : DriverRef} {registrations : List (String × Int)}
    {registry : Registry}
    (registered : Registry.initial.register driver registrations = some registry) :
    Initial ⟨registry, 0, [], [], []⟩ :=
  ⟨⟨driver, registrations, registered⟩, rfl⟩

/-- The runs of clients. -/
def clients : System World Call where
  start := Initial
  step := World.step

/-- The identifier is listed, as the last one of its name. -/
def Found (registry : Registry) (ident : IdentRef) : Prop :=
  ∀ oldPorts, registry.oldPorts = some oldPorts →
    oldPorts (registry.heap ident).portName = some ident

/-- The driver detects a set of ports.  If a port is open, the driver's run ends
normally and detects it again, and the enumeration will find its identifier. -/
structure Redetects (world : World) (detection : Detection) : Prop where
  distinct : detection.registrations.Nodup
  returns : world.opened ≠ [] → detection.throws = false
  detected : ∀ port ident, (port, ident) ∈ world.opened →
    world.registry.registration ident ∈ detection.registrations
  found : ∀ port ident, (port, ident) ∈ world.opened → Found world.registry ident

/-- The identifier is in the list. -/
def Listed (registry : Registry) (ident : IdentRef) : Prop :=
  ∃ nodes, registry.Lists nodes ∧ ident ∈ nodes

/-- The condition on one call. -/
def KeepsOpenPorts (world : World) : Call → Prop
  | .getPortIdentifiers detection => Redetects world detection
  | .getPortIdentifier s detection =>
      world.registry.findName s = some none → Redetects world detection
  | .openPort ident _ _ _ => Listed world.registry ident
  | _ => True

/-! ## The invariant -/

/-- What ties the open ports to the list `nodes`. -/
structure Consistent (world : World) (nodes : List IdentRef) : Prop where
  lists : world.registry.Lists nodes
  listed : ∀ port ident, (port, ident) ∈ world.opened → ident ∈ nodes
  commport : ∀ port ident, (port, ident) ∈ world.opened →
    (world.registry.heap ident).commport = some port
  unique : ∀ left ∈ nodes, ∀ right ∈ nodes, ∀ port,
    (world.registry.heap left).commport = some port →
      (world.registry.heap right).commport = some port → left = right
  known : ∀ ident ∈ nodes, ∀ port,
    (world.registry.heap ident).commport = some port → port < world.freshPort
  unset : ∀ ident ∈ nodes, (world.registry.heap ident).available = true →
    (world.registry.heap ident).commport = none

theorem consistent_initial {world : World} (initial : Initial world) :
    ∃ nodes, Consistent world nodes := by
  obtain ⟨driver, registrations, registered⟩ := initial.registered
  obtain ⟨after, registered', lists, -, -, fresh, -, -⟩ :=
    Registry.register_spec Registry.initial_lists driver registrations
  obtain rfl := Option.some.inj (registered'.symm.trans registered)
  have unset : ∀ ident ∈ [] ++ List.range' Registry.initial.allocated registrations.length,
      (world.registry.heap ident).commport = none := by
    intro ident member
    exact (fresh ident (by simpa using member)).commport
  refine ⟨_, lists, ?_, ?_, ?_, ?_, fun ident member _ => unset ident member⟩
  · simp [initial.opened]
  · simp [initial.opened]
  · intro left leftMember right _ port leftPort
    simp [unset left leftMember] at leftPort
  · intro ident member port isPort
    simp [unset ident member] at isPort

section Steps

variable {world : World} {nodes : List IdentRef}

/-- The search of `close()` finds the identifier of an open port. -/
theorem Consistent.getPortIdentifierOf (consistent : Consistent world nodes) {port : PortRef}
    {ident : IdentRef} (opened : (port, ident) ∈ world.opened) :
    world.registry.getPortIdentifierOf port = some (some ident) := by
  rw [consistent.lists.getPortIdentifierOf_eq]
  have member := consistent.listed port ident opened
  have holds := consistent.commport port ident opened
  cases found : nodes.find? fun ref => (world.registry.heap ref).commport == some port with
  | none =>
      have missed := List.find?_eq_none.mp found ident member
      simp [holds] at missed
  | some other =>
      have otherHolds : (world.registry.heap other).commport = some port := by
        simpa using List.find?_some found
      have otherMember := List.mem_of_find?_eq_some found
      rw [consistent.unique other otherMember ident member port otherHolds holds]

/-- A call that writes to one identifier keeps the invariant if the port it
leaves there, if any, is the old or a new one, and if the ports it leaves open
are where they were opened. -/
theorem Consistent.write (consistent : Consistent world nodes) {after : World}
    {ident : IdentRef} {written : CommPortIdentifier}
    (registry : after.registry = world.registry.modify ident fun _ => written)
    (next : written.next = (world.registry.heap ident).next)
    (later : world.freshPort ≤ after.freshPort)
    (commport : ∀ port, written.commport = some port →
      (world.registry.heap ident).commport = some port ∨
        port = world.freshPort ∧ port < after.freshPort)
    (unset : ident ∈ nodes → written.available = true → written.commport = none)
    (opened : ∀ port other, (port, other) ∈ after.opened →
      other = ident ∧ ident ∈ nodes ∧ written.commport = some port ∨
        other ≠ ident ∧ (port, other) ∈ world.opened) :
    Consistent after nodes := by
  have here : after.registry.heap ident = written := by
    rw [registry, Registry.heap_modify_self]
  have elsewhere : ∀ other, other ≠ ident →
      after.registry.heap other = world.registry.heap other := by
    intro other distinct
    rw [registry, Registry.heap_modify_of_ne _ _ distinct]
  -- an old port is nowhere else, and a new port is nowhere at all
  have apart : ∀ other ∈ nodes, other ≠ ident → ident ∈ nodes → ∀ port,
      written.commport = some port → (world.registry.heap other).commport ≠ some port := by
    intro other member distinct identMember port isPort otherPort
    rcases commport port isPort with old | ⟨rfl, -⟩
    · exact distinct (consistent.unique other member ident identMember port otherPort old)
    · exact absurd (consistent.known other member _ otherPort) (Nat.lt_irrefl _)
  refine ⟨?_, ?_, ?_, ?_, ?_, ?_⟩
  · rw [registry]
    exact consistent.lists.modify next
  · intro port other isOpen
    rcases opened port other isOpen with ⟨rfl, member, -⟩ | ⟨-, before⟩
    · exact member
    · exact consistent.listed port other before
  · intro port other isOpen
    rcases opened port other isOpen with ⟨rfl, -, holds⟩ | ⟨distinct, before⟩
    · rw [here, holds]
    · rw [elsewhere other distinct, consistent.commport port other before]
  · intro left leftMember right rightMember port leftPort rightPort
    by_cases leftHere : left = ident <;> by_cases rightHere : right = ident
    · rw [leftHere, rightHere]
    · subst leftHere
      rw [here] at leftPort
      rw [elsewhere right rightHere] at rightPort
      exact absurd rightPort (apart right rightMember rightHere leftMember port leftPort)
    · subst rightHere
      rw [here] at rightPort
      rw [elsewhere left leftHere] at leftPort
      exact absurd leftPort (apart left leftMember leftHere rightMember port rightPort)
    · rw [elsewhere left leftHere] at leftPort
      rw [elsewhere right rightHere] at rightPort
      exact consistent.unique left leftMember right rightMember port leftPort rightPort
  · intro other member port isPort
    rcases eq_or_ne other ident with rfl | distinct
    · rw [here] at isPort
      rcases commport port isPort with old | ⟨-, new⟩
      · exact Nat.lt_of_lt_of_le (consistent.known other member port old) later
      · exact new
    · rw [elsewhere other distinct] at isPort
      exact Nat.lt_of_lt_of_le (consistent.known other member port isPort) later
  · intro other member free
    rcases eq_or_ne other ident with rfl | distinct
    · rw [here] at free ⊢
      exact unset member free
    · rw [elsewhere other distinct] at free ⊢
      exact consistent.unset other member free

/-- A change of the listeners keeps the invariant. -/
theorem Consistent.listeners (consistent : Consistent world nodes) (ident : IdentRef)
    {change : CommPortIdentifier → CommPortIdentifier}
    (next : ∀ before, (change before).next = before.next)
    (available : ∀ before, (change before).available = before.available)
    (commport : ∀ before, (change before).commport = before.commport) :
    Consistent (world.modify ident change) nodes := by
  have written : (world.modify ident change).registry =
      world.registry.modify ident fun _ => change (world.registry.heap ident) := rfl
  refine consistent.write written (next _) (Nat.le_refl _) ?_ ?_ ?_
  · intro port isPort
    exact .inl (commport _ ▸ isPort)
  · intro member free
    rw [commport]
    exact consistent.unset ident member (available _ ▸ free)
  · intro port other opened
    rcases eq_or_ne other ident with rfl | distinct
    · have member := consistent.listed port other opened
      exact .inl ⟨rfl, member, (commport _).trans (consistent.commport port other opened)⟩
    · exact .inr ⟨distinct, opened⟩

/-- An enumeration that detects the open ports again keeps their identifiers. -/
theorem Consistent.getPortIdentifiers (consistent : Consistent world nodes)
    {detection : Detection} (redetects : Redetects world detection) :
    ∃ after listed, world.registry.getPortIdentifiers detection = some after ∧
      Consistent (world.withRegistry after) listed := by
  obtain ⟨after, enumerated, lists, -, same, -, represents, -, fresh⟩ :=
    Registry.getPortIdentifiers_spec consistent.lists detection
      fun _ => Registry.matchesOf_repeatsContinue redetects.distinct
  have sameOld : ∀ ident ∈ nodes,
      Registry.SameButDriver (world.registry.heap ident) (after.heap ident) :=
    fun ident member => same ident (consistent.lists.created ident member)
  -- only the old identifiers in the list have ports
  have portOld : ∀ ident ∈ world.registry.listedAfter nodes detection, ∀ port,
      (after.heap ident).commport = some port →
        ident ∈ nodes ∧ (world.registry.heap ident).commport = some port := by
    intro ident member port isPort
    rcases Registry.mem_listedAfter consistent.lists redetects.distinct member with old | new
    · exact ⟨old, (sameOld ident old).commport ▸ isPort⟩
    · rw [(fresh ident member new).commport] at isPort
      simp at isPort
  refine ⟨after, _, enumerated, lists, ?_, ?_, ?_, ?_, ?_⟩
  · intro port ident opened
    have returns := redetects.returns (List.ne_nil_of_mem opened)
    rw [Registry.listedAfter_of_distinct consistent.lists redetects.distinct returns]
    apply Registry.mem_represented_of_match (redetects.detected port ident opened)
    apply Registry.matchingOldPort_registration
    exact redetects.found port ident opened _ (Registry.oldPorts_eq consistent.lists)
  · intro port ident opened
    have old := consistent.listed port ident opened
    exact (sameOld ident old).commport.trans (consistent.commport port ident opened)
  · intro left leftMember right rightMember port leftPort rightPort
    obtain ⟨leftOld, leftHad⟩ := portOld left leftMember port leftPort
    obtain ⟨rightOld, rightHad⟩ := portOld right rightMember port rightPort
    exact consistent.unique left leftOld right rightOld port leftHad rightHad
  · intro ident member port isPort
    obtain ⟨old, had⟩ := portOld ident member port isPort
    exact consistent.known ident old port had
  · intro ident member free
    rcases Registry.mem_listedAfter consistent.lists redetects.distinct member with old | new
    · have freeBefore := (sameOld ident old).available ▸ free
      exact (sameOld ident old).commport.trans (consistent.unset ident old freeBefore)
    · exact (fresh ident member new).commport

theorem Consistent.getPortIdentifier (consistent : Consistent world nodes) {s : String}
    {detection : Detection}
    (redetects : world.registry.findName s = some none → Redetects world detection) :
    ∃ after found listed, world.registry.getPortIdentifier s detection = some (after, found) ∧
      Consistent (world.withRegistry after) listed := by
  cases found : nodes.find? fun ref => (world.registry.heap ref).portName == s with
  | some index =>
      refine ⟨world.registry, some index, nodes, ?_, consistent⟩
      simp only [Registry.getPortIdentifier, consistent.lists.findName_eq s, found]
  | none =>
      have missing : world.registry.findName s = some none := by
        rw [consistent.lists.findName_eq s, found]
      obtain ⟨after, listed, enumerated, afterConsistent⟩ :=
        consistent.getPortIdentifiers (redetects missing)
      refine ⟨after, listed.find? fun ref => (after.heap ref).portName == s, listed, ?_,
        afterConsistent⟩
      simp only [Registry.getPortIdentifier, missing, enumerated]
      have searched : after.findName s =
          some (listed.find? fun ref => (after.heap ref).portName == s) :=
        afterConsistent.lists.findName_eq s
      rw [searched]

/-- Opening an available identifier that is listed keeps the invariant. -/
theorem Consistent.openAvailable (consistent : Consistent world nodes) {ident : IdentRef}
    (member : ident ∈ nodes) (free : (world.registry.heap ident).available = true)
    (theOwner : String) (outcome : DriverOutcome) (throwsAt : Option Nat) :
    Consistent (world.openAvailable ident theOwner outcome throwsAt) nodes := by
  have unset := consistent.unset ident member free
  have unsetOwned : ((world.registry.heap ident).assumeOwnership theOwner).commport = none := by
    rw [CommPortIdentifier.assumeOwnership_commport, unset]
  have written := CommPortIdentifier.openOwned_ident unsetOwned outcome world.freshPort throwsAt
  refine consistent.write rfl ?_ (Nat.le_succ _) ?_ ?_ ?_
  · rw [written]
    split <;> rfl
  · intro port isPort
    rw [written] at isPort
    split at isPort
    · have same : world.freshPort = port := by simpa using isPort
      exact .inr ⟨same.symm, same ▸ Nat.lt_succ_self _⟩
    · simp [unset] at isPort
  · intro _ available
    rw [written] at available ⊢
    split at available
    next => simp at available
    next failed => simp [failed, unset]
  · intro port other isOpen
    have elsewhere : (port, other) ∈ world.opened →
        other ≠ ident ∧ (port, other) ∈ world.opened := by
      intro before
      refine ⟨?_, before⟩
      rintro rfl
      have holds := consistent.commport port other before
      rw [unset] at holds
      simp at holds
    simp only [World.openAvailable] at isOpen
    split at isOpen
    next returnedPort returned =>
      obtain ⟨rfl, rfl⟩ := CommPortIdentifier.openOwned_returned unsetOwned returned
      rcases List.mem_cons.mp isOpen with new | before
      · obtain ⟨rfl, rfl⟩ := Prod.mk.injEq .. ▸ new
        refine .inl ⟨rfl, member, ?_⟩
        rw [written]
        rfl
      · exact .inr (elsewhere before)
    next => exact .inr (elsewhere isOpen)

/-- The search of `close()` ends, and what it finds is listed and has the port. -/
theorem Consistent.search (consistent : Consistent world nodes) (port : PortRef) :
    ∃ found, world.registry.getPortIdentifierOf port = some found ∧
      ∀ ident, found = some ident →
        ident ∈ nodes ∧ (world.registry.heap ident).commport = some port := by
  refine ⟨_, consistent.lists.getPortIdentifierOf_eq port, ?_⟩
  intro ident found
  refine ⟨List.mem_of_find?_eq_some found, ?_⟩
  simpa using List.find?_some found

/-- A port that is closed is not open any more, and nothing else changes. -/
theorem Consistent.forget (consistent : Consistent world nodes) (port : PortRef) :
    Consistent { world with opened := world.opened.filter (·.1 ≠ port) } nodes := by
  refine ⟨consistent.lists, ?_, ?_, consistent.unique, consistent.known, consistent.unset⟩
  · intro other ident opened
    exact consistent.listed other ident (List.mem_of_mem_filter opened)
  · intro other ident opened
    exact consistent.commport other ident (List.mem_of_mem_filter opened)

theorem Consistent.internalClosePort (consistent : Consistent world nodes) {port : PortRef}
    {ident : IdentRef} (holds : (world.registry.heap ident).commport = some port)
    (forgotten : ∀ other, (port, other) ∉ world.opened) (throwsAt : Option Nat) :
    Consistent (world.internalClosePort ident throwsAt) nodes := by
  refine consistent.write rfl rfl (Nat.le_refl _) ?_ (fun _ _ => rfl) ?_
  · intro other isPort
    simp at isPort
  · intro other otherIdent opened
    refine .inr ⟨?_, opened⟩
    rintro rfl
    have same := (consistent.commport other otherIdent opened).symm.trans holds
    obtain rfl := Option.some.inj same
    exact forgotten otherIdent opened

/-- `close()` returns and keeps the invariant. -/
theorem Consistent.close (consistent : Consistent world nodes) (port : PortRef)
    (throwsAt : Option Nat) :
    ∃ after, world.close port throwsAt = some after ∧ Consistent after nodes := by
  obtain ⟨found, searched, holds⟩ := consistent.search port
  have forgotten := consistent.forget port
  cases found with
  | none => exact ⟨_, by simp only [World.close, searched], forgotten⟩
  | some ident =>
      have still := forgotten.internalClosePort (holds ident rfl).2 (by simp) throwsAt
      exact ⟨_, by simp only [World.close, searched], still⟩

/-- The effect of `close()` on an open port. -/
theorem Consistent.close_opened (consistent : Consistent world nodes) {port : PortRef}
    {ident : IdentRef} (opened : (port, ident) ∈ world.opened) (throwsAt : Option Nat) :
    world.close port throwsAt = some (({ world with
      opened := world.opened.filter (·.1 ≠ port) } : World).internalClosePort ident throwsAt) := by
  simp only [World.close, consistent.getPortIdentifierOf opened]

theorem Consistent.step (consistent : Consistent world nodes) {call : Call} {after : World}
    (kept : KeepsOpenPorts world call) (stepped : world.step call = some after) :
    ∃ listed, Consistent after listed := by
  cases call with
  | getPortIdentifiers detection =>
      obtain ⟨registry, listed, enumerated, still⟩ := consistent.getPortIdentifiers kept
      simp only [World.step, enumerated, Option.map_some, Option.some.injEq] at stepped
      exact ⟨listed, stepped ▸ still⟩
  | getPortIdentifier s detection =>
      obtain ⟨registry, found, listed, searched, still⟩ := consistent.getPortIdentifier kept
      simp only [World.step, searched, Option.map_some, Option.some.injEq] at stepped
      exact ⟨listed, stepped ▸ still⟩
  | addPortOwnershipListener ident c =>
      obtain rfl := Option.some.inj stepped
      exact ⟨nodes, consistent.listeners ident (fun _ => rfl) (fun _ => rfl) fun _ => rfl⟩
  | removePortOwnershipListener ident c =>
      obtain rfl := Option.some.inj stepped
      exact ⟨nodes, consistent.listeners ident (fun _ => rfl) (fun _ => rfl) fun _ => rfl⟩
  | request ident throwsAt =>
      simp only [World.step] at stepped
      split at stepped
      next => simp at stepped
      next =>
        obtain rfl := Option.some.inj stepped
        exact ⟨nodes, consistent.lists, consistent.listed, consistent.commport,
          consistent.unique, consistent.known, consistent.unset⟩
  | openPort ident theOwner outcome throwsAt =>
      simp only [World.step] at stepped
      split at stepped
      next free =>
        obtain rfl := Option.some.inj stepped
        obtain ⟨others, otherLists, member⟩ := kept
        rw [otherLists.chain.unique consistent.lists.chain] at member
        exact ⟨nodes, consistent.openAvailable member free theOwner outcome throwsAt⟩
      next => simp at stepped
  | close port throwsAt =>
      obtain ⟨closed, eq, still⟩ := consistent.close port throwsAt
      obtain rfl := Option.some.inj (eq.symm.trans stepped)
      exact ⟨nodes, still⟩

end Steps

theorem consistent_of_reachedBy {world : World}
    (reached : clients.ReachedBy KeepsOpenPorts world) : ∃ nodes, Consistent world nodes := by
  apply reached.invariant
  · intro initial started
    exact consistent_initial started
  · rintro before call after ⟨nodes, consistent⟩ kept stepped
    exact consistent.step kept stepped

/-- Closing a port releases the identifier it was opened through, in every run
in which ports are opened through listed identifiers and enumerations detect the
open ports again: `close()` returns, the identifier is available without owner,
`notifyAll()` has been called on it and its listeners have been sent
`PORT_UNOWNED`, up to one that throws. -/
theorem close_releases {world : World} (reached : clients.ReachedBy KeepsOpenPorts world)
    {port : PortRef} {ident : IdentRef} (opened : (port, ident) ∈ world.opened)
    (throwsAt : Option Nat) :
    ∃ after, clients.step world (.close port throwsAt) = some after ∧
      (after.registry.heap ident).available = true ∧
      (after.registry.heap ident).owner = none ∧
      (after.registry.heap ident).commport = none ∧
      after.notified = world.notified ++ [ident] ∧
      after.sent = world.sent ++
        ((world.registry.heap ident).fireOwnershipEvent .portUnowned throwsAt).1 ∧
      (throwsAt = none → ∀ c ∈ (world.registry.heap ident).listeners,
        (c, OwnershipEvent.portUnowned) ∈ after.sent) := by
  obtain ⟨nodes, consistent⟩ := consistent_of_reachedBy reached
  refine ⟨_, consistent.close_opened opened throwsAt, ?_, ?_, ?_, rfl, rfl, ?_⟩
  · simp [World.internalClosePort, World.modify]
  · simp [World.internalClosePort, World.modify]
  · simp [World.internalClosePort, World.modify]
  · rintro rfl c listens
    apply List.mem_append_right
    exact List.mem_map.mpr ⟨c, listens, rfl⟩

/-- While one port is open, the lookup of another one enumerates both; then the
first one is closed, and its listener hears of it. -/
theorem close_releases_redetected :
    ∃ world : World, (0, 0) ∈ world.opened ∧
      ∃ after, clients.step world (.close 0 none) = some after ∧
        (after.registry.heap 0).available = true ∧ (3, .portUnowned) ∈ after.sent := by
  have started : clients.ReachedBy KeepsOpenPorts _ :=
    .start (initial_of_register (rfl : Registry.initial.register 0 [("/dev/ttyS0", 1)] = some _))
  have listening := started.extend (.addPortOwnershipListener 0 3) trivial rfl
  have opened := listening.extend (.openPort 0 "a" .opened none)
    ⟨[0], ⟨⟨rfl, rfl⟩, by decide⟩, by decide⟩ rfl
  have looked := opened.extend
    (.getPortIdentifier "/dev/ttyS1" ⟨1, [("/dev/ttyS1", 1), ("/dev/ttyS0", 1)], false⟩) ?_ rfl
  · obtain ⟨after, closed, available, -, -, -, -, heard⟩ :=
      close_releases looked (List.mem_singleton_self (0, 0)) none
    exact ⟨_, List.mem_singleton_self _, after, closed, available, heard rfl 3 (by decide)⟩
  · intro _
    have onlyOpen : ∀ port ident, (port, ident) ∈ [((0 : PortRef), (0 : IdentRef))] →
        ident = 0 := by simp
    refine ⟨by decide, fun _ => rfl, ?_, ?_⟩
    · intro port ident isOpen
      rw [onlyOpen port ident isOpen]
      decide
    · intro port ident isOpen oldPorts filled
      rw [onlyOpen port ident isOpen]
      obtain rfl := Option.some.inj filled
      rfl

/-- The driver does not detect the open port while another one is looked up, as
when the property `gnu.io.rxtx.SerialPorts` has been changed to the other one.
Then `close()` finds nothing: the identifier stays owned, and nobody is told. -/
theorem close_can_miss :
    ∃ world : World, clients.Reachable world ∧ (0, 0) ∈ world.opened ∧
      (3 ∈ (world.registry.heap 0).listeners) ∧
      ∃ after, clients.step world (.close 0 none) = some after ∧
        (after.registry.heap 0).available = false ∧
        (after.registry.heap 0).owner = some "a" ∧
        after.notified = [] ∧ (3, .portUnowned) ∉ after.sent := by
  refine ⟨_, System.reachable_of_run
    [.addPortOwnershipListener 0 3, .openPort 0 "a" .opened none,
      .getPortIdentifier "/dev/ttyS1" ⟨1, [("/dev/ttyS1", 1)], false⟩]
    (initial_of_register (rfl : Registry.initial.register 0 [("/dev/ttyS0", 1)] = some _)) rfl,
    List.mem_singleton_self _, by decide, _, rfl, rfl, rfl, rfl, by decide⟩

end Jrxtx.Release
