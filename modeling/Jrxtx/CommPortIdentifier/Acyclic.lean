import Jrxtx.CommPortIdentifier.Reenumeration
import Jrxtx.Transition.System

/-!
# The registry as a finite chain

Runs of calls on the registry.  A call that does not return is not enabled.  As
long as no enumeration leaves a repeated match behind, the chain stays finite
and every walk over it ends.
-/

namespace Jrxtx.Registry

open Jrxtx.Heap Jrxtx.Transition

/-- A static call on `CommPortIdentifier`, with what the driver does during it. -/
inductive Call where
  | addPortName (s : String) (type : Int) (c : DriverRef)
  | getPortIdentifiers (detection : Detection)
  | getPortIdentifier (s : String) (detection : Detection)

/-- The registry after a call; `none` if the call does not return. -/
def perform (self : Registry) : Call → Option Registry
  | .addPortName s type c => self.addPortName s type c
  | .getPortIdentifiers detection => self.getPortIdentifiers detection
  | .getPortIdentifier s detection => (self.getPortIdentifier s detection).map Prod.fst

/-- Runs of calls from the moment the class is loaded; the static initialiser's
driver run is a sequence of `addPortName` calls. -/
def calls : System Registry Call where
  start := fun registry => registry = initial
  step := perform

/-- In the walk after the driver's run, a match that repeats the one before it
is followed by one more match. -/
def NoTrailingRepeat (self : Registry) (detection : Detection) : Prop :=
  detection.throws = false → ∀ oldPorts, self.oldPorts = some oldPorts →
    RepeatsContinue (detection.registrations.map (self.matchingOldPort oldPorts))

/-- The condition on one call. -/
def KeepsChain (self : Registry) : Call → Prop
  | .addPortName _ _ _ => True
  | .getPortIdentifiers detection => self.NoTrailingRepeat detection
  | .getPortIdentifier s detection =>
      self.findName s = some none → self.NoTrailingRepeat detection

section Walks

variable {self : Registry} {nodes : List IdentRef}

theorem Lists.findName_eq (lists : self.Lists nodes) (s : String) :
    self.findName s = some (nodes.find? fun ref => (self.heap ref).portName == s) :=
  lists.chain.scan_eq _ lists.length_le

theorem Lists.getPortIdentifierOf_eq (lists : self.Lists nodes) (p : PortRef) :
    self.getPortIdentifierOf p =
      some (nodes.find? fun ref => (self.heap ref).commport == some p) :=
  lists.chain.scan_eq _ lists.length_le

theorem enumerate_of_done {index : Option IdentRef} (done : self.hasMoreElements index = false)
    (fuel : Nat) : self.enumerate fuel index = some [] := by
  cases fuel <;> simp [enumerate, done]

theorem enumerate_of_more {index : Option IdentRef} {element : IdentRef}
    (more : self.hasMoreElements index = true) (next : self.nextElement index = some element)
    (fuel : Nat) :
    self.enumerate (fuel + 1) index =
      (self.enumerate fuel (some element)).map (element :: ·) := by
  simp only [enumerate, more, if_true, next]

/-- From an element on, an enumeration yields the rest of the list. -/
theorem enumerate_of_chain {index : IdentRef} {fuel : Nat}
    (chain : Chain self.next (self.next index) nodes) (enough : nodes.length ≤ fuel) :
    self.enumerate fuel (some index) = some nodes := by
  induction nodes generalizing index fuel with
  | nil =>
      apply enumerate_of_done
      simp [hasMoreElements, chain_nil.mp chain]
  | cons node rest ih =>
      cases fuel with
      | zero => simp at enough
      | succ fuel =>
          have more : self.hasMoreElements (some index) = true := by
            simp [hasMoreElements, chain.1]
          rw [enumerate_of_more more chain.1, ih chain.2 (Nat.le_of_succ_le_succ enough)]
          rfl

/-- An enumeration yields the whole list. -/
theorem Lists.enumerate_eq (lists : self.Lists nodes) :
    self.enumerate self.allocated none = some nodes := by
  have enough := lists.length_le
  have chain := lists.chain
  cases nodes with
  | nil =>
      apply enumerate_of_done
      simp [hasMoreElements, chain_nil.mp chain]
  | cons node rest =>
      cases bound : self.allocated with
      | zero => simp [bound] at enough
      | succ fuel =>
          have more : self.hasMoreElements none = true := by
            simp [hasMoreElements, chain.1]
          rw [enumerate_of_more more chain.1,
            enumerate_of_chain chain.2 (by simpa [bound] using enough)]
          rfl

theorem Lists.addIdentifierToList_isSome (lists : self.Lists nodes) (cpi : IdentRef) :
    (self.addIdentifierToList cpi).isSome = true := by
  rcases List.eq_nil_or_concat nodes with rfl | ⟨front, last, rfl⟩
  · simp [addIdentifierToList, chain_nil.mp lists.chain]
  · rw [List.concat_eq_append] at lists
    cases starts : self.commPortIndex with
    | none => simp [addIdentifierToList, starts]
    | some index =>
        have bound := lists.length_le
        rw [List.length_append] at bound
        have ends := (starts ▸ lists.chain).lastFrom_eq (Nat.le_of_add_right_le bound)
        simp [addIdentifierToList_of_lastFrom starts ends]

theorem Lists.noTrailingRepeat (lists : self.Lists nodes) {detection : Detection}
    (kept : self.NoTrailingRepeat detection) (returns : detection.throws = false) :
    RepeatsContinue (self.matchesOf nodes detection) :=
  kept returns _ (oldPorts_eq lists)

theorem Lists.getPortIdentifiers {detection : Detection} (lists : self.Lists nodes)
    (kept : self.NoTrailingRepeat detection) :
    ∃ after, self.getPortIdentifiers detection = some after ∧ ∃ listed, after.Lists listed := by
  obtain ⟨after, enumerated, afterLists, -⟩ :=
    getPortIdentifiers_spec lists detection (lists.noTrailingRepeat kept)
  exact ⟨after, enumerated, _, afterLists⟩

/-- A call that keeps the chain returns and leaves a finite chain. -/
theorem Lists.perform (lists : self.Lists nodes) {call : Call}
    (kept : self.KeepsChain call) :
    ∃ after, self.perform call = some after ∧ ∃ listed, after.Lists listed := by
  cases call with
  | addPortName s type c =>
      obtain ⟨after, added, afterLists, -⟩ := addPortName_spec lists s type c
      exact ⟨after, added, _, afterLists⟩
  | getPortIdentifiers detection => exact lists.getPortIdentifiers kept
  | getPortIdentifier s detection =>
      simp only [Registry.perform, getPortIdentifier, lists.findName_eq s]
      cases found : nodes.find? fun ref => (self.heap ref).portName == s with
      | some index => exact ⟨self, rfl, nodes, lists⟩
      | none =>
          have missing : self.findName s = some none := by rw [lists.findName_eq s, found]
          obtain ⟨after, enumerated, listed, afterLists⟩ :=
            lists.getPortIdentifiers (kept missing)
          refine ⟨after, ?_, listed, afterLists⟩
          simp only [enumerated, afterLists.findName_eq s, Option.map_some]

end Walks

theorem lists_of_reachedBy {registry : Registry}
    (reached : calls.ReachedBy KeepsChain registry) : ∃ nodes, registry.Lists nodes := by
  apply reached.invariant
  · rintro _ rfl
    exact ⟨[], initial_lists⟩
  · rintro self call next ⟨nodes, lists⟩ kept stepped
    obtain ⟨after, performed, afterLists⟩ := lists.perform kept
    obtain rfl := Option.some.inj (performed.symm.trans stepped)
    exact afterLists

/-- The chain stays finite in runs whose enumerations leave no repeated match
behind, and all the walks over it end: appending, the two lookups, an
enumeration by a client, and every further call that meets the condition. -/
theorem chain_stays_finite {registry : Registry}
    (reached : calls.ReachedBy KeepsChain registry) :
    (∃ nodes, registry.Lists nodes ∧
      registry.enumerate registry.allocated none = some nodes) ∧
    (∀ cpi, (registry.addIdentifierToList cpi).isSome = true) ∧
    (∀ s, (registry.findName s).isSome = true) ∧
    (∀ p, (registry.getPortIdentifierOf p).isSome = true) ∧
    (∀ call, registry.KeepsChain call → (registry.perform call).isSome = true) := by
  obtain ⟨nodes, lists⟩ := lists_of_reachedBy reached
  refine ⟨⟨nodes, lists, lists.enumerate_eq⟩, lists.addIdentifierToList_isSome, ?_, ?_, ?_⟩
  · intro s
    rw [lists.findName_eq s]
    rfl
  · intro p
    rw [lists.getPortIdentifierOf_eq p]
    rfl
  · intro call kept
    obtain ⟨after, performed, -⟩ := lists.perform kept
    rw [performed]
    rfl

/-- One of two listed ports is detected twice in a row, and then the other one:
the link of the first to itself is written over. -/
theorem chain_stays_finite_repeated :
    ∃ registry : Registry, registry.allocated = 5 ∧
      ∃ nodes, registry.Lists nodes ∧
        registry.enumerate registry.allocated none = some nodes := by
  have empty : calls.ReachedBy KeepsChain initial := .start rfl
  have first := empty.extend (.addPortName "/dev/ttyS0" 1 0) trivial rfl
  have second := first.extend (.addPortName "/dev/ttyS1" 1 0) trivial rfl
  have third := second.extend
    (.getPortIdentifiers ⟨1, [("/dev/ttyS0", 1), ("/dev/ttyS0", 1), ("/dev/ttyS1", 1)], false⟩)
    ?_ rfl
  · exact ⟨_, rfl, (chain_stays_finite third).1⟩
  · intro _ oldPorts filled
    obtain rfl := Option.some.inj filled
    change RepeatsContinue [some 0, some 0, some 1]
    exact ⟨fun _ => ⟨1, rfl⟩, fun same => absurd same (by decide), trivial⟩

/-- On an identifier that links to itself an enumeration never ends. -/
theorem enumerate_self_loop {self : Registry} {index : IdentRef}
    (loop : self.next index = some index) (fuel : Nat) :
    self.enumerate fuel (some index) = none := by
  have more : self.hasMoreElements (some index) = true := by
    simp [hasMoreElements, loop]
  induction fuel with
  | zero => simp [enumerate, more]
  | succ fuel ih =>
      rw [enumerate_of_more more loop, ih]
      rfl

/-- The driver registers a listed port twice, as it does when the property
`gnu.io.rxtx.SerialPorts` names the port twice. -/
theorem self_loop_reachable :
    ∃ registry : Registry, calls.Reachable registry ∧ registry.commPortIndex = some 1 ∧
      registry.next 1 = some 1 ∧ (registry.heap 1).portName = "/dev/ttyS0" := by
  refine ⟨_, System.reachable_of_run
    [.addPortName "/dev/ttyS0" 1 0, .addPortName "/dev/ttyS0" 1 0,
      .getPortIdentifiers ⟨1, [("/dev/ttyS0", 1), ("/dev/ttyS0", 1)], false⟩] rfl rfl,
    rfl, rfl, rfl⟩

/-- The chain can become cyclic.  Then neither the lookup of another name nor an
enumeration ends, however long it runs. -/
theorem chain_can_become_cyclic :
    ∃ registry : Registry, calls.Reachable registry ∧ (¬∃ nodes, registry.Lists nodes) ∧
      (∀ fuel, scan registry.next (fun ref => (registry.heap ref).portName == "/dev/ttyS1") fuel
        registry.commPortIndex = none) ∧
      (∀ fuel, registry.enumerate (fuel + 1) none = none) := by
  obtain ⟨registry, reachable, starts, loop, named⟩ := self_loop_reachable
  refine ⟨registry, reachable, ?_, ?_, ?_⟩
  · rintro ⟨nodes, lists⟩
    exact not_chain_of_self_loop loop nodes (starts ▸ lists.chain)
  · intro fuel
    rw [starts]
    exact scan_self_loop loop (by rw [named]; decide) fuel
  · intro fuel
    have more : registry.hasMoreElements none = true := by
      simp [hasMoreElements, starts]
    rw [enumerate_of_more more starts, enumerate_self_loop loop]
    rfl

end Jrxtx.Registry
