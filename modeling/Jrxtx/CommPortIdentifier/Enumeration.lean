import Jrxtx.CommPortIdentifier.Registry
import Mathlib.Data.List.Basic

/-!
# Enumerating the ports

What the methods of the registry do to a finite chain: `addPortName` appends one
new identifier, the driver's registrations append one each, and the restoring
loop replaces new identifiers by old ones while both share one heap.
-/

namespace Jrxtx.Registry

open Jrxtx.Heap

/-! ## Writes to single identifiers -/

section Writes

variable (self : Registry) (ref : IdentRef)

@[simp] theorem next_setNext (link : Option IdentRef) :
    (self.setNext ref link).next = Function.update self.next ref link := by
  funext other
  rcases eq_or_ne other ref with rfl | distinct
  · simp [next, setNext, modify]
  · simp [next, setNext, modify, distinct]

@[simp] theorem next_setDriver (driver : DriverRef) :
    (self.setDriver ref driver).next = self.next := by
  funext other
  rcases eq_or_ne other ref with rfl | distinct
  · simp [next, setDriver, modify]
  · simp [next, setDriver, modify, distinct]

theorem next_alloc {ident : CommPortIdentifier} (unlinked : ident.next = none) :
    (self.alloc ident).next = Function.update self.next self.allocated none := by
  funext other
  rcases eq_or_ne other self.allocated with rfl | distinct
  · simp [next, alloc, unlinked]
  · simp [next, alloc, distinct]

@[simp] theorem heap_modify_self (change : CommPortIdentifier → CommPortIdentifier) :
    (self.modify ref change).heap ref = change (self.heap ref) := by
  simp [modify]

@[simp] theorem heap_modify_of_ne {change : CommPortIdentifier → CommPortIdentifier}
    {other : IdentRef} (distinct : other ≠ ref) :
    (self.modify ref change).heap other = self.heap other := by
  simp [modify, distinct]

theorem sameButNext_setNext (link : Option IdentRef) (other : IdentRef) :
    SameButNext (self.heap other) ((self.setNext ref link).heap other) := by
  rcases eq_or_ne other ref with rfl | distinct
  · simp [SameButNext, setNext, modify]
  · simp [SameButNext, setNext, modify, distinct]

end Writes

theorem SameButNext.refl (ident : CommPortIdentifier) : SameButNext ident ident := rfl

theorem SameButNext.trans {first second third : CommPortIdentifier}
    (left : SameButNext first second) (right : SameButNext second third) :
    SameButNext first third := by
  unfold SameButNext at *
  rw [right, left]

theorem SameButDriver.refl (ident : CommPortIdentifier) : SameButDriver ident ident := rfl

theorem SameButDriver.trans {first second third : CommPortIdentifier}
    (left : SameButDriver first second) (right : SameButDriver second third) :
    SameButDriver first third := by
  unfold SameButDriver at *
  rw [right, left]

theorem SameButDriver.available {before after : CommPortIdentifier}
    (same : SameButDriver before after) : after.available = before.available := by
  rw [same]

theorem SameButDriver.commport {before after : CommPortIdentifier}
    (same : SameButDriver before after) : after.commport = before.commport := by
  rw [same]

theorem SameButNext.sameButDriver {before after : CommPortIdentifier}
    (same : SameButNext before after) : SameButDriver before after := by
  unfold SameButNext SameButDriver at *
  rw [same]

/-! ## Appending -/

theorem Lists.length_le {self : Registry} {nodes : List IdentRef}
    (lists : self.Lists nodes) : nodes.length ≤ self.allocated :=
  length_le_of_nodup_of_lt lists.chain.nodup lists.created

theorem initial_lists : initial.Lists [] := by
  constructor
  · rfl
  · simp

theorem Lists.allocated_not_mem {self : Registry} {nodes : List IdentRef}
    (lists : self.Lists nodes) : self.allocated ∉ nodes := by
  intro member
  exact absurd (lists.created _ member) (Nat.lt_irrefl _)

/-- A new object leaves the registry's list alone. -/
theorem Lists.alloc {self : Registry} {nodes : List IdentRef} (lists : self.Lists nodes)
    {ident : CommPortIdentifier} (unlinked : ident.next = none) :
    (self.alloc ident).Lists nodes where
  chain := by
    refine lists.chain.congr fun ref member => ?_
    rw [next_alloc self unlinked, Function.update_of_ne]
    rintro rfl
    exact lists.allocated_not_mem member
  created := fun ref member => Nat.lt_succ_of_lt (lists.created ref member)

/-- A change of other fields than `next` leaves the list alone. -/
theorem Lists.modify {self : Registry} {nodes : List IdentRef} (lists : self.Lists nodes)
    {ref : IdentRef} {change : CommPortIdentifier → CommPortIdentifier}
    (kept : (change (self.heap ref)).next = (self.heap ref).next) :
    (self.modify ref change).Lists nodes where
  chain := by
    apply lists.chain.congr
    intro other _
    unfold next
    rcases eq_or_ne other ref with rfl | distinct
    · rw [heap_modify_self, kept]
    · rw [heap_modify_of_ne _ _ distinct]
  created := lists.created

theorem addIdentifierToList_of_lastFrom {self : Registry} {index last : IdentRef}
    (starts : self.commPortIndex = some index)
    (ends : lastFrom self.next self.allocated index = some last) (cpi : IdentRef) :
    self.addIdentifierToList cpi = some (self.setNext last (some cpi)) := by
  simp only [addIdentifierToList, starts, ends]

/-- `AddIdentifierToList` ends and appends an identifier that was not listed. -/
theorem addIdentifierToList_spec {self : Registry} {nodes : List IdentRef}
    (lists : self.Lists nodes) {cpi : IdentRef} (fresh : cpi ∉ nodes)
    (known : cpi < self.allocated) (unlinked : self.next cpi = none) :
    ∃ after, self.addIdentifierToList cpi = some after ∧
      after.Lists (nodes ++ [cpi]) ∧ after.allocated = self.allocated ∧
      (∀ ref, SameButNext (self.heap ref) (after.heap ref)) ∧
      (∀ ref, ref ∉ nodes → after.heap ref = self.heap ref) := by
  have created : ∀ ref ∈ nodes ++ [cpi], ref < self.allocated := by
    intro ref member
    rcases List.mem_append.mp member with old | new
    · exact lists.created ref old
    · exact List.mem_singleton.mp new ▸ known
  rcases List.eq_nil_or_concat nodes with rfl | ⟨front, last, rfl⟩
  · have empty : self.commPortIndex = none := lists.chain
    exact ⟨{ self with commPortIndex := some cpi }, by simp [addIdentifierToList, empty],
      ⟨⟨rfl, unlinked⟩, created⟩, rfl, fun ref => .refl _, fun ref _ => rfl⟩
  · rw [List.concat_eq_append] at *
    have lastNe : cpi ≠ last := by
      rintro rfl
      exact fresh (by simp)
    obtain ⟨index, starts⟩ : ∃ index, self.commPortIndex = some index := by
      rw [lists.chain.first_eq]
      cases front <;> simp
    have enough : front.length ≤ self.allocated := by
      have bound := lists.length_le
      simp at bound
      omega
    have ends := (starts ▸ lists.chain).lastFrom_eq enough
    refine ⟨self.setNext last (some cpi), addIdentifierToList_of_lastFrom starts ends cpi,
      ⟨?_, created⟩, rfl, fun ref => sameButNext_setNext _ _ _ _, ?_⟩
    · rw [List.append_assoc]
      refine lists.chain.relink (fun ref member => ?_) ?_
      · have distinct : ref ≠ last := by
          rintro rfl
          exact (List.nodup_append.mp lists.chain.nodup).2.2 ref member ref (by simp) rfl
        rw [next_setNext, Function.update_of_ne distinct]
      · simp [lastNe, unlinked]
    · intro ref absent
      have distinct : ref ≠ last := by
        rintro rfl
        exact absent (by simp)
      simp [setNext, modify, distinct]

/-- `addPortName` ends and appends one new identifier. -/
theorem addPortName_spec {self : Registry} {nodes : List IdentRef}
    (lists : self.Lists nodes) (s : String) (type : Int) (c : DriverRef) :
    ∃ after, self.addPortName s type c = some after ∧
      after.Lists (nodes ++ [self.allocated]) ∧
      after.allocated = self.allocated + 1 ∧
      after.heap self.allocated = .new s none type c ∧
      (∀ ref, ref ≠ self.allocated → SameButNext (self.heap ref) (after.heap ref)) ∧
      (∀ ref, ref ≠ self.allocated → ref ∉ nodes → after.heap ref = self.heap ref) := by
  have old : ∀ ref, ref ≠ self.allocated →
      (self.alloc (.new s none type c)).heap ref = self.heap ref := by
    intro ref distinct
    simp [alloc, distinct]
  have unlinked : (self.alloc (.new s none type c)).next self.allocated = none := by
    simp [next, alloc, CommPortIdentifier.new]
  have before : (self.alloc (.new s none type c)).Lists nodes := lists.alloc rfl
  obtain ⟨after, added, afterLists, allocated, same, untouched⟩ :=
    addIdentifierToList_spec before lists.allocated_not_mem (Nat.lt_succ_self _) unlinked
  refine ⟨after, added, afterLists, allocated, ?_, ?_, ?_⟩
  · rw [untouched _ lists.allocated_not_mem]
    simp [alloc]
  · intro ref distinct
    exact old ref distinct ▸ same ref
  · intro ref distinct absent
    rw [untouched ref absent, old ref distinct]

/-! ## The driver's registrations -/

/-- A new identifier as the driver `driver` registers it. -/
structure Fresh (driver : DriverRef) (ident : CommPortIdentifier) : Prop where
  available : ident.available = true
  owner : ident.owner = none
  commport : ident.commport = none
  ownershipListener : ident.ownershipListener = none
  rxtxDriver : ident.rxtxDriver = driver

theorem SameButNext.fresh {before after : CommPortIdentifier} {driver : DriverRef}
    (same : SameButNext before after) (fresh : Fresh driver before) :
    Fresh driver after := by
  rw [same]
  exact ⟨fresh.available, fresh.owner, fresh.commport, fresh.ownershipListener,
    fresh.rxtxDriver⟩

theorem SameButDriver.fresh {before after : CommPortIdentifier} {driver : DriverRef}
    (same : SameButDriver before after) (fresh : Fresh driver before)
    (loaded : after.rxtxDriver = driver) : Fresh driver after := by
  rw [same]
  exact ⟨fresh.available, fresh.owner, fresh.commport, fresh.ownershipListener, loaded⟩

theorem registration_eq_of_sameButNext {before after : Registry} {ref : IdentRef}
    (same : SameButNext (before.heap ref) (after.heap ref)) :
    after.registration ref = before.registration ref := by
  unfold registration
  rw [same]

theorem registration_eq_of_sameButDriver {before after : Registry} {ref : IdentRef}
    (same : SameButDriver (before.heap ref) (after.heap ref)) :
    after.registration ref = before.registration ref := by
  unfold registration
  rw [same]

/-- The driver's registrations end.  Each appends a fresh identifier, and the
identifiers that were not listed before are left alone. -/
theorem register_spec {self : Registry} {nodes : List IdentRef} (lists : self.Lists nodes)
    (driver : DriverRef) (registrations : List (String × Int)) :
    ∃ after, self.register driver registrations = some after ∧
      after.Lists (nodes ++ List.range' self.allocated registrations.length) ∧
      after.allocated = self.allocated + registrations.length ∧
      (List.range' self.allocated registrations.length).map after.registration =
        registrations ∧
      (∀ ref ∈ List.range' self.allocated registrations.length,
        Fresh driver (after.heap ref)) ∧
      (∀ ref < self.allocated, SameButNext (self.heap ref) (after.heap ref)) ∧
      (∀ ref < self.allocated, ref ∉ nodes → after.heap ref = self.heap ref) := by
  induction registrations generalizing self nodes with
  | nil =>
      exact ⟨self, rfl, by simpa using lists, rfl, rfl, by simp, fun _ _ => .refl _,
        fun _ _ _ => rfl⟩
  | cons registration rest ih =>
      obtain ⟨name, type⟩ := registration
      obtain ⟨added, addedEq, addedLists, addedCount, new, addedSame, addedUntouched⟩ :=
        addPortName_spec lists name type driver
      obtain ⟨after, registered, afterLists, count, names, fresh, same, untouched⟩ :=
        ih addedLists
      rw [addedCount] at afterLists count names fresh same untouched
      have newSame := same self.allocated (Nat.lt_succ_self _)
      have newName : after.registration self.allocated = (name, type) := by
        rw [registration_eq_of_sameButNext newSame, Registry.registration, new]
        rfl
      have newFresh : Fresh driver (after.heap self.allocated) := by
        refine newSame.fresh ?_
        rw [new]
        exact ⟨rfl, rfl, rfl, rfl, rfl⟩
      refine ⟨after, by simp only [register, addedEq, registered], ?_, ?_, ?_, ?_, ?_, ?_⟩
      · simpa [List.range'_succ] using afterLists
      · rw [count, List.length_cons]
        omega
      · rw [List.length_cons, List.range'_succ, List.map_cons, names, newName]
      · intro ref member
        rw [List.length_cons, List.range'_succ, List.mem_cons] at member
        rcases member with rfl | later
        · exact newFresh
        · exact fresh ref later
      · intro ref old
        exact (addedSame ref (Nat.ne_of_lt old)).trans (same ref (Nat.lt_succ_of_lt old))
      · intro ref old absent
        rw [untouched ref (Nat.lt_succ_of_lt old)]
        · exact addedUntouched ref (Nat.ne_of_lt old) absent
        · simp [absent, Nat.ne_of_lt old]

/-! ## The map of the old identifiers -/

/-- Filling `oldPorts` ends, and a name is mapped to the last identifier of it. -/
theorem rememberPorts_spec {self : Registry} {first : Option IdentRef}
    {nodes : List IdentRef} {fuel : Nat} (chain : Chain self.next first nodes)
    (enough : nodes.length ≤ fuel) (old : OldPorts) :
    self.rememberPorts fuel first old = some fun name =>
      (nodes.reverse.find? fun ref => (self.heap ref).portName == name).or (old name) := by
  induction nodes generalizing first fuel old with
  | nil =>
      rw [chain_nil.mp chain]
      cases fuel <;> simp [rememberPorts]
  | cons node rest ih =>
      obtain ⟨rfl, tail⟩ := chain
      cases fuel with
      | zero => simp at enough
      | succ fuel =>
          change self.rememberPorts fuel (self.next node) _ = _
          rw [ih tail (by simpa using enough)]
          congr 1
          funext name
          rw [List.reverse_cons, List.find?_append, Option.or_assoc]
          congr 1
          by_cases named : (self.heap node).portName = name
          · subst named
            simp
          · have other : name ≠ (self.heap node).portName := fun same => named same.symm
            simp [named, other]

/-- The map that the walk over a list of identifiers leaves in `oldPorts`. -/
def lastNamed (self : Registry) (nodes : List IdentRef) : OldPorts := fun name =>
  nodes.reverse.find? fun ref => (self.heap ref).portName == name

theorem oldPorts_eq {self : Registry} {nodes : List IdentRef} (lists : self.Lists nodes) :
    self.oldPorts = some (self.lastNamed nodes) := by
  rw [oldPorts, rememberPorts_spec lists.chain lists.length_le]
  congr 1
  funext name
  rw [Option.or_none]
  rfl

theorem lastNamed_eq_some {self : Registry} {nodes : List IdentRef} {name : String}
    {old : IdentRef} (found : self.lastNamed nodes name = some old) :
    old ∈ nodes ∧ (self.heap old).portName = name := by
  refine ⟨?_, ?_⟩
  · exact List.mem_reverse.mp (List.mem_of_find?_eq_some found)
  · simpa using List.find?_some found

/-- The only identifier of a name is the last one of it. -/
theorem lastNamed_of_nodup {self : Registry} {nodes : List IdentRef} {old : IdentRef}
    (names : (nodes.map fun ref => (self.heap ref).portName).Nodup) (member : old ∈ nodes) :
    self.lastNamed nodes (self.heap old).portName = some old := by
  cases found : self.lastNamed nodes (self.heap old).portName with
  | none =>
      have missed := List.find?_eq_none.mp found old (List.mem_reverse.mpr member)
      simp at missed
  | some other =>
      obtain ⟨otherMember, same⟩ := lastNamed_eq_some found
      rw [List.inj_on_of_nodup_map names otherMember member same]

end Jrxtx.Registry
