import Jrxtx.CommPortIdentifier.Release

/-!
# Enumerations that fail

`getPortIdentifiers` empties the list before it loads the driver and merges the
old identifiers back only after the driver's run.  If the run ends with an
exception, wherever that happens, no old identifier is in the list any more.
-/

namespace Jrxtx.Registry

open Jrxtx.Release

/-- The identifiers in `olds` are still listed, and `close()` finds an identifier
for each of their ports. -/
structure KeepsPorts (before : Registry) (olds : List IdentRef) (after : Registry) : Prop where
  listed : ∀ old ∈ olds, Listed after old
  found : ∀ old ∈ olds, ∀ port, (before.heap old).commport = some port →
    ∃ ref, after.getPortIdentifierOf port = some (some ref)

section Failure

variable {self after : Registry} {olds : List IdentRef} {detection : Detection}

theorem keepsPorts_nil : KeepsPorts self [] after where
  listed := by simp
  found := by simp

/-- A failed enumeration leaves only the identifiers that the driver's run has
created, none of which has a port. -/
theorem failed_getPortIdentifiers_spec (lists : self.Lists olds)
    (fails : detection.throws = true) :
    ∃ after, self.getPortIdentifiers detection = some after ∧
      after.Lists (self.detectedRefs detection) ∧
      (∀ ref < self.allocated, SameButDriver (self.heap ref) (after.heap ref)) ∧
      ∀ port, after.getPortIdentifierOf port = some none := by
  obtain ⟨after, enumerated, afterLists, -, same, -, -, -, fresh⟩ :=
    getPortIdentifiers_spec lists detection (by simp [fails])
  simp only [listedAfter, fails, if_true] at afterLists fresh
  refine ⟨after, enumerated, afterLists, same, ?_⟩
  intro port
  rw [afterLists.getPortIdentifierOf_eq, Option.some.injEq, List.find?_eq_none]
  intro ref member
  have new := fresh ref member (mem_detectedRefs.mp member).1
  simp [new.commport]

/-- After a failed enumeration `close()` of a port leaves every identifier as it is. -/
theorem close_after_failed_getPortIdentifiers {world : World}
    (lists : world.registry.Lists olds) (fails : detection.throws = true) (port : PortRef)
    (throwsAt : Option Nat) :
    ∃ after closed, world.step (.getPortIdentifiers detection) = some after ∧
      after.step (.close port throwsAt) = some closed ∧ closed.registry = after.registry := by
  obtain ⟨after, enumerated, -, -, misses⟩ := failed_getPortIdentifiers_spec lists fails
  let closed : World :=
    { world.withRegistry after with opened := world.opened.filter (·.1 ≠ port) }
  refine ⟨world.withRegistry after, closed, ?_, ?_, rfl⟩
  · simp only [World.step, enumerated, Option.map_some]
  · simp only [World.step, World.close, World.withRegistry, misses port, closed]

/-- An enumeration whose driver fails, at whatever point, keeps the listed
identifiers exactly if there are none. -/
theorem failed_getPortIdentifiers_keepsPorts_iff (lists : self.Lists olds)
    (fails : detection.throws = true) :
    ∃ after, self.getPortIdentifiers detection = some after ∧
      (KeepsPorts self olds after ↔ olds = []) := by
  obtain ⟨after, enumerated, afterLists, -, -⟩ := failed_getPortIdentifiers_spec lists fails
  refine ⟨after, enumerated, ?_⟩
  constructor
  · intro keeps
    rw [List.eq_nil_iff_forall_not_mem]
    intro old member
    obtain ⟨nodes, nodesLists, listed⟩ := keeps.listed old member
    rw [nodesLists.chain.unique afterLists.chain] at listed
    exact absurd (lists.created old member) (Nat.not_lt.mpr (mem_detectedRefs.mp listed).1)
  · rintro rfl
    exact keepsPorts_nil

end Failure

/-- The first enumeration fails after one registration; nothing is lost. -/
theorem failed_getPortIdentifiers_keepsPorts_first :
    ∃ after, initial.getPortIdentifiers ⟨0, [("/dev/ttyS0", 1)], true⟩ = some after ∧
      KeepsPorts initial [] after := by
  obtain ⟨after, enumerated, keeps⟩ :=
    failed_getPortIdentifiers_keepsPorts_iff initial_lists
      (rfl : (⟨0, [("/dev/ttyS0", 1)], true⟩ : Detection).throws = true)
  exact ⟨after, enumerated, keeps.mpr rfl⟩

/-- A listed port is open when the driver cannot be loaded.  Its identifier is no
longer listed, and `close()` does not release it. -/
theorem failed_getPortIdentifiers_loses_port :
    ∃ (self after : Registry) (olds : List IdentRef), self.Lists olds ∧
      self.getPortIdentifiers ⟨1, [], true⟩ = some after ∧ ¬KeepsPorts self olds after ∧
      after.getPortIdentifierOf 7 = some none := by
  let self : Registry :=
    { heap := Function.update initial.heap 0
        { CommPortIdentifier.new "/dev/ttyS0" (some 7) 1 0 with
          available := false
          owner := some "client" }
      allocated := 1
      commPortIndex := some 0 }
  have lists : self.Lists [0] := ⟨⟨rfl, rfl⟩, by simp [self]⟩
  have fails : (⟨1, [], true⟩ : Detection).throws = true := rfl
  refine ⟨self, _, [0], lists, rfl, ?_, rfl⟩
  intro keeps
  obtain ⟨nodes, nodesLists, member⟩ := keeps.listed 0 (List.mem_singleton_self _)
  have empty : nodes = [] := nodesLists.chain.unique rfl
  simp [empty] at member

end Jrxtx.Registry
