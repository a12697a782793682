import Jrxtx.CommPortIdentifier.Registry

/-!
# Looking up a port leaves ownership alone

`getPortIdentifier` may enumerate the ports again.  Whatever the driver detects,
and whatever state the registry is in, every identifier is owned afterwards as it
was before, or it is a new one.
-/

namespace Jrxtx

namespace CommPortIdentifier

/-- Owned by the same owner, with the same port. -/
structure SameOwner (before after : CommPortIdentifier) : Prop where
  available : after.available = before.available
  owner : after.owner = before.owner
  commport : after.commport = before.commport

/-- As the constructor leaves an identifier. -/
structure Unowned (ident : CommPortIdentifier) : Prop where
  available : ident.available = true
  owner : ident.owner = none
  commport : ident.commport = none

theorem unowned_new (pn : String) (pt : Int) (driver : DriverRef) :
    Unowned (.new pn none pt driver) :=
  ⟨rfl, rfl, rfl⟩

theorem SameOwner.unowned {before after : CommPortIdentifier} (same : SameOwner before after)
    (unowned : Unowned before) : Unowned after where
  available := same.available.trans unowned.available
  owner := same.owner.trans unowned.owner
  commport := same.commport.trans unowned.commport

theorem SameOwner.trans {first second third : CommPortIdentifier} (one : SameOwner first second)
    (two : SameOwner second third) : SameOwner first third where
  available := two.available.trans one.available
  owner := two.owner.trans one.owner
  commport := two.commport.trans one.commport

end CommPortIdentifier

namespace Registry

open CommPortIdentifier

/-- Every identifier is owned as before or is new. -/
def OwnedAsBefore (before after : Registry) : Prop :=
  ∀ ref, SameOwner (before.heap ref) (after.heap ref) ∨ Unowned (after.heap ref)

theorem OwnedAsBefore.refl (registry : Registry) : OwnedAsBefore registry registry := by
  intro ref
  exact .inl ⟨rfl, rfl, rfl⟩

theorem OwnedAsBefore.trans {first second third : Registry} (one : OwnedAsBefore first second)
    (two : OwnedAsBefore second third) : OwnedAsBefore first third := by
  intro ref
  rcases two ref with same | new
  · rcases one ref with sameBefore | newBefore
    · exact .inl (sameBefore.trans same)
    · exact .inr (same.unowned newBefore)
  · exact .inr new

section Operations

variable {registry after : Registry}

theorem OwnedAsBefore.modify (ref : IdentRef)
    {change : CommPortIdentifier → CommPortIdentifier}
    (same : ∀ ident, SameOwner ident (change ident)) :
    OwnedAsBefore registry (registry.modify ref change) := by
  intro other
  left
  by_cases equal : other = ref
  · simpa [Registry.modify, equal] using same (registry.heap ref)
  · simpa [Registry.modify, equal] using ⟨rfl, rfl, rfl⟩

theorem OwnedAsBefore.disown (ref : IdentRef)
    {change : CommPortIdentifier → CommPortIdentifier}
    (unowned : Unowned (change (registry.heap ref))) :
    OwnedAsBefore registry (registry.modify ref change) := by
  intro other
  by_cases equal : other = ref
  · right
    simpa [Registry.modify, equal] using unowned
  · left
    simpa [Registry.modify, equal] using ⟨rfl, rfl, rfl⟩

theorem OwnedAsBefore.setNext (ref : IdentRef) (link : Option IdentRef) :
    OwnedAsBefore registry (registry.setNext ref link) :=
  .modify ref fun _ => ⟨rfl, rfl, rfl⟩

theorem OwnedAsBefore.setDriver (ref : IdentRef) (driver : DriverRef) :
    OwnedAsBefore registry (registry.setDriver ref driver) :=
  .modify ref fun _ => ⟨rfl, rfl, rfl⟩

theorem OwnedAsBefore.alloc {ident : CommPortIdentifier} (unowned : Unowned ident) :
    OwnedAsBefore registry (registry.alloc ident) := by
  intro other
  by_cases equal : other = registry.allocated
  · right
    simpa [Registry.alloc, equal] using unowned
  · left
    simpa [Registry.alloc, equal] using ⟨rfl, rfl, rfl⟩

theorem OwnedAsBefore.addIdentifierToList {cpi : IdentRef}
    (added : registry.addIdentifierToList cpi = some after) : OwnedAsBefore registry after := by
  simp only [Registry.addIdentifierToList] at added
  split at added
  next =>
    rw [Option.some.injEq] at added
    subst added
    exact .refl registry
  next index _ =>
    split at added
    next last _ =>
      rw [Option.some.injEq] at added
      subst added
      exact .setNext last (some cpi)
    next => simp at added

theorem OwnedAsBefore.register {driver : DriverRef} {registrations : List (String × Int)}
    (registered : registry.register driver registrations = some after) :
    OwnedAsBefore registry after := by
  induction registrations generalizing registry with
  | nil =>
      simp only [Registry.register, Option.some.injEq] at registered
      exact registered ▸ .refl registry
  | cons head rest ih =>
      simp only [Registry.register] at registered
      split at registered
      next added addedPort =>
        have allocated : OwnedAsBefore registry (registry.alloc _) :=
          .alloc (unowned_new head.1 head.2 driver)
        exact (allocated.trans (.addIdentifierToList addedPort)).trans (ih registered)
      next => simp at registered

theorem OwnedAsBefore.replacePort (prevPort : Option IdentRef) (curPort old : IdentRef) :
    OwnedAsBefore registry (registry.replacePort prevPort curPort old) := by
  simp only [Registry.replacePort]
  let moved := registry.setDriver old (registry.heap curPort).rxtxDriver
  have relinked : OwnedAsBefore registry (moved.setNext old (moved.heap curPort).next) :=
    OwnedAsBefore.trans (.setDriver old _) (.setNext old _)
  split
  next => exact relinked
  next prev => exact relinked.trans (.setNext prev (some old))

theorem OwnedAsBefore.restorePorts {oldPorts : OldPorts} {fuel : Nat}
    {curPort prevPort : Option IdentRef}
    (restored : Registry.restorePorts oldPorts fuel curPort prevPort registry = some after) :
    OwnedAsBefore registry after := by
  induction fuel generalizing curPort prevPort registry with
  | zero =>
      cases curPort with
      | none =>
          simp only [Registry.restorePorts, Option.some.injEq] at restored
          exact restored ▸ .refl registry
      | some _ => simp [Registry.restorePorts] at restored
  | succ fuel ih =>
      cases curPort with
      | none =>
          simp only [Registry.restorePorts, Option.some.injEq] at restored
          exact restored ▸ .refl registry
      | some cur =>
          simp only [Registry.restorePorts] at restored
          split at restored
          next old _ => exact (OwnedAsBefore.replacePort prevPort cur old).trans (ih restored)
          next => exact ih restored

theorem OwnedAsBefore.getPortIdentifiers {detection : Detection}
    (enumerated : registry.getPortIdentifiers detection = some after) :
    OwnedAsBefore registry after := by
  simp only [Registry.getPortIdentifiers] at enumerated
  split at enumerated
  next => simp at enumerated
  next oldPorts _ =>
    split at enumerated
    next => simp at enumerated
    next detected registered =>
      have cleared : OwnedAsBefore registry { registry with commPortIndex := none } :=
        .refl registry
      have detects := cleared.trans (.register registered)
      split at enumerated
      next =>
        rw [Option.some.injEq] at enumerated
        exact enumerated ▸ detects
      next => exact detects.trans (.restorePorts enumerated)

/-- A lookup does not change who owns which port. -/
theorem OwnedAsBefore.getPortIdentifier {s : String} {detection : Detection}
    {found : Option IdentRef}
    (looked : registry.getPortIdentifier s detection = some (after, found)) :
    OwnedAsBefore registry after := by
  simp only [Registry.getPortIdentifier] at looked
  split at looked
  next => simp at looked
  next index _ =>
    simp only [Option.some.injEq, Prod.mk.injEq] at looked
    exact looked.1 ▸ .refl registry
  next =>
    split at looked
    next => simp at looked
    next enumerated detected =>
      split at looked
      next => simp at looked
      next other _ =>
        simp only [Option.some.injEq, Prod.mk.injEq] at looked
        exact looked.1 ▸ OwnedAsBefore.getPortIdentifiers detected

end Operations

end Registry

end Jrxtx
