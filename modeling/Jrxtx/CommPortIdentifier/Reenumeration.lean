import Jrxtx.CommPortIdentifier.Restoration

/-!
# Re-enumeration

`getPortIdentifiers` as a whole.  The list afterwards represents the driver's
registrations in order, an identifier that was listed before being kept as the
same object, if the driver's run ends normally.  If it ends with an exception,
the new identifiers stay.
-/

namespace Jrxtx.Registry

open Jrxtx.Heap

/-- The references of the identifiers that the driver's registrations create. -/
def detectedRefs (self : Registry) (detection : Detection) : List IdentRef :=
  List.range' self.allocated detection.registrations.length

/-- What represents the registrations: the matching old identifiers, and the new
identifiers where there is none. -/
def represented (self : Registry) (oldPorts : OldPorts) (detection : Detection) :
    List IdentRef :=
  List.zipWith (fun ref new => (self.matchingOldPort oldPorts new).getD ref)
    (self.detectedRefs detection) detection.registrations

/-- The list that an enumeration leaves. -/
def listedAfter (self : Registry) (olds : List IdentRef) (detection : Detection) :
    List IdentRef :=
  if detection.throws then self.detectedRefs detection
  else (self.represented (self.lastNamed olds) detection).foldl relist []

/-- The matches that the walk after the driver's run finds, one after the other. -/
def matchesOf (self : Registry) (olds : List IdentRef) (detection : Detection) :
    List (Option IdentRef) :=
  detection.registrations.map (self.matchingOldPort (self.lastNamed olds))

/-- What the driver's run leaves behind, when the list was `olds` before. -/
structure Detected (before : Registry) (olds : List IdentRef) (detection : Detection)
    (after : Registry) : Prop where
  lists : after.Lists (before.detectedRefs detection)
  allocated : after.allocated = before.allocated + detection.registrations.length
  registrations : (before.detectedRefs detection).map after.registration =
    detection.registrations
  fresh : ∀ ref ∈ before.detectedRefs detection, Fresh detection.driver (after.heap ref)
  same : ∀ ref < before.allocated, SameButNext (before.heap ref) (after.heap ref)
  olds : ∀ ref ∈ olds, ref < before.allocated

theorem Lists.detected {self : Registry} {olds : List IdentRef} (lists : self.Lists olds)
    (detection : Detection) :
    ∃ after, ({ self with commPortIndex := none } : Registry).register detection.driver
        detection.registrations = some after ∧ self.Detected olds detection after := by
  have cleared : ({ self with commPortIndex := none } : Registry).Lists [] := ⟨rfl, by simp⟩
  obtain ⟨after, registered, afterLists, allocated, registrations, fresh, same, -⟩ :=
    register_spec cleared detection.driver detection.registrations
  rw [List.nil_append] at afterLists
  exact ⟨after, registered, afterLists, allocated, registrations, fresh, same, lists.created⟩

section Detection

variable {self detected : Registry} {olds : List IdentRef} {detection : Detection}

theorem mem_detectedRefs {ref : IdentRef} :
    ref ∈ self.detectedRefs detection ↔
      self.allocated ≤ ref ∧ ref < self.allocated + detection.registrations.length := by
  simp [detectedRefs, List.mem_range'_1]

theorem Detected.matchingOldPort_eq (run : self.Detected olds detection detected)
    (new : String × Int) :
    detected.matchingOldPort (self.lastNamed olds) new =
      self.matchingOldPort (self.lastNamed olds) new := by
  cases found : self.lastNamed olds new.1 with
  | none => simp only [matchingOldPort, found]
  | some old =>
      have known := run.olds old (lastNamed_eq_some found).1
      have sameType : (detected.heap old).portType = (self.heap old).portType := by
        rw [run.same old known]
      simp only [matchingOldPort, found, sameType]

theorem Detected.matches_eq (run : self.Detected olds detection detected) :
    (self.detectedRefs detection).map (detected.matchOf (self.lastNamed olds)) =
      self.matchesOf olds detection := by
  rw [matchesOf, ← run.registrations, List.map_map]
  exact List.map_congr_left fun ref _ => run.matchingOldPort_eq _

theorem Detected.represented_eq (run : self.Detected olds detection detected) :
    (self.detectedRefs detection).map (detected.representative (self.lastNamed olds)) =
      self.represented (self.lastNamed olds) detection := by
  rw [represented, ← run.registrations, List.zipWith_map_right, List.zipWith_self]
  apply List.map_congr_left
  intro ref _
  rw [representative, matchOf, run.matchingOldPort_eq]

/-- What represents a registration has its name and type. -/
theorem Detected.registration_representative (run : self.Detected olds detection detected)
    (ref : IdentRef) :
    detected.registration (detected.representative (self.lastNamed olds) ref) =
      detected.registration ref := by
  cases matched : detected.matchOf (self.lastNamed olds) ref with
  | none => simp only [representative, matched, Option.getD_none]
  | some old =>
      obtain ⟨found, sameType⟩ := matchingOldPort_eq_some matched
      obtain ⟨member, named⟩ := lastNamed_eq_some found
      have sameName : (detected.heap old).portName = (self.heap old).portName := by
        rw [run.same old (run.olds old member)]
      simp only [representative, matched, Option.getD_some]
      exact Prod.ext (sameName.trans named) sameType

theorem Detected.represented_registration (run : self.Detected olds detection detected) :
    (self.represented (self.lastNamed olds) detection).map detected.registration =
      detection.registrations := by
  rw [← run.represented_eq, List.map_map]
  refine (List.map_congr_left fun ref _ => ?_).trans run.registrations
  exact run.registration_representative ref

/-- The walk begins after the driver's run. -/
theorem Detected.walk (run : self.Detected olds detection detected)
    (continues : RepeatsContinue (self.matchesOf olds detection)) :
    detected.Walk (self.lastNamed olds) detection.driver none []
      (self.detectedRefs detection) where
  restoring := run.lists.restoring
  olds := by
    intro name old found
    have known := run.olds old (lastNamed_eq_some found).1
    constructor
    · intro member
      exact absurd known (Nat.not_lt.mpr (mem_detectedRefs.mp member).1)
    · rw [run.allocated]
      exact Nat.lt_add_right _ known
  drivers := fun ref member => (run.fresh ref member).rxtxDriver
  lastMatch := by simp
  linked := .inl run.lists.chain.first_eq
  continues := by
    rw [run.matches_eq]
    simpa [RepeatsContinue] using continues

end Detection

/-- What an enumeration does to a finite list whose repeated matches are all
followed by one more match. -/
theorem getPortIdentifiers_spec {self : Registry} {olds : List IdentRef}
    (lists : self.Lists olds) (detection : Detection)
    (continues : detection.throws = false → RepeatsContinue (self.matchesOf olds detection)) :
    ∃ after, self.getPortIdentifiers detection = some after ∧
      after.Lists (self.listedAfter olds detection) ∧
      after.allocated = self.allocated + detection.registrations.length ∧
      (∀ ref < self.allocated, SameButDriver (self.heap ref) (after.heap ref)) ∧
      (self.detectedRefs detection).map after.registration = detection.registrations ∧
      (self.represented (self.lastNamed olds) detection).map after.registration =
        detection.registrations ∧
      (∀ ref ∈ self.listedAfter olds detection,
        (after.heap ref).rxtxDriver = detection.driver) ∧
      (∀ ref ∈ self.listedAfter olds detection, self.allocated ≤ ref →
        Fresh detection.driver (after.heap ref)) := by
  obtain ⟨detected, registered, run⟩ := lists.detected detection
  unfold getPortIdentifiers
  simp only [oldPorts_eq lists, registered]
  cases threw : detection.throws with
  | true =>
      simp only [listedAfter, threw, if_true]
      refine ⟨detected, rfl, run.lists, run.allocated, ?_, run.registrations,
        run.represented_registration, ?_, ?_⟩
      · exact fun ref known => (run.same ref known).sameButDriver
      · exact fun ref member => (run.fresh ref member).rxtxDriver
      · exact fun ref member _ => run.fresh ref member
  | false =>
      obtain ⟨after, walked, afterLists, allocated, same, drivers⟩ :=
        restorePorts_spec (run.walk (continues threw)) run.lists.length_le
      rw [run.represented_eq] at afterLists drivers
      rw [List.getLast?_nil, ← run.lists.chain.first_eq] at walked
      simp only [listedAfter, threw, Bool.false_eq_true, if_false]
      have sameNames : ∀ ref, after.registration ref = detected.registration ref :=
        fun ref => registration_eq_of_sameButDriver (same ref)
      refine ⟨after, walked, afterLists, allocated.trans run.allocated, ?_, ?_, ?_, drivers, ?_⟩
      · exact fun ref known => (run.same ref known).sameButDriver.trans (same ref)
      · rw [← run.registrations]
        exact List.map_congr_left fun ref _ => sameNames ref
      · refine Eq.trans ?_ run.represented_registration
        exact List.map_congr_left fun ref _ => sameNames ref
      · intro ref member new
        have created : ref < self.allocated + detection.registrations.length := by
          rw [← run.allocated, ← allocated]
          exact afterLists.created ref member
        exact (same ref).fresh (run.fresh ref (mem_detectedRefs.mpr ⟨new, created⟩))
          (drivers ref member)

/-! ## Distinct names and distinct registrations -/

section Distinct

variable {self : Registry} {olds : List IdentRef} {detection : Detection}

/-- An identifier that is found under its own name matches its own registration. -/
theorem matchingOldPort_registration {ref : IdentRef}
    (found : self.lastNamed olds (self.heap ref).portName = some ref) :
    self.matchingOldPort (self.lastNamed olds) (self.registration ref) = some ref := by
  simp only [matchingOldPort, registration, found, if_true]

/-- Under distinct names an old identifier matches exactly its own name and type. -/
theorem matchingOldPort_iff (names : (olds.map fun ref => (self.heap ref).portName).Nodup)
    {new : String × Int} {old : IdentRef} :
    self.matchingOldPort (self.lastNamed olds) new = some old ↔
      old ∈ olds ∧ self.registration old = new := by
  constructor
  · intro matched
    obtain ⟨found, sameType⟩ := matchingOldPort_eq_some matched
    obtain ⟨member, named⟩ := lastNamed_eq_some found
    exact ⟨member, Prod.ext named sameType⟩
  · rintro ⟨member, rfl⟩
    exact matchingOldPort_registration (lastNamed_of_nodup names member)

/-- Distinct registrations repeat no match. -/
theorem repeatsContinue_of_nodup {registrations : List (String × Int)}
    {image : String × Int → Option IdentRef}
    (injective : ∀ left right old, image left = some old → image right = some old → left = right)
    (nodup : registrations.Nodup) : RepeatsContinue (registrations.map image) := by
  induction registrations with
  | nil => trivial
  | cons left rest ih =>
      obtain ⟨fresh, restNodup⟩ := List.nodup_cons.mp nodup
      cases leftImage : image left with
      | none => simpa [leftImage, RepeatsContinue] using ih restNodup
      | some old =>
          cases rest with
          | nil => simp [RepeatsContinue]
          | cons right rest =>
              have tail := ih restNodup
              cases rightImage : image right with
              | none =>
                  rw [List.map_cons, rightImage] at tail
                  simpa [leftImage, rightImage, RepeatsContinue] using tail
              | some other =>
                  rw [List.map_cons, rightImage] at tail
                  rw [List.map_cons, List.map_cons, leftImage, rightImage]
                  refine ⟨?_, tail⟩
                  rintro rfl
                  have same := injective left right old leftImage rightImage
                  exact absurd (same ▸ List.mem_cons_self) fresh

theorem matchesOf_repeatsContinue (distinct : detection.registrations.Nodup) :
    RepeatsContinue (self.matchesOf olds detection) := by
  apply repeatsContinue_of_nodup _ distinct
  intro left right old leftMatch rightMatch
  obtain ⟨leftFound, leftType⟩ := matchingOldPort_eq_some leftMatch
  obtain ⟨rightFound, rightType⟩ := matchingOldPort_eq_some rightMatch
  have leftName := (lastNamed_eq_some leftFound).2
  have rightName := (lastNamed_eq_some rightFound).2
  exact Prod.ext (leftName.symm.trans rightName) (leftType.symm.trans rightType)

/-- An element of the represented list is old and matches, or new. -/
theorem mem_represented {oldPorts : OldPorts} {ref : IdentRef}
    (member : ref ∈ self.represented oldPorts detection) :
    (∃ new ∈ detection.registrations, self.matchingOldPort oldPorts new = some ref) ∨
      ref ∈ self.detectedRefs detection := by
  obtain ⟨index, inBounds, rfl⟩ := List.mem_iff_getElem.mp member
  simp only [represented, List.getElem_zipWith]
  rw [represented, List.length_zipWith] at inBounds
  cases matched : self.matchingOldPort oldPorts (detection.registrations[index]) with
  | none => exact .inr (List.getElem_mem _)
  | some old => exact .inl ⟨_, List.getElem_mem _, matched⟩

/-- A matching old identifier is in the represented list. -/
theorem mem_represented_of_match {oldPorts : OldPorts} {new : String × Int} {old : IdentRef}
    (registered : new ∈ detection.registrations)
    (matched : self.matchingOldPort oldPorts new = some old) :
    old ∈ self.represented oldPorts detection := by
  obtain ⟨index, inBounds, rfl⟩ := List.mem_iff_getElem.mp registered
  rw [represented, List.mem_iff_getElem]
  refine ⟨index, ?_, ?_⟩
  · simpa [detectedRefs] using inBounds
  · simp [matched]

/-- Distinct registrations are represented by distinct identifiers. -/
theorem represented_nodup (lists : self.Lists olds) (distinct : detection.registrations.Nodup) :
    (self.represented (self.lastNamed olds) detection).Nodup := by
  obtain ⟨detected, -, run⟩ := lists.detected detection
  exact List.Nodup.of_map detected.registration (run.represented_registration ▸ distinct)

/-- Distinct registrations, without an exception: the list is the represented one. -/
theorem listedAfter_of_distinct (lists : self.Lists olds)
    (distinct : detection.registrations.Nodup) (returns : detection.throws = false) :
    self.listedAfter olds detection = self.represented (self.lastNamed olds) detection := by
  simp only [listedAfter, returns, Bool.false_eq_true, if_false]
  exact foldl_relist (represented_nodup lists distinct)

/-- The list after an enumeration consists of old identifiers and new ones. -/
theorem mem_listedAfter (lists : self.Lists olds) (distinct : detection.registrations.Nodup)
    {ref : IdentRef} (member : ref ∈ self.listedAfter olds detection) :
    ref ∈ olds ∨ self.allocated ≤ ref := by
  cases threw : detection.throws with
  | true =>
      simp only [listedAfter, threw, if_true] at member
      exact .inr (mem_detectedRefs.mp member).1
  | false =>
      rw [listedAfter_of_distinct lists distinct threw] at member
      rcases mem_represented member with ⟨_, -, matched⟩ | detected
      · exact .inl (lastNamed_eq_some (matchingOldPort_eq_some matched).1).1
      · exact .inr (mem_detectedRefs.mp detected).1

end Distinct

/-- Re-enumeration preserves identifiers.  The list afterwards represents the
driver's registrations one by one.  If the driver's run ended normally, the old
identifiers that are registered again are in it as the same objects, and
otherwise none of the old ones is; all the others are fresh. -/
theorem getPortIdentifiers_preserves {self : Registry} {olds : List IdentRef}
    (lists : self.Lists olds)
    (names : (olds.map fun ref => (self.heap ref).portName).Nodup)
    (detection : Detection) (distinct : detection.registrations.Nodup) :
    ∃ after nodes, self.getPortIdentifiers detection = some after ∧ after.Lists nodes ∧
      nodes.map after.registration = detection.registrations ∧
      (∀ ref ∈ nodes, (after.heap ref).rxtxDriver = detection.driver ∧
        (ref ∈ olds ∧ SameButDriver (self.heap ref) (after.heap ref) ∨
          self.allocated ≤ ref ∧ Fresh detection.driver (after.heap ref))) ∧
      (∀ old ∈ olds, old ∈ nodes ↔
        detection.throws = false ∧ self.registration old ∈ detection.registrations) := by
  obtain ⟨after, enumerated, afterLists, -, same, new, represents, drivers, fresh⟩ :=
    getPortIdentifiers_spec lists detection fun _ => matchesOf_repeatsContinue distinct
  refine ⟨after, self.listedAfter olds detection, enumerated, afterLists, ?_⟩
  cases threw : detection.throws with
  | true =>
      simp only [listedAfter, threw, if_true] at drivers fresh ⊢
      refine ⟨new, ?_, ?_⟩
      · intro ref member
        have created := (mem_detectedRefs.mp member).1
        exact ⟨drivers ref member, .inr ⟨created, fresh ref member created⟩⟩
      · intro old member
        simp only [Bool.true_eq_false, false_and, iff_false]
        intro detected
        exact absurd (lists.created old member) (Nat.not_lt.mpr (mem_detectedRefs.mp detected).1)
  | false =>
      rw [listedAfter_of_distinct lists distinct threw] at drivers fresh ⊢
      refine ⟨represents, ?_, ?_⟩
      · intro ref member
        refine ⟨drivers ref member, ?_⟩
        rcases mem_represented member with ⟨registration, -, matched⟩ | detected
        · have old := ((matchingOldPort_iff names).mp matched).1
          exact .inl ⟨old, same ref (lists.created ref old)⟩
        · have created := (mem_detectedRefs.mp detected).1
          exact .inr ⟨created, fresh ref member created⟩
      · intro old member
        simp only [true_and]
        constructor
        · intro represented
          rw [← represents,
            ← registration_eq_of_sameButDriver (same old (lists.created old member))]
          exact List.mem_map_of_mem represented
        · intro registered
          exact mem_represented_of_match registered
            ((matchingOldPort_iff names).mpr ⟨member, rfl⟩)

/-- The list `nodes` represents the registrations, and old identifiers as far as they are
registered again. -/
structure Preserves (before : Registry) (olds : List IdentRef) (detection : Detection)
    (after : Registry) (nodes : List IdentRef) : Prop where
  represents : nodes.map after.registration = detection.registrations
  kept : ∀ old ∈ olds, before.registration old ∈ detection.registrations → old ∈ nodes
  objects : ∀ ref ∈ nodes, (after.heap ref).rxtxDriver = detection.driver ∧
    (ref ∈ olds ∧ SameButDriver (before.heap ref) (after.heap ref) ∨
      before.allocated ≤ ref ∧ Fresh detection.driver (after.heap ref))

/-- An enumeration preserves the identifiers exactly if the driver's run ends normally, or has
registered no old port again. -/
theorem getPortIdentifiers_preserves_iff {self : Registry} {olds : List IdentRef}
    (lists : self.Lists olds)
    (names : (olds.map fun ref => (self.heap ref).portName).Nodup)
    (detection : Detection) (distinct : detection.registrations.Nodup) :
    ∃ after nodes, self.getPortIdentifiers detection = some after ∧ after.Lists nodes ∧
      (Preserves self olds detection after nodes ↔
        detection.throws = false ∨ ∀ old ∈ olds,
          self.registration old ∉ detection.registrations) := by
  obtain ⟨after, nodes, enumerated, afterLists, represents, objects, kept⟩ :=
    getPortIdentifiers_preserves lists names detection distinct
  refine ⟨after, nodes, enumerated, afterLists, ?_⟩
  constructor
  · intro preserves
    by_contra neither
    simp only [not_or, not_forall, not_not] at neither
    obtain ⟨threw, old, member, registered⟩ := neither
    exact threw ((kept old member).mp (preserves.kept old member registered)).1
  · intro condition
    refine ⟨represents, ?_, objects⟩
    intro old member registered
    rcases condition with returns | unregistered
    · exact (kept old member).mpr ⟨returns, registered⟩
    · exact absurd registered (unregistered old member)

/-- The registry of a machine with one serial port. -/
theorem addPortName_ttyS0 :
    ∃ self, initial.addPortName "/dev/ttyS0" 1 0 = some self ∧ self.Lists [0] ∧
      self.allocated = 1 ∧ self.registration 0 = ("/dev/ttyS0", 1) := by
  obtain ⟨self, added, lists, count, created, -⟩ :=
    addPortName_spec initial_lists "/dev/ttyS0" 1 0
  refine ⟨self, added, lists, count, ?_⟩
  change ((self.heap initial.allocated).portName, (self.heap initial.allocated).portType) = _
  rw [created]
  rfl

/-- A listed port is kept, at its new place, when it is detected again. -/
theorem getPortIdentifiers_preserves_ttyS0 :
    ∃ self after nodes, initial.addPortName "/dev/ttyS0" 1 0 = some self ∧
      self.getPortIdentifiers ⟨1, [("/dev/ttyS1", 1), ("/dev/ttyS0", 1)], false⟩ = some after ∧
      after.Lists nodes ∧
      nodes.map after.registration = [("/dev/ttyS1", 1), ("/dev/ttyS0", 1)] ∧ 0 ∈ nodes := by
  obtain ⟨self, added, lists, -, named⟩ := addPortName_ttyS0
  obtain ⟨after, nodes, enumerated, afterLists, preserves⟩ :=
    getPortIdentifiers_preserves_iff lists (List.nodup_singleton _)
      ⟨1, [("/dev/ttyS1", 1), ("/dev/ttyS0", 1)], false⟩ (by decide)
  obtain ⟨represents, kept, -⟩ := preserves.mpr (.inl rfl)
  refine ⟨self, after, nodes, added, enumerated, afterLists, represents, ?_⟩
  apply kept 0 (List.mem_singleton_self _)
  rw [named]
  decide

/-- A driver that ends with an exception after it has registered a listed port:
the walk is skipped, and the port's old identifier is no longer listed. -/
theorem not_preserved_on_exception :
    ¬∀ (self : Registry) (olds : List IdentRef) (detection : Detection),
      self.Lists olds → (olds.map fun ref => (self.heap ref).portName).Nodup →
      detection.registrations.Nodup →
      ∃ after nodes, self.getPortIdentifiers detection = some after ∧ after.Lists nodes ∧
        ∀ old ∈ olds, self.registration old ∈ detection.registrations → old ∈ nodes := by
  intro preserves
  obtain ⟨self, added, lists, count, named⟩ := addPortName_ttyS0
  obtain ⟨after, nodes, enumerated, afterLists, kept⟩ :=
    preserves self _ ⟨1, [("/dev/ttyS0", 1)], true⟩ lists (List.nodup_singleton _)
      (List.nodup_singleton _)
  obtain ⟨after', enumerated', newLists, -⟩ :=
    getPortIdentifiers_spec lists ⟨1, [("/dev/ttyS0", 1)], true⟩ (by simp)
  obtain rfl := Option.some.inj (enumerated.symm.trans enumerated')
  have same : nodes = [1] := by
    have unique := afterLists.chain.unique newLists.chain
    simpa [listedAfter, detectedRefs, count] using unique
  have member : 0 ∈ nodes := by
    apply kept 0 (List.mem_singleton_self _)
    rw [named]
    decide
  rw [same] at member
  simp at member

end Jrxtx.Registry
