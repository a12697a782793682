import Jrxtx.CommPortIdentifier.Acyclic

/-!
# Looking up a new name

`getPortIdentifier(String)` for a name that is not listed.  The driver is run, and the name is
found if it is registered first, or if no registration is repeated; it is not found if it is
not registered.
-/

namespace Jrxtx.Registry

open Jrxtx.Heap

/-- The references of the list lead to identifiers that have been created. -/
def Created (self : Registry) : Prop :=
  Closed self.next self.commPortIndex (· < self.allocated)

/-- A lookup that misses has seen the end of the list. -/
theorem Created.exists_lists {self : Registry} {s : String} (created : self.Created)
    (missed : self.findName s = some none) : ∃ nodes, self.Lists nodes := by
  obtain ⟨nodes, chain⟩ := exists_chain_of_scan missed
  exact ⟨nodes, chain, chain.inside created⟩

/-- A name that is not listed. -/
def Lacks (self : Registry) (s : String) : Prop :=
  ∀ ref, self.findName s ≠ some (some ref)

section Lookup

variable {self after : Registry} {olds : List IdentRef} {s : String} {detection : Detection}
  {oldPorts : OldPorts} {fuel : Nat} {curPort prevPort : Option IdentRef} {ref : IdentRef}

theorem Lacks.portName_ne (lacks : self.Lacks s) (lists : self.Lists olds) :
    ∀ ref ∈ olds, (self.heap ref).portName ≠ s := by
  intro ref member named
  cases found : olds.find? fun ref => (self.heap ref).portName == s with
  | none => simpa [named] using List.find?_eq_none.mp found ref member
  | some other => exact lacks other ((lists.findName_eq s).trans (congrArg some found))

theorem Lacks.findName_eq (lacks : self.Lacks s) (lists : self.Lists olds) :
    self.findName s = some none := by
  have found := lists.findName_eq s
  cases isFound : olds.find? fun ref => (self.heap ref).portName == s with
  | none => rw [found, isFound]
  | some ref => exact absurd (found.trans (congrArg some isFound)) (lacks ref)

/-- Only the next references of the two neighbours are written to. -/
theorem closed_replacePort {inside : IdentRef → Prop} {cur old : IdentRef}
    (closed : Closed self.next self.commPortIndex inside) (isCur : inside cur)
    (isOld : inside old) :
    Closed (self.replacePort prevPort cur old).next
      (self.replacePort prevPort cur old).commPortIndex inside := by
  constructor
  · intro node starts
    cases prevPort with
    | none =>
        obtain rfl := Option.some.inj starts
        exact isOld
    | some prev => exact closed.first node starts
  · intro node member following linked
    rw [next_replacePort] at linked
    cases prevPort with
    | none =>
        rcases eq_or_ne node old with rfl | distinct
        · exact closed.next cur isCur following (by simpa using linked)
        · exact closed.next node member following (by simpa [distinct] using linked)
    | some prev =>
        rcases eq_or_ne node prev with rfl | notPrev
        · simp only [Function.update_self, Option.some.injEq] at linked
          exact linked ▸ isOld
        · rcases eq_or_ne node old with rfl | distinct
          · exact closed.next cur isCur following (by simpa [notPrev] using linked)
          · exact closed.next node member following (by simpa [notPrev, distinct] using linked)

/-- The walk over the new identifiers does not leave them and the old ones, and changes no
name. -/
theorem closed_restorePorts {inside : IdentRef → Prop}
    (closed : Closed self.next self.commPortIndex inside)
    (olds : ∀ name old, oldPorts name = some old → inside old)
    (isCur : ∀ cur, curPort = some cur → inside cur)
    (restored : Registry.restorePorts oldPorts fuel curPort prevPort self = some after) :
    Closed after.next after.commPortIndex inside ∧ after.allocated = self.allocated ∧
      ∀ ref, SameButDriver (self.heap ref) (after.heap ref) := by
  induction fuel generalizing curPort prevPort self with
  | zero =>
      cases curPort with
      | none =>
          obtain rfl := Option.some.inj restored
          exact ⟨closed, rfl, fun _ => .refl _⟩
      | some cur => simp [Registry.restorePorts] at restored
  | succ fuel ih =>
      cases curPort with
      | none =>
          obtain rfl := Option.some.inj restored
          exact ⟨closed, rfl, fun _ => .refl _⟩
      | some cur =>
          cases isMatch : self.matchOf oldPorts cur with
          | none =>
              rw [restorePorts_of_no_match isMatch] at restored
              exact ih closed (closed.next cur (isCur cur rfl)) restored
          | some old =>
              rw [restorePorts_of_match isMatch] at restored
              have isOld := olds _ old (matchingOldPort_eq_some isMatch).1
              have replaced := @closed_replacePort _ prevPort _ _ _ closed (isCur cur rfl) isOld
              obtain ⟨afterClosed, allocated, same⟩ :=
                ih replaced (replaced.next cur (isCur cur rfl)) restored
              exact ⟨afterClosed, allocated.trans allocated_replacePort,
                fun ref => (sameButDriver_replacePort ref).trans (same ref)⟩

/-- The walk ends, and once it has passed an identifier the list keeps its start. -/
theorem exists_restorePorts {news : List IdentRef} (chain : Chain self.next curPort news)
    (olds : ∀ name old, oldPorts name = some old → old ∉ news)
    (passed : ∀ prev, prevPort = some prev → prev ∉ news) (enough : news.length ≤ fuel) :
    ∃ after, restorePorts oldPorts fuel curPort prevPort self = some after ∧
      after.allocated = self.allocated ∧
      (∀ ref, SameButDriver (self.heap ref) (after.heap ref)) ∧
      (prevPort.isSome = true → after.commPortIndex = self.commPortIndex) := by
  induction news generalizing self curPort prevPort fuel with
  | nil =>
      obtain rfl := chain_nil.mp chain
      exact ⟨self, by cases fuel <;> rfl, rfl, fun _ => .refl _, fun _ => rfl⟩
  | cons cur news ih =>
      have isNew := (List.nodup_cons.mp chain.nodup).1
      obtain ⟨rfl, tail⟩ := chain
      have laterOlds (name : String) (old : IdentRef) (isOld : oldPorts name = some old) :
          old ∉ news := fun member => olds name old isOld (List.mem_cons_of_mem _ member)
      cases fuel with
      | zero => simp at enough
      | succ fuel =>
          have enough := Nat.le_of_succ_le_succ enough
          cases isMatch : self.matchOf oldPorts cur with
          | none =>
              rw [restorePorts_of_no_match isMatch]
              have isPassed (prev : IdentRef) (isPrev : some cur = some prev) : prev ∉ news :=
                Option.some.inj isPrev ▸ isNew
              obtain ⟨after, restored, allocated, same, start⟩ := ih tail laterOlds isPassed enough
              exact ⟨after, restored, allocated, same, fun _ => start rfl⟩
          | some old =>
              have isOld := (matchingOldPort_eq_some isMatch).1
              have kept : ∀ node ∈ cur :: news,
                  (self.replacePort prevPort cur old).next node = self.next node := by
                intro node member
                refine next_replacePort_of_ne ?_ fun isPrev => passed node isPrev member
                rintro rfl
                exact olds _ node isOld member
              rw [restorePorts_of_match isMatch, kept cur List.mem_cons_self]
              have replaced := tail.congr fun node member =>
                kept node (List.mem_cons_of_mem _ member)
              have isPassed (prev : IdentRef) (isPrev : some old = some prev) : prev ∉ news :=
                Option.some.inj isPrev ▸ laterOlds _ old isOld
              obtain ⟨after, restored, allocated, same, start⟩ :=
                ih replaced laterOlds isPassed enough
              refine ⟨after, restored, allocated.trans allocated_replacePort,
                fun ref => (sameButDriver_replacePort ref).trans (same ref), fun isSome => ?_⟩
              obtain ⟨prev, rfl⟩ := Option.isSome_iff_exists.mp isSome
              exact (start rfl).trans (commPortIndex_replacePort_some prev)

theorem findName_first {first : IdentRef} (starts : self.commPortIndex = some first)
    (created : 0 < self.allocated) (named : (self.heap first).portName = s) :
    self.findName s = some (some first) := by
  obtain ⟨fuel, isFuel⟩ := Nat.exists_eq_add_one.mpr created
  simp [findName, starts, isFuel, scan, named]

theorem getPortIdentifier_of_lacks (lacks : self.Lacks s) (lists : self.Lists olds)
    (enumerated : self.getPortIdentifiers detection = some after) :
    self.getPortIdentifier s detection = (after.findName s).map (after, ·) := by
  simp only [getPortIdentifier, lacks.findName_eq lists, enumerated]
  cases after.findName s <;> rfl

/-- A new identifier with a name that was not listed replaces none. -/
theorem matchOf_of_lacks {detected : Registry} (lacks : self.Lacks s) (lists : self.Lists olds)
    (named : (detected.heap ref).portName = s) :
    detected.matchOf (self.lastNamed olds) ref = none := by
  have absent : self.lastNamed olds s = none := by
    rw [lastNamed, List.find?_eq_none]
    intro ref member
    simpa using lacks.portName_ne lists ref (List.mem_reverse.mp member)
  have isName : (detected.registration ref).1 = s := named
  simp [matchOf, matchingOldPort, isName, absent]

/-- What is registered first heads the list, and stays there. -/
theorem getPortIdentifiers_first (lacks : self.Lacks s) (lists : self.Lists olds) {type : Int}
    {rest : List (String × Int)} (first : detection.registrations = (s, type) :: rest) :
    ∃ after, self.getPortIdentifiers detection = some after ∧
      after.commPortIndex = some self.allocated ∧ 0 < after.allocated ∧
      (after.heap self.allocated).portName = s := by
  obtain ⟨detected, registered, run⟩ := lists.detected detection
  have chain := run.lists.chain
  have registrations := run.registrations
  simp only [detectedRefs, first, List.length_cons, List.range'_succ, List.map_cons,
    List.cons.injEq] at chain registrations
  obtain ⟨starts, tail⟩ := chain
  have named : (detected.heap self.allocated).portName = s := congrArg Prod.fst registrations.1
  have allocated : detected.allocated = self.allocated + (rest.length + 1) := by
    rw [run.allocated, first, List.length_cons]
  have positive : 0 < detected.allocated := by omega
  simp only [getPortIdentifiers, oldPorts_eq lists, registered]
  cases detection.throws with
  | true => exact ⟨detected, rfl, starts, positive, named⟩
  | false =>
      obtain ⟨fuel, isFuel⟩ := Nat.exists_eq_add_one.mpr positive
      have laterOlds (name : String) (old : IdentRef)
          (isOld : self.lastNamed olds name = some old) :
          old ∉ List.range' (self.allocated + 1) rest.length := by
        have created := lists.created old (lastNamed_eq_some isOld).1
        intro member
        exact absurd (List.mem_range'_1.mp member).1 (Nat.not_le.mpr (Nat.lt_succ_of_lt created))
      have isPassed (prev : IdentRef) (isPrev : some self.allocated = some prev) :
          prev ∉ List.range' (self.allocated + 1) rest.length := by
        obtain rfl := Option.some.inj isPrev
        simp
      have enough : (List.range' (self.allocated + 1) rest.length).length ≤ fuel := by
        rw [List.length_range']
        omega
      obtain ⟨after, restored, allocated, same, start⟩ :=
        exists_restorePorts tail laterOlds isPassed enough
      refine ⟨after, ?_, (start rfl).trans starts, allocated ▸ positive, ?_⟩
      · rw [if_neg (by simp), starts, isFuel,
          restorePorts_of_no_match (matchOf_of_lacks lacks lists named), restored]
      · rw [same self.allocated, named]

/-- What is registered first is found. -/
theorem getPortIdentifier_of_first (lacks : self.Lacks s) (lists : self.Lists olds) {type : Int}
    {rest : List (String × Int)} (first : detection.registrations = (s, type) :: rest) :
    ∃ after ref, self.getPortIdentifier s detection = some (after, some ref) ∧
      (after.heap ref).portName = s := by
  obtain ⟨after, enumerated, starts, positive, named⟩ := getPortIdentifiers_first lacks lists first
  refine ⟨after, self.allocated, ?_, named⟩
  rw [getPortIdentifier_of_lacks lacks lists enumerated, findName_first starts positive named]
  rfl

/-- What is registered is found if no registration is repeated. -/
theorem getPortIdentifier_of_distinct (lacks : self.Lacks s) (lists : self.Lists olds)
    (distinct : detection.registrations.Nodup) (returns : detection.throws = false) {type : Int}
    (registered : (s, type) ∈ detection.registrations) :
    ∃ after ref, self.getPortIdentifier s detection = some (after, some ref) ∧
      (after.heap ref).portName = s := by
  obtain ⟨after, enumerated, listed, -, -, -, represented, -⟩ :=
    getPortIdentifiers_spec lists detection fun _ => matchesOf_repeatsContinue distinct
  rw [listedAfter_of_distinct lists distinct returns] at listed
  rw [← represented] at registered
  obtain ⟨ref, member, isRegistration⟩ := List.mem_map.mp registered
  have named : (after.heap ref).portName = s := congrArg Prod.fst isRegistration
  rw [getPortIdentifier_of_lacks lacks lists enumerated, listed.findName_eq]
  cases found : (self.represented (self.lastNamed olds) detection).find?
      fun ref => (after.heap ref).portName == s with
  | none => simpa [named] using List.find?_eq_none.mp found ref member
  | some other => exact ⟨after, other, rfl, by simpa using List.find?_some found⟩

/-- The identifiers listed before, and those that a detection creates. -/
def Known (self : Registry) (olds : List IdentRef) (detection : Detection) (ref : IdentRef) :
    Prop :=
  ref ∈ olds ∨ ref ∈ List.range' self.allocated detection.registrations.length

/-- The list after a detection does not leave the known identifiers, and none of them has a name
that was neither listed nor registered. -/
theorem getPortIdentifiers_known (lacks : self.Lacks s) (lists : self.Lists olds)
    (others : ∀ registration ∈ detection.registrations, registration.1 ≠ s)
    (enumerated : self.getPortIdentifiers detection = some after) :
    Closed after.next after.commPortIndex (self.Known olds detection) ∧
      ∀ ref, self.Known olds detection ref → (after.heap ref).portName ≠ s := by
  have cleared : ({ self with commPortIndex := none } : Registry).Lists [] := ⟨rfl, by simp⟩
  obtain ⟨detected, registered, news, -, registrations, -, -, untouched⟩ :=
    register_spec cleared detection.driver detection.registrations
  rw [List.nil_append] at news
  have closed : Closed detected.next detected.commPortIndex (self.Known olds detection) := by
    refine ⟨fun node starts => .inr (news.chain.closed.first node starts), ?_⟩
    rintro node (old | new) following linked
    · left
      have unchanged := untouched node (lists.created node old) List.not_mem_nil
      refine lists.chain.closed.next node old following ?_
      rwa [next, unchanged] at linked
    · exact .inr (news.chain.closed.next node new following linked)
  have unnamed : ∀ ref, self.Known olds detection ref → (detected.heap ref).portName ≠ s := by
    rintro ref (old | new)
    · rw [untouched ref (lists.created ref old) List.not_mem_nil]
      exact lacks.portName_ne lists ref old
    · refine others (detected.registration ref) ?_
      rw [← registrations]
      exact List.mem_map_of_mem new
  simp only [getPortIdentifiers, oldPorts_eq lists, registered] at enumerated
  split at enumerated
  next =>
    obtain rfl := Option.some.inj enumerated
    exact ⟨closed, unnamed⟩
  next =>
    obtain ⟨afterClosed, -, sameNames⟩ := closed_restorePorts closed
      (fun name old isOld => .inl (lastNamed_eq_some isOld).1) closed.first enumerated
    refine ⟨afterClosed, fun ref known named => unnamed ref known ?_⟩
    exact (congrArg Prod.fst (registration_eq_of_sameButDriver (sameNames ref))).symm.trans named

/-- What is not registered is not found. -/
theorem not_found_of_not_registered (lacks : self.Lacks s) (lists : self.Lists olds)
    (others : ∀ registration ∈ detection.registrations, registration.1 ≠ s) (ref : IdentRef) :
    self.getPortIdentifier s detection ≠ some (after, some ref) := by
  intro looked
  simp only [getPortIdentifier, lacks.findName_eq lists] at looked
  split at looked
  next => simp at looked
  next enumerated isEnumerated =>
    obtain ⟨closed, unnamed⟩ := getPortIdentifiers_known lacks lists others isEnumerated
    split at looked
    next => simp at looked
    next found isFound =>
      obtain ⟨rfl, rfl⟩ := Prod.mk.inj (Option.some.inj looked)
      obtain ⟨known, named⟩ := Closed.scan closed isFound
      exact unnamed ref known (beq_iff_eq.mp named)

end Lookup

/-! ## The references of reachable registries -/

section Reachable

variable {self after : Registry}

theorem Created.alloc (created : self.Created) {ident : CommPortIdentifier}
    (unlinked : ident.next = none) : (self.alloc ident).Created where
  first := fun node starts => Nat.lt_succ_of_lt (created.first node starts)
  next := by
    intro node member following linked
    rw [next_alloc self unlinked] at linked
    rcases eq_or_ne node self.allocated with rfl | distinct
    · simp at linked
    · rw [Function.update_of_ne distinct] at linked
      exact Nat.lt_succ_of_lt
        (created.next node (Nat.lt_of_le_of_ne (Nat.le_of_lt_succ member) distinct) following
          linked)

theorem Created.addIdentifierToList (created : self.Created) {cpi : IdentRef}
    (known : cpi < self.allocated) (added : self.addIdentifierToList cpi = some after) :
    after.Created ∧ after.allocated = self.allocated := by
  unfold Registry.addIdentifierToList at added
  split at added
  next =>
    obtain rfl := Option.some.inj added
    refine ⟨⟨?_, created.next⟩, rfl⟩
    rintro node starts
    obtain rfl := Option.some.inj starts
    exact known
  next =>
    split at added
    next last _ =>
      obtain rfl := Option.some.inj added
      refine ⟨⟨created.first, ?_⟩, rfl⟩
      intro node member following linked
      rw [next_setNext] at linked
      rcases eq_or_ne node last with rfl | distinct
      · rw [Function.update_self, Option.some.injEq] at linked
        exact linked ▸ known
      · rw [Function.update_of_ne distinct] at linked
        exact created.next node member following linked
    next => simp at added

theorem Created.addPortName (created : self.Created) {s : String} {type : Int} {c : DriverRef}
    (added : self.addPortName s type c = some after) :
    after.Created ∧ self.allocated ≤ after.allocated := by
  have new := @Created.alloc self created (.new s none type c) rfl
  obtain ⟨afterCreated, allocated⟩ := new.addIdentifierToList (Nat.lt_succ_self _) added
  exact ⟨afterCreated, allocated ▸ Nat.le_succ _⟩

theorem Created.register (created : self.Created) {driver : DriverRef}
    {registrations : List (String × Int)}
    (registered : self.register driver registrations = some after) :
    after.Created ∧ self.allocated ≤ after.allocated := by
  induction registrations generalizing self with
  | nil =>
      obtain rfl := Option.some.inj registered
      exact ⟨created, Nat.le_refl _⟩
  | cons registration rest ih =>
      simp only [Registry.register] at registered
      split at registered
      next next added =>
        obtain ⟨nextCreated, more⟩ := created.addPortName added
        obtain ⟨afterCreated, further⟩ := ih nextCreated registered
        exact ⟨afterCreated, Nat.le_trans more further⟩
      next => simp at registered

theorem rememberPorts_created {oldPorts remembered : OldPorts} {first : Option IdentRef}
    {fuel : Nat} (closed : Closed self.next first (· < self.allocated))
    (olds : ∀ name old, oldPorts name = some old → old < self.allocated)
    (isRemembered : self.rememberPorts fuel first oldPorts = some remembered) :
    ∀ name old, remembered name = some old → old < self.allocated := by
  induction fuel generalizing first oldPorts with
  | zero =>
      cases first with
      | none => exact Option.some.inj isRemembered ▸ olds
      | some node => simp [rememberPorts] at isRemembered
  | succ fuel ih =>
      cases first with
      | none => exact Option.some.inj isRemembered ▸ olds
      | some node =>
          have member := closed.first node rfl
          refine ih ⟨closed.next node member, closed.next⟩ ?_ isRemembered
          intro name old isOld
          rcases eq_or_ne name (self.heap node).portName with rfl | distinct
          · rw [Function.update_self, Option.some.injEq] at isOld
            exact isOld ▸ member
          · rw [Function.update_of_ne distinct] at isOld
            exact olds name old isOld

theorem Created.getPortIdentifiers (created : self.Created) {detection : Detection}
    (enumerated : self.getPortIdentifiers detection = some after) : after.Created := by
  simp only [Registry.getPortIdentifiers] at enumerated
  split at enumerated
  next => simp at enumerated
  next remembered isRemembered =>
    split at enumerated
    next => simp at enumerated
    next detected registered =>
      have cleared : ({ self with commPortIndex := none } : Registry).Created :=
        ⟨by simp, created.next⟩
      obtain ⟨detectedCreated, more⟩ := cleared.register registered
      split at enumerated
      next => exact Option.some.inj enumerated ▸ detectedCreated
      next =>
        have olds := rememberPorts_created created (by simp) isRemembered
        obtain ⟨closed, allocated, -⟩ := closed_restorePorts detectedCreated
          (fun name old isOld => Nat.lt_of_lt_of_le (olds name old isOld) more)
          detectedCreated.first enumerated
        rw [← allocated] at closed
        exact closed

/-- In every registry that calls lead to, the references of the list are created ones. -/
theorem created_of_reachable (reachable : calls.Reachable self) : self.Created := by
  refine reachable.invariant ?_ ?_
  · rintro registry rfl
    exact ⟨by simp [initial], by simp [initial]⟩
  · intro registry call next created performed
    cases call with
    | addPortName s type c => exact (created.addPortName performed).1
    | getPortIdentifiers detection => exact created.getPortIdentifiers performed
    | getPortIdentifier s detection =>
        obtain ⟨⟨after, found⟩, looked, rfl⟩ := Option.map_eq_some_iff.mp performed
        simp only [Registry.getPortIdentifier] at looked
        split at looked
        next => simp at looked
        next => exact (Prod.mk.inj (Option.some.inj looked)).1 ▸ created
        next =>
          split at looked
          next => simp at looked
          next enumerated isEnumerated =>
            split at looked
            next => simp at looked
            next =>
              exact (Prod.mk.inj (Option.some.inj looked)).1 ▸
                created.getPortIdentifiers isEnumerated

end Reachable

end Jrxtx.Registry
