import Jrxtx.CommPortIdentifier.Enumeration
import Mathlib.Data.List.TakeWhile

/-!
# Restoring the old identifiers

The loop of `getPortIdentifiers` after `initialize()`.  It walks the detected
identifiers and puts old ones in their place, in one heap: `done` is what the
list already contains, `news` what the walk has yet to see.
-/

namespace Jrxtx.Registry

open Jrxtx.Heap

/-! ## One replacement -/

section Replacement

variable {self : Registry} {prevPort : Option IdentRef} {curPort old : IdentRef}

theorem commPortIndex_replacePort_some (prev : IdentRef) :
    (self.replacePort (some prev) curPort old).commPortIndex = self.commPortIndex := rfl

@[simp] theorem allocated_replacePort :
    (self.replacePort prevPort curPort old).allocated = self.allocated := by
  cases prevPort <;> rfl

/-- The `next` references after a replacement. -/
theorem next_replacePort :
    (self.replacePort prevPort curPort old).next =
      match prevPort with
      | none => Function.update self.next old (self.next curPort)
      | some prev =>
          Function.update (Function.update self.next old (self.next curPort)) prev (some old) := by
  have current : ((self.setDriver old (self.heap curPort).rxtxDriver).heap curPort).next =
      self.next curPort := congrFun (next_setDriver self old _) curPort
  cases prevPort with
  | none =>
      change (Registry.setNext _ _ _).next = _
      rw [next_setNext, next_setDriver, current]
  | some prev =>
      change (Registry.setNext _ _ _).next = _
      rw [next_setNext, next_setNext, next_setDriver, current]

theorem next_replacePort_prev (prev : IdentRef) :
    (self.replacePort (some prev) curPort old).next prev = some old := by
  simp [next_replacePort]

/-- The old identifier takes over the link of the one it replaces, unless the
write to `prevPort` hits it too. -/
theorem next_replacePort_old (apart : prevPort ≠ some old) :
    (self.replacePort prevPort curPort old).next old = self.next curPort := by
  cases prevPort with
  | none => simp [next_replacePort]
  | some prev =>
      have distinct : old ≠ prev := fun same => apart (congrArg some same.symm)
      simp [next_replacePort, distinct]

theorem next_replacePort_of_ne {ref : IdentRef} (notOld : ref ≠ old)
    (notPrev : prevPort ≠ some ref) :
    (self.replacePort prevPort curPort old).next ref = self.next ref := by
  cases prevPort with
  | none => simp [next_replacePort, notOld]
  | some prev =>
      have distinct : ref ≠ prev := fun same => notPrev (congrArg some same.symm)
      simp [next_replacePort, notOld, distinct]

theorem rxtxDriver_setNext (ref other : IdentRef) (link : Option IdentRef) :
    ((self.setNext ref link).heap other).rxtxDriver = (self.heap other).rxtxDriver := by
  rw [sameButNext_setNext self ref link other]

/-- Only the old identifier gets another driver, the one of the identifier that
it replaces. -/
theorem rxtxDriver_replacePort (ref : IdentRef) :
    ((self.replacePort prevPort curPort old).heap ref).rxtxDriver =
      if ref = old then (self.heap curPort).rxtxDriver else (self.heap ref).rxtxDriver := by
  have written : ((self.setDriver old (self.heap curPort).rxtxDriver).heap ref).rxtxDriver =
      if ref = old then (self.heap curPort).rxtxDriver else (self.heap ref).rxtxDriver := by
    rcases eq_or_ne ref old with rfl | distinct
    · simp [setDriver, modify]
    · simp [setDriver, modify, distinct]
  cases prevPort with
  | none => exact (rxtxDriver_setNext _ _ _).trans written
  | some prev =>
      exact (rxtxDriver_setNext _ _ _).trans ((rxtxDriver_setNext _ _ _).trans written)

theorem sameButDriver_setDriver (ref other : IdentRef) (driver : DriverRef) :
    SameButDriver (self.heap other) ((self.setDriver ref driver).heap other) := by
  rcases eq_or_ne other ref with rfl | distinct
  · simp [SameButDriver, setDriver, modify]
  · simp [SameButDriver, setDriver, modify, distinct]

theorem sameButDriver_replacePort (ref : IdentRef) :
    SameButDriver (self.heap ref) ((self.replacePort prevPort curPort old).heap ref) := by
  have driver : SameButDriver (self.heap ref)
      ((self.setDriver old (self.heap curPort).rxtxDriver).heap ref) :=
    sameButDriver_setDriver old ref _
  cases prevPort with
  | none => exact driver.trans (sameButNext_setNext _ _ _ _).sameButDriver
  | some prev =>
      exact (driver.trans (sameButNext_setNext _ _ _ _).sameButDriver).trans
        (sameButNext_setNext _ _ _ _).sameButDriver

end Replacement

/-! ## What the list becomes -/

/-- The list `done` once `ref` has been put at its end.  If `ref` was in it
already, what followed `ref` is no longer reached. -/
def relist (done : List IdentRef) (ref : IdentRef) : List IdentRef :=
  done.takeWhile (· != ref) ++ [ref]

theorem relist_of_not_mem {done : List IdentRef} {ref : IdentRef} (absent : ref ∉ done) :
    relist done ref = done ++ [ref] := by
  have kept : done.takeWhile (· != ref) = done := by
    apply List.takeWhile_eq_self_iff.mpr
    intro other member
    have distinct : other ≠ ref := by
      rintro rfl
      exact absent member
    simpa using distinct
  rw [relist, kept]

theorem relist_append {front back : List IdentRef} {ref : IdentRef} (absent : ref ∉ front) :
    relist (front ++ ref :: back) ref = front ++ [ref] := by
  have kept : ∀ other ∈ front, (other != ref) = true := by
    intro other member
    have distinct : other ≠ ref := by
      rintro rfl
      exact absent member
    simpa using distinct
  rw [relist, List.takeWhile_append_of_pos kept]
  simp

@[simp] theorem getLast?_relist (done : List IdentRef) (ref : IdentRef) :
    (relist done ref).getLast? = some ref := by
  simp [relist]

theorem mem_of_mem_relist {done : List IdentRef} {ref other : IdentRef}
    (member : other ∈ relist done ref) : other ∈ done ∨ other = ref := by
  rcases List.mem_append.mp member with before | last
  · exact .inl ((List.takeWhile_prefix _).subset before)
  · exact .inr (List.mem_singleton.mp last)

theorem nodup_relist {done : List IdentRef} (nodup : done.Nodup) (ref : IdentRef) :
    (relist done ref).Nodup := by
  refine List.nodup_append.mpr ⟨nodup.sublist (List.takeWhile_sublist _), by simp, ?_⟩
  intro other kept last member
  obtain rfl := List.mem_singleton.mp member
  simpa using List.mem_takeWhile_imp kept

/-- Distinct identifiers are appended one after the other. -/
theorem foldl_relist {done refs : List IdentRef} (nodup : (done ++ refs).Nodup) :
    refs.foldl relist done = done ++ refs := by
  induction refs generalizing done with
  | nil => simp
  | cons ref refs ih =>
      have absent : ref ∉ done := by
        intro member
        exact (List.nodup_append.mp nodup).2.2 ref member ref (by simp) rfl
      rw [List.foldl_cons, relist_of_not_mem absent, ih (by simpa using nodup)]
      simp

/-! ## The loop -/

/-- The walk has restored `done` and has yet to see `news`.  Following `next`
from `CommPortIndex` visits `done`, but where it then arrives is left open. -/
structure Restoring (registry : Registry) (done news : List IdentRef) : Prop where
  front : ∃ stop, Segment registry.next registry.commPortIndex done stop
  back : Chain registry.next news.head? news
  nodup : (done ++ news).Nodup
  created : ∀ ref ∈ done ++ news, ref < registry.allocated

/-- The restored part arrives at what the walk has yet to see. -/
def Linked (self : Registry) (done news : List IdentRef) : Prop :=
  Segment self.next self.commPortIndex done news.head?

section Loop

variable {self : Registry} {done news : List IdentRef}

theorem Lists.restoring (lists : self.Lists news) : self.Restoring [] news where
  front := ⟨_, rfl⟩
  back := lists.chain.first_eq ▸ lists.chain
  nodup := lists.chain.nodup
  created := lists.created

theorem Restoring.lists (restoring : self.Restoring done news)
    (linked : self.Linked done news) : self.Lists (done ++ news) where
  chain := linked.append_chain restoring.back
  created := restoring.created

/-- The walk leaves a new identifier where it is. -/
theorem Restoring.keep {curPort : IdentRef} (restoring : self.Restoring done (curPort :: news))
    (linked : self.Linked done (curPort :: news)) :
    self.Restoring (done ++ [curPort]) news ∧ self.Linked (done ++ [curPort]) news := by
  have following : self.next curPort = news.head? := restoring.back.2.first_eq
  have linkedOn : self.Linked (done ++ [curPort]) news :=
    segment_append.mpr ⟨_, linked, rfl, following⟩
  refine ⟨⟨⟨_, linkedOn⟩, following ▸ restoring.back.2, ?_, ?_⟩, linkedOn⟩
  · simpa using restoring.nodup
  · simpa using restoring.created

/-- After a replacement `CommPortIndex` leads to the old identifier, over those
restored identifiers that are kept. -/
theorem Restoring.front_replacePort {curPort old : IdentRef}
    (restoring : self.Restoring done (curPort :: news)) :
    Segment (self.replacePort done.getLast? curPort old).next
      (self.replacePort done.getLast? curPort old).commPortIndex
      (done.takeWhile (· != old)) (some old) := by
  obtain ⟨stop, segment⟩ := restoring.front
  have nodup : done.Nodup := (List.nodup_append.mp restoring.nodup).1
  by_cases member : old ∈ done
  · obtain ⟨front, back, rfl, absent⟩ := List.eq_append_cons_of_mem member
    have kept : (front ++ old :: back).takeWhile (· != old) = front := by
      have same : relist (front ++ old :: back) old = front ++ [old] := relist_append absent
      exact List.append_cancel_right same
    obtain ⟨middle, before, arrives, _⟩ := segment_append.mp segment
    obtain ⟨prev, last⟩ : ∃ prev, (front ++ old :: back).getLast? = some prev :=
      ⟨_, List.getLast?_eq_some_getLast (by simp)⟩
    rw [kept, last, commPortIndex_replacePort_some, ← arrives]
    apply before.congr
    intro ref inFront
    apply next_replacePort_of_ne
    · rintro rfl
      exact absent inFront
    · intro same
      have inBack : ref ∈ old :: back := by
        rw [List.getLast?_append_of_ne_nil _ (by simp)] at last
        exact List.mem_of_getLast? (last.trans same)
      exact (List.nodup_append.mp nodup).2.2 ref inFront ref inBack rfl
  · have kept : done.takeWhile (· != old) = done :=
      List.append_cancel_right (relist_of_not_mem member)
    rw [kept]
    rcases List.eq_nil_or_concat done with rfl | ⟨front, prev, rfl⟩
    · rfl
    · rw [List.concat_eq_append] at *
      obtain ⟨middle, before, arrives, _⟩ := segment_append.mp segment
      rw [List.getLast?_concat, commPortIndex_replacePort_some]
      refine segment_append.mpr ⟨middle, ?_, arrives, next_replacePort_prev prev⟩
      apply before.congr
      intro ref inFront
      apply next_replacePort_of_ne
      · rintro rfl
        exact member (by simp [inFront])
      · intro same
        obtain rfl := Option.some.inj same
        exact (List.nodup_append.mp nodup).2.2 prev inFront prev (by simp) rfl

/-- The walk goes on along the new identifiers after a replacement. -/
theorem Restoring.next_replacePort_curPort {curPort old : IdentRef}
    (restoring : self.Restoring done (curPort :: news)) (absent : old ∉ curPort :: news) :
    (self.replacePort done.getLast? curPort old).next curPort = self.next curPort := by
  apply next_replacePort_of_ne
  · rintro rfl
    exact absent (by simp)
  · intro last
    exact (List.nodup_append.mp restoring.nodup).2.2 curPort (List.mem_of_getLast? last)
      curPort (by simp) rfl

/-- One replacement.  The list goes on after the old identifier, unless that one
was the last restored already and now links to itself. -/
theorem Restoring.replace {curPort old : IdentRef}
    (restoring : self.Restoring done (curPort :: news)) (absent : old ∉ curPort :: news)
    (known : old < self.allocated) :
    (self.replacePort done.getLast? curPort old).Restoring (relist done old) news ∧
      (done.getLast? ≠ some old →
        (self.replacePort done.getLast? curPort old).Linked (relist done old) news) := by
  obtain ⟨doneNodup, newsNodup, apart⟩ := List.nodup_append.mp restoring.nodup
  have following : self.next curPort = news.head? := restoring.back.2.first_eq
  refine ⟨⟨⟨_, segment_append.mpr ⟨_, restoring.front_replacePort, rfl, rfl⟩⟩, ?_, ?_, ?_⟩, ?_⟩
  · have chain : Chain self.next news.head? news := following ▸ restoring.back.2
    apply chain.congr
    intro ref member
    apply next_replacePort_of_ne
    · rintro rfl
      exact absent (by simp [member])
    · intro last
      exact apart ref (List.mem_of_getLast? last) ref (by simp [member]) rfl
  · refine List.nodup_append.mpr ⟨nodup_relist doneNodup old, (List.nodup_cons.mp newsNodup).2, ?_⟩
    intro ref restored other member same
    rcases mem_of_mem_relist restored with before | rfl
    · exact apart ref before other (by simp [member]) same
    · exact absent (by simp [same, member])
  · intro ref member
    rw [allocated_replacePort]
    rcases List.mem_append.mp member with restored | later
    · rcases mem_of_mem_relist restored with before | rfl
      · exact restoring.created ref (by simp [before])
      · exact known
    · exact restoring.created ref (by simp [later])
  · intro distinct
    refine segment_append.mpr ⟨_, restoring.front_replacePort, rfl, ?_⟩
    exact (next_replacePort_old distinct).trans following

end Loop

/-! ## The whole walk -/

/-- A match that repeats the one before it is followed by one more match. -/
def RepeatsContinue : List (Option IdentRef) → Prop
  | some left :: some right :: rest =>
      (left = right → ∃ old, rest.head? = some (some old)) ∧
        RepeatsContinue (some right :: rest)
  | _ :: rest => RepeatsContinue rest
  | [] => True

theorem RepeatsContinue.tail {first : Option IdentRef} {rest : List (Option IdentRef)}
    (continues : RepeatsContinue (first :: rest)) : RepeatsContinue rest := by
  cases first with
  | none => simpa [RepeatsContinue] using continues
  | some left =>
      match rest, continues with
      | [], _ => trivial
      | none :: rest, continues => simpa [RepeatsContinue] using continues
      | some right :: rest, continues => exact continues.2

/-- The match that the walk finds for a detected identifier. -/
def matchOf (self : Registry) (oldPorts : OldPorts) (ref : IdentRef) : Option IdentRef :=
  self.matchingOldPort oldPorts (self.registration ref)

/-- The identifier that represents a detected one in the end. -/
def representative (self : Registry) (oldPorts : OldPorts) (ref : IdentRef) : IdentRef :=
  (self.matchOf oldPorts ref).getD ref

theorem matchingOldPort_eq_some {self : Registry} {oldPorts : OldPorts} {new : String × Int}
    {old : IdentRef} (matched : self.matchingOldPort oldPorts new = some old) :
    oldPorts new.1 = some old ∧ (self.heap old).portType = new.2 := by
  unfold matchingOldPort at matched
  split at matched
  next other found =>
    split at matched
    next sameType =>
      obtain rfl := Option.some.inj matched
      exact ⟨found, sameType⟩
    next => simp at matched
  next => simp at matched

theorem matchOf_congr {before after : Registry}
    (same : ∀ ref, SameButDriver (before.heap ref) (after.heap ref)) (oldPorts : OldPorts)
    (ref : IdentRef) : after.matchOf oldPorts ref = before.matchOf oldPorts ref := by
  have types : ∀ other, (after.heap other).portType = (before.heap other).portType := by
    intro other
    rw [same other]
  simp only [matchOf, matchingOldPort, registration_eq_of_sameButDriver (same ref), types]

theorem representative_congr {before after : Registry}
    (same : ∀ ref, SameButDriver (before.heap ref) (after.heap ref)) (oldPorts : OldPorts)
    (ref : IdentRef) :
    after.representative oldPorts ref = before.representative oldPorts ref := by
  rw [representative, matchOf_congr same, representative]

/-- A replacement gives the driver of the new identifiers to the old one. -/
theorem drivers_replacePort {self : Registry} {done news : List IdentRef}
    {curPort old : IdentRef} {driver : DriverRef} {prevPort : Option IdentRef}
    (drivers : ∀ ref ∈ done ++ curPort :: news, (self.heap ref).rxtxDriver = driver) :
    ∀ ref ∈ relist done old ++ news,
      ((self.replacePort prevPort curPort old).heap ref).rxtxDriver = driver := by
  intro ref member
  rw [rxtxDriver_replacePort]
  split
  next => exact drivers curPort (by simp)
  next notOld =>
    rcases List.mem_append.mp member with restored | unseen
    · rcases mem_of_mem_relist restored with before | same
      · exact drivers ref (by simp [before])
      · exact absurd same notOld
    · exact drivers ref (by simp [unseen])

theorem restorePorts_of_no_match {oldPorts : OldPorts} {self : Registry} {curPort : IdentRef}
    (unmatched : self.matchOf oldPorts curPort = none) (fuel : Nat) (prevPort : Option IdentRef) :
    restorePorts oldPorts (fuel + 1) (some curPort) prevPort self =
      restorePorts oldPorts fuel (self.next curPort) (some curPort) self := by
  unfold matchOf at unmatched
  simp only [restorePorts, unmatched, next]

theorem restorePorts_of_match {oldPorts : OldPorts} {self : Registry} {curPort old : IdentRef}
    (matched : self.matchOf oldPorts curPort = some old) (fuel : Nat)
    (prevPort : Option IdentRef) :
    restorePorts oldPorts (fuel + 1) (some curPort) prevPort self =
      restorePorts oldPorts fuel ((self.replacePort prevPort curPort old).next curPort) (some old)
        (self.replacePort prevPort curPort old) := by
  unfold matchOf at matched
  simp only [restorePorts, matched, next]

/-- The state of the walk between two rounds; `last` is the match of the round
before.  Only a repeated match has left the list without its rest, and then one
more match follows. -/
structure Walk (oldPorts : OldPorts) (driver : DriverRef) (last : Option IdentRef)
    (registry : Registry) (done news : List IdentRef) : Prop where
  restoring : registry.Restoring done news
  olds : ∀ name old, oldPorts name = some old → old ∉ news ∧ old < registry.allocated
  drivers : ∀ ref ∈ done ++ news, (registry.heap ref).rxtxDriver = driver
  lastMatch : ∀ name old, oldPorts name = some old → done.getLast? = some old →
    last = some old
  linked : registry.Linked done news ∨
    ∃ old, (news.map (registry.matchOf oldPorts)).head? = some (some old)
  continues : RepeatsContinue (last :: news.map (registry.matchOf oldPorts))

section Rounds

variable {oldPorts : OldPorts} {driver : DriverRef} {last : Option IdentRef} {self : Registry}
  {done news : List IdentRef} {curPort : IdentRef}

theorem Walk.olds_tail (walk : self.Walk oldPorts driver last done (curPort :: news)) :
    ∀ name old, oldPorts name = some old → old ∉ news ∧ old < self.allocated := by
  intro name old found
  obtain ⟨absent, known⟩ := walk.olds name old found
  exact ⟨fun member => absent (List.mem_cons_of_mem _ member), known⟩

theorem Walk.next_curPort (walk : self.Walk oldPorts driver last done (curPort :: news)) :
    self.next curPort = news.head? :=
  walk.restoring.back.2.first_eq

/-- A round without a match. -/
theorem Walk.keep (walk : self.Walk oldPorts driver last done (curPort :: news))
    (unmatched : self.matchOf oldPorts curPort = none) :
    self.Walk oldPorts driver none (relist done curPort) news := by
  have arrived : self.Linked done (curPort :: news) := by
    rcases walk.linked with arrived | ⟨old, next⟩
    · exact arrived
    · simp [unmatched] at next
  have absent : curPort ∉ done := by
    intro member
    exact (List.nodup_append.mp walk.restoring.nodup).2.2 curPort member curPort (by simp) rfl
  obtain ⟨kept, keptLinked⟩ := walk.restoring.keep arrived
  rw [relist_of_not_mem absent]
  refine ⟨kept, walk.olds_tail, by simpa using walk.drivers, ?_, .inl keptLinked,
    unmatched ▸ walk.continues.tail⟩
  intro name old found isLast
  rw [List.getLast?_concat] at isLast
  obtain rfl := Option.some.inj isLast
  exact absurd (List.mem_cons_self) (walk.olds name curPort found).1

/-- A round that replaces the current identifier. -/
theorem Walk.replace {old : IdentRef}
    (walk : self.Walk oldPorts driver last done (curPort :: news))
    (matched : self.matchOf oldPorts curPort = some old) :
    (self.replacePort done.getLast? curPort old).Walk oldPorts driver (some old)
      (relist done old) news := by
  obtain ⟨found, -⟩ := matchingOldPort_eq_some matched
  obtain ⟨absent, known⟩ := walk.olds _ old found
  obtain ⟨replaced, relinked⟩ := walk.restoring.replace absent known
  have sameMatches :
      news.map ((self.replacePort done.getLast? curPort old).matchOf oldPorts) =
        news.map (self.matchOf oldPorts) :=
    List.map_congr_left fun ref _ => matchOf_congr sameButDriver_replacePort oldPorts ref
  refine ⟨replaced, by simpa using walk.olds_tail, drivers_replacePort walk.drivers, ?_, ?_, ?_⟩
  · intro name other _ isLast
    rwa [getLast?_relist] at isLast
  · rw [sameMatches]
    by_cases repeated : done.getLast? = some old
    · right
      obtain rfl := walk.lastMatch _ old found repeated
      have continues := walk.continues
      rw [List.map_cons, matched] at continues
      exact continues.1 rfl
    · exact .inl (relinked repeated)
  · rw [sameMatches]
    exact matched ▸ walk.continues.tail

/-- The restoring walk ends, and what it makes of the list. -/
theorem restorePorts_spec {fuel : Nat} (walk : self.Walk oldPorts driver last done news)
    (enough : news.length ≤ fuel) :
    ∃ after, restorePorts oldPorts fuel news.head? done.getLast? self = some after ∧
      after.Lists ((news.map (self.representative oldPorts)).foldl relist done) ∧
      after.allocated = self.allocated ∧
      (∀ ref, SameButDriver (self.heap ref) (after.heap ref)) ∧
      (∀ ref ∈ (news.map (self.representative oldPorts)).foldl relist done,
        (after.heap ref).rxtxDriver = driver) := by
  induction news generalizing self done fuel last with
  | nil =>
      have arrived : self.Linked done [] := by
        rcases walk.linked with arrived | ⟨old, next⟩
        · exact arrived
        · simp at next
      have lists : self.Lists done := by simpa using walk.restoring.lists arrived
      refine ⟨self, ?_, lists, rfl, fun ref => .refl _, by simpa using walk.drivers⟩
      cases fuel <;> rfl
  | cons curPort news ih =>
      cases fuel with
      | zero => simp at enough
      | succ fuel =>
          have rest : news.length ≤ fuel := Nat.le_of_succ_le_succ enough
          have following := walk.next_curPort
          cases matched : self.matchOf oldPorts curPort with
          | none =>
              have itself : self.representative oldPorts curPort = curPort := by
                simp [representative, matched]
              obtain ⟨after, walked, lists, allocated, same, final⟩ := ih (walk.keep matched) rest
              rw [List.map_cons, List.foldl_cons, itself]
              refine ⟨after, ?_, lists, allocated, same, final⟩
              rw [getLast?_relist, ← following] at walked
              rw [List.head?_cons, restorePorts_of_no_match matched]
              exact walked
          | some old =>
              obtain ⟨absent, -⟩ := walk.olds _ old (matchingOldPort_eq_some matched).1
              have itself : self.representative oldPorts curPort = old := by
                simp [representative, matched]
              have same : ∀ ref, SameButDriver (self.heap ref)
                  ((self.replacePort done.getLast? curPort old).heap ref) :=
                sameButDriver_replacePort
              have sameRepresentatives :
                  news.map ((self.replacePort done.getLast? curPort old).representative oldPorts) =
                    news.map (self.representative oldPorts) :=
                List.map_congr_left fun ref _ => representative_congr same oldPorts ref
              obtain ⟨after, walked, lists, allocated, sameAfter, final⟩ :=
                ih (walk.replace matched) rest
              rw [sameRepresentatives] at lists final
              rw [List.map_cons, List.foldl_cons, itself]
              refine ⟨after, ?_, lists, by simpa using allocated,
                fun ref => (same ref).trans (sameAfter ref), final⟩
              rw [← walk.restoring.next_replacePort_curPort absent] at following
              rw [getLast?_relist, ← following] at walked
              rw [List.head?_cons, restorePorts_of_match matched]
              exact walked

end Rounds

end Jrxtx.Registry
