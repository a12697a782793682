import Mathlib.Data.List.Nodup

/-!
# Walking over a list that changes

A walk by index over a list of distinct elements: the elements before the index have had
their turn, the others are ahead.  The list may get and lose elements on the way.  An
element that is removed ahead of the walk just misses its turn; one that is removed behind
it moves the others, so that the next one ahead is passed over.
-/

namespace Jrxtx.Lists

variable {α : Type*}

/-- A list and an index into it. -/
structure LiveWalk (α : Type*) where
  elements : List α
  index : Nat
  deriving DecidableEq, Repr

namespace LiveWalk

/-- What the walk has still to come to. -/
def ahead (walk : LiveWalk α) : List α :=
  walk.elements.drop walk.index

/-- What it has left behind. -/
def passed (walk : LiveWalk α) : List α :=
  walk.elements.take walk.index

/-- The next element, and the walk behind it. -/
def next? (walk : LiveWalk α) : Option (α × LiveWalk α) :=
  (walk.elements[walk.index]?).map fun element => (element, { walk with index := walk.index + 1 })

/-- Add an element at the end, unless it is there. -/
def add [DecidableEq α] (walk : LiveWalk α) (element : α) : LiveWalk α :=
  if element ∈ walk.elements then walk
  else { walk with elements := walk.elements ++ [element] }

def remove [DecidableEq α] (walk : LiveWalk α) (element : α) : LiveWalk α :=
  { walk with elements := walk.elements.erase element }

section Shape

variable {walk after : LiveWalk α} {element other : α}

theorem passed_append_ahead (walk : LiveWalk α) : walk.passed ++ walk.ahead = walk.elements :=
  List.take_append_drop _ _

theorem ahead_next (next : walk.next? = some (element, after)) :
    walk.ahead = element :: after.ahead ∧ after.elements = walk.elements ∧
      after.index = walk.index + 1 := by
  simp only [next?, Option.map_eq_some_iff, Prod.mk.injEq] at next
  obtain ⟨found, at?, rfl, rfl⟩ := next
  obtain ⟨within, rfl⟩ := List.getElem?_eq_some_iff.mp at?
  exact ⟨List.drop_eq_getElem_cons within, rfl, rfl⟩

/-- A step leaves the next element behind. -/
theorem passed_succ {rest : List α} (ahead : walk.ahead = element :: rest) :
    LiveWalk.passed ⟨walk.elements, walk.index + 1⟩ = walk.passed ++ [element] := by
  have found : walk.elements[walk.index]? = some element := by
    have first : walk.ahead[0]? = some element := by rw [ahead, List.getElem?_cons_zero]
    rwa [LiveWalk.ahead, List.getElem?_drop, Nat.add_zero] at first
  rw [passed, passed, List.take_add_one, found, Option.toList_some]

theorem mem_passed_or_ahead (member : other ∈ walk.elements) :
    other ∈ walk.passed ∨ other ∈ walk.ahead := by
  rw [← walk.passed_append_ahead] at member
  exact List.mem_append.mp member

/-- No element is both behind the walk and ahead of it. -/
theorem not_mem_ahead (distinct : walk.elements.Nodup) (member : other ∈ walk.passed) :
    other ∉ walk.ahead := by
  rw [← walk.passed_append_ahead] at distinct
  exact List.disjoint_of_nodup_append distinct member

end Shape

section Edits

variable [DecidableEq α] {walk : LiveWalk α} {element other : α}

theorem add_elements_nodup (distinct : walk.elements.Nodup) (element : α) :
    (walk.add element).elements.Nodup := by
  unfold add
  split
  next => exact distinct
  next absent =>
    rw [List.nodup_append]
    refine ⟨distinct, List.nodup_singleton _, ?_⟩
    rintro one isThere other isNew rfl
    exact absent (List.mem_singleton.mp isNew ▸ isThere)

theorem remove_elements_nodup (distinct : walk.elements.Nodup) (element : α) :
    (walk.remove element).elements.Nodup :=
  distinct.erase element

theorem mem_add (member : other ∈ (walk.add element).elements) :
    other ∈ walk.elements ∨ other = element := by
  unfold add at member
  split at member
  next => exact .inl member
  next => simpa using member

/-- An addition keeps what is ahead. -/
theorem mem_ahead_add (member : other ∈ walk.ahead) (element : α) :
    other ∈ (walk.add element).ahead := by
  unfold add
  split
  next => exact member
  next =>
    rw [ahead, List.drop_append]
    exact List.mem_append_left _ member

/-- An addition keeps what has been passed. -/
theorem mem_passed_add (member : other ∈ walk.passed) (element : α) :
    other ∈ (walk.add element).passed := by
  unfold add
  split
  next => exact member
  next =>
    rw [passed, List.take_append]
    exact List.mem_append_left _ member

/-- Without the element nothing changes. -/
theorem remove_of_not_mem (absent : element ∉ walk.elements) : walk.remove element = walk := by
  rw [remove, List.erase_of_not_mem absent]

/-- A removal ahead of the walk takes the element away from what is ahead. -/
theorem ahead_remove_of_ahead (distinct : walk.elements.Nodup) (member : element ∈ walk.ahead) :
    (walk.remove element).ahead = walk.ahead.erase element := by
  have notPassed : element ∉ walk.passed := fun passed =>
    not_mem_ahead distinct passed member
  have within : walk.passed.length = walk.index := by
    rw [passed, List.length_take, Nat.min_eq_left]
    by_contra beyond
    rw [ahead, List.drop_eq_nil_of_le (Nat.le_of_not_le beyond)] at member
    simp at member
  rw [ahead, remove, ← walk.passed_append_ahead, List.erase_append_right _ notPassed,
    ← within, List.drop_left]

/-- A removal behind the walk makes it pass over the next element. -/
theorem ahead_remove_of_passed (member : element ∈ walk.passed) :
    (walk.remove element).ahead = walk.ahead.tail := by
  have shorter := List.length_erase_of_mem member
  have nonempty := List.length_pos_of_mem member
  have bounded : walk.passed.length ≤ walk.index := List.length_take_le _ _
  change (walk.elements.erase element).drop walk.index = _
  rw [← walk.passed_append_ahead, List.erase_append_left _ member]
  rcases Nat.lt_or_ge walk.elements.length walk.index with beyond | within
  · have nothing : walk.ahead = [] := List.drop_eq_nil_of_le (Nat.le_of_lt beyond)
    rw [nothing, List.append_nil, List.drop_eq_nil_of_le (by omega), List.tail_nil]
  · have full : walk.passed.length = walk.index := by
      rw [passed, List.length_take, Nat.min_eq_left within]
    have split : walk.index = (walk.passed.erase element).length + 1 := by omega
    rw [split, ← List.drop_drop, List.drop_left, List.drop_one]

/-- What the walk has left behind stays behind it. -/
theorem mem_passed_remove (member : other ∈ walk.passed) (kept : other ≠ element) :
    other ∈ (walk.remove element).passed := by
  have bounded : walk.passed.length ≤ walk.index := List.length_take_le _ _
  change other ∈ (walk.elements.erase element).take walk.index
  rw [← walk.passed_append_ahead]
  by_cases isPassed : element ∈ walk.passed
  · have shorter : (walk.passed.erase element).length ≤ walk.index :=
      Nat.le_trans List.length_erase_le bounded
    rw [List.erase_append_left _ isPassed, List.take_append, List.take_of_length_le shorter]
    exact List.mem_append_left _ ((List.mem_erase_of_ne kept).mpr member)
  · rw [List.erase_append_right _ isPassed, List.take_append, List.take_of_length_le bounded]
    exact List.mem_append_left _ member

end Edits

end LiveWalk

end Jrxtx.Lists
