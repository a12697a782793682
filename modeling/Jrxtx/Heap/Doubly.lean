import Jrxtx.Heap.Chain

/-!
# Doubly linked lists

A doubly linked list is described by what each of its nodes sees: `next` leads to
the head of the nodes behind it, and `prev` to the last one of the nodes before
it.  Inserting and removing a node then only splits the list at that place.
-/

namespace Jrxtx.Heap

universe u

variable {Ref : Type u}

/-- The doubly linked list that starts at `first` consists of `nodes`. -/
structure Doubly (next prev : Ref → Option Ref) (first : Option Ref) (nodes : List Ref) :
    Prop where
  first : first = nodes.head?
  next : ∀ front node back, nodes = front ++ node :: back → next node = back.head?
  prev : ∀ front node back, nodes = front ++ node :: back → prev node = front.getLast?

section Shape

variable {next prev nextAfter prevAfter : Ref → Option Ref} {first : Option Ref}
  {nodes front back : List Ref} {node : Ref}

theorem doubly_nil : Doubly next prev none [] where
  first := rfl
  next := by simp
  prev := by simp

theorem chain_of_next (links : ∀ front node back, nodes = front ++ node :: back →
    next node = back.head?) : Chain next nodes.head? nodes := by
  induction nodes with
  | nil => rfl
  | cons node rest ih =>
      refine ⟨rfl, ?_⟩
      rw [links [] node rest rfl]
      apply ih
      intro front other back split
      exact links (node :: front) other back (by simp [split])

/-- Following `next` is finite and visits the nodes in order. -/
theorem Doubly.chain (list : Doubly next prev first nodes) : Chain next first nodes := by
  rw [list.first]
  exact chain_of_next list.next

theorem Doubly.nodup (list : Doubly next prev first nodes) : nodes.Nodup :=
  list.chain.nodup

theorem Doubly.congr (list : Doubly next prev first nodes)
    (links : ∀ node ∈ nodes, nextAfter node = next node)
    (backlinks : ∀ node ∈ nodes, prevAfter node = prev node) :
    Doubly nextAfter prevAfter first nodes where
  first := list.first
  next := by
    intro front node back split
    rw [links node (by simp [split])]
    exact list.next front node back split
  prev := by
    intro front node back split
    rw [backlinks node (by simp [split])]
    exact list.prev front node back split

section Splitting

variable {α : Type*}

/-- A split of two lists put together splits one of them. -/
theorem append_eq_append_cons {left right front back : List α} {node : α}
    (split : left ++ right = front ++ node :: back) :
    (∃ middle, left = front ++ node :: middle ∧ back = middle ++ right) ∨
      ∃ middle, right = middle ++ node :: back ∧ front = left ++ middle := by
  rcases List.append_eq_append_iff.mp split with
    ⟨middle, isFront, isRight⟩ | ⟨middle, isLeft, isBack⟩
  · exact .inr ⟨middle, isRight, isFront⟩
  · cases middle with
    | nil =>
        rw [List.nil_append] at isBack
        rw [List.append_nil] at isLeft
        exact .inr ⟨[], by simp [isBack], by simp [isLeft]⟩
    | cons head middle =>
        obtain ⟨rfl, rfl⟩ := List.cons_eq_cons.mp isBack
        exact .inl ⟨middle, isLeft, rfl⟩

/-- A node of a list without repetitions is at one place only. -/
theorem absent_of_split {nodes front back : List α} {node : α} (nodup : nodes.Nodup)
    (split : nodes = front ++ node :: back) : node ∉ front ++ back := by
  subst split
  exact (List.nodup_cons.mp (List.nodup_middle.mp nodup)).1

theorem head?_ne_some {list : List α} {node : α} (absent : node ∉ list) :
    list.head? ≠ some node := by
  intro head
  exact absent (List.mem_of_head? head)

theorem getLast?_ne_some {list : List α} {node : α} (absent : node ∉ list) :
    list.getLast? ≠ some node := by
  intro last
  exact absent (List.mem_of_getLast? last)

end Splitting

variable [DecidableEq Ref]

/-- A new node is put between `front` and `back`. -/
theorem Doubly.insert {new : Ref} (list : Doubly next prev first (front ++ back))
    (links : ∀ node ∈ front ++ back, nextAfter node =
      if front.getLast? = some node then some new else next node)
    (newNext : nextAfter new = back.head?)
    (backlinks : ∀ node ∈ front ++ back, prevAfter node =
      if back.head? = some node then some new else prev node)
    (newPrev : prevAfter new = front.getLast?) :
    Doubly nextAfter prevAfter (front ++ new :: back).head? (front ++ new :: back) := by
  have nodup := list.nodup
  constructor
  case first => rfl
  case next =>
    intro before node after split
    rcases append_eq_append_cons split with ⟨middle, rfl, rfl⟩ | ⟨middle, isBack, rfl⟩
    · rw [links node (by simp)]
      have link := list.next before node (middle ++ back) (by simp)
      cases middle with
      | nil => simp
      | cons head middle =>
          have absent : node ∉ before ++ (head :: middle ++ back) :=
            absent_of_split nodup (by simp)
          have apart : (head :: middle).getLast? ≠ some node :=
            getLast?_ne_some fun member =>
              absent (List.mem_append_right _ (List.mem_append_left _ member))
          simp [apart, link]
    · cases middle with
      | nil =>
          obtain ⟨rfl, rfl⟩ := List.cons_eq_cons.mp isBack
          exact newNext
      | cons head middle =>
          obtain ⟨rfl, rfl⟩ := List.cons_eq_cons.mp isBack
          rw [links node (by simp), list.next (front ++ middle) node after (by simp)]
          have absent : node ∉ (front ++ middle) ++ after := absent_of_split nodup (by simp)
          have apart : front.getLast? ≠ some node :=
            getLast?_ne_some fun member =>
              absent (List.mem_append_left _ (List.mem_append_left _ member))
          simp [apart]
  case prev =>
    intro before node after split
    rcases append_eq_append_cons split with ⟨middle, rfl, rfl⟩ | ⟨middle, isBack, rfl⟩
    · rw [backlinks node (by simp), list.prev before node (middle ++ back) (by simp)]
      have absent : node ∉ before ++ (middle ++ back) := absent_of_split nodup (by simp)
      have apart : back.head? ≠ some node :=
        head?_ne_some fun member =>
          absent (List.mem_append_right _ (List.mem_append_right _ member))
      simp [apart]
    · cases middle with
      | nil =>
          obtain ⟨rfl, rfl⟩ := List.cons_eq_cons.mp isBack
          simp [newPrev]
      | cons head middle =>
          obtain ⟨isNew, isRest⟩ := List.cons_eq_cons.mp isBack
          have isRest : back = middle ++ node :: after := isRest
          subst isNew isRest
          rw [backlinks node (by simp), list.prev (front ++ middle) node after (by simp)]
          cases middle with
          | nil => simp
          | cons second middle =>
              have absent : node ∉ (front ++ second :: middle) ++ after :=
                absent_of_split nodup (by simp)
              have apart : (second :: middle ++ node :: after).head? ≠ some node := by
                rintro ⟨⟩
                simp at absent
              rw [if_neg apart]
              simp

/-- A new node is put behind the last one. -/
theorem Doubly.concat {new : Ref} (list : Doubly next prev first nodes)
    (links : ∀ node ∈ nodes, nextAfter node =
      if nodes.getLast? = some node then some new else next node)
    (newNext : nextAfter new = none)
    (backlinks : ∀ node ∈ nodes, prevAfter node = prev node)
    (newPrev : prevAfter new = nodes.getLast?) :
    Doubly nextAfter prevAfter (nodes ++ [new]).head? (nodes ++ [new]) := by
  rw [← List.append_nil nodes] at list
  apply list.insert
  · simpa using links
  · exact newNext
  · simpa using backlinks
  · exact newPrev

/-- A node is taken out from between `front` and `back`. -/
theorem Doubly.remove (list : Doubly next prev first (front ++ node :: back))
    (links : ∀ other ∈ front ++ back, nextAfter other =
      if front.getLast? = some other then back.head? else next other)
    (backlinks : ∀ other ∈ front ++ back, prevAfter other =
      if back.head? = some other then front.getLast? else prev other) :
    Doubly nextAfter prevAfter (front ++ back).head? (front ++ back) := by
  have nodup := list.nodup
  constructor
  case first => rfl
  case next =>
    intro before other after split
    rcases append_eq_append_cons split with ⟨middle, rfl, rfl⟩ | ⟨middle, rfl, rfl⟩
    · rw [links other (by simp)]
      have link := list.next before other (middle ++ node :: back) (by simp)
      cases middle with
      | nil => simp
      | cons head middle =>
          have absent : other ∉ before ++ (head :: middle ++ node :: back) :=
            absent_of_split nodup (by simp)
          have apart : (head :: middle).getLast? ≠ some other :=
            getLast?_ne_some fun member =>
              absent (List.mem_append_right _ (List.mem_append_left _ member))
          simp [apart, link]
    · rw [links other (by simp), list.next (front ++ node :: middle) other after (by simp)]
      have absent : other ∉ (front ++ node :: middle) ++ after := absent_of_split nodup (by simp)
      have apart : front.getLast? ≠ some other :=
        getLast?_ne_some fun member =>
          absent (List.mem_append_left _ (List.mem_append_left _ member))
      simp [apart]
  case prev =>
    intro before other after split
    rcases append_eq_append_cons split with ⟨middle, rfl, rfl⟩ | ⟨middle, rfl, rfl⟩
    · rw [backlinks other (by simp), list.prev before other (middle ++ node :: back) (by simp)]
      have absent : other ∉ before ++ (middle ++ node :: back) := absent_of_split nodup (by simp)
      have apart : back.head? ≠ some other :=
        head?_ne_some fun member =>
          absent (List.mem_append_right _ (List.mem_append_right _ (List.mem_cons_of_mem _ member)))
      simp [apart]
    · rw [backlinks other (by simp)]
      have link := list.prev (front ++ node :: middle) other after (by simp)
      cases middle with
      | nil => simp
      | cons head middle =>
          have absent : other ∉ (front ++ node :: head :: middle) ++ after :=
            absent_of_split nodup (by simp)
          have apart : (head :: middle ++ other :: after).head? ≠ some other := by
            rintro ⟨⟩
            simp at absent
          rw [if_neg apart, link]
          simp

end Shape

end Jrxtx.Heap
