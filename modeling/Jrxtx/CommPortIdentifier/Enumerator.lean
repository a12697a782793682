import Jrxtx.CommPortIdentifier.Acyclic

/-!
# Enumerating the registry

A `CommPortEnumerator` has one field: the identifier it has returned last, which is `null`
before the first one and again after the last one.  It is compared with an enumeration of a
list, which knows the elements that are left.
-/

namespace Jrxtx.Registry

open Jrxtx.Heap

/-- A call of a client. -/
inductive EnumeratorCall where
  | nextElement
  | hasMoreElements
  deriving DecidableEq, Repr

/-- What a call returns; the element `none` is `null`. -/
inductive EnumeratorResult where
  | element (ident : Option IdentRef)
  | more (more : Bool)
  deriving DecidableEq, Repr

/-! ## An enumeration of a list -/

/-- The elements that are left after a call. -/
def Enumeration.after : List IdentRef → EnumeratorCall → List IdentRef
  | left, .nextElement => left.tail
  | left, .hasMoreElements => left

def Enumeration.result : List IdentRef → EnumeratorCall → EnumeratorResult
  | left, .nextElement => .element left.head?
  | left, .hasMoreElements => .more !left.isEmpty

/-- The results of a sequence of calls: each element is returned once, in order, and there
are more as long as one is left. -/
def Enumeration.results : List IdentRef → List EnumeratorCall → List EnumeratorResult
  | _, [] => []
  | left, call :: calls =>
      Enumeration.result left call :: Enumeration.results (Enumeration.after left call) calls

/-- The element that a call has returned. -/
def EnumeratorResult.ident? : EnumeratorResult → Option IdentRef
  | .element ident => ident
  | .more _ => none

/-- The elements returned are the first ones of the list, one for each `nextElement()`. -/
theorem Enumeration.returned_eq (left : List IdentRef) (calls : List EnumeratorCall) :
    (Enumeration.results left calls).filterMap EnumeratorResult.ident? =
      left.take (calls.count .nextElement) := by
  induction calls generalizing left with
  | nil => simp [results]
  | cons call calls ih =>
      rw [results, List.filterMap_cons, ih]
      cases call with
      | hasMoreElements => simp [result, EnumeratorResult.ident?, after]
      | nextElement =>
          rw [List.count_cons_self]
          cases left <;> simp [result, EnumeratorResult.ident?, after]

/-! ## The enumerator -/

/-- The field `index` after a call. -/
def enumeratorAfter (self : Registry) (index : Option IdentRef) :
    EnumeratorCall → Option IdentRef
  | .nextElement => self.nextElement index
  | .hasMoreElements => index

/-- `nextElement()` returns the new value of the field. -/
def enumeratorResult (self : Registry) (index : Option IdentRef) :
    EnumeratorCall → EnumeratorResult
  | .nextElement => .element (self.nextElement index)
  | .hasMoreElements => .more (self.hasMoreElements index)

/-- The results of a sequence of calls, while the registry stays as it is. -/
def enumeratorResults (self : Registry) :
    Option IdentRef → List EnumeratorCall → List EnumeratorResult
  | _, [] => []
  | index, call :: calls =>
      self.enumeratorResult index call ::
        self.enumeratorResults (self.enumeratorAfter index call) calls

/-- The results of the calls, and of a `hasMoreElements()` after them, are those of an
enumeration of the list. -/
def Enumerates (self : Registry) (nodes : List IdentRef) (calls : List EnumeratorCall) : Prop :=
  self.enumeratorResults none (calls ++ [.hasMoreElements]) =
    Enumeration.results nodes (calls ++ [.hasMoreElements])

/-! ## What the field stands for -/

section Enumerator

variable {self : Registry} {nodes left : List IdentRef} {index : Option IdentRef}
  {calls : List EnumeratorCall}

/-- The elements that are `left` are those behind `index`. -/
def Behind (self : Registry) (index : Option IdentRef) (left : List IdentRef) : Prop :=
  Chain self.next (self.nextElement index) left

theorem Lists.behind (lists : self.Lists nodes) : self.Behind none nodes :=
  lists.chain

theorem Behind.nextElement_eq (behind : self.Behind index left) :
    self.nextElement index = left.head? :=
  behind.first_eq

theorem hasMoreElements_eq (self : Registry) (index : Option IdentRef) :
    self.hasMoreElements index = (self.nextElement index).isSome := by
  cases index <;> rfl

/-- As long as an element is left, or there is none at all, both return the same. -/
theorem Behind.result_eq (behind : self.Behind index left) (call : EnumeratorCall) :
    self.enumeratorResult index call = Enumeration.result left call := by
  cases call with
  | nextElement => rw [enumeratorResult, behind.nextElement_eq, Enumeration.result]
  | hasMoreElements =>
      rw [enumeratorResult, hasMoreElements_eq, behind.nextElement_eq, Enumeration.result]
      cases left <;> rfl

theorem Behind.next {element : IdentRef} (behind : self.Behind index (element :: left)) :
    self.Behind (self.nextElement index) left := by
  rw [behind.1]
  exact behind.2

/-- An empty list stays exhausted. -/
theorem Behind.results_of_empty (behind : self.Behind none []) (calls : List EnumeratorCall) :
    self.enumeratorResults none calls = Enumeration.results [] calls := by
  induction calls with
  | nil => rfl
  | cons call calls ih =>
      have same : self.enumeratorAfter none call = none := by
        cases call with
        | nextElement => exact behind.nextElement_eq
        | hasMoreElements => rfl
      have stays : Enumeration.after [] call = [] := by cases call <;> rfl
      rw [enumeratorResults, Enumeration.results, behind.result_eq, same, stays, ih]

/-- With its field at `null` again, the enumerator begins anew with whatever is called. -/
theorem restarts_of_ne_nil (lists : self.Lists nodes) (nonempty : nodes ≠ [])
    (someCall : calls ≠ []) :
    self.enumeratorResults none calls ≠ Enumeration.results [] calls := by
  obtain ⟨element, rest, rfl⟩ := List.exists_cons_of_ne_nil nonempty
  obtain ⟨call, later, rfl⟩ := List.exists_cons_of_ne_nil someCall
  rw [enumeratorResults, Enumeration.results, lists.behind.result_eq]
  cases call <;> simp [Enumeration.result]

/-- While the elements `left` of a list are left, the further calls agree if and only if no
more of them are for an element than there are left. -/
theorem Behind.results_iff (lists : self.Lists nodes) (nonempty : nodes ≠ [])
    (behind : self.Behind index left) (calls : List EnumeratorCall) :
    self.enumeratorResults index (calls ++ [.hasMoreElements]) =
        Enumeration.results left (calls ++ [.hasMoreElements]) ↔
      calls.count .nextElement ≤ left.length := by
  induction calls generalizing index left with
  | nil => simp [enumeratorResults, Enumeration.results, behind.result_eq]
  | cons call calls ih =>
      rw [List.cons_append, enumeratorResults, Enumeration.results, behind.result_eq,
        List.cons_inj_right]
      cases call with
      | hasMoreElements =>
          rw [List.count_cons_of_ne (by decide)]
          exact ih behind
      | nextElement =>
          rw [List.count_cons_self]
          cases left with
          | nil =>
              -- `null` is returned, and the next pass begins
              refine iff_of_false ?_ (by simp)
              rw [enumeratorAfter, behind.nextElement_eq, Enumeration.after]
              exact restarts_of_ne_nil lists nonempty (by simp)
          | cons element left =>
              rw [List.length_cons, Nat.add_le_add_iff_right]
              exact ih behind.next

/-- An enumerator returns each element of its list once and stays exhausted if and only if
`nextElement()` is not called past the end, or the list is empty. -/
theorem enumerates_iff (lists : self.Lists nodes) (calls : List EnumeratorCall) :
    self.Enumerates nodes calls ↔ nodes = [] ∨ calls.count .nextElement ≤ nodes.length := by
  by_cases empty : nodes = []
  · subst empty
    exact iff_of_true (lists.behind.results_of_empty _) (.inl rfl)
  · rw [Enumerates, lists.behind.results_iff lists empty, or_iff_right empty]

end Enumerator

/-- A registry with one port. -/
def onePortListed : Registry where
  heap := fun _ => .new "/dev/ttyS0" none 1 0
  allocated := 1
  commPortIndex := some 0

theorem onePortListed_lists : onePortListed.Lists [0] where
  chain := ⟨rfl, rfl⟩
  created := by simp [onePortListed]

theorem enumerates_iff_onePort :
    onePortListed.Enumerates [0] [.hasMoreElements, .nextElement, .hasMoreElements] :=
  (enumerates_iff onePortListed_lists _).mpr (.inr (by decide))

/-- Past the end `null` is returned, and then the only element for a second time. -/
theorem enumerator_starts_second_pass :
    onePortListed.Lists [0] ∧
      onePortListed.enumeratorResults none
          [.nextElement, .nextElement, .hasMoreElements, .nextElement] =
        [.element (some 0), .element none, .more true, .element (some 0)] ∧
      ¬onePortListed.Enumerates [0] [.nextElement, .nextElement] :=
  ⟨⟨⟨rfl, rfl⟩, by simp [onePortListed]⟩, by decide, by unfold Enumerates; decide⟩

end Jrxtx.Registry
