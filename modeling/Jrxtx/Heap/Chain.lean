import Mathlib.Data.Finset.Card
import Mathlib.Data.List.Nodup

/-!
# Singly linked chains

A heap is seen through its `next` function.  `Chain next first nodes` says that
following `next` from `first` visits exactly `nodes` and then ends, so a chain
is finite and acyclic by definition.  The walks below take fuel; along a chain
they need no more of it than the chain has nodes.
-/

namespace Jrxtx.Heap

universe u

variable {Ref : Type u}

/-- Following `next` from `first` visits exactly `nodes`, in order. -/
def Chain (next : Ref → Option Ref) : Option Ref → List Ref → Prop
  | first, [] => first = none
  | first, node :: rest => first = some node ∧ Chain next (next node) rest

section Shape

variable {next after : Ref → Option Ref} {first : Option Ref} {nodes : List Ref}

@[simp] theorem chain_nil : Chain next first [] ↔ first = none := Iff.rfl

@[simp] theorem chain_cons {node : Ref} {rest : List Ref} :
    Chain next first (node :: rest) ↔ first = some node ∧ Chain next (next node) rest :=
  Iff.rfl

/-- The start of a chain is its first node. -/
theorem Chain.first_eq (chain : Chain next first nodes) : first = nodes.head? := by
  cases nodes with
  | nil => simpa using chain
  | cons node rest => simpa using chain.1

/-- A heap and a start determine the nodes. -/
theorem Chain.unique {others : List Ref} (chain : Chain next first nodes)
    (other : Chain next first others) : nodes = others := by
  induction nodes generalizing first others with
  | nil =>
      cases others with
      | nil => rfl
      | cons node rest => simp [chain_nil.mp chain] at other
  | cons node rest ih =>
      obtain ⟨rfl, tail⟩ := chain
      cases others with
      | nil => simp at other
      | cons otherNode otherRest =>
          obtain ⟨same, otherTail⟩ := other
          obtain rfl := Option.some.inj same
          rw [ih tail otherTail]

/-- What follows an inner node is a chain of its own. -/
theorem Chain.tail {front back : List Ref} {node : Ref}
    (chain : Chain next first (front ++ node :: back)) : Chain next (next node) back := by
  induction front generalizing first with
  | nil => exact chain.2
  | cons head front ih => exact ih chain.2

/-- A chain visits no node twice. -/
theorem Chain.nodup (chain : Chain next first nodes) : nodes.Nodup := by
  induction nodes generalizing first with
  | nil => exact List.nodup_nil
  | cons node rest ih =>
      refine List.nodup_cons.mpr ⟨?_, ih chain.2⟩
      intro again
      obtain ⟨front, back, rfl⟩ := List.append_of_mem again
      -- both occurrences of `node` are followed by the same nodes
      have same := chain.2.unique chain.2.tail
      have lengths := congrArg List.length same
      simp at lengths
      omega

/-- A chain depends only on the links of its own nodes. -/
theorem Chain.congr (chain : Chain next first nodes)
    (agree : ∀ node ∈ nodes, after node = next node) : Chain after first nodes := by
  induction nodes generalizing first with
  | nil => exact chain
  | cons node rest ih =>
      refine ⟨chain.1, ?_⟩
      rw [agree node (by simp)]
      exact ih chain.2 fun other member => agree other (by simp [member])

/-- Keep the front of a chain up to `node` and give `node` a new back. -/
theorem Chain.relink {front back newBack : List Ref} {node : Ref}
    (chain : Chain next first (front ++ node :: back))
    (agree : ∀ other ∈ front, after other = next other)
    (newTail : Chain after (after node) newBack) :
    Chain after first (front ++ node :: newBack) := by
  induction front generalizing first with
  | nil => exact ⟨chain.1, newTail⟩
  | cons head front ih =>
      refine ⟨chain.1, ?_⟩
      rw [agree head (by simp)]
      exact ih chain.2 fun other member => agree other (by simp [member])

/-- Following `next` from `first` visits `nodes` and arrives at `stop`. -/
def Segment (next : Ref → Option Ref) : Option Ref → List Ref → Option Ref → Prop
  | first, [], stop => first = stop
  | first, node :: rest, stop => first = some node ∧ Segment next (next node) rest stop

theorem segment_append {front back : List Ref} {stop : Option Ref} :
    Segment next first (front ++ back) stop ↔
      ∃ middle, Segment next first front middle ∧ Segment next middle back stop := by
  induction front generalizing first with
  | nil =>
      constructor
      · intro segment
        exact ⟨first, rfl, segment⟩
      · rintro ⟨middle, rfl, segment⟩
        exact segment
  | cons node front ih =>
      constructor
      · rintro ⟨starts, rest⟩
        obtain ⟨middle, before, later⟩ := ih.mp rest
        exact ⟨middle, ⟨starts, before⟩, later⟩
      · rintro ⟨middle, ⟨starts, before⟩, later⟩
        exact ⟨starts, ih.mpr ⟨middle, before, later⟩⟩

/-- A segment depends only on the links of its own nodes. -/
theorem Segment.congr {stop : Option Ref} (segment : Segment next first nodes stop)
    (agree : ∀ node ∈ nodes, after node = next node) : Segment after first nodes stop := by
  induction nodes generalizing first with
  | nil => exact segment
  | cons node rest ih =>
      refine ⟨segment.1, ?_⟩
      rw [agree node (by simp)]
      exact ih segment.2 fun other member => agree other (by simp [member])

/-- A segment that arrives at a chain prolongs it. -/
theorem Segment.append_chain {back : List Ref} {stop : Option Ref}
    (segment : Segment next first nodes stop) (chain : Chain next stop back) :
    Chain next first (nodes ++ back) := by
  induction nodes generalizing first with
  | nil =>
      obtain rfl : first = stop := segment
      exact chain
  | cons node rest ih => exact ⟨segment.1, ih segment.2⟩

/-- A node that links to itself starts no chain. -/
theorem not_chain_of_self_loop {node : Ref} (loop : next node = some node)
    (nodes : List Ref) : ¬Chain next (some node) nodes := by
  induction nodes with
  | nil => simp
  | cons head rest ih =>
      rintro ⟨same, tail⟩
      obtain rfl := Option.some.inj same
      rw [loop] at tail
      exact ih tail

end Shape

/-! ## Walks -/

/-- The first node that satisfies `stop`, or `none` at the end of the chain.
The outer `none` means that the fuel ran out. -/
def scan (next : Ref → Option Ref) (stop : Ref → Bool) :
    Nat → Option Ref → Option (Option Ref)
  | _, none => some none
  | 0, some _ => none
  | fuel + 1, some node =>
      if stop node then some (some node) else scan next stop fuel (next node)

/-- The last node of a chain that starts at `node`. -/
def lastFrom (next : Ref → Option Ref) : Nat → Ref → Option Ref
  | 0, node =>
      match next node with
      | none => some node
      | some _ => none
  | fuel + 1, node =>
      match next node with
      | none => some node
      | some following => lastFrom next fuel following

section Walks

variable {next : Ref → Option Ref} {first : Option Ref} {nodes : List Ref} {fuel : Nat}

/-- A scan along a chain is a search in the list of its nodes. -/
theorem Chain.scan_eq (chain : Chain next first nodes) (stop : Ref → Bool)
    (enough : nodes.length ≤ fuel) : scan next stop fuel first = some (nodes.find? stop) := by
  induction nodes generalizing first fuel with
  | nil =>
      rw [chain_nil.mp chain]
      cases fuel <;> rfl
  | cons node rest ih =>
      obtain ⟨rfl, tail⟩ := chain
      cases fuel with
      | zero => simp at enough
      | succ fuel =>
          by_cases hit : stop node = true
          · simp [scan, hit]
          · simp only [scan, hit, Bool.false_eq_true, if_false, List.find?_cons]
            exact ih tail (by simpa using enough)

/-- A scan that arrives at the end has followed a chain. -/
theorem exists_chain_of_scan {stop : Ref → Bool} (missed : scan next stop fuel first = some none) :
    ∃ nodes, Chain next first nodes := by
  induction fuel generalizing first with
  | zero =>
      cases first with
      | none => exact ⟨[], rfl⟩
      | some node => simp [scan] at missed
  | succ fuel ih =>
      cases first with
      | none => exact ⟨[], rfl⟩
      | some node =>
          rw [scan] at missed
          split at missed
          next => simp at missed
          next =>
            obtain ⟨nodes, chain⟩ := ih missed
            exact ⟨node :: nodes, rfl, chain⟩

/-- The set contains the first node, and with every node the one that it links to. -/
structure Closed (next : Ref → Option Ref) (first : Option Ref) (inside : Ref → Prop) : Prop where
  first : ∀ node, first = some node → inside node
  next : ∀ node, inside node → ∀ following, next node = some following → inside following

/-- A scan finds a node of every set that a walk does not leave. -/
theorem Closed.scan {stop : Ref → Bool} {inside : Ref → Prop} {node : Ref}
    (closed : Closed next first inside) (found : scan next stop fuel first = some (some node)) :
    inside node ∧ stop node = true := by
  induction fuel generalizing first with
  | zero => cases first <;> simp [Heap.scan] at found
  | succ fuel ih =>
      cases first with
      | none => simp [Heap.scan] at found
      | some start =>
          rw [Heap.scan] at found
          split at found
          next hit =>
            obtain rfl := Option.some.inj (Option.some.inj found)
            exact ⟨closed.first start rfl, hit⟩
          next => exact ih ⟨closed.next start (closed.first start rfl), closed.next⟩ found

/-- A chain stays in every set that a walk does not leave. -/
theorem Chain.inside {inside : Ref → Prop} (chain : Chain next first nodes)
    (closed : Closed next first inside) : ∀ node ∈ nodes, inside node := by
  induction nodes generalizing first with
  | nil => simp
  | cons node rest ih =>
      have starts := closed.first node chain.1
      rintro other (_ | ⟨_, later⟩)
      · exact starts
      · exact ih chain.2 ⟨closed.next node starts, closed.next⟩ other later

/-- The nodes of a chain are such a set. -/
theorem Chain.closed (chain : Chain next first nodes) : Closed next first (· ∈ nodes) where
  first := by
    rintro node rfl
    exact List.mem_of_head? chain.first_eq.symm
  next := by
    intro node member following linked
    obtain ⟨front, back, rfl⟩ := List.append_of_mem member
    have isNext := chain.tail.first_eq
    rw [linked] at isNext
    exact List.mem_append_right _ (List.mem_cons_of_mem _ (List.mem_of_head? isNext.symm))

theorem lastFrom_of_end {node : Ref} (ended : next node = none) :
    lastFrom next fuel node = some node := by
  cases fuel <;> simp only [lastFrom, ended]

theorem lastFrom_of_link {node following : Ref} (linked : next node = some following) :
    lastFrom next (fuel + 1) node = lastFrom next fuel following := by
  simp only [lastFrom, linked]

/-- More fuel does not change the result of a walk. -/
theorem lastFrom_mono {node last : Ref} {more : Nat}
    (ends : lastFrom next fuel node = some last) (le : fuel ≤ more) :
    lastFrom next more node = some last := by
  induction fuel generalizing node more with
  | zero =>
      cases linked : next node with
      | none => simpa only [lastFrom_of_end linked] using ends
      | some following => simp [lastFrom, linked] at ends
  | succ fuel ih =>
      cases linked : next node with
      | none => simpa only [lastFrom_of_end linked] using ends
      | some following =>
          cases more with
          | zero => simp at le
          | succ more =>
              rw [lastFrom_of_link linked] at ends ⊢
              exact ih ends (Nat.le_of_succ_le_succ le)

theorem Chain.lastFrom_eq {node last : Ref} {front : List Ref}
    (chain : Chain next (some node) (front ++ [last])) (enough : front.length ≤ fuel) :
    lastFrom next fuel node = some last := by
  induction front generalizing node fuel with
  | nil =>
      obtain ⟨same, ended⟩ := chain
      obtain rfl := Option.some.inj same
      exact lastFrom_of_end (chain_nil.mp ended)
  | cons head front ih =>
      obtain ⟨same, rest⟩ := chain
      obtain rfl := Option.some.inj same
      cases linked : next node with
      | none =>
          rw [linked] at rest
          cases front with
          | nil => exact absurd rest.1 (by simp)
          | cons other front => exact absurd rest.1 (by simp)
      | some following =>
          rw [linked] at rest
          cases fuel with
          | zero => simp at enough
          | succ fuel =>
              rw [lastFrom_of_link linked]
              exact ih rest (by simpa using enough)

/-- On a node that links to itself a scan that misses it never ends. -/
theorem scan_self_loop {node : Ref} {stop : Ref → Bool} (loop : next node = some node)
    (miss : stop node = false) (fuel : Nat) : scan next stop fuel (some node) = none := by
  induction fuel with
  | zero => rfl
  | succ fuel ih => rw [scan, miss, loop]; exact ih

end Walks

/-- Distinct numbers below a bound are no more than the bound. -/
theorem length_le_of_nodup_of_lt {nodes : List Nat} {bound : Nat} (nodup : nodes.Nodup)
    (below : ∀ node ∈ nodes, node < bound) : nodes.length ≤ bound := by
  have subset : nodes.toFinset ⊆ Finset.range bound := by
    intro node member
    exact Finset.mem_range.mpr (below node (List.mem_toFinset.mp member))
  have counted := Finset.card_le_card subset
  rwa [List.toFinset_card_of_nodup nodup, Finset.card_range] at counted

end Jrxtx.Heap
