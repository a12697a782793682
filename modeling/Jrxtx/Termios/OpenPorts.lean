import Jrxtx.Termios.PortList
import Jrxtx.Transition.System

/-!
# The open ports over whole runs

The list holds the open ports in ascending order of their fds, so the first gap is
the smallest free fd, and `add_port` finds the same place again.  Only the place
before the first node is missing: it is needed when other ports are open and fd 1 is
free, and `add_port` then writes through the null pointer `index->prev`.
-/

namespace Jrxtx.Termios

open Jrxtx.Heap Jrxtx.Transition

namespace Ports

variable (ports : Ports)

/-- Where `next` leads; nowhere from a node that is not allocated. -/
def next (p : PortRef) : Option PortRef :=
  (ports.memory p).bind TermiosList.next

/-- Where `prev` leads; nowhere from a node that is not allocated. -/
def prev (p : PortRef) : Option PortRef :=
  (ports.memory p).bind TermiosList.prev

/-- The fd of a node. -/
def fdOf (p : PortRef) : Int :=
  ((ports.memory p).map TermiosList.fd).getD 0

/-- `!strcmp(index->filename, filename)` -/
def hasName (filename : String) (p : PortRef) : Bool :=
  (ports.memory p).any fun node => node.filename = filename

/-- The list consists of `nodes`, linked in both directions, with positive and
strictly ascending fds. -/
structure Shape (nodes : List PortRef) : Prop where
  list : Doubly ports.next ports.prev ports.firstTl nodes
  allocated : ∀ p ∈ nodes, (ports.memory p).isSome = true
  positive : ∀ p ∈ nodes, 0 < ports.fdOf p
  ascending : nodes.Pairwise fun p q => ports.fdOf p < ports.fdOf q
  fresh : ∀ p, (ports.memory p).isSome = true → p < ports.allocated

/-- `fd` is the smallest positive number that is no fd of `nodes`. -/
structure SmallestFree (nodes : List PortRef) (fd : Int) : Prop where
  positive : 0 < fd
  free : ∀ p ∈ nodes, ports.fdOf p ≠ fd
  smallest : ∀ smaller, 0 < smaller → smaller < fd → ∃ p ∈ nodes, ports.fdOf p = smaller

section Walks

variable {ports} {p q : PortRef} {node : TermiosList} {filename : String} {fd : Int}
  {nodes front back : List PortRef} {fuel : Nat}

theorem fdOf_eq (found : ports.memory p = some node) : ports.fdOf p = node.fd := by
  simp [fdOf, found]

theorem next_eq (found : ports.memory p = some node) : ports.next p = node.next := by
  simp [next, found]

theorem prev_eq (found : ports.memory p = some node) : ports.prev p = node.prev := by
  simp [prev, found]

theorem hasName_eq (found : ports.memory p = some node) :
    ports.hasName filename p = decide (node.filename = filename) := by
  simp [hasName, found]

theorem Shape.length_le (shape : ports.Shape nodes) : nodes.length ≤ ports.allocated := by
  have inRange : nodes ⊆ List.range ports.allocated := by
    intro p member
    exact List.mem_range.mpr (shape.fresh p (shape.allocated p member))
  simpa using (shape.list.nodup.subperm inRange).length_le

/-- Nodes that can be walked along: allocated, each leading to the next. -/
structure Walk (ports : Ports) (p : PortRef) (rest : List PortRef) : Prop where
  chain : Chain ports.next (some p) (p :: rest)
  allocated : ∀ q ∈ p :: rest, (ports.memory q).isSome = true

theorem Shape.walk (shape : ports.Shape (p :: back)) : ports.Walk p back where
  chain := by
    have first : ports.firstTl = some p := shape.list.first
    exact first ▸ shape.list.chain
  allocated := shape.allocated

/-- The first node of a walk, and where it leads. -/
theorem Walk.head (walk : ports.Walk p back) :
    ∃ node, ports.memory p = some node ∧ node.next = back.head? := by
  obtain ⟨node, found⟩ := Option.isSome_iff_exists.mp (walk.allocated p (by simp))
  refine ⟨node, found, ?_⟩
  rw [← next_eq found]
  exact walk.chain.2.first_eq

theorem Walk.tail (walk : ports.Walk p (q :: back)) : ports.Walk q back where
  chain := by
    have next : ports.next p = some q := walk.chain.2.first_eq
    exact next ▸ walk.chain.2
  allocated := by
    intro other member
    exact walk.allocated other (List.mem_cons_of_mem p member)

/-- `port_opened` returns the fd of the first node with the name. -/
theorem portOpenedFrom_eq (walk : ports.Walk p back) (enough : back.length < fuel) :
    ports.portOpenedFrom filename fuel p =
      some ((((p :: back).find? (ports.hasName filename)).map ports.fdOf).getD 0) := by
  induction fuel generalizing p back with
  | zero => simp at enough
  | succ fuel ih =>
      obtain ⟨node, found, next⟩ := walk.head
      by_cases named : node.filename = filename
      · simp [portOpenedFrom, found, named, hasName_eq found, fdOf_eq found]
      · rw [List.find?_cons_of_neg (by simp [hasName_eq found, named])]
        simp only [portOpenedFrom, found, Option.bind_eq_bind, Option.bind_some, if_neg named, next]
        cases back with
        | nil => rfl
        | cons second back => exact ih walk.tail (by simpa using enough)

/-- `find_port` finds the first node with the fd. -/
theorem findPortFrom_eq (walk : ports.Walk p back) (nonzero : ∀ q ∈ p :: back, ports.fdOf q ≠ 0)
    (enough : back.length < fuel) :
    ports.findPortFrom fd fuel p = some ((p :: back).find? fun q => ports.fdOf q = fd) := by
  induction fuel generalizing p back with
  | zero => simp at enough
  | succ fuel ih =>
      obtain ⟨node, found, next⟩ := walk.head
      have isFd : ports.fdOf p = node.fd := fdOf_eq found
      have positive : node.fd ≠ 0 := isFd ▸ nonzero p (by simp)
      by_cases same : node.fd = fd
      · subst same
        simp [findPortFrom, found, positive, isFd]
      · rw [List.find?_cons_of_neg (by simp [isFd, same])]
        simp only [findPortFrom, found, Option.bind_eq_bind, Option.bind_some, if_neg positive,
          if_neg same, next]
        cases back with
        | nil => rfl
        | cons second back =>
            apply ih walk.tail ?_ (by simpa using enough)
            intro q member
            exact nonzero q (List.mem_cons_of_mem p member)

/-- The loop of `get_free_fd` stops at the first gap behind `p`. -/
theorem freeFdFrom_spec (walk : ports.Walk p back)
    (ascending : (p :: back).Pairwise fun q r => ports.fdOf q < ports.fdOf r)
    (enough : back.length < fuel) :
    ∃ free, ports.freeFdFrom fuel p (ports.fdOf p) = some free ∧ ports.fdOf p < free ∧
      (∀ q ∈ p :: back, ports.fdOf q ≠ free) ∧
      ∀ smaller, ports.fdOf p ≤ smaller → smaller < free →
        ∃ q ∈ p :: back, ports.fdOf q = smaller := by
  induction fuel generalizing p back with
  | zero => simp at enough
  | succ fuel ih =>
      obtain ⟨node, found, next⟩ := walk.head
      have isFd : ports.fdOf p = node.fd := fdOf_eq found
      simp only [freeFdFrom, found, Option.bind_eq_bind, Option.bind_some, next]
      cases back with
      | nil =>
          refine ⟨node.fd + 1, rfl, by omega, ?_, ?_⟩
          · intro q member
            obtain rfl := List.mem_singleton.mp member
            omega
          · intro smaller atLeast less
            exact ⟨p, by simp, by omega⟩
      | cons second back =>
          obtain ⟨second', foundSecond, -⟩ := walk.tail.head
          have isSecond : ports.fdOf second = second'.fd := fdOf_eq foundSecond
          obtain ⟨beyond, later⟩ := List.pairwise_cons.mp ascending
          have greater := beyond second List.mem_cons_self
          simp only [List.head?_cons, foundSecond, Option.bind_some]
          by_cases gap : second'.fd = ports.fdOf p + 1
          · have rest := ih walk.tail later (by simpa using enough)
            obtain ⟨free, result, above, unused, below⟩ := rest
            rw [if_neg (not_not.mpr gap), ← isSecond]
            refine ⟨free, result, by omega, ?_, ?_⟩
            · intro q member
              rcases List.mem_cons.mp member with rfl | member
              · omega
              · exact unused q member
            · intro smaller atLeast less
              by_cases atFirst : smaller = ports.fdOf p
              · exact ⟨p, by simp, atFirst.symm⟩
              · obtain ⟨q, member, same⟩ := below smaller (by omega) less
                exact ⟨q, List.mem_cons_of_mem p member, same⟩
          · rw [if_pos gap]
            refine ⟨ports.fdOf p + 1, rfl, by omega, ?_, ?_⟩
            · intro q member
              rcases List.mem_cons.mp member with rfl | member
              · omega
              · rcases List.mem_cons.mp member with rfl | others
                · omega
                · have after := List.rel_of_pairwise_cons later others
                  omega
            · intro smaller atLeast less
              exact ⟨p, by simp, by omega⟩

/-- The loop of `add_port` stops at the first node with at least this fd, or at the
last one. -/
theorem insertionPoint_spec (fd : Int) (walk : ports.Walk p back) (enough : back.length < fuel) :
    ∃ front q behind, p :: back = front ++ q :: behind ∧
      ports.insertionPoint fd fuel p = some q ∧ (∀ r ∈ front, ports.fdOf r < fd) ∧
      (fd ≤ ports.fdOf q ∨ behind = []) := by
  induction fuel generalizing p back with
  | zero => simp at enough
  | succ fuel ih =>
      obtain ⟨node, found, next⟩ := walk.head
      have isFd : ports.fdOf p = node.fd := fdOf_eq found
      simp only [insertionPoint, found, Option.bind_eq_bind, Option.bind_some, next]
      by_cases less : node.fd < fd
      · rw [if_pos less]
        cases back with
        | nil => exact ⟨[], p, [], rfl, rfl, by simp, .inr rfl⟩
        | cons second back =>
            have rest := ih walk.tail (by simpa using enough)
            obtain ⟨front, q, behind, split, result, smaller, stops⟩ := rest
            refine ⟨p :: front, q, behind, by simp [split], result, ?_, stops⟩
            intro r member
            rcases List.mem_cons.mp member with rfl | member
            · omega
            · exact smaller r member
      · rw [if_neg less]
        exact ⟨[], p, back, rfl, rfl, by simp, .inl (by omega)⟩

/-- `port_opened` -/
theorem Shape.portOpened (shape : ports.Shape nodes) (enough : ports.allocated ≤ fuel) :
    ports.portOpened fuel filename =
      some (((nodes.find? (ports.hasName filename)).map ports.fdOf).getD 0) := by
  have first := shape.list.first
  cases nodes with
  | nil => simp [Ports.portOpened, first]
  | cons p back =>
      simp only [Ports.portOpened, first, List.head?_cons]
      exact portOpenedFrom_eq shape.walk (shape.length_le.trans enough)

/-- `find_port` finds the node with the fd, if there is one. -/
theorem Shape.findPort (shape : ports.Shape nodes) (enough : ports.allocated ≤ fuel)
    (fd : Int) :
    ports.findPort fuel fd = some (nodes.find? fun p => ports.fdOf p = fd) := by
  by_cases positive : fd ≤ 0
  · rw [Ports.findPort, if_pos positive, eq_comm, Option.some.injEq, List.find?_eq_none]
    intro p member
    have greater := shape.positive p member
    simp only [decide_eq_true_eq]
    omega
  · have first := shape.list.first
    cases nodes with
    | nil => simp [Ports.findPort, positive, first]
    | cons p back =>
        simp only [Ports.findPort, if_neg positive, first, List.head?_cons]
        apply findPortFrom_eq shape.walk ?_ (shape.length_le.trans enough)
        intro q member
        exact (shape.positive q member).ne'

/-- `get_free_fd` returns the smallest free fd. -/
theorem Shape.getFreeFd (shape : ports.Shape nodes) (enough : ports.allocated ≤ fuel) :
    ∃ fd, ports.getFreeFd fuel = some fd ∧ ports.SmallestFree nodes fd := by
  have first := shape.list.first
  cases nodes with
  | nil =>
      refine ⟨1, by simp [Ports.getFreeFd, first], by omega, by simp, ?_⟩
      intro smaller positive less
      omega
  | cons p back =>
      obtain ⟨node, found, -⟩ := shape.walk.head
      have isFd : ports.fdOf p = node.fd := fdOf_eq found
      have positive := shape.positive p (by simp)
      have beyond := (List.pairwise_cons.mp shape.ascending).1
      simp only [Ports.getFreeFd, first, List.head?_cons, found, Option.bind_eq_bind,
        Option.bind_some]
      rw [if_neg (by omega)]
      by_cases gap : node.fd > 1
      · rw [if_pos gap]
        refine ⟨1, rfl, by omega, ?_, ?_⟩
        · intro q member
          rcases List.mem_cons.mp member with rfl | member
          · omega
          · have later := beyond q member
            omega
        · intro smaller atLeast less
          omega
      · rw [if_neg gap, ← isFd]
        obtain ⟨free, result, above, unused, below⟩ :=
          freeFdFrom_spec shape.walk shape.ascending (shape.length_le.trans enough)
        refine ⟨free, result, by omega, unused, ?_⟩
        intro smaller atLeast less
        exact below smaller (by omega) less

end Walks

/-! ## Linking and unlinking -/

section Writes

variable {ports after : Ports} {p q newp : PortRef} {node : TermiosList} {filename : String}
  {fd : Int} {nodes front back : List PortRef} {fuel : Nat}

theorem modify_of_allocated (allocated : (ports.memory p).isSome = true)
    (change : TermiosList → TermiosList) :
    ports.modify p change =
      some { ports with memory := writeAt ports.memory (some p) change } := by
  obtain ⟨node, found⟩ := Option.isSome_iff_exists.mp allocated
  simp [modify, found, writeAt_some]

/-- What linking `newp` between `front` and `back` makes of a node. -/
def spliced (newp : PortRef) (front back : List PortRef) (p : PortRef) (node : TermiosList) :
    TermiosList :=
  if p = newp then { node with next := back.head?, prev := front.getLast? }
  else
    { node with
      next := if front.getLast? = some p then some newp else node.next
      prev := if back.head? = some p then some newp else node.prev }

section Spliced

variable (memory : PortRef → Option TermiosList) {before : PortRef}

theorem spliced_alone (newp : PortRef) :
    (writeAt memory (some newp) fun node => { node with prev := none, next := none }) =
      fun p => (memory p).map (spliced newp [] [] p) := by
  funext p
  rw [writeAt_eq_map]
  congr 1
  funext node
  simp [spliced, eq_comm]

theorem spliced_between (back : List PortRef) (last : front.getLast? = some before)
    (beforeApart : before ≠ newp) (apart : q ≠ newp) :
    (writeAt (writeAt (writeAt memory (some newp) fun node =>
        { node with prev := some before, next := some q })
      (some before) fun node => { node with next := some newp })
      (some q) fun node => { node with prev := some newp }) =
      fun p => (memory p).map (spliced newp front (q :: back) p) := by
  funext r
  simp only [writeAt_eq_map, Option.map_map]
  congr 1
  funext node
  simp only [Function.comp_apply, spliced, last, List.head?_cons, Option.some.injEq,
    eq_comm (a := r)]
  by_cases isNew : newp = r
  · subst isNew
    simp [apart, beforeApart]
  · by_cases isBefore : before = r <;> by_cases isQ : q = r <;> simp [isNew, isBefore, isQ]

theorem spliced_last (front : List PortRef) (apart : q ≠ newp) :
    (writeAt (writeAt memory (some newp) fun node => { node with prev := some q, next := none })
      (some q) fun node => { node with next := some newp }) =
      fun p => (memory p).map (spliced newp (front ++ [q]) [] p) := by
  funext r
  simp only [writeAt_eq_map, Option.map_map]
  congr 1
  funext node
  by_cases isNew : newp = r
  · subst isNew
    simp [spliced, apart]
  · by_cases isQ : q = r <;> simp [spliced, isNew, Ne.symm isNew, isQ]

end Spliced

/-- The new node is linked between the smaller and the greater fds, unless it had to
become the first of several. -/
theorem Shape.link (shape : ports.Shape nodes) (free : ∀ p ∈ nodes, ports.fdOf p ≠ fd)
    (allocated : (ports.memory newp).isSome = true) (new : newp ∉ nodes)
    (enough : nodes.length ≤ fuel) :
    ∃ front back, nodes = front ++ back ∧ (∀ p ∈ front, ports.fdOf p < fd) ∧
      (∀ p ∈ back, fd < ports.fdOf p) ∧
      ports.link fuel newp fd =
        if front = [] ∧ back ≠ [] then none
        else some
          { ports with
            memory := fun p => (ports.memory p).map (spliced newp front back p)
            firstTl := (front ++ newp :: back).head? } := by
  have first := shape.list.first
  cases nodes with
  | nil =>
      refine ⟨[], [], rfl, by simp, by simp, ?_⟩
      simp [Ports.link, first, modify_of_allocated allocated, spliced_alone]
  | cons p rest =>
      obtain ⟨front, q, behind, split, point, smaller, stops⟩ :=
        insertionPoint_spec fd shape.walk enough
      have notNew : ∀ r ∈ front ++ q :: behind, r ≠ newp := by
        intro r member same
        exact new (by rw [split]; exact same ▸ member)
      have apart : q ≠ newp := notNew q (by simp)
      have inMemory : ∀ r ∈ front ++ q :: behind, (ports.memory r).isSome = true := by
        rw [← split]
        exact shape.allocated
      obtain ⟨index, found⟩ := Option.isSome_iff_exists.mp (inMemory q (by simp))
      have isFd : ports.fdOf q = index.fd := fdOf_eq found
      have unequal : index.fd ≠ fd := isFd ▸ free q (by simp [split])
      have ascending := split ▸ shape.ascending
      have atPrev : index.prev = front.getLast? := by
        rw [← prev_eq found]
        exact shape.list.prev front q behind split
      have nodup := split ▸ shape.list.nodup
      by_cases greater : index.fd > fd
      · refine ⟨front, q :: behind, split, smaller, ?_, ?_⟩
        · intro r member
          rcases List.mem_cons.mp member with rfl | member
          · omega
          · have later := (List.pairwise_cons.mp (List.pairwise_append.mp ascending).2.1).1 r member
            omega
        · cases last : front.getLast? with
          | none =>
              rw [List.getLast?_eq_none_iff] at last
              subst last
              simp [Ports.link, first, point, found, greater, modify_of_allocated allocated,
                atPrev]
          | some before =>
              have inFront := List.mem_of_getLast? last
              have beforeApart : before ≠ newp := notNew before (by simp [inFront])
              have beforeMemory := inMemory before (by simp [inFront])
              have qMemory := inMemory q (by simp)
              have notFirst : front ≠ [] := List.ne_nil_of_mem inFront
              have memory := spliced_between ports.memory behind last beforeApart apart
              have starts : (front ++ newp :: q :: behind).head? = ports.firstTl := by
                rw [first, split]
                cases front with
                | nil => exact absurd rfl notFirst
                | cons head front => rfl
              simp [Ports.link, first, point, found, greater, modify_of_allocated, allocated,
                atPrev, last, beforeMemory, notFirst, memory, starts]
      · have noBehind : behind = [] := by
          rcases stops with atLeast | noBehind
          · omega
          · exact noBehind
        subst noBehind
        refine ⟨front ++ [q], [], by simp [split], ?_, by simp, ?_⟩
        · intro r member
          rcases List.mem_append.mp member with member | member
          · exact smaller r member
          · obtain rfl := List.mem_singleton.mp member
            omega
        · have memory := spliced_last ports.memory front apart
          have starts : front.head?.getD q = p := by
            have heads := congrArg List.head? split
            cases front <;> simp_all
          simp [Ports.link, first, point, found, greater, modify_of_allocated, allocated, memory,
            starts]

/-- What a list looks like depends on its own nodes only. -/
theorem Shape.transfer (shape : ports.Shape nodes)
    (agree : ∀ p ∈ nodes, ∃ node changed, ports.memory p = some node ∧
      after.memory p = some changed ∧ changed.next = node.next ∧ changed.prev = node.prev ∧
      changed.fd = node.fd)
    (first : after.firstTl = ports.firstTl)
    (fresh : ∀ p, (after.memory p).isSome = true → p < after.allocated) :
    after.Shape nodes := by
  have sameFd : ∀ p ∈ nodes, after.fdOf p = ports.fdOf p := by
    intro p member
    obtain ⟨node, changed, found, foundAfter, -, -, same⟩ := agree p member
    rw [fdOf_eq found, fdOf_eq foundAfter, same]
  constructor
  case list =>
    rw [first]
    apply shape.list.congr
    · intro p member
      obtain ⟨node, changed, found, foundAfter, same, -, -⟩ := agree p member
      rw [next_eq found, next_eq foundAfter, same]
    · intro p member
      obtain ⟨node, changed, found, foundAfter, -, same, -⟩ := agree p member
      rw [prev_eq found, prev_eq foundAfter, same]
  case allocated =>
    intro p member
    obtain ⟨node, changed, found, foundAfter, -⟩ := agree p member
    simp [foundAfter]
  case positive =>
    intro p member
    rw [sameFd p member]
    exact shape.positive p member
  case ascending =>
    refine shape.ascending.imp_of_mem ?_
    intro p q member otherMember less
    rw [sameFd p member, sameFd q otherMember]
    exact less
  case fresh => exact fresh

/-- Linking a node at the place of its fd. -/
theorem Shape.splice (shape : ports.Shape (front ++ back)) (found : ports.memory newp = some node)
    (new : newp ∉ front ++ back) (positive : 0 < node.fd)
    (smaller : ∀ p ∈ front, ports.fdOf p < node.fd)
    (greater : ∀ p ∈ back, node.fd < ports.fdOf p)
    (memory : after.memory = fun p => (ports.memory p).map (spliced newp front back p))
    (first : after.firstTl = (front ++ newp :: back).head?)
    (allocated : after.allocated = ports.allocated) :
    after.Shape (front ++ newp :: back) := by
  have sameFd : ∀ p, after.fdOf p = ports.fdOf p := by
    intro p
    simp only [fdOf, memory, Option.map_map]
    congr 2
    funext node
    simp only [Function.comp_apply, spliced]
    split <;> rfl
  have newFd : ports.fdOf newp = node.fd := fdOf_eq found
  constructor
  case list =>
    rw [first]
    apply shape.list.insert
    · intro p member
      have apart : p ≠ newp := fun same => new (same ▸ member)
      obtain ⟨other, inMemory⟩ := Option.isSome_iff_exists.mp (shape.allocated p member)
      simp [next, memory, inMemory, spliced, apart]
    · simp [next, memory, found, spliced]
    · intro p member
      have apart : p ≠ newp := fun same => new (same ▸ member)
      obtain ⟨other, inMemory⟩ := Option.isSome_iff_exists.mp (shape.allocated p member)
      simp [prev, memory, inMemory, spliced, apart]
    · simp [prev, memory, found, spliced]
  case allocated =>
    intro p member
    rw [memory, Option.isSome_map]
    by_cases isNew : p = newp
    · simp [isNew, found]
    · exact shape.allocated p (by grind)
  case positive =>
    intro p member
    rw [sameFd]
    by_cases isNew : p = newp
    · rwa [isNew, newFd]
    · exact shape.positive p (by grind)
  case ascending =>
    simp only [sameFd]
    have parts := List.pairwise_append.mp shape.ascending
    apply List.pairwise_append.mpr
    refine ⟨parts.1, List.pairwise_cons.mpr ⟨?_, parts.2.1⟩, ?_⟩
    · intro q member
      exact newFd ▸ greater q member
    · intro p member q inBack
      rcases List.mem_cons.mp inBack with rfl | inBack
      · exact newFd ▸ smaller p member
      · exact parts.2.2 p member q inBack
  case fresh =>
    intro p isAllocated
    rw [allocated]
    apply shape.fresh p
    rwa [memory, Option.isSome_map] at isAllocated

/-- What a node becomes when its neighbour between `front` and `back` is taken out. -/
def relink (front back : List PortRef) (p : PortRef) (node : TermiosList) : TermiosList :=
  { node with
    next := if front.getLast? = some p then back.head? else node.next
    prev := if back.head? = some p then front.getLast? else node.prev }

/-- Taking out a node writes to its neighbours and, if it is the first, to `first_tl`. -/
theorem unlink_eq (prev : ∀ prev, node.prev = some prev → (ports.memory prev).isSome = true)
    (next : ∀ next, node.next = some next → (ports.memory next).isSome = true) :
    ports.unlink p node = some
      { ports with
        memory := Function.update
          (writeAt (writeAt ports.memory node.next fun after => { after with prev := node.prev })
            node.prev fun before => { before with next := node.next }) p none
        firstTl := if node.prev = none then node.next else ports.firstTl } := by
  obtain ⟨_, _, _, nodeNext, nodePrev⟩ := node
  cases nodePrev with
  | none =>
      cases nodeNext with
      | none => simp [Ports.unlink, free]
      | some later => simp [Ports.unlink, free, modify_of_allocated, next later rfl]
  | some before =>
      cases nodeNext with
      | none => simp [Ports.unlink, free, modify_of_allocated, prev before rfl]
      | some later =>
          simp [Ports.unlink, free, modify_of_allocated, prev before rfl, next later rfl]

/-- Taking a node out of the list relinks its neighbours. -/
theorem Shape.unlink (shape : ports.Shape (front ++ p :: back))
    (found : ports.memory p = some node) :
    ports.unlink p node = some
      { ports with
        memory := fun q => if q = p then none else (ports.memory q).map (relink front back q)
        firstTl := (front ++ back).head? } := by
  have atPrev : node.prev = front.getLast? := by
    rw [← prev_eq found]
    exact shape.list.prev front p back rfl
  have atNext : node.next = back.head? := by
    rw [← next_eq found]
    exact shape.list.next front p back rfl
  rw [unlink_eq]
  case prev =>
    intro before isLast
    rw [atPrev] at isLast
    exact shape.allocated before (by simp [List.mem_of_getLast? isLast])
  case next =>
    intro later isHead
    rw [atNext] at isHead
    exact shape.allocated later (by simp [List.mem_of_head? isHead])
  rw [Option.some.injEq, Ports.mk.injEq]
  refine ⟨?_, ?_, rfl⟩
  · funext q
    simp only [Function.update_apply, writeAt_eq_map, Option.map_map, atPrev, atNext]
    split
    next => rfl
    next =>
      congr 1
      funext other
      simp only [Function.comp_apply, relink]
      split <;> split <;> rfl
  · rw [shape.list.first, atPrev, atNext]
    cases front with
    | nil => rfl
    | cons head front => simp

/-- The list without a node. -/
theorem Shape.remove (shape : ports.Shape (front ++ p :: back))
    (memory : after.memory =
      fun q => if q = p then none else (ports.memory q).map (relink front back q))
    (first : after.firstTl = (front ++ back).head?)
    (allocated : after.allocated = ports.allocated) :
    after.Shape (front ++ back) := by
  have nodup := shape.list.nodup
  have stays : ∀ q ∈ front ++ back, q ≠ p := by grind
  have inList : ∀ q ∈ front ++ back, q ∈ front ++ p :: back := by grind
  have kept : ∀ q ∈ front ++ back, ∃ other, ports.memory q = some other ∧
      after.memory q = some (relink front back q other) := by
    intro q member
    obtain ⟨other, found⟩ :=
      Option.isSome_iff_exists.mp (shape.allocated q (inList q member))
    exact ⟨other, found, by simp [memory, stays q member, found]⟩
  have sameFd : ∀ q ∈ front ++ back, after.fdOf q = ports.fdOf q := by
    intro q member
    obtain ⟨other, found, foundAfter⟩ := kept q member
    rw [fdOf_eq found, fdOf_eq foundAfter, relink]
  constructor
  case list =>
    rw [first]
    apply shape.list.remove
    · intro q member
      obtain ⟨other, found, foundAfter⟩ := kept q member
      rw [next_eq found, next_eq foundAfter, relink]
    · intro q member
      obtain ⟨other, found, foundAfter⟩ := kept q member
      rw [prev_eq found, prev_eq foundAfter, relink]
  case allocated =>
    intro q member
    obtain ⟨other, found, foundAfter⟩ := kept q member
    simp [foundAfter]
  case positive =>
    intro q member
    rw [sameFd q member]
    exact shape.positive q (inList q member)
  case ascending =>
    have sublist : (front ++ back).Sublist (front ++ p :: back) :=
      (List.sublist_cons_self p back).append_left front
    refine (shape.ascending.sublist sublist).imp_of_mem ?_
    intro q r member otherMember less
    rw [sameFd q member, sameFd r otherMember]
    exact less
  case fresh =>
    intro q isAllocated
    rw [allocated]
    apply shape.fresh q
    simp only [memory] at isAllocated
    split at isAllocated
    · simp at isAllocated
    · simpa using isAllocated

end Writes

/-! ## Opening and closing -/

/-- What a node says about a port. -/
def data (ports : Ports) (p : PortRef) : Option (String × Handle × Int) :=
  (ports.memory p).map fun node => (node.filename, node.hComm, node.fd)

/-- `nodes` hold the names of the `opened` ports under their fds, and have handles. -/
structure Holds (ports : Ports) (nodes : List PortRef) (opened : Int → Option String) : Prop where
  entries : ∀ fd name, opened fd = some name ↔
    ∃ p ∈ nodes, ∃ handle, ports.data p = some (name, handle, fd)
  handles : ∀ p ∈ nodes, ∀ name fd, ports.data p ≠ some (name, .null, fd)

section Calls

variable {ports after : Ports} {p q newp : PortRef} {node : TermiosList} {filename : String}
  {fd : Int} {nodes front back : List PortRef} {fuel : Nat} {opened : Int → Option String}
  {calls : OpenCalls}

theorem data_eq (found : ports.memory p = some node) :
    ports.data p = some (node.filename, node.hComm, node.fd) := by
  simp [data, found]

theorem fdOf_of_data {name : String} {handle : Handle}
    (found : ports.data p = some (name, handle, fd)) : ports.fdOf p = fd := by
  simp only [data, Option.map_eq_some_iff, Prod.mk.injEq] at found
  obtain ⟨node, inMemory, -, -, rfl⟩ := found
  exact fdOf_eq inMemory

theorem data_of_allocated (allocated : (ports.memory p).isSome = true) :
    ∃ name handle, ports.data p = some (name, handle, ports.fdOf p) := by
  obtain ⟨node, found⟩ := Option.isSome_iff_exists.mp allocated
  exact ⟨node.filename, node.hComm, by rw [data_eq found, fdOf_eq found]⟩

theorem Holds.transfer (holds : ports.Holds nodes opened)
    (same : ∀ p ∈ nodes, after.data p = ports.data p) : after.Holds nodes opened where
  entries := by
    intro fd name
    rw [holds.entries]
    constructor
    · rintro ⟨p, member, handle, found⟩
      exact ⟨p, member, handle, (same p member).trans found⟩
    · rintro ⟨p, member, handle, found⟩
      exact ⟨p, member, handle, (same p member).symm.trans found⟩
  handles := by
    intro p member name fd
    rw [same p member]
    exact holds.handles p member name fd

/-- Two nodes with the same fd are the same. -/
theorem Shape.eq_of_fdOf (shape : ports.Shape nodes) (member : p ∈ nodes)
    (otherMember : q ∈ nodes) (same : ports.fdOf p = ports.fdOf q) : p = q := by
  obtain ⟨front, back, rfl⟩ := List.append_of_mem member
  obtain ⟨-, above, across⟩ := List.pairwise_append.mp shape.ascending
  rcases List.mem_append.mp otherMember with before | rest
  · have less := across q before p List.mem_cons_self
    omega
  · rcases List.mem_cons.mp rest with rfl | behind
    · rfl
    · have less := (List.pairwise_cons.mp above).1 q behind
      omega

/-- An fd is open if and only if a node has it. -/
theorem Holds.opened_isSome_iff (holds : ports.Holds nodes opened) (shape : ports.Shape nodes) :
    (opened fd).isSome = true ↔ ∃ p ∈ nodes, ports.fdOf p = fd := by
  constructor
  · intro isOpen
    obtain ⟨name, found⟩ := Option.isSome_iff_exists.mp isOpen
    obtain ⟨p, member, handle, inMemory⟩ := (holds.entries fd name).mp found
    exact ⟨p, member, fdOf_of_data inMemory⟩
  · rintro ⟨p, member, rfl⟩
    obtain ⟨name, handle, found⟩ := data_of_allocated (shape.allocated p member)
    have isOpen := (holds.entries _ name).mpr ⟨p, member, handle, found⟩
    simp [isOpen]

/-- The ports without the one that is taken out. -/
theorem Holds.remove (holds : ports.Holds (front ++ p :: back) opened)
    (shape : ports.Shape (front ++ p :: back))
    (kept : ∀ q ∈ front ++ back, after.data q = ports.data q) :
    after.Holds (front ++ back) (Function.update opened (ports.fdOf p) none) := by
  have nodup := shape.list.nodup
  have stays : ∀ q ∈ front ++ back, q ∈ front ++ p :: back ∧ q ≠ p := by grind
  constructor
  case entries =>
    intro fd name
    by_cases same : fd = ports.fdOf p
    · subst same
      simp only [Function.update_self, reduceCtorEq, false_iff]
      rintro ⟨q, member, handle, found⟩
      rw [kept q member] at found
      obtain ⟨inList, apart⟩ := stays q member
      exact apart (shape.eq_of_fdOf inList (by simp) (fdOf_of_data found))
    · rw [Function.update_of_ne same, holds.entries]
      constructor
      · rintro ⟨q, inList, handle, found⟩
        have apart : q ≠ p := by
          rintro rfl
          exact same (fdOf_of_data found).symm
        have member : q ∈ front ++ back := by grind
        exact ⟨q, member, handle, (kept q member).trans found⟩
      · rintro ⟨q, member, handle, found⟩
        exact ⟨q, (stays q member).1, handle, (kept q member).symm.trans found⟩
  case handles =>
    intro q member name fd
    rw [kept q member]
    exact holds.handles q (stays q member).1 name fd

/-- The ports with the one that is put in. -/
theorem Holds.insert {handle : Handle} (holds : ports.Holds (front ++ back) opened)
    (kept : ∀ q ∈ front ++ back, after.data q = ports.data q)
    (new : after.data newp = some (filename, handle, fd)) (opens : handle ≠ .null)
    (free : opened fd = none) :
    after.Holds (front ++ newp :: back) (Function.update opened fd (some filename)) := by
  have cases : ∀ q, q ∈ front ++ newp :: back ↔ q = newp ∨ q ∈ front ++ back := by grind
  constructor
  case entries =>
    intro otherFd name
    constructor
    · intro isOpen
      by_cases same : otherFd = fd
      · subst same
        simp only [Function.update_self, Option.some.injEq] at isOpen
        exact ⟨newp, by simp, handle, isOpen ▸ new⟩
      · rw [Function.update_of_ne same, holds.entries] at isOpen
        obtain ⟨q, member, otherHandle, found⟩ := isOpen
        exact ⟨q, (cases q).mpr (.inr member), otherHandle, (kept q member).trans found⟩
    · rintro ⟨q, member, otherHandle, found⟩
      rcases (cases q).mp member with rfl | member
      · rw [new, Option.some.injEq, Prod.mk.injEq, Prod.mk.injEq] at found
        obtain ⟨rfl, -, rfl⟩ := found
        simp
      · rw [kept q member] at found
        have isOpen := (holds.entries otherFd name).mpr ⟨q, member, otherHandle, found⟩
        have apart : otherFd ≠ fd := by
          rintro rfl
          simp [free] at isOpen
        rw [Function.update_of_ne apart, isOpen]
  case handles =>
    intro q member name otherFd
    rcases (cases q).mp member with rfl | member
    · rw [new]
      simp [opens]
    · rw [kept q member]
      exact holds.handles q member name otherFd

/-- `serial_close` of an fd that is not open changes nothing. -/
theorem Shape.serialClose_absent (shape : ports.Shape nodes)
    (absent : ∀ p ∈ nodes, ports.fdOf p ≠ fd) (enough : ports.allocated ≤ fuel) :
    ∃ result, ports.serialClose fuel fd = some (result, ports) := by
  have notFound : (nodes.find? fun p => ports.fdOf p = fd) = none := by simpa using absent
  have search := shape.findPort enough fd
  rw [notFound] at search
  have first := shape.list.first
  cases nodes with
  | nil => exact ⟨0, by simp [Ports.serialClose, first]⟩
  | cons p back =>
      obtain ⟨node, found⟩ := Option.isSome_iff_exists.mp (shape.allocated p (by simp))
      simp only [Ports.serialClose, first, List.head?_cons, found, search, Option.bind_eq_bind,
        Option.bind_some]
      split <;> exact ⟨_, rfl⟩

/-- `serial_close` takes the node out of the list. -/
theorem Shape.serialClose (shape : ports.Shape (front ++ p :: back))
    (handles : ∀ q ∈ front ++ p :: back, ∀ name fd, ports.data q ≠ some (name, .null, fd))
    (enough : ports.allocated ≤ fuel) :
    ∃ after, ports.serialClose fuel (ports.fdOf p) = some (0, after) ∧
      after.Shape (front ++ back) ∧ ∀ q ∈ front ++ back, after.data q = ports.data q := by
  have member : p ∈ front ++ p :: back := by simp
  have located : ((front ++ p :: back).find? fun q => ports.fdOf q = ports.fdOf p) = some p := by
    cases found : (front ++ p :: back).find? fun q => ports.fdOf q = ports.fdOf p with
    | none => exact absurd (List.find?_eq_none.mp found p member) (by simp)
    | some q =>
        have same := List.find?_some found
        rw [decide_eq_true_eq] at same
        rw [shape.eq_of_fdOf (List.mem_of_find?_eq_some found) member same]
  obtain ⟨node, found⟩ := Option.isSome_iff_exists.mp (shape.allocated p member)
  obtain ⟨first, starts⟩ : ∃ first, (front ++ p :: back).head? = some first := by
    cases front <;> exact ⟨_, rfl⟩
  have firstMember := List.mem_of_head? starts
  obtain ⟨head, atHead⟩ := Option.isSome_iff_exists.mp (shape.allocated first firstMember)
  have handle : head.hComm ≠ .null := by
    intro null
    exact handles first firstMember head.filename head.fd (by rw [data_eq atHead, null])
  let after : Ports :=
    { ports with
      memory := fun q => if q = p then none else (ports.memory q).map (relink front back q)
      firstTl := (front ++ back).head? }
  refine ⟨after, ?_, shape.remove rfl rfl rfl, ?_⟩
  · simp only [Ports.serialClose, shape.list.first, starts, atHead, shape.findPort enough,
      located, found, shape.unlink found, Option.bind_eq_bind, Option.bind_some, if_neg handle]
    rfl
  · intro q inList
    have apart : q ≠ p := by
      have nodup := shape.list.nodup
      grind
    simp only [data, after, if_neg apart, Option.map_map]
    rfl

/-- The state in which `add_port` links the new node. -/
theorem Shape.allocate (shape : ports.Shape nodes) (filename : String) (fd : Int) :
    (ports.allocate filename fd).Shape nodes ∧
      (∀ p ∈ nodes, (ports.allocate filename fd).memory p = ports.memory p) ∧
      ports.allocated ∉ nodes := by
  have new : ports.allocated ∉ nodes := by
    intro member
    exact (shape.fresh _ (shape.allocated _ member)).false
  have kept : ∀ p ∈ nodes, (ports.allocate filename fd).memory p = ports.memory p := by
    intro p member
    have apart : p ≠ ports.allocated := fun same => new (same ▸ member)
    exact Function.update_of_ne apart _ _
  refine ⟨shape.transfer ?_ rfl ?_, kept, new⟩
  · intro p member
    obtain ⟨node, found⟩ := Option.isSome_iff_exists.mp (shape.allocated p member)
    exact ⟨node, node, found, (kept p member).trans found, rfl, rfl, rfl⟩
  · intro p isAllocated
    by_cases same : p = ports.allocated
    · simp [Ports.allocate, same]
    · have before : (ports.memory p).isSome = true := by
        simpa [Ports.allocate, same] using isAllocated
      exact (shape.fresh p before).trans (Nat.lt_succ_self _)

/-- `add_port` puts a node with the smallest free fd into the list, unless that is fd 1
and there are other ports. -/
theorem Shape.addPort (shape : ports.Shape nodes) (enough : ports.allocated ≤ fuel)
    (fitting : fits filename = true) :
    (ports.addPort fuel filename = none ∧ nodes ≠ [] ∧ ∀ p ∈ nodes, ports.fdOf p ≠ 1) ∨
      ∃ fd front back after, ports.addPort fuel filename = some (ports.allocated, after) ∧
        (nodes = [] ∨ ∃ p ∈ nodes, ports.fdOf p = 1) ∧ ports.SmallestFree nodes fd ∧
        nodes = front ++ back ∧ after.Shape (front ++ ports.allocated :: back) ∧
        after.data ports.allocated = some (filename, .null, fd) ∧
        (∀ p ∈ nodes, after.data p = ports.data p) ∧
        after.allocated = ports.allocated + 1 := by
  obtain ⟨fd, isFree, free⟩ := shape.getFreeFd enough
  obtain ⟨grown, kept, new⟩ := shape.allocate filename fd
  have found : (ports.allocate filename fd).memory ports.allocated =
      some ⟨filename, .null, fd, none, none⟩ := by simp [Ports.allocate]
  have sameFd : ∀ p ∈ nodes, (ports.allocate filename fd).fdOf p = ports.fdOf p := by
    intro p member
    rw [fdOf, kept p member, fdOf]
  have unused : ∀ p ∈ nodes, (ports.allocate filename fd).fdOf p ≠ fd := by
    intro p member
    rw [sameFd p member]
    exact free.free p member
  obtain ⟨front, back, split, smaller, greater, linked⟩ :=
    grown.link unused (by simp [found]) new (shape.length_le.trans enough)
  by_cases crash : front = [] ∧ back ≠ []
  · rw [if_pos crash] at linked
    obtain ⟨rfl, others⟩ := crash
    obtain rfl : nodes = back := split
    refine .inl ⟨by simp [Ports.addPort, fitting, isFree, linked], others, ?_⟩
    -- only fd 1 is smaller than all others
    intro p member isOne
    have positive := free.positive
    have above := greater p member
    rw [sameFd p member, isOne] at above
    omega
  · rw [if_neg crash] at linked
    subst split
    let after : Ports :=
      { ports.allocate filename fd with
        memory := fun p =>
          ((ports.allocate filename fd).memory p).map (spliced ports.allocated front back p)
        firstTl := (front ++ ports.allocated :: back).head? }
    refine .inr ⟨fd, front, back, after, ?_, ?_, free, rfl, ?_, ?_, ?_, rfl⟩
    · simp only [Ports.addPort, if_pos fitting, isFree, linked, Option.bind_eq_bind,
        Option.bind_some]
      rfl
    · cases front with
      | nil =>
          left
          by_contra notNil
          exact crash ⟨rfl, notNil⟩
      | cons first front =>
          have below := smaller first (by simp)
          have positive := shape.positive first (by simp)
          rw [sameFd first (by simp)] at below
          exact .inr (free.smallest 1 (by omega) (by omega))
    · exact grown.splice found new free.positive smaller greater rfl rfl rfl
    · simp [data, after, found, spliced]
    · intro p member
      have apart : p ≠ ports.allocated := fun same => new (same ▸ member)
      simp only [data, after, kept p member, Option.map_map]
      congr 1
      funext node
      simp [spliced, apart]

/-- `open_port` changes the handle of the node only. -/
theorem Shape.openPort (shape : ports.Shape nodes) (member : p ∈ nodes) (calls : OpenCalls) :
    ∃ after, ports.openPort calls p = some after ∧ after.Shape nodes ∧
      (∀ q ≠ p, after.data q = ports.data q) ∧
      (∀ name handle fd, ports.data p = some (name, handle, fd) →
        ∃ index, after.memory p = some index ∧ index.fd = fd ∧
          after.data p = some (name, calls.handle, fd)) ∧
      after.allocated = ports.allocated := by
  obtain ⟨node, found⟩ := Option.isSome_iff_exists.mp (shape.allocated p member)
  let changed : TermiosList := { node with hComm := calls.handle }
  refine ⟨{ ports with memory := Function.update ports.memory p (some changed) },
    by simp [Ports.openPort, modify, found, changed], ?_, ?_, ?_, rfl⟩
  · refine shape.transfer ?_ ?_ ?_
    · intro q inList
      by_cases same : q = p
      · subst same
        exact ⟨node, changed, found, by simp, rfl, rfl, rfl⟩
      · obtain ⟨other, inMemory⟩ := Option.isSome_iff_exists.mp (shape.allocated q inList)
        exact ⟨other, other, inMemory, by simp [same, inMemory], rfl, rfl, rfl⟩
    · rfl
    · intro q isAllocated
      by_cases same : q = p
      · exact shape.fresh q (by simp [same, found])
      · exact shape.fresh q (by simpa [same] using isAllocated)
  · intro q apart
    simp [data, apart]
  · intro name handle fd isData
    rw [data_eq found, Option.some.injEq, Prod.mk.injEq, Prod.mk.injEq] at isData
    obtain ⟨rfl, -, rfl⟩ := isData
    exact ⟨changed, by simp, rfl, by simp [data, changed]⟩

/-- A port is found open if and only if its name is that of an open fd. -/
theorem Holds.portOpened (holds : ports.Holds nodes opened) (shape : ports.Shape nodes)
    (enough : ports.allocated ≤ fuel) (filename : String) :
    ∃ fd, ports.portOpened fuel filename = some fd ∧
      (fd ≠ 0 ↔ ∃ fd, opened fd = some filename) := by
  refine ⟨_, shape.portOpened enough, ?_⟩
  cases located : nodes.find? (ports.hasName filename) with
  | none =>
      simp only [Option.map_none, Option.getD_none, ne_eq, not_true_eq_false, false_iff]
      rintro ⟨fd, isOpen⟩
      obtain ⟨p, member, handle, found⟩ := (holds.entries fd filename).mp isOpen
      have notNamed := List.find?_eq_none.mp located p member
      simp only [data, Option.map_eq_some_iff, Prod.mk.injEq] at found
      obtain ⟨node, inMemory, named, -⟩ := found
      exact notNamed (by simp [hasName_eq inMemory, named])
  | some p =>
      have member := List.mem_of_find?_eq_some located
      have positive := shape.positive p member
      obtain ⟨node, found⟩ := Option.isSome_iff_exists.mp (shape.allocated p member)
      have named := List.find?_some located
      rw [hasName_eq found, decide_eq_true_eq] at named
      simp only [Option.map_some, Option.getD_some]
      constructor
      · intro _
        exact ⟨node.fd, (holds.entries _ _).mpr
          ⟨p, member, node.hComm, by rw [data_eq found, named]⟩⟩
      · intro _
        omega

/-- The list holds the `opened` ports. -/
def Lists (ports : Ports) (opened : Int → Option String) : Prop :=
  ∃ nodes, ports.Shape nodes ∧ ports.Holds nodes opened

/-- What `serial_open` reports about a name fits into `message[80]`. -/
def ReportsFit (calls : OpenCalls) (filename : String) : Prop :=
  if calls.openPortFails then filename.utf8ByteSize ≤ 35
  else
    (calls.rlsd = true ∨ filename.utf8ByteSize ≤ 44) ∧
      (calls.dtrDsr = true ∧ calls.rtsCts = true ∨ filename.utf8ByteSize ≤ 56) ∧
      (calls.totalTimeouts = true ∨ filename.utf8ByteSize ≤ 58)

instance (calls : OpenCalls) (filename : String) : Decidable (ReportsFit calls filename) := by
  unfold ReportsFit
  infer_instance

theorem reportUnless_eq (present : Bool) (filename text : String) :
    reportUnless present (filename ++ text) =
      if present = true ∨ filename.utf8ByteSize + text.utf8ByteSize < 80 then some ()
      else none := by
  cases present <;> simp [reportUnless, sprintfMessage, String.utf8ByteSize_append]

theorem checkPortCapabilities_eq (opens : calls.openPortFails = false) (filename : String) :
    calls.checkPortCapabilities filename =
      if ReportsFit calls filename then some !calls.getCommState else none := by
  have dtrDsr : ": no DTR & DSR support\n".utf8ByteSize = 23 := rfl
  have rlsd : ": no carrier detect (RLSD) support\n".utf8ByteSize = 35 := rfl
  have rtsCts : ": no RTS & CTS support\n".utf8ByteSize = 23 := rfl
  have totalTimeouts : ": no timeout support\n".utf8ByteSize = 21 := rfl
  simp only [OpenCalls.checkPortCapabilities, reportUnless_eq, ReportsFit, opens, dtrDsr, rlsd,
    rtsCts, totalTimeouts]
  cases calls.dtrDsr <;> cases calls.rlsd <;> cases calls.rtsCts <;>
    cases calls.totalTimeouts <;> simp <;> split_ifs <;> simp <;> omega

theorem sprintfMessage_eq (fails : calls.openPortFails = true) (filename : String) :
    sprintfMessage ("serial_open():  Invalid Port Reference for " ++ filename ++ "\n") =
      if ReportsFit calls filename then some () else none := by
  have before : "serial_open():  Invalid Port Reference for ".utf8ByteSize = 43 := rfl
  have behind : "\n".utf8ByteSize = 1 := rfl
  have length : 43 + filename.utf8ByteSize + 1 < 80 ↔ filename.utf8ByteSize ≤ 35 := by omega
  simp only [sprintfMessage, String.utf8ByteSize_append, ReportsFit, fails, if_true, before,
    behind, length]

/-- `serial_open` of a name that is not open either fails, leaving the ports as they
were, or opens the port; only the place before the first node is missing. -/
theorem Holds.serialOpen (holds : ports.Holds nodes opened) (shape : ports.Shape nodes)
    (enough : ports.allocated < fuel) (search : ports.portOpened fuel filename = some 0)
    (fitting : fits filename = true) (calls : OpenCalls) :
    (ports.serialOpen fuel filename calls = none ∧
        (¬ReportsFit calls filename ∨ nodes ≠ [] ∧ ∀ p ∈ nodes, ports.fdOf p ≠ 1)) ∨
      ReportsFit calls filename ∧ (nodes = [] ∨ ∃ p ∈ nodes, ports.fdOf p = 1) ∧
        ∃ fd after, ports.serialOpen fuel filename calls = some (fd, after) ∧
          (fd = -1 ∧ after.Lists opened ∨
            0 < fd ∧ after.Lists (Function.update opened fd (some filename))) := by
  rcases shape.addPort enough.le fitting with ⟨crashes, missing⟩ |
    ⟨fd, front, back, added, adds, place, free, rfl, addedShape, isNew, kept, size⟩
  · left
    exact ⟨by simp [Ports.serialOpen, search, crashes], .inr missing⟩
  · have member : ports.allocated ∈ front ++ ports.allocated :: back := by simp
    obtain ⟨stored, opens, storedShape, others, isData, storedSize⟩ :=
      addedShape.openPort member calls
    obtain ⟨index, atIndex, isFd, isStored⟩ := isData _ _ _ isNew
    have isName : index.filename = filename := by
      rw [data_eq atIndex, Option.some.injEq, Prod.mk.injEq] at isStored
      exact isStored.1
    have same : ∀ q ∈ front ++ back, stored.data q = ports.data q := by
      intro q inList
      have apart : q ≠ ports.allocated := (shape.fresh q (shape.allocated q inList)).ne
      exact (others q apart).trans (kept q inList)
    have notOpen : opened fd = none := by
      rw [← Option.not_isSome_iff_eq_none, holds.opened_isSome_iff shape]
      rintro ⟨p, inList, isUsed⟩
      exact free.free p inList isUsed
    have storedHolds := holds.insert same isStored calls.handle_ne_null notOpen
    have storedEnough : stored.allocated ≤ fuel := by omega
    obtain ⟨after, closes, afterShape, afterKept⟩ :=
      storedShape.serialClose storedHolds.handles storedEnough
    rw [fdOf_of_data isStored] at closes
    have closedHolds : after.Lists opened := by
      refine ⟨front ++ back, afterShape, holds.transfer ?_⟩
      intro q inList
      exact (afterKept q inList).trans (same q inList)
    obtain ⟨first, starts⟩ : ∃ first, (front ++ ports.allocated :: back).head? = some first := by
      cases front <;> exact ⟨_, rfl⟩
    have firstMember := List.mem_of_head? starts
    obtain ⟨head, atHead⟩ := Option.isSome_iff_exists.mp (storedShape.allocated first firstMember)
    have notNull : head.hComm ≠ .null := by
      intro null
      exact storedHolds.handles first firstMember head.filename head.fd
        (by rw [data_eq atHead, null])
    -- The call, with everything known but the reports.
    have run : ports.serialOpen fuel filename calls =
        if ReportsFit calls filename then
          some (if calls.openPortFails || !calls.getCommState then (-1, after) else (fd, stored))
        else none := by
      simp only [Ports.serialOpen, search, adds, opens, atIndex, isFd, isName, Ports.closeFailed,
        closes, storedShape.findPort storedEnough, storedShape.list.first, starts, atHead,
        Option.bind_eq_bind, Option.bind_some, ne_eq, not_true_eq_false, if_false]
      cases fails : calls.openPortFails with
      | true =>
          rw [if_pos rfl, sprintfMessage_eq fails]
          split <;> simp
      | false =>
          rw [if_neg (by simp), checkPortCapabilities_eq fails]
          split
          next => cases calls.getCommState <;> simp [reportUnless, notNull]
          next => rfl
    by_cases reports : ReportsFit calls filename
    · refine .inr ⟨reports, place, ?_⟩
      rw [run, if_pos reports]
      by_cases fails : (calls.openPortFails || !calls.getCommState) = true
      · exact ⟨-1, after, by rw [if_pos fails], .inl ⟨rfl, closedHolds⟩⟩
      · exact ⟨fd, stored, by rw [if_neg fails],
          .inr ⟨free.positive, _, storedShape, storedHolds⟩⟩
    · exact .inl ⟨by rw [run, if_neg reports], .inl reports⟩

end Calls

end Ports

/-! ## Runs -/

/-- The list beside the names of the open ports under their fds. -/
structure PortRun where
  ports : Ports
  opened : Int → Option String

/-- A call; `calls` are the outcomes of what `serial_open` calls. -/
inductive PortCall where
  | serialOpen (filename : String) (calls : OpenCalls)
  | serialClose (fd : Int)
  deriving DecidableEq, Repr

namespace PortRun

variable (run : PortRun)

/-- More than the number of nodes that there can be in the list. -/
def fuel : Nat :=
  run.ports.allocated + 1

/-- What a call returns and leaves behind; `none` if it goes through a null pointer or
writes behind the end of `filename` or of a message. -/
def call : PortCall → Option (Int × PortRun)
  | .serialOpen filename calls => do
      let (fd, ports) ← run.ports.serialOpen run.fuel filename calls
      let opened := if 0 < fd then Function.update run.opened fd (some filename) else run.opened
      some (fd, ⟨ports, opened⟩)
  | .serialClose fd => do
      let (result, ports) ← run.ports.serialClose run.fuel fd
      some (result, ⟨ports, Function.update run.opened fd none⟩)

/-- The list holds the open ports. -/
structure Intact : Prop where
  list : run.ports.Lists run.opened
  findPort : ∀ fd, ∃ port, run.ports.findPort run.fuel fd = some port ∧
    (port.isSome = true ↔ (run.opened fd).isSome = true) ∧
    ∀ p ∈ port, run.ports.fdOf p = fd
  getFreeFd : ∃ fd, run.ports.getFreeFd run.fuel = some fd ∧ 0 < fd ∧ run.opened fd = none ∧
    ∀ smaller, 0 < smaller → smaller < fd → (run.opened smaller).isSome = true

/-- No port is opened, other than one that is open already, while other ports are open
and fd 1 is not in use, or with a name that is too long. -/
def Keeps : PortCall → Prop
  | .serialOpen filename calls =>
      (∃ fd, run.opened fd = some filename) ∨
        fits filename = true ∧ Ports.ReportsFit calls filename ∧
          ((∀ fd, run.opened fd = none) ∨ (run.opened 1).isSome = true)
  | .serialClose _ => True

end PortRun

/-- All calls, in any order, from the empty list. -/
def portRuns : System PortRun PortCall where
  start := fun run => run = ⟨Ports.empty, fun _ => none⟩
  step := fun run call => (run.call call).map Prod.snd

namespace PortRun

variable {run next : PortRun} {filename : String} {calls : OpenCalls} {fd : Int}

/-- What holds of the list is enough for the walks. -/
theorem intact_of_list (list : run.ports.Lists run.opened) :
    run.Intact := by
  obtain ⟨nodes, shape, holds⟩ := list
  have enough : run.ports.allocated ≤ run.fuel := Nat.le_succ _
  refine ⟨⟨nodes, shape, holds⟩, ?_, ?_⟩
  · intro fd
    refine ⟨_, shape.findPort enough fd, ?_, ?_⟩
    · rw [holds.opened_isSome_iff shape]
      simp [List.find?_isSome]
    · intro p found
      simpa using List.find?_some found
  · obtain ⟨fd, result, free⟩ := shape.getFreeFd enough
    refine ⟨fd, result, free.positive, ?_, ?_⟩
    · rw [← Option.not_isSome_iff_eq_none, holds.opened_isSome_iff shape]
      rintro ⟨p, member, same⟩
      exact free.free p member same
    · intro smaller positive less
      rw [holds.opened_isSome_iff shape]
      exact free.smallest smaller positive less

theorem Intact.serialClose (intact : run.Intact) (fd : Int) :
    ∃ result next, run.call (.serialClose fd) = some (result, next) ∧ next.Intact := by
  obtain ⟨nodes, shape, holds⟩ := intact.list
  have enough : run.ports.allocated ≤ run.fuel := Nat.le_succ _
  by_cases isOpen : ∃ p ∈ nodes, run.ports.fdOf p = fd
  · obtain ⟨p, member, rfl⟩ := isOpen
    obtain ⟨front, back, rfl⟩ := List.append_of_mem member
    obtain ⟨after, closed, afterShape, kept⟩ := shape.serialClose holds.handles enough
    let next : PortRun := ⟨after, Function.update run.opened (run.ports.fdOf p) none⟩
    refine ⟨0, next, by simp [call, closed, next], ?_⟩
    exact intact_of_list ⟨front ++ back, afterShape, holds.remove shape kept⟩
  · have absent : ∀ p ∈ nodes, run.ports.fdOf p ≠ fd := by
      intro p member same
      exact isOpen ⟨p, member, same⟩
    obtain ⟨result, closed⟩ := shape.serialClose_absent absent enough
    have notOpen : run.opened fd = none := by
      rw [← Option.not_isSome_iff_eq_none, holds.opened_isSome_iff shape]
      exact isOpen
    have same : Function.update run.opened fd none = run.opened := by
      rw [← notOpen, Function.update_eq_self]
    refine ⟨result, run, by simp [call, closed, same], intact⟩

/-- `serial_open` has a result, with the list intact, if and only if it is one of the
calls that keep it. -/
theorem Intact.serialOpen (intact : run.Intact) (filename : String) (calls : OpenCalls) :
    (run.call (.serialOpen filename calls) = none ∧ ¬run.Keeps (.serialOpen filename calls)) ∨
      ∃ result next, run.call (.serialOpen filename calls) = some (result, next) ∧
        next.Intact ∧ run.Keeps (.serialOpen filename calls) := by
  obtain ⟨nodes, shape, holds⟩ := intact.list
  have enough : run.ports.allocated < run.fuel := Nat.lt_succ_self _
  obtain ⟨already, search, isOpen⟩ := holds.portOpened shape enough.le filename
  by_cases listed : already ≠ 0
  · refine .inr ⟨-1, run, ?_, intact, .inl (isOpen.mp listed)⟩
    simp [call, Ports.serialOpen, search, listed]
  · have notListed : ¬∃ fd, run.opened fd = some filename := fun named => listed (isOpen.mpr named)
    obtain rfl : already = 0 := not_not.mp listed
    by_cases fitting : fits filename = true
    · rcases holds.serialOpen shape enough search fitting calls with
        ⟨crashes, noReports | ⟨others, noOne⟩⟩ | ⟨reports, place, fd, after, opens, result⟩
      · left
        exact ⟨by simp [call, crashes], by simp [Keeps, notListed, noReports]⟩
      · left
        refine ⟨by simp [call, crashes], ?_⟩
        rintro (named | ⟨-, -, noPorts | oneOpen⟩)
        · exact notListed named
        · obtain ⟨p, member⟩ := List.exists_mem_of_ne_nil nodes others
          have isSome := (holds.opened_isSome_iff shape).mpr ⟨p, member, rfl⟩
          simp [noPorts] at isSome
        · obtain ⟨p, member, isOne⟩ := (holds.opened_isSome_iff shape).mp oneOpen
          exact noOne p member isOne
      · right
        let opened :=
          if 0 < fd then Function.update run.opened fd (some filename) else run.opened
        refine ⟨fd, ⟨after, opened⟩, by simp [call, opens, opened], ?_, .inr ⟨fitting, reports, ?_⟩⟩
        · apply intact_of_list
          rcases result with ⟨rfl, lists⟩ | ⟨positive, lists⟩
          · exact lists
          · simpa only [opened, if_pos positive] using lists
        · rcases place with noNodes | hasOne
          · left
            intro fd
            rw [← Option.not_isSome_iff_eq_none, holds.opened_isSome_iff shape, noNodes]
            simp
          · exact .inr ((holds.opened_isSome_iff shape).mpr hasOne)
    · left
      constructor
      · simp [call, Ports.serialOpen, search, Ports.addPort, fitting]
      · simp [Keeps, notListed, fitting]

/-- In every run the list holds the open ports, and a further call goes through a null
pointer, or writes behind the end of `filename` or of a message, if and only if it is not one
of the calls that keep the list. -/
theorem openPorts_intact (reachable : portRuns.Reachable run) :
    run.Intact ∧ ∀ call, (run.call call).isSome = true ↔ run.Keeps call := by
  have intact : run.Intact := by
    refine reachable.invariant ?_ ?_
    · rintro _ rfl
      refine intact_of_list ⟨[], ⟨doubly_nil, ?_, ?_, List.Pairwise.nil, ?_⟩, ?_, ?_⟩ <;>
        simp [Ports.empty]
    · intro before call after held stepped
      simp only [portRuns, Option.map_eq_some_iff, Prod.exists, exists_eq_right] at stepped
      obtain ⟨result, called⟩ := stepped
      cases call with
      | serialOpen filename calls =>
          rcases held.serialOpen filename calls with ⟨crashes, -⟩ | ⟨_, next, opens, intact, -⟩
          · simp [crashes] at called
          · rw [opens, Option.some.injEq, Prod.mk.injEq] at called
            exact called.2 ▸ intact
      | serialClose fd =>
          obtain ⟨_, next, closes, intact⟩ := held.serialClose fd
          rw [closes, Option.some.injEq, Prod.mk.injEq] at called
          exact called.2 ▸ intact
  refine ⟨intact, ?_⟩
  intro call
  cases call with
  | serialOpen filename calls =>
      rcases intact.serialOpen filename calls with ⟨crashes, not⟩ | ⟨_, next, opens, -, keeps⟩
      · simp [crashes, not]
      · simp [opens, keeps]
  | serialClose fd =>
      obtain ⟨_, next, closes, -⟩ := intact.serialClose fd
      simp [closes, Keeps]

/-- Every call of Win32 succeeds. -/
def succeeds : OpenCalls where
  createFile := some 1
  setupComm := true
  readEvent := true
  selectEvent := true
  writeEvent := true
  dtrDsr := true
  rlsd := true
  rtsCts := true
  totalTimeouts := true
  getCommState := true

/-- The fd of a closed port is used again when it is not the first. -/
theorem openPorts_intact_reused :
    ∃ run : PortRun, run.Intact ∧ run.opened 1 = some "COM1" ∧ run.opened 2 = none ∧
      run.opened 3 = some "COM3" ∧ (run.call (.serialOpen "COM4" succeeds)).isSome = true := by
  have reachable : portRuns.Reachable _ := System.reachable_of_run [.serialOpen "COM1" succeeds,
    .serialOpen "COM2" succeeds, .serialOpen "COM3" succeeds, .serialClose 2] rfl rfl
  obtain ⟨intact, calls⟩ := openPorts_intact reachable
  exact ⟨_, intact, rfl, rfl, rfl, (calls _).mpr (.inr ⟨by decide, by decide, .inr rfl⟩)⟩

/-- Two ports are opened and the first is closed: the next one would get fd 1, and
`add_port` writes through the null pointer `index->prev`. -/
theorem serialOpen_before_first :
    ∃ run, portRuns.Reachable run ∧ run.opened 1 = none ∧ run.opened 2 = some "COM2" ∧
      run.call (.serialOpen "COM3" succeeds) = none := by
  have reachable : portRuns.Reachable _ := System.reachable_of_run [.serialOpen "COM1" succeeds,
    .serialOpen "COM2" succeeds, .serialClose 1] rfl rfl
  exact ⟨_, reachable, rfl, rfl, rfl⟩

end PortRun

end Jrxtx.Termios
