import Jrxtx.Heap.Cells
import Jrxtx.Heap.Doubly
import Jrxtx.SerialImp.Preopened
import Jrxtx.Transition.System

/-!
# The preopened ports over whole runs

Runs of `find_preopened_ports` and `static_add_filename` from the empty list, beside
the pairs that the list stands for.  Both functions keep the list as long as it holds
one pair.  With more of them an addition leaves `preopened_port` at the node before
the new one, and taking out the first pair leaves it at a freed node.
-/

namespace Jrxtx.SerialImp

open Jrxtx.Heap Jrxtx.Transition

namespace PreopenedPorts

variable (ports : PreopenedPorts)

/-- Where `prev` leads; nowhere from a node that is not allocated. -/
def prev (p : PreopenedRef) : Option PreopenedRef :=
  (ports.memory p).bind Preopened.prev

/-- What a node says about a port. -/
def pair (p : PreopenedRef) : Option (String × Int) :=
  (ports.memory p).map fun node => (node.filename, node.fd)

/-- `!strcmp(p->filename, filename)` -/
def hasName (filename : String) (p : PreopenedRef) : Bool :=
  (ports.memory p).any fun node => node.filename = filename

/-- The last branch of the loop of `static_add_filename`. -/
def append (newp p : PreopenedRef) : Option PreopenedPorts := do
  let ports ← ports.modify newp fun added => { added with next := none, prev := some p }
  let ports ← ports.modify p fun last => { last with next := some newp }
  some { ports with preopenedPort := some p }

section Operations

variable {ports} {after : PreopenedPorts} {p q newp : PreopenedRef} {node : Preopened}
  {filename : String} {fd : Int} {first : Option PreopenedRef}
  {nodes front back : List PreopenedRef} {fuel : Nat}

theorem modify_of_allocated (allocated : (ports.memory p).isSome = true)
    (change : Preopened → Preopened) :
    ports.modify p change =
      some { ports with memory := writeAt ports.memory (some p) change } := by
  obtain ⟨node, found⟩ := Option.isSome_iff_exists.mp allocated
  simp [modify, found, writeAt_some]

/-- Taking out a node writes to its neighbours only, and sets `preopened_port` only
if it is the single one. -/
theorem unlink_eq (prev : ∀ prev, node.prev = some prev → (ports.memory prev).isSome = true)
    (next : ∀ next, node.next = some next → (ports.memory next).isSome = true) :
    ports.unlink p node = some
      { ports with
        memory := Function.update
          (writeAt (writeAt ports.memory node.prev fun before => { before with next := node.next })
            node.next fun after => { after with prev := node.prev }) p none
        preopenedPort :=
          if node.prev = none ∧ node.next = none then none else ports.preopenedPort } := by
  obtain ⟨_, _, nodeNext, nodePrev⟩ := node
  cases nodePrev with
  | none =>
      cases nodeNext with
      | none => simp [unlink, free]
      | some later => simp [unlink, free, modify_of_allocated, next later rfl]
  | some before =>
      cases nodeNext with
      | none => simp [unlink, free, modify_of_allocated, prev before rfl]
      | some later =>
          simp [unlink, free, modify_of_allocated, prev before rfl, next later rfl]

/-- The loop of `find_preopened_ports` takes out the first node with the name. -/
theorem findFrom_eq (filename : String) (chain : Chain ports.next (some p) nodes)
    (allocated : ∀ q ∈ nodes, (ports.memory q).isSome = true) (enough : nodes.length ≤ fuel) :
    ports.findFrom filename fuel p =
      match nodes.find? (ports.hasName filename) with
      | some q =>
          (ports.memory q).bind fun node =>
            (ports.unlink q node).map fun after => (node.fd, after)
      | none => some (0, ports) := by
  induction nodes generalizing p fuel with
  | nil => simp at chain
  | cons head rest ih =>
      obtain ⟨same, tail⟩ := chain
      obtain rfl := Option.some.inj same
      cases fuel with
      | zero => simp at enough
      | succ fuel =>
          obtain ⟨node, found⟩ := Option.isSome_iff_exists.mp (allocated p (by simp))
          have atNext : ports.next p = node.next := by simp [PreopenedPorts.next, found]
          simp only [findFrom, found, Option.bind_eq_bind, Option.bind_some]
          by_cases named : node.filename = filename
          · have hasName : ports.hasName filename p = true := by
              simp [PreopenedPorts.hasName, found, named]
            rw [if_pos named, List.find?_cons_of_pos hasName]
            cases unlinked : ports.unlink p node <;> simp [found, unlinked]
          · have notNamed : ¬ports.hasName filename p = true := by
              simp [PreopenedPorts.hasName, found, named]
            rw [if_neg named, List.find?_cons_of_neg notNamed]
            rw [atNext] at tail
            cases next : node.next with
            | none =>
                rw [next] at tail
                have ends := tail.first_eq
                rw [eq_comm, List.head?_eq_none_iff] at ends
                simp [ends]
            | some next' =>
                rw [next] at tail
                apply ih tail
                · intro q member
                  exact allocated q (by simp [member])
                · simpa using enough

/-- The loop of `static_add_filename` leaves the list as it is when the name is
present, and appends the new node otherwise. -/
theorem addFrom_eq (filename : String) (newp : PreopenedRef)
    (chain : Chain ports.next (some p) nodes)
    (allocated : ∀ q ∈ nodes, (ports.memory q).isSome = true) (enough : nodes.length ≤ fuel) :
    ports.addFrom filename newp fuel p =
      if nodes.any (ports.hasName filename) then some ports
      else nodes.getLast?.bind (ports.append newp) := by
  induction nodes generalizing p fuel with
  | nil => simp at chain
  | cons head rest ih =>
      obtain ⟨same, tail⟩ := chain
      obtain rfl := Option.some.inj same
      cases fuel with
      | zero => simp at enough
      | succ fuel =>
          obtain ⟨node, found⟩ := Option.isSome_iff_exists.mp (allocated p (by simp))
          have atNext : ports.next p = node.next := by simp [PreopenedPorts.next, found]
          have hasName : ports.hasName filename p = decide (node.filename = filename) := by
            simp [PreopenedPorts.hasName, found]
          simp only [addFrom, found, Option.bind_eq_bind, Option.bind_some]
          by_cases named : node.filename = filename
          · simp [hasName, named]
          · rw [if_neg named, List.any_cons, hasName, decide_eq_false named, Bool.false_or]
            rw [atNext] at tail
            cases next : node.next with
            | none =>
                rw [next] at tail
                have ends := tail.first_eq
                rw [eq_comm, List.head?_eq_none_iff] at ends
                subst ends
                rfl
            | some next' =>
                rw [next] at tail
                have starts := List.head?_eq_some_iff.mp tail.first_eq.symm
                obtain ⟨others, rfl⟩ := starts
                rw [List.getLast?_cons_cons]
                apply ih tail
                · intro q member
                  exact allocated q (by simp [member])
                · simpa using enough

/-- What a node becomes when its neighbour between `front` and `back` is taken out. -/
def relink (front back : List PreopenedRef) (p : PreopenedRef) (node : Preopened) : Preopened :=
  { node with
    next := if front.getLast? = some p then back.head? else node.next
    prev := if back.head? = some p then front.getLast? else node.prev }

/-- Taking out a node relinks its neighbours. -/
theorem unlink_eq_some (list : Doubly ports.next ports.prev first (front ++ q :: back))
    (allocated : ∀ p ∈ front ++ q :: back, (ports.memory p).isSome = true)
    (found : ports.memory q = some node) :
    ∃ after, ports.unlink q node = some after ∧
      (∀ p, after.memory p =
        if p = q then none else (ports.memory p).map (relink front back p)) ∧
      after.preopenedPort = (if front = [] ∧ back = [] then none else ports.preopenedPort) ∧
      after.allocated = ports.allocated := by
  have atPrev : node.prev = front.getLast? := by
    rw [← list.prev front q back rfl]
    simp [PreopenedPorts.prev, found]
  have atNext : node.next = back.head? := by
    rw [← list.next front q back rfl]
    simp [PreopenedPorts.next, found]
  refine ⟨_, unlink_eq ?prev ?next, ?memory, ?preopenedPort, rfl⟩
  case prev =>
    intro before last
    rw [atPrev] at last
    exact allocated before (by simp [List.mem_of_getLast? last])
  case next =>
    intro later head
    rw [atNext] at head
    exact allocated later (by simp [List.mem_of_head? head])
  case memory =>
    intro p
    simp only [writeAt, atPrev, atNext, Function.update_apply]
    split
    next => rfl
    next =>
      unfold relink
      cases ports.memory p with
      | none => simp
      | some other => split <;> split <;> simp_all
  case preopenedPort => simp [atPrev, atNext]

/-- The node `newp` becomes the last one, and `preopened_port` the one before it. -/
theorem append_eq_some (found : ports.memory newp = some node)
    (allocated : (ports.memory p).isSome = true) (apart : p ≠ newp) :
    ∃ after, ports.append newp p = some after ∧
      (∀ q, after.memory q =
        if q = newp then some { node with next := none, prev := some p }
        else (ports.memory q).map fun other =>
          { other with next := if q = p then some newp else other.next }) ∧
      after.preopenedPort = some p ∧ after.allocated = ports.allocated := by
  refine ⟨{ ports with
    memory := writeAt (writeAt ports.memory (some newp) fun added =>
      { added with next := none, prev := some p }) (some p) fun last =>
        { last with next := some newp }
    preopenedPort := some p }, ?_, ?_, rfl, rfl⟩
  · simp [append, modify_of_allocated, allocated, found]
  · intro q
    simp only [writeAt, Option.some.injEq]
    by_cases atNew : q = newp
    · simp [atNew, found, apart]
    · by_cases atLast : q = p
      · simp [atLast, apart.symm, apart]
      · simp [atNew, atLast, Ne.symm atNew, Ne.symm atLast]

end Operations

/-! ## The pairs in the list -/

/-- `nodes` are linked in both directions and hold `pairs`; `malloc` gives out
addresses that are not in use. -/
structure Shape (ports : PreopenedPorts) (nodes : List PreopenedRef)
    (pairs : List (String × Int)) : Prop where
  list : Doubly ports.next ports.prev nodes.head? nodes
  pairs : nodes.map ports.pair = pairs.map some
  fresh : ∀ p, (ports.memory p).isSome = true → p < ports.allocated

/-- The list that starts at `preopened_port` holds `pairs`. -/
def Lists (ports : PreopenedPorts) (pairs : List (String × Int)) : Prop :=
  ∃ nodes, ports.Shape nodes pairs ∧ ports.preopenedPort = nodes.head?

/-- The file descriptor of the first pair with the name, or 0. -/
def fdOf (pairs : List (String × Int)) (filename : String) : Int :=
  ((pairs.find? fun pair => pair.1 = filename).map Prod.snd).getD 0

/-- The pairs after `find_preopened_ports(filename)`. -/
def takenOut (pairs : List (String × Int)) (filename : String) : List (String × Int) :=
  pairs.eraseP fun pair => pair.1 = filename

/-- The pairs after `static_add_filename(filename, fd)`. -/
def added (pairs : List (String × Int)) (filename : String) (fd : Int) : List (String × Int) :=
  if pairs.any fun pair => pair.1 = filename then pairs else pairs ++ [(filename, fd)]

section Pairs

variable {ports after : PreopenedPorts} {p q : PreopenedRef} {filename : String} {fd : Int}
  {nodes front back : List PreopenedRef} {pairs : List (String × Int)} {fuel : Nat}

theorem hasName_eq (filename : String) (p : PreopenedRef) :
    ports.hasName filename p = (ports.pair p).any fun pair => pair.1 = filename := by
  simp only [hasName, pair]
  cases ports.memory p <;> rfl

theorem isSome_of_pair {entry : String × Int} (found : ports.pair p = some entry) :
    (ports.memory p).isSome = true := by
  rw [pair, Option.map_eq_some_iff] at found
  obtain ⟨node, found, -⟩ := found
  simp [found]

theorem Shape.allocated (shape : ports.Shape nodes pairs) (member : p ∈ nodes) :
    (ports.memory p).isSome = true := by
  have inPairs : ports.pair p ∈ pairs.map some := shape.pairs ▸ List.mem_map_of_mem member
  obtain ⟨entry, -, found⟩ := List.mem_map.mp inPairs
  exact isSome_of_pair found.symm

theorem Shape.length_eq (shape : ports.Shape nodes pairs) : nodes.length = pairs.length := by
  simpa using congrArg List.length shape.pairs

theorem Shape.length_le (shape : ports.Shape nodes pairs) : nodes.length ≤ ports.allocated := by
  have inRange : nodes ⊆ List.range ports.allocated := by
    intro p member
    exact List.mem_range.mpr (shape.fresh p (shape.allocated member))
  simpa using (shape.list.nodup.subperm inRange).length_le

/-- A node splits the pairs as it splits the nodes. -/
theorem Shape.split (shape : ports.Shape (front ++ q :: back) pairs) :
    ∃ before entry behind, pairs = before ++ entry :: behind ∧
      front.map ports.pair = before.map some ∧ ports.pair q = some entry ∧
      back.map ports.pair = behind.map some := by
  have split := shape.pairs.symm
  rw [List.map_append, List.map_cons, List.map_eq_append_iff] at split
  obtain ⟨before, others, rfl, isFront, rest⟩ := split
  rw [List.map_eq_cons_iff] at rest
  obtain ⟨entry, behind, rfl, isEntry, isBack⟩ := rest
  exact ⟨before, entry, behind, rfl, isFront.symm, isEntry.symm, isBack.symm⟩

/-- If `preopened_port` points to a node of the list or to a freed one, it has to
point to the first. -/
theorem Shape.lists_iff (shape : ports.Shape nodes pairs)
    (known : ∀ p, ports.preopenedPort = some p → p ∈ nodes ∨ ports.memory p = none) :
    ports.Lists pairs ↔ ports.preopenedPort = nodes.head? := by
  constructor
  · rintro ⟨others, otherShape, starts⟩
    have lengths : others.length = nodes.length := by
      rw [otherShape.length_eq, shape.length_eq]
    cases others with
    | nil =>
        rw [eq_comm, List.length_nil, List.length_eq_zero_iff] at lengths
        rw [starts, lengths]
    | cons p others =>
        have member : p ∈ nodes := by
          rcases known p starts with member | freed
          · exact member
          · have allocated := otherShape.allocated (p := p) (by simp)
            simp [freed] at allocated
        obtain ⟨front, back, rfl⟩ := List.append_of_mem member
        have chain : Chain ports.next (some p) (p :: others) := otherShape.list.chain
        have same : others = back := chain.2.unique shape.list.chain.tail
        have noFront : front = [] := by
          rw [← List.length_eq_zero_iff]
          rw [same, List.length_append] at lengths
          simpa using lengths
        rw [starts, noFront]
        rfl
  · intro starts
    exact ⟨nodes, shape, starts⟩

end Pairs

/-- The name is that of the first of several pairs. -/
def firstOfSeveral : List (String × Int) → String → Bool
  | entry :: _ :: _, filename => entry.1 = filename
  | _, _ => false

section Find

variable {ports after : PreopenedPorts} {p q : PreopenedRef} {node : Preopened}
  {filename : String} {nodes front back : List PreopenedRef} {pairs : List (String × Int)}
  {fuel : Nat}

theorem find?_eq_none_iff (shape : nodes.map ports.pair = pairs.map some) :
    nodes.find? (ports.hasName filename) = none ↔ ∀ entry ∈ pairs, entry.1 ≠ filename := by
  have named : ∀ p ∈ nodes, (¬ports.hasName filename p = true ↔
      ∀ entry, ports.pair p = some entry → entry.1 ≠ filename) := by
    intro p _
    rw [hasName_eq]
    cases ports.pair p <;> simp
  rw [List.find?_eq_none]
  constructor
  · intro absent entry member
    have mapped : some entry ∈ nodes.map ports.pair := by
      rw [shape]
      exact List.mem_map_of_mem member
    obtain ⟨p, inNodes, isEntry⟩ := List.mem_map.mp mapped
    exact (named p inNodes).mp (absent p inNodes) entry isEntry
  · intro absent p member
    rw [named p member]
    intro entry isEntry
    have mapped : ports.pair p ∈ pairs.map some := shape ▸ List.mem_map_of_mem member
    rw [isEntry] at mapped
    exact absent entry (by simpa using mapped)

/-- Taking a node out of the list takes its pair out of the pairs. -/
theorem Shape.remove {before behind : List (String × Int)} {entry : String × Int}
    (shape : ports.Shape (front ++ q :: back) (before ++ entry :: behind))
    (isFront : front.map ports.pair = before.map some)
    (isBack : back.map ports.pair = behind.map some)
    (memory : ∀ p, after.memory p =
      if p = q then none else (ports.memory p).map (relink front back p))
    (allocated : after.allocated = ports.allocated) :
    after.Shape (front ++ back) (before ++ behind) := by
  have nodup := shape.list.nodup
  have stays : ∀ p ∈ front ++ back, p ≠ q := by grind
  have kept : ∀ p ∈ front ++ back, after.pair p = ports.pair p := by
    intro p member
    simp only [pair, memory, if_neg (stays p member), Option.map_map]
    rfl
  constructor
  case list =>
    apply shape.list.remove
    · intro p member
      have inList := shape.allocated (p := p) (by grind)
      obtain ⟨node, found⟩ := Option.isSome_iff_exists.mp inList
      simp [PreopenedPorts.next, memory, stays p member, found, relink]
    · intro p member
      have inList := shape.allocated (p := p) (by grind)
      obtain ⟨node, found⟩ := Option.isSome_iff_exists.mp inList
      simp [PreopenedPorts.prev, memory, stays p member, found, relink]
  case pairs =>
    rw [List.map_congr_left kept, List.map_append, List.map_append, isFront, isBack]
  case fresh =>
    intro p isAllocated
    rw [allocated]
    apply shape.fresh p
    rw [memory] at isAllocated
    split at isAllocated
    · simp at isAllocated
    · simpa using isAllocated

/-- Nothing is taken out for an absent name. -/
theorem of_absent (absent : ∀ entry ∈ pairs, entry.1 ≠ filename) :
    fdOf pairs filename = 0 ∧ takenOut pairs filename = pairs ∧
      firstOfSeveral pairs filename = false := by
  have notFound : pairs.find? (fun entry => entry.1 = filename) = none := by
    simpa using absent
  refine ⟨by simp [fdOf, notFound], ?_, ?_⟩
  · apply List.eraseP_of_forall_not
    simpa using absent
  · fun_cases firstOfSeveral pairs filename
    case case1 entry second others =>
      simpa using absent entry (by simp)
    case case2 => rfl

/-- The first pair with the name is taken out. -/
theorem of_present {before : List (String × Int)} (behind : List (String × Int))
    {entry : String × Int}
    (absent : ∀ other ∈ before, other.1 ≠ filename) (named : entry.1 = filename) :
    fdOf (before ++ entry :: behind) filename = entry.2 ∧
      takenOut (before ++ entry :: behind) filename = before ++ behind ∧
      (firstOfSeveral (before ++ entry :: behind) filename = false ↔
        before ≠ [] ∨ behind = []) := by
  have skipped : before.find? (fun other => other.1 = filename) = none := by
    simpa using absent
  refine ⟨?_, ?_, ?_⟩
  · simp [fdOf, List.find?_append, skipped, named]
  · rw [takenOut, List.eraseP_append_right _ (by simpa using absent)]
    simp [named]
  · cases before with
    | nil => cases behind <;> simp [firstOfSeveral, named]
    | cons head before =>
        have other := absent head (by simp)
        cases before <;> simp [firstOfSeveral, other]

/-- The list loses its start if `preopened_port` has pointed to the node and others are left. -/
theorem Shape.unlink {before behind : List (String × Int)} {entry : String × Int}
    (shape : ports.Shape (front ++ q :: back) (before ++ entry :: behind))
    (isFront : front.map ports.pair = before.map some)
    (isBack : back.map ports.pair = behind.map some)
    (starts : ports.preopenedPort = (front ++ q :: back).head?)
    (found : ports.memory q = some node) :
    ∃ after, ports.unlink q node = some after ∧
      (after.Lists (before ++ behind) ↔ before ≠ [] ∨ behind = []) := by
  obtain ⟨after, unlinked, memory, head, allocated⟩ :=
    unlink_eq_some shape.list (fun p => shape.allocated) found
  have remaining := shape.remove isFront isBack memory allocated
  have noFront : front = [] ↔ before = [] := by
    rw [← List.map_eq_nil_iff, isFront, List.map_eq_nil_iff]
  have noBack : back = [] ↔ behind = [] := by
    rw [← List.map_eq_nil_iff, isBack, List.map_eq_nil_iff]
  refine ⟨after, unlinked, ?_⟩
  rw [remaining.lists_iff ?known, head, starts, ← noBack, ne_eq, ← noFront]
  case known =>
    intro p isHead
    rw [head] at isHead
    split at isHead
    next => simp at isHead
    next notSingle =>
      rw [starts] at isHead
      cases front with
      | nil =>
          obtain rfl : q = p := by simpa using isHead
          exact .inr (by simp [memory])
      | cons other front => exact .inl (by simp_all)
  cases front with
  | nil =>
      cases back with
      | nil => simp
      | cons next back =>
          have nodup := shape.list.nodup
          simp_all
  | cons other front => simp

/-- `find_preopened_ports` returns the file descriptor of the pair, and loses the
list when the pair is the first of several. -/
theorem Lists.findPreopenedPorts (lists : ports.Lists pairs) (enough : ports.allocated ≤ fuel)
    (filename : String) :
    ∃ after, ports.findPreopenedPorts fuel filename = some (fdOf pairs filename, after) ∧
      (after.Lists (takenOut pairs filename) ↔ firstOfSeveral pairs filename = false) := by
  obtain ⟨nodes, shape, starts⟩ := lists
  cases nodes with
  | nil =>
      have noPairs : pairs = [] := by simpa using shape.length_eq.symm
      subst noPairs
      refine ⟨ports, by simp [PreopenedPorts.findPreopenedPorts, starts, fdOf], ?_⟩
      simp only [firstOfSeveral, iff_true]
      exact ⟨[], shape, starts⟩
  | cons first rest =>
      have chain : Chain ports.next (some first) (first :: rest) := shape.list.chain
      have walk := findFrom_eq filename chain (fun q => shape.allocated)
        (shape.length_le.trans enough)
      simp only [PreopenedPorts.findPreopenedPorts, starts, List.head?_cons, walk]
      cases located : (first :: rest).find? (ports.hasName filename) with
      | none =>
          obtain ⟨noFd, same, notFirst⟩ := of_absent ((find?_eq_none_iff shape.pairs).mp located)
          refine ⟨ports, by simp [noFd], ?_⟩
          rw [same, notFirst]
          simp only [iff_true]
          exact ⟨first :: rest, shape, starts⟩
      | some q =>
          obtain ⟨hasName, front, back, split, others⟩ :=
            List.find?_eq_some_iff_append.mp located
          rw [split] at shape starts
          obtain ⟨before, entry, behind, rfl, isFront, isEntry, isBack⟩ := shape.split
          have named : entry.1 = filename := by simpa [hasName_eq, isEntry] using hasName
          have absent : ∀ other ∈ before, other.1 ≠ filename := by
            rw [← find?_eq_none_iff isFront, List.find?_eq_none]
            simpa using others
          obtain ⟨isFd, taken, several⟩ := of_present behind absent named
          obtain ⟨node, found⟩ :=
            Option.isSome_iff_exists.mp (shape.allocated (p := q) (by simp))
          have fd : node.fd = entry.2 := by
            simp only [pair, found, Option.map_some, Option.some.injEq] at isEntry
            rw [← isEntry]
          obtain ⟨after, unlinked, listed⟩ := shape.unlink isFront isBack starts found
          refine ⟨after, by simp [found, unlinked, isFd, fd], ?_⟩
          rw [taken, several, listed]

end Find

section Add

variable {ports after : PreopenedPorts} {p : PreopenedRef} {filename : String} {fd : Int}
  {nodes : List PreopenedRef} {pairs : List (String × Int)} {fuel : Nat}

/-- The new node of `static_add_filename` before it is linked. -/
def allocate (ports : PreopenedPorts) (filename : String) (fd : Int) : PreopenedPorts :=
  { ports with
    memory := Function.update ports.memory ports.allocated (some ⟨filename, fd, none, none⟩)
    allocated := ports.allocated + 1 }

theorem staticAddFilename_eq (ports : PreopenedPorts) (fuel : Nat) (filename : String)
    (fd : Int) :
    ports.staticAddFilename fuel filename fd =
      match ports.preopenedPort with
      | none =>
          some { ports.allocate filename fd with preopenedPort := some ports.allocated }
      | some p => (ports.allocate filename fd).addFrom filename ports.allocated fuel p :=
  rfl

theorem Shape.ne_allocated (shape : ports.Shape nodes pairs) (member : p ∈ nodes) :
    p ≠ ports.allocated :=
  (shape.fresh p (shape.allocated member)).ne

/-- Allocating a node leaves the list as it is. -/
theorem Shape.allocate (shape : ports.Shape nodes pairs) (filename : String) (fd : Int) :
    (ports.allocate filename fd).Shape nodes pairs := by
  have kept : ∀ p ∈ nodes, (ports.allocate filename fd).memory p = ports.memory p := by
    intro p member
    exact Function.update_of_ne (shape.ne_allocated member) _ _
  constructor
  case list =>
    apply shape.list.congr
    · intro p member
      rw [PreopenedPorts.next, kept p member, PreopenedPorts.next]
    · intro p member
      rw [PreopenedPorts.prev, kept p member, PreopenedPorts.prev]
  case pairs =>
    rw [← shape.pairs]
    apply List.map_congr_left
    intro p member
    rw [pair, kept p member, pair]
  case fresh =>
    intro p allocated
    by_cases new : p = ports.allocated
    · simp [PreopenedPorts.allocate, new]
    · have before : (ports.memory p).isSome = true := by
        simpa [PreopenedPorts.allocate, new] using allocated
      exact (shape.fresh p before).trans (Nat.lt_succ_self _)

/-- Linking a node behind the last one adds its pair to the pairs. -/
theorem Shape.append {newp : PreopenedRef} (shape : ports.Shape nodes pairs)
    (new : newp ∉ nodes) (bound : newp < ports.allocated)
    (memory : ∀ p, after.memory p =
      if p = newp then some ⟨filename, fd, none, nodes.getLast?⟩
      else (ports.memory p).map fun other =>
        { other with next := if nodes.getLast? = some p then some newp else other.next })
    (allocated : after.allocated = ports.allocated) :
    after.Shape (nodes ++ [newp]) (pairs ++ [(filename, fd)]) := by
  have stays : ∀ p ∈ nodes, p ≠ newp := by
    intro p member same
    exact new (same ▸ member)
  constructor
  case list =>
    apply Doubly.insert
    · simpa using shape.list
    · intro p member
      have inList := shape.allocated (p := p) (by simpa using member)
      obtain ⟨node, found⟩ := Option.isSome_iff_exists.mp inList
      simp [PreopenedPorts.next, memory, stays p (by simpa using member), found]
    · simp [PreopenedPorts.next, memory]
    · intro p member
      have inList := shape.allocated (p := p) (by simpa using member)
      obtain ⟨node, found⟩ := Option.isSome_iff_exists.mp inList
      simp [PreopenedPorts.prev, memory, stays p (by simpa using member), found]
    · simp [PreopenedPorts.prev, memory]
  case pairs =>
    have kept : ∀ p ∈ nodes, after.pair p = ports.pair p := by
      intro p member
      simp only [pair, memory, if_neg (stays p member), Option.map_map]
      rfl
    rw [List.map_append, List.map_congr_left kept, shape.pairs]
    simp [pair, memory]
  case fresh =>
    intro p isAllocated
    rw [allocated]
    by_cases same : p = newp
    · exact same ▸ bound
    · apply shape.fresh p
      simpa [memory, same] using isAllocated

/-- Among nodes without duplicates, the first is the last only if it is alone. -/
theorem getLast?_eq_head_iff {first : PreopenedRef} {rest : List PreopenedRef}
    (nodup : (first :: rest).Nodup) :
    (first :: rest).getLast? = some first ↔ rest = [] := by
  cases rest with
  | nil => simp
  | cons second rest =>
      rw [List.getLast?_cons_cons]
      refine iff_of_false (fun isLast => ?_) (List.cons_ne_nil _ _)
      exact (List.nodup_cons.mp nodup).1 (List.mem_of_getLast? isLast)

/-- The only node. -/
theorem Shape.allocate_first (shape : ports.Shape [] pairs) (filename : String) (fd : Int) :
    ({ ports.allocate filename fd with preopenedPort := some ports.allocated } :
      PreopenedPorts).Shape [ports.allocated] [(filename, fd)] := by
  have noPairs : pairs = [] := by simpa using shape.length_eq.symm
  have grown := noPairs ▸ shape.allocate filename fd
  have isNew : (ports.allocate filename fd).memory ports.allocated =
      some ⟨filename, fd, none, none⟩ := by simp [PreopenedPorts.allocate]
  refine grown.append List.not_mem_nil (Nat.lt_succ_self _) (fun p => ?_) rfl
  split
  next same => simpa [same] using isNew
  next => simp

section Several

variable {first : PreopenedRef} {rest : List PreopenedRef}

/-- The walk over a list that is not empty. -/
theorem Shape.staticAddFilename_cons (shape : ports.Shape (first :: rest) pairs)
    (starts : ports.preopenedPort = some first) (enough : ports.allocated ≤ fuel)
    (filename : String) (fd : Int) :
    ports.staticAddFilename fuel filename fd =
      if ∃ entry ∈ pairs, entry.1 = filename then some (ports.allocate filename fd)
      else (first :: rest).getLast?.bind
        ((ports.allocate filename fd).append ports.allocated) := by
  have grown := shape.allocate filename fd
  have chain : Chain (ports.allocate filename fd).next (some first) (first :: rest) :=
    grown.list.chain
  have absent : (first :: rest).find? ((ports.allocate filename fd).hasName filename) = none ↔
      ∀ entry ∈ pairs, entry.1 ≠ filename := find?_eq_none_iff grown.pairs
  have named : (first :: rest).any ((ports.allocate filename fd).hasName filename) = true ↔
      ∃ entry ∈ pairs, entry.1 = filename := by
    rw [← Bool.not_eq_false, List.any_eq_false, ← List.find?_eq_none, absent]
    simp
  simp only [staticAddFilename_eq, starts, addFrom_eq filename ports.allocated chain
    (fun q => grown.allocated) (shape.length_le.trans enough), named]

/-- A new pair behind several loses the list. -/
theorem Shape.append_last (shape : ports.Shape (first :: rest) pairs) (filename : String)
    (fd : Int) :
    ∃ after, (first :: rest).getLast?.bind
        ((ports.allocate filename fd).append ports.allocated) = some after ∧
      (after.Lists (pairs ++ [(filename, fd)]) ↔ rest = []) := by
  have grown := shape.allocate filename fd
  have isNew : (ports.allocate filename fd).memory ports.allocated =
      some ⟨filename, fd, none, none⟩ := by simp [PreopenedPorts.allocate]
  have new : ports.allocated ∉ first :: rest := fun member => shape.ne_allocated member rfl
  obtain ⟨last, isLast⟩ : ∃ last, (first :: rest).getLast? = some last :=
    ⟨_, List.getLast?_eq_some_getLast (by simp)⟩
  have inNodes : last ∈ first :: rest := List.mem_of_getLast? isLast
  obtain ⟨after, appended, memory, head, allocated⟩ :=
    append_eq_some isNew (grown.allocated inNodes) (shape.ne_allocated inNodes)
  have linked : after.Shape ((first :: rest) ++ [ports.allocated])
      (pairs ++ [(filename, fd)]) := by
    apply grown.append new (Nat.lt_succ_self _) ?_ allocated
    intro p
    rw [memory, isLast]
    simp [eq_comm]
  refine ⟨after, by rw [isLast, Option.bind_some, appended], ?_⟩
  rw [linked.lists_iff ?known, head, ← getLast?_eq_head_iff shape.list.nodup, isLast]
  case known =>
    intro p isHead
    rw [head, Option.some.injEq] at isHead
    subst isHead
    exact .inl (List.mem_append_left _ inNodes)
  rfl

end Several

/-- `static_add_filename` always has a result, and loses the list when it adds a pair
to several. -/
theorem Lists.staticAddFilename (lists : ports.Lists pairs) (enough : ports.allocated ≤ fuel)
    (filename : String) (fd : Int) :
    ∃ after, ports.staticAddFilename fuel filename fd = some after ∧
      (after.Lists (added pairs filename fd) ↔
        (∃ entry ∈ pairs, entry.1 = filename) ∨ pairs.length ≤ 1) := by
  obtain ⟨nodes, shape, starts⟩ := lists
  cases nodes with
  | nil =>
      have noPairs : pairs = [] := by simpa using shape.length_eq.symm
      refine ⟨{ ports.allocate filename fd with preopenedPort := some ports.allocated },
        by rw [staticAddFilename_eq, starts, List.head?_nil], ?_⟩
      subst noPairs
      simp only [List.length_nil, Nat.zero_le, or_true, iff_true]
      exact ⟨[ports.allocated], shape.allocate_first filename fd, rfl⟩
  | cons first rest =>
      rw [shape.staticAddFilename_cons starts enough]
      by_cases present : ∃ entry ∈ pairs, entry.1 = filename
      · have same : added pairs filename fd = pairs := by simpa [added] using present
        refine ⟨ports.allocate filename fd, if_pos present, ?_⟩
        rw [same]
        exact iff_of_true ⟨first :: rest, shape.allocate filename fd, starts⟩ (.inl present)
      · have grows : added pairs filename fd = pairs ++ [(filename, fd)] := by
          simpa [added] using present
        obtain ⟨after, appended, listed⟩ := shape.append_last filename fd
        refine ⟨after, by rw [if_neg present, appended], ?_⟩
        rw [grows, listed, or_iff_right present, ← shape.length_eq, List.length_cons]
        simp

end Add

end PreopenedPorts

/-! ## Runs -/

/-- The list beside the pairs that have been added and not taken out. -/
structure ListRun where
  ports : PreopenedPorts
  pairs : List (String × Int)
  /-- a call has written behind the end of `filename`, or through the null pointer -/
  overrun : Bool

/-- A call of one of the two functions; `malloc` tells whether the allocation succeeds. -/
inductive ListCall where
  | find (filename : String)
  | add (filename : String) (fd : Int) (malloc : Bool)
  deriving DecidableEq, Repr

/-- The name and its final NUL fit into `char filename[40]`. -/
def fits (filename : String) : Bool :=
  filename.utf8ByteSize < 40

namespace ListRun

variable (run : ListRun)

/-- What a call returns (0 for the `void` function) and leaves behind. -/
def call : ListCall → Option (Int × ListRun)
  | .find filename => do
      let (fd, ports) ← run.ports.findPreopenedPorts run.ports.allocated filename
      some (fd, { run with ports, pairs := PreopenedPorts.takenOut run.pairs filename })
  | .add filename fd malloc =>
      if malloc && fits filename then do
        let ports ← run.ports.staticAddFilename run.ports.allocated filename fd
        some (0, { run with ports, pairs := PreopenedPorts.added run.pairs filename fd })
      else some (0, { run with overrun := true })

/-- What a call should return. -/
def answer : ListCall → Int
  | .find filename => PreopenedPorts.fdOf run.pairs filename
  | .add .. => 0

/-- The list is a doubly linked list of the pairs, with one pair for each name. -/
structure Intact : Prop where
  lists : run.ports.Lists run.pairs
  names : (run.pairs.map Prod.fst).Nodup
  within : run.overrun = false

/-- The calls that keep the list: not taking out the first of several pairs, and not
adding a pair to several. -/
def Keeps : ListCall → Prop
  | .find filename => PreopenedPorts.firstOfSeveral run.pairs filename = false
  | .add filename _ malloc =>
      malloc = true ∧ fits filename = true ∧
        ((∃ pair ∈ run.pairs, pair.1 = filename) ∨ run.pairs.length ≤ 1)

instance (run : ListRun) : (call : ListCall) → Decidable (run.Keeps call)
  | .find _ => inferInstanceAs (Decidable (_ = _))
  | .add .. => inferInstanceAs (Decidable (_ ∧ _ ∧ _))

end ListRun

/-- All calls, in any order, from the empty list. -/
def listRuns : System ListRun ListCall where
  start := fun run => run = ⟨PreopenedPorts.empty, [], false⟩
  step := fun run call => (run.call call).map Prod.snd

namespace ListRun

variable {run : ListRun}

theorem intact_empty : Intact ⟨PreopenedPorts.empty, [], false⟩ where
  lists := ⟨[], ⟨doubly_nil, rfl, by simp [PreopenedPorts.empty]⟩, rfl⟩
  names := List.nodup_nil
  within := rfl

/-- The names stay apart when a pair is taken out or added. -/
theorem names_takenOut {pairs : List (String × Int)} (names : (pairs.map Prod.fst).Nodup)
    (filename : String) : ((PreopenedPorts.takenOut pairs filename).map Prod.fst).Nodup :=
  names.sublist (List.eraseP_sublist.map Prod.fst)

theorem names_added {pairs : List (String × Int)} (names : (pairs.map Prod.fst).Nodup)
    (filename : String) (fd : Int) :
    ((PreopenedPorts.added pairs filename fd).map Prod.fst).Nodup := by
  unfold PreopenedPorts.added
  split
  next => exact names
  next absent =>
    rw [Bool.not_eq_true, List.any_eq_false] at absent
    rw [List.map_append, List.map_singleton, ← List.concat_eq_append, List.nodup_concat]
    refine ⟨?_, names⟩
    intro member
    obtain ⟨pair, inPairs, same⟩ := List.mem_map.mp member
    exact absent pair inPairs (by simpa using same)

/-- Every call on an intact list returns what it should, and keeps the list intact if
and only if it is one of those that do. -/
theorem Intact.call (intact : run.Intact) (call : ListCall) :
    ∃ next, run.call call = some (run.answer call, next) ∧ (next.Intact ↔ run.Keeps call) := by
  cases call with
  | find filename =>
      obtain ⟨ports, found, kept⟩ := intact.lists.findPreopenedPorts le_rfl filename
      refine ⟨{ run with ports, pairs := PreopenedPorts.takenOut run.pairs filename },
        by simp [ListRun.call, found, answer], ?_⟩
      rw [Keeps, ← kept]
      constructor
      · intro after
        exact after.lists
      · intro lists
        exact ⟨lists, names_takenOut intact.names filename, intact.within⟩
  | add filename fd malloc =>
      by_cases writes : (malloc && fits filename) = true
      · obtain ⟨ports, added, kept⟩ := intact.lists.staticAddFilename le_rfl filename fd
        refine ⟨{ run with ports, pairs := PreopenedPorts.added run.pairs filename fd },
          by simp [ListRun.call, writes, added, answer], ?_⟩
        rw [Bool.and_eq_true] at writes
        rw [Keeps, ← kept]
        constructor
        · intro after
          exact ⟨writes.1, writes.2, after.lists⟩
        · rintro ⟨-, -, lists⟩
          exact ⟨lists, names_added intact.names filename fd, intact.within⟩
      · refine ⟨{ run with overrun := true }, by simp [ListRun.call, writes, answer], ?_⟩
        rw [Bool.and_eq_true] at writes
        constructor
        · intro after
          exact absurd after.within (by simp)
        · rintro ⟨allocated, fitting, -⟩
          exact absurd ⟨allocated, fitting⟩ writes

/-- In a run of calls that keep the list it is intact in every state, and each further
call returns the file descriptor of the pair present for its name, or 0. -/
theorem preopened_list_intact (reached : listRuns.ReachedBy Keeps run) :
    run.Intact ∧ ∀ call, ∃ next, run.call call = some (run.answer call, next) ∧
      (next.Intact ↔ run.Keeps call) := by
  have intact : run.Intact := by
    refine reached.invariant ?_ ?_
    · rintro _ rfl
      exact intact_empty
    · intro before call after held keeps stepped
      obtain ⟨next, called, kept⟩ := held.call call
      simp only [listRuns, called, Option.map_some, Option.some.injEq] at stepped
      subst stepped
      exact kept.mpr keeps
  exact ⟨intact, intact.call⟩

/-- One port is preopened and taken out again, and then another one. -/
theorem preopened_list_intact_single :
    ∃ run : ListRun, run.pairs = [("/dev/ttyS1", 6)] ∧ run.Intact ∧
      ∃ next, run.call (.find "/dev/ttyS1") = some (6, next) ∧ next.Intact := by
  have started : listRuns.ReachedBy Keeps ⟨PreopenedPorts.empty, [], false⟩ := .start rfl
  have reached := started.runAllowed
    [.find "/dev/ttyS0", .add "/dev/ttyS0" 5 true, .find "/dev/ttyS0", .add "/dev/ttyS1" 6 true]
    rfl
  obtain ⟨intact, calls⟩ := preopened_list_intact reached
  obtain ⟨next, found, kept⟩ := calls (.find "/dev/ttyS1")
  exact ⟨_, rfl, intact, next, found, kept.mpr rfl⟩

/-- Two ports are preopened and the first is opened: `preopened_port` then points to
the freed node, and the next call reads it. -/
theorem preopenedPort_dangles :
    ∃ run, listRuns.Reachable run ∧ run.pairs = [("/dev/ttyS1", 6)] ∧
      (∃ p, run.ports.preopenedPort = some p ∧ run.ports.memory p = none) ∧
      run.call (.find "/dev/ttyS1") = none := by
  refine ⟨_, System.reachable_of_run [.find "/dev/ttyS0", .add "/dev/ttyS0" 5 true,
    .find "/dev/ttyS1", .add "/dev/ttyS1" 6 true, .find "/dev/ttyS0"] rfl rfl, rfl, ?_, rfl⟩
  exact ⟨0, rfl, rfl⟩

end ListRun

end Jrxtx.SerialImp
