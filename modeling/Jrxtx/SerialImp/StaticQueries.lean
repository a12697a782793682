import Jrxtx.SerialImp.Decoders
import Jrxtx.SerialImp.PreopenedList

/-!
# Asking preopened ports

The functions `nativeStaticIs...` and `nativeStaticGet...`, in any order and any
number.  Each looks its port up with `find_preopened_ports`, which takes the port
out of the list: to ask is to close the list to the next question.
-/

namespace Jrxtx.SerialImp

open Jrxtx.Heap Jrxtx.Transition

/-- What the system calls say about a file descriptor; `none` if the call fails. -/
structure QueryDevice where
  /-- `ioctl(fd, TIOCMGET, &result)` -/
  tiocmget : Int → Option (BitVec 32)
  /-- `c_cflag` after `tcgetattr(fd, &ttyset)` -/
  tcgetattr : Int → Option (BitVec 32)

/-- The ten functions. -/
inductive StaticQuery where
  | isRTS
  | isDSR
  | isDTR
  | isCD
  | isCTS
  | isRI
  | getBaudRate
  | getDataBits
  | getParity
  | getStopBits
  deriving DecidableEq, Repr

/-- A `jboolean` or a `jint`. -/
inductive Answer where
  | boolean (value : Bool)
  | int (value : Int)
  deriving DecidableEq, Repr

namespace QueryDevice

variable (device : QueryDevice)

/-- The modem line of a file descriptor.  Nothing checks `TIOCMGET`, and `result` is 0
before it. -/
def isLine (line : BitVec 32) (fd : Int) : Answer :=
  if fd = 0 then .boolean false
  else .boolean (decide ((device.tiocmget fd).getD 0 &&& line ≠ 0))

/-- A setting of a file descriptor. -/
def getSetting (read : BitVec 32 → Int) (fd : Int) : Answer :=
  if fd = 0 then .int (-1)
  else
    match device.tcgetattr fd with
    | none => .int (-1)
    | some cflag => .int (read cflag)

end QueryDevice

/-- `get_java_baudrate(ttyset.c_cflag & CBAUD)` -/
def staticBaudRate (cflag : BitVec 32) : Int :=
  getJavaBaudrate (cflag &&& 0x100f).toNat

namespace PreopenedPorts

variable (ports : PreopenedPorts) (device : QueryDevice) (filename : String)

/-- What the ten functions have in common: find the port, then ask for `fd`. -/
def static (ask : Int → Answer) : Option (Answer × PreopenedPorts) := do
  let (fd, ports) ← ports.findPreopenedPorts ports.allocated filename
  some (ask fd, ports)

def nativeStaticIsRTS := ports.static filename (device.isLine 0x004)

def nativeStaticIsDSR := ports.static filename (device.isLine 0x100)

def nativeStaticIsDTR := ports.static filename (device.isLine 0x002)

def nativeStaticIsCD := ports.static filename (device.isLine 0x040)

def nativeStaticIsCTS := ports.static filename (device.isLine 0x020)

def nativeStaticIsRI := ports.static filename (device.isLine 0x080)

def nativeStaticGetBaudRate := ports.static filename (device.getSetting staticBaudRate)

def nativeStaticGetDataBits := ports.static filename (device.getSetting staticDataBits)

def nativeStaticGetParity := ports.static filename (device.getSetting staticParity)

def nativeStaticGetStopBits := ports.static filename (device.getSetting staticStopBits)

/-- One query. -/
def query : StaticQuery → Option (Answer × PreopenedPorts)
  | .isRTS => ports.nativeStaticIsRTS device filename
  | .isDSR => ports.nativeStaticIsDSR device filename
  | .isDTR => ports.nativeStaticIsDTR device filename
  | .isCD => ports.nativeStaticIsCD device filename
  | .isCTS => ports.nativeStaticIsCTS device filename
  | .isRI => ports.nativeStaticIsRI device filename
  | .getBaudRate => ports.nativeStaticGetBaudRate device filename
  | .getDataBits => ports.nativeStaticGetDataBits device filename
  | .getParity => ports.nativeStaticGetParity device filename
  | .getStopBits => ports.nativeStaticGetStopBits device filename

/-- One query after the other: their answers and the list that remains. -/
def queries : PreopenedPorts → List (StaticQuery × String) →
    Option (List Answer × PreopenedPorts)
  | ports, [] => some ([], ports)
  | ports, (query, filename) :: asked => do
      let (answer, ports) ← ports.query device filename query
      let (answers, ports) ← ports.queries asked
      some (answer :: answers, ports)

end PreopenedPorts

/-- The answer for the file descriptor of a port. -/
def QueryDevice.answer (device : QueryDevice) : StaticQuery → Int → Answer
  | .isRTS => device.isLine 0x004
  | .isDSR => device.isLine 0x100
  | .isDTR => device.isLine 0x002
  | .isCD => device.isLine 0x040
  | .isCTS => device.isLine 0x020
  | .isRI => device.isLine 0x080
  | .getBaudRate => device.getSetting staticBaudRate
  | .getDataBits => device.getSetting staticDataBits
  | .getParity => device.getSetting staticParity
  | .getStopBits => device.getSetting staticStopBits

namespace PreopenedPorts

/-! ## States of the list -/

/-- The list from `preopened_port` on holds `pairs`.  There may be nodes before that one,
as `static_add_filename` moves `preopened_port`. -/
def Holds (ports : PreopenedPorts) (pairs : List (String × Int)) : Prop :=
  ∃ front back before, ports.Shape (front ++ back) (before ++ pairs) ∧
    front.length = before.length ∧ ports.preopenedPort = back.head?

/-- `preopened_port` points to a freed node: `malloc` has given out its address. -/
def Dangles (ports : PreopenedPorts) : Prop :=
  ∃ p, ports.preopenedPort = some p ∧ p < ports.allocated ∧ ports.memory p = none

/-- The pairs that can be found: none if `preopened_port` points to a freed node. -/
def Preopened (ports : PreopenedPorts) (pairs : List (String × Int)) : Prop :=
  ports.Holds pairs ∨ ports.Dangles ∧ pairs = []

/-- The list has lost a pair that was among `count`. -/
def Lost (ports : PreopenedPorts) (count : Nat) : Prop :=
  ports.Dangles ∨ ∃ pairs, ports.Holds pairs ∧ pairs.length < count

section States

variable {ports after : PreopenedPorts} {filename : String} {fd : Int} {count : Nat}
  {before pairs others : List (String × Int)} {front back : List PreopenedRef}

theorem Dangles.findPreopenedPorts (dangles : ports.Dangles) (fuel : Nat) (filename : String) :
    ports.findPreopenedPorts fuel filename = none := by
  obtain ⟨p, points, -, freed⟩ := dangles
  cases fuel <;> simp [PreopenedPorts.findPreopenedPorts, points, findFrom, freed]

/-- The last nodes of a list are a chain of their own. -/
theorem Shape.chain_back (shape : ports.Shape (front ++ back) pairs) :
    Chain ports.next back.head? back := by
  apply chain_of_next
  intro left p right split
  exact shape.list.next (front ++ left) p right (by simp [split])

theorem Shape.back_length_le (shape : ports.Shape (front ++ back) pairs) :
    back.length ≤ ports.allocated := by
  have bound := shape.length_le
  rw [List.length_append] at bound
  exact (Nat.le_add_left _ _).trans bound

theorem Shape.back_allocated (shape : ports.Shape (front ++ back) pairs) :
    ∀ q ∈ back, (ports.memory q).isSome = true := by
  intro q member
  exact shape.allocated (List.mem_append_right front member)

/-- Nodes and pairs that are split at the same place belong together. -/
theorem Shape.pairs_split (shape : ports.Shape (front ++ back) (before ++ pairs))
    (lengths : front.length = before.length) :
    front.map ports.pair = before.map some ∧ back.map ports.pair = pairs.map some := by
  have whole := shape.pairs
  rw [List.map_append, List.map_append (f := some)] at whole
  exact List.append_inj whole (by simpa using lengths)

theorem Holds.not_dangles (holds : ports.Holds pairs) : ¬ports.Dangles := by
  rintro ⟨p, points, -, freed⟩
  obtain ⟨front, back, before, shape, -, starts⟩ := holds
  have member : p ∈ back := List.mem_of_head? (starts.symm.trans points)
  have allocated := shape.allocated (p := p) (by simp [member])
  simp [freed] at allocated

/-- The pairs are determined by the state. -/
theorem Holds.unique (holds : ports.Holds pairs) (other : ports.Holds others) :
    pairs = others := by
  obtain ⟨front, back, before, shape, lengths, starts⟩ := holds
  obtain ⟨front', back', before', shape', lengths', starts'⟩ := other
  have chain := shape.chain_back
  have chain' := shape'.chain_back
  rw [← starts] at chain
  rw [← starts'] at chain'
  have same : pairs.map some = others.map some := by
    rw [← (shape.pairs_split lengths).2, ← (shape'.pairs_split lengths').2, chain.unique chain']
  exact List.map_injective_iff.mpr (Option.some_injective _) same

theorem Lost.not_preopened (lost : ports.Lost pairs.length) (some : pairs ≠ []) :
    ¬ports.Preopened pairs := by
  rintro (holds | ⟨-, none⟩)
  · rcases lost with dangles | ⟨fewer, fewerHold, less⟩
    · exact holds.not_dangles dangles
    · exact less.ne (congrArg List.length (fewerHold.unique holds))
  · exact some none

/-- What follows `preopened_port` is searched from there. -/
theorem Shape.findPreopenedPorts_eq
    (shape : ports.Shape (front ++ back) others) (starts : ports.preopenedPort = back.head?)
    (filename : String) :
    ports.findPreopenedPorts ports.allocated filename =
      match back.find? (ports.hasName filename) with
      | some q =>
          (ports.memory q).bind fun node =>
            (ports.unlink q node).map fun after => (node.fd, after)
      | none => some (0, ports) := by
  cases back with
  | nil => simp [PreopenedPorts.findPreopenedPorts, starts]
  | cons first rest =>
      rw [PreopenedPorts.findPreopenedPorts, starts]
      exact findFrom_eq filename shape.chain_back shape.back_allocated shape.back_length_le

/-- A port that is not preopened is not found, and nothing changes. -/
theorem Holds.find_absent (holds : ports.Holds pairs)
    (absent : ∀ entry ∈ pairs, entry.1 ≠ filename) :
    ports.findPreopenedPorts ports.allocated filename = some (fdOf pairs filename, ports) := by
  obtain ⟨front, back, before, shape, lengths, starts⟩ := holds
  have isBack := (shape.pairs_split lengths).2
  rw [shape.findPreopenedPorts_eq starts, (find?_eq_none_iff isBack).mpr absent,
    (of_absent absent).1]

/-- Taking a node out loses its pair, and the whole list if the node is the first of
several. -/
theorem Shape.unlink_lost {left right : List PreopenedRef} {q : PreopenedRef}
    {node : SerialImp.Preopened} {leftPairs rightPairs : List (String × Int)}
    {entry : String × Int}
    (shape : ports.Shape (front ++ left ++ q :: right)
      (before ++ leftPairs ++ entry :: rightPairs))
    (isFront : front.map ports.pair = before.map some)
    (isLeft : left.map ports.pair = leftPairs.map some)
    (isRight : right.map ports.pair = rightPairs.map some)
    (starts : ports.preopenedPort = (left ++ q :: right).head?)
    (found : ports.memory q = some node) :
    ∃ after, ports.unlink q node = some after ∧
      after.Lost (leftPairs ++ entry :: rightPairs).length := by
  have lengths : front.length = before.length := by simpa using congrArg List.length isFront
  obtain ⟨after, unlinked, memory, head, allocated⟩ :=
    unlink_eq_some shape.list (fun p => shape.allocated) found
  have isBefore : (front ++ left).map ports.pair = (before ++ leftPairs).map some := by
    rw [List.map_append, isFront, isLeft, List.map_append]
  have remaining := shape.remove isBefore isRight memory allocated
  rw [List.append_assoc, List.append_assoc] at remaining
  refine ⟨after, unlinked, ?_⟩
  cases left with
  | nil =>
      obtain rfl : leftPairs = [] := by simpa using isLeft.symm
      rw [starts, List.nil_append, List.head?_cons] at head
      by_cases single : front ++ [] = [] ∧ right = []
      · rw [if_pos single] at head
        obtain ⟨-, rfl⟩ := single
        obtain rfl : rightPairs = [] := by simpa using isRight.symm
        exact .inr ⟨[], ⟨front, [], before, remaining, lengths, head⟩, by simp⟩
      · rw [if_neg single] at head
        have below : q < ports.allocated := shape.fresh q (by simp [found])
        exact .inl ⟨q, head, allocated ▸ below, by simp [memory]⟩
  | cons first left =>
      rw [if_neg (by simp), starts] at head
      exact .inr ⟨leftPairs ++ rightPairs, ⟨front, first :: left ++ right, before, remaining,
        lengths, head⟩, by simp⟩

/-- A preopened port is found, and is no longer there afterwards. -/
theorem Holds.find_present (holds : ports.Holds pairs)
    (present : ∃ entry ∈ pairs, entry.1 = filename) :
    ∃ fd after, ports.findPreopenedPorts ports.allocated filename = some (fd, after) ∧
      after.Lost pairs.length := by
  obtain ⟨front, back, before, shape, lengths, starts⟩ := holds
  obtain ⟨isFront, isBack⟩ := shape.pairs_split lengths
  have walk := shape.findPreopenedPorts_eq starts filename
  obtain ⟨q, located⟩ : ∃ q, back.find? (ports.hasName filename) = some q := by
    rw [← Option.isSome_iff_exists, ← Option.ne_none_iff_isSome, ne_eq, find?_eq_none_iff isBack]
    obtain ⟨entry, member, named⟩ := present
    intro absent
    exact absent entry member named
  obtain ⟨-, left, right, rfl, -⟩ := List.find?_eq_some_iff_append.mp located
  obtain ⟨node, found⟩ := Option.isSome_iff_exists.mp (shape.allocated (p := q) (by simp))
  rw [List.map_append, List.map_cons, eq_comm, List.map_eq_append_iff] at isBack
  obtain ⟨leftPairs, rest, rfl, isLeft, isRest⟩ := isBack
  rw [List.map_eq_cons_iff] at isRest
  obtain ⟨entry, rightPairs, rfl, -, isRight⟩ := isRest
  rw [← List.append_assoc, ← List.append_assoc] at shape
  obtain ⟨after, unlinked, lost⟩ :=
    shape.unlink_lost isFront isLeft.symm isRight.symm starts found
  exact ⟨node.fd, after, by simp [walk, located, found, unlinked], lost⟩

end States

section Reachable

variable {ports after : PreopenedPorts} {filename : String} {fd : Int}
  {pairs : List (String × Int)} {front back : List PreopenedRef}

theorem Lost.preopened {count : Nat} (lost : ports.Lost count) :
    ∃ pairs, ports.Preopened pairs := by
  rcases lost with dangles | ⟨pairs, holds, -⟩
  · exact ⟨[], .inr ⟨dangles, rfl⟩⟩
  · exact ⟨pairs, .inl holds⟩

theorem Dangles.staticAddFilename (dangles : ports.Dangles) (fuel : Nat) :
    ports.staticAddFilename fuel filename fd = none := by
  obtain ⟨p, points, below, freed⟩ := dangles
  rw [staticAddFilename_eq, points]
  cases fuel <;> simp [addFrom, PreopenedPorts.allocate, below.ne, freed]

theorem Preopened.find (preopened : ports.Preopened pairs)
    (found : ports.findPreopenedPorts ports.allocated filename = some (fd, after)) :
    ∃ pairs, after.Preopened pairs := by
  rcases preopened with holds | ⟨dangles, -⟩
  · by_cases present : ∃ entry ∈ pairs, entry.1 = filename
    · obtain ⟨_, _, finds, lost⟩ := holds.find_present present
      rw [found, Option.some.injEq, Prod.mk.injEq] at finds
      exact (finds.2 ▸ lost).preopened
    · push Not at present
      rw [holds.find_absent present, Option.some.injEq, Prod.mk.injEq] at found
      exact ⟨pairs, .inl (found.2 ▸ holds)⟩
  · simp [dangles.findPreopenedPorts] at found

/-- The list goes on from the node before the one appended. -/
theorem Holds.of_appended {nodes : List PreopenedRef} {newp last : PreopenedRef}
    {entry : String × Int} (linked : ports.Shape (nodes ++ [newp]) (pairs ++ [entry]))
    (count : nodes.length = pairs.length) (isLast : nodes.getLast? = some last)
    (starts : ports.preopenedPort = some last) : ∃ pairs, ports.Holds pairs := by
  have nonempty : pairs ≠ [] := by
    rintro rfl
    rw [List.length_eq_zero_iff.mp count] at isLast
    simp at isLast
  have lengths : nodes.dropLast.length = pairs.dropLast.length := by
    rw [List.length_dropLast, List.length_dropLast, count]
  rw [← List.dropLast_append_getLast? last isLast,
    ← List.dropLast_append_getLast nonempty] at linked
  simp only [List.append_assoc, List.singleton_append] at linked
  exact ⟨_, nodes.dropLast, [last, newp], pairs.dropLast, linked, lengths, starts⟩

theorem Holds.add (holds : ports.Holds pairs)
    (adds : ports.staticAddFilename ports.allocated filename fd = some after) :
    ∃ pairs, after.Preopened pairs := by
  obtain ⟨front, back, before, shape, lengths, starts⟩ := holds
  have grown := shape.allocate filename fd
  have isNew : (ports.allocate filename fd).memory ports.allocated =
      some ⟨filename, fd, none, none⟩ := by simp [PreopenedPorts.allocate]
  have bound : ports.allocated < (ports.allocate filename fd).allocated := Nat.lt_succ_self _
  cases back with
  | nil =>
      rw [staticAddFilename_eq, starts, List.head?_nil, Option.some.injEq] at adds
      have noNodes : (ports.allocate filename fd).Shape [] [] := ⟨doubly_nil, rfl, grown.fresh⟩
      have linked : after.Shape ([] ++ [ports.allocated]) ([] ++ [(filename, fd)]) := by
        apply noNodes.append (by simp) bound
        · intro p
          rw [← adds]
          split
          next same => simpa [same] using isNew
          next => simp
        · rw [← adds]
      exact ⟨_, .inl ⟨[], [ports.allocated], [], linked, rfl, by rw [← adds]; rfl⟩⟩
  | cons first rest =>
      rw [staticAddFilename_eq, starts, List.head?_cons] at adds
      dsimp only at adds
      rw [addFrom_eq filename ports.allocated grown.chain_back grown.back_allocated
        shape.back_length_le] at adds
      split at adds
      next =>
        rw [Option.some.injEq] at adds
        subst adds
        exact ⟨pairs, .inl ⟨front, first :: rest, before, grown, lengths, starts⟩⟩
      next =>
        obtain ⟨last, isLast, appends⟩ := Option.bind_eq_some_iff.mp adds
        have inBack : last ∈ first :: rest := List.mem_of_getLast? isLast
        have inNodes : last ∈ front ++ first :: rest := List.mem_append_right front inBack
        obtain ⟨next, appended, memory, head, allocated⟩ :=
          append_eq_some isNew (grown.allocated inNodes) (shape.ne_allocated inNodes)
        rw [appends, Option.some.injEq] at appended
        subst appended
        have atEnd : (front ++ first :: rest).getLast? = some last := by
          rw [List.getLast?_append_of_ne_nil _ (by simp), isLast]
        have linked : after.Shape ((front ++ first :: rest) ++ [ports.allocated])
            ((before ++ pairs) ++ [(filename, fd)]) := by
          apply grown.append (fun member => shape.ne_allocated member rfl) bound ?_ allocated
          intro p
          rw [memory, atEnd]
          simp [eq_comm]
        obtain ⟨pairs, holds⟩ := Holds.of_appended linked shape.length_eq atEnd head
        exact ⟨pairs, .inl holds⟩

theorem Lists.holds (lists : ports.Lists pairs) : ports.Holds pairs := by
  obtain ⟨nodes, shape, starts⟩ := lists
  exact ⟨[], nodes, [], shape, rfl, starts⟩

/-- Whatever calls have been made, the list is in one of the states that are asked. -/
theorem preopened_of_reachable {run : ListRun} (reachable : listRuns.Reachable run) :
    ∃ pairs, run.ports.Preopened pairs := by
  induction reachable with
  | start started => exact ⟨[], .inl (started ▸ ListRun.intact_empty.lists.holds)⟩
  | @step run next call _ _ stepped ih =>
      obtain ⟨pairs, preopened⟩ := ih
      obtain ⟨⟨_, after⟩, called, rfl⟩ := Option.map_eq_some_iff.mp stepped
      cases call with
      | find filename =>
          simp only [ListRun.call, Option.bind_eq_bind, Option.bind_eq_some_iff] at called
          obtain ⟨⟨fd, ports⟩, found, same⟩ := called
          simp only [Option.some.injEq, Prod.mk.injEq] at same
          exact same.2 ▸ preopened.find found
      | add filename fd malloc =>
          simp only [ListRun.call] at called
          split at called
          next =>
            simp only [Option.bind_eq_bind, Option.bind_eq_some_iff] at called
            obtain ⟨ports, adds, same⟩ := called
            simp only [Option.some.injEq, Prod.mk.injEq] at same
            rcases preopened with holds | ⟨dangles, -⟩
            · exact same.2 ▸ holds.add adds
            · simp [dangles.staticAddFilename] at adds
          next =>
            simp only [Option.some.injEq, Prod.mk.injEq] at called
            exact ⟨pairs, called.2 ▸ preopened⟩

end Reachable

section Queries

variable {ports after : PreopenedPorts} {device : QueryDevice} {filename : String} {count : Nat}
  {pairs : List (String × Int)} {asked : List (StaticQuery × String)} {answers : List Answer}

/-- The ten functions differ only in what they ask for the file descriptor. -/
theorem query_eq (query : StaticQuery) :
    ports.query device filename query = ports.static filename (device.answer query) := by
  cases query <;> rfl

theorem Dangles.query (dangles : ports.Dangles) (query : StaticQuery) :
    ports.query device filename query = none := by
  rw [query_eq, static, dangles.findPreopenedPorts]
  rfl

/-- A lost pair stays lost. -/
theorem Lost.query {answer : Answer} {query : StaticQuery} (lost : ports.Lost count)
    (asks : ports.query device filename query = some (answer, after)) : after.Lost count := by
  rcases lost with dangles | ⟨fewer, holds, less⟩
  · simp [dangles.query] at asks
  · rw [query_eq, static] at asks
    by_cases present : ∃ entry ∈ fewer, entry.1 = filename
    · obtain ⟨fd, next, found, lost⟩ := holds.find_present present
      simp only [found, Option.bind_eq_bind, Option.bind_some, Option.some.injEq,
        Prod.mk.injEq] at asks
      rcases asks.2 ▸ lost with dangles | ⟨others, othersHold, fewest⟩
      · exact .inl dangles
      · exact .inr ⟨others, othersHold, fewest.trans less⟩
    · push Not at present
      simp only [holds.find_absent present, Option.bind_eq_bind, Option.bind_some,
        Option.some.injEq, Prod.mk.injEq] at asks
      exact .inr ⟨fewer, asks.2 ▸ holds, less⟩

theorem Lost.queries (lost : ports.Lost count)
    (asks : ports.queries device asked = some (answers, after)) : after.Lost count := by
  induction asked generalizing ports answers with
  | nil =>
      simp only [PreopenedPorts.queries, Option.some.injEq, Prod.mk.injEq] at asks
      exact asks.2 ▸ lost
  | cons head rest ih =>
      simp only [PreopenedPorts.queries, Option.bind_eq_bind, Option.bind_eq_some_iff] at asks
      obtain ⟨⟨answer, next⟩, first, ⟨others, final⟩, later, ends⟩ := asks
      simp only [Option.some.injEq, Prod.mk.injEq] at ends
      exact ih (lost.query first) (ends.2 ▸ later)

/-- A query for a port that is not preopened changes nothing. -/
theorem Holds.query_absent (holds : ports.Holds pairs)
    (absent : ∀ entry ∈ pairs, entry.1 ≠ filename) (query : StaticQuery) :
    ports.query device filename query =
      some (device.answer query (fdOf pairs filename), ports) := by
  rw [query_eq, static, holds.find_absent absent]
  rfl

/-- A query for a preopened port takes the port out of the list. -/
theorem Holds.query_present (holds : ports.Holds pairs)
    (present : ∃ entry ∈ pairs, entry.1 = filename) (device : QueryDevice) (query : StaticQuery) :
    ∃ answer after, ports.query device filename query = some (answer, after) ∧
      after.Lost pairs.length := by
  obtain ⟨fd, after, found, lost⟩ := holds.find_present present
  refine ⟨device.answer query fd, after, ?_, lost⟩
  rw [query_eq, static, found]
  rfl

/-- A query that the list survives: `preopened_port` does not dangle, and the port is not
preopened. -/
def Harmless (ports : PreopenedPorts) (pairs : List (String × Int)) (filename : String) : Prop :=
  ¬ports.Dangles ∧ ∀ entry ∈ pairs, entry.1 ≠ filename

/-- Harmless queries are answered from the list, which stays as it is. -/
theorem Preopened.queries_eq (preopened : ports.Preopened pairs)
    (harmless : ∀ filename ∈ asked.map Prod.snd, ports.Harmless pairs filename) :
    ports.queries device asked = some
      (asked.map fun (query, filename) => device.answer query (fdOf pairs filename), ports) := by
  induction asked with
  | nil => rfl
  | cons head rest ih =>
      obtain ⟨query, filename⟩ := head
      rw [List.map_cons, List.forall_mem_cons] at harmless
      rcases preopened with holds | ⟨dangles, -⟩
      · simp [PreopenedPorts.queries, holds.query_absent harmless.1.2, ih harmless.2]
      · exact absurd dangles harmless.1.1

/-- Only harmless queries leave the pairs as they are. -/
theorem Preopened.harmless (preopened : ports.Preopened pairs)
    (asks : ports.queries device asked = some (answers, after))
    (remains : after.Preopened pairs) :
    ∀ filename ∈ asked.map Prod.snd, ports.Harmless pairs filename := by
  induction asked generalizing answers with
  | nil => simp
  | cons head rest ih =>
      obtain ⟨query, filename⟩ := head
      simp only [PreopenedPorts.queries, Option.bind_eq_bind, Option.bind_eq_some_iff] at asks
      obtain ⟨⟨answer, next⟩, first, ⟨others, final⟩, later, ends⟩ := asks
      simp only [Option.some.injEq, Prod.mk.injEq] at ends
      obtain ⟨-, rfl⟩ := ends
      rw [List.map_cons, List.forall_mem_cons]
      rcases preopened with holds | ⟨dangles, -⟩
      · by_cases present : ∃ entry ∈ pairs, entry.1 = filename
        · obtain ⟨_, _, asked, lost⟩ := holds.query_present present device query
          rw [first, Option.some.injEq, Prod.mk.injEq] at asked
          obtain ⟨entry, member, -⟩ := present
          rw [← asked.2] at lost
          exact absurd remains ((lost.queries later).not_preopened (List.ne_nil_of_mem member))
        · push Not at present
          rw [holds.query_absent present, Option.some.injEq, Prod.mk.injEq] at first
          exact ⟨⟨holds.not_dangles, present⟩, ih (first.2 ▸ later)⟩
      · simp [dangles.query] at first

/-- In every state of the list, a sequence of queries is answered from the pairs at its
start and keeps them if and only if none of it is for a preopened port. -/
theorem static_queries_readOnly_iff (preopened : ports.Preopened pairs) :
    (∃ after, ports.queries device asked =
        some (asked.map fun (query, filename) => device.answer query (fdOf pairs filename), after) ∧
      after.Preopened pairs) ↔
    ∀ filename ∈ asked.map Prod.snd, ports.Harmless pairs filename := by
  constructor
  · rintro ⟨after, asks, remains⟩
    exact preopened.harmless asks remains
  · intro harmless
    exact ⟨ports, preopened.queries_eq harmless, preopened⟩

end Queries

/-- One port is preopened. -/
def onePort : PreopenedPorts where
  memory := fun p => if p = 0 then some ⟨"/dev/ttyS0", 5, none, none⟩ else none
  preopenedPort := some 0
  allocated := 1

/-- RTS is set, at 9600 baud with 8 data bits. -/
def rtsDevice : QueryDevice where
  tiocmget := fun _ => some 0x004
  tcgetattr := fun _ => some (cs8 ||| 13)

theorem onePort_preopened : onePort.Preopened [("/dev/ttyS0", 5)] := by
  have noNodes : (⟨fun _ => none, none, 1⟩ : PreopenedPorts).Shape [] [] :=
    ⟨doubly_nil, rfl, by simp⟩
  have linked : onePort.Shape ([] ++ [0]) ([] ++ [("/dev/ttyS0", 5)]) :=
    noNodes.append (by simp) Nat.one_pos (fun p => rfl) rfl
  exact .inl ⟨[], [0], [], linked, rfl, rfl⟩

theorem static_queries_readOnly_iff_other :
    ∃ after, onePort.queries rtsDevice [(.isRTS, "/dev/ttyS1"), (.getDataBits, "/dev/ttyS1")] =
        some ([.boolean false, .int (-1)], after) ∧
      after.Preopened [("/dev/ttyS0", 5)] := by
  refine (static_queries_readOnly_iff onePort_preopened).mpr ?_
  have harmless : onePort.Harmless [("/dev/ttyS0", 5)] "/dev/ttyS1" :=
    ⟨fun ⟨p, points, _, freed⟩ => by simp_all [onePort], by decide⟩
  simpa using harmless

/-- The same question about a preopened port is answered once. -/
theorem query_takes_port :
    (onePort.queries rtsDevice [(.isRTS, "/dev/ttyS0"), (.isRTS, "/dev/ttyS0")]).map Prod.fst =
        some [.boolean true, .boolean false] ∧
      ¬ ∀ (ports : PreopenedPorts) pairs device (asked : List (StaticQuery × String)),
        ports.Preopened pairs → ∃ after, ports.queries device asked = some
            (asked.map fun (query, filename) => device.answer query (fdOf pairs filename), after) ∧
          after.Preopened pairs := by
  have answers : (onePort.queries rtsDevice
      [(.isRTS, "/dev/ttyS0"), (.isRTS, "/dev/ttyS0")]).map Prod.fst =
        some [.boolean true, .boolean false] := by decide
  refine ⟨answers, ?_⟩
  intro readOnly
  obtain ⟨after, asks, -⟩ := readOnly onePort _ rtsDevice
    [(.isRTS, "/dev/ttyS0"), (.isRTS, "/dev/ttyS0")] onePort_preopened
  rw [asks, Option.map_some, Option.some.injEq] at answers
  simp only at answers
  exact absurd answers (by decide)

end PreopenedPorts

end Jrxtx.SerialImp
