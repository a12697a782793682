import Mathlib.Logic.Function.Basic

/-!
# Memory of nodes

Memory is a partial function from addresses to nodes.  Writing through a link that
may be absent is total on memory; it agrees with writing to an allocated node.
-/

namespace Jrxtx.Heap

universe u v

variable {Ref : Type u} {Node : Type v} [DecidableEq Ref]

/-- The node that `link` points to, if any, is changed. -/
def writeAt (memory : Ref → Option Node) (link : Option Ref) (change : Node → Node) :
    Ref → Option Node :=
  fun p => if link = some p then (memory p).map change else memory p

section Writes

variable {memory : Ref → Option Node} {p : Ref} {node : Node}

@[simp] theorem writeAt_none (change : Node → Node) : writeAt memory none change = memory := by
  funext p
  simp [writeAt]

theorem writeAt_eq_map (link : Option Ref) (change : Node → Node) :
    writeAt memory link change p =
      (memory p).map fun node => if link = some p then change node else node := by
  simp only [writeAt]
  split
  next => rfl
  next => rw [Option.map_id']

/-- Writing to an allocated node. -/
theorem writeAt_some (found : memory p = some node) (change : Node → Node) :
    writeAt memory (some p) change = Function.update memory p (some (change node)) := by
  funext q
  by_cases same : q = p
  · simp [writeAt, same, found]
  · simp [writeAt, same, Ne.symm same]

/-- Writing allocates and frees nothing. -/
@[simp] theorem writeAt_isSome (link : Option Ref) (change : Node → Node) :
    (writeAt memory link change p).isSome = (memory p).isSome := by
  simp only [writeAt]
  split
  next => rw [Option.isSome_map]
  next => rfl

end Writes

end Jrxtx.Heap
