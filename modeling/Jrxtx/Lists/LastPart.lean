import Mathlib.Data.List.DropRight

/-!
# The part of a list behind its last separator

A list is what precedes the last separator, the separator, and a part without one.  This
determines both.
-/

namespace Jrxtx.Lists

universe u

variable {α : Type u} [DecidableEq α] {separator : α} {list front part front' part' : List α}

/-- The part behind the last separator, and the whole list if there is none. -/
def lastPart (separator : α) (list : List α) : List α :=
  list.rtakeWhile (· ≠ separator)

theorem lastPart_append (without : separator ∉ part) :
    lastPart separator (front ++ separator :: part) = part := by
  have all : ∀ entry ∈ part.reverse, decide (entry ≠ separator) = true := by
    intro entry member
    exact decide_eq_true fun same => without (same ▸ List.mem_reverse.mp member)
  rw [lastPart, List.rtakeWhile, List.reverse_append, List.reverse_cons, List.append_assoc,
    List.takeWhile_append_of_pos all]
  simp

theorem lastPart_of_not_mem (without : separator ∉ list) : lastPart separator list = list :=
  List.rtakeWhile_eq_self_iff.mpr fun _ member =>
    decide_eq_true fun same => without (same ▸ member)

theorem not_mem_lastPart (separator : α) (list : List α) :
    separator ∉ lastPart separator list := by
  intro member
  have other := List.mem_rtakeWhile_imp (p := fun entry => decide (entry ≠ separator)) member
  exact absurd rfl (of_decide_eq_true other)

/-- A list with a separator is what precedes the last one, and the part behind it. -/
theorem exists_front (separated : separator ∈ list) :
    ∃ front, list = front ++ separator :: lastPart separator list := by
  have split : list.rdropWhile (· ≠ separator) ++ lastPart separator list = list :=
    List.rdropWhile_append_rtakeWhile
  rcases List.eq_nil_or_concat (list.rdropWhile (· ≠ separator)) with
    empty | ⟨front, entry, concat⟩
  · rw [empty, List.nil_append] at split
    exact absurd separated (split ▸ not_mem_lastPart separator list)
  · rw [List.concat_eq_append] at concat
    have nonempty : list.rdropWhile (· ≠ separator) ≠ [] := by
      rw [concat]
      simp
    have last := List.rdropWhile_last_not (fun entry => decide (entry ≠ separator)) list nonempty
    simp only [concat, List.getLast_concat, decide_eq_true_eq, not_not] at last
    subst last
    refine ⟨front, ?_⟩
    rw [concat, List.append_assoc] at split
    exact split.symm

/-- The last separator splits a list in one way. -/
theorem append_separator_inj (without : separator ∉ part) (without' : separator ∉ part')
    (same : front ++ separator :: part = front' ++ separator :: part') :
    front = front' ∧ part = part' := by
  have parts : part = part' := by
    rw [← lastPart_append without, same, lastPart_append without']
  subst parts
  exact ⟨List.append_cancel_right same, rfl⟩

end Jrxtx.Lists
