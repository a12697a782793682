import Mathlib.Data.BitVec
import Mathlib.Data.List.Destutter
import Mathlib.Tactic.Ring

/-!
# Sequences of samples

A value is read again and again.  `changes` keeps the samples that differ from the
one before, and `increments` the distances of a counter that wraps around.
-/

namespace Jrxtx.Words

/-! ## Changes -/

section Changes

variable {α : Type*} [DecidableEq α] {first next : α} {samples : List α}

/-- The samples that differ from the one before; `first` is the one before all. -/
def changes (first : α) (samples : List α) : List α :=
  (samples.destutter' (· ≠ ·) first).tail

@[simp] theorem changes_nil : changes first [] = [] := rfl

theorem destutter'_ne (first : α) (samples : List α) :
    samples.destutter' (· ≠ ·) first = first :: changes first samples := by
  induction samples with
  | nil => rfl
  | cons next rest ih =>
      by_cases same : first = next
      · rw [changes, List.destutter'_cons_neg _ (by simpa using same), ih]
        rfl
      · rw [changes, List.destutter'_cons_pos _ same]
        rfl

@[simp] theorem changes_cons_self : changes first (first :: samples) = changes first samples := by
  rw [changes, List.destutter'_cons_neg _ (by simp), changes]

theorem changes_cons_of_ne (differs : first ≠ next) :
    changes first (next :: samples) = next :: changes next samples := by
  rw [changes, List.destutter'_cons_pos _ differs, List.tail_cons, destutter'_ne]

/-- Consecutive changes differ. -/
theorem isChain_changes (first : α) (samples : List α) :
    (first :: changes first samples).IsChain (· ≠ ·) := by
  rw [← destutter'_ne]
  exact List.isChain_destutter' _ _ _

/-- The last change is the last sample. -/
theorem getLast?_changes (first : α) (samples : List α) :
    (changes first samples).getLast?.getD first = samples.getLast?.getD first := by
  induction samples generalizing first with
  | nil => rfl
  | cons next rest ih =>
      by_cases same : first = next
      · subst same
        rw [changes_cons_self, ih, List.getLast?_cons, Option.getD_some]
      · rw [changes_cons_of_ne same, List.getLast?_cons, List.getLast?_cons, Option.getD_some,
          Option.getD_some, ih]

end Changes

/-! ## Counters -/

section Counters

variable {w : Nat} {counter target : BitVec w}

/-- How far a counter gets from each sample to the next. -/
def increments (counter : BitVec w) : List (BitVec w) → List Nat
  | [] => []
  | next :: rest => (next - counter).toNat :: increments next rest

/-- One step brings a counter nearer to what it counts up to. -/
theorem toNat_sub_eq_succ (apart : target ≠ counter) :
    (target - counter).toNat = (target - (counter + 1)).toNat + 1 := by
  have positive : 0 < (target - counter).toNat := by
    rw [Nat.pos_iff_ne_zero]
    intro zero
    have same : target - counter = 0 := BitVec.eq_of_toNat_eq (by simpa using zero)
    exact apart (sub_eq_zero.mp same)
  have one : (1 : BitVec w).toNat = 1 := by
    have bound : 1 < 2 ^ w := lt_of_le_of_lt positive (target - counter).isLt
    exact Nat.mod_eq_of_lt bound
  have less : 1 ≤ target - counter := by
    rw [BitVec.le_def, one]
    exact positive
  rw [sub_add_eq_sub_sub, BitVec.toNat_sub_of_le less, one]
  omega

/-- In total, a counter gets from its first to its last value. -/
theorem ofNat_sum_increments (counter : BitVec w) (samples : List (BitVec w)) :
    BitVec.ofNat w (increments counter samples).sum = samples.getLast?.getD counter - counter := by
  induction samples generalizing counter with
  | nil => simp [increments]
  | cons next rest ih =>
      rw [increments, List.sum_cons, BitVec.ofNat_add, ih, BitVec.ofNat_toNat, List.getLast?_cons,
        Option.getD_some, BitVec.setWidth_eq]
      ring

/-- Two counts that do not reach the end of the range are as far apart as the counters. -/
theorem toNat_add_ofNat_sub {first last : Nat} (counter : BitVec w) (le : first ≤ last)
    (bounded : last < 2 ^ w) :
    ((counter + BitVec.ofNat w last) - (counter + BitVec.ofNat w first)).toNat = last - first := by
  have apart : BitVec.ofNat w last = BitVec.ofNat w first + BitVec.ofNat w (last - first) := by
    rw [← BitVec.ofNat_add, Nat.add_sub_cancel' le]
  rw [apart, add_sub_add_left_eq_sub, add_sub_cancel_left, BitVec.toNat_ofNat]
  exact Nat.mod_eq_of_lt (Nat.lt_of_le_of_lt (Nat.sub_le _ _) bounded)

end Counters

end Jrxtx.Words
