import Mathlib.Data.BitVec

/-!
# Fields of a word

A word of flags is changed by clearing and setting masks.  The lemmas tell when
such a change leaves a field, or the whole word, as it was.
-/

namespace Jrxtx.Words

variable {w : Nat} {word other mask part set clear : BitVec w}

/-- A change within `mask` leaves what is outside. -/
theorem update_outside (clears : clear &&& mask = clear) (sets : set &&& mask = set) :
    ((word &&& ~~~clear) ||| set) &&& ~~~mask = word &&& ~~~mask := by
  ext i inRange
  have clearBit := congrArg (fun word : BitVec w => word[i]) clears
  have setBit := congrArg (fun word : BitVec w => word[i]) sets
  simp only [BitVec.getElem_or, BitVec.getElem_and, BitVec.getElem_not] at clearBit setBit ⊢
  cases isClear : clear[i] <;> cases isSet : set[i] <;> cases isMask : mask[i] <;> simp_all

/-- Clearing bits within `mask` leaves what is outside. -/
theorem clear_outside (clears : clear &&& mask = clear) :
    (word &&& ~~~clear) &&& ~~~mask = word &&& ~~~mask := by
  have changed : ((word &&& ~~~clear) ||| 0) &&& ~~~mask = word &&& ~~~mask :=
    update_outside clears (by simp)
  simpa using changed

/-- Setting bits within `mask` leaves what is outside. -/
theorem set_outside (sets : set &&& mask = set) :
    (word ||| set) &&& ~~~mask = word &&& ~~~mask := by
  have changed : ((word &&& ~~~0) ||| set) &&& ~~~mask = word &&& ~~~mask :=
    update_outside (by simp) sets
  simpa using changed

/-- A part of a field is read off the field. -/
theorem and_part (within : mask &&& part = part) : word &&& part = (word &&& mask) &&& part := by
  rw [BitVec.and_assoc, within]

/-- A change outside of `mask` leaves what is within. -/
theorem update_within (clears : clear &&& mask = 0) (sets : set &&& mask = 0) :
    ((word &&& ~~~clear) ||| set) &&& mask = word &&& mask := by
  ext i inRange
  have clearBit := congrArg (fun word : BitVec w => word[i]) clears
  have setBit := congrArg (fun word : BitVec w => word[i]) sets
  simp only [BitVec.getElem_or, BitVec.getElem_and, BitVec.getElem_not] at clearBit setBit ⊢
  cases isClear : clear[i] <;> cases isSet : set[i] <;> cases isMask : mask[i] <;> simp_all

/-- Setting bits outside of `mask` leaves what is within. -/
theorem or_within (sets : set &&& mask = 0) : (word ||| set) &&& mask = word &&& mask := by
  rw [BitVec.and_or_distrib_right, sets]
  simp

/-- Bits that are set already. -/
theorem or_eq_self (isSet : word &&& part = part) : word ||| part = word := by
  ext i inRange
  have bit := congrArg (fun word : BitVec w => word[i]) isSet
  simp only [BitVec.getElem_and, BitVec.getElem_or] at bit ⊢
  cases isSet : word[i] <;> simp_all

/-- Bits that are clear already. -/
theorem clear_eq_self (isClear : word &&& part = 0) : word &&& ~~~part = word := by
  ext i inRange
  have bit := congrArg (fun word : BitVec w => word[i]) isClear
  simp only [BitVec.getElem_and, BitVec.getElem_not] at bit ⊢
  cases isSet : word[i] <;> simp_all

/-- What has no bit outside of `mask` is within. -/
theorem within_of_outside (outside : part &&& ~~~mask = 0) : part &&& mask = part := by
  have inside := clear_eq_self outside
  rwa [BitVec.not_not] at inside

/-- A field that is cleared and written is what has been written. -/
theorem write_and_self (within : part &&& mask = part) :
    ((word &&& ~~~mask) ||| part) &&& mask = part := by
  rw [BitVec.and_or_distrib_right, BitVec.and_assoc, BitVec.not_and_self, within]
  simp

/-- A field that is cleared and written again. -/
theorem rewrite_eq_self : (word &&& ~~~mask) ||| (word &&& mask) = word := by
  ext i inRange
  simp only [BitVec.getElem_and, BitVec.getElem_or, BitVec.getElem_not]
  cases word[i] <;> cases mask[i] <;> rfl

/-- A part of what is cleared is not set. -/
theorem and_cleared (within : part &&& clear = part) : part &&& (word &&& ~~~clear) = 0 := by
  ext i inRange
  have bit := congrArg (fun word : BitVec w => word[i]) within
  simp only [BitVec.getElem_and, BitVec.getElem_not] at bit ⊢
  cases isClear : clear[i] <;> cases isPart : part[i] <;> simp_all

/-- The bits of `mask` are taken from another word. -/
theorem select_within (within : mask &&& part = part) :
    ((word &&& ~~~mask) ||| (other &&& mask)) &&& part = other &&& part := by
  ext i inRange
  have bit := congrArg (fun word : BitVec w => word[i]) within
  simp only [BitVec.getElem_or, BitVec.getElem_and, BitVec.getElem_not] at bit ⊢
  cases isMask : mask[i] <;> cases isPart : part[i] <;> simp_all

/-- A mask of one bit selects nothing or the bit. -/
theorem single_cases {i : Nat} (isBit : mask = BitVec.twoPow w i) (word : BitVec w) :
    word &&& mask = 0 ∨ word &&& mask = mask := by
  rw [isBit, BitVec.and_twoPow]
  split
  next => exact .inr rfl
  next => exact .inl rfl

/-- Of the bits that `mask` selects, `clear` clears one exactly if one of them is set. -/
theorem cleared_eq_self_iff (within : clear &&& mask = clear) :
    (word &&& ~~~mask) ||| ((word &&& ~~~clear) &&& mask) = word ↔ word &&& clear = 0 := by
  constructor
  · intro kept
    ext i inRange
    have bit := congrArg (fun word : BitVec w => word[i]) kept
    have bitWithin := congrArg (fun word : BitVec w => word[i]) within
    simp only [BitVec.getElem_or, BitVec.getElem_and, BitVec.getElem_not] at bit bitWithin
    simp only [BitVec.getElem_and]
    cases isSet : word[i] <;> cases isClear : clear[i] <;> cases isMask : mask[i] <;> simp_all
  · intro disjoint
    ext i inRange
    have bit := congrArg (fun word : BitVec w => word[i]) disjoint
    simp only [BitVec.getElem_and] at bit
    simp only [BitVec.getElem_or, BitVec.getElem_and, BitVec.getElem_not]
    cases isSet : word[i] <;> cases isClear : clear[i] <;> cases isMask : mask[i] <;> simp_all

end Jrxtx.Words
