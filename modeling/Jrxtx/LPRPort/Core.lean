import Mathlib.Data.Int.Init

/-!
# Parallel ports

The fields of an `LPRPort` that its native code reads.  `get_java_var` reads a field by its
name.
-/

namespace Jrxtx

/-- A `gnu.io.LPRPort`. -/
structure LPRPort where
  fd : Int
  timeout : Int
  threshold : Int
  timeout_nonneg : 0 ≤ timeout
  threshold_pos : 1 ≤ threshold

namespace LPRPort

variable (self : LPRPort)

/-- A new port, with the descriptor that `open` has returned. -/
def new (fd : Int) : LPRPort where
  fd := fd
  timeout := 0
  threshold := 1
  timeout_nonneg := Int.le_refl 0
  threshold_pos := Int.le_refl 1

def enableReceiveTimeout (t : Int) : LPRPort :=
  if positive : t > 0 then
    { self with timeout := t, timeout_nonneg := Int.le_of_lt positive }
  else { self with timeout := 0, timeout_nonneg := Int.le_refl 0 }

def disableReceiveTimeout : LPRPort :=
  { self with timeout := 0, timeout_nonneg := Int.le_refl 0 }

def enableReceiveThreshold (t : Int) : LPRPort :=
  if above : t > 1 then
    { self with threshold := t, threshold_pos := Int.le_of_lt above }
  else { self with threshold := 1, threshold_pos := Int.le_refl 1 }

def disableReceiveThreshold : LPRPort :=
  { self with threshold := 1, threshold_pos := Int.le_refl 1 }

/-- `get_java_var(env, jobj, id, "I")`: zero for a field that does not exist. -/
def getJavaVar (id : String) : Int :=
  if id = "fd" then self.fd
  else if id = "timeout" then self.timeout
  else if id = "threshold" then self.threshold
  else 0

end LPRPort

end Jrxtx
