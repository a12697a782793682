import Mathlib.Data.List.Basic
import Mathlib.Algebra.Group.Int.Defs
import Mathlib.Algebra.Group.Nat.Defs

/-!
# Requests to the lock file server

`process_requests` of the lock daemon on the 80 bytes of its buffer `str`.  An index
outside a buffer, and a text that does not fit into one, are faults.
-/

namespace Jrxtx.LockDaemon

/-- Bytes of a buffer, or of a text without its final NUL. -/
abbrev Text := List Char

/-- The byte that ends a text. -/
def nul : Char := Char.ofNat 0

def m200 : Text := "200 Command okay.\n".toList

def m220 (hostname : Text) : Text :=
  "220 ".toList ++ hostname ++ " Lock File Server (Version rxtx-1.5-9) ready\n".toList

def m221 (hostname : Text) : Text :=
  "221 Thank you for using the Lock File service on ".toList ++ hostname ++ "\n".toList

def m450 : Text := "450 : File busy.\n".toList

def m500 (str : Text) : Text :=
  "500 '".toList ++ str ++ "': command not understood\n".toList

/-- A call of `LOCK` or `UNLOCK`. -/
inductive Request where
  | lock (filename : Text) (pid : Int)
  | unlock (filename : Text) (pid : Int)
  deriving DecidableEq, Repr

/-- Why there is no telling what the daemon does next. -/
inductive Fault where
  /-- an index outside `str` or `str2`, or a text that does not fit into them -/
  | buffer
  /-- the same of a buffer of `LOCK` or `UNLOCK` -/
  | lockBuffer
  /-- `syslog` does not get by with the conversions of its format, for which it is not passed
  any values -/
  | format
  deriving DecidableEq, Repr

/-- An access to `str` or `str2`. -/
def inBuffer {α : Type*} : Option α → Except Fault α
  | some value => .ok value
  | none => .error .buffer

/-- What `process_requests` does with the bytes it has read. -/
structure Served where
  writes : List Text
  request : Option Request
  quit : Bool
  deriving DecidableEq, Repr

/-- `str[i] = c` -/
def setAt (str : Text) (i : Int) (c : Char) : Option Text :=
  if 0 ≤ i ∧ i < str.length then some (str.set i.toNat c) else none

/-- `!strncasecmp(str, word, n)` for a word of at least `n` characters. -/
def hasPrefix (str : Text) (word : String) (n : Nat) : Bool :=
  (str.take n).map Char.toLower = word.toList.take n

/-- A loop `while` that goes on from `start` up to a character at which it stops. -/
def scan (str : Text) (stops : Char → Bool) (start : Nat) : Option Nat :=
  ((str.drop start).findIdx? stops).map (start + ·)

/-- The text that starts at an index. -/
def textAt (str : Text) (start : Nat) : Text :=
  (str.drop start).takeWhile (· ≠ nul)

/-- `sprintf` into a buffer. -/
def sprintf (size : Nat) (text : Text) : Option Text :=
  if text.length < size then some text else none

/-- The value of decimal digits. -/
def digitsValue (digits : Text) : Nat :=
  digits.foldl (fun value c => 10 * value + (c.toNat - '0'.toNat)) 0

/-- `isspace` -/
def isSpace (c : Char) : Bool :=
  c = ' ' || 9 ≤ c.toNat && c.toNat ≤ 13

/-- The number at the beginning of a text, behind blanks and a sign. -/
def leadingInt (text : Text) : Int :=
  match text.dropWhile isSpace with
  | '-' :: digits => -(digitsValue (digits.takeWhile Char.isDigit))
  | '+' :: digits => digitsValue (digits.takeWhile Char.isDigit)
  | digits => digitsValue (digits.takeWhile Char.isDigit)

/-- `atoi`: what `strtol` makes of the text, which saturates, as an `int` -/
def atoi (text : Text) : Int :=
  Int.bmod (max (-2 ^ 63) (min (leadingInt text) (2 ^ 63 - 1))) (2 ^ 32)

/-- The file name from `p` on and the pid behind the blank; no pair if there is no
blank. -/
def parseRequest (str : Text) (p : Nat) : Option (Option (Text × Int)) := do
  let q ← scan str (fun c => c = ' ' || c = nul) p
  if str[q]? = some nul then some none
  else
    let str ← setAt str q nul
    let r ← scan str (fun c => c = '\n' || c = nul) (q + 1)
    let str ← if str[r]? = some '\n' then setAt str r nul else some str
    some (some (textAt str p, atoi (textAt str (q + 1))))

/-- `process_requests` after `ret = read(1, str, 80)`; `call` tells which calls of `LOCK` and
`UNLOCK` return 0, from what stands in front of the file name in `str`. -/
def processRequests (hostname str : Text) (ret : Int)
    (call : Text → Request → Except Fault Bool) : Except Fault Served := do
  let str ← inBuffer (setAt str (if ret < 80 ∧ ret > 1 then ret else 79) nul)
  if hasPrefix str "quit" 4 then
    let reply ← inBuffer (sprintf 80 (m221 hostname))
    .ok ⟨[reply], none, true⟩
  else if hasPrefix str "lock " 4 then
    match ← inBuffer (parseRequest str 5) with
    | none => .ok ⟨[m450], none, false⟩
    | some (filename, pid) =>
        let request := Request.lock filename pid
        let zero ← call (str.take 5) request
        .ok ⟨[if zero then m200 else m450], some request, false⟩
  else if hasPrefix str "unlock " 6 then
    match ← inBuffer (parseRequest str 7) with
    | none => .ok ⟨["q=0\n".toList, m450], none, false⟩
    | some (filename, pid) =>
        let request := Request.unlock filename pid
        let zero ← call (str.take 7) request
        .ok ⟨[if zero then m200 else m450], some request, false⟩
  else
    let str ← inBuffer (setAt str (ret - 2) nul)
    let reply ← inBuffer (sprintf 80 (m500 (textAt str 0)))
    .ok ⟨[reply], none, false⟩

@[simp] theorem ok_bind {α β : Type} (value : α) (next : α → Except Fault β) :
    (Except.ok value >>= next) = next value := rfl

@[simp] theorem error_bind {α β : Type} (fault : Fault) (next : α → Except Fault β) :
    (Except.error fault >>= next) = .error fault := rfl

theorem bind_eq_ok {α β : Type} {result : Except Fault α} {next : α → Except Fault β} {value : β} :
    result >>= next = .ok value ↔ ∃ first, result = .ok first ∧ next first = .ok value := by
  cases result <;> simp

@[simp] theorem inBuffer_some {α : Type} (value : α) : inBuffer (some value) = .ok value := rfl

@[simp] theorem inBuffer_none {α : Type} : inBuffer (none : Option α) = .error .buffer := rfl

@[simp] theorem inBuffer_eq_ok {α : Type} {result : Option α} {value : α} :
    inBuffer result = .ok value ↔ result = some value := by
  cases result <;> simp [inBuffer]

section Lock

variable {hostname str changed : Text} {ret : Int} {call : Text → Request → Except Fault Bool}
  {served : Served} {word : String} {n : Nat}

theorem setAt_eq_some {i : Int} {c : Char} (set : setAt str i c = some changed) :
    0 ≤ i ∧ changed = str.set i.toNat c := by
  simp only [setAt, Option.ite_none_right_eq_some, Option.some.injEq] at set
  exact ⟨set.1.1, set.2.symm⟩

/-- Only the first `n` bytes matter. -/
theorem hasPrefix_of_set {i : Int} {c : Char} (set : setAt str i c = some changed)
    (behind : n ≤ i) : hasPrefix changed word n = hasPrefix str word n := by
  obtain ⟨-, rfl⟩ := setAt_eq_some set
  rw [hasPrefix, hasPrefix, List.take_set_of_le (by omega)]

theorem hasPrefix_quit_of_lock (isLock : hasPrefix str "lock " 4 = true) :
    hasPrefix str "quit" 4 = false := by
  simp only [hasPrefix, decide_eq_true_eq] at isLock
  simp only [hasPrefix, isLock]
  decide

/-- A `LOCK` command is answered by one reply, 200 or 450. -/
theorem processRequests_lock (isLock : hasPrefix str "lock " 4 = true) (long : 4 ≤ ret)
    (processed : processRequests hostname str ret call = .ok served) :
    (served.writes = [m200] ∨ served.writes = [m450]) ∧ served.quit = false := by
  rw [processRequests, bind_eq_ok] at processed
  obtain ⟨changed, set, result⟩ := processed
  rw [inBuffer_eq_ok] at set
  have behind : (4 : Nat) ≤ (if ret < 80 ∧ ret > 1 then ret else 79) := by
    split <;> omega
  have stillLock : hasPrefix changed "lock " 4 = true :=
    (hasPrefix_of_set set behind).trans isLock
  simp only [hasPrefix_quit_of_lock stillLock, stillLock, Bool.false_eq_true, if_false, if_true,
    bind_eq_ok] at result
  obtain ⟨parsed, -, result⟩ := result
  cases parsed with
  | none =>
      rw [Except.ok.injEq] at result
      subst result
      exact ⟨.inr rfl, rfl⟩
  | some request =>
      simp only [bind_eq_ok, Except.ok.injEq] at result
      obtain ⟨zero, -, rfl⟩ := result
      refine ⟨?_, rfl⟩
      split
      next => exact .inl rfl
      next => exact .inr rfl

end Lock

end Jrxtx.LockDaemon
