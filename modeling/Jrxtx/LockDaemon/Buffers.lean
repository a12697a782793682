import Mathlib.Data.List.TakeWhile
import Jrxtx.LockDaemon.Locking

/-!
# The buffers of the lock file server

When `process_requests` stays within its buffers.  The scans for the end of the name and
of the pid run on to the end of the buffer, that of `LOCK` and `UNLOCK` for the last `/` of an
empty name runs back to its beginning, and the number of bytes read is used as an index
without a check.
-/

namespace Jrxtx.LockDaemon

section Scan

variable {str front name rest text : Text} {c : Char} {stops : Char → Bool} {start : Nat}

/-- A text is scanned to its end, or up to a character at which the scan stops. -/
theorem scanned (stops : Char → Bool) (text : Text) :
    (∀ d ∈ text, stops d = false) ∨
      ∃ name c rest, text = name ++ c :: rest ∧ (∀ d ∈ name, stops d = false) ∧
        stops c = true := by
  induction text with
  | nil => simp
  | cons c text ih =>
      cases stop : stops c with
      | true => exact .inr ⟨[], c, text, rfl, by simp, stop⟩
      | false =>
          rcases ih with never | ⟨name, d, rest, rfl, before, stopped⟩
          · left
            simpa [stop] using never
          · right
            refine ⟨c :: name, d, rest, rfl, ?_, stopped⟩
            simpa [stop] using before

theorem findIdx?_of_stop (before : ∀ d ∈ name, stops d = false) (stop : stops c = true) :
    (name ++ c :: rest).findIdx? stops = some name.length := by
  induction name with
  | nil => simp [List.findIdx?_cons, stop]
  | cons d name ih =>
      have none : stops d = false := before d (by simp)
      rw [List.cons_append, List.findIdx?_cons, none,
        ih fun e member => before e (by simp [member])]
      simp

theorem scan_of_stop (stops : Char → Bool) (before : ∀ d ∈ name, stops d = false)
    (stop : stops c = true) :
    scan (front ++ (name ++ c :: rest)) stops front.length =
      some (front.length + name.length) := by
  rw [scan, List.drop_left, findIdx?_of_stop before stop, Option.map_some]

theorem scan_of_never (never : ∀ d ∈ rest, stops d = false) :
    scan (front ++ rest) stops front.length = none := by
  rw [scan, List.drop_left, Option.map_eq_none_iff, List.findIdx?_eq_none_iff]
  exact never

theorem getElem?_stop :
    (front ++ (name ++ c :: rest))[front.length + name.length]? = some c := by
  simp

theorem setAt_stop (d : Char) :
    setAt (front ++ (name ++ d :: rest)) (front.length + name.length : Nat) c =
      some (front ++ (name ++ c :: rest)) := by
  have within : ((front.length + name.length : Nat) : Int) <
      (front ++ (name ++ d :: rest)).length := by
    simp only [List.length_append, List.length_cons]
    omega
  rw [setAt, if_pos ⟨Int.natCast_nonneg _, within⟩, Int.toNat_natCast]
  simp

/-- A text behind a name and the NUL that ends it. -/
theorem append_stop : front ++ (name ++ nul :: rest) = (front ++ name ++ [nul]) ++ rest := by
  simp

theorem length_stop : (front ++ name ++ [nul]).length = front.length + name.length + 1 := by
  simp only [List.length_append, List.length_singleton]

theorem takeWhile_ne (before : ∀ d ∈ name, d ≠ c) :
    (name ++ c :: rest).takeWhile (· ≠ c) = name := by
  rw [List.takeWhile_append_of_pos (by simpa using before)]
  simp

theorem dropWhile_ne (before : ∀ d ∈ name, d ≠ c) :
    (name ++ c :: rest).dropWhile (· ≠ c) = c :: rest := by
  rw [List.dropWhile_append_of_pos (by simpa using before)]
  simp

theorem textAt_append (before : ∀ d ∈ name, d ≠ nul) :
    textAt (front ++ (name ++ nul :: rest)) front.length = name := by
  rw [textAt, List.drop_left, takeWhile_ne before]

end Scan

/-! ## The arguments of a command -/

section Parse

variable {front name pid rest text : Text} {c : Char}

/-- Characters of a file name. -/
def IsName (name : Text) : Prop :=
  ∀ c ∈ name, c ≠ ' ' ∧ c ≠ nul

/-- Characters of a line. -/
def IsLine (line : Text) : Prop :=
  ∀ c ∈ line, c ≠ '\n' ∧ c ≠ nul

theorem IsName.before (isName : IsName name) :
    ∀ c ∈ name, (c = ' ' || c = nul : Bool) = false := by
  intro c member
  simpa using isName c member

theorem IsLine.before (isLine : IsLine name) :
    ∀ c ∈ name, (c = '\n' || c = nul : Bool) = false := by
  intro c member
  simpa using isLine c member

/-- The scan for the blank leaves the buffer. -/
theorem parseRequest_never (never : IsName rest) :
    parseRequest (front ++ rest) front.length = none := by
  rw [parseRequest, scan_of_never never.before]
  rfl

/-- There is no blank before the end of the text. -/
theorem parseRequest_nul (isName : IsName name) :
    parseRequest (front ++ (name ++ nul :: rest)) front.length = some none := by
  have stop : (nul = ' ' || nul = nul : Bool) = true := rfl
  have atEnd : (front ++ (name ++ nul :: rest))[front.length + name.length]? = some nul := by
    simp
  rw [parseRequest, scan_of_stop (fun c => c = ' ' || c = nul) isName.before stop]
  simp only [Option.bind_eq_bind, Option.bind_some, atEnd, if_true]

/-- The scan for the end of the line leaves the buffer. -/
theorem parseRequest_open (isName : IsName name) (isLine : IsLine rest) :
    parseRequest (front ++ (name ++ ' ' :: rest)) front.length = none := by
  have stop : (' ' = ' ' || ' ' = nul : Bool) = true := rfl
  have notNul : some ' ' ≠ some nul := by decide
  rw [parseRequest, scan_of_stop (fun c => c = ' ' || c = nul) isName.before stop]
  simp only [Option.bind_eq_bind, Option.bind_some, getElem?_stop, notNul, if_false, setAt_stop]
  rw [append_stop, ← length_stop, scan_of_never isLine.before]
  rfl

/-- A file name, and a pid up to the end of the line or of the text. -/
theorem parseRequest_some (isName : IsName name) (isLine : IsLine pid)
    (ends : c = '\n' ∨ c = nul) :
    parseRequest (front ++ (name ++ ' ' :: (pid ++ c :: rest))) front.length =
      some (some (name, atoi pid)) := by
  have stop : (' ' = ' ' || ' ' = nul : Bool) = true := rfl
  have lineStop : (c = '\n' || c = nul : Bool) = true := by simpa using ends
  have notNul : some ' ' ≠ some nul := by decide
  have notLine : some nul ≠ some '\n' := by decide
  have nameAt (text : Text) : textAt (front ++ name ++ [nul] ++ text) front.length = name := by
    rw [← append_stop, textAt_append fun d member => (isName d member).2]
  rw [parseRequest, scan_of_stop (fun c => c = ' ' || c = nul) isName.before stop]
  simp only [Option.bind_eq_bind, Option.bind_some, getElem?_stop, notNul, if_false, setAt_stop]
  rw [append_stop, ← length_stop,
    scan_of_stop (fun c => c = '\n' || c = nul) isLine.before lineStop]
  rcases ends with rfl | rfl
  · simp only [Option.bind_some, getElem?_stop, if_true, setAt_stop, nameAt]
    rw [textAt_append fun d member => (isLine d member).2]
  · simp only [Option.bind_some, getElem?_stop, notLine, if_false, nameAt]
    rw [textAt_append fun d member => (isLine d member).2]

/-- The scans end in the text: there is a NUL, or a blank and a line feed behind it. -/
def ScanEnds (text : Text) : Prop :=
  nul ∈ text ∨ '\n' ∈ text.dropWhile (· ≠ ' ')

instance : Decidable (ScanEnds text) :=
  inferInstanceAs (Decidable (_ ∨ _))

/-- The arguments stay within the buffer when both scans end. -/
theorem parseRequest_isSome_iff :
    (parseRequest (front ++ rest) front.length).isSome ↔ ScanEnds rest := by
  rcases scanned (fun c => c = ' ' || c = nul) rest with
    never | ⟨name, c, behind, rfl, before, stop⟩
  · have isName : IsName rest := by simpa [IsName] using never
    have noNul : nul ∉ rest := fun member => (isName nul member).2 rfl
    have noBlank : rest.dropWhile (· ≠ ' ') = [] := by
      simpa using fun c member => (isName c member).1
    rw [parseRequest_never isName, ScanEnds, noBlank]
    simp [noNul]
  · have isName : IsName name := by simpa [IsName] using before
    have noNul : nul ∉ name := fun member => (isName nul member).2 rfl
    have stops : c = ' ' ∨ c = nul := by simpa using stop
    rcases stops with rfl | rfl
    · have blankFirst : (name ++ ' ' :: behind).dropWhile (· ≠ ' ') = ' ' :: behind :=
        dropWhile_ne fun c member => (isName c member).1
      rcases scanned (fun c => c = '\n' || c = nul) behind with
        never | ⟨pid, d, rest, rfl, before, stop⟩
      · have isLine : IsLine behind := by simpa [IsLine] using never
        have noNulBehind : nul ∉ behind := fun member => (isLine nul member).2 rfl
        have noLine : '\n' ∉ behind := fun member => (isLine '\n' member).1 rfl
        have notBlank : nul ≠ ' ' ∧ '\n' ≠ ' ' := by decide
        rw [parseRequest_open isName isLine, ScanEnds, blankFirst]
        simp [noNul, noNulBehind, noLine, notBlank]
      · have isLine : IsLine pid := by simpa [IsLine] using before
        have ends : d = '\n' ∨ d = nul := by simpa using stop
        rw [parseRequest_some isName isLine ends, ScanEnds, blankFirst]
        rcases ends with rfl | rfl <;> simp
    · simp [parseRequest_nul isName, ScanEnds]

theorem parseRequest_isSome_iff_drop {p : Nat} (within : p ≤ text.length) :
    (parseRequest text p).isSome ↔ ScanEnds (text.drop p) := by
  have front : (text.take p).length = p := by rw [List.length_take, Nat.min_eq_left within]
  have isSome : (parseRequest (text.take p ++ text.drop p) (text.take p).length).isSome ↔
      ScanEnds (text.drop p) :=
    parseRequest_isSome_iff
  rwa [List.take_append_drop, front] at isSome

/-- What a text without NUL asks for, if there is a blank in it. -/
def requestIn (text : Text) : Option (Text × Int) :=
  match text.dropWhile (· ≠ ' ') with
  | [] => none
  | _ :: behind => some (text.takeWhile (· ≠ ' '), atoi (behind.takeWhile (· ≠ '\n')))

theorem parseRequest_text (isText : nul ∉ text) :
    parseRequest (front ++ (text ++ nul :: rest)) front.length = some (requestIn text) := by
  have notNul {c : Char} (member : c ∈ text) : c ≠ nul := by
    rintro rfl
    exact isText member
  rcases scanned (fun c => c = ' ') text with never | ⟨name, c, behind, rfl, before, stop⟩
  · have isName : IsName text := fun c member => ⟨by simpa using never c member, notNul member⟩
    have noBlank : text.dropWhile (· ≠ ' ') = [] := by simpa using never
    rw [parseRequest_nul isName, requestIn, noBlank]
  · have isName : IsName name :=
      fun c member => ⟨by simpa using before c member, notNul (by simp [member])⟩
    obtain rfl : c = ' ' := by simpa using stop
    rw [requestIn, dropWhile_ne fun c member => (isName c member).1]
    simp only [takeWhile_ne fun c member => (isName c member).1]
    rcases scanned (fun c => c = '\n') behind with never | ⟨pid, d, other, rfl, before, stop⟩
    · have isLine : IsLine behind :=
        fun c member => ⟨by simpa using never c member, notNul (by simp [member])⟩
      have whole : behind.takeWhile (· ≠ '\n') = behind := by simpa using never
      rw [List.append_assoc, List.cons_append, parseRequest_some isName isLine (.inr rfl), whole]
    · have isLine : IsLine pid :=
        fun c member => ⟨by simpa using before c member, notNul (by simp [member])⟩
      obtain rfl : d = '\n' := by simpa using stop
      rw [List.append_assoc, List.cons_append, List.append_assoc, List.cons_append,
        parseRequest_some isName isLine (.inl rfl),
        takeWhile_ne fun c member => (isLine c member).1]

/-- Only what stands before the first NUL matters. -/
theorem parseRequest_ended :
    parseRequest (front ++ (text ++ nul :: rest)) front.length =
      some (requestIn (text.takeWhile (· ≠ nul))) := by
  rcases scanned (· = nul) text with never | ⟨before, c, behind, rfl, noNul, stop⟩
  · have isText : nul ∉ text := fun member => by simpa using never nul member
    have whole : text.takeWhile (· ≠ nul) = text := by simpa using never
    rw [parseRequest_text isText, whole]
  · obtain rfl : c = nul := by simpa using stop
    have isText : nul ∉ before := fun member => by simpa using noNul nul member
    rw [takeWhile_ne (by simpa using noNul), List.append_assoc, List.cons_append,
      parseRequest_text isText]

end Parse

/-! ## What is read -/

/-- The branches of `process_requests`. -/
inductive Keyword where
  | quit
  | lock
  | unlock
  | unknown
  deriving DecidableEq, Repr

/-- The word with which the text is compared. -/
def Keyword.word : Keyword → String
  | .quit => "quit"
  | .lock => "lock "
  | .unlock => "unlock "
  | .unknown => ""

/-- How much of the word is compared. -/
def Keyword.size : Keyword → Nat
  | .quit => 4
  | .lock => 4
  | .unlock => 6
  | .unknown => 0

/-- The branch that is taken for a text. -/
def keyword (text : Text) : Keyword :=
  if hasPrefix text "quit" 4 then .quit
  else if hasPrefix text "lock " 4 then .lock
  else if hasPrefix text "unlock " 6 then .unlock
  else .unknown

/-- The index at which the text is ended. -/
def textEnd (ret : Int) : Nat :=
  if ret < 80 ∧ ret > 1 then ret.toNat else 79

/-- The buffer after `str[ret] = 0` or `str[79] = 0`. -/
def terminated (str : Text) (ret : Int) : Text :=
  str.set (textEnd ret) nul

/-- The command that a text without a known keyword is taken for: all but its last two
bytes. -/
def refused (str : Text) (ret : Int) : Text :=
  (str.take (ret - 2).toNat).takeWhile (· ≠ nul)

/-- The call of `LOCK` or `UNLOCK` that a read comes to, with what stands in front of the file
name in `str`. -/
def requestOf (str : Text) (ret : Int) : Option (Text × Request) :=
  match keyword (terminated str ret) with
  | .lock => (parseRequest (terminated str ret) 5).join.map fun (filename, pid) =>
      ((terminated str ret).take 5, .lock filename pid)
  | .unlock => (parseRequest (terminated str ret) 7).join.map fun (filename, pid) =>
      ((terminated str ret).take 7, .unlock filename pid)
  | .quit | .unknown => none

/-- The answer to a `LOCK` or `UNLOCK` command with arguments, behind what stands in front of
them in `str`. -/
def answered (call : Text → Request → Except Fault Bool) (front : Text) (request : Request) :
    Except Fault Served :=
  (call front request).map fun zero => ⟨[if zero then m200 else m450], some request, false⟩

section Process

variable {hostname str text : Text} {ret : Int} {call : Text → Request → Except Fault Bool}
  {calls : SystemCalls}

theorem textEnd_lt (ret : Int) : textEnd ret < 80 := by
  unfold textEnd
  split <;> omega

theorem setAt_natCast {n : Nat} {c : Char} (within : n < str.length) :
    setAt str n c = some (str.set n c) := by
  rw [setAt, if_pos ⟨Int.natCast_nonneg n, by exact_mod_cast within⟩, Int.toNat_natCast]

/-- The text is always ended within the buffer. -/
theorem setAt_textEnd (size : str.length = 80) :
    setAt str (if ret < 80 ∧ ret > 1 then ret else 79) nul = some (terminated str ret) := by
  have isEnd : (if ret < 80 ∧ ret > 1 then ret else 79) = (textEnd ret : Int) := by
    unfold textEnd
    split <;> omega
  rw [isEnd, setAt_natCast (size ▸ textEnd_lt ret), terminated]

theorem textAt_set_nul {n : Nat} (within : n < text.length) :
    textAt (text.set n nul) 0 = (text.take n).takeWhile (· ≠ nul) := by
  rw [textAt, List.drop_zero, List.set_eq_take_append_cons_drop, if_pos within,
    List.takeWhile_append]
  split
  next whole =>
    rw [List.takeWhile_cons_of_neg (by simp), List.append_nil]
    exact (List.IsPrefix.eq_of_length (List.takeWhile_prefix _) whole).symm
  next => rfl

/-- The text of a refusal, if the index computed for its end is in the buffer. -/
theorem setAt_refused (size : str.length = 80) (long : 2 ≤ ret) (atMost : ret ≤ 80) :
    (setAt (terminated str ret) (ret - 2) nul).map (textAt · 0) = some (refused str ret) := by
  obtain ⟨n, rfl⟩ : ∃ n : Nat, ret = n + 2 := ⟨(ret - 2).toNat, by omega⟩
  have within : n < (terminated str (n + 2)).length := by
    rw [terminated, List.length_set]
    omega
  have before : n ≤ textEnd (n + 2) := by
    unfold textEnd
    split <;> omega
  rw [Int.add_sub_cancel, setAt_natCast within, Option.map_some, textAt_set_nul within, refused,
    Int.add_sub_cancel, Int.toNat_natCast, terminated, List.take_set_of_le before]

/-- `process_requests`, branch by branch. -/
theorem processRequests_eq (size : str.length = 80) (atMost : ret ≤ 80) :
    processRequests hostname str ret call =
      match keyword (terminated str ret) with
      | .quit => (inBuffer (sprintf 80 (m221 hostname))).map fun reply => ⟨[reply], none, true⟩
      | .lock => inBuffer (parseRequest (terminated str ret) 5) >>= fun
          | none => .ok ⟨[m450], none, false⟩
          | some (filename, pid) =>
              answered call ((terminated str ret).take 5) (.lock filename pid)
      | .unlock => inBuffer (parseRequest (terminated str ret) 7) >>= fun
          | none => .ok ⟨["q=0\n".toList, m450], none, false⟩
          | some (filename, pid) =>
              answered call ((terminated str ret).take 7) (.unlock filename pid)
      | .unknown =>
          if 2 ≤ ret then
            (inBuffer (sprintf 80 (m500 (refused str ret)))).map fun reply =>
              ⟨[reply], none, false⟩
          else .error .buffer := by
  have answers (front : Text) (request : Request) :
      (call front request >>= fun zero =>
        .ok ⟨[if zero then m200 else m450], some request, false⟩) =
      answered call front request := by
    rw [answered]
    cases call front request <;> rfl
  rw [processRequests, setAt_textEnd size]
  simp only [inBuffer_some, ok_bind, answers]
  unfold keyword
  split
  next => cases sprintf 80 (m221 hostname) <;> rfl
  next =>
    split
    next => cases parseRequest (terminated str ret) 5 with
      | none => rfl
      | some parsed => cases parsed <;> rfl
    next =>
      split
      next => cases parseRequest (terminated str ret) 7 with
        | none => rfl
        | some parsed => cases parsed <;> rfl
      next =>
        change _ = if 2 ≤ ret then _ else _
        split
        next long =>
          have text := setAt_refused size long atMost
          rw [Option.map_eq_some_iff] at text
          obtain ⟨changed, set, text⟩ := text
          rw [set, inBuffer_some, ok_bind, text]
          cases sprintf 80 (m500 (refused str ret)) <;> rfl
        next short =>
          have outside : setAt (terminated str ret) (ret - 2) nul = none := by
            rw [setAt, if_neg (by omega)]
          rw [outside]
          rfl

/-! ## Overruns -/

/-- When `process_requests` itself stays within its buffers: the name of the host or the refused
command leaves room in the reply, and behind a keyword that ends the text the scans end in
what the buffer held before. -/
def TextWithin (hostname str : Text) (ret : Int) : Prop :=
  match keyword (terminated str ret) with
  | .quit => hostname.length ≤ 29
  | .lock => ret = 4 → ScanEnds (str.drop 5)
  | .unlock => ret = 6 → ScanEnds (str.drop 7)
  | .unknown => 2 ≤ ret ∧ (refused str ret).length ≤ 48

/-- And when the scans of `LOCK` and `UNLOCK` do: an empty file name has a `/` in front of it. -/
def WithinBuffers (hostname str : Text) (ret : Int) : Prop :=
  TextWithin hostname str ret ∧
    ∀ front request, requestOf str ret = some (front, request) → StopsInFront front request

theorem sprintf_isSome_iff {n : Nat} : (sprintf n text).isSome ↔ text.length < n := by
  unfold sprintf
  split <;> simp_all

theorem m221_length : (m221 hostname).length = 49 + hostname.length + 1 := by
  have front : "221 Thank you for using the Lock File service on ".toList.length = 49 := rfl
  have back : "\n".toList.length = 1 := rfl
  unfold m221
  simp only [List.length_append, front, back]

theorem m500_length : (m500 text).length = 5 + text.length + 26 := by
  have front : "500 '".toList.length = 5 := rfl
  have back : "': command not understood\n".toList.length = 26 := rfl
  unfold m500
  simp only [List.length_append, front, back]

theorem hasPrefix_keyword (text : Text) :
    hasPrefix text (keyword text).word (keyword text).size = true := by
  unfold keyword
  split
  next isPrefix => exact isPrefix
  next =>
    split
    next isPrefix => exact isPrefix
    next =>
      split
      next isPrefix => exact isPrefix
      next => simp [hasPrefix, Keyword.size]

theorem length_of_hasPrefix {word : String} {n : Nat} (isPrefix : hasPrefix text word n = true)
    (long : n ≤ word.toList.length) : n ≤ text.length := by
  simp only [hasPrefix, decide_eq_true_eq] at isPrefix
  have same := congrArg List.length isPrefix
  rw [List.length_map, List.length_take, List.length_take] at same
  omega

/-- A text does not end within its keyword. -/
theorem nul_notMem_of_hasPrefix {word : String} {n : Nat} (isPrefix : hasPrefix text word n = true)
    (clean : nul ∉ word.toList.take n) : nul ∉ text.take n := by
  intro member
  simp only [hasPrefix, decide_eq_true_eq] at isPrefix
  rw [← isPrefix] at clean
  exact clean (List.mem_map.mpr ⟨nul, member, rfl⟩)

theorem Keyword.size_le_word (keyword : Keyword) : keyword.size ≤ keyword.word.toList.length := by
  cases keyword <;> decide

theorem Keyword.nul_notMem_word (keyword : Keyword) :
    nul ∉ keyword.word.toList.take keyword.size := by
  cases keyword <;> decide

theorem size_le_length {branch : Keyword} (word : keyword text = branch) :
    branch.size ≤ text.length := by
  rw [← word]
  exact length_of_hasPrefix (hasPrefix_keyword text) (keyword text).size_le_word

theorem nul_notMem_keyword {branch : Keyword} (word : keyword text = branch) :
    nul ∉ text.take branch.size := by
  rw [← word]
  exact nul_notMem_of_hasPrefix (hasPrefix_keyword text) (keyword text).nul_notMem_word

/-- The scans behind a keyword of `n` bytes end in the text, unless it ends there. -/
theorem scanEnds_terminated {n : Nat} (size : str.length = 80)
    (clean : nul ∉ (terminated str ret).take n) (small : 1 < n ∧ n < 79) :
    ScanEnds ((terminated str ret).drop (n + 1)) ↔ (ret = n → ScanEnds (str.drop (n + 1))) := by
  have within := textEnd_lt ret
  rw [terminated] at clean ⊢
  rcases lt_trichotomy (textEnd ret) n with before | atEnd | behind
  · refine absurd (List.mem_take_iff_getElem.mpr ⟨textEnd ret, ?_, ?_⟩) clean
    · rw [List.length_set]
      omega
    · exact List.getElem_set_self _
  · have isEnd : ret = n := by
      unfold textEnd at atEnd
      split at atEnd <;> omega
    rw [atEnd, List.drop_set_of_lt (Nat.lt_succ_self n)]
    simp [isEnd]
  · have notEnd : ret ≠ n := by
      rintro rfl
      unfold textEnd at behind
      split at behind <;> omega
    refine iff_of_true (.inl (List.mem_drop_iff_getElem.mpr ⟨textEnd ret - (n + 1), ?_, ?_⟩))
      fun isEnd => absurd isEnd notEnd
    · rw [List.length_set]
      omega
    · simp only [Nat.add_sub_cancel' behind]
      exact List.getElem_set_self _

theorem error_inBuffer_iff {α : Type} {result : Option α} {fault : Fault} :
    inBuffer result = .error fault ↔ fault = .buffer ∧ ¬result.isSome := by
  cases result <;> simp [inBuffer, eq_comm]

theorem error_map_iff {α β : Type} {result : Except Fault α} {f : α → β} {fault : Fault} :
    result.map f = .error fault ↔ result = .error fault := by
  cases result <;> simp [Except.map]

/-- A command with arguments goes wrong in the scans for them, or in `LOCK` or `UNLOCK`. -/
theorem error_arguments_iff {parsed : Option (Option (Text × Int))} {unnamed : Served}
    {front : Text} {request : Text → Int → Request} {fault : Fault} :
    (inBuffer parsed >>= fun
        | none => .ok unnamed
        | some (filename, pid) => answered call front (request filename pid)) = .error fault ↔
      (fault = .buffer ∧ ¬parsed.isSome) ∨
        ∃ behind asked, parsed.join.map (fun (filename, pid) => (front, request filename pid)) =
          some (behind, asked) ∧ call behind asked = .error fault := by
  rcases parsed with _ | _ | ⟨filename, pid⟩
  · simp [eq_comm]
  · simp
  · simp [answered, error_map_iff]

/-- How `process_requests` can fail. -/
theorem processRequests_error_iff (size : str.length = 80) (atMost : ret ≤ 80) {fault : Fault} :
    processRequests hostname str ret call = .error fault ↔
      (fault = .buffer ∧ ¬TextWithin hostname str ret) ∨
        ∃ front request, requestOf str ret = some (front, request) ∧
          call front request = .error fault := by
  have within {p : Nat} (short : p ≤ 80) : p ≤ (terminated str ret).length := by
    rwa [terminated, List.length_set, size]
  rw [processRequests_eq size atMost, TextWithin, requestOf]
  cases word : keyword (terminated str ret) with
  | quit =>
      have fits : (49 + hostname.length + 1 < 80) ↔ hostname.length ≤ 29 := by omega
      simp [error_map_iff, error_inBuffer_iff, sprintf_isSome_iff, m221_length, fits]
  | lock =>
      have ends : (parseRequest (terminated str ret) 5).isSome ↔
          (ret = 4 → ScanEnds (str.drop 5)) := by
        rw [parseRequest_isSome_iff_drop (within (by decide))]
        exact scanEnds_terminated size (nul_notMem_keyword word) (by decide)
      change _ ↔ (fault = .buffer ∧ ¬(ret = 4 → ScanEnds (str.drop 5))) ∨ _
      rw [← ends]
      exact error_arguments_iff
  | unlock =>
      have ends : (parseRequest (terminated str ret) 7).isSome ↔
          (ret = 6 → ScanEnds (str.drop 7)) := by
        rw [parseRequest_isSome_iff_drop (within (by decide))]
        exact scanEnds_terminated size (nul_notMem_keyword word) (by decide)
      change _ ↔ (fault = .buffer ∧ ¬(ret = 6 → ScanEnds (str.drop 7))) ∨ _
      rw [← ends]
      exact error_arguments_iff
  | unknown =>
      have fits : (5 + (refused str ret).length + 26 < 80) ↔ (refused str ret).length ≤ 48 := by
        omega
      change (if 2 ≤ ret then _ else _) = _ ↔
        (fault = .buffer ∧ ¬(2 ≤ ret ∧ (refused str ret).length ≤ 48)) ∨ _
      split
      next long =>
        simp [error_map_iff, error_inBuffer_iff, sprintf_isSome_iff, m500_length, fits, long]
      next short => simp [short, eq_comm]

/-- `process_requests` with `LOCK` and `UNLOCK` leaves `str` and `str2` in no case if and only
if it stays within its buffers, and leaves no buffer at all if moreover the texts of `LOCK`
and `UNLOCK` fit into theirs. -/
theorem processRequests_within_iff (size : str.length = 80) (atMost : ret ≤ 80) :
    (processRequests hostname str ret calls.perform ≠ .error .buffer ↔
      WithinBuffers hostname str ret) ∧
    (processRequests hostname str ret calls.perform ≠ .error .buffer ∧
        processRequests hostname str ret calls.perform ≠ .error .lockBuffer ↔
      WithinBuffers hostname str ret ∧
        ∀ front request, requestOf str ret = some (front, request) →
          calls.Fits front request) := by
  have buffer : processRequests hostname str ret calls.perform ≠ .error .buffer ↔
      WithinBuffers hostname str ret := by
    rw [WithinBuffers, ne_eq, processRequests_error_iff size atMost]
    simp only [true_and, not_or, not_not, not_exists, not_and]
    refine and_congr_right fun _ => forall_congr' fun front => forall_congr' fun request => ?_
    exact imp_congr_right fun _ => (calls.perform_fault front request).1
  have lockBuffer : processRequests hostname str ret calls.perform ≠ .error .lockBuffer ↔
      ∀ front request, requestOf str ret = some (front, request) →
        calls.Fits front request := by
    rw [ne_eq, processRequests_error_iff size atMost]
    simp only [reduceCtorEq, false_and, false_or, not_exists, not_and]
    refine forall_congr' fun front => forall_congr' fun request => ?_
    exact imp_congr_right fun _ => (calls.perform_fault front request).2.1
  exact ⟨buffer, and_congr buffer lockBuffer⟩

/-- The greeting of `main` has a buffer of its own. -/
theorem greeting_isSome_iff : (sprintf 128 (m220 hostname)).isSome ↔ hostname.length ≤ 78 := by
  have front : "220 ".toList.length = 4 := rfl
  have back : " Lock File Server (Version rxtx-1.5-9) ready\n".toList.length = 45 := rfl
  rw [sprintf_isSome_iff]
  unfold m220
  simp only [List.length_append, front, back]
  omega

end Process

/-- A device that is free, and whose lock file can be created. -/
def unlocked : SystemCalls where
  status := .free
  create := true
  strerror := []
  device := true
  pidBuffer := none
  noProcess := true
  getpid := 3
  getppid := 1
  conversions := fun _ => false

/-- A command that is read at once. -/
theorem processRequests_within_iff_lock :
    processRequests "localhost".toList ("lock a 1\n".toList ++ List.replicate 71 'x') 9
        unlocked.perform ≠ .error .buffer ∧
      processRequests "localhost".toList ("lock a 1\n".toList ++ List.replicate 71 'x') 9
        unlocked.perform ≠ .error .lockBuffer := by
  have asked : requestOf ("lock a 1\n".toList ++ List.replicate 71 'x') 9 =
      some ("lock ".toList, .lock ['a'] 1) := by
    decide
  refine (processRequests_within_iff rfl (by decide)).2.mpr ⟨⟨?_, ?_⟩, ?_⟩
  · exact fun atKeyword => absurd atKeyword (by decide)
  · rintro front request same
    obtain ⟨rfl, rfl⟩ := Prod.mk.inj (Option.some.inj (asked.symm.trans same))
    exact nofun
  · rintro front request same
    obtain ⟨rfl, rfl⟩ := Prod.mk.inj (Option.some.inj (asked.symm.trans same))
    exact fun _ _ _ _ => by decide

/-- An empty line: `str[-1]` is set. -/
theorem empty_line_overruns :
    processRequests "localhost".toList ('\n' :: List.replicate 79 'x') 1 unlocked.perform =
      .error .buffer :=
  rfl

/-- An empty file name: `LOCK` runs back over the keyword. -/
example : processRequests "localhost".toList ("lock  7\n".toList ++ List.replicate 72 'x') 8
    unlocked.perform = .error .buffer := by
  decide

end Jrxtx.LockDaemon
