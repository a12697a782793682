import Jrxtx.LockDaemon.Grammar

/-!
# Lines read at once

The ordinary client: it sends one command, waits for the reply, and the daemon reads the
whole line at once.  All its commands are answered, if `LOCK` and `UNLOCK` return.
-/

namespace Jrxtx.LockDaemon

/-! ## Pids -/

section Line

variable {digits text rest : Text} {pid : Int}

theorem number_eq_some (isNumber : number digits = some pid) :
    digits ≠ [] ∧ (∀ c ∈ digits, c.isDigit = true) ∧ pid = digitsValue digits := by
  simp only [number, Option.ite_none_right_eq_some, Option.some.injEq, List.all_eq_true] at isNumber
  exact ⟨isNumber.1.1, isNumber.1.2, isNumber.2.symm⟩

theorem takeWhile_digits (areDigits : ∀ c ∈ digits, c.isDigit = true)
    (stop : ∀ c ∈ rest.head?, c.isDigit = false) :
    (digits ++ rest).takeWhile Char.isDigit = digits := by
  have noMore : rest.takeWhile Char.isDigit = [] := by
    cases rest with
    | nil => rfl
    | cons c rest => rw [List.takeWhile_cons_of_neg (by simp [stop c rfl])]
  rw [List.takeWhile_append_of_pos areDigits, noMore, List.append_nil]

theorem not_isSpace_of_isDigit {c : Char} (isDigit : c.isDigit = true) : isSpace c = false := by
  have bounds : 48 ≤ c.toNat ∧ c.toNat ≤ 57 := Char.isDigit_iff_toNat.mp isDigit
  have notBlank : c ≠ ' ' := by
    rintro rfl
    exact absurd isDigit (by decide)
  simp only [isSpace, notBlank, decide_false, Bool.false_or, Bool.and_eq_false_iff,
    decide_eq_false_iff_not]
  omega

/-- The number at the beginning of a text is a pid that ends there. -/
theorem leadingInt_of_decimal (isPid : decimal text = some pid)
    (stop : ∀ c ∈ rest.head?, c.isDigit = false) : leadingInt (text ++ rest) = pid := by
  revert isPid
  fun_cases decimal text with
  | case1 digits =>
      intro isPid
      rw [Option.map_eq_some_iff] at isPid
      obtain ⟨value, isNumber, rfl⟩ := isPid
      obtain ⟨-, areDigits, rfl⟩ := number_eq_some isNumber
      have front : ('-' :: digits ++ rest).dropWhile isSpace = '-' :: (digits ++ rest) := rfl
      rw [leadingInt, front]
      simp only [takeWhile_digits areDigits stop]
  | case2 digits =>
      intro isNumber
      obtain ⟨-, areDigits, rfl⟩ := number_eq_some isNumber
      have front : ('+' :: digits ++ rest).dropWhile isSpace = '+' :: (digits ++ rest) := rfl
      rw [leadingInt, front]
      simp only [takeWhile_digits areDigits stop]
  | case3 notMinus notPlus =>
      intro isNumber
      obtain ⟨nonempty, areDigits, rfl⟩ := number_eq_some isNumber
      obtain ⟨c, digits, rfl⟩ := List.exists_cons_of_ne_nil nonempty
      have isDigit : c.isDigit = true := areDigits c (by simp)
      have front : (c :: digits ++ rest).dropWhile isSpace = c :: digits ++ rest := by
        simp [not_isSpace_of_isDigit isDigit]
      rw [leadingInt, front]
      split
      next same => exact absurd ((List.cons_eq_cons.mp same).1 ▸ isDigit) (by decide)
      next same => exact absurd ((List.cons_eq_cons.mp same).1 ▸ isDigit) (by decide)
      next => rw [takeWhile_digits areDigits stop]

theorem atoi_of_decimal (isPid : decimal text = some pid) (isInt : -2 ^ 31 ≤ pid ∧ pid < 2 ^ 31)
    (stop : ∀ c ∈ rest.head?, c.isDigit = false) : atoi (text ++ rest) = pid := by
  rw [atoi, leadingInt_of_decimal isPid stop, Int.min_eq_left (by omega),
    Int.max_eq_right (by omega), Int.bmod_def]
  omega

theorem mem_decimal {c : Char} (isPid : decimal text = some pid) (member : c ∈ text) :
    c = '-' ∨ c = '+' ∨ c.isDigit = true := by
  revert isPid
  fun_cases decimal text with
  | case1 digits =>
      intro isPid
      rw [Option.map_eq_some_iff] at isPid
      obtain ⟨value, isNumber, -⟩ := isPid
      exact (List.mem_cons.mp member).imp_right fun behind =>
        .inr ((number_eq_some isNumber).2.1 c behind)
  | case2 digits =>
      intro isNumber
      exact (List.mem_cons.mp member).elim (fun first => .inr (.inl first)) fun behind =>
        .inr (.inr ((number_eq_some isNumber).2.1 c behind))
  | case3 =>
      intro isNumber
      exact .inr (.inr ((number_eq_some isNumber).2.1 c member))

theorem not_mem_decimal {c : Char} (isPid : decimal text = some pid)
    (other : ¬(c = '-' ∨ c = '+' ∨ c.isDigit = true)) : c ∉ text :=
  fun member => other (mem_decimal isPid member)

/-- What stands before the LF of a line end. -/
def IsCr (cr : Text) : Prop :=
  cr = [] ∨ cr = ['\r']

theorem length_of_isWord {word : Text} {lower : String} (isLower : isWord word lower = true) :
    word.length = lower.toList.length := by
  simp only [isWord, decide_eq_true_eq] at isLower
  rw [← isLower, List.length_map]

end Line

/-! ## Requests -/

/-- A `LOCK` or `UNLOCK` line with a pid that is an `int`. -/
structure RequestLine where
  word : Text
  device : Text
  digits : Text
  pid : Int
  cr : Text
  isRequest : isWord word "lock" = true ∨ isWord word "unlock" = true
  isName : isDevice device = true
  oneWord : ' ' ∉ device ∧ '\n' ∉ device
  isPid : decimal digits = some pid
  isInt : -2 ^ 31 ≤ pid ∧ pid < 2 ^ 31
  isCr : IsCr cr

namespace RequestLine

variable {hostname rest : Text} {calls : SystemCalls} (request : RequestLine)

/-- The line without its end. -/
def line : Text :=
  request.word ++ ' ' :: (request.device ++ ' ' :: request.digits)

/-- The text behind the keyword. -/
def arguments : Text :=
  request.device ++ ' ' :: (request.digits ++ (request.cr ++ ['\n']))

/-- The bytes of the line. -/
def bytes : Text :=
  request.word ++ ' ' :: request.arguments

/-- What the line asks for. -/
def asked : Request :=
  if isWord request.word "lock" then .lock request.device request.pid
  else .unlock request.device request.pid

variable {request}

theorem nul_notMem_arguments : nul ∉ request.arguments := by
  have noNul : nul ∉ request.device := by
    have isName := request.isName
    simp only [isDevice, Bool.and_eq_true, decide_eq_true_eq] at isName
    exact isName.2
  have notDigit : nul ∉ request.digits := not_mem_decimal request.isPid (by decide)
  have notEnd : nul ∉ request.cr ++ ['\n'] := by
    rcases request.isCr with cr | cr <;> rw [cr] <;> decide
  have notBlank : nul ≠ ' ' := by decide
  simp only [arguments, List.mem_append, List.mem_cons, not_or] at notEnd ⊢
  exact ⟨noNul, notBlank, notDigit, notEnd⟩

theorem requestIn_arguments :
    requestIn request.arguments = some (request.device, request.pid) := by
  have before : ∀ c ∈ request.device, c ≠ ' ' :=
    fun c member same => request.oneWord.1 (same ▸ member)
  have noLine : '\n' ∉ request.digits := not_mem_decimal request.isPid (by decide)
  have line : ∀ c ∈ request.digits ++ request.cr, c ≠ '\n' := by
    rintro c member rfl
    rcases request.isCr with cr | cr <;> simp [noLine, cr] at member
  have stop : ∀ c ∈ request.cr.head?, c.isDigit = false := by
    rcases request.isCr with cr | cr <;> simp [cr]
  rw [requestIn, arguments, dropWhile_ne before]
  simp only [takeWhile_ne before]
  rw [← List.append_assoc, takeWhile_ne line, atoi_of_decimal request.isPid request.isInt stop]

theorem argumentsIn_bytes (short : request.bytes.length ≤ 79) :
    argumentsIn request.bytes (request.word.length + 1) = request.arguments := by
  have behind : request.bytes.drop (request.word.length + 1) = request.arguments := by
    rw [bytes, List.drop_append, List.drop_of_length_le (Nat.le_succ _), Nat.add_sub_cancel_left]
    rfl
  rw [argumentsIn, List.take_of_length_le short, behind, List.takeWhile_eq_self_iff]
  intro c member
  simpa using fun same => nul_notMem_arguments (same ▸ member)

theorem length_bytes_ne : request.bytes.length ≠ request.word.length := by
  simp only [bytes, List.length_append, List.length_cons]
  omega

/-- A keyword has letters only. -/
theorem not_mem_word {c : Char} (lower : c.toLower = c)
    (notLetter : c ∉ "lock".toList ∧ c ∉ "unlock".toList) : c ∉ request.word := by
  intro member
  have mapped : c ∈ request.word.map Char.toLower := List.mem_map.mpr ⟨c, member, lower⟩
  have isRequest := request.isRequest
  simp only [isWord, decide_eq_true_eq] at isRequest
  rcases isRequest with isLock | isUnlock
  · exact notLetter.1 (isLock ▸ mapped)
  · exact notLetter.2 (isUnlock ▸ mapped)

theorem splitOn_line :
    request.line.splitOn ' ' = [request.word, request.device, request.digits] := by
  have wordNoBlank : ' ' ∉ request.word := not_mem_word rfl (by decide)
  have digitsNoBlank : ' ' ∉ request.digits := not_mem_decimal request.isPid (by decide)
  rw [line, List.splitOn_append_cons_self_of_not_mem wordNoBlank,
    List.splitOn_append_cons_self_of_not_mem request.oneWord.1,
    List.splitOn_eq_singleton digitsNoBlank]

theorem hasPrefix_bytes {lower word : String} {n : Nat}
    (isLower : isWord request.word lower = true) (within : n ≤ lower.toList.length) :
    hasPrefix request.bytes word n = decide (lower.toList.take n = word.toList.take n) := by
  simp only [isWord, decide_eq_true_eq] at isLower
  have long : n ≤ request.word.length := by
    rwa [← isLower, List.length_map] at within
  rw [hasPrefix, bytes, List.take_append_of_le_length long, List.map_take, isLower]

/-- The branch in which a line is served. -/
theorem keyword_bytes :
    keyword request.bytes = if isWord request.word "lock" then .lock else .unlock := by
  rcases request.isRequest with isLock | isUnlock
  · rw [if_pos isLock, keyword, hasPrefix_bytes isLock (by decide),
      hasPrefix_bytes isLock (by decide)]
    rfl
  · have notLock : isWord request.word "lock" = false := by
      simp only [isWord, decide_eq_true_eq] at isUnlock
      rw [isWord, isUnlock]
      decide
    rw [if_neg (by simp [notLock]), keyword, hasPrefix_bytes isUnlock (by decide),
      hasPrefix_bytes isUnlock (by decide), hasPrefix_bytes isUnlock (by decide)]
    rfl

/-- The keyword does not end the line. -/
theorem settled : Settled request.bytes := by
  have behind := request.length_bytes_ne
  have long : request.word.length + 1 ≤ request.bytes.length := by
    simp only [bytes, List.length_append, List.length_cons]
    omega
  rcases request.isRequest with isLock | isUnlock
  · have size : request.word.length = 4 := length_of_isWord isLock
    refine ⟨by omega, fun _ => size ▸ behind, fun word => ?_⟩
    rw [keyword_bytes, if_pos isLock] at word
    cases word
  · have size : request.word.length = 6 := length_of_isWord isUnlock
    refine ⟨by omega, fun word => ?_, fun _ => size ▸ behind⟩
    rw [size] at long
    omega

/-- A line that is read at once delivers its command. -/
theorem delivers (short : request.bytes.length ≤ 79)
    (returns : calls.Returns (request.bytes.take (request.word.length + 1)) request.asked) :
    Delivers hostname calls request.bytes (commandOf request.line) := by
  have arguments := argumentsIn_bytes short
  rcases request.isRequest with isLock | isUnlock
  · have command : commandOf request.line = .lock request.device request.pid := by
      simp only [commandOf, splitOn_line, request.isName, request.isPid, isLock, if_true]
    have size : request.word.length = 4 := length_of_isWord isLock
    rw [asked, if_pos isLock, size] at returns
    rw [size] at arguments
    rw [command, Delivers, keyword_bytes, if_pos isLock]
    refine ⟨settled.lock (by rw [keyword_bytes, if_pos isLock]), ?_⟩
    rw [arguments, requestIn_arguments]
    exact ⟨rfl, returns⟩
  · have notLock : isWord request.word "lock" = false := by
      simp only [isWord, decide_eq_true_eq] at isUnlock
      rw [isWord, isUnlock]
      decide
    have isKeyword : keyword request.bytes = .unlock := by
      rw [keyword_bytes, if_neg (by simp [notLock])]
    have command : commandOf request.line = .unlock request.device request.pid := by
      simp only [commandOf, splitOn_line, request.isName, request.isPid, isUnlock, notLock,
        Bool.false_eq_true, if_false, if_true]
    have size : request.word.length = 6 := length_of_isWord isUnlock
    rw [asked, if_neg (by simp [notLock]), size] at returns
    rw [size] at arguments
    rw [command, Delivers, isKeyword]
    refine ⟨settled.unlock isKeyword, ?_⟩
    rw [arguments, requestIn_arguments]
    exact ⟨rfl, returns⟩

theorem chomp_line : chomp (request.line ++ request.cr) = request.line := by
  have noCr : '\r' ∉ ' ' :: request.digits := by
    simpa using not_mem_decimal request.isPid (c := '\r') (by decide)
  have notCr : request.line.getLast? ≠ some '\r' := by
    intro last
    have split : request.line =
        (request.word ++ ' ' :: request.device) ++ ' ' :: request.digits := by
      simp [line]
    rw [split, List.getLast?_append_of_ne_nil _ (by simp)] at last
    exact noCr (List.mem_of_getLast? last)
  rcases request.isCr with cr | cr
  · rw [cr, List.append_nil, chomp, if_neg notCr]
  · rw [cr, chomp, if_pos List.getLast?_concat, List.dropLast_concat]

/-- The first line of a stream. -/
theorem linesOf_bytes : linesOf (request.bytes ++ rest) = request.line :: linesOf rest := by
  have noLine : '\n' ∉ request.line ++ request.cr := by
    have inWord : '\n' ∉ request.word := not_mem_word rfl (by decide)
    have inDigits : '\n' ∉ request.digits := not_mem_decimal request.isPid (by decide)
    rcases request.isCr with cr | cr <;>
      simp [line, cr, inWord, inDigits, request.oneWord.2]
  have split : request.bytes ++ rest = (request.line ++ request.cr) ++ '\n' :: rest := by
    simp [bytes, line, arguments]
  rw [linesOf, split, List.splitOn_append_cons_self_of_not_mem noLine,
    List.dropLast_cons_of_ne_nil (List.splitOn_ne_nil _ _), List.map_cons, chomp_line]
  rfl

end RequestLine

/-! ## Sessions -/

section Session

variable {hostname : Text} {requests : List RequestLine} {calls : Nat → SystemCalls}

def quitLine : Text :=
  "quit\n".toList

/-- What the daemon reads from a client that waits for each reply and then quits. -/
def chunksOf (requests : List RequestLine) : List Text :=
  requests.map RequestLine.bytes ++ [quitLine]

/-- `LOCK` and `UNLOCK` return. -/
def AllReturn (calls : Nat → SystemCalls) (requests : List RequestLine) : Prop :=
  ∀ n request, requests[n]? = some request →
    (calls n).Returns (request.bytes.take (request.word.length + 1)) request.asked

theorem deliversAll_chunksOf (short : ∀ request ∈ requests, request.bytes.length ≤ 79)
    (fits : hostname.length ≤ 29) (returns : AllReturn calls requests) :
    DeliversAll hostname calls (chunksOf requests)
      ((linesOf (chunksOf requests).flatten).map commandOf) := by
  induction requests generalizing calls with
  | nil => exact ⟨⟨rfl, fits⟩, .inl rfl⟩
  | cons request requests ih =>
      have stream : (chunksOf (request :: requests)).flatten =
          request.bytes ++ (chunksOf requests).flatten := by
        simp [chunksOf]
      have later : AllReturn (fun n => calls (n + 1)) requests :=
        fun n other listed => returns (n + 1) other listed
      rw [stream, RequestLine.linesOf_bytes, List.map_cons]
      exact ⟨RequestLine.delivers (short request (by simp)) (returns 0 request rfl),
        .inr (ih (fun other member => short other (by simp [member])) later)⟩

/-- Such a client gets all its answers. -/
theorem answersAll_chunksOf (short : ∀ request ∈ requests, request.bytes.length ≤ 79)
    (fits : hostname.length ≤ 29) (returns : AllReturn calls requests) :
    AnswersAll hostname calls (chunksOf requests)
      ((linesOf (chunksOf requests).flatten).map commandOf) := by
  refine (answersAll_iff_deliversAll ?_).mpr (deliversAll_chunksOf short fits returns)
  intro chunk member
  rcases List.mem_append.mp member with isRequest | isQuit
  · obtain ⟨request, listed, rfl⟩ := List.mem_map.mp isRequest
    exact Nat.le_succ_of_le (short request listed)
  · rw [List.mem_singleton.mp isQuit]
    decide

end Session

end Jrxtx.LockDaemon
