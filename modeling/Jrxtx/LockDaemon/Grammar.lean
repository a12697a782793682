import Jrxtx.LockDaemon.Buffers

/-!
# The grammar of the lock file server

The commands of the protocol, line by line, and what the daemon makes of them read by
read.  The daemon answers the lines of a stream if every read delivers what it would take
the next line for.
-/

namespace Jrxtx.LockDaemon

/-! ## Commands -/

/-- A command of the protocol. -/
inductive Command where
  | quit
  | lock (device : Text) (pid : Int)
  | unlock (device : Text) (pid : Int)
  | unknown
  deriving DecidableEq, Repr

/-- What a command asks for. -/
def Command.request : Command → Option Request
  | .lock device pid => some (.lock device pid)
  | .unlock device pid => some (.unlock device pid)
  | .quit | .unknown => none

/-- Decimal digits. -/
def number (digits : Text) : Option Int :=
  if digits ≠ [] ∧ digits.all Char.isDigit then some (digitsValue digits) else none

/-- `<pid>`, any decimal integer. -/
def decimal : Text → Option Int
  | '-' :: digits => (number digits).map fun value => -value
  | '+' :: digits => number digits
  | digits => number digits

/-- `<device>`, a string without blanks. -/
def isDevice (device : Text) : Bool :=
  device ≠ [] && nul ∉ device

/-- Keywords in upper or lower case. -/
def isWord (text : Text) (word : String) : Bool :=
  text.map Char.toLower = word.toList

/-- The command in a line: `QUIT`, `LOCK <SP> <device> <sp> <pid>`,
`UNLOCK <SP> <device> <sp> <pid>`, or none of them. -/
def commandOf (line : Text) : Command :=
  match line.splitOn ' ' with
  | [word] => if isWord word "quit" then .quit else .unknown
  | [word, device, pid] =>
      match isDevice device, decimal pid with
      | true, some pid =>
          if isWord word "lock" then .lock device pid
          else if isWord word "unlock" then .unlock device pid
          else .unknown
      | _, _ => .unknown
  | _ => .unknown

/-- A line without the CR of its CRLF. -/
def chomp (line : Text) : Text :=
  if line.getLast? = some '\r' then line.dropLast else line

/-- The lines of a stream, each ended by LF or CRLF. -/
def linesOf (stream : Text) : List Text :=
  (stream.splitOn '\n').dropLast.map chomp

/-- The commands up to the first `QUIT`. -/
def untilQuit : List Command → List Command
  | [] => []
  | .quit :: _ => [.quit]
  | command :: commands => command :: untilQuit commands

/-- A reply code of class 4 or 5. -/
def isError (reply : Text) : Prop :=
  reply.head? = some '4' ∨ reply.head? = some '5'

/-- The right answer to a command: one reply, which is an error unless the grammar has the
command, the lock or unlock that is asked for, and the end of the session after `QUIT`. -/
structure Answered (command : Command) (served : Served) : Prop where
  reply : ∃ reply, served.writes = [reply] ∧ (command = .unknown → isError reply)
  request : served.request = command.request
  quit : served.quit = true ↔ command = .quit

/-! ## The daemon -/

/-- How a session comes to an end; in `reading` the daemon goes on at end of input. -/
inductive Ending where
  | ended
  | failed (fault : Fault)
  | reading
  deriving DecidableEq, Repr

/-- `process_requests` when `read` gives a chunk; the rest of the buffer is as before. -/
def process (hostname stale : Text) (call : Text → Request → Except Fault Bool) (chunk : Text) :
    Except Fault Served :=
  processRequests hostname (chunk ++ stale.drop chunk.length) chunk.length call

/-- What comes of the loop of `main` when `process_requests` has returned; `rest` is what
comes of the next rounds. -/
def loop (rest : List Served × Ending) : Except Fault Served → List Served × Ending
  | .error fault => ([], .failed fault)
  | .ok served => if served.quit then ([served], .ended) else (served :: rest.1, rest.2)

/-- The loop of `main` over the results of `read`, with the outcomes of the system calls in
each round; behind them `read` gives 0. -/
def serve (hostname : Text) (stale : Nat → Text) (calls : Nat → SystemCalls) :
    List Text → List Served × Ending
  | [] => loop ([], .reading) (process hostname (stale 0) (calls 0).perform [])
  | chunk :: chunks =>
      loop (serve hostname (fun n => stale (n + 1)) (fun n => calls (n + 1)) chunks)
        (process hostname (stale 0) (calls 0).perform chunk)

/-- The daemon answers the commands and then ends the session, whatever is in its buffer
before a read. -/
def AnswersAll (hostname : Text) (calls : Nat → SystemCalls) (chunks : List Text)
    (commands : List Command) : Prop :=
  ∀ stale : Nat → Text, (∀ n, (stale n).length = 80) →
    ∃ services, serve hostname stale calls chunks = (services, .ended) ∧
      List.Forall₂ Answered (untilQuit commands) services

/-! ## One read -/

/-- The text behind a keyword. -/
def argumentsIn (chunk : Text) (p : Nat) : Text :=
  ((chunk.take 79).drop p).takeWhile (· ≠ nul)

/-- A chunk delivers a command: this is what it is taken for, the reply fits into its buffer,
and `LOCK` or `UNLOCK` returns. -/
def Delivers (hostname : Text) (calls : SystemCalls) (chunk : Text) (command : Command) : Prop :=
  match keyword chunk with
  | .quit => command = .quit ∧ hostname.length ≤ 29
  | .lock =>
      chunk.length ≠ 4 ∧
        match requestIn (argumentsIn chunk 5) with
        | none => command = .unknown
        | some (filename, pid) =>
            command = .lock filename pid ∧
              calls.Returns (chunk.take 5) (.lock filename pid)
  | .unlock =>
      chunk.length ≠ 6 ∧
        match requestIn (argumentsIn chunk 7) with
        | none => False
        | some (filename, pid) =>
            command = .unlock filename pid ∧
              calls.Returns (chunk.take 7) (.unlock filename pid)
  | .unknown =>
      command = .unknown ∧ 2 ≤ chunk.length ∧ (refused chunk chunk.length).length ≤ 48

section Read

variable {hostname stale text chunk rest : Text} {call : Text → Request → Except Fault Bool}
  {calls : SystemCalls} {command : Command} {word : String} {n : Nat}

/-- Where the chunk is ended does not matter for its keyword. -/
theorem hasPrefix_ended (clean : nul ∉ word.toList.take n) (long : n ≤ word.toList.length)
    (short : n ≤ 79) :
    hasPrefix (chunk.take 79 ++ nul :: rest) word n = hasPrefix chunk word n := by
  rcases Nat.lt_or_ge chunk.length n with less | enough
  · have whole : chunk.take 79 = chunk := List.take_of_length_le (by omega)
    have inside : nul ∈ (chunk ++ nul :: rest).take n :=
      List.mem_take_iff_getElem.mpr ⟨chunk.length, by simp; omega, by simp⟩
    rw [whole, Bool.eq_iff_iff]
    constructor
    · intro isPrefix
      exact absurd inside (nul_notMem_of_hasPrefix isPrefix clean)
    · intro isPrefix
      exact absurd (length_of_hasPrefix isPrefix long) (by omega)
  · have front : n ≤ (chunk.take 79).length := by
      rw [List.length_take]
      omega
    rw [hasPrefix, hasPrefix, List.take_append_of_le_length front, List.take_take,
      Nat.min_eq_left short]

theorem keyword_ended : keyword (chunk.take 79 ++ nul :: rest) = keyword chunk := by
  rw [keyword, hasPrefix_ended (by decide) (by decide) (by decide),
    hasPrefix_ended (by decide) (by decide) (by decide),
    hasPrefix_ended (by decide) (by decide) (by decide), ← keyword]

/-- A read keeps the size of the buffer. -/
theorem length_buffer (atMost : chunk.length ≤ 80) (size : stale.length = 80) :
    (chunk ++ stale.drop chunk.length).length = 80 := by
  rw [List.length_append, List.length_drop, size]
  omega

/-- The buffer after a read of at least two bytes. -/
theorem terminated_chunk (long : 2 ≤ chunk.length) (atMost : chunk.length ≤ 80)
    (size : stale.length = 80) :
    ∃ rest, terminated (chunk ++ stale.drop chunk.length) chunk.length =
      chunk.take 79 ++ nul :: rest := by
  have isEnd : textEnd chunk.length = min chunk.length 79 := by
    unfold textEnd
    split <;> omega
  have within : min chunk.length 79 < (chunk ++ stale.drop chunk.length).length := by
    rw [length_buffer atMost size]
    omega
  have front : (chunk ++ stale.drop chunk.length).take (min chunk.length 79) = chunk.take 79 := by
    have whole : (chunk.take 79).length ≤ chunk.length := List.length_take_le' ..
    rw [List.take_append_of_le_length (Nat.min_le_left ..), ← List.take_take,
      List.take_of_length_le whole]
  refine ⟨(chunk ++ stale.drop chunk.length).drop (min chunk.length 79 + 1), ?_⟩
  rw [terminated, isEnd, List.set_eq_take_append_cons_drop, if_pos within, front]

theorem keyword_terminated (long : 2 ≤ chunk.length) (atMost : chunk.length ≤ 80)
    (size : stale.length = 80) :
    keyword (terminated (chunk ++ stale.drop chunk.length) chunk.length) = keyword chunk := by
  obtain ⟨rest, ended⟩ := terminated_chunk long atMost size
  rw [ended, keyword_ended]

/-- The arguments behind a keyword that does not end the chunk. -/
theorem parseRequest_chunk (within : n ≤ (chunk.take 79).length) :
    parseRequest (chunk.take 79 ++ nul :: rest) n = some (requestIn (argumentsIn chunk n)) := by
  have front : ((chunk.take 79).take n).length = n := by
    rw [List.length_take, Nat.min_eq_left within]
  have parsed : parseRequest ((chunk.take 79).take n ++ ((chunk.take 79).drop n ++ nul :: rest))
      ((chunk.take 79).take n).length = some (requestIn (argumentsIn chunk n)) :=
    parseRequest_ended
  rwa [front, ← List.append_assoc, List.take_append_drop] at parsed

/-- A chunk whose end is not where the scan of the arguments begins, so that what the
buffer held before does not matter. -/
structure Settled (chunk : Text) : Prop where
  long : 2 ≤ chunk.length
  lock : keyword chunk = .lock → chunk.length ≠ 4
  unlock : keyword chunk = .unlock → chunk.length ≠ 6

/-- `process_requests` on a settled chunk. -/
theorem process_eq (settled : Settled chunk) (atMost : chunk.length ≤ 80)
    (size : stale.length = 80) :
    process hostname stale call chunk =
      match keyword chunk with
      | .quit => (inBuffer (sprintf 80 (m221 hostname))).map fun reply => ⟨[reply], none, true⟩
      | .lock => match requestIn (argumentsIn chunk 5) with
          | none => .ok ⟨[m450], none, false⟩
          | some (filename, pid) => answered call (chunk.take 5) (.lock filename pid)
      | .unlock => match requestIn (argumentsIn chunk 7) with
          | none => .ok ⟨["q=0\n".toList, m450], none, false⟩
          | some (filename, pid) => answered call (chunk.take 7) (.unlock filename pid)
      | .unknown => (inBuffer (sprintf 80 (m500 (refused chunk chunk.length)))).map fun reply =>
          ⟨[reply], none, false⟩ := by
  have whole := length_buffer atMost size
  have sameRefused :
      refused (chunk ++ stale.drop chunk.length) chunk.length = refused chunk chunk.length := by
    rw [refused, refused, List.take_append_of_le_length (by omega)]
  have argumentsWithin {n : Nat} (short : n < 79) (behind : n < chunk.length) :
      n + 1 ≤ (chunk.take 79).length := by
    rw [List.length_take]
    omega
  have sameFront {n : Nat} (short : n < 79) (behind : n < chunk.length) (rest : Text) :
      (chunk.take 79 ++ nul :: rest).take (n + 1) = chunk.take (n + 1) := by
    rw [List.take_append_of_le_length (argumentsWithin short behind), List.take_take,
      Nat.min_eq_left short]
  obtain ⟨rest, ended⟩ := terminated_chunk settled.long atMost size
  rw [process, processRequests_eq whole (by exact_mod_cast atMost), ended, keyword_ended]
  cases word : keyword chunk with
  | quit => rfl
  | lock =>
      have behind : 4 < chunk.length :=
        lt_of_le_of_ne (size_le_length word) (settled.lock word).symm
      have parsed : parseRequest (chunk.take 79 ++ nul :: rest) (4 + 1) = _ :=
        parseRequest_chunk (argumentsWithin (by decide) behind)
      rw [parsed, inBuffer_some, ok_bind]
      cases requestIn (argumentsIn chunk (4 + 1)) with
      | none => rfl
      | some found =>
          exact congrArg (fun front => answered call front (.lock found.1 found.2))
            (sameFront (by decide) behind rest)
  | unlock =>
      have behind : 6 < chunk.length :=
        lt_of_le_of_ne (size_le_length word) (settled.unlock word).symm
      have parsed : parseRequest (chunk.take 79 ++ nul :: rest) (6 + 1) = _ :=
        parseRequest_chunk (argumentsWithin (by decide) behind)
      rw [parsed, inBuffer_some, ok_bind]
      cases requestIn (argumentsIn chunk (6 + 1)) with
      | none => rfl
      | some found =>
          exact congrArg (fun front => answered call front (.unlock found.1 found.2))
            (sameFront (by decide) behind rest)
  | unknown =>
      have long : (2 : Int) ≤ chunk.length := by exact_mod_cast settled.long
      simp only [if_pos long, sameRefused]

/-! ## Answers -/

theorem answered_quit_iff {reply : Text} :
    Answered command ⟨[reply], none, true⟩ ↔ command = .quit := by
  constructor
  · intro right
    exact right.quit.mp rfl
  · rintro rfl
    exact ⟨⟨reply, rfl, by simp⟩, rfl, by simp⟩

theorem answered_error_iff {reply : Text} (error : isError reply) :
    Answered command ⟨[reply], none, false⟩ ↔ command = .unknown := by
  constructor
  · intro right
    cases command with
    | quit => simpa using right.quit.mpr rfl
    | lock device pid => simpa [Command.request] using right.request
    | unlock device pid => simpa [Command.request] using right.request
    | unknown => rfl
  · rintro rfl
    exact ⟨⟨reply, rfl, fun _ => error⟩, rfl, by simp⟩

theorem answered_request_iff {front : Text} {request : Request} :
    (∃ served, answered call front request = .ok served ∧ Answered command served) ↔
      command.request = some request ∧ ∃ zero, call front request = .ok zero := by
  rw [answered]
  cases call front request with
  | error fault => simp [Except.map]
  | ok zero =>
      simp only [Except.map, Except.ok.injEq, exists_eq_left', exists_eq', and_true]
      constructor
      · intro right
        exact right.request.symm
      · intro asked
        refine ⟨⟨_, rfl, ?_⟩, asked.symm, ?_⟩
        · rintro rfl
          simp [Command.request] at asked
        · cases command with
          | quit => simp [Command.request] at asked
          | lock | unlock | unknown => simp

theorem not_answered_twice {first second : Text} :
    ¬Answered command ⟨[first, second], none, false⟩ := by
  intro right
  obtain ⟨reply, single, -⟩ := right.reply
  simp at single

theorem isError_m450 : isError m450 :=
  .inl rfl

theorem isError_m500 : isError (m500 text) := by
  unfold m500
  exact .inr rfl

/-- A settled chunk is answered rightly if and only if it delivers the command. -/
theorem answered_iff_of_settled (settled : Settled chunk) (atMost : chunk.length ≤ 80)
    (size : stale.length = 80) :
    (∃ served, process hostname stale calls.perform chunk = .ok served ∧
        Answered command served) ↔
      Delivers hostname calls chunk command := by
  rw [process_eq settled atMost size, Delivers]
  cases word : keyword chunk with
  | quit =>
      simp only [sprintf, m221_length]
      split
      next fits =>
        have short : hostname.length ≤ 29 := by omega
        simp [Except.map, answered_quit_iff, short]
      next tooLong =>
        have long : ¬hostname.length ≤ 29 := by omega
        simp [Except.map, long]
  | lock =>
      have behind : chunk.length ≠ 4 := settled.lock word
      simp only [behind, ne_eq, not_false_eq_true, true_and]
      cases requestIn (argumentsIn chunk 5) with
      | none =>
          simp only [Except.ok.injEq, exists_eq_left']
          exact answered_error_iff isError_m450
      | some request =>
          rw [answered_request_iff, calls.perform_ok_iff]
          cases command <;> simp [Command.request]
  | unlock =>
      have behind : chunk.length ≠ 6 := settled.unlock word
      simp only [behind, ne_eq, not_false_eq_true, true_and]
      cases requestIn (argumentsIn chunk 7) with
      | none =>
          simp only [Except.ok.injEq, exists_eq_left']
          exact iff_false_intro not_answered_twice
      | some request =>
          rw [answered_request_iff, calls.perform_ok_iff]
          cases command <;> simp [Command.request]
  | unknown =>
      simp only [sprintf, m500_length]
      split
      next fits =>
        have short : (refused chunk chunk.length).length ≤ 48 := by omega
        simp [Except.map, answered_error_iff isError_m500, short, settled.long]
      next tooLong =>
        have long : ¬(refused chunk chunk.length).length ≤ 48 := by omega
        simp [Except.map, long]

theorem settled_of_delivers (delivers : Delivers hostname calls chunk command) : Settled chunk := by
  unfold Delivers at delivers
  cases word : keyword chunk with
  | quit =>
      exact ⟨le_trans (by decide) (size_le_length word), by simp [word], by simp [word]⟩
  | lock =>
      simp only [word] at delivers
      exact ⟨le_trans (by decide) (size_le_length word), fun _ => delivers.1, by simp [word]⟩
  | unlock =>
      simp only [word] at delivers
      exact ⟨le_trans (by decide) (size_le_length word), by simp [word], fun _ => delivers.1⟩
  | unknown =>
      simp only [word] at delivers
      exact ⟨delivers.2.1, by simp [word], by simp [word]⟩

/-- A buffer in which neither a text nor a line nor a name ends. -/
def unended : Text :=
  List.replicate 80 'z'

theorem unsettled_cases (unsettled : ¬Settled chunk) :
    chunk.length < 2 ∨ keyword chunk = .lock ∧ chunk.length = 4 ∨
      keyword chunk = .unlock ∧ chunk.length = 6 := by
  by_contra none
  push Not at none
  exact unsettled ⟨none.1, none.2.1, none.2.2⟩

theorem keyword_of_second (second : text[1]? = some 'z') : keyword text = .unknown := by
  have isPrefix := hasPrefix_keyword text
  simp only [hasPrefix, decide_eq_true_eq] at isPrefix
  have same := congrArg (·[1]?) isPrefix
  cases word : keyword text with
  | quit | lock | unlock =>
      rw [word] at same
      simp [Keyword.size, Keyword.word, second] at same
  | unknown => rfl

theorem not_scanEnds_replicate : ¬ScanEnds (List.replicate n 'z') := by
  have notNul : nul ≠ 'z' := by decide
  simp [ScanEnds, notNul]

/-- Behind a chunk that is a keyword only the scan for the blank leaves the buffer. -/
theorem not_scanEnds_unended (branch : Keyword) (atEnd : chunk.length = branch.size) :
    ¬ScanEnds ((chunk ++ unended.drop chunk.length).drop (branch.size + 1)) := by
  have front : chunk.drop (chunk.length + 1) = [] := List.drop_of_length_le (Nat.le_succ _)
  rw [← atEnd, List.drop_append, front, List.nil_append, Nat.add_sub_cancel_left, unended,
    List.drop_replicate, List.drop_replicate]
  exact not_scanEnds_replicate

theorem process_unended (unsettled : ¬Settled chunk) (atMost : chunk.length ≤ 80) :
    process hostname unended call chunk = .error .buffer := by
  have size : (chunk ++ unended.drop chunk.length).length = 80 := length_buffer (by omega) rfl
  refine (processRequests_error_iff size (by exact_mod_cast atMost)).mpr (.inl ⟨rfl, ?_⟩)
  rw [TextWithin]
  rcases unsettled_cases unsettled with short | ⟨word, atEnd⟩ | ⟨word, atEnd⟩
  · have second : (terminated (chunk ++ unended.drop chunk.length) chunk.length)[1]? =
        some 'z' := by
      cases chunk with
      | nil => rfl
      | cons c rest =>
          cases rest with
          | nil => rfl
          | cons _ _ =>
              rw [List.length_cons, List.length_cons] at short
              omega
    rw [keyword_of_second second]
    intro within
    omega
  · rw [keyword_terminated (by omega) atMost rfl, word]
    intro within
    exact not_scanEnds_unended .lock atEnd (within (by exact_mod_cast atEnd))
  · rw [keyword_terminated (by omega) atMost rfl, word]
    intro within
    exact not_scanEnds_unended .unlock atEnd (within (by exact_mod_cast atEnd))

end Read

/-- Each chunk up to the one for `QUIT` delivers the next command. -/
def DeliversAll (hostname : Text) (calls : Nat → SystemCalls) : List Text → List Command → Prop
  | chunk :: chunks, command :: commands =>
      Delivers hostname (calls 0) chunk command ∧
        (command = .quit ∨ DeliversAll hostname (fun n => calls (n + 1)) chunks commands)
  | _, _ => False

section Run

variable {hostname chunk : Text} {command : Command} {chunks : List Text}
  {commands : List Command} {calls : Nat → SystemCalls}

/-- A chunk is answered rightly, whatever the buffer held before, if and only if it
delivers the command. -/
theorem answered_iff_delivers (round : SystemCalls) (atMost : chunk.length ≤ 80) :
    (∀ stale : Text, stale.length = 80 → ∃ served,
      process hostname stale round.perform chunk = .ok served ∧ Answered command served) ↔
        Delivers hostname round chunk command := by
  constructor
  · intro right
    have answer := right unended rfl
    by_cases settled : Settled chunk
    · exact (answered_iff_of_settled settled atMost rfl).mp answer
    · obtain ⟨served, processed, -⟩ := answer
      rw [process_unended settled atMost] at processed
      cases processed
  · intro delivers stale size
    exact (answered_iff_of_settled (settled_of_delivers delivers) atMost size).mpr delivers

/-- The daemon does not see the end of input. -/
theorem not_answersAll_nil : ¬AnswersAll hostname calls [] commands := by
  intro right
  have unsettled : ¬Settled [] := fun settled => absurd settled.long (by decide)
  have overrun : process hostname unended (calls 0).perform [] = .error .buffer :=
    process_unended unsettled (Nat.zero_le 80)
  obtain ⟨services, served, -⟩ := right (fun _ => unended) (fun _ => rfl)
  rw [serve, overrun] at served
  cases served

theorem untilQuit_cons :
    untilQuit (command :: commands) =
      command :: if command = .quit then [] else untilQuit commands := by
  cases command <;> rfl

/-- One round of the loop. -/
theorem loop_answers_iff {rest : List Served × Ending} {result : Except Fault Served} :
    (∃ services, loop rest result = (services, .ended) ∧
        List.Forall₂ Answered (untilQuit (command :: commands)) services) ↔
      ∃ served, result = .ok served ∧ Answered command served ∧
        (command = .quit ∨ ∃ services, rest = (services, .ended) ∧
          List.Forall₂ Answered (untilQuit commands) services) := by
  cases result with
  | error fault => simp [loop]
  | ok served =>
      simp only [loop, untilQuit_cons, Except.ok.injEq, exists_eq_left']
      constructor
      · rintro ⟨services, ended, right⟩
        split at ended
        next quits =>
          obtain ⟨rfl, -⟩ := Prod.mk.inj ended
          cases right with
          | cons answered _ => exact ⟨answered, .inl (answered.quit.mp quits)⟩
        next goesOn =>
          obtain ⟨rfl, atEnd⟩ := Prod.mk.inj ended
          cases right with
          | cons answered others =>
              have notQuit : command ≠ .quit := mt answered.quit.mpr goesOn
              rw [if_neg notQuit] at others
              exact ⟨answered, .inr ⟨rest.1, Prod.ext rfl atEnd, others⟩⟩
      · rintro ⟨answered, isLast⟩
        by_cases isQuit : command = .quit
        · refine ⟨[served], by rw [if_pos (answered.quit.mpr isQuit)], ?_⟩
          rw [if_pos isQuit]
          exact .cons answered .nil
        · obtain ⟨services, rfl, others⟩ := isLast.resolve_left isQuit
          refine ⟨served :: services, by rw [if_neg (mt answered.quit.mp isQuit)], ?_⟩
          rw [if_neg isQuit]
          exact .cons answered others

/-- One read of a session. -/
theorem answersAll_cons_iff (atMost : chunk.length ≤ 80) :
    AnswersAll hostname calls (chunk :: chunks) (command :: commands) ↔
      Delivers hostname (calls 0) chunk command ∧
        (command = .quit ∨ AnswersAll hostname (fun n => calls (n + 1)) chunks commands) := by
  unfold AnswersAll
  simp only [serve, loop_answers_iff]
  rw [← answered_iff_delivers (calls 0) atMost]
  constructor
  · intro right
    constructor
    · intro stale size
      obtain ⟨served, processed, answered, -⟩ := right (fun _ => stale) (fun _ => size)
      exact ⟨served, processed, answered⟩
    · by_cases isQuit : command = .quit
      · exact .inl isQuit
      · right
        intro stale size
        obtain ⟨served, -, -, quits | others⟩ := right (fun n => stale (n - 1))
          (fun n => size (n - 1))
        · exact absurd quits isQuit
        · exact others
  · rintro ⟨delivered, others⟩ stale size
    obtain ⟨served, processed, answered⟩ := delivered (stale 0) (size 0)
    refine ⟨served, processed, answered, ?_⟩
    rcases others with isQuit | others
    · exact .inl isQuit
    · exact .inr (others _ (fun n => size (n + 1)))

theorem not_answersAll_of_noCommand : ¬AnswersAll hostname calls (chunk :: chunks) [] := by
  intro right
  obtain ⟨_, served, none⟩ := right (fun _ => unended) (fun _ => rfl)
  cases none
  rw [serve] at served
  cases result : process hostname unended (calls 0).perform chunk with
  | error fault =>
      rw [result] at served
      cases served
  | ok service =>
      rw [result, loop] at served
      split at served <;> cases served

theorem answersAll_iff_deliversAll (atMost : ∀ chunk ∈ chunks, chunk.length ≤ 80) :
    AnswersAll hostname calls chunks commands ↔ DeliversAll hostname calls chunks commands := by
  induction chunks generalizing commands calls with
  | nil => exact iff_of_false not_answersAll_nil id
  | cons chunk chunks ih =>
      cases commands with
      | nil => exact iff_of_false not_answersAll_of_noCommand id
      | cons command commands =>
          rw [answersAll_cons_iff (atMost chunk (by simp)), DeliversAll,
            ih fun other member => atMost other (by simp [member])]

/-- The daemon answers the lines of a stream, as it is cut into the results of `read`, if
and only if each of these up to the one for `QUIT` delivers the command of the next
line. -/
theorem answers_grammar_iff (atMost : ∀ chunk ∈ chunks, chunk.length ≤ 80) :
    AnswersAll hostname calls chunks ((linesOf chunks.flatten).map commandOf) ↔
      DeliversAll hostname calls chunks ((linesOf chunks.flatten).map commandOf) :=
  answersAll_iff_deliversAll atMost

end Run

/-- A read for each line. -/
theorem answers_grammar_iff_lines :
    AnswersAll "localhost".toList (fun _ => unlocked)
      ["lock a 1\n".toList, "foo\r\n".toList, "quit\n".toList]
      ((linesOf ["lock a 1\n".toList, "foo\r\n".toList, "quit\n".toList].flatten).map
        commandOf) := by
  have returns : unlocked.Returns "lock ".toList (.lock ['a'] 1) :=
    (unlocked.perform_ok_iff _ _).mp ⟨true, rfl⟩
  refine (answers_grammar_iff (by decide)).mpr ⟨⟨by decide, rfl, returns⟩, .inr ⟨⟨rfl, ?_⟩,
    .inr ⟨⟨rfl, by decide⟩, .inl rfl⟩⟩⟩
  decide

/-- Three lines in one read: only the first is answered. -/
theorem coalesced_lines_lost :
    ¬AnswersAll "localhost".toList (fun _ => unlocked) ["lock a 1\nunlock a 1\nquit\n".toList]
      ((linesOf ["lock a 1\nunlock a 1\nquit\n".toList].flatten).map commandOf) := by
  intro right
  obtain ⟨_, served, -⟩ := right (fun _ => unended) (fun _ => rfl)
  have overrun : (serve "localhost".toList (fun _ => unended) (fun _ => unlocked)
      ["lock a 1\nunlock a 1\nquit\n".toList]).2 = .failed .buffer := by
    decide
  rw [served] at overrun
  cases overrun

end Jrxtx.LockDaemon
