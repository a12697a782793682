import Jrxtx.LockDaemon.Requests
import Jrxtx.Transition.System

/-!
# A session with the lock file server

`lfs_lock` or `lfs_unlock` and the daemon, connected by two queues of messages.  Each
`recv` takes one message; `read` takes up to 80 bytes of one.  The daemon greets
first, and only `lfs_lock` receives the greeting before it waits for its answer.
-/

namespace Jrxtx.LockDaemon

open Jrxtx.Transition

/-- Why the daemon has written a message: to greet, or to answer what it has read with
one `read`. -/
inductive Origin where
  | greeting
  | reply (read : Nat)
  deriving DecidableEq, Repr

/-- A message to the client. -/
structure Message where
  origin : Origin
  text : Text
  deriving DecidableEq, Repr

/-- The function that the client runs. -/
inductive ClientCall where
  | lfsLock
  | lfsUnlock
  deriving DecidableEq, Repr

/-- Where the client is.  In `overrun` it has written behind the end of `buffer`. -/
inductive ClientPc where
  | receiveGreeting
  | send
  | receiveReply
  | quit
  | returned (result : Int)
  | overrun
  deriving DecidableEq, Repr

/-- The client, the daemon and the messages on their way. -/
structure Session where
  client : ClientPc
  /-- what is in the buffer of the client -/
  buffer : Text
  /-- the message received last -/
  received : Option Message
  toDaemon : List Text
  /-- the client has closed its socket -/
  closed : Bool
  greeted : Bool
  /-- the number of reads of the daemon that have been answered -/
  reads : Nat
  ended : Bool
  toClient : List Message
  /-- all messages that the daemon has written -/
  written : List Message
  deriving DecidableEq, Repr

/-- What both sides are given. -/
structure Setup where
  hostname : Text
  filename : Text
  pid : Int
  call : ClientCall

namespace Setup

variable (setup : Setup)

/-- The text of `sprintf` in the client. -/
def command : Text :=
  match setup.call with
  | .lfsLock => "lock ".toList ++ setup.filename ++ [' '] ++ (toString setup.pid).toList ++ ['\n']
  | .lfsUnlock =>
      "unlock ".toList ++ setup.filename ++ [' '] ++ (toString setup.pid).toList ++ ['\n']

/-- The connection has been made. -/
def start : Session where
  client :=
    match setup.call with
    | .lfsLock => .receiveGreeting
    | .lfsUnlock => .send
  buffer := []
  received := none
  toDaemon := []
  closed := false
  greeted := false
  reads := 0
  ended := false
  toClient := []
  written := []

/-- `recv` into `buffer`, once there is a message. -/
def receive (session : Session) (next : ClientPc) : Option Session :=
  match session.toClient with
  | [] => none
  | message :: others =>
      some { session with
        client := next
        buffer := if message.text = [] then session.buffer else message.text
        received := some message
        toClient := others }

/-- A step of the client. -/
def stepClient (session : Session) : Option Session :=
  match session.client with
  | .receiveGreeting => receive session .send
  | .send =>
      if setup.command.length < 1024 then
        some { session with
          client := .receiveReply
          buffer := setup.command
          toDaemon := session.toDaemon ++ [setup.command] }
      else some { session with client := .overrun }
  | .receiveReply => receive session .quit
  | .quit =>
      some { session with
        client := .returned (if session.buffer.head? = some '2' then 0 else 1)
        toDaemon := session.toDaemon ++ ["quit\n".toList]
        closed := true }
  | .returned _ | .overrun => none

/-- The bytes of one `read(1, str, 80)` and the messages left; `none` while there is
nothing to read. -/
def readChunk (session : Session) : Option (Text × List Text) :=
  match session.toDaemon with
  | message :: others =>
      some (message.take 80,
        if message.drop 80 = [] then others else message.drop 80 :: others)
  | [] => if session.closed then some ([], []) else none

/-- A step of the daemon: it greets, or serves one read.  `stale` is what was in its
buffer before; at a fault of `process_requests` it dies. -/
def stepDaemon (stale : Text) (calls : Text → Request → Except Fault Bool) (session : Session) :
    Option Session :=
  if session.ended || stale.length ≠ 80 then none
  else if !session.greeted then
    match sprintf 128 (m220 setup.hostname) with
    | none => some { session with ended := true }
    | some text =>
        some { session with
          greeted := true
          toClient := session.toClient ++ [⟨.greeting, text⟩]
          written := session.written ++ [⟨.greeting, text⟩] }
  else do
    let (chunk, toDaemon) ← readChunk session
    let str := chunk ++ stale.drop chunk.length
    match processRequests setup.hostname str chunk.length calls with
    | .error _ => some { session with toDaemon, ended := true }
    | .ok served =>
        let messages := served.writes.map (Message.mk (.reply session.reads))
        some { session with
          toDaemon
          reads := session.reads + 1
          ended := served.quit
          toClient := session.toClient ++ messages
          written := session.written ++ messages }

end Setup

/-- Whose step it is, with the contents of the daemon's buffer and the outcomes of
`LOCK` and `UNLOCK`. -/
inductive SessionStep where
  | client
  | daemon (stale : Text) (calls : Text → Request → Except Fault Bool)

/-- All interleavings of the client and the daemon. -/
def session (setup : Setup) : System Session SessionStep where
  start := fun state => state = setup.start
  step := fun state label =>
    match label with
    | .client => setup.stepClient state
    | .daemon stale calls => setup.stepDaemon stale calls state

/-- A reply code of class 2. -/
def isPositive : Text → Bool
  | '2' :: second :: third :: _ => second.isDigit && third.isDigit
  | _ => false

/-- The two answers to a command differ in their first digit. -/
theorem answer_head {text : Text} (answer : text = m200 ∨ text = m450) :
    text ≠ [] ∧ (text.head? = some '2' ↔ isPositive text = true) := by
  rcases answer with rfl | rfl <;> decide

namespace Session

variable (state : Session)

/-- The first message with which the daemon answers the command, which is what it
reads first. -/
def commandReply : Option Message :=
  state.written.find? fun message => message.origin = .reply 0

/-- The client has returned or gone wrong. -/
def Finished : Prop :=
  state.client = .overrun ∨ ∃ result, state.client = .returned result

/-- The client has returned what the daemon has answered: the message it took for the
answer is the reply to its command, and it returned 0 exactly for a 2xx code. -/
def Agrees : Prop :=
  ∃ result reply, state.client = .returned result ∧ state.commandReply = some reply ∧
    state.received = some reply ∧ (result = 0 ↔ isPositive reply.text = true)

end Session

/-! ## Steps -/

namespace Setup

variable {setup : Setup} {state next : Session} {pc : ClientPc} {stale : Text}
  {calls : Text → Request → Except Fault Bool}

theorem receive_eq_some (received : receive state pc = some next) :
    ∃ message others, state.toClient = message :: others ∧
      next = { state with
        client := pc
        buffer := if message.text = [] then state.buffer else message.text
        received := some message
        toClient := others } := by
  unfold receive at received
  split at received
  next => simp at received
  next message others isFirst => exact ⟨message, others, isFirst, (Option.some.inj received).symm⟩

/-- What the daemon does: it greets, it dies, or it serves what it has read. -/
theorem stepDaemon_cases (stepped : setup.stepDaemon stale calls state = some next) :
    state.ended = false ∧
      ((∃ text, state.greeted = false ∧ next = { state with
          greeted := true
          toClient := state.toClient ++ [⟨.greeting, text⟩]
          written := state.written ++ [⟨.greeting, text⟩] }) ∨
        (∃ toDaemon,
          (toDaemon = state.toDaemon ∨ ∃ chunk, readChunk state = some (chunk, toDaemon)) ∧
          next = { state with toDaemon, ended := true }) ∨
        ∃ chunk toDaemon served, state.greeted = true ∧
          readChunk state = some (chunk, toDaemon) ∧
          processRequests setup.hostname (chunk ++ stale.drop chunk.length) chunk.length
            calls = .ok served ∧
          next = { state with
            toDaemon
            reads := state.reads + 1
            ended := served.quit
            toClient := state.toClient ++ served.writes.map (Message.mk (.reply state.reads))
            written := state.written ++ served.writes.map (Message.mk (.reply state.reads)) }) := by
  unfold stepDaemon at stepped
  split at stepped
  next => simp at stepped
  next alive =>
    have notEnded : state.ended = false := by
      rw [Bool.or_eq_true, not_or, Bool.not_eq_true] at alive
      exact alive.1
    refine ⟨notEnded, ?_⟩
    split at stepped
    next notGreeted =>
      rw [Bool.not_eq_true'] at notGreeted
      split at stepped
      next =>
        exact .inr (.inl ⟨state.toDaemon, .inl rfl, (Option.some.inj stepped).symm⟩)
      next text _ => exact .inl ⟨text, notGreeted, (Option.some.inj stepped).symm⟩
    next greeted =>
      rw [Bool.not_eq_true', Bool.not_eq_false] at greeted
      simp only [Option.bind_eq_bind, Option.bind_eq_some_iff, Prod.exists] at stepped
      obtain ⟨chunk, toDaemon, isChunk, stepped⟩ := stepped
      split at stepped
      next =>
        exact .inr (.inl ⟨toDaemon, .inr ⟨chunk, isChunk⟩, (Option.some.inj stepped).symm⟩)
      next served processed =>
        exact .inr (.inr ⟨chunk, toDaemon, served, greeted, isChunk, processed,
          (Option.some.inj stepped).symm⟩)

end Setup

/-! ## Locking -/

namespace Session

/-- The answer to a `LOCK` command. -/
def IsAnswer (message : Message) : Prop :=
  message.origin = .reply 0 ∧ (message.text = m200 ∨ message.text = m450)

/-- Before the command is sent only the greeting can have been written. -/
structure BeforeCommand (state : Session) : Prop where
  unread : state.toDaemon = []
  isOpen : state.closed = false
  noReads : state.reads = 0
  silent : state.greeted = false → state.written = []
  greeting : state.greeted = true → ∃ text, state.written = [⟨.greeting, text⟩]

/-- The daemon has written the greeting, the answer and perhaps more. -/
def Answered (state : Session) (reply : Message) (more : List Message) : Prop :=
  IsAnswer reply ∧ state.greeted = true ∧ 0 < state.reads ∧
    ∃ text, state.written = ⟨.greeting, text⟩ :: reply :: more

/-- What holds of a session with `lfs_lock`. -/
def LockInvariant (setup : Setup) (state : Session) : Prop :=
  match state.client with
  | .receiveGreeting => state.BeforeCommand ∧ state.toClient = state.written
  | .send => state.BeforeCommand ∧ state.greeted = true ∧ state.toClient = []
  | .receiveReply =>
      setup.command.length < 1024 ∧
        ((state.greeted = true ∧ state.reads = 0 ∧ state.closed = false ∧ state.toClient = [] ∧
            (state.ended = false → state.toDaemon = [setup.command]) ∧
            ∃ text, state.written = [⟨.greeting, text⟩]) ∨
          ∃ reply more, state.Answered reply more ∧ state.toClient = reply :: more)
  | .quit =>
      setup.command.length < 1024 ∧ ∃ reply more, state.Answered reply more ∧
        state.received = some reply ∧ state.buffer = reply.text
  | .returned result =>
      setup.command.length < 1024 ∧ ∃ reply more, state.Answered reply more ∧
        state.received = some reply ∧
        result = if reply.text.head? = some '2' then 0 else 1
  | .overrun => ¬setup.command.length < 1024

section Lock

variable {setup : Setup} {state next : Session} {stale : Text}
  {calls : Text → Request → Except Fault Bool}
  {reply : Message} {more : List Message}

theorem lockInvariant_start (isLock : setup.call = .lfsLock) : LockInvariant setup setup.start := by
  have client : setup.start.client = .receiveGreeting := by simp [Setup.start, isLock]
  rw [LockInvariant, client]
  exact ⟨⟨rfl, rfl, rfl, fun _ => rfl, by simp [Setup.start]⟩, rfl⟩

/-- A step of the client in a session with `lfs_lock`. -/
theorem LockInvariant.stepClient (held : LockInvariant setup state)
    (stepped : setup.stepClient state = some next) : LockInvariant setup next := by
  unfold Setup.stepClient at stepped
  unfold LockInvariant at held
  split at stepped
  next client =>
    simp only [client] at held
    obtain ⟨message, others, isFirst, rfl⟩ := Setup.receive_eq_some stepped
    obtain ⟨before, queue⟩ := held
    have greeted : state.greeted = true := by
      by_contra not
      rw [Bool.not_eq_true] at not
      simp [queue, before.silent not] at isFirst
    obtain ⟨text, written⟩ := before.greeting greeted
    refine ⟨⟨before.unread, before.isOpen, before.noReads, before.silent, before.greeting⟩,
      greeted, ?_⟩
    rw [queue, written] at isFirst
    exact (List.cons_eq_cons.mp isFirst).2.symm
  next client =>
    simp only [client] at held
    obtain ⟨before, greeted, queue⟩ := held
    split at stepped
    next fits =>
      obtain rfl := Option.some.inj stepped
      refine ⟨fits,
        .inl ⟨greeted, before.noReads, before.isOpen, queue, ?_, before.greeting greeted⟩⟩
      intro _
      simp [before.unread]
    next long =>
      obtain rfl := Option.some.inj stepped
      exact long
  next client =>
    simp only [client] at held
    obtain ⟨message, others, isFirst, rfl⟩ := Setup.receive_eq_some stepped
    obtain ⟨fits, ⟨-, -, -, queue, -⟩ | ⟨reply, more, answered, queue⟩⟩ := held
    · simp [queue] at isFirst
    · rw [queue] at isFirst
      obtain ⟨rfl, rfl⟩ := List.cons_eq_cons.mp isFirst
      refine ⟨fits, reply, more, answered, rfl, ?_⟩
      simp [(answer_head answered.1.2).1]
  next client =>
    simp only [client] at held
    obtain ⟨fits, reply, more, answered, received, buffer⟩ := held
    obtain rfl := Option.some.inj stepped
    exact ⟨fits, reply, more, answered, received, by simp [buffer]⟩
  next => simp at stepped
  next => simp at stepped

/-- Before the command is sent the daemon at most greets. -/
theorem BeforeCommand.stepDaemon (before : state.BeforeCommand)
    (stepped : setup.stepDaemon stale calls state = some next) :
    next.BeforeCommand ∧ next.client = state.client ∧
      ((next.greeted = state.greeted ∧ next.toClient = state.toClient ∧
          next.written = state.written) ∨
        ∃ message, state.greeted = false ∧ next.toClient = state.toClient ++ [message] ∧
          next.written = state.written ++ [message]) := by
  have blocked : Setup.readChunk state = none := by
    simp [Setup.readChunk, before.unread, before.isOpen]
  obtain ⟨-, ⟨text, notGreeted, rfl⟩ | ⟨toDaemon, unread, rfl⟩ |
    ⟨chunk, toDaemon, served, -, isChunk, -⟩⟩ := Setup.stepDaemon_cases stepped
  · refine ⟨⟨before.unread, before.isOpen, before.noReads, by simp, ?_⟩, rfl,
      .inr ⟨_, notGreeted, rfl, rfl⟩⟩
    intro _
    exact ⟨text, by simp [before.silent notGreeted]⟩
  · have same : toDaemon = state.toDaemon := by simpa [blocked] using unread
    exact ⟨⟨same.trans before.unread, before.isOpen, before.noReads, before.silent,
      before.greeting⟩, rfl, .inl ⟨rfl, rfl, rfl⟩⟩
  · simp [blocked] at isChunk

/-- After its answer the daemon only writes more. -/
theorem Answered.stepDaemon (answered : state.Answered reply more)
    (stepped : setup.stepDaemon stale calls state = some next) :
    ∃ others, next.Answered reply (more ++ others) ∧ next.client = state.client ∧
      next.received = state.received ∧ next.buffer = state.buffer ∧
      next.toClient = state.toClient ++ others := by
  obtain ⟨isAnswer, greeted, reads, text, written⟩ := answered
  obtain ⟨-, ⟨_, notGreeted, -⟩ | ⟨toDaemon, -, rfl⟩ |
    ⟨chunk, toDaemon, served, -, -, -, rfl⟩⟩ := Setup.stepDaemon_cases stepped
  · simp [greeted] at notGreeted
  · refine ⟨[], ⟨isAnswer, greeted, reads, text, ?_⟩, rfl, rfl, rfl, by simp⟩
    simpa using written
  · refine ⟨_, ⟨isAnswer, greeted, Nat.succ_pos _, text, ?_⟩, rfl, rfl, rfl, rfl⟩
    simp [written]

/-- The first read of the daemon takes the beginning of the command. -/
theorem command_prefix (isLock : setup.call = .lfsLock) (rest : Text) :
    hasPrefix (setup.command.take 80 ++ rest) "lock " 4 = true ∧
      4 ≤ (setup.command.take 80).length := by
  obtain ⟨tail, command⟩ : ∃ tail, setup.command = "lock ".toList ++ tail :=
    ⟨setup.filename ++ ([' '] ++ ((toString setup.pid).toList ++ ['\n'])),
      by simp only [Setup.command, isLock, List.append_assoc]⟩
  have taken : setup.command.take 80 = "lock ".toList ++ tail.take 75 := by
    rw [command, List.take_append]
    rfl
  constructor
  · simp only [hasPrefix, taken, List.append_assoc, decide_eq_true_eq]
    rfl
  · rw [taken, List.length_append]
    exact Nat.le_add_right_of_le (by decide)

/-- The daemon answers the command, which it reads first. -/
theorem isAnswer_of_served (isLock : setup.call = .lfsLock) {served : Served}
    (processed : processRequests setup.hostname
      (setup.command.take 80 ++ stale.drop (setup.command.take 80).length)
      (setup.command.take 80).length calls = .ok served) :
    ∃ reply, served.writes.map (Message.mk (.reply 0)) = [reply] ∧ IsAnswer reply := by
  obtain ⟨isPrefix, long⟩ := command_prefix isLock (stale.drop (setup.command.take 80).length)
  obtain ⟨answer, -⟩ := processRequests_lock isPrefix (by exact_mod_cast long) processed
  rcases answer with writes | writes
  · exact ⟨⟨.reply 0, m200⟩, by simp [writes], rfl, .inl rfl⟩
  · exact ⟨⟨.reply 0, m450⟩, by simp [writes], rfl, .inr rfl⟩

/-- A step of the daemon in a session with `lfs_lock`. -/
theorem LockInvariant.stepDaemon (isLock : setup.call = .lfsLock)
    (held : LockInvariant setup state)
    (stepped : setup.stepDaemon stale calls state = some next) : LockInvariant setup next := by
  unfold LockInvariant at held
  cases client : state.client with
  | receiveGreeting =>
      simp only [client] at held
      obtain ⟨before, queue⟩ := held
      obtain ⟨nextBefore, sameClient, writes⟩ := before.stepDaemon stepped
      rw [LockInvariant, sameClient, client]
      refine ⟨nextBefore, ?_⟩
      rcases writes with ⟨-, sameQueue, same⟩ | ⟨message, -, sameQueue, same⟩
      · rw [sameQueue, same, queue]
      · rw [sameQueue, same, queue]
  | send =>
      simp only [client] at held
      obtain ⟨before, greeted, queue⟩ := held
      obtain ⟨nextBefore, sameClient, writes⟩ := before.stepDaemon stepped
      rw [LockInvariant, sameClient, client]
      rcases writes with ⟨sameGreeted, sameQueue, -⟩ | ⟨message, notGreeted, -⟩
      · exact ⟨nextBefore, sameGreeted.trans greeted, sameQueue.trans queue⟩
      · simp [greeted] at notGreeted
  | receiveReply =>
      simp only [client] at held
      obtain ⟨fits, ⟨greeted, noReads, isOpen, queue, unread, text, written⟩ |
        ⟨reply, more, answered, queue⟩⟩ := held
      · obtain ⟨alive, ⟨_, notGreeted, -⟩ | ⟨toDaemon, -, rfl⟩ |
          ⟨chunk, toDaemon, served, -, isChunk, processed, rfl⟩⟩ := Setup.stepDaemon_cases stepped
        · simp [greeted] at notGreeted
        · simp only [LockInvariant, client]
          exact ⟨fits, .inl ⟨greeted, noReads, isOpen, queue, by simp, text, written⟩⟩
        · simp only [Setup.readChunk, unread alive, Option.some.injEq, Prod.mk.injEq] at isChunk
          obtain ⟨rfl, -⟩ := isChunk
          obtain ⟨reply, writes, isAnswer⟩ := isAnswer_of_served isLock processed
          simp only [LockInvariant, client, noReads, writes]
          exact ⟨fits, .inr ⟨reply, [], ⟨isAnswer, greeted, Nat.one_pos, text, by simp [written]⟩,
            by simp [queue]⟩⟩
      · obtain ⟨others, nextAnswered, sameClient, -, -, sameQueue⟩ := answered.stepDaemon stepped
        simp only [LockInvariant, sameClient, client]
        exact ⟨fits, .inr ⟨reply, more ++ others, nextAnswered, by simp [sameQueue, queue]⟩⟩
  | quit =>
      simp only [client] at held
      obtain ⟨fits, reply, more, answered, received, buffer⟩ := held
      obtain ⟨others, nextAnswered, sameClient, sameReceived, sameBuffer, -⟩ :=
        answered.stepDaemon stepped
      simp only [LockInvariant, sameClient, client]
      exact ⟨fits, reply, _, nextAnswered, sameReceived.trans received, sameBuffer.trans buffer⟩
  | returned result =>
      simp only [client] at held
      obtain ⟨fits, reply, more, answered, received, isResult⟩ := held
      obtain ⟨others, nextAnswered, sameClient, sameReceived, -⟩ := answered.stepDaemon stepped
      simp only [LockInvariant, sameClient, client]
      exact ⟨fits, reply, _, nextAnswered, sameReceived.trans received, isResult⟩
  | overrun =>
      simp only [client] at held
      obtain ⟨-, ⟨_, -, rfl⟩ | ⟨_, -, rfl⟩ | ⟨_, _, _, -, -, -, rfl⟩⟩ :=
        Setup.stepDaemon_cases stepped <;> simpa only [LockInvariant, client] using held

/-- What a finished session with `lfs_lock` has come to. -/
theorem LockInvariant.agrees_iff_fits (held : LockInvariant setup state)
    (finished : state.Finished) :
    state.Agrees ↔ setup.command.length < 1024 := by
  unfold LockInvariant at held
  rcases finished with client | ⟨result, client⟩
  · simp only [client] at held
    constructor
    · rintro ⟨_, _, returned, -⟩
      simp [client] at returned
    · intro fits
      exact absurd fits held
  · simp only [client] at held
    obtain ⟨fits, reply, more, ⟨answer, -, -, text, written⟩, received, isResult⟩ := held
    simp only [fits, iff_true]
    refine ⟨result, reply, client, ?_, received, ?_⟩
    · simp [commandReply, written, answer.1]
    · rw [isResult, ← (answer_head answer.2).2]
      split <;> simp_all

end Lock

/-! ## Unlocking -/

section Unlock

variable {setup : Setup} {state next : Session} {stale : Text}
  {calls : Text → Request → Except Fault Bool}

/-- The greeting is the first message of all. -/
def GreetingFirst (state : Session) : Prop :=
  if state.greeted then
    ∃ text others, state.written = ⟨.greeting, text⟩ :: others
  else state.written = []

/-- What holds of a session with `lfs_unlock`: the greeting is still to be received
when the client waits for its answer. -/
def UnlockInvariant (state : Session) : Prop :=
  match state.client with
  | .receiveGreeting => False
  | .send | .receiveReply => state.GreetingFirst ∧ state.toClient = state.written
  | .quit | .returned _ =>
      ∃ message, state.received = some message ∧ message.origin = .greeting
  | .overrun => True

theorem unlockInvariant_start (isUnlock : setup.call = .lfsUnlock) :
    UnlockInvariant setup.start := by
  have client : setup.start.client = .send := by simp [Setup.start, isUnlock]
  rw [UnlockInvariant, client]
  exact ⟨rfl, rfl⟩

theorem UnlockInvariant.stepClient (held : UnlockInvariant state)
    (stepped : setup.stepClient state = some next) : UnlockInvariant next := by
  unfold Setup.stepClient at stepped
  unfold UnlockInvariant at held
  split at stepped
  next client =>
    simp only [client] at held
  next client =>
    simp only [client] at held
    split at stepped <;> obtain rfl := Option.some.inj stepped
    · exact held
    · trivial
  next client =>
    simp only [client] at held
    obtain ⟨message, others, isFirst, rfl⟩ := Setup.receive_eq_some stepped
    obtain ⟨greetingFirst, queue⟩ := held
    rw [GreetingFirst, ← queue, isFirst] at greetingFirst
    split at greetingFirst
    next =>
      obtain ⟨text, later, same⟩ := greetingFirst
      exact ⟨message, rfl, by rw [(List.cons_eq_cons.mp same).1]⟩
    next => simp at greetingFirst
  next client =>
    simp only [client] at held
    obtain rfl := Option.some.inj stepped
    exact held
  next => simp at stepped
  next => simp at stepped

/-- The daemon appends to what it has written. -/
theorem GreetingFirst.stepDaemon (greetingFirst : state.GreetingFirst)
    (queue : state.toClient = state.written)
    (stepped : setup.stepDaemon stale calls state = some next) :
    next.GreetingFirst ∧ next.toClient = next.written ∧ next.client = state.client := by
  unfold GreetingFirst at greetingFirst
  obtain ⟨-, ⟨text, notGreeted, rfl⟩ | ⟨toDaemon, -, rfl⟩ |
    ⟨chunk, toDaemon, served, greeted, -, -, rfl⟩⟩ := Setup.stepDaemon_cases stepped
  · simp only [notGreeted, Bool.false_eq_true, if_false] at greetingFirst
    refine ⟨?_, by simp [queue], rfl⟩
    simp [GreetingFirst, greetingFirst]
  · exact ⟨greetingFirst, queue, rfl⟩
  · rw [if_pos greeted] at greetingFirst
    obtain ⟨text, others, written⟩ := greetingFirst
    refine ⟨?_, by simp [queue], rfl⟩
    simp [GreetingFirst, greeted, written]

theorem UnlockInvariant.stepDaemon (held : UnlockInvariant state)
    (stepped : setup.stepDaemon stale calls state = some next) : UnlockInvariant next := by
  unfold UnlockInvariant at held
  cases client : state.client with
  | receiveGreeting =>
      simp only [client] at held
  | send | receiveReply =>
      simp only [client] at held
      obtain ⟨greetingFirst, queue, sameClient⟩ := held.1.stepDaemon held.2 stepped
      simp only [UnlockInvariant, sameClient, client]
      exact ⟨greetingFirst, queue⟩
  | quit | returned result =>
      simp only [client] at held
      obtain ⟨-, ⟨_, -, rfl⟩ | ⟨_, -, rfl⟩ | ⟨_, _, _, -, -, -, rfl⟩⟩ :=
        Setup.stepDaemon_cases stepped <;> simpa only [UnlockInvariant, client] using held
  | overrun =>
      obtain ⟨-, ⟨_, -, rfl⟩ | ⟨_, -, rfl⟩ | ⟨_, _, _, -, -, -, rfl⟩⟩ :=
        Setup.stepDaemon_cases stepped <;> simp only [UnlockInvariant, client]

/-- A finished session with `lfs_unlock` has taken the greeting for the answer. -/
theorem UnlockInvariant.not_agrees (held : UnlockInvariant state) : ¬state.Agrees := by
  rintro ⟨result, reply, client, isReply, received, -⟩
  simp only [UnlockInvariant, client, received, Option.some.injEq, exists_eq_left'] at held
  have origin := List.find?_some isReply
  rw [decide_eq_true_eq, held] at origin
  cases origin

end Unlock

/-! ## Runs -/

section Runs

variable {setup : Setup} {state : Session}

/-- In every run the client takes the reply to its command for the answer and returns 0
exactly for a 2xx code, if and only if it runs `lfs_lock` and the command fits into its
buffer. -/
theorem session_agrees_iff (reachable : (session setup).Reachable state)
    (finished : state.Finished) :
    state.Agrees ↔ setup.call = .lfsLock ∧ setup.command.length < 1024 := by
  cases call : setup.call with
  | lfsLock =>
      have held : LockInvariant setup state := by
        refine reachable.invariant ?_ ?_
        · rintro _ rfl
          exact lockInvariant_start call
        · intro before step after held stepped
          cases step with
          | client => exact held.stepClient stepped
          | daemon stale calls => exact held.stepDaemon call stepped
      simpa using held.agrees_iff_fits finished
  | lfsUnlock =>
      have held : UnlockInvariant state := by
        refine reachable.invariant ?_ ?_
        · rintro _ rfl
          exact unlockInvariant_start call
        · intro before step after held stepped
          cases step with
          | client => exact held.stepClient stepped
          | daemon stale calls => exact held.stepDaemon stepped
      simpa using held.not_agrees

/-- What was in the daemon's buffer does not matter here. -/
def blank : Text :=
  List.replicate 80 nul

/-- The daemon greets, the client receives the greeting and sends its command, and
receives the answer. -/
theorem session_agrees_locked :
    ∃ state, (session ⟨"host".toList, "/dev/ttyS0".toList, 7, .lfsLock⟩).Reachable state ∧
      state.client = .returned 0 ∧ state.Agrees := by
  have reachable : (session ⟨"host".toList, "/dev/ttyS0".toList, 7, .lfsLock⟩).Reachable _ :=
    System.reachable_of_run [.daemon blank fun _ _ => .ok true, .client, .client,
      .daemon blank fun _ _ => .ok true, .client, .client] rfl rfl
  exact ⟨_, reachable, rfl, (session_agrees_iff reachable (.inr ⟨0, rfl⟩)).mpr ⟨rfl, by decide⟩⟩

/-- `UNLOCK` fails, and `lfs_unlock` returns 0: it has received the greeting only. -/
theorem lfsUnlock_takes_greeting :
    ∃ state, (session ⟨"host".toList, "/dev/ttyS0".toList, 7, .lfsUnlock⟩).Reachable state ∧
      state.client = .returned 0 ∧
      state.received.map Message.origin = some .greeting ∧
      state.commandReply.map Message.text = some m450 := by
  refine ⟨_, System.reachable_of_run [.daemon blank fun _ _ => .ok false, .client, .client,
    .client, .daemon blank fun _ _ => .ok false] rfl rfl, rfl, rfl, rfl⟩

end Runs

end Session

end Jrxtx.LockDaemon
