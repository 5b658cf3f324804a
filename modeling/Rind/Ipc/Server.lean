import Rind.Ipc.Denied
import Rind.Prog.Mailbox
import Rind.Prog.Runs
import Mathlib.Data.List.ReduceOption

/-!
# The server

Each connection has a thread, which reads a message, puts its peer's credentials into it,
sends it to the event loop as a request, and waits for the reply before it reads the next
one.  The loop sleeps until it is notified, and then handles the requests of all
connections in the order in which they have come.
-/

namespace Rind.Ipc

/-! ## Connections -/

/-- `ucred` -/
structure PeerCred where
  uid : UInt32
  gid : UInt32
  pid : Int32
  deriving DecidableEq

/-- The sender of a message is its peer, unless root says otherwise. -/
def Message.signedBy (cred : PeerCred) (msg : Message) : Message :=
  if cred.uid = 0 ∧ msg.fromUid.isSome then msg
  else { msg with fromGid := some cred.gid, fromUid := some cred.uid, fromPid := some cred.pid }

/-- Where the thread of a connection is. -/
inductive ThreadPoint where
  | reading
  | notifying
  | receiving
  | writing (response : Message)
  | closed
  deriving DecidableEq

structure Connection where
  cred : PeerCred
  /-- What the peer has written: messages, or what cannot be read as one. -/
  stream : List (Option Message)
  /-- How much of it the thread has read. -/
  taken : Nat
  point : ThreadPoint
  /-- What is in the channel for the reply. -/
  reply : Option Message
  /-- What the thread has written. -/
  responses : List Message
  deriving DecidableEq

/-- The messages that a thread has read, as it sends them to the loop. -/
def Connection.requested (connection : Connection) : List Message :=
  (connection.stream.take connection.taken).reduceOption.map (Message.signedBy connection.cred)

/-- `IpcRequest`, with the connection whose thread waits for the reply. -/
structure IpcRequest where
  message : Message
  connection : Nat
  deriving DecidableEq

/-- A request that has been handled, with the state before and after. -/
structure Served (σ : Type) where
  request : IpcRequest
  before : σ
  response : Message
  after : σ

structure IpcServer (σ : Type) where
  state : σ
  connections : List Connection
  requests : Mailbox IpcRequest
  /-- The request whose handler does not return. -/
  stuck : Option IpcRequest
  /-- The requests that have been handled, in this order. -/
  served : List (Served σ)

/-- A step of a peer, of the thread of a connection, or of the event loop, which may also
change the state with other things than requests. -/
inductive ServerStep (σ ε : Type) where
  | accept (cred : PeerCred)
  | send (connection : Nat) (item : Option Message)
  | read (connection : Nat)
  | notify (connection : Nat)
  | receive (connection : Nat)
  | respond (connection : Nat) (written : Bool)
  | wake
  | reset
  | drainRequests
  | drain (env : ε)
  | wait
  | other (state : σ)

namespace IpcServer

variable {σ ε : Type}

def start (state : σ) : IpcServer σ := ⟨state, [], ⟨[], 0, .awake⟩, none, []⟩

/-- The largest value of an eventfd. -/
def maxCounter : Nat := 2 ^ 64 - 2

section Steps

variable (server : IpcServer σ)

def accept (cred : PeerCred) : IpcServer σ :=
  { server with connections := server.connections ++ [⟨cred, [], 0, .reading, none, []⟩] }

def set (index : Nat) (connection : Connection) : IpcServer σ :=
  { server with connections := server.connections.set index connection }

/-- The thread of a connection reads a message and sends it to the loop, or gives up. -/
def read (index : Nat) (connection : Connection) : IpcServer σ :=
  if connection.point = .reading then
    match connection.stream[connection.taken]? with
    | none => server
    | some none =>
        server.set index { connection with taken := connection.taken + 1, point := .closed }
    | some (some msg) =>
        { server.set index { connection with
            taken := connection.taken + 1, point := .notifying, reply := none } with
          requests := server.requests.leave ⟨msg.signedBy connection.cred, index⟩ }
  else server

def notify (index : Nat) (connection : Connection) : IpcServer σ :=
  if connection.point = .notifying then
    { server.set index { connection with point := .receiving } with
      requests := server.requests.ring maxCounter }
  else server

def receive (index : Nat) (connection : Connection) : IpcServer σ :=
  match connection.point, connection.reply with
  | .receiving, some response =>
      server.set index { connection with point := .writing response, reply := none }
  | _, _ => server

/-- The response is written, unless the peer has gone. -/
def respond (index : Nat) (written : Bool) (connection : Connection) : IpcServer σ :=
  match connection.point with
  | .writing response =>
      server.set index (if written then
        { connection with point := .reading, responses := connection.responses ++ [response] }
      else { connection with point := .closed })
  | _ => server

/-- The reply to a request goes to the thread that waits for it. -/
def answer (request : IpcRequest) (requests : Mailbox IpcRequest) (response : Message) (state : σ) :
    IpcServer σ where
  state := state
  connections := server.connections.modify request.connection fun connection =>
    { connection with reply := some response }
  requests := requests
  stuck := server.stuck
  served := server.served ++ [⟨request, server.state, response, state⟩]

/-- The loop takes a request and handles it, or finds none. -/
def drain (handle : ε → Message → σ → Option (Message × σ)) (env : ε) : IpcServer σ :=
  match server.requests.take with
  | (none, requests) => { server with requests }
  | (some request, requests) =>
      match handle env request.message server.state with
      | some (response, state) => server.answer request requests response state
      | none => { server with requests, stuck := some request }

/-- What the thread of a connection does. -/
def thread (index : Nat) (act : Connection → IpcServer σ) : IpcServer σ :=
  (server.connections[index]?.map act).getD server

end Steps

/-- The loop goes on as long as its handlers return. -/
def step (handle : ε → Message → σ → Option (Message × σ)) (server : IpcServer σ) :
    ServerStep σ ε → IpcServer σ
  | .accept cred => server.accept cred
  | .send index item =>
      server.thread index fun connection =>
        server.set index { connection with stream := connection.stream ++ [item] }
  | .read index => server.thread index (server.read index)
  | .notify index => server.thread index (server.notify index)
  | .receive index => server.thread index (server.receive index)
  | .respond index written => server.thread index (server.respond index written)
  | .wake => if server.stuck = none then { server with requests := server.requests.wake } else server
  | .reset =>
      if server.stuck = none then { server with requests := server.requests.silence } else server
  | .drainRequests =>
      if server.stuck = none then { server with requests := server.requests.open_ } else server
  | .drain env => if server.stuck = none then server.drain handle env else server
  | .wait => if server.stuck = none then { server with requests := server.requests.sleep } else server
  | .other state => if server.stuck = none then { server with state } else server

/-! ## The requests of a connection -/

section History

variable (server : IpcServer σ)

/-- The requests of a connection that have been handled. -/
def answers (index : Nat) : List (Served σ) :=
  server.served.filter fun entry => entry.request.connection = index

/-- The requests of a connection that have not been answered. -/
def outstanding (index : Nat) : List Message :=
  ((server.stuck.toList ++ server.requests.letters).filter fun request =>
    request.connection = index).map IpcRequest.message

end History

/-- Where a thread is, with its reply and its responses, when the loop has given some answers
to it and some of its requests are outstanding. -/
inductive Turn (responses : List Message) :
    ThreadPoint → Option Message → List Message → List Message → Prop where
  | reading : Turn responses .reading none responses []
  | asking {point : ThreadPoint} (msg : Message) (waits : point = .notifying ∨ point = .receiving) :
      Turn responses point none responses [msg]
  | answered {point : ThreadPoint} (response : Message)
      (waits : point = .notifying ∨ point = .receiving) :
      Turn responses point (some response) (responses ++ [response]) []
  | writing (response : Message) :
      Turn responses (.writing response) none (responses ++ [response]) []
  | closed {answers : List Message} (rest : List Message) (same : answers = responses ++ rest)
      (few : rest.length ≤ 1) : Turn responses .closed none answers []

section Turn

variable {responses answers outstanding : List Message} {point : ThreadPoint}
  {reply : Option Message} {response : Message}

theorem Turn.of_reading (turn : Turn responses .reading reply answers outstanding) :
    reply = none ∧ answers = responses ∧ outstanding = [] := by
  cases turn with
  | reading => exact ⟨rfl, rfl, rfl⟩
  | asking msg waits => rcases waits with waits | waits <;> cases waits
  | answered response waits => rcases waits with waits | waits <;> cases waits

theorem Turn.of_writing (turn : Turn responses (.writing response) reply answers outstanding) :
    reply = none ∧ answers = responses ++ [response] ∧ outstanding = [] := by
  cases turn with
  | writing => exact ⟨rfl, rfl, rfl⟩
  | asking msg waits => rcases waits with waits | waits <;> cases waits
  | answered response waits => rcases waits with waits | waits <;> cases waits

theorem Turn.of_answered (turn : Turn responses point (some response) answers outstanding) :
    answers = responses ++ [response] ∧ outstanding = [] := by
  cases turn with
  | answered _ _ => exact ⟨rfl, rfl⟩

theorem Turn.notified (turn : Turn responses .notifying reply answers outstanding) :
    Turn responses .receiving reply answers outstanding := by
  cases turn with
  | asking msg _ => exact .asking msg (.inr rfl)
  | answered response _ => exact .answered response (.inr rfl)

/-- A thread has at most one request outstanding, and then waits for the reply. -/
theorem Turn.answer {msg : Message} {rest : List Message}
    (turn : Turn responses point reply answers (msg :: rest)) (response : Message) :
    rest = [] ∧ Turn responses point (some response) (answers ++ [response]) [] := by
  cases turn with
  | asking _ waits => exact ⟨rfl, .answered response waits⟩

theorem Turn.outstanding_le (turn : Turn responses point reply answers outstanding) :
    responses <+: answers ∧ answers.length + outstanding.length ≤ responses.length + 1 := by
  cases turn with
  | reading => exact ⟨List.prefix_refl _, by simp⟩
  | asking msg _ => exact ⟨List.prefix_refl _, by simp⟩
  | answered response _ => exact ⟨List.prefix_append .., by simp⟩
  | writing response => exact ⟨List.prefix_append .., by simp⟩
  | closed rest same few =>
      rw [same]
      exact ⟨List.prefix_append .., by simpa using few⟩

end Turn

/-- The requests of a connection are what its thread has read, and its thread takes its turn
with the loop. -/
structure Orderly (server : IpcServer σ) (index : Nat) (connection : Connection) : Prop where
  inside : connection.taken ≤ connection.stream.length
  requested : (server.answers index).map (fun entry => entry.request.message) ++
    server.outstanding index = connection.requested
  turn : Turn connection.responses connection.point connection.reply
    ((server.answers index).map Served.response) (server.outstanding index)

structure InTurn (server : IpcServer σ) : Prop where
  known : ∀ request ∈ server.served.map Served.request ++
    (server.stuck.toList ++ server.requests.letters), request.connection < server.connections.length
  orderly : ∀ index connection, server.connections[index]? = some connection →
    server.Orderly index connection

variable {server : IpcServer σ} {index : Nat} {connection : Connection}

theorem inTurn_start (state : σ) : (start state).InTurn where
  known := fun _ listed => absurd listed List.not_mem_nil
  orderly := fun index connection found => by
    rw [start, List.getElem?_nil] at found
    cases found

/-- Where nothing of a connection changes. -/
theorem Orderly.congr (orderly : server.Orderly index connection) {after : IpcServer σ}
    (answers : after.answers index = server.answers index)
    (outstanding : after.outstanding index = server.outstanding index) :
    after.Orderly index connection := by
  refine ⟨orderly.inside, ?_, ?_⟩
  · rw [answers, outstanding]
    exact orderly.requested
  · rw [answers, outstanding]
    exact orderly.turn

/-- A step of one thread. -/
theorem InTurn.set (inTurn : server.InTurn) (found : server.connections[index]? = some connection)
    {next : Connection} (orderly : server.Orderly index connection →
      server.Orderly index next) : (server.set index next).InTurn where
  known := by
    intro request listed
    rw [IpcServer.set, List.length_set]
    exact inTurn.known request listed
  orderly := by
    intro other after at_
    rw [IpcServer.set, List.getElem?_set] at at_
    split at at_
    · rename_i same
      subst same
      rw [if_pos (List.getElem?_eq_some_iff.mp found).1] at at_
      cases at_
      exact (orderly (inTurn.orderly index connection found)).congr rfl rfl
    · exact (inTurn.orderly other after at_).congr rfl rfl

/-- A step of the loop that leaves the requests as they are. -/
theorem InTurn.requests (inTurn : server.InTurn) {requests : Mailbox IpcRequest}
    (same : requests.letters = server.requests.letters) : { server with requests }.InTurn where
  known := by
    intro request listed
    rw [same] at listed
    exact inTurn.known request listed
  orderly := by
    intro index connection found
    refine (inTurn.orderly index connection found).congr rfl ?_
    rw [outstanding, outstanding, same]

theorem InTurn.thread (inTurn : server.InTurn) (index : Nat) {act : Connection → IpcServer σ}
    (keeps : ∀ connection, server.connections[index]? = some connection → (act connection).InTurn) :
    (server.thread index act).InTurn := by
  rw [IpcServer.thread]
  cases found : server.connections[index]? with
  | none => exact inTurn
  | some connection => exact keeps connection found

/-! ### Threads -/

theorem InTurn.send (inTurn : server.InTurn) (found : server.connections[index]? = some connection)
    (item : Option Message) :
    (server.set index { connection with stream := connection.stream ++ [item] }).InTurn := by
  apply inTurn.set found
  intro orderly
  refine ⟨?_, ?_, orderly.turn⟩
  · rw [List.length_append]
    exact Nat.le_add_right_of_le orderly.inside
  · rw [orderly.requested, Connection.requested, Connection.requested,
      List.take_append_of_le_length orderly.inside]

/-- What a thread has read when it reads on. -/
theorem requested_succ {item : Option Message} {point : ThreadPoint} {reply : Option Message}
    (next : connection.stream[connection.taken]? = some item) :
    ({ connection with taken := connection.taken + 1, point, reply } : Connection).requested =
      connection.requested ++ (item.map (Message.signedBy connection.cred)).toList := by
  simp only [Connection.requested]
  rw [List.take_add_one, next, Option.toList_some, List.reduceOption_append, List.map_append]
  cases item <;> rfl

theorem outstanding_leave (server : IpcServer σ) (request : IpcRequest) (index : Nat) :
    ({ server with requests := server.requests.leave request } : IpcServer σ).outstanding index =
      server.outstanding index ++ if request.connection = index then [request.message] else [] := by
  simp only [outstanding, Mailbox.letters_leave, ← List.append_assoc]
  rw [List.filter_append, List.map_append, List.filter_singleton]
  by_cases same : request.connection = index <;> simp [same]

/-- A thread sends the message that it has read. -/
theorem InTurn.ask (inTurn : server.InTurn) (found : server.connections[index]? = some connection)
    (reading : connection.point = .reading) {msg : Message}
    (next : connection.stream[connection.taken]? = some (some msg)) :
    ({ server.set index { connection with
            taken := connection.taken + 1, point := .notifying, reply := none } with
          requests := server.requests.leave ⟨msg.signedBy connection.cred, index⟩ } :
      IpcServer σ).InTurn where
  known := by
    have inside : index < server.connections.length := (List.getElem?_eq_some_iff.mp found).1
    intro request listed
    simp only [IpcServer.set, List.length_set]
    rw [Mailbox.letters_leave, ← List.append_assoc, ← List.append_assoc, List.mem_append,
      List.append_assoc, List.mem_singleton] at listed
    rcases listed with old | rfl
    · exact inTurn.known request old
    · exact inside
  orderly := by
    intro other after at_
    simp only [IpcServer.set] at at_
    rw [List.getElem?_set] at at_
    have asked := outstanding_leave server ⟨msg.signedBy connection.cred, index⟩ other
    split at at_
    · rename_i same
      subst same
      rw [if_pos (List.getElem?_eq_some_iff.mp found).1] at at_
      cases at_
      obtain ⟨inside, requested, turn⟩ := inTurn.orderly index connection found
      rw [if_pos rfl] at asked
      rw [reading] at turn
      obtain ⟨none_, same, nothing⟩ := turn.of_reading
      rw [nothing, List.nil_append] at asked
      rw [nothing, List.append_nil] at requested
      refine ⟨(List.getElem?_eq_some_iff.mp next).1, ?_, ?_⟩
      · refine (congrArg₂ _ requested asked).trans ?_
        rw [requested_succ next]
        rfl
      · refine asked ▸ ?_
        refine same.symm ▸ ?_
        exact .asking _ (.inl rfl)
    · rename_i apart
      rw [if_neg apart, List.append_nil] at asked
      exact (inTurn.orderly other after at_).congr rfl asked

theorem InTurn.read (inTurn : server.InTurn) (found : server.connections[index]? = some connection) :
    (server.read index connection).InTurn := by
  rw [IpcServer.read]
  split
  · rename_i reading
    split
    · exact inTurn
    · rename_i next
      apply inTurn.set found
      rintro ⟨inside, requested, turn⟩
      refine ⟨(List.getElem?_eq_some_iff.mp next).1, ?_, ?_⟩
      · rw [requested_succ next, requested]
        exact (List.append_nil _).symm
      · rw [reading] at turn
        obtain ⟨none_, same, nothing⟩ := turn.of_reading
        rw [none_, same, nothing]
        exact .closed [] (List.append_nil _).symm (Nat.zero_le _)
    · rename_i msg next
      exact inTurn.ask found reading next
  · exact inTurn

theorem InTurn.notify (inTurn : server.InTurn)
    (found : server.connections[index]? = some connection) :
    (server.notify index connection).InTurn := by
  rw [IpcServer.notify]
  split
  · rename_i notifying
    apply InTurn.requests (inTurn.set found _) Mailbox.letters_ring
    rintro ⟨inside, requested, turn⟩
    rw [notifying] at turn
    exact ⟨inside, requested, turn.notified⟩
  · exact inTurn

theorem InTurn.receive (inTurn : server.InTurn)
    (found : server.connections[index]? = some connection) :
    (server.receive index connection).InTurn := by
  rw [IpcServer.receive]
  split
  · rename_i response point reply
    apply inTurn.set found
    rintro ⟨inside, requested, turn⟩
    refine ⟨inside, requested, ?_⟩
    rw [reply] at turn
    obtain ⟨same, nothing⟩ := turn.of_answered
    rw [same, nothing]
    exact .writing response
  · exact inTurn

theorem InTurn.respond (inTurn : server.InTurn)
    (found : server.connections[index]? = some connection) (written : Bool) :
    (server.respond index written connection).InTurn := by
  rw [IpcServer.respond]
  split
  · rename_i response point
    apply inTurn.set found
    rintro ⟨inside, requested, turn⟩
    rw [point] at turn
    obtain ⟨none_, same, nothing⟩ := turn.of_writing
    cases written with
    | true =>
        refine ⟨inside, requested, ?_⟩
        rw [if_pos rfl, none_, same, nothing]
        exact .reading
    | false =>
        refine ⟨inside, requested, ?_⟩
        rw [if_neg Bool.false_ne_true, none_, same, nothing]
        exact .closed [response] rfl le_rfl
  · exact inTurn

/-! ### The loop -/

theorem InTurn.accept (inTurn : server.InTurn) (cred : PeerCred) : (server.accept cred).InTurn where
  known := by
    intro request listed
    rw [IpcServer.accept, List.length_append]
    exact Nat.lt_add_right _ (inTurn.known request listed)
  orderly := by
    intro index connection found
    rw [IpcServer.accept] at found
    rcases Nat.lt_or_ge index server.connections.length with inside | outside
    · rw [List.getElem?_append_left inside] at found
      exact (inTurn.orderly index connection found).congr rfl rfl
    · rw [List.getElem?_append_right outside] at found
      obtain ⟨last, rfl⟩ : index - server.connections.length = 0 ∧
          connection = ⟨cred, [], 0, .reading, none, []⟩ := by
        cases position : index - server.connections.length with
        | zero =>
            rw [position] at found
            cases found
            exact ⟨rfl, rfl⟩
        | succ position' =>
            rw [position] at found
            cases found
      have unasked : ∀ request ∈ server.stuck.toList ++ server.requests.letters,
          request.connection ≠ index := by
        intro request listed
        have := inTurn.known request (List.mem_append_right _ listed)
        omega
      have unanswered : ∀ entry ∈ server.served, entry.request.connection ≠ index := by
        intro entry listed
        have := inTurn.known entry.request
          (List.mem_append_left _ (List.mem_map_of_mem listed))
        omega
      have answers : server.answers index = [] := by
        rw [IpcServer.answers, List.filter_eq_nil_iff]
        exact fun entry listed => by simpa using unanswered entry listed
      have outstanding : server.outstanding index = [] := by
        rw [IpcServer.outstanding, List.map_eq_nil_iff, List.filter_eq_nil_iff]
        exact fun request listed => by simpa using unasked request listed
      have orderly : server.Orderly index ⟨cred, [], 0, .reading, none, []⟩ := by
        refine ⟨le_rfl, ?_, ?_⟩
        · rw [answers, outstanding]
          rfl
        · rw [answers, outstanding]
          exact .reading
      exact orderly.congr rfl rfl

variable {handle : ε → Message → σ → Option (Message × σ)} {env : ε}

theorem answers_answer (server : IpcServer σ) (request : IpcRequest)
    (requests : Mailbox IpcRequest) (response : Message) (state : σ) (index : Nat) : (server.answer request requests response state).answers index =
      server.answers index ++
        if request.connection = index then [⟨request, server.state, response, state⟩] else [] := by
  rw [answers, IpcServer.answer, List.filter_append, List.filter_singleton]
  by_cases same : request.connection = index <;> simp [same, answers]

/-- The loop handles a request. -/
theorem InTurn.answer (inTurn : server.InTurn) (free : server.stuck = none) {request : IpcRequest}
    {requests : Mailbox IpcRequest} (first : server.requests.letters = request :: requests.letters)
    (response : Message) (state : σ) : (server.answer request requests response state).InTurn where
  known := by
    intro other listed
    rw [IpcServer.answer, List.length_modify]
    apply inTurn.known
    rw [first]
    simp only [IpcServer.answer, List.map_append, List.mem_append, List.map_cons, List.map_nil,
      List.mem_cons, List.not_mem_nil, or_false] at listed ⊢
    tauto
  orderly := by
    intro index after found
    rw [IpcServer.answer, List.getElem?_modify] at found
    obtain ⟨connection, before, rfl⟩ := Option.map_eq_some_iff.mp found
    obtain ⟨inside, requested, turn⟩ := inTurn.orderly index connection before
    have waited : server.outstanding index = ((request :: requests.letters).filter fun request =>
        request.connection = index).map IpcRequest.message := by
      rw [IpcServer.outstanding, free, first]
      rfl
    have waits : (server.answer request requests response state).outstanding index =
        (requests.letters.filter fun request => request.connection = index).map
          IpcRequest.message := by
      rw [IpcServer.outstanding, IpcServer.answer, free]
      rfl
    have answers := answers_answer server request requests response state index
    by_cases same : request.connection = index
    · rw [List.filter_cons_of_pos (by simpa using same), List.map_cons, ← waits] at waited
      rw [waited] at requested turn
      rw [if_pos same] at answers
      obtain ⟨nothing, next⟩ := turn.answer response
      rw [if_pos same]
      refine ⟨inside, ?_, ?_⟩
      · rw [answers, List.map_append, List.append_assoc]
        exact requested
      · rw [answers, List.map_append, nothing]
        exact next
    · rw [List.filter_cons_of_neg (by simpa using same), ← waits] at waited
      rw [if_neg same, List.append_nil] at answers
      rw [if_neg same]
      exact Orderly.congr ⟨inside, requested, turn⟩ answers waited.symm

theorem InTurn.drain (inTurn : server.InTurn) (free : server.stuck = none) :
    (server.drain handle env).InTurn := by
  have letters := server.requests.letters_take
  rw [IpcServer.drain]
  split
  · rename_i requests taken
    rw [taken] at letters
    exact inTurn.requests letters.symm
  · rename_i request requests taken
    rw [taken] at letters
    split
    · exact inTurn.answer free letters _ _
    · have waiting : (some request).toList ++ requests.letters =
          server.stuck.toList ++ server.requests.letters := by
        rw [free, letters]
        rfl
      refine ⟨?_, ?_⟩
      · intro other listed
        rw [waiting] at listed
        exact inTurn.known other listed
      · intro index connection found
        refine (inTurn.orderly index connection found).congr rfl ?_
        rw [outstanding, outstanding, waiting]

theorem InTurn.step (inTurn : server.InTurn) (label : ServerStep σ ε) :
    (server.step handle label).InTurn := by
  cases label with
  | accept cred => exact inTurn.accept cred
  | send index item => exact inTurn.thread index fun _ found => inTurn.send found item
  | read index => exact inTurn.thread index fun _ found => inTurn.read found
  | notify index => exact inTurn.thread index fun _ found => inTurn.notify found
  | receive index => exact inTurn.thread index fun _ found => inTurn.receive found
  | respond index written => exact inTurn.thread index fun _ found => inTurn.respond found written
  | wake =>
      rw [IpcServer.step]
      split
      · exact inTurn.requests Mailbox.letters_wake
      · exact inTurn
  | reset =>
      rw [IpcServer.step]
      split
      · exact inTurn.requests Mailbox.letters_silence
      · exact inTurn
  | drainRequests =>
      rw [IpcServer.step]
      split
      · exact inTurn.requests Mailbox.letters_open
      · exact inTurn
  | drain env =>
      rw [IpcServer.step]
      split
      · rename_i free
        exact inTurn.drain free
      · exact inTurn
  | wait =>
      rw [IpcServer.step]
      split
      · exact inTurn.requests Mailbox.letters_sleep
      · exact inTurn
  | other state =>
      rw [IpcServer.step]
      split
      · exact ⟨inTurn.known, fun index connection found =>
          (inTurn.orderly index connection found).congr rfl rfl⟩
      · exact inTurn

/-! ## Replies -/

/-- What the loop has done with requests is what the handler does. -/
def Genuine (handle : ε → Message → σ → Option (Message × σ)) (server : IpcServer σ) : Prop :=
  ∀ entry ∈ server.served, ∃ env,
    handle env entry.request.message entry.before = some (entry.response, entry.after)

theorem served_thread (index : Nat) {act : Connection → IpcServer σ}
    (same : ∀ connection, (act connection).served = server.served) :
    (server.thread index act).served = server.served := by
  rw [IpcServer.thread]
  cases server.connections[index]? with
  | none => rfl
  | some connection => exact same connection

theorem Genuine.drain (genuine : server.Genuine handle) (env : ε) :
    (server.drain handle env).Genuine handle := by
  rw [IpcServer.drain]
  split
  · exact genuine
  · rename_i request requests taken
    split
    · rename_i response state handled
      intro entry listed
      rcases List.mem_append.mp listed with old | new
      · exact genuine entry old
      · rw [List.mem_singleton.mp new]
        exact ⟨env, handled⟩
    · exact genuine

theorem Genuine.step (genuine : server.Genuine handle) (label : ServerStep σ ε) :
    (server.step handle label).Genuine handle := by
  have congr : ∀ {after : IpcServer σ}, after.served = server.served → after.Genuine handle := by
    intro after same entry listed
    exact genuine entry (same ▸ listed)
  cases label with
  | accept cred => exact congr rfl
  | send index item => exact congr (served_thread index fun _ => rfl)
  | read index =>
      refine congr (served_thread index fun connection => ?_)
      rw [IpcServer.read]
      split
      · split <;> rfl
      · rfl
  | notify index =>
      refine congr (served_thread index fun connection => ?_)
      rw [IpcServer.notify]
      split <;> rfl
  | receive index =>
      refine congr (served_thread index fun connection => ?_)
      rw [IpcServer.receive]
      split <;> rfl
  | respond index written =>
      refine congr (served_thread index fun connection => ?_)
      rw [IpcServer.respond]
      split <;> rfl
  | drain env =>
      rw [IpcServer.step]
      split
      · exact genuine.drain env
      · exact genuine
  | _ =>
      rw [IpcServer.step]
      split <;> exact congr rfl

/-- A server that has been started. -/
def Reached (handle : ε → Message → σ → Option (Message × σ)) (server : IpcServer σ) : Prop :=
  ∃ state labels, server = Runs.run (IpcServer.step handle) (start state) labels

theorem Reached.inTurn (reached : server.Reached handle) : server.InTurn := by
  obtain ⟨state, labels, rfl⟩ := reached
  exact Runs.run_invariant (fun _ label holds => holds.step label) labels (inTurn_start state)

theorem Reached.genuine (reached : server.Reached handle) : server.Genuine handle := by
  obtain ⟨state, labels, rfl⟩ := reached
  exact Runs.run_invariant (fun _ label holds => holds.step label) labels
    (fun _ listed => absurd listed List.not_mem_nil)

/-- In whatever order the peers, the threads and the loop go on: the requests that have been
handled for a connection are the first ones its peer has sent, once each and in this order,
what the handler has replied to them is written in this order, and the next message is only
read when the last response has been written. -/
theorem replies_inOrder (handle : ε → Message → σ → Option (Message × σ)) (server : IpcServer σ)
    (reached : server.Reached handle) (index : Nat) (connection : Connection)
    (found : server.connections[index]? = some connection) :
    (server.answers index).map (fun entry => entry.request.message) <+: connection.requested ∧
      connection.responses <+: (server.answers index).map Served.response ∧
      connection.requested.length ≤ connection.responses.length + 1 ∧
      ∀ entry ∈ server.answers index, ∃ env,
        handle env entry.request.message entry.before = some (entry.response, entry.after) := by
  obtain ⟨-, requested, turn⟩ := reached.inTurn.orderly index connection found
  obtain ⟨written, few⟩ := turn.outstanding_le
  refine ⟨⟨_, requested⟩, written, ?_, ?_⟩
  · rw [← requested, List.length_append, List.length_map]
    rwa [List.length_map] at few
  · intro entry listed
    exact reached.genuine entry (List.mem_of_mem_filter listed)

/-- A request that has been handled was sent by the peer of its connection, who signed it. -/
theorem InTurn.signed (inTurn : server.InTurn) {entry : Served σ} (listed : entry ∈ server.served)
    (found : server.connections[entry.request.connection]? = some connection) :
    ∃ msg, some msg ∈ connection.stream ∧
      entry.request.message = msg.signedBy connection.cred := by
  have requested := (inTurn.orderly _ connection found).requested
  have answered : entry ∈ server.answers entry.request.connection :=
    List.mem_filter.mpr ⟨listed, decide_eq_true rfl⟩
  have read : entry.request.message ∈ connection.requested := by
    rw [← requested]
    exact List.mem_append_left _ (List.mem_map.mpr ⟨entry, answered, rfl⟩)
  obtain ⟨msg, taken, signed⟩ := List.mem_map.mp read
  exact ⟨msg, List.mem_of_mem_take (List.reduceOption_mem_iff.mp taken), signed.symm⟩

/-! ## Notifications -/

/-- A thread has still to notify the loop. -/
def Owes (server : IpcServer σ) : Prop :=
  ∃ (index : Nat) (connection : Connection), server.connections[index]? = some connection ∧
    connection.point = .notifying

/-- A thread that is not notifying may go on. -/
theorem Owes.set (owes : server.Owes) (found : server.connections[index]? = some connection)
    {next : Connection} (still : connection.point = .notifying → next.point = .notifying) :
    (server.set index next).Owes := by
  obtain ⟨other, notifying, at_, point⟩ := owes
  by_cases same : index = other
  · subst same
    cases found.symm.trans at_
    refine ⟨index, next, ?_, still point⟩
    rw [IpcServer.set, List.getElem?_set_self (List.getElem?_eq_some_iff.mp found).1]
  · refine ⟨other, notifying, ?_, point⟩
    rw [IpcServer.set, List.getElem?_set_ne same]
    exact at_

/-- No request is overlooked. -/
def Heard (server : IpcServer σ) : Prop := server.requests.Heard server.Owes

theorem Heard.thread (heard : server.Heard) (index : Nat) {act : Connection → IpcServer σ}
    (keeps : ∀ connection, server.connections[index]? = some connection → (act connection).Heard) :
    (server.thread index act).Heard := by
  rw [IpcServer.thread]
  cases found : server.connections[index]? with
  | none => exact heard
  | some connection => exact keeps connection found

theorem Heard.set (heard : server.Heard) (found : server.connections[index]? = some connection)
    {next : Connection} (still : connection.point = .notifying → next.point = .notifying) :
    (server.set index next).Heard :=
  heard.mono fun owes => owes.set found still

theorem Heard.read (heard : server.Heard) (found : server.connections[index]? = some connection) :
    (server.read index connection).Heard := by
  rw [IpcServer.read]
  split
  · rename_i reading
    have idle : connection.point ≠ .notifying := by rw [reading]; nofun
    split
    · exact heard
    · exact heard.set found fun notifying => absurd notifying idle
    · apply Mailbox.heard_leave
      refine ⟨index, _, List.getElem?_set_self (List.getElem?_eq_some_iff.mp found).1, rfl⟩
  · exact heard

theorem Heard.notify (heard : server.Heard) (index : Nat) (connection : Connection) :
    (server.notify index connection).Heard := by
  rw [IpcServer.notify]
  split
  · exact Mailbox.heard_ring (by decide)
  · exact heard

theorem Heard.receive (heard : server.Heard)
    (found : server.connections[index]? = some connection) :
    (server.receive index connection).Heard := by
  rw [IpcServer.receive]
  split
  · rename_i response point reply
    apply heard.set found
    intro notifying
    cases point.symm.trans notifying
  · exact heard

theorem Heard.respond (heard : server.Heard)
    (found : server.connections[index]? = some connection) (written : Bool) :
    (server.respond index written connection).Heard := by
  rw [IpcServer.respond]
  split
  · rename_i response point
    apply heard.set found
    intro notifying
    cases point.symm.trans notifying
  · exact heard

theorem Heard.accept (heard : server.Heard) (cred : PeerCred) : (server.accept cred).Heard := by
  apply Mailbox.Heard.mono heard
  rintro ⟨index, connection, found, notifying⟩
  refine ⟨index, connection, ?_, notifying⟩
  rw [IpcServer.accept, List.getElem?_append_left (List.getElem?_eq_some_iff.mp found).1]
  exact found

theorem Heard.drain (heard : server.Heard) (env : ε) : (server.drain handle env).Heard := by
  have taken := Mailbox.Heard.take heard
  rw [IpcServer.drain]
  split
  · rename_i requests nothing
    rw [nothing] at taken
    exact taken
  · rename_i request requests took
    rw [took] at taken
    split
    · rename_i response state handled
      apply taken.mono
      rintro ⟨index, connection, found, notifying⟩
      refine ⟨index, if request.connection = index then
        { connection with reply := some response } else connection, ?_, ?_⟩
      · rw [IpcServer.answer, List.getElem?_modify, found]
        rfl
      · split <;> exact notifying
    · exact taken

theorem Heard.step (heard : server.Heard) (label : ServerStep σ ε) :
    (server.step handle label).Heard := by
  cases label with
  | accept cred => exact heard.accept cred
  | send index item => exact heard.thread index fun _ found => heard.set found id
  | read index => exact heard.thread index fun _ found => heard.read found
  | notify index => exact heard.thread index fun connection _ => heard.notify index connection
  | receive index => exact heard.thread index fun _ found => heard.receive found
  | respond index written => exact heard.thread index fun _ found => heard.respond found written
  | wake =>
      rw [IpcServer.step]
      split
      · exact Mailbox.Heard.wake heard
      · exact heard
  | reset =>
      rw [IpcServer.step]
      split
      · exact Mailbox.Heard.silence heard
      · exact heard
  | drainRequests =>
      rw [IpcServer.step]
      split
      · exact Mailbox.Heard.open_ heard
      · exact heard
  | drain env =>
      rw [IpcServer.step]
      split
      · exact heard.drain env
      · exact heard
  | wait =>
      rw [IpcServer.step]
      split
      · exact Mailbox.Heard.sleep heard
      · exact heard
  | other state =>
      rw [IpcServer.step]
      split <;> exact heard

/-- In whatever order the peers, the threads and the loop go on: while the loop sleeps and a
request waits for it, either the loop has been notified, or a thread is about to notify it. -/
theorem requests_notified (handle : ε → Message → σ → Option (Message × σ)) (server : IpcServer σ)
    (reached : server.Reached handle) (asleep : server.requests.keeper = .asleep)
    (waits : server.requests.letters ≠ []) :
    0 < server.requests.bell ∨ ∃ connection ∈ server.connections, connection.point = .notifying := by
  have heard : server.Heard := by
    obtain ⟨state, labels, rfl⟩ := reached
    exact Runs.run_invariant (fun _ label holds => holds.step label) labels nofun
  refine (heard (.inl asleep) waits).imp_right ?_
  rintro ⟨index, connection, found, notifying⟩
  exact ⟨connection, List.mem_of_getElem? found, notifying⟩

end IpcServer

/-! ## Senders -/

section Senders

/-- Every signed message names its sender, and only root can name another one. -/
theorem Message.fromUid_signedBy (cred : PeerCred) (msg : Message) :
    (cred.uid ≠ 0 → (msg.signedBy cred).fromUid = some cred.uid) ∧
      (msg.signedBy cred).fromUid.isSome := by
  rw [Message.signedBy]
  split
  · rename_i root
    exact ⟨fun other => absurd root.1 other, root.2⟩
  · exact ⟨fun _ => rfl, rfl⟩

/-- Whether a user may have an action done. -/
def Daemon.Permits (daemon : Daemon) (uid : UInt32) (action : String) : Prop :=
  ∃ source, (daemon.sources.getD ∅).lookup action = some source ∧
    (source.perms = .all ∨ ∃ fuel,
      (daemon.permissions.getD (.new .empty)).userCheck fuel uid source.perms = some true)

theorem permits_of_permitted {daemon : Daemon} {msg : Message} {fuel : Nat} {source : IpcSource}
    (known : (daemon.sources.getD ∅).lookup msg.action = some source)
    (allowed : permitted fuel msg (daemon.permissions.getD (.new .empty)) source.perms = some true) :
    daemon.Permits (msg.fromUid.getD 0) msg.action := by
  refine ⟨source, known, ?_⟩
  unfold permitted at allowed
  split at allowed
  · exact .inl (by assumption)
  · exact .inr ⟨fuel, allowed⟩

end Senders

section Daemons

variable [SerdeJson] [TomlText] [Bincode FlowInstance] [Bincode StateSnapshot] [Crc32]

/-- A request that the daemon answers, with the outside it finds and as many steps as it
may take for the links of the permissions. -/
def answerIpcMessage (call : Env × Nat) (msg : Message) (daemon : Daemon) :
    Option (Message × Daemon) :=
  match handleIpcMessage call.1 call.2 msg daemon with
  | some (.ok reply, final) => some (reply, final)
  | _ => none

/-- A request that changes the daemon is permitted to its sender. -/
theorem answerIpcMessage_permits {call : Env × Nat} {msg reply : Message} {daemon final : Daemon}
    (answered : answerIpcMessage call msg daemon = some (reply, final)) (changed : final ≠ daemon) :
    daemon.Permits (msg.fromUid.getD 0) msg.action := by
  rw [answerIpcMessage] at answered
  split at answered
  · rename_i handled
    cases answered
    rcases Prog.run_bind_cases handled with ⟨err, -, failed⟩ | ⟨outcome, middle, considered, rest⟩
    · cases failed
    · cases rest
      rcases considerIpcMessage_cases considered with same | ⟨source, known, allowed, -⟩
      · exact absurd same changed
      · exact permits_of_permitted known allowed
  · cases answered

end Daemons

/-! ## Examples -/

section Examples

open scoped Rind.Compact Rind.Standard

def alicePeer : PeerCred := ⟨1000, 1000, 42⟩

def rootPeer : PeerCred := ⟨0, 0, 1⟩

/-- A handler that counts, and sends each message back. -/
def echo (_ : Unit) (msg : Message) (count : Nat) : Option (Message × Nat) := some (msg, count + 1)

/-- Alice has sent two messages, and root one in between. The loop has handled all that it has
got, and has gone to sleep before the last one. -/
def echoServer : IpcServer Nat :=
  Runs.run (IpcServer.step echo) (.start 0)
    [.accept alicePeer, .accept rootPeer, .send 0 (some { action := "show" }), .read 0,
      .send 1 (some { action := "reboot" }), .read 1, .notify 1, .reset, .drainRequests, .drain (),
      .notify 0, .drain (), .receive 0, .respond 0 true, .drain (), .send 0 (some { action := "logout" }),
      .read 0, .wait]

theorem replies_inOrder_echo :
    ∃ connection, echoServer.connections[0]? = some connection ∧
      (echoServer.answers 0).map (fun entry => entry.request.message) <+: connection.requested ∧
      connection.responses <+: (echoServer.answers 0).map Served.response ∧
      connection.requested.length ≤ connection.responses.length + 1 ∧
      ∀ entry ∈ echoServer.answers 0, ∃ env,
        echo env entry.request.message entry.before = some (entry.response, entry.after) :=
  ⟨_, rfl, IpcServer.replies_inOrder echo echoServer ⟨_, _, rfl⟩ 0 _ rfl⟩

theorem requests_notified_echo :
    0 < echoServer.requests.bell ∨
      ∃ connection ∈ echoServer.connections, connection.point = .notifying :=
  IpcServer.requests_notified echo echoServer ⟨_, _, rfl⟩ (by decide) (by decide)

/-- A message of Alice that names root as its sender. -/
def forgedReload : Message :=
  { action := "reload_units", payload := some [0xC3], fromUid := some 0 }

/-- Alice has got the forged message handled. -/
def forgedServer : IpcServer Daemon :=
  Runs.run (IpcServer.step answerIpcMessage) (.start listeningDaemon)
    [.accept alicePeer, .send 0 (some forgedReload), .read 0, .notify 0, .reset, .drainRequests,
      .drain (.asking, 0)]

end Examples

end Rind.Ipc
