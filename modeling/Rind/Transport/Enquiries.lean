import Mathlib.Data.List.Count
import Rind.Flow.Transport
import Rind.Prog.Runs

/-!
# Enquiries

A client asks the server over a connection of its own, and puts the connection into a pool
once it has an answer.  The server counts that connection among the clients of the
endpoint, to which it also sends its broadcasts, and answers do not say what they answer.
-/

namespace Rind

/-- What the server sends: a message to all clients, or what it has produced for an
enquiry. -/
inductive Frame where
  | broadcast (message : TransportMessage)
  | response (enquiry : Nat) (message : TransportMessage)
  deriving DecidableEq, Repr

def Frame.message : Frame → TransportMessage
  | .broadcast message => message
  | .response _ message => message

/-- Whether a frame is what was produced for an enquiry. -/
def Frame.answers (enquiry : Nat) : Frame → Bool
  | .broadcast _ => false
  | .response id _ => id == enquiry

/-- Whether a frame is an answer at all. -/
def Frame.isResponse : Frame → Bool
  | .broadcast _ => false
  | .response _ _ => true

/-- An enquiry that waits for its answer, and over shared memory the last record that it
has drained. -/
structure Enquiry where
  id : Nat
  draining : Bool
  last : Option Frame

/-- A connection: the frames that have come in, the counter of its eventfd and the enquiry
that has it. -/
structure Connection where
  incoming : List Frame
  counter : Nat
  enquiry : Option Enquiry

/-- A step of the server on a connection: a frame that is written, and then signalled or
not, or a signal. -/
inductive ServerOp where
  | write (connection : Nat) (frame : Frame) (signals : Bool)
  | signal (connection : Nat)
  deriving DecidableEq

/-- Whether a step writes the answer to an enquiry. -/
def ServerOp.delivers (connection enquiry : Nat) : ServerOp → Bool
  | .write other frame _ => other == connection && frame.answers enquiry
  | .signal _ => false

/-- A transport of a client with all of its connections, and the server. -/
structure EnquirySystem where
  method : StreamMethod
  connections : Nat → Connection
  count : Nat
  pool : Option Nat
  next : Nat
  requests : List (Nat × Nat)
  pending : List ServerOp
  returned : List (Nat × Frame)

/-- What happens: an enquiry is sent or fails, the server takes the request of a connection
and answers it or not, sends a broadcast or goes on with what it has to do, and a client
takes a frame, wakes up or looks into the ring of a connection. -/
inductive EnquiryStep where
  | enquire (sent : Bool)
  | answer (connection : Nat) (reply : Option TransportMessage)
  | broadcast (message : TransportMessage)
  | goOn (accepted : Bool)
  | receive (connection : Nat)
  | wake (connection : Nat)
  | drain (connection : Nat)

namespace EnquirySystem

/-- Change one connection. -/
def modify (system : EnquirySystem) (connection : Nat) (change : Connection → Connection) :
    EnquirySystem :=
  { system with
    connections := fun other =>
      if other = connection then change (system.connections other) else system.connections other }

/-! ## The client -/

/-- The connection in the pool, or a new one. -/
def chosen (system : EnquirySystem) : Nat := system.pool.getD system.count

/-- The system once the connection has been taken. -/
def connected (system : EnquirySystem) : EnquirySystem :=
  { system with
    pool := none, next := system.next + 1
    count := if system.pool.isSome then system.count else system.count + 1 }

/-- An enquiry is written to a connection. -/
def request (system : EnquirySystem) (connection enquiry : Nat) : EnquirySystem :=
  { system.modify connection fun state => { state with enquiry := some ⟨enquiry, false, none⟩ } with
    requests := system.requests ++ [(connection, enquiry)] }

def enquire (system : EnquirySystem) (sent : Bool) : EnquirySystem :=
  if sent then system.connected.request system.chosen system.next else system.connected

/-- A connection that no enquiry has any more. -/
def release (system : EnquirySystem) (connection : Nat) : EnquirySystem :=
  system.modify connection fun state => { state with enquiry := none }

/-- An enquiry returns a message, and puts its connection into the pool, or fails, if the
message cannot be decoded. -/
def finish (system : EnquirySystem) (connection enquiry : Nat) (frame : Frame) : EnquirySystem :=
  if frame.message.branch.isNone then
    { system.release connection with
      pool := some connection, returned := system.returned ++ [(enquiry, frame)] }
  else system.release connection

/-- `read_signed` -/
def receive (system : EnquirySystem) (connection : Nat) : EnquirySystem :=
  match (system.connections connection).enquiry, (system.connections connection).incoming with
  | some enquiry, frame :: rest =>
      (system.modify connection fun state => { state with incoming := rest }).finish connection
        enquiry.id frame
  | _, _ => system

def wake (system : EnquirySystem) (connection : Nat) : EnquirySystem :=
  match (system.connections connection).enquiry, (system.connections connection).counter with
  | some enquiry, _ + 1 =>
      if enquiry.draining then system
      else
        system.modify connection fun state =>
          { state with counter := 0, enquiry := some { enquiry with draining := true } }
  | _, _ => system

/-- The last record is the answer. There is none if nothing has been drained. -/
def drain (system : EnquirySystem) (connection : Nat) : EnquirySystem :=
  match (system.connections connection).enquiry with
  | none => system
  | some enquiry =>
      if enquiry.draining then
        match (system.connections connection).incoming, enquiry.last with
        | frame :: rest, _ =>
            system.modify connection fun state =>
              { state with incoming := rest, enquiry := some { enquiry with last := some frame } }
        | [], some frame => system.finish connection enquiry.id frame
        | [], none => system.release connection
      else system

/-! ## The server -/

/-- What the server does to answer: over shared memory it signals first. -/
def responseOps (method : StreamMethod) (connection : Nat) (frame : Frame) : List ServerOp :=
  match method with
  | .uds => [.write connection frame false]
  | .shm => [.signal connection, .write connection frame false]

/-- Take the request of a connection. -/
def answer (system : EnquirySystem) (connection : Nat) (reply : Option TransportMessage) :
    EnquirySystem :=
  match system.requests.find? fun request => request.1 == connection with
  | none => system
  | some request =>
      { system with
        requests := system.requests.erase request
        pending :=
          match reply with
          | none => []
          | some message => responseOps system.method connection (.response request.2 message) }

/-- `send_message` -/
def broadcast (system : EnquirySystem) (message : TransportMessage) : EnquirySystem :=
  { system with
    pending := (List.range system.count).map fun connection =>
      .write connection (.broadcast message) (system.method == .shm) }

def goOn (system : EnquirySystem) (accepted : Bool) : EnquirySystem :=
  match system.pending with
  | [] => system
  | .write connection frame signals :: rest =>
      if accepted then
        { system.modify connection fun state =>
            { state with incoming := state.incoming ++ [frame] } with
          pending := if signals then .signal connection :: rest else rest }
      else { system with pending := rest }
  | .signal connection :: rest =>
      { system.modify connection fun state => { state with counter := state.counter + 1 } with
        pending := rest }

/-! ## Runs -/

/-- The server only turns to the next message when it is done with the last one. -/
def step (system : EnquirySystem) : EnquiryStep → EnquirySystem
  | .enquire sent => system.enquire sent
  | .answer connection reply =>
      if system.pending = [] then system.answer connection reply else system
  | .broadcast message => if system.pending = [] then system.broadcast message else system
  | .goOn accepted => system.goOn accepted
  | .receive connection => if system.method = .uds then system.receive connection else system
  | .wake connection => if system.method = .shm then system.wake connection else system
  | .drain connection => if system.method = .shm then system.drain connection else system

def start (method : StreamMethod) : EnquirySystem where
  method := method
  connections _ := ⟨[], 0, none⟩
  count := 0
  pool := none
  next := 0
  requests := []
  pending := []
  returned := []

/-- All enquiries that have returned have got their own answers. -/
def OwnAnswers (system : EnquirySystem) : Prop :=
  ∀ entry ∈ system.returned, entry.2.answers entry.1

/-- No broadcast is waiting in a connection from which an enquiry takes what has come in. -/
def TakesNoBroadcast (system : EnquirySystem) : EnquiryStep → Prop
  | .receive connection | .drain connection =>
      ∀ frame ∈ (system.connections connection).incoming, frame.isResponse
  | _ => True

/-! ## Answers that are owed -/

/-- How often the answer to an enquiry is owed on a connection: as a request, as something
that the server has to write, or as a frame that has come in. -/
def owed (system : EnquirySystem) (connection enquiry : Nat) : Nat :=
  system.requests.count (connection, enquiry) +
    system.pending.countP (·.delivers connection enquiry) +
    (system.connections connection).incoming.countP (·.answers enquiry)

/-- What is owed on a connection: nothing where it is new or in the pool, and at most the
answer to the enquiry that has it. -/
structure Owes (system : EnquirySystem) (connection : Nat) : Prop where
  fresh : system.count ≤ connection → ∀ enquiry, system.owed connection enquiry = 0
  pooled : system.pool = some connection →
    connection < system.count ∧ (system.connections connection).enquiry = none ∧
      ∀ enquiry, system.owed connection enquiry = 0
  asking : ∀ asking, (system.connections connection).enquiry = some asking →
    connection < system.count ∧
      (∀ enquiry, system.owed connection enquiry ≤ if enquiry = asking.id then 1 else 0) ∧
      ∀ frame, asking.last = some frame →
        frame.answers asking.id ∧ ∀ enquiry, system.owed connection enquiry = 0

structure Consistent (system : EnquirySystem) : Prop where
  owes : ∀ connection, system.Owes connection
  own : system.OwnAnswers

section Steps

variable {system final : EnquirySystem} {connection : Nat}

section Modify

variable (change : Connection → Connection)

@[simp] theorem modify_connections_self :
    (system.modify connection change).connections connection =
      change (system.connections connection) := if_pos rfl

theorem modify_connections_of_ne {other : Nat} (apart : other ≠ connection) :
    (system.modify connection change).connections other = system.connections other := if_neg apart

/-- What is owed on other connections does not depend on the change of one. -/
theorem owed_modify_of_ne {other : Nat} (apart : other ≠ connection) (enquiry : Nat) :
    (system.modify connection change).owed other enquiry = system.owed other enquiry := by
  rw [owed, modify_connections_of_ne change apart]
  rfl

end Modify

/-- A connection on which no more is owed, and that has the same enquiry. -/
theorem Owes.of_le (owes : system.Owes connection) (count : system.count ≤ final.count)
    (pool : final.pool = some connection → system.pool = some connection)
    (asking : (final.connections connection).enquiry = (system.connections connection).enquiry)
    (less : ∀ enquiry, final.owed connection enquiry ≤ system.owed connection enquiry) :
    final.Owes connection := by
  constructor
  · intro fresh enquiry
    have none := owes.fresh (count.trans fresh) enquiry
    have least := less enquiry
    omega
  · intro pooled
    obtain ⟨inside, unasked, none⟩ := owes.pooled (pool pooled)
    refine ⟨inside.trans_le count, asking.trans unasked, fun enquiry => ?_⟩
    have least := less enquiry
    have nothing := none enquiry
    omega
  · intro enquiry has
    obtain ⟨inside, most, last⟩ := owes.asking enquiry (asking.symm.trans has)
    refine ⟨inside.trans_le count, fun id => (less id).trans (most id), ?_⟩
    intro frame drained
    obtain ⟨answers, none⟩ := last frame drained
    refine ⟨answers, fun id => ?_⟩
    have least := less id
    have nothing := none id
    omega

/-! ### The client -/

theorem Consistent.chosen (consistent : system.Consistent) :
    system.chosen < system.connected.count ∧
      ∀ enquiry, system.owed system.chosen enquiry = 0 := by
  rw [EnquirySystem.chosen, connected]
  cases pool : system.pool with
  | none => exact ⟨Nat.lt_succ_self _, (consistent.owes system.count).fresh (le_refl _)⟩
  | some connection =>
      obtain ⟨inside, -, none⟩ := (consistent.owes connection).pooled pool
      exact ⟨inside, none⟩

theorem Consistent.connected (consistent : system.Consistent) : system.connected.Consistent := by
  have count : system.count ≤ system.connected.count := by
    rw [EnquirySystem.connected]
    dsimp only
    split
    · exact le_refl _
    · exact Nat.le_succ _
  exact ⟨fun other => (consistent.owes other).of_le count nofun rfl fun _ => le_refl _,
    consistent.own⟩

theorem owed_request (other id enquiry : Nat) :
    (system.request connection id).owed other enquiry =
      system.owed other enquiry + if other = connection ∧ enquiry = id then 1 else 0 := by
  have incoming : ((system.request connection id).connections other).incoming =
      (system.connections other).incoming := by
    rw [request, modify]
    dsimp only
    split
    · rfl
    · rfl
  rw [owed, owed, incoming]
  simp only [request, modify, List.count_append, List.count_singleton, beq_iff_eq, Prod.mk.injEq]
  simp only [eq_comm (a := connection), eq_comm (a := id)]
  omega

theorem request_enquiry (id : Nat) :
    ((system.request connection id).connections connection).enquiry = some ⟨id, false, none⟩ :=
  congrArg Connection.enquiry (if_pos rfl)

theorem request_connections_of_ne (system : EnquirySystem) (id : Nat) {other : Nat} (apart : other ≠ connection) :
    (system.request connection id).connections other = system.connections other := if_neg apart

theorem Consistent.request (consistent : system.Consistent) (id : Nat)
    (inside : connection < system.count) (unpooled : system.pool = none)
    (none : ∀ enquiry, system.owed connection enquiry = 0) :
    (system.request connection id).Consistent := by
  refine ⟨fun other => ?_, consistent.own⟩
  by_cases same : other = connection
  · subst same
    refine ⟨fun fresh => absurd inside (Nat.not_lt.mpr fresh), ?_, ?_⟩
    · intro pooled
      cases unpooled.symm.trans pooled
    · intro asking has
      rw [request_enquiry] at has
      cases has
      refine ⟨inside, fun enquiry => ?_, fun frame last => ?_⟩
      · rw [owed_request, none]
        simp
      · cases last
  · have unchanged := request_connections_of_ne system id same
    refine (consistent.owes other).of_le ?_ ?_ (congrArg Connection.enquiry unchanged) ?_
    · exact le_refl system.count
    · exact fun pooled => pooled
    · intro enquiry
      rw [owed_request, if_neg fun both => same both.1]
      exact le_refl _

theorem Consistent.enquire (consistent : system.Consistent) (sent : Bool) :
    (system.enquire sent).Consistent := by
  obtain ⟨inside, none⟩ := consistent.chosen
  rw [EnquirySystem.enquire]
  split
  · exact consistent.connected.request _ inside rfl none
  · exact consistent.connected

/-- Frames taken from a connection are owed no longer. -/
theorem owed_take {frame : Frame} {rest : List Frame} (change : Connection → Connection)
    (incoming : (system.connections connection).incoming = frame :: rest)
    (taken : (change (system.connections connection)).incoming = rest) (enquiry : Nat) :
    system.owed connection enquiry =
      (system.modify connection change).owed connection enquiry +
        if frame.answers enquiry then 1 else 0 := by
  rw [owed, owed, modify_connections_self, taken, incoming, List.countP_cons]
  simp only [EnquirySystem.modify]
  omega

/-- A change of one connection, after which no more is owed on it, and its enquiry is
gone or has drained its answer. -/
theorem Consistent.modify (consistent : system.Consistent) (change : Connection → Connection)
    (less : ∀ enquiry, (system.modify connection change).owed connection enquiry ≤
      system.owed connection enquiry)
    (asking : ∀ asking, (change (system.connections connection)).enquiry = some asking →
      ∃ before, (system.connections connection).enquiry = some before ∧ before.id = asking.id ∧
        ∀ frame, asking.last = some frame → frame.answers asking.id ∧
          ∀ enquiry, (system.modify connection change).owed connection enquiry = 0) :
    (system.modify connection change).Consistent := by
  refine ⟨fun other => ?_, consistent.own⟩
  by_cases same : other = connection
  · subst same
    have owes := consistent.owes other
    constructor
    · intro fresh enquiry
      exact Nat.le_zero.mp ((less enquiry).trans (owes.fresh fresh enquiry).le)
    · intro pooled
      obtain ⟨inside, unasked, none⟩ := owes.pooled pooled
      refine ⟨inside, ?_, fun enquiry => Nat.le_zero.mp ((less enquiry).trans (none enquiry).le)⟩
      rw [modify_connections_self]
      cases has : (change (system.connections other)).enquiry with
      | none => rfl
      | some found =>
          obtain ⟨before, had, -⟩ := asking found has
          rw [unasked] at had
          cases had
    · intro found has
      rw [modify_connections_self] at has
      obtain ⟨before, had, same, last⟩ := asking found has
      obtain ⟨inside, most, -⟩ := owes.asking before had
      refine ⟨inside, fun enquiry => ?_, last⟩
      rw [← same]
      exact (less enquiry).trans (most enquiry)
  · have unchanged : (system.modify connection change).connections other =
        system.connections other := modify_connections_of_ne change same
    refine (consistent.owes other).of_le ?_ ?_ (congrArg Connection.enquiry unchanged) ?_
    · exact le_refl system.count
    · exact fun pooled => pooled
    · intro enquiry
      exact (owed_modify_of_ne change same enquiry).le

theorem release_enquiry : ((system.release connection).connections connection).enquiry = none :=
  congrArg Connection.enquiry (if_pos rfl)

theorem owed_release (other enquiry : Nat) :
    (system.release connection).owed other enquiry = system.owed other enquiry := by
  by_cases same : other = connection
  · subst same
    rw [owed, release, modify_connections_self]
    rfl
  · exact owed_modify_of_ne _ same enquiry

theorem Consistent.release (consistent : system.Consistent) (connection : Nat) :
    (system.release connection).Consistent := by
  apply consistent.modify
  · intro enquiry
    exact (owed_release connection enquiry).le
  · intro asking has
    cases has

/-- A connection on which nothing is owed and that no enquiry has may be in the pool. -/
theorem Consistent.pooled (consistent : system.Consistent) (inside : connection < system.count)
    (unasked : (system.connections connection).enquiry = none)
    (none : ∀ enquiry, system.owed connection enquiry = 0) :
    EnquirySystem.Consistent { system with pool := some connection } := by
  refine ⟨fun other => ?_, consistent.own⟩
  by_cases same : other = connection
  · subst same
    refine ⟨fun fresh => absurd inside (Nat.not_lt.mpr fresh), fun _ => ?_, ?_⟩
    · exact ⟨inside, unasked, none⟩
    · intro found has
      cases unasked.symm.trans has
  · refine (consistent.owes other).of_le ?_ ?_ rfl ?_
    · exact le_refl system.count
    · intro pooled
      exact absurd (Option.some.inj pooled).symm same
    · intro enquiry
      exact le_refl _

theorem Consistent.returned (consistent : system.Consistent) {id : Nat} {frame : Frame}
    (answers : frame.answers id) :
    EnquirySystem.Consistent { system with returned := system.returned ++ [(id, frame)] } := by
  refine ⟨fun other => ?_, ?_⟩
  · refine (consistent.owes other).of_le ?_ ?_ rfl ?_
    · exact le_refl system.count
    · exact fun pooled => pooled
    · intro enquiry
      exact le_refl _
  · intro entry returned
    rcases List.mem_append.mp returned with before | now
    · exact consistent.own entry before
    · cases List.mem_singleton.mp now
      exact answers

/-- An answer that is all that is owed on a connection is returned. -/
theorem Consistent.finish (consistent : system.Consistent) {id : Nat} {frame : Frame}
    (inside : connection < system.count) (answers : frame.answers id)
    (none : ∀ enquiry, system.owed connection enquiry = 0) :
    (system.finish connection id frame).Consistent := by
  have released := consistent.release connection
  rw [EnquirySystem.finish]
  split
  · apply (released.pooled inside release_enquiry _).returned answers
    intro enquiry
    rw [owed_release, none]
  · exact released

/-- The first frame of a connection without broadcasts is the answer to its enquiry. -/
theorem Consistent.first (consistent : system.Consistent) {asking : Enquiry} {frame : Frame}
    {rest : List Frame} (has : (system.connections connection).enquiry = some asking)
    (incoming : (system.connections connection).incoming = frame :: rest)
    (response : frame.isResponse) (change : Connection → Connection)
    (taken : (change (system.connections connection)).incoming = rest) :
    frame.answers asking.id ∧
      ∀ enquiry, (system.modify connection change).owed connection enquiry = 0 := by
  have most := ((consistent.owes connection).asking asking has).2.1
  have take := owed_take change incoming taken
  cases frame with
  | broadcast message => cases response
  | response id message =>
      have own : id = asking.id := by
        have owed := take id
        have bound := most id
        simp only [Frame.answers, beq_self_eq_true, if_true] at owed
        by_contra other
        rw [if_neg other] at bound
        omega
      subst own
      refine ⟨beq_self_eq_true _, fun enquiry => ?_⟩
      have owed := take enquiry
      have bound := most enquiry
      by_cases same : enquiry = asking.id
      · subst same
        simp only [Frame.answers, beq_self_eq_true, if_true] at owed bound
        omega
      · rw [if_neg same] at bound
        omega

theorem Consistent.receive (consistent : system.Consistent)
    (clean : ∀ frame ∈ (system.connections connection).incoming, frame.isResponse) :
    (system.receive connection).Consistent := by
  rw [EnquirySystem.receive]
  split
  · rename_i asking frame rest has incoming
    have first := consistent.first has incoming (clean frame (by simp [incoming]))
      (fun state => { state with incoming := rest }) rfl
    have taken : (system.modify connection fun state =>
        { state with incoming := rest }).Consistent := by
      apply consistent.modify
      · intro enquiry
        rw [first.2 enquiry]
        exact Nat.zero_le _
      · intro found had
        cases has.symm.trans had
        refine ⟨asking, has, rfl, fun last drained => ?_⟩
        exact ⟨((consistent.owes connection).asking asking has).2.2 last drained |>.1, first.2⟩
    exact taken.finish ((consistent.owes connection).asking asking has).1 first.1 first.2
  · exact consistent

theorem Consistent.wake (consistent : system.Consistent) :
    (system.wake connection).Consistent := by
  rw [EnquirySystem.wake]
  split
  · rename_i asking counter has counted
    split
    · exact consistent
    · have owed (enquiry : Nat) : (system.modify connection fun state => { state with
          counter := 0, enquiry := some { asking with draining := true } }).owed connection enquiry =
          system.owed connection enquiry := by
        rw [EnquirySystem.owed, modify_connections_self]
        rfl
      apply consistent.modify
      · intro enquiry
        exact (owed enquiry).le
      · intro found had
        cases had
        refine ⟨asking, has, rfl, fun last drained => ?_⟩
        obtain ⟨answers, none⟩ := ((consistent.owes connection).asking asking has).2.2 last drained
        exact ⟨answers, fun enquiry => (owed enquiry).trans (none enquiry)⟩
  · exact consistent

theorem Consistent.drain (consistent : system.Consistent)
    (clean : ∀ frame ∈ (system.connections connection).incoming, frame.isResponse) :
    (system.drain connection).Consistent := by
  rw [EnquirySystem.drain]
  split
  · exact consistent
  · rename_i asking has
    split
    · split
      · rename_i last frame rest incoming
        have first := consistent.first has incoming (clean frame (by simp [incoming]))
          (fun state => { state with
            incoming := rest, enquiry := some { asking with last := some frame } }) rfl
        apply consistent.modify
        · intro enquiry
          rw [first.2 enquiry]
          exact Nat.zero_le _
        · intro found had
          cases had
          refine ⟨asking, has, rfl, fun last drained => ?_⟩
          cases drained
          exact first
      · rename_i frame incoming drained
        obtain ⟨inside, -, last⟩ := (consistent.owes connection).asking asking has
        obtain ⟨answers, none⟩ := last frame drained
        exact consistent.finish inside answers none
      · exact consistent.release connection
    · exact consistent

/-! ### The server -/

/-- The server writes an answer once, to the connection that it came from. -/
theorem countP_responseOps (method : StreamMethod) (id : Nat) (message : TransportMessage)
    (other enquiry : Nat) :
    (responseOps method connection (.response id message)).countP (·.delivers other enquiry) =
      if connection = other ∧ id = enquiry then 1 else 0 := by
  cases method with
  | uds => simp [responseOps, ServerOp.delivers, Frame.answers, List.countP_cons]
  | shm => simp [responseOps, ServerOp.delivers, Frame.answers, List.countP_cons]

theorem Consistent.answer (consistent : system.Consistent) (idle : system.pending = [])
    (reply : Option TransportMessage) : (system.answer connection reply).Consistent := by
  rw [EnquirySystem.answer]
  split
  · exact consistent
  · rename_i request found
    have origin : request.1 = connection := by simpa using List.find?_some found
    have asked : request ∈ system.requests := List.mem_of_find?_eq_some found
    refine ⟨fun other => ?_, consistent.own⟩
    refine (consistent.owes other).of_le ?_ ?_ rfl ?_
    · exact le_refl system.count
    · exact fun pooled => pooled
    · intro enquiry
      rw [owed, owed, idle, List.count_erase, List.countP_nil]
      dsimp only
      by_cases same : request = (other, enquiry)
      · have many : 0 < system.requests.count (other, enquiry) :=
          List.count_pos_iff.mpr (same ▸ asked)
        rw [if_pos (by simp [same])]
        cases reply with
        | none =>
            rw [List.countP_nil]
            omega
        | some message =>
            rw [countP_responseOps]
            split
            · omega
            · omega
      · rw [if_neg (by simp [same])]
        cases reply with
        | none => exact le_refl _
        | some message =>
            rw [countP_responseOps, if_neg]
            · exact le_refl _
            · rintro ⟨rfl, rfl⟩
              exact same (by rw [← origin])

theorem Consistent.broadcast (consistent : system.Consistent) (message : TransportMessage) :
    (system.broadcast message).Consistent := by
  refine ⟨fun other => ?_, consistent.own⟩
  refine (consistent.owes other).of_le ?_ ?_ rfl ?_
  · exact le_refl system.count
  · exact fun pooled => pooled
  · intro enquiry
    have none : (system.broadcast message).pending.countP (·.delivers other enquiry) = 0 := by
      rw [List.countP_eq_zero]
      intro op written
      obtain ⟨connection, -, rfl⟩ := List.mem_map.mp written
      simp [ServerOp.delivers, Frame.answers]
    rw [owed, owed, none]
    change system.requests.count (other, enquiry) + 0 +
      (system.connections other).incoming.countP (·.answers enquiry) ≤ _
    omega

/-- A change that leaves the enquiry of a connection. -/
theorem modify_enquiry {change : Connection → Connection}
    (keeps : ∀ state, (change state).enquiry = state.enquiry) (other : Nat) :
    ((system.modify connection change).connections other).enquiry =
      (system.connections other).enquiry := by
  rw [modify]
  dsimp only
  split
  · exact keeps _
  · rfl

/-- The frames of a connection once one more has come in. -/
theorem countP_arrived (frame : Frame) (other enquiry : Nat) :
    ((system.modify connection fun state => { state with
      incoming := state.incoming ++ [frame] }).connections other).incoming.countP
        (·.answers enquiry) =
      (system.connections other).incoming.countP (·.answers enquiry) +
        if connection = other ∧ frame.answers enquiry then 1 else 0 := by
  by_cases same : other = connection
  · subst same
    simp [modify_connections_self, List.countP_append, List.countP_cons]
  · rw [modify_connections_of_ne _ same, if_neg fun both => same both.1.symm]
    rfl

theorem Consistent.goOn (consistent : system.Consistent) (accepted : Bool) :
    (system.goOn accepted).Consistent := by
  rw [EnquirySystem.goOn]
  split
  · exact consistent
  · rename_i connection frame signals rest pending
    split
    · refine ⟨fun other => ?_, consistent.own⟩
      have asking : ((system.modify connection fun state => { state with
          incoming := state.incoming ++ [frame] }).connections other).enquiry =
          (system.connections other).enquiry := by
        apply modify_enquiry
        intro _
        rfl
      refine (consistent.owes other).of_le ?_ ?_ asking ?_
      · exact le_refl system.count
      · exact fun pooled => pooled
      · intro enquiry
        have signalled : (if signals then ServerOp.signal connection :: rest else rest).countP
            (·.delivers other enquiry) = rest.countP (·.delivers other enquiry) := by
          cases signals with
          | true => simp [ServerOp.delivers]
          | false => rfl
        have written : (ServerOp.write connection frame signals).delivers other enquiry = true ↔
            connection = other ∧ frame.answers enquiry := by simp [ServerOp.delivers]
        rw [owed, owed, pending, List.countP_cons]
        change system.requests.count (other, enquiry) +
          (if signals then ServerOp.signal connection :: rest else rest).countP
            (·.delivers other enquiry) +
          ((system.modify connection fun state => { state with
            incoming := state.incoming ++ [frame] }).connections other).incoming.countP
              (·.answers enquiry) ≤ _
        rw [signalled, countP_arrived]
        simp only [written]
        omega
    · refine ⟨fun other => ?_, consistent.own⟩
      refine (consistent.owes other).of_le ?_ ?_ rfl ?_
      · exact le_refl system.count
      · exact fun pooled => pooled
      · intro enquiry
        rw [owed, owed, pending, List.countP_cons]
        dsimp only
        omega
  · rename_i connection rest pending
    refine ⟨fun other => ?_, consistent.own⟩
    have asking : ((system.modify connection fun state => { state with
        counter := state.counter + 1 }).connections other).enquiry =
        (system.connections other).enquiry := by
        apply modify_enquiry
        intro _
        rfl
    refine (consistent.owes other).of_le ?_ ?_ asking ?_
    · exact le_refl system.count
    · exact fun pooled => pooled
    · intro enquiry
      have incoming : ((system.modify connection fun state => { state with
          counter := state.counter + 1 }).connections other).incoming =
          (system.connections other).incoming := by
        rw [EnquirySystem.modify]
        dsimp only
        split
        · rfl
        · rfl
      rw [owed, owed, pending, List.countP_cons]
      change system.requests.count (other, enquiry) + rest.countP (·.delivers other enquiry) +
        ((system.modify connection fun state => { state with
          counter := state.counter + 1 }).connections other).incoming.countP
            (·.answers enquiry) ≤ _
      rw [incoming]
      omega

/-! ### All steps -/

theorem Consistent.step (consistent : system.Consistent) (step : EnquiryStep)
    (clean : system.TakesNoBroadcast step) : (system.step step).Consistent := by
  cases step with
  | enquire sent => exact consistent.enquire sent
  | answer connection reply =>
      rw [EnquirySystem.step]
      split
      · exact consistent.answer ‹_› reply
      · exact consistent
  | broadcast message =>
      rw [EnquirySystem.step]
      split
      · exact consistent.broadcast message
      · exact consistent
  | goOn accepted => exact consistent.goOn accepted
  | receive connection =>
      rw [EnquirySystem.step]
      split
      · exact consistent.receive clean
      · exact consistent
  | wake connection =>
      rw [EnquirySystem.step]
      split
      · exact consistent.wake
      · exact consistent
  | drain connection =>
      rw [EnquirySystem.step]
      split
      · exact consistent.drain clean
      · exact consistent

theorem consistent_start (method : StreamMethod) : (start method).Consistent := by
  refine ⟨fun connection => ⟨?_, ?_, ?_⟩, ?_⟩
  · intro _ enquiry
    simp [owed, start]
  · intro pooled
    cases pooled
  · intro asking has
    cases has
  · intro entry returned
    cases returned

end Steps

/-- As long as no enquiry takes from a connection in which a broadcast is waiting, all
enquiries get their own answers. -/
theorem ownAnswers_of_takesNoBroadcast (method : StreamMethod) (steps : List EnquiryStep)
    (clean : Runs.Along step TakesNoBroadcast (start method) steps) :
    ∀ before, before <+: steps → (Runs.run step (start method) before).OwnAnswers := by
  intro before beginning
  have keeps : ∀ (system : EnquirySystem) (label : EnquiryStep),
      system.Consistent → system.TakesNoBroadcast label → (system.step label).Consistent :=
    fun _ label consistent => consistent.step label
  exact (clean.visits keeps (consistent_start method) beginning).own

/-- A message without a payload. -/
def plainMessage : TransportMessage := ⟨.facet, none, none, some "app:up", .set⟩

theorem ownAnswers_alone : (Runs.run step (start .uds)
    [.enquire true, .answer 0 (some plainMessage), .goOn true, .receive 0]).OwnAnswers := by
  apply ownAnswers_of_takesNoBroadcast .uds
    [.enquire true, .answer 0 (some plainMessage), .goOn true, .receive 0] _ _ List.prefix_rfl
  refine ⟨trivial, trivial, trivial, ?_, trivial⟩
  intro frame arrived
  cases List.mem_singleton.mp arrived
  rfl

/-- A broadcast comes in before the answer, and is returned for it. -/
theorem not_ownAnswers_broadcast :
    ¬ ∀ (method : StreamMethod) (steps before : List EnquiryStep), before <+: steps →
      (Runs.run step (start method) before).OwnAnswers := by
  intro own
  have returned := own .uds [.enquire true, .broadcast plainMessage, .goOn true, .receive 0] _
    List.prefix_rfl (0, .broadcast plainMessage) (by decide +kernel)
  cases returned

end EnquirySystem

end Rind
