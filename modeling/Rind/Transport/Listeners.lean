import Rind.Flow.Transport
import Rind.Prog.Runs

/-!
# Listeners

An endpoint with a list of permissions is open to all, and its listener looks at the
credentials of whoever connects.  Without a list the socket keeps the mode that the file
mode mask leaves, and all messages count as those of root.  Messages go through the queue
of their transport to `ingest`, which checks what the user of the message may do.
-/

namespace Rind

/-! ## Sockets -/

/-- A process that connects, as the kernel sees it: its user, whether it is in the group of
root, and whether it may override the modes of files. -/
structure Peer where
  uid : Nat
  rootGroup : Bool
  override : Bool
  deriving DecidableEq, Repr

/-- A listener with the mode of its socket, which belongs to root. -/
structure TransportListener where
  method : StreamMethod
  endpoint : Ustr
  permissions : Option (List Ustr)
  pm : Bool
  mode : BitVec 9
  deriving DecidableEq, Repr

/-- A connection that has been accepted, and the uid that its messages are sent on with. -/
structure PeerConnection where
  listener : TransportListener
  peer : Peer
  uid : Nat
  deriving DecidableEq, Repr

/-- `start_listener`, of either transport. -/
def startListener (umask : BitVec 9) (method : StreamMethod) (endpoint : Ustr)
    (permissions : Option (List Ustr)) (pm : Bool) : TransportListener where
  method := method
  endpoint := endpoint
  permissions := permissions
  pm := pm
  mode := if permissions.isSome then 0o666 else 0o777 &&& ~~~umask

/-- Whether the kernel lets a process connect: it must be allowed to write to the socket. -/
def TransportListener.lets (listener : TransportListener) (peer : Peer) : Bool :=
  peer.override ||
    if peer.uid = 0 then listener.mode.getLsbD 7
    else if peer.rootGroup then listener.mode.getLsbD 4
    else listener.mode.getLsbD 1

/-- What the loop of a listener does with a stream. The credentials may not be had. -/
def TransportListener.accept (listener : TransportListener) (holdsAny : Nat → List Ustr → Bool)
    (credentials : Bool) (peer : Peer) : Option PeerConnection :=
  match listener.permissions with
  | some permissions =>
      if listener.pm then
        if credentials && holdsAny peer.uid permissions then some ⟨listener, peer, peer.uid⟩
        else none
      else some ⟨listener, peer, 0⟩
  | none => some ⟨listener, peer, 0⟩

/-- A message on its way to `ingest`, with the connection it has come over. -/
structure Incoming where
  connection : PeerConnection
  endpoint : Ustr
  message : TransportMessage
  uid : Nat
  responder : Bool
  deriving DecidableEq, Repr

/-- What the reader of a connection sends on. It can answer an enquiry, unless the stream
cannot be cloned. -/
def PeerConnection.receive (connection : PeerConnection) (message : TransportMessage)
    (cloned : Bool) : Incoming where
  connection := connection
  endpoint := connection.listener.endpoint
  message := message
  uid := connection.uid
  responder := message.type == .enquiry && (connection.listener.method == .shm || cloned)

/-! ## The runtime -/

/-- A message that has been ingested, and what it has set off under the checks of the
time. -/
structure Ingested where
  incoming : Incoming
  checks : IngestChecks
  dispatched : List Dispatched

/-- The transport runtime with its sockets, and what it has ingested so far. -/
structure ListenerSystem where
  umask : BitVec 9
  started : List (StreamMethod × Ustr)
  listeners : List TransportListener
  connections : List PeerConnection
  queue : StreamMethod → List Incoming
  ingested : List Ingested

/-- What happens: an endpoint is set up, whose socket may fail to be bound, a process
connects to a listener, a message comes in over a connection, or the drain ingests the next
message of a transport. -/
inductive ListenerStep where
  | setup (method : StreamMethod) (endpoint : Ustr) (permissions : Option (List Ustr))
    (bound : Bool)
  | connect (listener : Nat) (peer : Peer) (holdsAny : Nat → List Ustr → Bool)
    (credentials : Bool)
  | receive (connection : Nat) (message : TransportMessage) (cloned : Bool)
  | ingest (method : StreamMethod) (checks : IngestChecks)

namespace ListenerSystem

/-- `setup_uds` and `setup_shm`, which have a permission store. -/
def setup (system : ListenerSystem) (method : StreamMethod) (endpoint : Ustr)
    (permissions : Option (List Ustr)) (bound : Bool) : ListenerSystem :=
  if (method, endpoint) ∈ system.started then system
  else
    { system with
      started := (method, endpoint) :: system.started
      listeners :=
        if bound then
          system.listeners ++ [startListener system.umask method endpoint permissions true]
        else system.listeners }

def connect (system : ListenerSystem) (listener : Nat) (peer : Peer)
    (holdsAny : Nat → List Ustr → Bool) (credentials : Bool) : ListenerSystem :=
  match system.listeners[listener]? with
  | some listener =>
      if listener.lets peer then
        { system with
          connections :=
            system.connections ++ (listener.accept holdsAny credentials peer).toList }
      else system
  | none => system

def receive (system : ListenerSystem) (connection : Nat) (message : TransportMessage)
    (cloned : Bool) : ListenerSystem :=
  match system.connections[connection]? with
  | some connection =>
      { system with
        queue := fun method =>
          if method = connection.listener.method then
            system.queue method ++ [connection.receive message cloned]
          else system.queue method }
  | none => system

section Drain

variable [SerdeJson]

/-- One message of `drain_incoming`. -/
def ingestNext (system : ListenerSystem) (method : StreamMethod) (checks : IngestChecks) :
    ListenerSystem :=
  match system.queue method with
  | [] => system
  | incoming :: rest =>
      { system with
        queue := fun other => if other = method then rest else system.queue other
        ingested := system.ingested ++ [⟨incoming, checks,
          ingest checks incoming.endpoint incoming.message incoming.uid incoming.responder⟩] }

def step (system : ListenerSystem) : ListenerStep → ListenerSystem
  | .setup method endpoint permissions bound => system.setup method endpoint permissions bound
  | .connect listener peer holdsAny credentials =>
      system.connect listener peer holdsAny credentials
  | .receive connection message cloned => system.receive connection message cloned
  | .ingest method checks => system.ingestNext method checks

end Drain

/-- The runtime before any endpoint is set up. -/
def start (umask : BitVec 9) : ListenerSystem := ⟨umask, [], [], [], fun _ => [], []⟩

end ListenerSystem

/-! ## What must hold -/

section Holding

variable (checks : IngestChecks) (uid : Nat)

/-- Root holds every permission. -/
def IngestChecks.Holds (permissions : List Ustr) : Prop :=
  uid = 0 ∨ checks.holdsAny uid permissions

/-- Whether a user may have a facet set or removed, or an impulse fired. -/
def IngestChecks.Permits : Dispatched → Prop
  | .setFacet name _ | .removeFacet name _ =>
      ∀ permissions, checks.facetPermissions name = some permissions → checks.Holds uid permissions
  | .impulse name _ =>
      ∀ permissions, checks.impulsePermissions name = some permissions →
        checks.Holds uid permissions
  | .watchdogPing _ | .log _ | .respond _ => True

end Holding

/-- A message is ingested with the uid of its peer, and sets off only what the peer may do. -/
def Ingested.Own (entry : Ingested) : Prop :=
  entry.incoming.uid = entry.incoming.connection.peer.uid ∧
    ∀ action ∈ entry.dispatched, entry.checks.Permits entry.incoming.connection.peer.uid action

def ListenerSystem.AllOwn (system : ListenerSystem) : Prop := ∀ entry ∈ system.ingested, entry.Own

/-- The credentials of a peer have been looked at, or are those of root anyway. -/
def PeerConnection.Known (connection : PeerConnection) : Prop :=
  connection.listener.permissions.isSome ∨ connection.peer.uid = 0

/-- The next message has come over a connection of a known peer. -/
def ListenerSystem.IngestsKnown (system : ListenerSystem) : ListenerStep → Prop
  | .ingest method _ => ∀ incoming ∈ (system.queue method).head?, incoming.connection.Known
  | _ => True

/-! ## Checks -/

section Permits

variable {checks : IngestChecks} {uid : Nat}

theorem IngestChecks.holds_of_all {found : Option (List Ustr)}
    (all : found.all (checks.holdsAny uid)) :
    ∀ permissions, found = some permissions → checks.Holds uid permissions := by
  rintro permissions rfl
  exact .inr all

theorem IngestChecks.holds_of_mayFacet {name : Ustr} (may : checks.mayFacet uid name) :
    ∀ permissions, checks.facetPermissions name = some permissions →
      checks.Holds uid permissions := by
  rw [IngestChecks.mayFacet, Bool.or_eq_true, Bool.and_eq_true, beq_iff_eq] at may
  obtain root | ⟨-, all⟩ := may
  · exact fun _ _ => .inl root
  · exact IngestChecks.holds_of_all all

variable [SerdeJson]

/-- Whatever a message sets off, the user that it is ingested for may do. -/
theorem ingest_permits (endpoint : Ustr) (message : TransportMessage) (responder : Bool) :
    ∀ action ∈ ingest checks endpoint message uid responder, checks.Permits uid action := by
  intro action set
  rw [ingest] at set
  split at set
  · rw [List.mem_singleton.mp set]
    trivial
  split at set
  · rw [List.mem_singleton.mp set]
    trivial
  split at set
  · split at set
    · rw [List.mem_singleton.mp set]
      trivial
    · contradiction
  · rename_i name _ _
    split at set
    · rename_i may
      have holds := IngestChecks.holds_of_mayFacet may
      rw [List.mem_singleton.mp set, facetDispatch]
      cases message.action with
      | set => exact holds
      | remove => exact holds
    · contradiction
  · split at set
    · rename_i may
      rw [List.mem_singleton.mp set]
      exact IngestChecks.holds_of_all may
    · contradiction
  · contradiction

end Permits

/-! ## Messages and their peers -/

/-- The uid of a connection is that of its peer where the credentials have been looked at,
and that of root elsewhere. -/
def PeerConnection.Traced (connection : PeerConnection) : Prop :=
  connection.uid = if connection.listener.permissions.isSome then connection.peer.uid else 0

/-- A message that is sent on with the uid of a traced connection. -/
def Incoming.Traced (incoming : Incoming) : Prop :=
  incoming.connection.Traced ∧ incoming.uid = incoming.connection.uid

structure ListenerSystem.Traced (system : ListenerSystem) : Prop where
  listeners : ∀ listener ∈ system.listeners, listener.pm = true
  connections : ∀ connection ∈ system.connections, connection.Traced
  queued : ∀ method, ∀ incoming ∈ system.queue method, incoming.Traced

section Traced

variable {connection : PeerConnection} {incoming : Incoming} {system : ListenerSystem}

theorem PeerConnection.Traced.known_iff (traced : connection.Traced) :
    connection.uid = connection.peer.uid ↔ connection.Known := by
  rw [traced, PeerConnection.Known]
  split
  · rename_i listed
    exact iff_of_true rfl (.inl listed)
  · rename_i unlisted
    rw [or_iff_right unlisted, eq_comm]

theorem TransportListener.accept_traced {listener : TransportListener} (store : listener.pm = true)
    {holdsAny : Nat → List Ustr → Bool} {credentials : Bool} {peer : Peer}
    (accepted : listener.accept holdsAny credentials peer = some connection) :
    connection.Traced := by
  rw [TransportListener.accept, store] at accepted
  split at accepted
  · rename_i permissions listed
    rw [if_pos rfl] at accepted
    split at accepted
    · cases accepted
      rw [PeerConnection.Traced, listed]
      rfl
    · cases accepted
  · rename_i unlisted
    cases accepted
    rw [PeerConnection.Traced, unlisted]
    rfl

theorem ListenerSystem.traced_start (umask : BitVec 9) : (ListenerSystem.start umask).Traced :=
  ⟨fun _ none => absurd none List.not_mem_nil, fun _ none => absurd none List.not_mem_nil,
    fun _ _ none => absurd none List.not_mem_nil⟩

theorem ListenerSystem.Traced.setup (traced : system.Traced) (method : StreamMethod)
    (endpoint : Ustr) (permissions : Option (List Ustr)) (bound : Bool) :
    (system.setup method endpoint permissions bound).Traced := by
  rw [ListenerSystem.setup]
  split
  · exact traced
  · refine ⟨?_, traced.connections, traced.queued⟩
    intro listener known
    change listener ∈ if bound then _ else _ at known
    split at known
    · rw [List.mem_append, List.mem_singleton] at known
      obtain old | rfl := known
      · exact traced.listeners listener old
      · rfl
    · exact traced.listeners listener known

theorem ListenerSystem.Traced.connect (traced : system.Traced) (listener : Nat) (peer : Peer)
    (holdsAny : Nat → List Ustr → Bool) (credentials : Bool) :
    (system.connect listener peer holdsAny credentials).Traced := by
  rw [ListenerSystem.connect]
  split
  · rename_i listener found
    split
    · refine ⟨traced.listeners, ?_, traced.queued⟩
      intro connection known
      rw [List.mem_append, Option.mem_toList] at known
      obtain old | accepted := known
      · exact traced.connections connection old
      · have store := traced.listeners _ (List.mem_of_getElem? found)
        exact TransportListener.accept_traced store accepted
    · exact traced
  · exact traced

theorem ListenerSystem.Traced.receive (traced : system.Traced) (connection : Nat)
    (message : TransportMessage) (cloned : Bool) :
    (system.receive connection message cloned).Traced := by
  rw [ListenerSystem.receive]
  split
  · rename_i connection found
    refine ⟨traced.listeners, traced.connections, ?_⟩
    intro method incoming queued
    change incoming ∈ if _ then _ else _ at queued
    split at queued
    · rw [List.mem_append, List.mem_singleton] at queued
      obtain old | rfl := queued
      · exact traced.queued method incoming old
      · exact ⟨traced.connections _ (List.mem_of_getElem? found), rfl⟩
    · exact traced.queued method incoming queued
  · exact traced

variable [SerdeJson]

theorem ListenerSystem.Traced.ingestNext (traced : system.Traced) (method : StreamMethod)
    (checks : IngestChecks) : (system.ingestNext method checks).Traced := by
  rw [ListenerSystem.ingestNext]
  split
  · exact traced
  · rename_i first rest next
    refine ⟨traced.listeners, traced.connections, ?_⟩
    intro other incoming queued
    change incoming ∈ if _ then _ else _ at queued
    split at queued
    · apply traced.queued method
      rw [next]
      exact List.mem_cons_of_mem _ queued
    · exact traced.queued other incoming queued

theorem ListenerSystem.Traced.step (traced : system.Traced) (step : ListenerStep) :
    (system.step step).Traced := by
  cases step with
  | setup method endpoint permissions bound =>
      exact traced.setup method endpoint permissions bound
  | connect listener peer holdsAny credentials =>
      exact traced.connect listener peer holdsAny credentials
  | receive connection message cloned => exact traced.receive connection message cloned
  | ingest method checks => exact traced.ingestNext method checks

/-- A message is ingested as its peer's own exactly where the peer is known. -/
theorem Incoming.Traced.own_iff (traced : incoming.Traced) (checks : IngestChecks) :
    (Ingested.mk incoming checks
      (ingest checks incoming.endpoint incoming.message incoming.uid incoming.responder)).Own ↔
      incoming.connection.Known := by
  obtain ⟨connection, uid⟩ := traced
  rw [← connection.known_iff, ← uid]
  constructor
  · exact fun own => own.1
  · intro same
    refine ⟨same, ?_⟩
    rw [← same]
    exact ingest_permits _ _ _

/-! ## Runs -/

theorem ListenerSystem.ingested_step (system : ListenerSystem) {step : ListenerStep}
    (other : ∀ method checks, step ≠ .ingest method checks) :
    (system.step step).ingested = system.ingested := by
  cases step with
  | setup method endpoint permissions bound =>
      rw [ListenerSystem.step, ListenerSystem.setup]
      split <;> rfl
  | connect listener peer holdsAny credentials =>
      rw [ListenerSystem.step, ListenerSystem.connect]
      split
      · split <;> rfl
      · rfl
  | receive connection message cloned =>
      rw [ListenerSystem.step, ListenerSystem.receive]
      split <;> rfl
  | ingest method checks => exact absurd rfl (other method checks)

/-- A step leaves all messages to be their peers' own exactly where it ingests one of a
known peer, if any. -/
theorem ListenerSystem.Traced.allOwn_step (traced : system.Traced) (own : system.AllOwn)
    (step : ListenerStep) : (system.step step).AllOwn ↔ system.IngestsKnown step := by
  cases step with
  | ingest method checks =>
      rw [ListenerSystem.step, ListenerSystem.ingestNext, ListenerSystem.IngestsKnown]
      split
      · rename_i empty
        rw [empty]
        exact iff_of_true own fun _ none => absurd none (Option.not_mem_none _)
      · rename_i first rest next
        have known := (traced.queued method first (next ▸ List.mem_cons_self)).own_iff checks
        rw [next, ListenerSystem.AllOwn]
        constructor
        · intro all incoming isFirst
          cases isFirst
          exact known.mp (all _ (List.mem_append_right _ List.mem_cons_self))
        · intro all entry ingested
          rw [List.mem_append, List.mem_singleton] at ingested
          obtain old | rfl := ingested
          · exact own entry old
          · exact known.mpr (all first rfl)
  | setup method endpoint permissions bound =>
      rw [ListenerSystem.AllOwn, ingested_step _ (by intros; exact ListenerStep.noConfusion)]
      exact iff_of_true own trivial
  | connect listener peer holdsAny credentials =>
      rw [ListenerSystem.AllOwn, ingested_step _ (by intros; exact ListenerStep.noConfusion)]
      exact iff_of_true own trivial
  | receive connection message cloned =>
      rw [ListenerSystem.AllOwn, ingested_step _ (by intros; exact ListenerStep.noConfusion)]
      exact iff_of_true own trivial

/-- In all states of a run messages are ingested as their peers' own exactly where all that
are ingested have come from known peers. -/
theorem ListenerSystem.allOwn_iff (umask : BitVec 9) (steps : List ListenerStep) :
    (∀ before, before <+: steps →
        (Runs.run ListenerSystem.step (ListenerSystem.start umask) before).AllOwn) ↔
      Runs.Along ListenerSystem.step ListenerSystem.IngestsKnown (ListenerSystem.start umask)
        steps := by
  have exact_ (system : ListenerSystem) (step : ListenerStep)
      (inv : system.Traced ∧ system.AllOwn) :
      (system.step step).Traced ∧ (system.step step).AllOwn ↔ system.IngestsKnown step := by
    rw [← inv.1.allOwn_step inv.2 step]
    exact and_iff_right (inv.1.step step)
  have initial : (ListenerSystem.start umask).Traced ∧ (ListenerSystem.start umask).AllOwn :=
    ⟨ListenerSystem.traced_start umask, fun _ none => absurd none List.not_mem_nil⟩
  rw [Runs.along_iff exact_ steps initial]
  apply forall_congr'
  intro before
  apply imp_congr_right
  intro _
  have traced := Runs.run_invariant (fun _ step traced => traced.step step) before initial.1
  exact (and_iff_right traced).symm

end Traced

/-! ## Closed sockets -/

/-- A mask that leaves no right to write but that of the owner. -/
def MasksWrites (umask : BitVec 9) : Prop := umask.getLsbD 4 ∧ umask.getLsbD 1

/-- Only root overrides the modes of files. -/
def ListenerStep.Respects : ListenerStep → Prop
  | .connect _ peer _ _ => peer.override → peer.uid = 0
  | _ => True

/-- A socket that is open to all only where there is a list of permissions. -/
def TransportListener.Closed (listener : TransportListener) : Prop :=
  listener.permissions.isSome ∨ listener.mode.getLsbD 4 = false ∧ listener.mode.getLsbD 1 = false

structure ListenerSystem.Closed (system : ListenerSystem) : Prop where
  masks : MasksWrites system.umask
  listeners : ∀ listener ∈ system.listeners, listener.Closed
  connections : ∀ connection ∈ system.connections, connection.Known
  queued : ∀ method, ∀ incoming ∈ system.queue method, incoming.connection.Known

section Closed

variable {system : ListenerSystem}

theorem startListener_closed {umask : BitVec 9} (masks : MasksWrites umask) (method : StreamMethod)
    (endpoint : Ustr) (permissions : Option (List Ustr)) (pm : Bool) :
    (startListener umask method endpoint permissions pm).Closed := by
  cases permissions with
  | some permissions => exact .inl rfl
  | none =>
      right
      constructor
      · simp [startListener, masks.1]
      · simp [startListener, masks.2]

theorem TransportListener.Closed.accept_known {listener : TransportListener}
    (closed : listener.Closed) {peer : Peer} (respects : peer.override → peer.uid = 0)
    (lets : listener.lets peer) {holdsAny : Nat → List Ustr → Bool} {credentials : Bool} {connection : PeerConnection}
    (accepted : listener.accept holdsAny credentials peer = some connection) :
    connection.Known := by
  have same : connection.listener = listener ∧ connection.peer = peer := by
    rw [TransportListener.accept] at accepted
    split at accepted
    · split at accepted
      · split at accepted
        · cases accepted
          exact ⟨rfl, rfl⟩
        · cases accepted
      · cases accepted
        exact ⟨rfl, rfl⟩
    · cases accepted
      exact ⟨rfl, rfl⟩
  rw [PeerConnection.Known, same.1, same.2]
  obtain listed | ⟨group, others⟩ := closed
  · exact .inl listed
  · right
    rw [TransportListener.lets, group, others, Bool.or_eq_true] at lets
    obtain overrides | written := lets
    · exact respects overrides
    · split at written
      · assumption
      · simp at written

theorem ListenerSystem.closed_start {umask : BitVec 9} (masks : MasksWrites umask) :
    (ListenerSystem.start umask).Closed :=
  ⟨masks, fun _ none => absurd none List.not_mem_nil, fun _ none => absurd none List.not_mem_nil,
    fun _ _ none => absurd none List.not_mem_nil⟩

variable [SerdeJson]

theorem ListenerSystem.Closed.step (closed : system.Closed) {step : ListenerStep}
    (respects : step.Respects) : (system.step step).Closed := by
  cases step with
  | setup method endpoint permissions bound =>
      rw [ListenerSystem.step, ListenerSystem.setup]
      split
      · exact closed
      · refine ⟨closed.masks, ?_, closed.connections, closed.queued⟩
        intro listener known
        change listener ∈ if bound then _ else _ at known
        split at known
        · rw [List.mem_append, List.mem_singleton] at known
          obtain old | rfl := known
          · exact closed.listeners listener old
          · exact startListener_closed closed.masks _ _ _ _
        · exact closed.listeners listener known
  | connect listener peer holdsAny credentials =>
      rw [ListenerSystem.step, ListenerSystem.connect]
      split
      · rename_i listener found
        split
        · rename_i lets
          refine ⟨closed.masks, closed.listeners, ?_, closed.queued⟩
          intro connection known
          rw [List.mem_append, Option.mem_toList] at known
          obtain old | accepted := known
          · exact closed.connections connection old
          · exact (closed.listeners _ (List.mem_of_getElem? found)).accept_known respects lets
              accepted
        · exact closed
      · exact closed
  | receive connection message cloned =>
      rw [ListenerSystem.step, ListenerSystem.receive]
      split
      · rename_i connection found
        refine ⟨closed.masks, closed.listeners, closed.connections, ?_⟩
        intro method incoming queued
        change incoming ∈ if _ then _ else _ at queued
        split at queued
        · rw [List.mem_append, List.mem_singleton] at queued
          obtain old | rfl := queued
          · exact closed.queued method incoming old
          · exact closed.connections connection (List.mem_of_getElem? found)
        · exact closed.queued method incoming queued
      · exact closed
  | ingest method checks =>
      rw [ListenerSystem.step, ListenerSystem.ingestNext]
      split
      · exact closed
      · rename_i first rest next
        refine ⟨closed.masks, closed.listeners, closed.connections, ?_⟩
        intro other incoming queued
        change incoming ∈ if _ then _ else _ at queued
        split at queued
        · apply closed.queued method
          rw [next]
          exact List.mem_cons_of_mem _ queued
        · exact closed.queued other incoming queued

/-- With such a mask all peers are known, as long as only root overrides modes. -/
theorem ListenerSystem.ingestsKnown_of_closed {umask : BitVec 9} (masks : MasksWrites umask)
    {steps : List ListenerStep} (respects : ∀ step ∈ steps, step.Respects) :
    Runs.Along ListenerSystem.step ListenerSystem.IngestsKnown (ListenerSystem.start umask)
      steps := by
  have keeps (system : ListenerSystem) (step : ListenerStep) (closed : system.Closed)
      (respects : step.Respects) : (system.step step).Closed :=
    closed.step respects
  have known (system : ListenerSystem) (step : ListenerStep) (closed : system.Closed)
      (_ : step.Respects) : system.IngestsKnown step := by
    cases step with
    | ingest method checks =>
        intro incoming first
        exact closed.queued method incoming (List.mem_of_head? first)
    | _ => trivial
  exact (Runs.Along.of_forall respects).mono keeps known (ListenerSystem.closed_start masks)

end Closed

/-! ## An endpoint without a list -/

section Examples

open scoped Rind.Compact

/-- Only root may set the text. -/
def guardedChecks : IngestChecks where
  username _ := none
  holdsAny _ _ := false
  facetPermissions _ := some ["motd"]
  impulsePermissions _ := none

/-- A user of no permission connects to a socket that the mask leaves open, and sets the
text. -/
def openSocketRun : List ListenerStep :=
  [.setup .uds "tty" none true, .connect 0 ⟨1000, false, false⟩ (fun _ _ => false) true,
    .receive 0 ⟨.facet, some (.string "hello"), none, some "rind:motd", .set⟩ true,
    .ingest .uds guardedChecks]

/-- The message of the user counts as one of root. -/
theorem not_allOwn_open :
    ¬ (Runs.run ListenerSystem.step (ListenerSystem.start 0) openSocketRun).AllOwn := by
  have uids : (Runs.run ListenerSystem.step (ListenerSystem.start 0)
      openSocketRun).ingested.map (fun entry =>
        (entry.incoming.uid, entry.incoming.connection.peer.uid, entry.dispatched)) =
      [(0, 1000, [.setFacet "rind:motd" (some (.str "hello"))])] := by
    decide +kernel
  intro all
  have ingested := List.mem_map.mp (uids ▸ List.mem_singleton_self _)
  obtain ⟨entry, inside, same⟩ := ingested
  have uid : entry.incoming.uid = 0 := congrArg (fun fields => fields.1) same
  have peer : entry.incoming.connection.peer.uid = 1000 := congrArg (fun fields => fields.2.1) same
  have own := (all entry inside).1
  rw [uid, peer] at own
  exact absurd own (by decide)

end Examples

end Rind
