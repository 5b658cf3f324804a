import Mathlib.Data.BitVec
import Mathlib.Data.List.AList
import Rind.Data.Codec
import Rind.Data.Text

/-!
# The seat daemon

A client of the seat socket opens the seat, asks for devices and is sent their
descriptors.  One round of `run_client` reads a request, answers it and goes on
with the next one, or ends the connection.
-/

namespace Rind.Seatd

/-! ## Messages -/

def clientOpenSeat : Nat := 1
def clientCloseSeat : Nat := 2
def clientOpenDevice : Nat := 3
def clientCloseDevice : Nat := 4
def clientDisableSeat : Nat := 5
def clientSwitchSession : Nat := 6
def clientPing : Nat := 7

def serverOp (op : Nat) : Nat := 2 ^ 15 + op

def serverSeatOpened : Nat := serverOp 1
def serverSeatClosed : Nat := serverOp 2
def serverDeviceOpened : Nat := serverOp 3
def serverDeviceClosed : Nat := serverOp 4
def serverEnableSeat : Nat := serverOp 6
def serverPong : Nat := serverOp 7
def serverSessionSwitched : Nat := serverOp 8
def serverSeatDisabled : Nat := serverOp 9
def serverError : Nat := serverOp 0x7FFF

def errnoPerm : Nat := 1
def errnoNoEnt : Nat := 2
def errnoBadF : Nat := 9
def errnoBusy : Nat := 16
def errnoInval : Nat := 22
def errnoNoSys : Nat := 38
def errnoNotConn : Nat := 107

/-- Read a header and the payload it announces. -/
def readRequest (bytes : List UInt8) : Option (Nat × List UInt8 × List UInt8) :=
  if bytes.length < 4 then none
  else
    let opcode := Codec.fromLittleEndian (bytes.take 2)
    let size := Codec.fromLittleEndian ((bytes.drop 2).take 2)
    if bytes.length < 4 + size then none
    else some (opcode, (bytes.drop 4).take size, bytes.drop (4 + size))

/-! ## One round -/

inductive ClientState where
  | new | active | disabled | closed
  deriving DecidableEq, Repr

/-- What the loop keeps. A device id is an `i32`. -/
structure Client where
  state : ClientState
  devices : AList fun _ : BitVec 32 => String
  nextDeviceId : BitVec 32
  hasSeat : Bool

def Client.init : Client := ⟨.new, ∅, 1, false⟩

/-- What a round meets outside the program: the bytes in memory behind the payload,
the file system, and whether the answers can be sent. -/
structure World where
  behind : List UInt8
  realpath : List UInt8 → Option (List UInt8)
  openFile : String → Except Nat Unit
  dup : Except Nat Unit
  switchTo : BitVec 32 → Except Nat Unit
  send : Nat → Except Nat Unit

inductive Event where
  | replied (opcode : Nat) (payload : List UInt8)
  | opened (path : String)
  | added (id : BitVec 32)
  | sentDescriptor (id : BitVec 32) (path : String)
  deriving DecidableEq, Repr

/-- The loop goes on, or `run_client` returns. -/
inductive Outcome where
  | goesOn (client : Client)
  | ends (result : Except Nat Unit)

/-- Send an answer, the first of the round or a later one. -/
def respond (world : World) (index opcode : Nat) (payload : List UInt8) (next : Outcome) :
    List Event × Outcome :=
  match world.send index with
  | .ok () => ([.replied opcode payload], next)
  | .error errno => ([], .ends (.error errno))

def sendError (world : World) (errno : Nat) (next : Outcome) : List Event × Outcome :=
  respond world 0 serverError (Codec.littleEndian 4 errno) next

/-- `return send_error(..)` -/
def refuse (world : World) (errno : Nat) : List Event × Outcome :=
  sendError world errno (.ends (.ok ()))

/-- `realpath`: what is resolved is a C string, up to the first zero byte. -/
def realpath (world : World) (memory : List UInt8) : Option String := do
  let resolved ← world.realpath (memory.takeWhile (· != 0))
  String.fromUTF8? ⟨resolved.toArray⟩

/-- What an OPEN_DEVICE asks for. -/
inductive Requested where
  | refused (errno : Nat)
  | failed (errno : Nat)
  | path (canonical : String)
  deriving DecidableEq, Repr

/-- The path of the request is checked as text by its length, but handed on as the
place in memory where it begins. -/
def requestedPath (world : World) (payload : List UInt8) : Requested :=
  if payload.length < 2 then .refused errnoInval
  else
    let pathLen := Codec.fromLittleEndian (payload.take 2)
    if payload.length < 2 + pathLen then .refused errnoInval
    else
      match String.fromUTF8? ⟨((payload.drop 2).take pathLen).toArray⟩ with
      | none => .failed errnoInval
      | some _ =>
          match realpath world (payload.drop 2 ++ world.behind) with
          | none => .failed errnoNoEnt
          | some canonical => .path canonical

def openDevice (world : World) (client : Client) (payload : List UInt8) :
    List Event × Outcome :=
  if ¬ client.hasSeat ∨ client.state ≠ .active then refuse world errnoPerm
  else
    match requestedPath world payload with
    | .refused errno => refuse world errno
    | .failed errno => ([], .ends (.error errno))
    | .path canonical =>
        match world.openFile canonical with
        | .error errno => ([], .ends (.error errno))
        | .ok () =>
            match world.dup with
            | .error errno => ([.opened canonical], .ends (.error errno))
            | .ok () =>
                let id := client.nextDeviceId
                match world.send 0 with
                | .error errno => ([.opened canonical, .added id], .ends (.error errno))
                | .ok () =>
                    ([.opened canonical, .added id, .sentDescriptor id canonical],
                      .goesOn { client with
                        devices := client.devices.insert id canonical
                        nextDeviceId := id + 1 })

def openSeat (world : World) (client : Client) : List Event × Outcome :=
  if client.hasSeat then refuse world errnoBusy
  else
    match world.send 0 with
    | .error errno => ([], .ends (.error errno))
    | .ok () =>
        let seatName := "seat0\x00".toUTF8.toList
        let enabled := respond world 1 serverEnableSeat []
          (.goesOn { client with hasSeat := true, state := .active })
        (.replied serverSeatOpened (Codec.littleEndian 2 seatName.length ++ seatName) ::
          enabled.1, enabled.2)

def closeSeat (world : World) (client : Client) : List Event × Outcome :=
  if ¬ client.hasSeat then refuse world errnoNotConn
  else
    respond world 0 serverSeatClosed []
      (.goesOn { client with devices := ∅, hasSeat := false, state := .closed })

def closeDevice (world : World) (client : Client) (payload : List UInt8) :
    List Event × Outcome :=
  if ¬ client.hasSeat ∨ client.state ≠ .active then refuse world errnoPerm
  else if payload.length < 4 then refuse world errnoInval
  else
    let id := BitVec.ofNat 32 (Codec.fromLittleEndian (payload.take 4))
    match client.devices.lookup id with
    | none => refuse world errnoBadF
    | some _ =>
        respond world 0 serverDeviceClosed []
          (.goesOn { client with devices := client.devices.erase id })

def switchSession (world : World) (client : Client) (payload : List UInt8) :
    List Event × Outcome :=
  if ¬ client.hasSeat then refuse world errnoNotConn
  else if payload.length < 4 then refuse world errnoInval
  else
    let session := BitVec.ofNat 32 (Codec.fromLittleEndian (payload.take 4))
    if session.toInt ≤ 0 then refuse world errnoInval
    else
      match world.switchTo session with
      | .error errno => ([], .ends (.error errno))
      | .ok () => respond world 0 serverSessionSwitched [] (.goesOn client)

def disableSeat (world : World) (client : Client) : List Event × Outcome :=
  if ¬ client.hasSeat ∨ client.state ≠ .active then refuse world errnoPerm
  else respond world 0 serverSeatDisabled [] (.goesOn { client with state := .disabled })

/-- Answer a request, one round of `run_client`. -/
def serve (world : World) (client : Client) (opcode : Nat) (payload : List UInt8) :
    List Event × Outcome :=
  if opcode = clientOpenSeat then openSeat world client
  else if opcode = clientCloseSeat then closeSeat world client
  else if opcode = clientOpenDevice then openDevice world client payload
  else if opcode = clientCloseDevice then closeDevice world client payload
  else if opcode = clientSwitchSession then switchSession world client payload
  else if opcode = clientDisableSeat then disableSeat world client
  else if opcode = clientPing then respond world 0 serverPong [] (.goesOn client)
  else sendError world errnoNoSys (.goesOn client)

/-! ## The connection -/

/-- A round of the loop: the state at its head, the request and what it led to. -/
structure Round where
  client : Client
  world : World
  request : Option (Nat × List UInt8)
  events : List Event

/-- `run_client`, round by round, until the client has sent all of its bytes or is
turned away. -/
def runClient (worlds : Nat → World) : Nat → Nat → Client → List UInt8 → List Round
  | 0, _, _, _ => []
  | fuel + 1, index, client, bytes =>
      match readRequest bytes with
      | none => [⟨client, worlds index, none, []⟩]
      | some (opcode, payload, rest) =>
          let served := serve (worlds index) client opcode payload
          ⟨client, worlds index, some (opcode, payload), served.1⟩ ::
            match served.2 with
            | .goesOn client => runClient worlds fuel (index + 1) client rest
            | .ends _ => []

/-- A connection. -/
def connection (worlds : Nat → World) (bytes : List UInt8) : List Round :=
  runClient worlds (bytes.length + 1) 0 .init bytes

theorem readRequest_length {bytes payload rest : List UInt8} {opcode : Nat}
    (request : readRequest bytes = some (opcode, payload, rest)) : rest.length < bytes.length := by
  simp only [readRequest] at request
  split at request
  · cases request
  · split at request
    · cases request
    · cases request
      rw [List.length_drop]
      omega

/-- Fuel beyond the length of the stream changes nothing. -/
theorem runClient_enough {worlds : Nat → World} {fuel other index : Nat} {client : Client}
    {bytes : List UInt8} (enough : bytes.length < fuel) (otherEnough : bytes.length < other) :
    runClient worlds fuel index client bytes = runClient worlds other index client bytes := by
  induction fuel generalizing other index client bytes with
  | zero => exact absurd enough (Nat.not_lt_zero _)
  | succ fuel ih =>
      cases other with
      | zero => exact absurd otherEnough (Nat.not_lt_zero _)
      | succ other =>
          rw [runClient, runClient]
          cases request : readRequest bytes with
          | none => rfl
          | some parts =>
              obtain ⟨opcode, payload, rest⟩ := parts
              have shorter := readRequest_length request
              dsimp only
              cases (serve (worlds index) client opcode payload).2 with
              | ends result => rfl
              | goesOn next =>
                  have same : runClient worlds fuel (index + 1) next rest =
                      runClient worlds other (index + 1) next rest :=
                    ih (by omega) (by omega)
                  dsimp only
                  rw [same]

/-! ## What a round does -/

/-- The path that the event is about. -/
def Event.path? : Event → Option String
  | .opened path => some path
  | .sentDescriptor _ path => some path
  | _ => none

def Event.added? : Event → Option (BitVec 32)
  | .added id => some id
  | _ => none

/-- The path that a round opens, from what it meets. -/
def openedPath (world : World) (client : Client) (opcode : Nat) (payload : List UInt8) :
    Option String :=
  if opcode = clientOpenDevice ∧ client.hasSeat ∧ client.state = .active then
    match requestedPath world payload with
    | .path canonical => if world.openFile canonical = .ok () then some canonical else none
    | _ => none
  else none

/-- Whether a round takes a device id. -/
def addsDevice (world : World) (client : Client) (opcode : Nat) (payload : List UInt8) : Bool :=
  (openedPath world client opcode payload).isSome && decide (world.dup = .ok ())

/-- With a device or a working seat, the client has the seat. -/
def Client.SeatHeld (client : Client) : Prop :=
  client.devices ≠ ∅ ∨ client.state = .active ∨ client.state = .disabled → client.hasSeat

/-- What a round leads to, apart from answers. -/
structure Serves (world : World) (client : Client) (opcode : Nat) (payload : List UInt8)
    (served : List Event × Outcome) : Prop where
  opens (path : String) : openedPath world client opcode payload = some path ↔
    .opened path ∈ served.1
  sends (path : String) (id : BitVec 32) : .sentDescriptor id path ∈ served.1 →
    openedPath world client opcode payload = some path
  adds : served.1.filterMap Event.added? =
    if addsDevice world client opcode payload then [client.nextDeviceId] else []
  counts (next : Client) : served.2 = .goesOn next → next.nextDeviceId = client.nextDeviceId +
    BitVec.ofNat 32 (addsDevice world client opcode payload).toNat
  holds (next : Client) : served.2 = .goesOn next → client.SeatHeld → next.SeatHeld

section Serves

variable {world : World} {client : Client} {opcode : Nat} {payload : List UInt8}

/-- An outcome that takes no id and leaves no device without a seat. -/
def Outcome.Harmless (client : Client) (outcome : Outcome) : Prop :=
  ∀ next, outcome = .goesOn next →
    next.nextDeviceId = client.nextDeviceId ∧ (client.SeatHeld → next.SeatHeld)

theorem Outcome.harmless_ends (client : Client) (result : Except Nat Unit) :
    (Outcome.ends result).Harmless client := by
  intro next goesOn
  cases goesOn

theorem Outcome.harmless_same (client : Client) : (Outcome.goesOn client).Harmless client := by
  intro next goesOn
  cases goesOn
  exact ⟨rfl, id⟩

/-- A round that opens nothing and only answers. -/
theorem Serves.of_answers {served : List Event × Outcome}
    (closed : openedPath world client opcode payload = none)
    (answers : ∀ event ∈ served.1, ∃ op answer, event = .replied op answer)
    (harmless : served.2.Harmless client) : Serves world client opcode payload served := by
  have adds : addsDevice world client opcode payload = false := by
    rw [addsDevice, closed, Option.isSome_none, Bool.false_and]
  constructor
  · intro path
    constructor
    · intro opens
      rw [closed] at opens
      cases opens
    · intro opened
      obtain ⟨op, answer, same⟩ := answers _ opened
      cases same
  · intro path id sent
    obtain ⟨op, answer, same⟩ := answers _ sent
    cases same
  · rw [adds]
    apply List.filterMap_eq_nil_iff.mpr
    intro event inside
    obtain ⟨op, answer, rfl⟩ := answers event inside
    rfl
  · intro next goesOn
    rw [(harmless next goesOn).1, adds]
    exact (BitVec.add_zero _).symm
  · intro next goesOn
    exact (harmless next goesOn).2

theorem Serves.respond (closed : openedPath world client opcode payload = none)
    (index op : Nat) (answer : List UInt8) {next : Outcome} (harmless : next.Harmless client) :
    Serves world client opcode payload (respond world index op answer next) := by
  rw [Seatd.respond]
  cases world.send index with
  | ok _ =>
      apply Serves.of_answers closed _ harmless
      intro event inside
      exact ⟨op, answer, List.mem_singleton.mp inside⟩
  | error errno =>
      apply Serves.of_answers closed _ (Outcome.harmless_ends _ _)
      intro event inside
      exact absurd inside List.not_mem_nil

theorem Serves.refuse (closed : openedPath world client opcode payload = none) (errno : Nat) :
    Serves world client opcode payload (refuse world errno) :=
  Serves.respond closed 0 _ _ (Outcome.harmless_ends _ _)

theorem Serves.fails (closed : openedPath world client opcode payload = none) (errno : Nat) :
    Serves world client opcode payload ([], .ends (.error errno)) := by
  apply Serves.of_answers closed _ (Outcome.harmless_ends _ _)
  intro event inside
  exact absurd inside List.not_mem_nil

theorem serves_openDevice :
    Serves world client clientOpenDevice payload (openDevice world client payload) := by
  rw [openDevice]
  split
  · rename_i barred
    apply Serves.refuse
    rw [openedPath, if_neg]
    rintro ⟨_, hasSeat, active⟩
    cases barred with
    | inl noSeat => exact noSeat hasSeat
    | inr inactive => exact inactive active
  · rename_i admitted
    rw [not_or, not_not, not_not] at admitted
    have opens : openedPath world client clientOpenDevice payload =
        match requestedPath world payload with
        | .path canonical => if world.openFile canonical = .ok () then some canonical else none
        | _ => none := if_pos ⟨rfl, admitted⟩
    cases requested : requestedPath world payload with
    | refused errno =>
        rw [requested] at opens
        exact Serves.refuse opens errno
    | failed errno =>
        rw [requested] at opens
        exact Serves.fails opens errno
    | path canonical =>
        rw [requested] at opens
        dsimp only at opens ⊢
        cases file : world.openFile canonical with
        | error errno =>
            rw [file, if_neg (by simp)] at opens
            exact Serves.fails opens errno
        | ok _ =>
            rw [file, if_pos rfl] at opens
            have opensOnly (path : String) (events : List Event)
                (same : ∀ other, .opened other ∈ .opened canonical :: events ↔ other = canonical) :
                openedPath world client clientOpenDevice payload = some path ↔
                  .opened path ∈ .opened canonical :: events := by
              rw [opens, same, Option.some.injEq, eq_comm]
            cases copied : world.dup with
            | error errno =>
                have adds : addsDevice world client clientOpenDevice payload = false := by
                  rw [addsDevice, copied]
                  simp
                constructor
                · intro path
                  apply opensOnly
                  simp
                · simp
                · rw [adds]
                  rfl
                · intro next goesOn
                  cases goesOn
                · intro next goesOn
                  cases goesOn
            | ok _ =>
                have adds : addsDevice world client clientOpenDevice payload = true := by
                  rw [addsDevice, copied, opens]
                  rfl
                dsimp only
                cases world.send 0 with
                | error errno =>
                    constructor
                    · intro path
                      apply opensOnly
                      simp
                    · simp
                    · rw [adds]
                      rfl
                    · intro next goesOn
                      cases goesOn
                    · intro next goesOn
                      cases goesOn
                | ok _ =>
                    constructor
                    · intro path
                      apply opensOnly
                      simp
                    · intro path id sent
                      have same : id = client.nextDeviceId ∧ path = canonical := by simpa using sent
                      rw [opens, same.2]
                    · rw [adds]
                      rfl
                    · intro next goesOn
                      cases goesOn
                      rw [adds]
                      rfl
                    · intro next goesOn held _
                      cases goesOn
                      exact admitted.1

theorem serves_openSeat (closed : openedPath world client opcode payload = none) :
    Serves world client opcode payload (openSeat world client) := by
  rw [openSeat]
  split
  · exact Serves.refuse closed _
  · cases world.send 0 with
    | error errno => exact Serves.fails closed errno
    | ok _ =>
        dsimp only
        rw [respond]
        cases world.send 1 with
        | error errno =>
            apply Serves.of_answers closed _ (Outcome.harmless_ends _ _)
            intro event inside
            exact ⟨_, _, List.mem_singleton.mp inside⟩
        | ok _ =>
            apply Serves.of_answers closed
            · intro event inside
              rcases List.mem_cons.mp inside with rfl | inside
              · exact ⟨_, _, rfl⟩
              · exact ⟨_, _, List.mem_singleton.mp inside⟩
            · intro next goesOn
              cases goesOn
              exact ⟨rfl, fun _ _ => rfl⟩

theorem serves_closeSeat (closed : openedPath world client opcode payload = none) :
    Serves world client opcode payload (closeSeat world client) := by
  rw [closeSeat]
  split
  · exact Serves.refuse closed _
  · apply Serves.respond closed
    intro next goesOn
    cases goesOn
    exact ⟨rfl, fun _ held => by simp at held⟩

theorem serves_closeDevice (closed : openedPath world client opcode payload = none) :
    Serves world client opcode payload (closeDevice world client payload) := by
  rw [closeDevice]
  split
  · exact Serves.refuse closed _
  · rename_i admitted
    rw [not_or, not_not] at admitted
    split
    · exact Serves.refuse closed _
    · dsimp only
      split
      · exact Serves.refuse closed _
      · apply Serves.respond closed
        intro next goesOn
        cases goesOn
        exact ⟨rfl, fun _ _ => admitted.1⟩

theorem serves_switchSession (closed : openedPath world client opcode payload = none) :
    Serves world client opcode payload (switchSession world client payload) := by
  rw [switchSession]
  split
  · exact Serves.refuse closed _
  · split
    · exact Serves.refuse closed _
    · dsimp only
      split
      · exact Serves.refuse closed _
      · split
        · exact Serves.fails closed _
        · exact Serves.respond closed _ _ _ (Outcome.harmless_same client)

theorem serves_disableSeat (closed : openedPath world client opcode payload = none) :
    Serves world client opcode payload (disableSeat world client) := by
  rw [disableSeat]
  split
  · exact Serves.refuse closed _
  · rename_i admitted
    rw [not_or, not_not] at admitted
    apply Serves.respond closed
    intro next goesOn
    cases goesOn
    exact ⟨rfl, fun _ _ => admitted.1⟩

/-- Every round does what its request may do and no more. -/
theorem serves (world : World) (client : Client) (opcode : Nat) (payload : List UInt8) :
    Serves world client opcode payload (serve world client opcode payload) := by
  by_cases device : opcode = clientOpenDevice
  · subst device
    exact serves_openDevice
  · have closed : openedPath world client opcode payload = none := by
      rw [openedPath, if_neg fun other => device other.1]
    rw [serve]
    split
    · exact serves_openSeat closed
    · split
      · exact serves_closeSeat closed
      · split
        · exact serves_closeDevice closed
        · split
          · exact serves_switchSession closed
          · split
            · exact serves_disableSeat closed
            · split
              · exact Serves.respond closed _ _ _ (Outcome.harmless_same client)
              · exact Serves.respond closed _ _ _ (Outcome.harmless_same client)

end Serves

/-! ## Whole connections -/

/-- The path lies under the directory of the devices. -/
def UnderDev (path : String) : Prop := Text.startsWith path "/dev/"

instance : DecidablePred UnderDev := fun path =>
  inferInstanceAs (Decidable (Text.startsWith path "/dev/" = true))

/-- A path is opened, and its descriptor sent, only for an active client with the
seat that asked for a device, and only under `/dev`. -/
def Round.Proper (round : Round) : Prop :=
  ∀ event ∈ round.events, ∀ path, event.path? = some path →
    (∃ payload, round.request = some (clientOpenDevice, payload)) ∧
      round.client.hasSeat ∧ round.client.state = .active ∧ UnderDev path

/-- The device ids of a connection. -/
def deviceIds (rounds : List Round) : List (BitVec 32) :=
  rounds.flatMap fun round => round.events.filterMap Event.added?

def Guarded (rounds : List Round) : Prop :=
  (∀ round ∈ rounds, round.Proper) ∧ (∀ round ∈ rounds, round.client.SeatHeld) ∧
    (deviceIds rounds).Nodup

/-- The path that a round opens. -/
def Round.opens (round : Round) : Option String :=
  round.request.bind fun request =>
    openedPath round.world round.client request.1 request.2

def Round.adds (round : Round) : Bool :=
  round.request.any fun request => addsDevice round.world round.client request.1 request.2

section Connection

variable {worlds : Nat → World} {fuel index : Nat} {client : Client} {bytes : List UInt8}

/-- Each round is one of `run_client`. -/
theorem mem_runClient {round : Round}
    (inside : round ∈ runClient worlds fuel index client bytes) :
    round.request = none ∧ round.events = [] ∨
      ∃ opcode payload, round.request = some (opcode, payload) ∧
        round.events = (serve round.world round.client opcode payload).1 := by
  induction fuel generalizing index client bytes with
  | zero => exact absurd inside List.not_mem_nil
  | succ fuel ih =>
      rw [runClient] at inside
      cases request : readRequest bytes with
      | none =>
          rw [request] at inside
          rw [List.mem_singleton.mp inside]
          exact .inl ⟨rfl, rfl⟩
      | some parts =>
          obtain ⟨opcode, payload, rest⟩ := parts
          rw [request] at inside
          rcases List.mem_cons.mp inside with rfl | later
          · exact .inr ⟨opcode, payload, rfl, rfl⟩
          · cases outcome : (serve (worlds index) client opcode payload).2 with
            | ends result =>
                rw [outcome] at later
                exact absurd later List.not_mem_nil
            | goesOn next =>
                rw [outcome] at later
                exact ih later

/-- The seat is held at the head of every round. -/
theorem seatHeld_runClient (held : client.SeatHeld) :
    ∀ round ∈ runClient worlds fuel index client bytes, round.client.SeatHeld := by
  induction fuel generalizing index client bytes with
  | zero =>
      intro round inside
      exact absurd inside List.not_mem_nil
  | succ fuel ih =>
      intro round inside
      rw [runClient] at inside
      cases request : readRequest bytes with
      | none =>
          rw [request] at inside
          rw [List.mem_singleton.mp inside]
          exact held
      | some parts =>
          obtain ⟨opcode, payload, rest⟩ := parts
          rw [request] at inside
          rcases List.mem_cons.mp inside with rfl | later
          · exact held
          · cases outcome : (serve (worlds index) client opcode payload).2 with
            | ends result =>
                rw [outcome] at later
                exact absurd later List.not_mem_nil
            | goesOn next =>
                rw [outcome] at later
                exact ih ((serves _ _ _ _).holds next outcome held) round later

/-- Numbers from some number on. -/
def idsFrom (first : BitVec 32) (count : Nat) : List (BitVec 32) :=
  (List.range count).map fun index => first + BitVec.ofNat 32 index

theorem idsFrom_succ (first : BitVec 32) (count : Nat) :
    idsFrom first (count + 1) = first :: idsFrom (first + 1) count := by
  rw [idsFrom, idsFrom, List.range_succ_eq_map, List.map_cons, List.map_map]
  congr 1
  · exact BitVec.add_zero _
  · apply List.map_congr_left
    intro index _
    rw [Function.comp_apply, Nat.succ_eq_add_one, Nat.add_comm, BitVec.ofNat_add,
      BitVec.add_assoc]
    rfl

/-- Numbers of 32 bits come again after all of them have come. -/
theorem idsFrom_nodup_iff (first : BitVec 32) (count : Nat) :
    (idsFrom first count).Nodup ↔ count ≤ 2 ^ 32 := by
  constructor
  · intro nodup
    by_contra more
    have same : first + BitVec.ofNat 32 0 = first + BitVec.ofNat 32 (2 ^ 32) := by
      congr 1
    have equal := List.inj_on_of_nodup_map nodup (List.mem_range.mpr (by omega))
      (List.mem_range.mpr (by omega)) same
    cases equal
  · intro few
    apply List.nodup_range.map_on
    intro left isLeft right isRight same
    have leftFew := List.mem_range.mp isLeft
    have rightFew := List.mem_range.mp isRight
    have numbers := congrArg BitVec.toNat (add_left_cancel same)
    rwa [BitVec.toNat_ofNat, BitVec.toNat_ofNat, Nat.mod_eq_of_lt (by omega),
      Nat.mod_eq_of_lt (by omega)] at numbers

/-- The ids are counted up from the first. -/
theorem deviceIds_runClient :
    deviceIds (runClient worlds fuel index client bytes) =
      idsFrom client.nextDeviceId
        ((runClient worlds fuel index client bytes).countP Round.adds) := by
  induction fuel generalizing index client bytes with
  | zero => rfl
  | succ fuel ih =>
      rw [runClient]
      cases request : readRequest bytes with
      | none => rfl
      | some parts =>
          obtain ⟨opcode, payload, rest⟩ := parts
          have round := serves (worlds index) client opcode payload
          have counted (rest : List Round) (next : BitVec 32)
              (follows : rest ≠ [] → next = client.nextDeviceId +
                BitVec.ofNat 32 (addsDevice (worlds index) client opcode payload).toNat)
              (ids : deviceIds rest = idsFrom next (rest.countP Round.adds)) :
              deviceIds (⟨client, worlds index, some (opcode, payload),
                  (serve (worlds index) client opcode payload).1⟩ :: rest) =
                idsFrom client.nextDeviceId ((⟨client, worlds index, some (opcode, payload),
                  (serve (worlds index) client opcode payload).1⟩ :: rest).countP Round.adds) := by
            have adds : Round.adds ⟨client, worlds index, some (opcode, payload),
                (serve (worlds index) client opcode payload).1⟩ =
                  addsDevice (worlds index) client opcode payload := rfl
            rw [deviceIds, List.flatMap_cons, ← deviceIds, ids, round.adds, List.countP_cons, adds]
            cases takes : addsDevice (worlds index) client opcode payload with
            | false =>
                rw [takes] at follows
                by_cases none : rest = []
                · subst none
                  rfl
                · rw [follows none]
                  simp
            | true =>
                rw [takes] at follows
                rw [if_pos rfl, if_pos rfl, idsFrom_succ]
                by_cases none : rest = []
                · subst none
                  rfl
                · rw [follows none]
                  rfl
          dsimp only
          cases outcome : (serve (worlds index) client opcode payload).2 with
          | ends result => exact counted [] 0 (fun some => absurd rfl some) rfl
          | goesOn next => exact counted _ _ (fun _ => round.counts next outcome) ih

end Connection

/-- A connection is guarded exactly when each path it opens lies under `/dev`, and no
more devices are opened than there are ids. -/
theorem guarded_iff (worlds : Nat → World) (bytes : List UInt8) :
    Guarded (connection worlds bytes) ↔
      (∀ round ∈ connection worlds bytes, ∀ path, round.opens = some path → UnderDev path) ∧
        (connection worlds bytes).countP Round.adds ≤ 2 ^ 32 := by
  rw [Guarded, connection, deviceIds_runClient, idsFrom_nodup_iff]
  have held : Client.init.SeatHeld := by
    rintro (device | active | disabled)
    · exact absurd rfl device
    · cases active
    · cases disabled
  constructor
  · rintro ⟨proper, _, few⟩
    refine ⟨fun round inside path opens => ?_, few⟩
    rcases mem_runClient inside with ⟨none, _⟩ | ⟨opcode, payload, request, events⟩
    · rw [Round.opens, none] at opens
      cases opens
    · rw [Round.opens, request] at opens
      have opened := ((serves _ _ _ _).opens path).mp opens
      rw [← events] at opened
      exact (proper round inside _ opened path rfl).2.2.2
  · rintro ⟨under, few⟩
    refine ⟨fun round inside event isEvent path about => ?_, seatHeld_runClient held, few⟩
    rcases mem_runClient inside with ⟨_, none⟩ | ⟨opcode, payload, request, events⟩
    · rw [none] at isEvent
      exact absurd isEvent List.not_mem_nil
    · rw [events] at isEvent
      have opens : openedPath round.world round.client opcode payload = some path := by
        cases event with
        | replied op answer => cases about
        | added id => cases about
        | opened other =>
            cases about
            exact ((serves _ _ _ _).opens _).mpr isEvent
        | sentDescriptor id other =>
            cases about
            exact (serves _ _ _ _).sends _ _ isEvent
      have underDev := under round inside path (by rw [Round.opens, request]; exact opens)
      rw [openedPath] at opens
      split at opens
      · rename_i admitted
        exact ⟨⟨payload, by rw [request, admitted.1]⟩, admitted.2.1, admitted.2.2, underDev⟩
      · cases opens

/-! ## A file outside the directory of the devices -/

/-- Every file can be opened, and no path is a link. -/
def plainWorld : World where
  behind := []
  realpath path := some path
  openFile _ := .ok ()
  dup := .ok ()
  switchTo _ := .ok ()
  send _ := .ok ()

/-- Open the seat, then the file of the passwords. -/
def shadowBytes : List UInt8 :=
  [1, 0, 0, 0, 3, 0, 14, 0, 12, 0] ++ "/etc/shadow\x00".toUTF8.toList

theorem not_guarded_shadow : ¬ Guarded (connection (fun _ => plainWorld) shadowBytes) := by
  have sent : ∃ round ∈ connection (fun _ => plainWorld) shadowBytes,
      .sentDescriptor 1 "/etc/shadow" ∈ round.events := by
    decide +kernel
  obtain ⟨round, inside, isSent⟩ := sent
  intro guarded
  have under := (guarded.1 round inside _ isSent "/etc/shadow" rfl).2.2.2
  exact absurd under (by decide)

end Rind.Seatd
