import Rind.Prog.Core
import Rind.Services.Runtime

/-!
# Sockets

The sockets the daemon listens on, and the registry that keeps services, sockets
and the other units side by side.  The units of one key form a list, where a
lookup of one type finds whatever stands last.
-/

namespace Rind

/-- The definition of a socket. -/
structure SocketMetadata where
  name : Ustr
  owner : Option Ustr
  startOn : Option (List FlowItem)
  stopOn : Option (List FlowItem)
  deriving DecidableEq, Repr

instance : NamedItem SocketMetadata := ⟨SocketMetadata.name⟩

structure Socket where
  metadata : SocketMetadata
  fd : Nat
  active : Bool
  deriving DecidableEq, Repr

/-- An instance of some type of unit. -/
inductive UnitInstance where
  | service (service : Service)
  | socket (socket : Socket)
  | other
  deriving DecidableEq, Repr

namespace UnitInstance

def asService : UnitInstance → Option Service
  | .service found => some found
  | _ => none

def asSocket : UnitInstance → Option Socket
  | .socket found => some found
  | _ => none

end UnitInstance

/-- The instances of all units by their keys. -/
abbrev UnitInstances : Type := AList fun _ : Ustr => List UnitInstance

/-- The tables of the socket runtime, the sockets that each owner has in the
`SocketRegistry`, and the descriptors that were closed so far. -/
structure SocketRuntime where
  instances : AList fun _ : Nat => Ustr
  owner : AList fun _ : Nat => Ustr
  paused : AList fun _ : Ustr => List Nat
  owners : AList fun _ : Ustr => List (Ustr × Nat)
  closed : List Nat

/-- All units, the host the services run on and the tables of the sockets. -/
structure Units where
  instances : UnitInstances
  host : Host
  sockets : SocketRuntime

/-- The units that are kept under a key. -/
def Units.entry (units : Units) (key : Ustr) : List UnitInstance :=
  (units.instances.lookup key).getD []

abbrev UnitProg : Type → Type := Prog Units CoreError

/-- `as_one_mut::<Service>`: the service that stands last under a key, and the units
before it. -/
def asOneService (key : Ustr) (instances : UnitInstances) :
    Except CoreError (List UnitInstance × Service) :=
  match instances.lookup key with
  | none => .error (.missingInstances key)
  | some entry =>
      match entry.getLast? with
      | none => .error (.missingInstances key)
      | some (.service service) => .ok (entry.dropLast, service)
      | some _ => .error (.typeMismatch "instance" "unkown")

/-- `uninstantiate_one::<Socket>`: take the entry of a key out, with the last
socket in it. -/
def uninstantiateSocket (key : Ustr) (instances : UnitInstances) :
    Except CoreError Socket × UnitInstances :=
  match instances.lookup key with
  | none => (.error (.missingInstances key), instances)
  | some entry =>
      match (entry.filterMap UnitInstance.asSocket).getLast? with
      | none => (.error .unknown, instances.erase key)
      | some socket => (.ok socket, instances.erase key)

/-- Close a socket and forget it. -/
def SocketRuntime.release (socket : Socket) (sockets : SocketRuntime) : SocketRuntime where
  instances := sockets.instances.erase socket.fd
  owner := sockets.owner.erase socket.fd
  paused :=
    match socket.metadata.owner with
    | none => sockets.paused
    | some owner =>
        match sockets.paused.lookup owner with
        | none => sockets.paused
        | some fds => sockets.paused.insert owner (fds.filter (· ≠ socket.fd))
  owners :=
    match socket.metadata.owner with
    | none => sockets.owners
    | some owner => sockets.owners.erase owner
  closed := sockets.closed ++ [socket.fd]

def stopSocket (definitions : MetadataRegistry SocketMetadata) (name : Ustr) : UnitProg Unit :=
  fun units =>
    match uninstantiateSocket (definitions.instanceKey "*" name) units.instances with
    | (.error error, instances) => some (.error error, { units with instances })
    | (.ok socket, instances) =>
        some (.ok (), { units with instances, sockets := units.sockets.release socket })

/-! ## The sockets under a key -/

/-- The sockets that are kept under a key. -/
def Units.socketsAt (units : Units) (key : Ustr) : List Socket :=
  (units.entry key).filterMap UnitInstance.asSocket

/-- The last socket under a key. -/
def Units.lastSocket (units : Units) (key : Ustr) : Option Socket :=
  (units.socketsAt key).getLast?

section Lookup

variable {definitions : MetadataRegistry SocketMetadata} {key : Ustr} {units final : Units}

theorem Units.mem_socketsAt {socket : Socket} :
    socket ∈ units.socketsAt key ↔ .socket socket ∈ units.entry key := by
  rw [Units.socketsAt, List.mem_filterMap]
  constructor
  · rintro ⟨unit, member, same⟩
    cases unit with
    | socket other =>
        cases same
        exact member
    | service _ => cases same
    | other => cases same
  · exact fun member => ⟨_, member, rfl⟩

/-- The sockets under some keys are gone, and the last of each is closed. -/
structure Released (keys : List Ustr) (units final : Units) : Prop where
  others : ∀ key ∉ keys, final.socketsAt key = units.socketsAt key
  gone : ∀ key ∈ keys, final.socketsAt key = []
  closed : final.sockets.closed =
    units.sockets.closed ++ keys.filterMap fun key => (units.lastSocket key).map Socket.fd

/-- Stopping a socket releases the one under its key, where there is one. -/
theorem stopSocket_cases {name : Ustr} {result : Except CoreError Unit}
    (ran : stopSocket definitions name units = some (result, final)) :
    (units.lastSocket (definitions.instanceKey "*" name) = none ∧ result ≠ .ok () ∧
      Released [] units final) ∨
    (units.lastSocket (definitions.instanceKey "*" name)).isSome ∧ result = .ok () ∧
      Released [definitions.instanceKey "*" name] units final := by
  simp only [stopSocket, uninstantiateSocket] at ran
  generalize definitions.instanceKey "*" name = key at ran ⊢
  cases found : units.instances.lookup key with
  | none =>
      simp only [found] at ran
      cases ran
      exact .inl ⟨by simp [Units.lastSocket, Units.socketsAt, Units.entry, found], by simp, fun _ _ => rfl,
        by simp, by simp⟩
  | some entry =>
      have erased (other : Ustr) (apart : other ≠ key) {sockets : SocketRuntime} :
          Units.socketsAt ⟨units.instances.erase key, units.host, sockets⟩ other =
            units.socketsAt other := by
        simp [Units.socketsAt, Units.entry, AList.lookup_erase_ne apart]
      have empty {sockets : SocketRuntime} :
          Units.socketsAt ⟨units.instances.erase key, units.host, sockets⟩ key = [] := by
        simp [Units.socketsAt, Units.entry]
      cases last : (entry.filterMap UnitInstance.asSocket).getLast? with
      | none =>
          simp only [found, last] at ran
          cases ran
          have none : units.lastSocket key = none := by
            rw [Units.lastSocket, Units.socketsAt, Units.entry, found]
            exact last
          refine .inl ⟨none, by simp, ?_, by simp, by simp⟩
          intro other _
          by_cases same : other = key
          · rw [same, empty, Units.socketsAt, Units.entry, found, Option.getD_some]
            exact (List.getLast?_eq_none_iff.mp last).symm
          · exact erased other same
      | some socket =>
          simp only [found, last] at ran
          cases ran
          have lastSocket : units.lastSocket key = some socket := by
            rw [Units.lastSocket, Units.socketsAt, Units.entry, found]
            exact last
          refine .inr ⟨by rw [lastSocket, Option.isSome_some], rfl, ?_, ?_, ?_⟩
          · intro other apart
            exact erased other (fun same => apart (by simp [same]))
          · intro other same
            rw [List.mem_singleton.mp same]
            exact empty
          · simp [lastSocket, SocketRuntime.release]

end Lookup

end Rind
