import Rind.Core.Pam
import Rind.Core.Permissions
import Rind.Flow.Impulse
import Rind.Flow.Restore
import Rind.Ipc.Message
import Rind.Prog.Checks
import Rind.Services.Sockets

/-!
# The daemon

What the handlers of clients' messages read and change.  A handler is a program over
the daemon: it replies, or fails with an error that becomes the reply, or it panics and
takes the daemon with it.
-/

namespace Rind.Ipc

/-! ## Units -/

structure ServiceDefinition extends ServiceMetadata where
  description : Option String
  managedBy : Option (List Ustr)

instance : NamedItem ServiceDefinition := ⟨fun definition => definition.name⟩

structure SocketDefinition extends SocketMetadata where
  listen : String
  /-- The name of the type. -/
  kind : String
  trigger : Option (List Ustr)
  managedBy : Option (List Ustr)

instance : NamedItem SocketDefinition := ⟨fun definition => definition.name⟩

structure MountMetadata where
  source : Option Ustr
  target : Ustr
  fstype : Option Ustr
  deriving DecidableEq, Repr

instance : NamedItem MountMetadata := ⟨MountMetadata.target⟩

inductive NetworkMethod where
  | dhcp
  | static
  | none
  deriving DecidableEq, Repr

structure NetworkConfigMetadata where
  name : Ustr
  method : NetworkMethod
  deriving DecidableEq, Repr

instance : NamedItem NetworkConfigMetadata := ⟨NetworkConfigMetadata.name⟩

/-- The definitions of each type, the groups of each page with their descriptions, and the
instances. -/
structure UnitRegistry where
  groups : AList fun _ : Ustr => AList fun _ : Ustr => Option String
  services : MetadataRegistry ServiceDefinition
  sockets : MetadataRegistry SocketDefinition
  facets : MetadataRegistry FlowFacetMetadata
  impulses : MetadataRegistry FlowImpulseMetadata
  mounts : MetadataRegistry MountMetadata
  networks : MetadataRegistry NetworkConfigMetadata
  instances : UnitInstances

/-! ## State -/

/-- The handlers that messages can be registered with. -/
inductive IpcHandler where
  | login
  | logout
  | run0
  | start
  | stop
  | startSocket
  | stopSocket
  | startUnknown
  | stopUnknown
  | list
  | set
  | remove
  | createScope
  | destroyScope
  | showPermission
  | grantPermission
  | revokePermission
  | reloadUnits
  | reboot
  | softReboot
  | shutdown
  | network
  | seat
  deriving DecidableEq, Repr

structure IpcSource where
  handler : IpcHandler
  perms : PermissionExpr

abbrev IpcSourcemap : Type := AList fun _ : String => IpcSource

inductive LifecycleAction where
  | reloadUnits
  | softReboot
  | reboot
  | shutdown
  deriving DecidableEq, Repr

/-- What is dispatched to the runtimes. -/
inductive RuntimeCommand where
  | login (username seat : Ustr) (sessionId : UInt64)
  | logout (sessionId : UInt64) (username : Ustr) (seat : Option Ustr)
  | service (command : ServiceDispatch)
  | startSocket (name : Ustr)
  | stopSocket (name : Ustr)
  | seatTake (seat : Ustr)
  | seatReturn (seat : Ustr)
  | seatActivate (seat : Ustr)
  | flow (action : Dispatched)
  deriving DecidableEq, Repr

/-- A password that was checked for a request of a user, from a process with a parent. -/
structure Authentication where
  uid : UInt32
  parent : Int32
  time : Nat
  deriving DecidableEq, Repr

/-- The state of the daemon. A singleton that has not been made yet is `none`. -/
structure Daemon where
  sources : Option IpcSourcemap
  permissions : Option PermissionStore
  /-- What was written to the file of the permissions last. -/
  permissionFile : Option (List UInt8)
  pam : Option PamHandle
  sessionIdCounter : UInt64
  /-- When a password was checked last, for processes with a parent. -/
  run0Queue : Option (AList fun _ : Int32 => Nat)
  globalScopes : ScopeStore
  scopeSpecs : AList fun _ : Ustr => ScopeInfo
  scopes : Option ScopeStore
  registry : UnitRegistry
  facets : Option Facets
  files : Files
  heap : Option VariableHeap
  lifecycle : List LifecycleAction
  commands : List RuntimeCommand
  reloadStatic : Bool
  /-- The passwords that were checked for run0, the last one first. The daemon itself does
  not keep them. -/
  authentications : List Authentication

/-! ## The outside -/

/-- The readings of the clock while a request is handled, in nanoseconds. -/
structure Clock where
  checked : Nat
  start : Nat
  finish : Nat
  recorded : Nat
  ordered : start ≤ finish

/-- A call of `pam_authenticate` while a request is handled. -/
def Clock.call (clock : Clock) (username password : String) : PamCall :=
  ⟨username, password, clock.start, clock.finish, clock.ordered⟩

/-- A process in `/proc`: its directory, what its descriptors refer to, and its command. -/
structure ProcessEntry where
  directory : String
  descriptors : Option (List String)
  comm : Option String

/-- The files in `/proc` that are read, where they can be read. -/
structure ProcFs where
  status : Int32 → Except String String
  processes : Option (List ProcessEntry)
  tcp : Option String
  udp : Option String
  mountinfo : Option String

/-- What the calls that bring an interface up or down return. -/
structure InterfaceCalls where
  socket : Bool
  getFlags : Bool
  setFlags : Bool

/-- What the handlers get from outside while they handle a request. -/
structure Env where
  format : RmpSerde
  crypt : Crypt
  clock : Clock
  /-- The days since the epoch. -/
  today : Int
  /-- `std::env::var` -/
  environment : String → Option String
  proc : ProcFs
  interface : InterfaceCalls
  /-- Whether the file of the permissions can be written. -/
  permissionWrite : Except String Unit
  layout : PersistenceLayout
  /-- Whether the extensions are there, and those of the networking plugin among them. -/
  extensions : Option Bool
  /-- The text of a string with quotes and escapes. -/
  debug : String → String

/-! ## Handlers -/

inductive Failure where
  | error (error : CoreError)
  | panic
  deriving DecidableEq, Repr

def Failure.IsPanic (failure : Failure) : Prop := failure = .panic

abbrev Handler (α : Type) : Type := Prog Daemon Failure α

namespace Handler

variable {α : Type}

def throw (error : CoreError) : Handler α := Prog.fail (.error error)

def denied : Handler α := throw .permissionDenied

/-- `ok_or` -/
def okOr (error : CoreError) (found : Option α) : Handler α := Prog.orFail (.error error) found

/-- A singleton, or an error where it has not been made. -/
def singleton (error : CoreError) (view : Daemon → Option α) : Handler α :=
  Prog.demand (.error error) view

/-- `unwrap` of an option, and indexing into a list. -/
def unwrap (found : Option α) : Handler α := Prog.orFail .panic found

/-- `?` -/
def lift (outcome : Except CoreError α) : Handler α :=
  Prog.ofExcept (outcome.mapError Failure.error)

/-- `parse_payload` with its error as a custom one. -/
def parse (reader : Reader α) (msg : Message) : Handler α :=
  lift ((msg.parsePayload reader).mapError CoreError.custom)

def dispatch (command : RuntimeCommand) : Handler Unit :=
  Prog.change fun daemon => { daemon with commands := daemon.commands ++ [command] }

def request (action : LifecycleAction) : Handler Unit :=
  Prog.change fun daemon => { daemon with lifecycle := daemon.lifecycle ++ [action] }

/-- The permission store, or an empty one. -/
def permissionStore : Handler PermissionStore :=
  Prog.read fun daemon => daemon.permissions.getD (.new .empty)

end Handler

/-! ### Rules -/

section Rules

variable {α : Type} {error : CoreError}

theorem Handler.reads_throw : Prog.Reads (Handler.throw error : Handler α) := .fail _

theorem Handler.reads_denied : Prog.Reads (Handler.denied : Handler α) := .fail _

theorem Handler.reads_okOr (found : Option α) : Prog.Reads (Handler.okOr error found) :=
  .orFail _ _

theorem Handler.reads_singleton (view : Daemon → Option α) :
    Prog.Reads (Handler.singleton error view) := .demand _ _

theorem Handler.reads_unwrap (found : Option α) : Prog.Reads (Handler.unwrap found) :=
  .orFail _ _

theorem Handler.reads_lift (outcome : Except CoreError α) : Prog.Reads (Handler.lift outcome) :=
  .ofExcept _

theorem Handler.reads_parse (reader : Reader α) (msg : Message) :
    Prog.Reads (Handler.parse reader msg) := reads_lift _

theorem Handler.reads_permissionStore : Prog.Reads Handler.permissionStore := .read _

variable {β : Type} (next : α → Handler β) (daemon : Daemon)

@[simp] theorem Handler.run_okOr_some_bind (value : α) :
    (Handler.okOr error (some value) >>= next) daemon = next value daemon := rfl

@[simp] theorem Handler.run_okOr_none_bind :
    (Handler.okOr error none >>= next) daemon = some (.error (.error error), daemon) := rfl

@[simp] theorem Handler.run_singleton_bind (view : Daemon → Option α) :
    (Handler.singleton error view >>= next) daemon =
      (Handler.okOr error (view daemon) >>= next) daemon := rfl

@[simp] theorem Handler.run_lift_ok_bind (value : α) :
    (Handler.lift (.ok value) >>= next) daemon = next value daemon := rfl

@[simp] theorem Handler.run_lift_error_bind :
    (Handler.lift (.error error) >>= next) daemon = some (.error (.error error), daemon) := rfl

variable {next daemon}

theorem Handler.run_parse_bind {reader : Reader α} {msg : Message} {payload : α}
    (parsed : msg.parsePayload reader = .ok payload) :
    (Handler.parse reader msg >>= next) daemon = next payload daemon := by
  rw [Handler.parse, parsed]
  rfl

theorem Handler.run_parse_error_bind {reader : Reader α} {msg : Message} {err : String}
    (failed : msg.parsePayload reader = .error err) :
    (Handler.parse reader msg >>= next) daemon = some (.error (.error (.custom err)), daemon) := by
  rw [Handler.parse, failed]
  rfl

end Rules

/-! ## A daemon at rest -/

/-- A format that reads no bytes and writes none. -/
def RmpSerde.mute : RmpSerde where
  list _ := .error "invalid type"
  ss _ := .error "invalid type"
  run0Auth _ := .error "invalid type"
  login _ := .error "invalid type"
  logout _ := .error "invalid type"
  network _ := .error "invalid type"
  scopeCreate _ := .error "invalid type"
  scopeDestroy _ := .error "invalid type"
  permission _ := .error "invalid type"
  seat _ := .error "invalid type"
  flag _ := .error "invalid type"
  write _ := []

/-- An outside in which no file can be read, no call succeeds and no password is right. -/
def Env.bare : Env where
  format := .mute
  crypt := ⟨fun _ _ => false, fun _ _ => false, fun _ _ => false⟩
  clock := ⟨0, 0, 0, 0, le_rfl⟩
  today := 0
  environment _ := none
  proc := ⟨fun _ => .error "No such file or directory", none, none, none, none⟩
  interface := ⟨false, false, false⟩
  permissionWrite := .error "No such file or directory"
  layout := defaultLayout
  extensions := none
  debug text := text

/-- A daemon without units, in which no singleton has been made. -/
def Daemon.bare : Daemon where
  sources := none
  permissions := none
  permissionFile := none
  pam := none
  sessionIdCounter := 1
  run0Queue := none
  globalScopes := .empty
  scopeSpecs := ∅
  scopes := none
  registry :=
    { groups := ∅, services := ⟨∅, none⟩, sockets := ⟨∅, none⟩, facets := ⟨∅, none⟩
      impulses := ⟨∅, none⟩, mounts := ⟨∅, none⟩, networks := ⟨∅, none⟩, instances := ∅ }
  facets := none
  files := ∅
  heap := none
  lifecycle := []
  commands := []
  reloadStatic := false
  authentications := []

end Rind.Ipc
