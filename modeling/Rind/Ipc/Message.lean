import Rind.Core.Error
import Rind.Primitives.Scopes
import Rind.Services.Requests

/-!
# Messages of clients

The messages that clients and the daemon exchange, and the payloads they carry.  A
payload travels as bytes, which only the handler of the message reads as a value of a
type of its own.
-/

namespace Rind.Ipc

/-! ## Payloads of requests -/

structure ListPayload where
  name : Ustr
  unitType : String
  scope : Option String
  deriving DecidableEq, Repr

structure Run0AuthPayload where
  password : String
  deriving DecidableEq, Repr

structure LoginPayload where
  username : String
  password : Option String
  seat : String
  deriving DecidableEq, Repr

structure LogoutPayload where
  username : String
  sessionId : UInt64
  seat : Option String
  deriving DecidableEq, Repr

structure NetworkPayload where
  iface : String
  method : String
  deriving DecidableEq, Repr

structure ScopeCreatePayload where
  scope : String
  lifetimeState : Option String
  attributes : List (String × String)
  deriving DecidableEq, Repr

structure ScopeDestroyPayload where
  scope : String
  deriving DecidableEq, Repr

structure PermissionPayload where
  subject : String
  permission : String
  group : Bool
  deriving DecidableEq, Repr

inductive SeatPayload where
  | check
  | take (seat : Ustr)
  | giveBack (seat : Ustr)
  | taken (seats : List Ustr)
  | list
  | activate (seat : Ustr)
  | session (seat session : Ustr) (user : String)
  | sessionEnd (seat session : Ustr)
  | devices (seat : Ustr)
  deriving DecidableEq, Repr

/-! ## Values in replies -/

structure UnitSerialized where
  name : Ustr
  services : Nat
  activeServices : Nat
  mounts : Nat
  mounted : Nat
  sockets : Nat
  activeSockets : Nat
  facets : Nat
  activeFacets : Nat
  impulses : Nat
  deriving DecidableEq, Repr

structure ServiceSerialized where
  name : Ustr
  description : Option String
  lastState : String
  after : Option (List Ustr)
  restart : Bool
  run : List Ustr
  pid : Option Nat
  deriving DecidableEq, Repr

structure SocketSerialized where
  name : Ustr
  listen : String
  type : Ustr
  triggers : Nat
  active : Bool
  deriving DecidableEq, Repr

structure FacetSerialized where
  name : Ustr
  instances : List (List UInt8)
  keys : List Ustr
  deriving DecidableEq, Repr

structure ImpulseSerialized where
  name : Ustr
  deriving DecidableEq, Repr

structure MountSerialized where
  source : Option Ustr
  target : Ustr
  fstype : Option Ustr
  mounted : Bool
  deriving DecidableEq, Repr

structure UnitItemsSerialized where
  description : Option String
  mounts : List MountSerialized
  services : List ServiceSerialized
  sockets : List SocketSerialized
  facets : List FacetSerialized
  impulses : List ImpulseSerialized
  deriving DecidableEq, Repr

structure VariableSerialized where
  name : Ustr
  default : String
  value : String
  deriving DecidableEq, Repr

structure PermissionSerialized where
  name : Ustr
  id : UInt16
  group : Option Ustr
  deriving DecidableEq, Repr

structure PortStateSerialized where
  protocol : String
  localAddress : String
  localPort : Nat
  state : String
  pid : Option Nat
  process : Option String
  deriving DecidableEq, Repr

structure NetworkStatusSerialized where
  interface : Ustr
  method : Ustr
  address : Option Ustr
  gateway : Option Ustr
  state : Ustr
  deriving DecidableEq, Repr

structure IpcListPrinter where
  type : String
  titles : List String
  keys : List String
  colors : List String
  deriving DecidableEq, Repr

structure IpcListComponent where
  components : List (List UInt8)
  printer : Option IpcListPrinter
  deriving DecidableEq, Repr

/-- A value that is written to a reply. -/
inductive Serialized where
  | text (value : String)
  | json (value : Json)
  | unit (items : UnitItemsSerialized)
  | units (units : List UnitSerialized)
  | service (service : ServiceSerialized)
  | socket (socket : SocketSerialized)
  | facet (facet : FacetSerialized)
  | facets (facets : List FacetSerialized)
  | scope (info : ScopeInfo)
  | variable (entry : VariableSerialized)
  | permission (entry : PermissionSerialized)
  | port (entry : PortStateSerialized)
  | network (entry : NetworkStatusSerialized)
  | list (component : IpcListComponent)

/-- What bytes are read as, or the text of the error. -/
abbrev Reader (α : Type) : Type := List UInt8 → Except String α

/-- `rmp_serde`: how payloads are read, and how values are written. A value that cannot be
written is written as no bytes. -/
structure RmpSerde where
  list : Reader ListPayload
  ss : Reader SSPayload
  run0Auth : Reader Run0AuthPayload
  login : Reader LoginPayload
  logout : Reader LogoutPayload
  network : Reader NetworkPayload
  scopeCreate : Reader ScopeCreatePayload
  scopeDestroy : Reader ScopeDestroyPayload
  permission : Reader PermissionPayload
  seat : Reader SeatPayload
  flag : Reader Bool
  write : Serialized → List UInt8

/-! ## Messages -/

inductive MessageType where
  | valid
  | ok
  | error
  | unknown
  | requestInput
  | enquire
  deriving DecidableEq, Repr

/-- A message. The daemon fills in who sent it, unless root did and said so itself. -/
structure Message where
  type : MessageType := .enquire
  action : String := ""
  payload : Option (List UInt8) := none
  fromUid : Option UInt32 := none
  fromGid : Option UInt32 := none
  fromPid : Option Int32 := none
  deriving DecidableEq

namespace Message

def fromType (type : MessageType) : Message := { type }

def withPayload (payload : List UInt8) (msg : Message) : Message := { msg with payload }

def parsePayload {α : Type} (reader : Reader α) (msg : Message) : Except String α :=
  match msg.payload with
  | none => .error "Payload Not found"
  | some payload => reader payload

end Message

/-- `Message::with_string` of a new message. -/
def RmpSerde.textMessage (format : RmpSerde) (type : MessageType) (text : String) : Message :=
  (Message.fromType type).withPayload (format.write (.text text))

def RmpSerde.okMessage (format : RmpSerde) (text : String) : Message := format.textMessage .ok text

end Rind.Ipc
