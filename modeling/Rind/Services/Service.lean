import Rind.Flow.Facet
import Rind.Primitives.Variables

/-!
# Services

The definitions of services and their instances.  Of a definition this keeps
what decides when and how processes are started, watched and restarted.
-/

namespace Rind

/-! ## Definitions -/

/-- One command of a service. -/
structure RunOption where
  exec : Ustr
  args : List Ustr
  variableName : Option String
  executor : Option Ustr
  deriving DecidableEq, Repr

/-- The commands of a service. -/
inductive RunOptions where
  | one (run : RunOption)
  | many (runs : List RunOption)
  deriving DecidableEq, Repr

def RunOptions.asMany : RunOptions → List RunOption
  | .one run => [run]
  | .many runs => runs

inductive RestartPolicy where
  | bool (on : Bool)
  | onFailure (maxRetries : Nat)
  deriving DecidableEq, Repr

inductive StopMode where
  | graceful
  | forceKill
  deriving DecidableEq, Repr

inductive ServiceType where
  | fork
  | wait
  | job
  deriving DecidableEq, Repr

inductive ServiceSpace where
  | system
  | user
  | userSelective (user : Ustr)
  deriving DecidableEq, Repr

structure ServiceUserSource where
  facet : Option Ustr
  branch : Bool
  usernameField : String
  matchBranchKey : Option String
  deriving DecidableEq, Repr

structure ServiceCgroup where
  path : Option Ustr
  memoryMax : Option Ustr
  cpuMax : Option Ustr
  pidsMax : Option Ustr
  deriving DecidableEq, Repr

def ServiceCgroup.isEmpty (cgroup : ServiceCgroup) : Bool :=
  cgroup.path.isNone && cgroup.memoryMax.isNone && cgroup.cpuMax.isNone && cgroup.pidsMax.isNone

structure ServiceNamespaces where
  mount : Bool
  uts : Bool
  ipc : Bool
  net : Bool
  pid : Bool
  user : Bool
  cgroup : Bool
  mountPrivate : Bool
  rootfs : Option Ustr
  hostname : Option Ustr
  persist : Bool
  init : Bool
  deriving DecidableEq, Repr

def ServiceNamespaces.isEmpty (ns : ServiceNamespaces) : Bool :=
  !ns.mount && !ns.uts && !ns.ipc && !ns.net && !ns.pid && !ns.user && !ns.cgroup &&
    !ns.mountPrivate && ns.rootfs.isNone && ns.hostname.isNone && !ns.persist && !ns.init

inductive WatchdogAction where
  | restart
  | stop
  | signal
  deriving DecidableEq, Repr

structure ServiceWatchdog where
  action : WatchdogAction
  deriving DecidableEq, Repr

/-- An instance of the service for each branch of a facet. -/
structure BranchingConfig where
  source : Ustr
  key : Option String
  maxInstances : Option Nat
  only : Option (List String)
  except : Option (List String)
  deriving DecidableEq, Repr

/-- The definition of a service. -/
structure ServiceMetadata where
  name : Ustr
  run : RunOptions
  type : ServiceType
  space : ServiceSpace
  singleton : Bool
  userSource : Option ServiceUserSource
  transport : Option TransportMethod
  restart : Option RestartPolicy
  cgroup : Option ServiceCgroup
  namespaces : Option ServiceNamespaces
  watchdog : Option ServiceWatchdog
  after : Option (List Ustr) := none
  startOn : Option (List FlowItem) := none
  stopOn : Option (List FlowItem) := none
  branching : Option BranchingConfig := none
  deriving DecidableEq, Repr

instance : NamedItem ServiceMetadata := ⟨ServiceMetadata.name⟩

/-- Whether a start first sets up an endpoint, and then is repeated: what
`register_service_transport` returns. -/
def ServiceMetadata.registersTransport (metadata : ServiceMetadata) : Bool :=
  match metadata.transport with
  | none => false
  | some transport =>
      let id := transportId transport
      id == "uds" || id == "shm" || (Text.stripPrefix "route:" id).isSome

/-! ## Instances -/

inductive ServiceState where
  | active
  | inactive
  | starting
  | stopping
  | exited (code : Int)
  | error (text : String)
  deriving DecidableEq, Repr

namespace ServiceState

/-- Active or about to be. -/
def isRunning : ServiceState → Bool
  | active | starting => true
  | _ => false

/-- The states in which an instance is kept when a sibling has exited. -/
def isLive : ServiceState → Bool
  | active | starting | stopping => true
  | _ => false

end ServiceState

/-- The handle of a started process. -/
structure InstanceHandle where
  pid : Nat
  deriving DecidableEq, Repr

/-- One started process of a service, or what is left of one. -/
structure ChildInstance where
  key : Ustr
  user : Option Ustr
  handle : Option InstanceHandle
  state : ServiceState
  retryCount : Nat
  manuallyStopped : Bool
  deriving DecidableEq, Repr

namespace ChildInstance

def new (key : Ustr) (user : Option Ustr) (handle : Option InstanceHandle) : ChildInstance :=
  { key, user, handle, state := .active, retryCount := 0, manuallyStopped := false }

def pid (inst : ChildInstance) : Option Nat := inst.handle.map InstanceHandle.pid

/-- The instance in another state. -/
def mark (state : ServiceState) (inst : ChildInstance) : ChildInstance := { inst with state }

end ChildInstance

/-- A service with its instances. -/
structure Service where
  metadata : ServiceMetadata
  instances : List ChildInstance
  lastState : ServiceState
  deriving DecidableEq, Repr

namespace Service

def new (metadata : ServiceMetadata) : Service :=
  { metadata, instances := [], lastState := .inactive }

/-- Where the instance with a process stands in the list. -/
def findByPid (service : Service) (pid : Nat) : Option Nat :=
  service.instances.findIdx? fun inst => inst.pid == some pid

end Service

/-- What a branch start passes on to the process. -/
structure ServiceBranchContext where
  key : Option Ustr
  payload : Option FlowPayload
  forcedUser : Option Ustr
  deriving DecidableEq, Repr

/-! ## Names -/

/-- The name of a service without its scope. -/
def instanceKeyName (key : Ustr) : Ustr := rslvnsSnorm key

/-- The name of a service with its scope. -/
def ensureScopedName (name : Ustr) : Ustr :=
  if '@' ∈ name.toList then name else name ++ "@static"

theorem instanceKeyName_of_notMem {name : Ustr} (bare : '@' ∉ name.toList) :
    instanceKeyName name = name := by
  rw [instanceKeyName, rslvnsSnorm, Text.splitOnce_of_notMem bare]

theorem instanceKeyName_of_append {name full : Ustr} {scope : List Char}
    (bare : '@' ∉ name.toList) (whole : full.toList = name.toList ++ '@' :: scope) :
    instanceKeyName full = name := by
  rw [instanceKeyName, rslvnsSnorm, Text.splitOnce_of_append bare whole]

/-- A scope does not change the name without it. -/
@[simp] theorem instanceKeyName_ensureScopedName (name : Ustr) :
    instanceKeyName (ensureScopedName name) = instanceKeyName name := by
  rw [ensureScopedName]
  split
  · rfl
  · next bare =>
      rw [instanceKeyName_of_notMem bare]
      exact instanceKeyName_of_append bare (String.toList_append ..)

/-! ## Run options -/

/-- The command a variable holds. -/
def resolveRunOption [TomlText] (heap : VariableHeap) (run : RunOption) : Option RunOption := do
  let value ← heap.get (← run.variableName)
  let table ← value.asTable
  some {
    exec := ((table.lookup "exec").bind Toml.asStr).getD ""
    args := (((table.lookup "args").bind Toml.asArray).getD []).filterMap Toml.asStr
    variableName := none
    executor := (table.lookup "executor").map TomlText.toText }

end Rind
