import Rind.Flow.Transport
import Rind.Services.Stacks

/-!
# Messages from standard output

Every process of a service with the `stdio` transport has a thread that reads its
standard output and passes the messages on, under the name of the service and the
length the list of instances had when the process was started.  When the runtime
drains its channel, the instance at that place of the list is taken for the sender.
-/

namespace Rind

/-! ## Listeners -/

/-- A thread that reads the standard output of a process. Its messages carry
`service` and `index`; whose process it is, and whether that has no instance (any
more), is noted to say what is right. -/
structure Listener where
  service : Ustr
  index : Nat
  pid : Option Nat
  user : Option Ustr
  gone : Bool
  deriving DecidableEq, Repr

/-- `is_stdio_transport` -/
def ServiceMetadata.isStdio (metadata : ServiceMetadata) : Bool :=
  metadata.transport.any fun transport => transportId transport == "stdio"

/-- The exit of a process has been handled. -/
def Listener.exit (pid : Nat) (listener : Listener) : Listener :=
  if listener.pid = some pid then { listener with gone := true } else listener

/-- A listener after the exit that an action handles. -/
def Listener.settle (services : Services) (action : ServiceAction) (listener : Listener) :
    Listener :=
  (takeExit services action).elim listener fun taken => listener.exit taken.pid

section Starting

variable [SerdeJson] [TomlText]

/-- The listeners of processes that are spawned one after the other, up to the
first error. All get the same index. -/
def spawnListeners (env : ServiceEnv) (service : Service) (ctx : Option ServiceBranchContext)
    (registryKey : Ustr) (gone : Bool) : (runs : List RunOption) → (index : Nat) → Host →
    List Listener
  | [], _, _ => []
  | run :: rest, index, host =>
      match spawnProcess env service ctx registryKey ((resolveRunOption env.heap run).getD run)
          (env.answer index) host with
      | (.error _, _) => []
      | (.ok inst, host) =>
          { service := registryKey, index := service.instances.length, pid := inst.pid,
            user := inst.user, gone } ::
              spawnListeners env service ctx registryKey gone rest (index + 1) host

/-- The listeners a start of a service leaves. A start that fails drops the
instances of its processes. -/
def requestListeners (env : ServiceEnv) (request : StartRequest) (service : Service)
    (host : Host) : List Listener :=
  let registryKey := ensureScopedName request.name
  if service.metadata.isStdio && !request.held service && !isInactive env.facets registryKey then
    spawnListeners env service request.context registryKey
      (!(spawnAll env service request.context registryKey host).1.isOk)
      service.metadata.run.asMany 0 host
  else []

/-- The listeners a start leaves. -/
def startListeners (env : ServiceEnv) (request : StartRequest) (services : Services) :
    List Listener :=
  match env.metadata.instantiateOne Service.new "*" request.name services.instances with
  | none => []
  | some (_, service) =>
      if !request.deferred && service.metadata.registersTransport then []
      else requestListeners env request service services.host

end Starting

/-! ## The channel -/

/-- What actions read, and the ids of the known users. -/
structure StdioEnv where
  base : ServiceEnv
  uids : Ustr → Option Nat

namespace StdioEnv

/-- The uid a message of an instance is ingested with. -/
def senderUid (env : StdioEnv) (user : Option Ustr) : Nat :=
  match user with
  | some user => (env.uids user).getD 0
  | none => 0

/-- The uid of a user, if there is one. Without a user an instance runs as root. -/
def uid? (env : StdioEnv) : Option Ustr → Option Nat
  | some user => env.uids user
  | none => some 0

end StdioEnv

/-- A message in the channel. -/
structure StdioMessage where
  listener : Listener
  message : TransportMessage
  deriving DecidableEq, Repr

/-- What has become of a message: the uid it was ingested with, if it was not
dropped. `own` is the uid that the user of its process had then. -/
structure Delivery where
  message : StdioMessage
  uid : Option Nat
  own : Option Nat
  deriving DecidableEq, Repr

/-- The services, the threads, the channel, and the messages drained so far. -/
structure Stdio where
  services : Services
  listeners : List Listener
  queue : List StdioMessage
  delivered : List Delivery

namespace Stdio

/-- Where messages can still come from. -/
def sources (stdio : Stdio) : List Listener :=
  stdio.listeners ++ stdio.queue.map StdioMessage.listener

def boot : Stdio where
  services := .boot
  listeners := []
  queue := []
  delivered := []

end Stdio

/-- The instance that a message is taken to be from. -/
def Services.sender (definitions : MetadataRegistry ServiceMetadata) (services : Services)
    (listener : Listener) : Option ChildInstance :=
  (services.asOne definitions listener.service).bind (·.instances[listener.index]?)

/-- What `drain_events` makes of a message. -/
def deliver (env : StdioEnv) (services : Services) (message : StdioMessage) : Delivery where
  message
  uid := (services.sender env.base.metadata message.listener).map fun inst =>
    env.senderUid inst.user
  own := env.uid? message.listener.user

/-- What happens to a system with stdio services. -/
inductive StdioAction where
  | service (action : ServiceAction)
  | read (listener : Nat) (message : TransportMessage)
  | close (listener : Nat)
  | drainEvents

section Steps

variable [SerdeJson] [TomlText]

/-- The listeners the start of a step leaves. -/
def stepListeners (services : Services) (event : ServiceEnv × ServiceAction) : List Listener :=
  match beforeStart services event with
  | (middle, some request) => startListeners event.1 request middle
  | (_, none) => []

def stdioStep (stdio : Stdio) (event : StdioEnv × StdioAction) : Stdio :=
  let env := event.1
  match event.2 with
  | .service action =>
      let settle := Listener.settle stdio.services action
      { stdio with
        services := serviceStep stdio.services (env.base, action)
        listeners := stdio.listeners.map settle ++ stepListeners stdio.services (env.base, action)
        queue := stdio.queue.map fun entry => { entry with listener := settle entry.listener } }
  | .read listener message =>
      { stdio with
        queue := stdio.queue ++ (stdio.listeners[listener]?.map (⟨·, message⟩)).toList }
  | .close listener => { stdio with listeners := stdio.listeners.eraseIdx listener }
  | .drainEvents =>
      { stdio with
        queue := []
        delivered := stdio.delivered ++ stdio.queue.map (deliver env stdio.services) }

end Steps

end Rind
