import Rind.Services.Users

/-!
# The service runtime

Starting, stopping and restarting the processes of services.  An action of the
runtime is a function on the services and on the host: the runtime's own tables
and the children the kernel knows.  What an action dispatches to other runtimes
or to this one later, the changes of dependents among it, is not part of it.
-/

namespace Rind

/-! ## The kernel -/

inductive Signal where
  | sigterm
  | sigkill
  | sigabrt
  deriving DecidableEq, Repr

/-- A child process: what it runs, as which user, and whether it was killed. -/
structure Process where
  run : RunOption
  user : Option Ustr
  killed : Bool
  deriving DecidableEq, Repr

/-- A signal, and whether its target was still a child. -/
structure SentSignal where
  pid : Nat
  signal : Signal
  reached : Bool
  deriving DecidableEq, Repr

/-- The children whose exit status nobody has collected, the collected ones that
wait to be handled, and the signals sent so far. -/
structure Kernel where
  children : AList fun _ : Nat => Process
  exits : List (Nat × Int)
  signals : List SentSignal

namespace Kernel

/-- A new child. The process id of a child is not given out again. -/
def fork (pid : Nat) (process : Process) (kernel : Kernel) : Kernel :=
  if pid ∈ kernel.children then kernel
  else { kernel with children := kernel.children.insert pid process }

/-- `kill(-pid, signal)` -/
def kill (pid : Nat) (signal : Signal) (kernel : Kernel) : Kernel :=
  { kernel with
    children :=
      match kernel.children.lookup pid with
      | some process =>
          if signal = .sigkill then kernel.children.insert pid { process with killed := true }
          else kernel.children
      | none => kernel.children
    signals := kernel.signals ++ [⟨pid, signal, decide (pid ∈ kernel.children)⟩] }

/-- The reaper collects the exit status of a child. -/
def reap (pid : Nat) (kernel : Kernel) : Kernel :=
  { kernel with children := kernel.children.erase pid }

/-- A collected exit waits to be handled. -/
def queue (pid : Nat) (code : Int) (kernel : Kernel) : Kernel :=
  { kernel with exits := kernel.exits ++ [(pid, code)] }

/-- The first waiting exit is handled. -/
def unqueue (kernel : Kernel) : Kernel := { kernel with exits := kernel.exits.tail }

variable {kernel : Kernel} {pid : Nat} {signal : Signal} {process : Process}

/-- A signal changes a child at most to a killed one. -/
theorem lookup_kill (other : Nat) :
    (kernel.kill pid signal).children.lookup other =
      (kernel.children.lookup other).map fun process =>
        if other = pid ∧ signal = .sigkill then { process with killed := true } else process := by
  rw [kill]
  cases found : kernel.children.lookup pid with
  | none =>
      by_cases same : other = pid
      · rw [same, found, Option.map_none]
      · simp [same]
  | some process =>
      by_cases lethal : signal = .sigkill
      · by_cases same : other = pid
        · subst same
          simp [lethal, found]
        · simp [same, lethal, AList.lookup_insert_ne same]
      · simp [lethal]

theorem mem_children_kill {other : Nat} :
    other ∈ (kernel.kill pid signal).children ↔ other ∈ kernel.children := by
  rw [← AList.lookup_isSome, ← AList.lookup_isSome, lookup_kill, Option.isSome_map]

theorem lookup_fork (fresh : pid ∉ kernel.children) (other : Nat) :
    (kernel.fork pid process).children.lookup other =
      if other = pid then some process else kernel.children.lookup other := by
  rw [fork, if_neg fresh]
  split
  · next same => rw [same, AList.lookup_insert]
  · next other_ne => rw [AList.lookup_insert_ne other_ne]

theorem lookup_reap (other : Nat) :
    (kernel.reap pid).children.lookup other =
      if other = pid then none else kernel.children.lookup other := by
  rw [reap]
  split
  · next same => rw [same, AList.lookup_erase]
  · next other_ne => rw [AList.lookup_erase_ne other_ne]

theorem exits_fork : (kernel.fork pid process).exits = kernel.exits := by
  rw [fork]
  split <;> rfl

end Kernel

/-- What comes of creating a process. -/
inductive SpawnAnswer where
  /-- The executor fails and leaves no process behind. -/
  | refused (error : CoreError)
  /-- The executor fails and leaves a process behind. -/
  | abandoned (pid : Nat) (error : CoreError)
  /-- There is a process. `cgroup` is the error of moving it to its group, and
  `timer` the descriptor of its watchdog's timer. -/
  | created (pid : Nat) (cgroup : Option CoreError) (timer : Option Nat)
  deriving DecidableEq, Repr

/-! ## The runtime's tables -/

structure WatchdogBinding where
  serviceKey : Ustr
  branch : Option Ustr
  user : Option Ustr
  pid : Nat
  deriving DecidableEq, Repr

structure ServiceRuntime where
  pidMap : AList fun _ : Nat => Ustr
  stoppingMap : AList fun _ : Nat => Nat
  watchdogFds : AList fun _ : Nat => WatchdogBinding
  watchdogPids : AList fun _ : Nat => Nat

namespace ServiceRuntime

def armWatchdogTimer (fd : Nat) (binding : WatchdogBinding) (runtime : ServiceRuntime) :
    ServiceRuntime :=
  { runtime with
    watchdogFds := runtime.watchdogFds.insert fd binding
    watchdogPids := runtime.watchdogPids.insert binding.pid fd }

def disarmWatchdogPid (pid : Nat) (runtime : ServiceRuntime) : ServiceRuntime :=
  match runtime.watchdogPids.lookup pid with
  | some fd =>
      { runtime with
        watchdogPids := runtime.watchdogPids.erase pid
        watchdogFds := runtime.watchdogFds.erase fd }
  | none => runtime

end ServiceRuntime

/-- The runtime on its kernel. -/
structure Host where
  runtime : ServiceRuntime
  kernel : Kernel

/-- All services and the host they run on. -/
structure Services where
  instances : AList fun _ : Ustr => Service
  host : Host

namespace Services

/-- Keep a service under its key. -/
def store (key : Ustr) (service : Service) (services : Services) : Services :=
  { services with instances := services.instances.insert key service }

def updateRuntime (update : ServiceRuntime → ServiceRuntime) (services : Services) : Services where
  instances := services.instances
  host := { runtime := update services.host.runtime, kernel := services.host.kernel }

def updateKernel (update : Kernel → Kernel) (services : Services) : Services where
  instances := services.instances
  host := { runtime := services.host.runtime, kernel := update services.host.kernel }

end Services

/-- What an action reads. `answer` says what comes of its spawns, in order. -/
structure ServiceEnv where
  metadata : MetadataRegistry ServiceMetadata
  facets : Facets
  scopes : ScopeAttributes
  heap : VariableHeap
  answer : Nat → SpawnAnswer
  now : Nat
  timeout : Nat

/-! ## Spawning -/

inductive Executor where
  | native
  | remote
  | ima
  deriving DecidableEq, Repr

namespace Executor

def ofName (name : Ustr) : Option Executor :=
  if name = "native" then some native
  else if name = "remote" then some remote
  else if name = "ima" then some ima
  else none

/-- Whether the executor itself waits for the process to exit. -/
def waits (metadata : ServiceMetadata) (isolation : ServiceIsolation) : Bool :=
  !isolation.needsNamespaceSupervisor && metadata.type == .wait

/-- `Executor::spawn`. A waiting service's process has exited, and its status is
collected, when its handle is returned. -/
def spawn (executor : Executor) (metadata : ServiceMetadata) (isolation : ServiceIsolation)
    (process : Process) (answer : SpawnAnswer) (kernel : Kernel) :
    Except CoreError InstanceHandle × Kernel :=
  match executor with
  | .native =>
      match answer with
      | .refused error => (.error error, kernel)
      | .abandoned pid error => (.error error, kernel.fork pid process)
      | .created pid _ _ =>
          if pid ∈ kernel.children then
            (.error (.ioError "Resource temporarily unavailable (os error 11)"), kernel)
          else if waits metadata isolation then (.ok ⟨pid⟩, kernel)
          else (.ok ⟨pid⟩, kernel.fork pid process)
  | .remote =>
      match answer with
      | .refused error => (.error error, kernel)
      | _ => (.error (.custom "RemoteExecutor implementation in progress"), kernel)
  | .ima => (.error (.custom "ImaExecutor implementation in progress"), kernel)

end Executor

/-- What is settled before a process is created. -/
structure Launch where
  user : Option Ustr
  isolation : ServiceIsolation
  executor : Executor

section Spawning

variable [SerdeJson]

def findExecutor (run : RunOption) : Except CoreError Executor :=
  let name := run.executor.getD "native"
  match Executor.ofName name with
  | some executor => .ok executor
  | none => .error (.custom ("Executor " ++ name ++ " not found"))

def prepare (env : ServiceEnv) (service : Service) (ctx : Option ServiceBranchContext)
    (registryKey : Ustr) (run : RunOption) : Except CoreError Launch := do
  let scope := (Text.rsplitOnce '@' registryKey).map Prod.snd
  let user ← resolveUser env.facets env.scopes service ctx scope
  let isolation ← isolationFor env.scopes service.metadata scope
  let executor ← findExecutor run
  return { user, isolation, executor }

/-- The error of `setup_cgroup_for_pid`. -/
def setupCgroupForPid (isolation : ServiceIsolation) (answer : SpawnAnswer) : Option CoreError :=
  match answer with
  | .created _ error _ =>
      if isolation.needsNamespaceSupervisor || isolation.cgroup.isNone then none else error
  | _ => none

/-- Note a process with its service, and set its watchdog. -/
def registerProcess (metadata : ServiceMetadata) (registryKey : Ustr) (branch user : Option Ustr)
    (pid : Nat) (answer : SpawnAnswer) (runtime : ServiceRuntime) : ServiceRuntime :=
  let runtime := { runtime with pidMap := runtime.pidMap.insert pid registryKey }
  match metadata.watchdog, answer with
  | some _, .created _ _ (some fd) =>
      runtime.armWatchdogTimer fd { serviceKey := registryKey, branch, user, pid }
  | _, _ => runtime

def spawnProcess (env : ServiceEnv) (service : Service) (ctx : Option ServiceBranchContext)
    (registryKey : Ustr) (run : RunOption) (answer : SpawnAnswer) (host : Host) :
    Except CoreError ChildInstance × Host :=
  match prepare env service ctx registryKey run with
  | .error error => (.error error, host)
  | .ok launch =>
      match launch.executor.spawn service.metadata launch.isolation ⟨run, launch.user, false⟩
          answer host.kernel with
      | (.error error, kernel) => (.error error, { host with kernel })
      | (.ok handle, kernel) =>
          match setupCgroupForPid launch.isolation answer with
          | some error =>
              (.error (.invalidState ("failed to setup cgroup for service '" ++
                service.metadata.name ++ "': " ++ error.text)),
                { host with kernel := kernel.kill handle.pid .sigkill })
          | none =>
              let branch := ctx.bind (·.key)
              (.ok (ChildInstance.new (branch.getD "") launch.user (some handle)),
                { kernel, runtime := registerProcess service.metadata registryKey branch
                    launch.user handle.pid answer host.runtime })

variable [TomlText]

/-- Spawn the run options in order, up to the first error. The instances before
it are dropped. -/
def spawnEach (env : ServiceEnv) (service : Service) (ctx : Option ServiceBranchContext)
    (registryKey : Ustr) :
    (runs : List RunOption) → (index : Nat) → Host → Except CoreError (List ChildInstance) × Host
  | [], _, host => (.ok [], host)
  | run :: rest, index, host =>
      match spawnProcess env service ctx registryKey ((resolveRunOption env.heap run).getD run)
          (env.answer index) host with
      | (.error error, host) => (.error error, host)
      | (.ok inst, host) =>
          match spawnEach env service ctx registryKey rest (index + 1) host with
          | (.error error, host) => (.error error, host)
          | (.ok insts, host) => (.ok (inst :: insts), host)

/-- Whether `rind:inactive` has a branch with the name of a service. -/
def isInactive (facets : Facets) (registryKey : Ustr) : Bool :=
  (facets.instances "rind:inactive").any fun branch =>
    branch.payload.toStringPayload == instanceKeyName registryKey

def spawnAll (env : ServiceEnv) (service : Service) (ctx : Option ServiceBranchContext)
    (registryKey : Ustr) (host : Host) : Except CoreError (List ChildInstance) × Host :=
  if isInactive env.facets registryKey then (.ok [], host)
  else spawnEach env service ctx registryKey service.metadata.run.asMany 0 host

/-! ## Starting -/

/-- The state a failed start leaves. -/
def startError (registryKey : Ustr) (error : CoreError) : ServiceState :=
  .error ("Failed to start service \"" ++ registryKey ++ "\": " ++ error.text)

/-- Put the first instance into a state. -/
def markFirst (state : ServiceState) : List ChildInstance → List ChildInstance
  | [] => []
  | inst :: rest => inst.mark state :: rest

/-- Whether a plain start does nothing: the service is a singleton and its first
instance is live. -/
def Service.holdsSingleton (service : Service) : Bool :=
  service.metadata.singleton && service.instances.head?.any (·.state.isLive)

def startService (env : ServiceEnv) (registryKey : Ustr) (service : Service) (host : Host) :
    Service × Host :=
  if service.holdsSingleton then (service, host)
  else
    match spawnAll env service none registryKey host with
    | (.ok insts, host) =>
        ({ service with instances := markFirst .active (service.instances ++ insts) }, host)
    | (.error error, host) =>
        ({ service with
            lastState := startError registryKey error
            instances := markFirst (startError registryKey error) service.instances }, host)

/-- A start for a branch. Every instance becomes active, or on failure every one
that is not active becomes an error. -/
def startBranch (env : ServiceEnv) (registryKey : Ustr) (ctx : ServiceBranchContext)
    (service : Service) (host : Host) : Service × Host :=
  if ctx.key.any fun key =>
      service.instances.any fun inst => inst.key == key && inst.state.isRunning then
    (service, host)
  else
    match spawnAll env service (some ctx) registryKey host with
    | (.ok insts, host) =>
        ({ service with instances := (service.instances ++ insts).map (·.mark .active) }, host)
    | (.error error, host) =>
        ({ service with
            instances := service.instances.map fun inst =>
              if inst.state = .active then inst else inst.mark (startError registryKey error) },
          host)

def startForUser (env : ServiceEnv) (registryKey : Ustr) (user : Ustr) (service : Service)
    (host : Host) : Service × Host :=
  match spawnAll env service (some ⟨none, none, some user⟩) registryKey host with
  | (.ok insts, host) =>
      ({ service with instances := markFirst .active (service.instances ++ insts) }, host)
  | (.error error, host) =>
      ({ service with
          instances := markFirst (startError registryKey error) service.instances }, host)

/-- The payload of a `start`. -/
structure StartRequest where
  name : Ustr
  onlyUser : Option Ustr
  branchCtx : Option ServiceBranchContext
  deferred : Bool
  deriving DecidableEq, Repr

/-- A start by name. -/
def StartRequest.plain (name : Ustr) : StartRequest :=
  { name, onlyUser := none, branchCtx := none, deferred := false }

/-- Start a service as a request asks for. -/
def startRequested (env : ServiceEnv) (request : StartRequest) (service : Service) (host : Host) :
    Service × Host :=
  let registryKey := ensureScopedName request.name
  match request.branchCtx, request.onlyUser with
  | some ctx, _ => startBranch env registryKey ctx service host
  | none, some user => startForUser env registryKey user service host
  | none, none => startService env registryKey service host

/-- `__runtime_start`. A service with an endpoint is not started yet: its start
is dispatched again, `deferred`. -/
def start (env : ServiceEnv) (request : StartRequest) (services : Services) :
    Except CoreError Unit × Services :=
  match env.metadata.instantiateOne Service.new "*" request.name services.instances with
  | none =>
      (.error (.metadataNotFound (env.metadata.resolveMetadataKey "*" request.name)), services)
  | some (key, service) =>
      if !request.deferred && service.metadata.registersTransport then
        (.ok (), services.store key service)
      else
        let (service, host) := startRequested env request service services.host
        (.ok (), { instances := services.instances.insert key service, host })

/-! ## Stopping -/

def StopMode.signal : StopMode → Signal
  | .forceKill => .sigkill
  | .graceful => .sigterm

/-- Whether a stop with a branch key or for a user is about an instance. -/
def ChildInstance.concerns (key user : Option Ustr) (inst : ChildInstance) : Bool :=
  key.all (fun key => inst.key == key) &&
    user.all fun user => inst.user == some user || (inst.user == none && inst.key == user)

/-- Signal a process and note when. -/
def stopProcess (now : Nat) (mode : StopMode) (pid : Nat) (host : Host) : Host :=
  let runtime := host.runtime.disarmWatchdogPid pid
  { kernel := host.kernel.kill pid mode.signal
    runtime := { runtime with stoppingMap := runtime.stoppingMap.insert pid now } }

def stopServiceInstance (now : Nat) (mode : StopMode) (key user : Option Ustr)
    (inst : ChildInstance) (host : Host) : ChildInstance × Host :=
  if inst.concerns key user then
    match inst.handle with
    | some handle =>
        ({ inst with state := .stopping, manuallyStopped := true },
          stopProcess now mode handle.pid host)
    | none => (inst.mark .inactive, host)
  else (inst, host)

/-- Stop the instances of a list in order. -/
def stopEach (now : Nat) (mode : StopMode) (key user : Option Ustr) :
    List ChildInstance → Host → List ChildInstance × Host
  | [], host => ([], host)
  | inst :: rest, host =>
      let (inst, host) := stopServiceInstance now mode key user inst host
      let (rest, host) := stopEach now mode key user rest host
      (inst :: rest, host)

/-- Stop the instance at an index. -/
def stopAt (now : Nat) (mode : StopMode) (key user : Option Ustr) :
    (index : Nat) → List ChildInstance → Host → List ChildInstance × Host
  | _, [], host => ([], host)
  | 0, inst :: rest, host =>
      let (inst, host) := stopServiceInstance now mode key user inst host
      (inst :: rest, host)
  | index + 1, inst :: rest, host =>
      let (rest, host) := stopAt now mode key user index rest host
      (inst :: rest, host)

def stopService (now : Nat) (mode : StopMode) (key user : Option Ustr) (index : Option Nat)
    (service : Service) (host : Host) : Service × Host :=
  let (instances, host) :=
    match index with
    | some index => stopAt now mode key user index service.instances host
    | none => stopEach now mode key user service.instances host
  let lastState :=
    if instances.any (·.state = .active) then service.lastState else .stopping
  ({ service with instances, lastState }, host)

/-- The payload of a `stop`. -/
structure StopRequest where
  name : Ustr
  force : Bool
  index : Option Nat
  onlyUser : Option Ustr
  deriving DecidableEq, Repr

def StopRequest.mode (request : StopRequest) : StopMode :=
  if request.force then .forceKill else .graceful

/-- `__runtime_stop` -/
def stop (env : ServiceEnv) (request : StopRequest) (services : Services) :
    Except CoreError Unit × Services :=
  match env.metadata.instantiateOne Service.new "*" request.name services.instances with
  | none =>
      (.error (.metadataNotFound (env.metadata.resolveMetadataKey "*" request.name)), services)
  | some (key, service) =>
      let (service, host) :=
        stopService env.now request.mode none request.onlyUser request.index service services.host
      (.ok (), { instances := services.instances.insert key service, host })

/-! ## Exits -/

inductive ServiceExitAction where
  | restart
  | stopDependents
  deriving DecidableEq, Repr

/-- What the exit of an instance leads to. -/
def exitAction (metadata : ServiceMetadata) (inst : ChildInstance) (code : Int) :
    ServiceExitAction :=
  if inst.manuallyStopped then .stopDependents
  else
    match metadata.restart with
    | some (.bool true) => .restart
    | some (.onFailure maxRetries) =>
        if code ≠ 0 ∧ 0 < maxRetries ∧ inst.retryCount < maxRetries then .restart
        else .stopDependents
    | _ => .stopDependents

/-- An instance whose process has exited. A restart after a failure is
counted. -/
def ChildInstance.exited (metadata : ServiceMetadata) (code : Int) (inst : ChildInstance) :
    ChildInstance :=
  let counted :=
    match exitAction metadata inst code, metadata.restart with
    | .restart, some (.onFailure _) => inst.retryCount + 1
    | _, _ => inst.retryCount
  { inst with state := .exited code, handle := none, retryCount := counted }

/-- What the exit of a process of the service leads to, and the service after
it: `none` where no instance has the process. -/
def handleChildExit (service : Service) (pid : Nat) (code : Int) :
    Option (ServiceExitAction × Service) := do
  let index ← service.findByPid pid
  let inst ← service.instances[index]?
  let action := exitAction service.metadata inst code
  let instances := service.instances.set index (inst.exited service.metadata code)
  let kept :=
    match action with
    | .restart => instances
    | .stopDependents => instances.filter (·.state.isLive)
  some (action, { service with instances := kept, lastState := .exited code })

/-- Forget the process of an exit. -/
def ServiceRuntime.forget (pid : Nat) (runtime : ServiceRuntime) : ServiceRuntime :=
  { runtime with pidMap := runtime.pidMap.erase pid, stoppingMap := runtime.stoppingMap.erase pid }

/-- What `child_exited` does before it restarts: the service of the process and
what its exit leads to, where it has one. -/
def recordExit (pid : Nat) (code : Int) (services : Services) :
    Services × Option (Ustr × ServiceExitAction) :=
  match services.host.runtime.pidMap.lookup pid with
  | none => (services, none)
  | some key =>
      let forgotten := services.updateRuntime (·.forget pid)
      match services.instances.lookup key with
      | none => (forgotten, none)
      | some service =>
          let disarmed := forgotten.updateRuntime (·.disarmWatchdogPid pid)
          match handleChildExit service pid code with
          | none => (disarmed, none)
          | some (action, service) => (disarmed.store key service, some (key, action))

def childExited (env : ServiceEnv) (pid : Nat) (code : Int) (services : Services) :
    Except CoreError Unit × Services :=
  match recordExit pid code services with
  | (services, some (key, .restart)) => start env (.plain key) services
  | (services, _) => (.ok (), services)

/-! ## Timers -/

/-- A process is not waited for any more. -/
def ServiceRuntime.unstop (pid : Nat) (runtime : ServiceRuntime) : ServiceRuntime :=
  { runtime with stoppingMap := runtime.stoppingMap.erase pid }

/-- Kill the processes that have been stopping for longer than the timeout. -/
def timeoutSweep (env : ServiceEnv) (services : Services) : Services :=
  let expired := (services.host.runtime.stoppingMap.entries.filter fun entry =>
    env.timeout < env.now - entry.2).map Sigma.fst
  expired.foldl (fun services pid =>
    (services.updateKernel (·.kill pid .sigkill)).updateRuntime (·.unstop pid)) services

/-- Take a watchdog out of the tables. -/
def ServiceRuntime.dropWatchdog (fd pid : Nat) (runtime : ServiceRuntime) : ServiceRuntime :=
  { runtime with
    watchdogFds := runtime.watchdogFds.erase fd
    watchdogPids := runtime.watchdogPids.erase pid }

/-- What the watchdog of a binding does. -/
def watchdogAction (env : ServiceEnv) (binding : WatchdogBinding) : WatchdogAction :=
  (((env.metadata.find "*" (instanceKeyName binding.serviceKey)).bind (·.watchdog)).map
    ServiceWatchdog.action).getD .restart

/-- The stop of an expired watchdog. The user of the binding is handed over as an
option, which `stop` and `start` do not read. -/
def watchdogStop (name : Ustr) : StopRequest :=
  { name, force := true, index := none, onlyUser := none }

def watchdogExpired (env : ServiceEnv) (fd : Nat) (services : Services) :
    Except CoreError Unit × Services :=
  match services.host.runtime.watchdogFds.lookup fd with
  | none => (.ok (), services)
  | some binding =>
      let name := instanceKeyName binding.serviceKey
      let services := services.updateRuntime (·.dropWatchdog fd binding.pid)
      match watchdogAction env binding with
      | .signal => (.ok (), services.updateKernel (·.kill binding.pid .sigabrt))
      | .stop => stop env (watchdogStop name) services
      | .restart =>
          match stop env (watchdogStop name) services with
          | (.error error, services) => (.error error, services)
          | (.ok (), services) => start env (.plain name) services

/-! ## Runs -/

/-- What happens to the runtime. `exit` is an exit that is handled as soon as
its status is collected, `reap` one that waits for a later `childExited`. -/
inductive ServiceAction where
  | start (request : StartRequest)
  | stop (request : StopRequest)
  | reap (pid : Nat) (code : Int)
  | childExited
  | exit (pid : Nat) (code : Int)
  | watchdogExpired (fd : Nat)
  | timeoutSweep
  deriving DecidableEq, Repr

/-- The reaper collects an exit and queues it. -/
def reapOnce (pid : Nat) (code : Int) (services : Services) : Services :=
  if pid ∈ services.host.kernel.children then
    services.updateKernel fun kernel => (kernel.reap pid).queue pid code
  else services

/-- Handle the first queued exit. -/
def handleQueued (env : ServiceEnv) (services : Services) : Services :=
  match services.host.kernel.exits with
  | [] => services
  | (pid, code) :: _ => (childExited env pid code (services.updateKernel Kernel.unqueue)).2

/-- An exit that is handled at once. -/
def handleExit (env : ServiceEnv) (pid : Nat) (code : Int) (services : Services) : Services :=
  if pid ∈ services.host.kernel.children then
    (childExited env pid code (services.updateKernel (·.reap pid))).2
  else services

/-- One step of the runtime. -/
def serviceStep (services : Services) (event : ServiceEnv × ServiceAction) : Services :=
  let env := event.1
  match event.2 with
  | .start request => (start env request services).2
  | .stop request => (stop env request services).2
  | .reap pid code => reapOnce pid code services
  | .childExited => handleQueued env services
  | .exit pid code => handleExit env pid code services
  | .watchdogExpired fd => (watchdogExpired env fd services).2
  | .timeoutSweep => timeoutSweep env services

end Spawning

/-- Nothing has been started yet. -/
def Services.boot : Services where
  instances := ∅
  host :=
    { runtime := { pidMap := ∅, stoppingMap := ∅, watchdogFds := ∅, watchdogPids := ∅ }
      kernel := { children := ∅, exits := [], signals := [] } }

end Rind
