import Rind.Services.Spawning
import Rind.Prog.Runs

/-!
# What exits, stops and steps do

The cases of the exit of a process and of a stop.  A step of the runtime is some
change of the services, followed by at most one start.
-/

namespace Rind

/-! ## All instances -/

/-- A property of every instance of every service. -/
def Services.Every (P : ChildInstance → Prop) (services : Services) : Prop :=
  ∀ key service, services.instances.lookup key = some service → ∀ inst ∈ service.instances, P inst

namespace Services.Every

variable {P : ChildInstance → Prop} {services final : Services} {key : Ustr} {service : Service}

theorem insert (every : services.Every P)
    (stored : final.instances = services.instances.insert key service)
    (instances : ∀ inst ∈ service.instances, P inst) : final.Every P := by
  intro other found lookup
  rw [stored] at lookup
  by_cases same : other = key
  · subst same
    rw [AList.lookup_insert, Option.some_inj] at lookup
    subst lookup
    exact instances
  · rw [AList.lookup_insert_ne same] at lookup
    exact every other found lookup

/-- An instantiated service has the property, for a new one has no instances. -/
theorem instantiated {registry : MetadataRegistry ServiceMetadata} {name : Ustr}
    (every : services.Every P)
    (found : registry.instantiateOne Service.new "*" name services.instances =
      some (key, service)) : ∀ inst ∈ service.instances, P inst := by
  obtain ⟨-, kept | ⟨-, item, rfl⟩⟩ := MetadataRegistry.instantiateOne_cases found
  · exact every key service kept
  · intro inst member
    exact absurd member List.not_mem_nil

end Services.Every

/-! ## Exits -/

/-- An instance that is found by its process is a running one. -/
theorem Service.instance_of_findByPid {service : Service} {pid index : Nat}
    (found : service.findByPid pid = some index) :
    ∃ inst, service.instances[index]? = some inst ∧ inst ∈ service.instances ∧
      inst.pid = some pid := by
  obtain ⟨inside, holds, -⟩ := List.findIdx?_eq_some_iff_getElem.mp found
  exact ⟨_, List.getElem?_eq_getElem inside, List.getElem_mem inside, beq_iff_eq.mp holds⟩

/-- The instances an exit keeps. -/
def ServiceExitAction.keeps (action : ServiceExitAction) (instances : List ChildInstance) :
    List ChildInstance :=
  match action with
  | .restart => instances
  | .stopDependents => instances.filter (·.state.isLive)

theorem ServiceExitAction.mem_of_mem_keeps {action : ServiceExitAction}
    {instances : List ChildInstance} {inst : ChildInstance}
    (member : inst ∈ action.keeps instances) : inst ∈ instances := by
  cases action with
  | restart => exact member
  | stopDependents => exact List.mem_of_mem_filter member

/-- A service after the exit of the process of an instance. -/
def Service.afterExit (service : Service) (index : Nat) (inst : ChildInstance) (code : Int) :
    Service :=
  { service with
    instances := (exitAction service.metadata inst code).keeps
      (service.instances.set index (inst.exited service.metadata code))
    lastState := .exited code }

theorem handleChildExit_of_found {service : Service} {pid index : Nat} {inst : ChildInstance}
    (found : service.findByPid pid = some index) (at_ : service.instances[index]? = some inst)
    (code : Int) :
    handleChildExit service pid code =
      some (exitAction service.metadata inst code, service.afterExit index inst code) := by
  simp only [handleChildExit, found, at_, Option.bind_eq_bind, Option.bind_some,
    Service.afterExit]
  cases exitAction service.metadata inst code <;> rfl

/-- What comes of an exit: nothing is known of the process, its service is gone
or has no instance with it, or an instance has exited. -/
inductive ExitStep (pid : Nat) (code : Int) (services : Services) :
    Services × Option (Ustr × ServiceExitAction) → Prop where
  | unknown (noted : services.host.runtime.pidMap.lookup pid = none) :
      ExitStep pid code services (services, none)
  | unregistered (key : Ustr) (noted : services.host.runtime.pidMap.lookup pid = some key)
      (absent : services.instances.lookup key = none) :
      ExitStep pid code services (services.updateRuntime (·.forget pid), none)
  | unheld (key : Ustr) (service : Service)
      (noted : services.host.runtime.pidMap.lookup pid = some key)
      (found : services.instances.lookup key = some service)
      (without : service.findByPid pid = none) :
      ExitStep pid code services
        ((services.updateRuntime (·.forget pid)).updateRuntime (·.disarmWatchdogPid pid), none)
  | handled (key : Ustr) (service : Service) (index : Nat) (inst : ChildInstance)
      (noted : services.host.runtime.pidMap.lookup pid = some key)
      (found : services.instances.lookup key = some service)
      (position : service.findByPid pid = some index)
      (at_ : service.instances[index]? = some inst) :
      ExitStep pid code services
        (((services.updateRuntime (·.forget pid)).updateRuntime (·.disarmWatchdogPid pid)).store
            key (service.afterExit index inst code),
          some (key, exitAction service.metadata inst code))

theorem recordExit_cases (pid : Nat) (code : Int) (services : Services) :
    ExitStep pid code services (recordExit pid code services) := by
  cases noted : services.host.runtime.pidMap.lookup pid with
  | none =>
      simp only [recordExit, noted]
      exact .unknown noted
  | some key =>
      cases found : services.instances.lookup key with
      | none =>
          simp only [recordExit, noted, found]
          exact .unregistered key noted found
      | some service =>
          cases position : service.findByPid pid with
          | none =>
              have unheld : handleChildExit service pid code = none := by
                rw [handleChildExit, position]
                rfl
              simp only [recordExit, noted, found, unheld]
              exact .unheld key service noted found position
          | some index =>
              obtain ⟨inst, at_, -, -⟩ := service.instance_of_findByPid position
              simp only [recordExit, noted, found, handleChildExit_of_found position at_]
              exact .handled key service index inst noted found position at_

/-! ## Stops -/

/-- An instance after a stop. -/
def ChildInstance.stopped (key user : Option Ustr) (inst : ChildInstance) : ChildInstance :=
  if inst.concerns key user then
    match inst.handle with
    | some _ => { inst with state := .stopping, manuallyStopped := true }
    | none => inst.mark .inactive
  else inst

/-- The process a stop of an instance signals. -/
def ChildInstance.stoppedPid (key user : Option Ustr) (inst : ChildInstance) : Option Nat :=
  if inst.concerns key user then inst.pid else none

/-- Signal processes in order. -/
def stopProcesses (now : Nat) (mode : StopMode) (pids : List Nat) (host : Host) : Host :=
  pids.foldl (fun host pid => stopProcess now mode pid host) host

namespace Service

/-- The instances of a service after a stop. -/
def stoppedInstances (service : Service) (key user : Option Ustr) (index : Option Nat) :
    List ChildInstance :=
  match index with
  | some index => service.instances.modify index (·.stopped key user)
  | none => service.instances.map (·.stopped key user)

/-- The processes a stop of a service signals. -/
def stoppedPids (service : Service) (key user : Option Ustr) (index : Option Nat) : List Nat :=
  match index with
  | some index => (service.instances[index]?.bind (·.stoppedPid key user)).toList
  | none => service.instances.filterMap (·.stoppedPid key user)

end Service

section Stops

variable {now : Nat} {mode : StopMode} {key user : Option Ustr}

theorem stopServiceInstance_eq (inst : ChildInstance) (host : Host) :
    stopServiceInstance now mode key user inst host =
      (inst.stopped key user,
        stopProcesses now mode (inst.stoppedPid key user).toList host) := by
  rw [stopServiceInstance, ChildInstance.stopped, ChildInstance.stoppedPid]
  split
  · rw [ChildInstance.pid]
    cases inst.handle <;> rfl
  · rfl

theorem stopEach_eq (insts : List ChildInstance) (host : Host) :
    stopEach now mode key user insts host =
      (insts.map (·.stopped key user),
        stopProcesses now mode (insts.filterMap (·.stoppedPid key user)) host) := by
  induction insts generalizing host with
  | nil => rfl
  | cons inst rest ih =>
      simp only [stopEach, stopServiceInstance_eq, ih, List.map_cons, List.filterMap_cons]
      cases inst.stoppedPid key user <;> rfl

theorem stopAt_eq (index : Nat) (insts : List ChildInstance) (host : Host) :
    stopAt now mode key user index insts host =
      (insts.modify index (·.stopped key user),
        stopProcesses now mode (insts[index]?.bind (·.stoppedPid key user)).toList host) := by
  induction insts generalizing index host with
  | nil => cases index <;> rfl
  | cons inst rest ih =>
      cases index with
      | zero => simp [stopAt, stopServiceInstance_eq]
      | succ index => simp [stopAt, ih]

variable (now mode key user) in
theorem stopService_eq (index : Option Nat) (service : Service) (host : Host) :
    ∃ lastState, stopService now mode key user index service host =
      ({ service with instances := service.stoppedInstances key user index, lastState },
        stopProcesses now mode (service.stoppedPids key user index) host) := by
  cases index with
  | none => exact ⟨_, by rw [stopService, stopEach_eq]; rfl⟩
  | some index => exact ⟨_, by rw [stopService, stopAt_eq]; rfl⟩

variable (now mode) in
/-- Stopping processes sends a signal to each of them. -/
theorem signals_stopProcesses (pids : List Nat) (host : Host) :
    ∃ new, (stopProcesses now mode pids host).kernel.signals = host.kernel.signals ++ new ∧
      new.map SentSignal.pid = pids ∧ ∀ sent ∈ new, sent.signal = mode.signal := by
  induction pids generalizing host with
  | nil => exact ⟨[], (List.append_nil _).symm, rfl, by simp⟩
  | cons pid rest ih =>
      obtain ⟨new, signals, pids, modes⟩ := ih (stopProcess now mode pid host)
      refine ⟨⟨pid, mode.signal, decide (pid ∈ host.kernel.children)⟩ :: new, ?_, ?_, ?_⟩
      · have later : stopProcesses now mode (pid :: rest) host =
            stopProcesses now mode rest (stopProcess now mode pid host) := rfl
        rw [later, signals]
        exact List.append_assoc ..
      · rw [List.map_cons, pids]
      · exact List.forall_mem_cons.mpr ⟨rfl, modes⟩

theorem ChildInstance.concerns_none (inst : ChildInstance) : inst.concerns none none = true := rfl

/-- What a stop makes of the services. -/
inductive StopStep (env : ServiceEnv) (request : StopRequest) (services : Services) :
    Except CoreError Unit × Services → Prop where
  | missing (error : CoreError)
      (absent : env.metadata.instantiateOne Service.new "*" request.name services.instances =
        none) :
      StopStep env request services (.error error, services)
  | stopped (key : Ustr) (service : Service) (lastState : ServiceState)
      (found : env.metadata.instantiateOne Service.new "*" request.name services.instances =
        some (key, service)) :
      StopStep env request services
        (.ok (), {
          instances := services.instances.insert key { service with
            instances := service.stoppedInstances none request.onlyUser request.index
            lastState }
          host := stopProcesses env.now request.mode
            (service.stoppedPids none request.onlyUser request.index) services.host })

theorem stop_cases (env : ServiceEnv) (request : StopRequest) (services : Services) :
    StopStep env request services (stop env request services) := by
  cases found : env.metadata.instantiateOne Service.new "*" request.name services.instances with
  | none =>
      simp only [stop, found]
      exact .missing _ found
  | some entry =>
      obtain ⟨key, service⟩ := entry
      obtain ⟨lastState, stopped⟩ := stopService_eq env.now request.mode none request.onlyUser
        request.index service services.host
      simp only [stop, found, stopped]
      exact .stopped key service lastState found

/-- A pid a stop signals is the one of an instance. -/
theorem Service.pid_of_mem_stoppedPids {service : Service} {index : Option Nat} {pid : Nat}
    (member : pid ∈ service.stoppedPids key user index) :
    ∃ inst ∈ service.instances, inst.pid = some pid := by
  have of_instance : ∀ {inst : ChildInstance}, inst.stoppedPid key user = some pid →
      inst.pid = some pid := by
    intro inst stopped
    rw [ChildInstance.stoppedPid] at stopped
    split at stopped
    · exact stopped
    · cases stopped
  cases index with
  | none =>
      obtain ⟨inst, inside, stopped⟩ := List.mem_filterMap.mp member
      exact ⟨inst, inside, of_instance stopped⟩
  | some index =>
      obtain ⟨inst, at_, stopped⟩ := Option.bind_eq_some_iff.mp (Option.mem_toList.mp member)
      exact ⟨inst, List.mem_of_getElem? at_, of_instance stopped⟩

/-- An instance after a stop is one from before it, stopped or not. -/
theorem Service.mem_stoppedInstances {service : Service} {index : Option Nat}
    {inst : ChildInstance} (member : inst ∈ service.stoppedInstances key user index) :
    ∃ original ∈ service.instances, inst = original ∨ inst = original.stopped key user := by
  cases index with
  | none =>
      obtain ⟨original, inside, rfl⟩ := List.mem_map.mp member
      exact ⟨original, inside, .inr rfl⟩
  | some index =>
      obtain ⟨position, at_⟩ := List.mem_iff_getElem?.mp member
      rw [Service.stoppedInstances, List.getElem?_modify] at at_
      obtain ⟨original, inside, same⟩ := Option.map_eq_some_iff.mp at_
      refine ⟨original, List.mem_of_getElem? inside, ?_⟩
      split at same
      · exact .inr same.symm
      · exact .inl same.symm

/-- A stop keeps what stopping an instance keeps. -/
theorem Service.map_stoppedInstances {β : Type} {view : ChildInstance → β}
    (blind : ∀ inst, view (inst.stopped key user) = view inst) (service : Service)
    (index : Option Nat) :
    (service.stoppedInstances key user index).map view = service.instances.map view := by
  cases index with
  | none =>
      rw [stoppedInstances, List.map_map]
      exact List.map_congr_left fun inst _ => blind inst
  | some index =>
      apply List.ext_getElem?
      intro position
      rw [stoppedInstances, List.getElem?_map, List.getElem?_modify, List.getElem?_map]
      cases service.instances[position]? with
      | none => rfl
      | some inst =>
          simp only [Option.map_eq_map, Option.map_some]
          split
          · rw [blind]
          · rfl

namespace ChildInstance

theorem pid_stopped (key user : Option Ustr) (inst : ChildInstance) :
    (inst.stopped key user).pid = inst.pid := by
  rw [stopped]
  split
  · cases handle : inst.handle <;> simp [ChildInstance.pid, handle, mark]
  · rfl

/-- An instance is stopped once, however often it is told to. -/
theorem stopped_stopped (key user : Option Ustr) (inst : ChildInstance) :
    (inst.stopped key user).stopped key user = inst.stopped key user := by
  have same : (inst.stopped key user).concerns key user = inst.concerns key user := by
    rw [stopped]
    split
    · split <;> rfl
    · rfl
  by_cases about : inst.concerns key user
  · have once : inst.stopped key user = match inst.handle with
        | some _ => { inst with state := .stopping, manuallyStopped := true }
        | none => inst.mark .inactive := if_pos about
    have again : (inst.stopped key user).concerns key user := same.trans about
    rw [stopped.eq_def key user (inst.stopped key user), if_pos again, once]
    cases handle : inst.handle <;> simp [handle, mark]
  · have kept : inst.stopped key user = inst := if_neg about
    rw [kept, kept]

theorem user_stopped (key user : Option Ustr) (inst : ChildInstance) :
    (inst.stopped key user).user = inst.user := by
  rw [stopped]
  split
  · split <;> rfl
  · rfl

end ChildInstance

/-- A stop keeps what holds of every instance, if stopping an instance does. -/
theorem Services.Every.stop {P : ChildInstance → Prop} {env : ServiceEnv} {request : StopRequest}
    {services : Services} {result : Except CoreError Unit × Services} (every : services.Every P)
    (keeps : ∀ inst, P inst → P (inst.stopped none request.onlyUser))
    (stopped : StopStep env request services result) : result.2.Every P := by
  cases stopped with
  | missing error absent => exact every
  | stopped key service lastState found =>
      refine every.insert rfl ?_
      intro inst member
      obtain ⟨original, inside, rfl | rfl⟩ := Service.mem_stoppedInstances member
      · exact every.instantiated found inst inside
      · exact keeps original (every.instantiated found original inside)

end Stops

/-! ## Sweeps -/

/-- A sweep only signals, and forgets the processes it signals. -/
theorem timeoutSweep_instances (env : ServiceEnv) (services : Services) :
    (timeoutSweep env services).instances = services.instances := by
  rw [timeoutSweep]
  generalize List.map Sigma.fst _ = expired
  induction expired generalizing services with
  | nil => rfl
  | cons pid rest ih => rw [List.foldl_cons, ih]; rfl

/-! ## Steps -/

section Starting

variable [SerdeJson] [TomlText] {env : ServiceEnv}

/-- Where an exit leads: the services after it and the start it asks for. -/
def afterExit (pid : Nat) (code : Int) (services : Services) : Services × Option StartRequest :=
  match recordExit pid code services with
  | (services, some (key, .restart)) => (services, some (.plain key))
  | (services, _) => (services, none)

/-- The start an exit asks for, handled. -/
theorem childExited_eq (pid : Nat) (code : Int) (services : Services) :
    (childExited env pid code services).2 =
      match afterExit pid code services with
      | (middle, some request) => (start env request middle).2
      | (middle, none) => middle := by
  rw [childExited, afterExit]
  rcases recordExit pid code services with ⟨middle, _ | ⟨key, _ | _⟩⟩ <;> rfl

/-- An exit to be handled, and the services it is taken from. -/
structure TakenExit where
  pid : Nat
  code : Int
  base : Services

/-- The exit an action handles. -/
def takeExit (services : Services) : ServiceAction → Option TakenExit
  | .childExited =>
      services.host.kernel.exits.head?.map fun exit =>
        { pid := exit.1, code := exit.2, base := services.updateKernel Kernel.unqueue }
  | .exit pid code =>
      if pid ∈ services.host.kernel.children then
        some { pid, code, base := services.updateKernel (·.reap pid) }
      else none
  | _ => none

omit [SerdeJson] [TomlText] in
/-- Taking an exit changes nothing but the kernel's lists. -/
theorem takeExit_base {services : Services} {action : ServiceAction} {taken : TakenExit}
    (took : takeExit services action = some taken) :
    taken.base.instances = services.instances ∧
      taken.base.host.runtime = services.host.runtime := by
  cases action with
  | childExited =>
      obtain ⟨exit, -, rfl⟩ := Option.map_eq_some_iff.mp took
      exact ⟨rfl, rfl⟩
  | exit pid code =>
      simp only [takeExit, Option.ite_none_right_eq_some, Option.some_inj] at took
      obtain ⟨-, rfl⟩ := took
      exact ⟨rfl, rfl⟩
  | _ => simp [takeExit] at took

/-- The part of a step before the start it makes, and that start. -/
def beforeStart (services : Services) (event : ServiceEnv × ServiceAction) :
    Services × Option StartRequest :=
  let env := event.1
  match event.2 with
  | .start request => (services, some request)
  | .stop request => ((stop env request services).2, none)
  | .reap pid code => (reapOnce pid code services, none)
  | .childExited | .exit _ _ =>
      match takeExit services event.2 with
      | some taken => afterExit taken.pid taken.code taken.base
      | none => (services, none)
  | .watchdogExpired fd =>
      match services.host.runtime.watchdogFds.lookup fd with
      | none => (services, none)
      | some binding =>
          match watchdogAction env binding with
          | .restart =>
              let name := instanceKeyName binding.serviceKey
              let services := services.updateRuntime (·.dropWatchdog fd binding.pid)
              match stop env (watchdogStop name) services with
              | (.ok (), services) => (services, some (.plain name))
              | (.error _, services) => (services, none)
          | _ => ((watchdogExpired env fd services).2, none)
  | .timeoutSweep => (timeoutSweep env services, none)

/-- What comes before the start of a step, by the kind of the step. -/
inductive BeforeStart (services : Services) :
    ServiceEnv × ServiceAction → Services × Option StartRequest → Prop where
  | start (env : ServiceEnv) (request : StartRequest) :
      BeforeStart services (env, .start request) (services, some request)
  | stop (env : ServiceEnv) (request : StopRequest) (result : Except CoreError Unit × Services)
      (stopped : StopStep env request services result) :
      BeforeStart services (env, .stop request) (result.2, none)
  | reap (env : ServiceEnv) (pid : Nat) (code : Int) (child : pid ∈ services.host.kernel.children) :
      BeforeStart services (env, .reap pid code)
        (services.updateKernel fun kernel => (kernel.reap pid).queue pid code, none)
  | idle (env : ServiceEnv) (action : ServiceAction) :
      BeforeStart services (env, action) (services, none)
  | exit (env : ServiceEnv) (action : ServiceAction) (taken : TakenExit)
      (took : takeExit services action = some taken) :
      BeforeStart services (env, action) (afterExit taken.pid taken.code taken.base)
  | signal (env : ServiceEnv) (fd : Nat) (binding : WatchdogBinding)
      (bound : services.host.runtime.watchdogFds.lookup fd = some binding) :
      BeforeStart services (env, .watchdogExpired fd)
        ((services.updateRuntime (·.dropWatchdog fd binding.pid)).updateKernel
          (·.kill binding.pid .sigabrt), none)
  | watchdog (env : ServiceEnv) (fd : Nat) (binding : WatchdogBinding)
      (result : Except CoreError Unit × Services) (asked : Option StartRequest)
      (bound : services.host.runtime.watchdogFds.lookup fd = some binding)
      (stopped : StopStep env (watchdogStop (instanceKeyName binding.serviceKey))
        (services.updateRuntime (·.dropWatchdog fd binding.pid)) result)
      (plain : ∀ request ∈ asked, request = .plain (instanceKeyName binding.serviceKey)) :
      BeforeStart services (env, .watchdogExpired fd) (result.2, asked)
  | sweep (env : ServiceEnv) :
      BeforeStart services (env, .timeoutSweep) (timeoutSweep env services, none)

theorem beforeStart_cases (services : Services) (event : ServiceEnv × ServiceAction) :
    BeforeStart services event (beforeStart services event) := by
  obtain ⟨env, action⟩ := event
  cases action with
  | start request => exact .start env request
  | stop request => exact .stop env request _ (stop_cases env request services)
  | timeoutSweep => exact .sweep env
  | reap pid code =>
      simp only [beforeStart, reapOnce]
      split
      · next child => exact .reap env pid code child
      · exact .idle env _
  | childExited | exit pid code =>
      simp only [beforeStart]
      split
      · next taken took => exact .exit env _ taken took
      · exact .idle env _
  | watchdogExpired fd =>
      cases bound : services.host.runtime.watchdogFds.lookup fd with
      | none =>
          simp only [beforeStart, bound]
          exact .idle env _
      | some binding =>
          have stopped := stop_cases env (watchdogStop (instanceKeyName binding.serviceKey))
            (services.updateRuntime (·.dropWatchdog fd binding.pid))
          cases action : watchdogAction env binding with
          | signal =>
              simp only [beforeStart, watchdogExpired, bound, action]
              exact .signal env fd binding bound
          | stop =>
              simp only [beforeStart, watchdogExpired, bound, action]
              exact .watchdog env fd binding _ none bound stopped (by simp)
          | restart =>
              simp only [beforeStart, bound, action]
              generalize stop env _ _ = result at stopped
              obtain ⟨_ | _, middle⟩ := result
              · exact .watchdog env fd binding _ none bound stopped (by simp)
              · exact .watchdog env fd binding _ _ bound stopped (by simp)

/-- A step is what comes before its start, and the start. -/
theorem serviceStep_eq (services : Services) (event : ServiceEnv × ServiceAction) :
    serviceStep services event =
      match beforeStart services event with
      | (middle, some request) => (start event.1 request middle).2
      | (middle, none) => middle := by
  obtain ⟨env, action⟩ := event
  cases action with
  | start request | stop request | reap pid code | timeoutSweep => rfl
  | childExited =>
      cases queued : services.host.kernel.exits with
      | nil => simp [serviceStep, handleQueued, beforeStart, takeExit, queued]
      | cons exit rest =>
          simp only [serviceStep, handleQueued, beforeStart, takeExit, queued, List.head?_cons,
            Option.map_some]
          exact childExited_eq ..
  | exit pid code =>
      by_cases child : pid ∈ services.host.kernel.children
      · simp only [serviceStep, handleExit, beforeStart, takeExit, child, if_true]
        exact childExited_eq ..
      · simp only [serviceStep, handleExit, beforeStart, takeExit, child, if_false]
  | watchdogExpired fd =>
      cases bound : services.host.runtime.watchdogFds.lookup fd with
      | none => simp only [serviceStep, watchdogExpired, beforeStart, bound]
      | some binding =>
          cases action : watchdogAction env binding with
          | signal | stop => simp only [serviceStep, beforeStart, bound, action]
          | restart =>
              simp only [serviceStep, watchdogExpired, beforeStart, bound, action]
              split <;> rename_i stopped <;> simp only [stopped]

end Starting

/-! ## A small system -/

/-- A service with one command. -/
def workerService : ServiceMetadata where
  name := "worker"
  run := .one { exec := "/bin/worker", args := [], variableName := none, executor := none }
  type := .fork
  space := .system
  singleton := false
  userSource := none
  transport := none
  restart := none
  cgroup := none
  namespaces := none
  watchdog := none

/-- A system with one service in the group `app`, whose next processes get the
process ids from `pid` on and the timer `pid`. -/
def loneEnv (metadata : ServiceMetadata) (pid : Nat) : ServiceEnv where
  metadata := .ofGroup "static" "app" [metadata]
  facets := ∅
  scopes := ∅
  heap := { values := ∅, defaults := ∅, envMappings := ∅, environment := fun _ => none }
  answer index := .created (pid + index) none (some pid)
  now := 0
  timeout := 5

end Rind
