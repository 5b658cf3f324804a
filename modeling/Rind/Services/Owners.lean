import Rind.Services.Steps

/-!
# Owners of processes

Every process that is noted or still runs should be the process of an instance
of some service.  A start that fails after some of its processes have been
started drops their instances, and an exit drops every instance that is not
live, with a process or without.
-/

namespace Rind

open Runs

/-- A process is the one of an instance of some service. -/
def Services.Owner (services : Services) (pid : Nat) : Prop :=
  ∃ key service, services.instances.lookup key = some service ∧
    some pid ∈ service.instances.map ChildInstance.pid

/-- A process that runs and was not killed. -/
def Kernel.Running (kernel : Kernel) (pid : Nat) : Prop :=
  ∃ process, kernel.children.lookup pid = some process ∧ process.killed = false

/-- Every noted process and every process that runs and was not killed has an
owner. -/
structure Services.Owned (services : Services) : Prop where
  noted : ∀ pid ∈ services.host.runtime.pidMap, services.Owner pid
  running : ∀ pid, services.host.kernel.Running pid → services.Owner pid

/-- Moreover no process whose exit waits to be handled is a child again. -/
structure Services.OwnedApart (services : Services) : Prop extends services.Owned where
  waiting : ∀ exit ∈ services.host.kernel.exits, exit.1 ∉ services.host.kernel.children

/-- An owner stays one where its service keeps its processes. -/
theorem Services.Owner.insert {services final : Services} {key : Ustr} {service : Service}
    {pid : Nat} (owner : services.Owner pid)
    (stored : final.instances = services.instances.insert key service)
    (keeps : ∀ old, services.instances.lookup key = some old →
      some pid ∈ old.instances.map ChildInstance.pid →
      some pid ∈ service.instances.map ChildInstance.pid) : final.Owner pid := by
  obtain ⟨other, old, found, member⟩ := owner
  by_cases same : other = key
  · subst same
    exact ⟨other, service, by rw [stored, AList.lookup_insert], keeps old found member⟩
  · exact ⟨other, old, by rw [stored, AList.lookup_insert_ne same, found], member⟩

/-- What a start or a stop stores keeps the owners, if the service keeps its
processes. -/
theorem Services.Owner.store {services final : Services}
    {registry : MetadataRegistry ServiceMetadata} {name key : Ustr} {service service' : Service}
    {pid : Nat} (owner : services.Owner pid)
    (found : registry.instantiateOne Service.new "*" name services.instances =
      some (key, service))
    (stored : final.instances = services.instances.insert key service')
    (keeps : some pid ∈ service.instances.map ChildInstance.pid →
      some pid ∈ service'.instances.map ChildInstance.pid) : final.Owner pid := by
  refine owner.insert stored ?_
  intro old lookup member
  obtain ⟨-, kept | ⟨absent, -⟩⟩ := MetadataRegistry.instantiateOne_cases found
  · rw [lookup, Option.some_inj] at kept
    subst kept
    exact keeps member
  · rw [lookup] at absent
    cases absent

/-! ## Kernels -/

namespace Kernel

variable {kernel : Kernel} {pid other : Nat} {process : Process} {signal : Signal}

/-- A signal starts nothing. -/
theorem Running.of_kill (running : (kernel.kill pid signal).Running other) :
    kernel.Running other ∧ ¬(other = pid ∧ signal = .sigkill) := by
  obtain ⟨process, found, alive⟩ := running
  rw [lookup_kill, Option.map_eq_some_iff] at found
  obtain ⟨before, found, same⟩ := found
  split at same
  · subst same
    cases alive
  · next spared =>
      subst same
      exact ⟨⟨before, found, alive⟩, spared⟩

theorem Running.of_reap (running : (kernel.reap pid).Running other) :
    kernel.Running other ∧ other ≠ pid := by
  obtain ⟨process, found, alive⟩ := running
  rw [lookup_reap] at found
  split at found
  · cases found
  · next other_ne => exact ⟨⟨process, found, alive⟩, other_ne⟩

theorem Running.of_fork (fresh : pid ∉ kernel.children)
    (running : (kernel.fork pid process).Running other) :
    kernel.Running other ∨ other = pid := by
  obtain ⟨process, found, alive⟩ := running
  rw [lookup_fork fresh] at found
  split at found
  · next same => exact .inr same
  · exact .inl ⟨process, found, alive⟩

end Kernel

/-! ## Starts -/

theorem registerProcess_pidMap (metadata : ServiceMetadata) (registryKey : Ustr)
    (branch user : Option Ustr) (pid : Nat) (answer : SpawnAnswer) (runtime : ServiceRuntime) :
    (registerProcess metadata registryKey branch user pid answer runtime).pidMap =
      runtime.pidMap.insert pid registryKey := by
  unfold registerProcess
  split <;> rfl

/-- The answers of an environment create the process. -/
def ServiceEnv.Creates (env : ServiceEnv) (pid : Nat) : Prop :=
  ∃ index cgroup timer, env.answer index = .created pid cgroup timer

/-- What a start of processes adds to a host: processes its instances have. -/
structure Host.Grows (env : ServiceEnv) (host : Host) (pids : List (Option Nat)) (final : Host) :
    Prop where
  noted : ∀ pid ∈ final.runtime.pidMap, pid ∈ host.runtime.pidMap ∨ some pid ∈ pids
  running : ∀ pid, final.kernel.Running pid → host.kernel.Running pid ∨ some pid ∈ pids
  children : ∀ pid ∈ final.kernel.children, pid ∈ host.kernel.children ∨ env.Creates pid
  exits : final.kernel.exits = host.kernel.exits

theorem Host.Grows.refl (env : ServiceEnv) (host : Host) : host.Grows env [] host :=
  ⟨fun _ => .inl, fun _ => .inl, fun _ => .inl, rfl⟩

theorem Spawned.grows {env : ServiceEnv} {service : Service} {ctx : Option ServiceBranchContext}
    {registryKey : Ustr} {run : RunOption} {index : Nat} {host final : Host}
    {inst : ChildInstance}
    (spawned : Spawned env service ctx registryKey run (env.answer index) host inst final) :
    host.Grows env [inst.pid] final := by
  obtain ⟨launch, pid, ⟨cgroup, timer, answered⟩, native, fresh, rfl, runtime_eq, kernel_eq⟩ :=
    spawned
  have pid_eq : (ChildInstance.new ((ctx.bind (·.key)).getD "") launch.user (some ⟨pid⟩)).pid =
      some pid := rfl
  rw [pid_eq]
  constructor
  · intro other member
    rw [runtime_eq, registerProcess_pidMap, AList.mem_insert] at member
    rcases member with rfl | member
    · exact .inr List.mem_cons_self
    · exact .inl member
  · intro other running
    rw [kernel_eq] at running
    split at running
    · exact .inl running
    · rcases running.of_fork fresh with running | rfl
      · exact .inl running
      · exact .inr List.mem_cons_self
  · intro other child
    rw [kernel_eq] at child
    split at child
    · exact .inl child
    · rw [← AList.lookup_isSome, Kernel.lookup_fork fresh] at child
      split at child
      · next same => exact .inr ⟨index, cgroup, timer, by rw [same, answered]⟩
      · exact .inl (AList.lookup_isSome.mp child)
  · rw [kernel_eq]
    split
    · rfl
    · exact Kernel.exits_fork

theorem SpawnedAll.grows {env : ServiceEnv} {service : Service}
    {ctx : Option ServiceBranchContext} {registryKey : Ustr} {index : Nat} {host final : Host}
    {insts : List ChildInstance}
    (spawned : SpawnedAll env service ctx registryKey index host insts final) :
    host.Grows env (insts.map ChildInstance.pid) final := by
  induction spawned with
  | nil index host => exact .refl env host
  | cons run first others ih =>
      have one := first.grows
      constructor
      · intro pid member
        rcases ih.noted pid member with member | member
        · rcases one.noted pid member with member | member
          · exact .inl member
          · exact .inr (List.mem_cons.mpr (.inl (List.mem_singleton.mp member)))
        · exact .inr (List.mem_cons_of_mem _ member)
      · intro pid running
        rcases ih.running pid running with running | member
        · rcases one.running pid running with running | member
          · exact .inl running
          · exact .inr (List.mem_cons.mpr (.inl (List.mem_singleton.mp member)))
        · exact .inr (List.mem_cons_of_mem _ member)
      · intro pid child
        rcases ih.children pid child with child | created
        · exact one.children pid child
        · exact .inr created
      · rw [ih.exits, one.exits]

/-- A spawn that fails without leaving its process behind adds nothing. -/
theorem SpawnFailed.grows {env : ServiceEnv} {collected : Bool} {index : Nat}
    {host final : Host} (failed : SpawnFailed collected (env.answer index) host final)
    (whole : ∀ pid error, env.answer index ≠ .abandoned pid error) :
    host.Grows env [] final := by
  cases failed with
  | refused => exact .refl env host
  | abandoned pid error process left => exact absurd left (whole pid error)
  | killed pid process kernel fresh answered kernel_eq =>
      subst kernel_eq
      refine ⟨fun _ => .inl, ?_, ?_, ?_⟩
      · intro other running
        obtain ⟨running, spared⟩ := running.of_kill
        split at running
        · exact .inl running
        · rcases running.of_fork fresh with running | rfl
          · exact .inl running
          · exact absurd ⟨rfl, rfl⟩ spared
      · intro other child
        rw [Kernel.mem_children_kill] at child
        split at child
        · exact .inl child
        · rw [← AList.lookup_isSome, Kernel.lookup_fork fresh] at child
          split at child
          · next same =>
              obtain ⟨cgroup, timer, answered⟩ := answered
              exact .inr ⟨index, cgroup, timer, by rw [same, answered]⟩
          · exact .inl (AList.lookup_isSome.mp child)
      · split
        · rfl
        · exact Kernel.exits_fork

/-- The host may grow by processes that have owners. -/
theorem Services.OwnedApart.grow {services final : Services} {env : ServiceEnv}
    {pids : List (Option Nat)} (owned : services.OwnedApart)
    (grows : services.host.Grows env pids final.host)
    (apart : ∀ pid, env.Creates pid → ∀ exit ∈ services.host.kernel.exits, exit.1 ≠ pid)
    (old : ∀ pid, services.Owner pid → final.Owner pid)
    (new : ∀ pid, some pid ∈ pids → final.Owner pid) : final.OwnedApart := by
  constructor
  · constructor
    · intro pid member
      rcases grows.noted pid member with member | member
      · exact old pid (owned.noted pid member)
      · exact new pid member
    · intro pid running
      rcases grows.running pid running with running | member
      · exact old pid (owned.running pid running)
      · exact new pid member
  · intro exit member child
    rw [grows.exits] at member
    rcases grows.children exit.1 child with child | created
    · exact owned.waiting exit member child
    · exact apart exit.1 created exit member rfl

section Starts

variable [SerdeJson] [TomlText]

/-- The executor leaves no process behind where it fails. -/
def LeavesNone (env : ServiceEnv) (service : Service) (ctx : Option ServiceBranchContext)
    (registryKey : Ustr) (run : RunOption) (answer : SpawnAnswer) : Prop :=
  ∀ launch, prepare env service ctx registryKey run = .ok launch → launch.executor = .native →
    ∀ pid error, answer ≠ .abandoned pid error

/-- A start that fails does so at its first run option, and the executor leaves
no process of it behind. -/
def FailsAtOnce (env : ServiceEnv) (request : StartRequest) (services : Services) : Prop :=
  ∀ key service error final,
    env.metadata.instantiateOne Service.new "*" request.name services.instances =
      some (key, service) →
    (request.deferred ∨ service.metadata.registersTransport = false) →
    request.held service = false →
    spawnAll env service request.context (ensureScopedName request.name) services.host =
      (.error error, final) →
    ∃ run rest, service.metadata.run.asMany = run :: rest ∧
      (spawnProcess env service request.context (ensureScopedName request.name)
        ((resolveRunOption env.heap run).getD run) (env.answer 0) services.host).1.isOk = false ∧
      LeavesNone env service request.context (ensureScopedName request.name)
        ((resolveRunOption env.heap run).getD run) (env.answer 0)

omit [TomlText] in
theorem spawnProcess_grows {env : ServiceEnv} {service : Service}
    {ctx : Option ServiceBranchContext} {registryKey : Ustr} {run : RunOption} {index : Nat}
    {host final : Host} {error : CoreError}
    (failed : spawnProcess env service ctx registryKey run (env.answer index) host =
      (.error error, final))
    (whole : LeavesNone env service ctx registryKey run (env.answer index)) :
    host.Grows env [] final := by
  cases prepared : prepare env service ctx registryKey run with
  | error error =>
      simp only [spawnProcess, prepared] at failed
      cases failed
      exact .refl env host
  | ok launch =>
      cases executor : launch.executor with
      | native =>
          exact SpawnFailed.grows (spawnProcess_error failed) (whole launch prepared executor)
      | remote =>
          simp only [spawnProcess, prepared, executor, Executor.spawn] at failed
          cases answer : env.answer index <;>
            (simp only [answer] at failed; cases failed; exact .refl env host)
      | ima =>
          simp only [spawnProcess, prepared, executor, Executor.spawn] at failed
          cases failed
          exact .refl env host

/-- A start creates at most the processes it is answered with. -/
theorem children_start {env : ServiceEnv} (request : StartRequest) (services : Services)
    (whole : ∀ index number error, env.answer index ≠ .abandoned number error) :
    ∀ number ∈ (start env request services).2.host.kernel.children,
      number ∈ services.host.kernel.children ∨ env.Creates number := by
  have step : StartStep env request services (start env request services).2 :=
    start_cases services
  generalize (start env request services).2 = after at step ⊢
  cases step with
  | missing absent => exact fun _ => .inl
  | postponed key service found later => exact fun _ => .inl
  | tried key service service' final found now outcome =>
      cases outcome with
      | held held => exact fun _ => .inl
      | started free insts final spawned => exact (spawnAll_cases spawned).grows.children
      | failed free error final lastState spawned =>
          obtain ⟨insts, middle, before, failed⟩ := spawnAll_cases spawned
          intro number child
          rcases (failed.grows (whole _)).children number child with child | created
          · exact before.grows.children number child
          · exact .inr created

variable {env : ServiceEnv} {request : StartRequest}

theorem Services.OwnedApart.start {services final : Services} (owned : services.OwnedApart)
    (early : FailsAtOnce env request services)
    (apart : ∀ pid, env.Creates pid → ∀ exit ∈ services.host.kernel.exits, exit.1 ≠ pid)
    (started : StartStep env request services final) : final.OwnedApart := by
  have blind : ∀ (inst : ChildInstance) state, (inst.mark state).pid = inst.pid :=
    fun _ _ => rfl
  cases started with
  | missing absent => exact owned
  | postponed key service found later =>
      refine owned.grow (.refl env _) apart ?_ (by simp)
      exact fun pid owner => owner.store found rfl id
  | tried key service service' last found now outcome =>
      cases outcome with
      | held running =>
          refine owned.grow (.refl env _) apart ?_ (by simp)
          exact fun pid owner => owner.store found rfl id
      | started free insts last spawned =>
          have pids : (request.settle (service.instances ++ insts)).map ChildInstance.pid =
              service.instances.map ChildInstance.pid ++ insts.map ChildInstance.pid := by
            rw [StartRequest.map_settle blind, List.map_append]
          refine owned.grow (SpawnedAll.grows (spawnAll_cases spawned)) apart ?_ ?_
          · intro pid owner
            refine owner.store found rfl ?_
            intro member
            rw [pids]
            exact List.mem_append_left _ member
          · intro pid member
            refine ⟨key, _, AList.lookup_insert _, ?_⟩
            rw [pids]
            exact List.mem_append_right _ member
      | failed free error last lastState spawned =>
          obtain ⟨run, rest, runs, first, whole⟩ :=
            early key service error last found now free spawned
          obtain ⟨error, failed⟩ := spawnAll_first runs first spawned
          refine owned.grow (spawnProcess_grows failed whole) apart ?_ (by simp)
          intro pid owner
          refine owner.store found rfl ?_
          intro member
          rw [StartRequest.map_spoil blind]
          exact member

end Starts

/-! ## Exits -/

/-- An exit that is not followed by a restart finds every other instance of the
service live that has a process. -/
def ExitKeepsProcesses (pid : Nat) (code : Int) (services : Services) : Prop :=
  ∀ key service index inst, services.host.runtime.pidMap.lookup pid = some key →
    services.instances.lookup key = some service → service.findByPid pid = some index →
    service.instances[index]? = some inst →
    exitAction service.metadata inst code = .stopDependents →
    ∀ other ∈ service.instances, other.handle.isSome → other.pid ≠ some pid →
      other.state.isLive

theorem forget_pidMap (pid : Nat) (runtime : ServiceRuntime) :
    (runtime.forget pid).pidMap = runtime.pidMap.erase pid := rfl

theorem disarmWatchdogPid_pidMap (pid : Nat) (runtime : ServiceRuntime) :
    (runtime.disarmWatchdogPid pid).pidMap = runtime.pidMap := by
  unfold ServiceRuntime.disarmWatchdogPid
  split <;> rfl

/-- A process that is no child may be forgotten. -/
theorem Services.OwnedApart.forget {services final : Services} {pid : Nat}
    (owned : services.OwnedApart) (gone : pid ∉ services.host.kernel.children)
    (kernel : final.host.kernel = services.host.kernel)
    (pidMap : final.host.runtime.pidMap = services.host.runtime.pidMap.erase pid)
    (others : ∀ other, other ≠ pid → services.Owner other → final.Owner other) :
    final.OwnedApart := by
  constructor
  · constructor
    · intro other member
      rw [pidMap, AList.mem_erase] at member
      exact others other member.1 (owned.noted other member.2)
    · intro other running
      rw [kernel] at running
      refine others other ?_ (owned.running other running)
      rintro rfl
      obtain ⟨process, found, -⟩ := running
      exact gone (AList.lookup_isSome.mp (by rw [found, Option.isSome_some]))
  · rw [kernel]
    exact owned.waiting

/-- An instance that has not exited and is live, or is kept by a restart, stays
in the list. -/
theorem Service.mem_afterExit {service : Service} {index : Nat} {inst other : ChildInstance}
    {code : Int} (at_ : service.instances[index]? = some inst) (apart : other.pid ≠ inst.pid)
    (member : other ∈ service.instances)
    (live : exitAction service.metadata inst code = .stopDependents → other.state.isLive) :
    other ∈ (service.afterExit index inst code).instances := by
  have updated : other ∈ service.instances.set index (inst.exited service.metadata code) := by
    obtain ⟨position, inside⟩ := List.mem_iff_getElem?.mp member
    have elsewhere : index ≠ position := by
      rintro rfl
      rw [at_, Option.some_inj] at inside
      subst inside
      exact apart rfl
    apply List.mem_iff_getElem?.mpr
    exact ⟨position, by rw [List.getElem?_set_ne elsewhere, inside]⟩
  rw [Service.afterExit]
  cases action : exitAction service.metadata inst code with
  | restart => exact updated
  | stopDependents => exact List.mem_filter.mpr ⟨updated, live action⟩

/-- The exit of a process that is no child keeps all others owned. -/
theorem Services.OwnedApart.afterExit {services : Services} {pid : Nat} {code : Int}
    (owned : services.OwnedApart) (gone : pid ∉ services.host.kernel.children)
    (keeps : ExitKeepsProcesses pid code services) :
    (afterExit pid code services).1.OwnedApart := by
  have step := recordExit_cases pid code services
  rw [Rind.afterExit]
  generalize recordExit pid code services = result at step
  cases step with
  | unknown noted => exact owned
  | unregistered key noted absent => exact owned.forget gone rfl rfl fun _ _ owner => owner
  | unheld key service noted found without =>
      exact owned.forget gone rfl (disarmWatchdogPid_pidMap ..) fun _ _ owner => owner
  | handled key service index inst noted found position at_ =>
      have kept : ∀ final : Services, final.host.kernel = services.host.kernel →
          final.host.runtime =
            (services.host.runtime.forget pid).disarmWatchdogPid pid →
          final.instances = services.instances.insert key (service.afterExit index inst code) →
          final.OwnedApart := by
        intro final kernel runtime stored
        refine owned.forget gone kernel ?_ ?_
        · rw [runtime, disarmWatchdogPid_pidMap, forget_pidMap]
        · intro other other_ne owner
          refine owner.insert stored ?_
          intro old lookup member
          rw [found, Option.some_inj] at lookup
          subst lookup
          obtain ⟨running, inside, running_pid⟩ := List.mem_map.mp member
          obtain ⟨same, at_same, -, exited_pid⟩ := service.instance_of_findByPid position
          rw [at_, Option.some_inj] at at_same
          subst at_same
          have apart : running.pid ≠ inst.pid := by
            rw [running_pid, exited_pid]
            exact fun same => other_ne (Option.some_inj.mp same)
          refine List.mem_map.mpr ⟨running, service.mem_afterExit at_ apart inside ?_,
            running_pid⟩
          intro action
          refine keeps key service index inst noted found position at_ action running inside ?_ ?_
          · obtain ⟨handle, present, -⟩ := Option.map_eq_some_iff.mp running_pid
            rw [present, Option.isSome_some]
          · rw [← exited_pid]
            exact apart
      cases exitAction service.metadata inst code with
      | restart => exact kept _ rfl rfl rfl
      | stopDependents => exact kept _ rfl rfl rfl

/-! ## Signals -/

/-- A host on which processes have at most been signalled. -/
structure Host.Signalled (host final : Host) : Prop where
  pidMap : final.runtime.pidMap = host.runtime.pidMap
  exits : final.kernel.exits = host.kernel.exits
  children : ∀ pid, pid ∈ final.kernel.children ↔ pid ∈ host.kernel.children
  running : ∀ pid, final.kernel.Running pid → host.kernel.Running pid

namespace Host.Signalled

variable {host middle final : Host}

theorem refl (host : Host) : host.Signalled host := ⟨rfl, rfl, fun _ => .rfl, fun _ => id⟩

theorem trans (first : host.Signalled middle) (second : middle.Signalled final) :
    host.Signalled final where
  pidMap := second.pidMap.trans first.pidMap
  exits := second.exits.trans first.exits
  children pid := (second.children pid).trans (first.children pid)
  running pid alive := first.running pid (second.running pid alive)

theorem kill {pid : Nat} {signal : Signal} (kernel : final.kernel = host.kernel.kill pid signal)
    (pidMap : final.runtime.pidMap = host.runtime.pidMap) : host.Signalled final where
  pidMap := pidMap
  exits := by rw [kernel]; rfl
  children other := by rw [kernel, Kernel.mem_children_kill]
  running other alive := by
    rw [kernel] at alive
    exact alive.of_kill.1

theorem stopProcess (now : Nat) (mode : StopMode) (pid : Nat) (host : Host) :
    host.Signalled (stopProcess now mode pid host) := kill rfl (disarmWatchdogPid_pidMap ..)

theorem stopProcesses (now : Nat) (mode : StopMode) (pids : List Nat) (host : Host) :
    host.Signalled (stopProcesses now mode pids host) := by
  induction pids generalizing host with
  | nil => exact refl host
  | cons pid rest ih => exact (stopProcess now mode pid host).trans (ih _)

theorem timeoutSweep (env : ServiceEnv) (services : Services) :
    services.host.Signalled (timeoutSweep env services).host := by
  rw [Rind.timeoutSweep]
  generalize List.map Sigma.fst _ = expired
  induction expired generalizing services with
  | nil => exact refl _
  | cons pid rest ih =>
      have first : services.host.Signalled
          ((services.updateKernel (·.kill pid .sigkill)).updateRuntime (·.unstop pid)).host :=
        kill rfl rfl
      exact first.trans (ih _)

end Host.Signalled

/-- Signals keep all processes owned. -/
theorem Services.OwnedApart.signalled {services final : Services} (owned : services.OwnedApart)
    (signalled : services.host.Signalled final.host)
    (owners : ∀ pid, services.Owner pid → final.Owner pid) : final.OwnedApart := by
  constructor
  · constructor
    · intro pid member
      rw [signalled.pidMap] at member
      exact owners pid (owned.noted pid member)
    · intro pid alive
      exact owners pid (owned.running pid (signalled.running pid alive))
  · intro exit member child
    rw [signalled.exits] at member
    exact owned.waiting exit member ((signalled.children exit.1).mp child)

theorem Services.OwnedApart.stop {services : Services} {env : ServiceEnv}
    {request : StopRequest} {result : Except CoreError Unit × Services}
    (owned : services.OwnedApart) (stopped : StopStep env request services result) :
    result.2.OwnedApart := by
  cases stopped with
  | missing error absent => exact owned
  | stopped key service lastState found =>
      refine owned.signalled (.stopProcesses ..) ?_
      intro pid owner
      refine owner.store found rfl ?_
      rw [Service.map_stoppedInstances (ChildInstance.pid_stopped _ _)]
      exact id

/-! ## Steps -/

/-- Taking an exit leaves a process that is no child. -/
theorem Services.OwnedApart.takeExit {services : Services} {action : ServiceAction}
    {taken : TakenExit} (owned : services.OwnedApart)
    (took : takeExit services action = some taken) :
    taken.base.OwnedApart ∧ taken.pid ∉ taken.base.host.kernel.children := by
  cases action with
  | childExited =>
      obtain ⟨exit, first, rfl⟩ := Option.map_eq_some_iff.mp took
      refine ⟨⟨⟨owned.noted, owned.running⟩, ?_⟩, ?_⟩
      · exact fun exit member => owned.waiting exit (List.mem_of_mem_tail member)
      · exact owned.waiting exit (List.mem_of_mem_head? first)
  | exit pid code =>
      simp only [Rind.takeExit, Option.ite_none_right_eq_some, Option.some_inj] at took
      obtain ⟨-, rfl⟩ := took
      have gone : ∀ other, other ∈ (services.host.kernel.reap pid).children →
          other ≠ pid ∧ other ∈ services.host.kernel.children := by
        intro other child
        exact AList.mem_erase.mp child
      refine ⟨⟨⟨owned.noted, ?_⟩, ?_⟩, fun child => (gone pid child).1 rfl⟩
      · exact fun other running => owned.running other running.of_reap.1
      · exact fun exit member child => owned.waiting exit member (gone exit.1 child).2
  | _ => simp [Rind.takeExit] at took

section Steps

variable [SerdeJson] [TomlText]

/-- A step whose exit keeps the other processes, and whose start, if it fails,
fails at once and otherwise gets no process whose former exit is still waiting. -/
def KeepsOwners (services : Services) (event : ServiceEnv × ServiceAction) : Prop :=
  (∀ taken, takeExit services event.2 = some taken →
    ExitKeepsProcesses taken.pid taken.code taken.base) ∧
  ∀ request ∈ (beforeStart services event).2,
    FailsAtOnce event.1 request (beforeStart services event).1 ∧
      ∀ pid, event.1.Creates pid →
        ∀ exit ∈ (beforeStart services event).1.host.kernel.exits, exit.1 ≠ pid

theorem Services.OwnedApart.beforeStart {services : Services}
    {event : ServiceEnv × ServiceAction} (owned : services.OwnedApart)
    (keeps : ∀ taken, Rind.takeExit services event.2 = some taken →
      ExitKeepsProcesses taken.pid taken.code taken.base) :
    (beforeStart services event).1.OwnedApart := by
  have step := beforeStart_cases services event
  generalize Rind.beforeStart services event = result at step
  cases step with
  | start env request | idle env action => exact owned
  | stop env request result stopped => exact owned.stop stopped
  | reap env pid code child =>
      have gone : ∀ other, other ∈ (services.host.kernel.reap pid).children →
          other ≠ pid ∧ other ∈ services.host.kernel.children :=
        fun other child => AList.mem_erase.mp child
      refine ⟨⟨owned.noted, fun other running => owned.running other ?_⟩, ?_⟩
      · have running : (services.host.kernel.reap pid).Running other := running
        exact running.of_reap.1
      · intro exit member child
        rcases List.mem_append.mp member with member | member
        · exact owned.waiting exit member (gone exit.1 child).2
        · rw [List.mem_singleton.mp member] at child
          exact (gone pid child).1 rfl
  | exit env action taken took =>
      obtain ⟨based, gone⟩ := owned.takeExit took
      exact based.afterExit gone (keeps taken took)
  | signal env fd binding bound =>
      exact owned.signalled (.kill rfl rfl) fun _ owner => owner
  | watchdog env fd binding result asked bound stopped plain =>
      have dropped :
          (services.updateRuntime (·.dropWatchdog fd binding.pid)).OwnedApart :=
        ⟨⟨owned.noted, owned.running⟩, owned.waiting⟩
      exact dropped.stop stopped
  | sweep env =>
      refine owned.signalled (.timeoutSweep env services) ?_
      rintro pid ⟨key, service, found, member⟩
      exact ⟨key, service, by rw [timeoutSweep_instances, found], member⟩

theorem Services.OwnedApart.serviceStep {services : Services} {event : ServiceEnv × ServiceAction}
    (owned : services.OwnedApart) (keeps : KeepsOwners services event) :
    (serviceStep services event).OwnedApart := by
  have before := owned.beforeStart keeps.1
  have starts := keeps.2
  rw [serviceStep_eq]
  generalize Rind.beforeStart services event = result at before starts
  obtain ⟨middle, _ | request⟩ := result
  · exact before
  · obtain ⟨early, apart⟩ := starts request rfl
    exact before.start early apart (start_cases middle)

omit [SerdeJson] [TomlText] in
/-- Nothing runs at first. -/
theorem ownedApart_boot : Services.boot.OwnedApart := by
  constructor
  · constructor
    · intro pid noted
      exact absurd noted (AList.notMem_empty pid)
    · intro pid running
      obtain ⟨process, found, -⟩ := running
      rw [Services.boot, AList.lookup_empty] at found
      cases found
  · intro exit member
    cases member

/-- In every state of a run whose steps keep the owners, each noted process and
each that runs and was not killed is the process of an instance. -/
theorem processes_owned {events : List (ServiceEnv × ServiceAction)}
    (keeps : Along serviceStep KeepsOwners .boot events) :
    (Runs.run serviceStep .boot events).Owned := by
  have owned : (Runs.run serviceStep .boot events).OwnedApart :=
    keeps.invariant (fun _ _ owned keeps => owned.serviceStep keeps) ownedApart_boot
  exact owned.toOwned

end Steps

/-! ## Services with one command and with two -/

open scoped Compact

/-- A service is started and exits. -/
def workedOnce : List (ServiceEnv × ServiceAction) :=
  [(loneEnv workerService 100, .start (.plain "app:worker")),
    (loneEnv workerService 101, .exit 100 0)]

theorem processes_owned_worked : (Runs.run serviceStep .boot workedOnce).Owned := by
  refine processes_owned ⟨⟨by simp [takeExit], ?_⟩, ⟨?_, ?_⟩, trivial⟩
  · intro request asked
    have started : (beforeStart .boot (loneEnv workerService 100,
        ServiceAction.start (.plain "app:worker"))).2 = some (.plain "app:worker") := rfl
    rw [started, Option.mem_some_iff] at asked
    subst asked
    refine ⟨?_, fun _ _ exit member => by cases member⟩
    intro key service error final found now free spawned
    have made : (loneEnv workerService 100).metadata.instantiateOne Service.new "*" "app:worker"
        Services.boot.instances = some ("app:worker@static", .new workerService) := by
      decide +kernel
    have succeeds : (spawnAll (loneEnv workerService 100) (.new workerService) none
        (ensureScopedName "app:worker") Services.boot.host).1.isOk = true := by
      decide +kernel
    have same := Option.some_inj.mp (found.symm.trans made)
    cases same
    have failed := congrArg (fun result => result.1.isOk) spawned
    exact absurd (succeeds.symm.trans failed) (by simp [Except.isOk, Except.toBool])
  · intro taken took key service index inst noted found position at_ action other member running
      apart
    cases took
    have key_eq : some "app:worker@static" = some key :=
      (by decide +kernel : _ = some "app:worker@static").symm.trans noted
    cases key_eq
    have alone : ((serviceStep .boot (loneEnv workerService 100,
        .start (.plain "app:worker"))).instances.lookup "app:worker@static").all
          (fun service => service.instances.all fun inst => inst.pid == some 100) = true := by
      decide +kernel
    have alone := (Option.all_eq_true _ _).mp alone service found
    have held := List.all_eq_true.mp alone other member
    exact absurd (beq_iff_eq.mp held) apart
  · have plain : (beforeStart (serviceStep .boot (loneEnv workerService 100,
        .start (.plain "app:worker"))) (loneEnv workerService 101, .exit 100 0)).2 = none := by
      decide +kernel
    simp [plain]

/-- A service with two commands. -/
def pairedService : ServiceMetadata :=
  { workerService with
    run := .many
      [{ exec := "/bin/worker", args := [], variableName := none, executor := none },
        { exec := "/bin/helper", args := [], variableName := none, executor := none }] }

/-- The first process is created and the second one is refused. -/
def refusedEnv : ServiceEnv :=
  { loneEnv pairedService 100 with
    answer := fun index =>
      if index = 0 then .created 100 none none
      else .refused (.ioError "No such file or directory (os error 2)") }

theorem not_owned_paired :
    let final := Runs.run serviceStep .boot [(refusedEnv, .start (.plain "app:worker"))]
    100 ∈ final.host.runtime.pidMap ∧ final.host.kernel.Running 100 ∧ ¬ final.Owner 100 := by
  intro final
  have alive : (final.host.kernel.children.lookup 100).map Process.killed = some false := by
    decide +kernel
  have orphan : (final.instances.entries.all fun entry =>
      entry.2.instances.all fun inst => inst.pid != some 100) = true := by
    decide +kernel
  refine ⟨by decide +kernel, Option.map_eq_some_iff.mp alive, ?_⟩
  rintro ⟨key, service, found, member⟩
  obtain ⟨inst, inside, held⟩ := List.mem_map.mp member
  have entry := List.all_eq_true.mp orphan ⟨key, service⟩ (AList.mem_lookup_iff.mp found)
  have other := List.all_eq_true.mp entry inst inside
  rw [held] at other
  simp at other

end Rind
