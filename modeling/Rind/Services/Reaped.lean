import Rind.Services.Noting

/-!
# Signals after an exit

A process id stands in the handle of an instance, among the stopping processes
and in the bindings of the watchdogs.  Wherever it stands it may be signalled,
so it should be the one of a child whose exit status has not been collected.
-/

namespace Rind

open Runs

/-- A pid that a stop, a sweep or a watchdog may signal. -/
inductive Services.Recorded (services : Services) (pid : Nat) : Prop where
  | handle (key : Ustr) (service : Service) (found : services.instances.lookup key = some service)
      (held : some pid ∈ service.instances.map ChildInstance.pid)
  | stopping (noted : pid ∈ services.host.runtime.stoppingMap)
  | watchdog (fd : Nat) (binding : WatchdogBinding)
      (bound : services.host.runtime.watchdogFds.lookup fd = some binding)
      (same : binding.pid = pid)

/-- A child, or the process whose exit is being handled. -/
def Kernel.Has (kernel : Kernel) (exiting : Option Nat) (pid : Nat) : Prop :=
  pid ∈ kernel.children ∨ exiting = some pid

theorem Kernel.Has.child {kernel : Kernel} {pid : Nat} (has : kernel.Has none pid) :
    pid ∈ kernel.children := by
  rcases has with child | exiting
  · exact child
  · cases exiting

/-- The tables of a host agree with each other, and all signals so far were
received. -/
structure Host.Tracked (exiting : Option Nat) (host : Host) : Prop where
  stopping : ∀ pid ∈ host.runtime.stoppingMap,
    pid ∈ host.runtime.pidMap ∧ host.kernel.Has exiting pid
  bound : ∀ fd binding, host.runtime.watchdogFds.lookup fd = some binding →
    host.runtime.watchdogPids.lookup binding.pid = some fd ∧
      binding.pid ∈ host.runtime.pidMap ∧ host.kernel.Has exiting binding.pid
  reached : ∀ sent ∈ host.kernel.signals, sent.reached

/-- The process of an instance is noted with its service, and no two instances
of a service have the same one. -/
structure Services.Tracked (exiting : Option Nat) (services : Services) : Prop where
  host : services.host.Tracked exiting
  held : ∀ key service, services.instances.lookup key = some service →
    ∀ pid, some pid ∈ service.instances.map ChildInstance.pid →
      services.host.runtime.pidMap.lookup pid = some key ∧ services.host.kernel.Has exiting pid
  apart : ∀ key service, services.instances.lookup key = some service →
    (service.instances.map ChildInstance.pid).Pairwise Unshared
  registered : ∀ pid key, services.host.runtime.pidMap.lookup pid = some key →
    key ∈ services.instances

theorem Services.Tracked.has {exiting : Option Nat} {services : Services} {pid : Nat}
    (tracked : services.Tracked exiting) (recorded : services.Recorded pid) :
    pid ∈ services.host.runtime.pidMap ∧ services.host.kernel.Has exiting pid := by
  cases recorded with
  | handle key service found held =>
      obtain ⟨noted, has⟩ := tracked.held key service found pid held
      exact ⟨AList.lookup_isSome.mp (by rw [noted, Option.isSome_some]), has⟩
  | stopping noted => exact tracked.host.stopping pid noted
  | watchdog fd binding bound same =>
      subst same
      exact (tracked.host.bound fd binding bound).2

theorem Services.Tracked.noted {exiting : Option Nat} {services : Services}
    (tracked : services.Tracked exiting) :
    services.Noted (services.host.kernel.Has exiting) :=
  ⟨tracked.held, tracked.apart, tracked.registered⟩

theorem Services.Noted.tracked {exiting : Option Nat} {services : Services}
    (noted : services.Noted (services.host.kernel.Has exiting))
    (host : services.host.Tracked exiting) : services.Tracked exiting :=
  ⟨host, noted.held, noted.apart, noted.registered⟩

/-! ## Starts -/

/-- What the processes of a start add to a host. -/
structure Host.Adds (registryKey : Ustr) (pids : List (Option Nat)) (host final : Host) :
    Prop where
  noted : ∀ pid, some pid ∈ pids → final.runtime.pidMap.lookup pid = some registryKey
  kept : ∀ pid, some pid ∉ pids →
    final.runtime.pidMap.lookup pid = host.runtime.pidMap.lookup pid
  fresh : ∀ pid, some pid ∈ pids → pid ∉ host.kernel.children ∧ pid ∈ final.kernel.children
  children : ∀ pid ∈ host.kernel.children, pid ∈ final.kernel.children
  apart : pids.Pairwise Unshared

namespace Host.Adds

variable {registryKey : Ustr} {host middle final : Host}

theorem refl (registryKey : Ustr) (host : Host) : host.Adds registryKey [] host :=
  ⟨by simp, fun _ _ => rfl, by simp, fun _ => id, .nil⟩

/-- Adding processes is to note children that are new. -/
theorem iff_notes {pids : List (Option Nat)} : host.Adds registryKey pids final ↔
    host.Notes (fun host pid => pid ∈ host.kernel.children) registryKey pids final := by
  constructor
  · rintro ⟨noted, kept, fresh, children, apart⟩
    exact ⟨noted, kept, fresh, children, apart⟩
  · rintro ⟨noted, kept, fresh, children, apart⟩
    exact ⟨noted, kept, fresh, children, apart⟩

theorem trans {first others : List (Option Nat)} (one : host.Adds registryKey first middle)
    (more : middle.Adds registryKey others final) :
    host.Adds registryKey (first ++ others) final :=
  iff_notes.mpr ((iff_notes.mp one).trans (iff_notes.mp more))

/-- The children of a kernel on which no exit is handled are all it has. -/
theorem notes {pids : List (Option Nat)} (adds : host.Adds registryKey pids final) :
    host.Notes (fun host => host.kernel.Has none) registryKey pids final where
  noted := adds.noted
  kept := adds.kept
  fresh pid member :=
    ⟨fun has => (adds.fresh pid member).1 has.child, .inl (adds.fresh pid member).2⟩
  still pid has := .inl (adds.children pid has.child)
  apart := adds.apart

end Host.Adds

theorem Kernel.mem_children_fork {kernel : Kernel} {pid other : Nat} {process : Process} :
    other ∈ (kernel.fork pid process).children ↔ other ∈ kernel.children ∨ other = pid := by
  rw [fork]
  split
  · next child =>
      constructor
      · exact .inl
      · rintro (child | rfl)
        · exact child
        · exact child
  · rw [AList.mem_insert, or_comm]

theorem Kernel.signals_fork {kernel : Kernel} {pid : Nat} {process : Process} :
    (kernel.fork pid process).signals = kernel.signals := by
  rw [fork]
  split <;> rfl

/-- A process is noted, and its watchdog set or not. -/
theorem registerProcess_cases (metadata : ServiceMetadata) (registryKey : Ustr)
    (branch user : Option Ustr) (pid : Nat) (answer : SpawnAnswer) (runtime : ServiceRuntime) :
    (∃ fd, registerProcess metadata registryKey branch user pid answer runtime =
      { runtime with pidMap := runtime.pidMap.insert pid registryKey }.armWatchdogTimer fd
        { serviceKey := registryKey, branch, user, pid }) ∨
    registerProcess metadata registryKey branch user pid answer runtime =
      { runtime with pidMap := runtime.pidMap.insert pid registryKey } := by
  unfold registerProcess
  split
  · exact .inl ⟨_, rfl⟩
  · exact .inr rfl

/-- A process is forked and noted. -/
theorem Host.Tracked.register {metadata : ServiceMetadata} {registryKey : Ustr}
    {branch user : Option Ustr} {pid : Nat} {answer : SpawnAnswer} {process : Process}
    {host final : Host} (tracked : host.Tracked none) (fresh : pid ∉ host.kernel.children)
    (runtime : final.runtime =
      registerProcess metadata registryKey branch user pid answer host.runtime)
    (kernel : final.kernel = host.kernel.fork pid process) :
    final.Tracked none ∧ host.Adds registryKey [some pid] final := by
  have registered := registerProcess_cases metadata registryKey branch user pid answer host.runtime
  have noted : final.runtime.pidMap = host.runtime.pidMap.insert pid registryKey := by
    rw [runtime, registerProcess_pidMap]
  have old : ∀ other, other ∈ host.runtime.pidMap ∧ host.kernel.Has none other →
      other ∈ final.runtime.pidMap ∧ final.kernel.Has none other := by
    rintro other ⟨known, child | exiting⟩
    · rw [noted, kernel, AList.mem_insert, Kernel.Has, Kernel.mem_children_fork]
      exact ⟨.inr known, .inl (.inl child)⟩
    · cases exiting
  have new : pid ∈ final.runtime.pidMap ∧ final.kernel.Has none pid := by
    rw [noted, kernel, AList.mem_insert, Kernel.Has, Kernel.mem_children_fork]
    exact ⟨.inl rfl, .inl (.inr rfl)⟩
  have child : ∀ other,
      other ∈ final.kernel.children ↔ other ∈ host.kernel.children ∨ other = pid :=
    fun other => by rw [kernel, Kernel.mem_children_fork]
  refine ⟨⟨?_, ?_, ?_⟩, ⟨?_, ?_, ?_, ?_, List.pairwise_singleton ..⟩⟩
  · have same : final.runtime.stoppingMap = host.runtime.stoppingMap := by
      rcases registered with ⟨fd, armed⟩ | plain
      · rw [runtime, armed, ServiceRuntime.armWatchdogTimer]
      · rw [runtime, plain]
    rw [same]
    exact fun other waiting => old other (tracked.stopping other waiting)
  · intro other binding bound
    rcases registered with ⟨fd, armed⟩ | plain
    · have pids : final.runtime.watchdogPids = host.runtime.watchdogPids.insert pid fd := by
        rw [runtime, armed, ServiceRuntime.armWatchdogTimer]
      rw [runtime, armed, ServiceRuntime.armWatchdogTimer] at bound
      by_cases same : other = fd
      · subst same
        rw [AList.lookup_insert, Option.some_inj] at bound
        subst bound
        exact ⟨by rw [pids, AList.lookup_insert], new⟩
      · rw [AList.lookup_insert_ne same] at bound
        obtain ⟨listed, known, has⟩ := tracked.bound other binding bound
        have elsewhere : binding.pid ≠ pid := by
          rintro rfl
          exact fresh has.child
        refine ⟨?_, old binding.pid ⟨known, has⟩⟩
        rw [pids, AList.lookup_insert_ne elsewhere, listed]
    · have pids : final.runtime.watchdogPids = host.runtime.watchdogPids := by
        rw [runtime, plain]
      rw [runtime, plain] at bound
      obtain ⟨listed, known⟩ := tracked.bound other binding bound
      exact ⟨by rw [pids, listed], old binding.pid known⟩
  · rw [kernel, Kernel.signals_fork]
    exact tracked.reached
  · intro other member
    cases List.mem_singleton.mp member
    rw [noted, AList.lookup_insert]
  · intro other absent
    have elsewhere : other ≠ pid := by
      rintro rfl
      exact absent List.mem_cons_self
    rw [noted, AList.lookup_insert_ne elsewhere]
  · intro other member
    cases List.mem_singleton.mp member
    exact ⟨fresh, (child _).mpr (.inr rfl)⟩
  · exact fun other before => (child other).mpr (.inl before)

theorem Host.Tracked.fork {pid : Nat} {process : Process} {host final : Host}
    (tracked : host.Tracked none) (runtime : final.runtime = host.runtime)
    (kernel : final.kernel = host.kernel.fork pid process) : final.Tracked none := by
  have has : ∀ other, host.kernel.Has none other → final.kernel.Has none other := by
    rintro other (child | exiting)
    · rw [kernel, Kernel.Has, Kernel.mem_children_fork]
      exact .inl (.inl child)
    · cases exiting
  constructor
  · rw [runtime]
    exact fun other waiting =>
      ⟨(tracked.stopping other waiting).1, has other (tracked.stopping other waiting).2⟩
  · rw [runtime]
    intro fd binding bound
    obtain ⟨listed, known, child⟩ := tracked.bound fd binding bound
    exact ⟨listed, known, has _ child⟩
  · rw [kernel, Kernel.signals_fork]
    exact tracked.reached

/-- A signal to a child is received. -/
theorem Host.Tracked.kill {exiting : Option Nat} {pid : Nat} {signal : Signal}
    {host final : Host} (tracked : host.Tracked exiting) (child : pid ∈ host.kernel.children)
    (runtime : final.runtime = host.runtime)
    (kernel : final.kernel = host.kernel.kill pid signal) : final.Tracked exiting := by
  have has : ∀ other, final.kernel.Has exiting other ↔ host.kernel.Has exiting other := by
    intro other
    rw [Kernel.Has, kernel, Kernel.mem_children_kill, Kernel.Has]
  constructor
  · simp only [runtime, has]
    exact tracked.stopping
  · simp only [runtime, has]
    exact tracked.bound
  · rw [kernel]
    intro sent member
    rcases List.mem_append.mp member with member | member
    · exact tracked.reached sent member
    · cases List.mem_singleton.mp member
      exact decide_eq_true child

theorem Spawned.creates {env : ServiceEnv} {service : Service}
    {ctx : Option ServiceBranchContext} {registryKey : Ustr} {run : RunOption} {index : Nat}
    {host final : Host} {inst : ChildInstance}
    (spawned : Spawned env service ctx registryKey run (env.answer index) host inst final) :
    env.Creates spawned.pid := by
  obtain ⟨cgroup, timer, answered⟩ := spawned.answered
  exact ⟨index, cgroup, timer, answered⟩

/-- The processes of a start are added, unless the executor collects their exit
statuses. -/
theorem SpawnedAll.tracked {env : ServiceEnv} {service : Service}
    {ctx : Option ServiceBranchContext} {registryKey : Ustr} {index : Nat} {host final : Host}
    {insts : List ChildInstance}
    (spawned : SpawnedAll env service ctx registryKey index host insts final)
    (left : ∀ pid, env.Creates pid → service.collected env.scopes registryKey = false)
    (tracked : host.Tracked none) :
    final.Tracked none ∧ host.Adds registryKey (insts.map ChildInstance.pid) final ∧
      ∀ pid, some pid ∈ insts.map ChildInstance.pid → env.Creates pid := by
  induction spawned with
  | nil index host => exact ⟨tracked, .refl registryKey host, by simp⟩
  | cons run first others ih =>
      have forked := first.kernel_eq
      rw [left first.pid first.creates] at forked
      obtain ⟨middle, one⟩ := tracked.register first.fresh first.runtime_eq forked
      obtain ⟨last, more, created⟩ := ih middle
      have same : ChildInstance.pid _ = some first.pid := congrArg ChildInstance.pid first.inst_eq
      rw [List.map_cons, same]
      refine ⟨last, one.trans more, ?_⟩
      intro pid member
      rcases List.mem_cons.mp member with same | member
      · cases same
        exact first.creates
      · exact created pid member

theorem SpawnFailed.tracked {collected : Bool} {registryKey : Ustr} {answer : SpawnAnswer}
    {host final : Host} (failed : SpawnFailed collected answer host final)
    (left : ∀ pid cgroup timer, answer = .created pid cgroup timer → collected = false)
    (tracked : host.Tracked none) :
    final.Tracked none ∧ host.Adds registryKey [] final := by
  have adds : ∀ last : Host, last.runtime = host.runtime →
      (∀ pid ∈ host.kernel.children, pid ∈ last.kernel.children) →
      host.Adds registryKey [] last := by
    intro last runtime children
    exact ⟨by simp, fun _ _ => by rw [runtime], by simp, children, .nil⟩
  cases failed with
  | refused => exact ⟨tracked, .refl registryKey host⟩
  | abandoned pid error process answered =>
      refine ⟨tracked.fork rfl rfl, adds _ rfl ?_⟩
      exact fun other child => Kernel.mem_children_fork.mpr (.inl child)
  | killed pid process kernel fresh answered forked =>
      obtain ⟨cgroup, timer, answered⟩ := answered
      rw [left pid cgroup timer answered] at forked
      have first : ({ host with kernel } : Host).Tracked none := tracked.fork rfl forked
      have child : pid ∈ kernel.children := by
        rw [forked]
        exact Kernel.mem_children_fork.mpr (.inr rfl)
      refine ⟨first.kill child rfl rfl, adds _ rfl ?_⟩
      intro other before
      rw [Kernel.mem_children_kill, forked]
      exact Kernel.mem_children_fork.mpr (.inl before)

section Starts

variable [SerdeJson] [TomlText]

/-- A start that creates processes does so under the key its service is
registered with, and leaves the collection of their exit statuses to the
reaper. -/
def StartsChildren (env : ServiceEnv) (request : StartRequest) (services : Services) : Prop :=
  ∀ key service,
    env.metadata.instantiateOne Service.new "*" request.name services.instances =
      some (key, service) →
    (request.deferred ∨ service.metadata.registersTransport = false) →
    request.held service = false →
    isInactive env.facets (ensureScopedName request.name) = false →
    ∀ pid, env.Creates pid → key = ensureScopedName request.name ∧
      service.collected env.scopes (ensureScopedName request.name) = false

variable {env : ServiceEnv} {request : StartRequest}

theorem spawnAll_tracked {service : Service} {ctx : Option ServiceBranchContext}
    {registryKey : Ustr} {host final : Host} {result : Except CoreError (List ChildInstance)}
    (spawned : spawnAll env service ctx registryKey host = (result, final))
    (left : isInactive env.facets registryKey = false → ∀ pid, env.Creates pid →
      service.collected env.scopes registryKey = false)
    (tracked : host.Tracked none) :
    ∃ pids, (final.Tracked none ∧ host.Adds registryKey pids final ∧
        ∀ pid, some pid ∈ pids → isInactive env.facets registryKey = false ∧ env.Creates pid) ∧
      ∀ insts, result = .ok insts → insts.map ChildInstance.pid = pids := by
  refine spawnAll_gives (fun pids final => final.Tracked none ∧
    host.Adds registryKey pids final ∧ _) spawned ?_ ?_ ?_
  · exact ⟨tracked, .refl registryKey host, by simp⟩
  · intro active insts final outcome
    obtain ⟨last, adds, created⟩ := outcome.tracked (left active) tracked
    exact ⟨last, adds, fun pid member => ⟨active, created pid member⟩⟩
  · intro active insts middle final outcome failed
    have left := left active
    obtain ⟨between, one, created⟩ := outcome.tracked left tracked
    obtain ⟨last, more⟩ := failed.tracked
      (fun pid cgroup timer answered => left pid ⟨_, cgroup, timer, answered⟩) between
    have adds := one.trans more
    rw [List.append_nil] at adds
    exact ⟨last, adds, fun pid member => ⟨active, created pid member⟩⟩

theorem Services.Tracked.start {services final : Services} (tracked : services.Tracked none)
    (children : StartsChildren env request services)
    (started : StartStep env request services final) : final.Tracked none := by
  have spawns : ∀ key service result last,
      env.metadata.instantiateOne Service.new "*" request.name services.instances =
        some (key, service) →
      (request.deferred ∨ service.metadata.registersTransport = false) →
      request.held service = false →
      spawnAll env service request.context (ensureScopedName request.name) services.host =
        (result, last) →
      ∃ pids, last.Tracked none ∧ services.host.Adds (ensureScopedName request.name) pids last ∧
        (∀ insts, result = .ok insts → insts.map ChildInstance.pid = pids) ∧
        ∀ pid, some pid ∈ pids → key = ensureScopedName request.name := by
    intro key service result last found now free spawned
    have children := children key service found now free
    obtain ⟨pids, ⟨host, adds, created⟩, all⟩ := spawnAll_tracked spawned
      (fun active pid creates => (children active pid creates).2) tracked.host
    refine ⟨pids, host, adds, all, ?_⟩
    exact fun pid member => (children (created pid member).1 pid (created pid member).2).1
  have host : final.host.Tracked none := by
    rcases started.host_cases with same | ⟨key, service, result, found, now, free, spawned⟩
    · rw [same]
      exact tracked.host
    · obtain ⟨-, host, -⟩ := spawns key service result final.host found now free spawned
      exact host
  refine Services.Noted.tracked (tracked.noted.start (fun host => host.kernel.Has none)
    started ?_) host
  intro key service result last found now free spawned
  obtain ⟨pids, -, adds, all, same⟩ := spawns key service result last found now free spawned
  exact ⟨pids, adds.notes, all, same⟩

end Starts

/-! ## Signals -/

/-- A watchdog that is disarmed by its process has no binding left. -/
theorem ServiceRuntime.disarmed {runtime : ServiceRuntime} {pid fd : Nat}
    {binding : WatchdogBinding}
    (listed : ∀ fd binding, runtime.watchdogFds.lookup fd = some binding →
      runtime.watchdogPids.lookup binding.pid = some fd)
    (bound : (runtime.disarmWatchdogPid pid).watchdogFds.lookup fd = some binding) :
    binding.pid ≠ pid ∧
      (runtime.disarmWatchdogPid pid).watchdogPids.lookup binding.pid = some fd ∧
      runtime.watchdogFds.lookup fd = some binding := by
  cases armed : runtime.watchdogPids.lookup pid with
  | none =>
      have same : runtime.disarmWatchdogPid pid = runtime := by
        simp only [ServiceRuntime.disarmWatchdogPid, armed]
      rw [same] at bound ⊢
      have before := listed fd binding bound
      refine ⟨?_, before, bound⟩
      rintro rfl
      rw [armed] at before
      cases before
  | some timer =>
      simp only [ServiceRuntime.disarmWatchdogPid, armed] at bound ⊢
      have fd_ne : fd ≠ timer := by
        rintro rfl
        rw [AList.lookup_erase] at bound
        cases bound
      rw [AList.lookup_erase_ne fd_ne] at bound
      have before := listed fd binding bound
      have apart : binding.pid ≠ pid := by
        rintro rfl
        rw [armed, Option.some_inj] at before
        exact fd_ne before.symm
      exact ⟨apart, by rw [AList.lookup_erase_ne apart, before], bound⟩

theorem disarmWatchdogPid_stoppingMap (pid : Nat) (runtime : ServiceRuntime) :
    (runtime.disarmWatchdogPid pid).stoppingMap = runtime.stoppingMap := by
  unfold ServiceRuntime.disarmWatchdogPid
  split <;> rfl

theorem Host.Tracked.stopProcess {host : Host} {pid : Nat} (tracked : host.Tracked none)
    (noted : pid ∈ host.runtime.pidMap) (child : pid ∈ host.kernel.children) (now : Nat)
    (mode : StopMode) : (stopProcess now mode pid host).Tracked none := by
  have signalled := Host.Signalled.stopProcess now mode pid host
  have known : ∀ other, other ∈ host.runtime.pidMap ∧ host.kernel.Has none other →
      other ∈ (Rind.stopProcess now mode pid host).runtime.pidMap ∧
        (Rind.stopProcess now mode pid host).kernel.Has none other := by
    rintro other ⟨before, has⟩
    rw [signalled.pidMap, Kernel.Has, signalled.children]
    exact ⟨before, has⟩
  constructor
  · intro other waiting
    rcases (AList.mem_insert _).mp waiting with rfl | waiting
    · exact known _ ⟨noted, .inl child⟩
    · rw [disarmWatchdogPid_stoppingMap] at waiting
      exact known other (tracked.stopping other waiting)
  · intro fd binding bound
    obtain ⟨-, listed, before⟩ :=
      ServiceRuntime.disarmed (fun fd binding bound => (tracked.bound fd binding bound).1) bound
    exact ⟨listed, known binding.pid (tracked.bound fd binding before).2⟩
  · intro sent member
    rcases List.mem_append.mp member with member | member
    · exact tracked.reached sent member
    · cases List.mem_singleton.mp member
      exact decide_eq_true child

theorem Host.Tracked.stopProcesses {pids : List Nat} {host : Host} (tracked : host.Tracked none)
    (known : ∀ pid ∈ pids, pid ∈ host.runtime.pidMap ∧ pid ∈ host.kernel.children) (now : Nat)
    (mode : StopMode) : (stopProcesses now mode pids host).Tracked none := by
  induction pids generalizing host with
  | nil => exact tracked
  | cons pid rest ih =>
      obtain ⟨⟨noted, child⟩, others⟩ := List.forall_mem_cons.mp known
      apply ih (tracked.stopProcess noted child now mode)
      intro other member
      have signalled := Host.Signalled.stopProcess now mode pid host
      rw [signalled.pidMap, signalled.children]
      exact others other member

theorem Host.Signalled.has {host final : Host} {exiting : Option Nat}
    (signalled : host.Signalled final) (pid : Nat) :
    final.kernel.Has exiting pid ↔ host.kernel.Has exiting pid := by
  rw [Kernel.Has, signalled.children, Kernel.Has]

theorem Services.Tracked.stop {services : Services} {env : ServiceEnv} {request : StopRequest}
    {result : Except CoreError Unit × Services} (tracked : services.Tracked none)
    (stopped : StopStep env request services result) : result.2.Tracked none := by
  have after : result.2.host.Tracked none ∧ services.host.Signalled result.2.host := by
    cases stopped with
    | missing error absent => exact ⟨tracked.host, .refl _⟩
    | stopped key service lastState found =>
        refine ⟨tracked.host.stopProcesses ?_ _ _, .stopProcesses ..⟩
        intro pid member
        obtain ⟨inst, inside, held⟩ := Service.pid_of_mem_stoppedPids member
        obtain ⟨-, known | ⟨-, item, rfl⟩⟩ := MetadataRegistry.instantiateOne_cases found
        · obtain ⟨noted, has⟩ := tracked.has
            (.handle key service known (List.mem_map.mpr ⟨inst, inside, held⟩))
          exact ⟨noted, has.child⟩
        · exact absurd inside List.not_mem_nil
  exact (tracked.noted.stop (fun host => host.kernel.Has none) stopped
    fun pid => (after.2.has pid).mpr).tracked after.1

/-- Signals and timers leave the instances and the noted processes as they are. -/
theorem Services.Tracked.signalled {services final : Services} (tracked : services.Tracked none)
    (host : final.host.Tracked none) (instances : final.instances = services.instances)
    (signalled : services.host.Signalled final.host) : final.Tracked none :=
  (tracked.noted.kept instances signalled.pidMap fun pid => (signalled.has pid).mpr).tracked host

theorem Services.Tracked.sweep {services : Services} (tracked : services.Tracked none)
    (env : ServiceEnv) : (timeoutSweep env services).Tracked none := by
  refine tracked.signalled ?_ (timeoutSweep_instances env services) (.timeoutSweep env services)
  have known : ∀ pid ∈ (services.host.runtime.stoppingMap.entries.filter fun entry =>
      env.timeout < env.now - entry.2).map Sigma.fst, pid ∈ services.host.kernel.children := by
    intro pid member
    obtain ⟨entry, inside, rfl⟩ := List.mem_map.mp member
    have waiting : entry.1 ∈ services.host.runtime.stoppingMap :=
      List.mem_map_of_mem (List.mem_of_mem_filter inside)
    exact (tracked.host.stopping entry.1 waiting).2.child
  rw [timeoutSweep]
  generalize List.map Sigma.fst _ = expired at known
  have host := tracked.host
  clear tracked
  induction expired generalizing services with
  | nil => exact host
  | cons pid rest ih =>
      obtain ⟨child, others⟩ := List.forall_mem_cons.mp known
      rw [List.foldl_cons]
      apply ih
      · intro other member
        exact Kernel.mem_children_kill.mpr (others other member)
      · have killed : ({ services.host with
            kernel := services.host.kernel.kill pid .sigkill } : Host).Tracked none :=
          host.kill child rfl rfl
        refine ⟨?_, killed.bound, killed.reached⟩
        exact fun other waiting => killed.stopping other (AList.mem_erase.mp waiting).2

/-! ## Exits -/

/-- The state of the kernel changes. -/
theorem Services.Tracked.rekernel {exiting exiting' : Option Nat} {services final : Services}
    (tracked : services.Tracked exiting) (instances : final.instances = services.instances)
    (runtime : final.host.runtime = services.host.runtime)
    (signals : final.host.kernel.signals = services.host.kernel.signals)
    (has : ∀ pid, services.Recorded pid → services.host.kernel.Has exiting pid →
      final.host.kernel.Has exiting' pid) : final.Tracked exiting' := by
  refine ⟨⟨?_, ?_, ?_⟩, ?_, ?_, ?_⟩
  · rw [runtime]
    intro pid waiting
    obtain ⟨noted, before⟩ := tracked.host.stopping pid waiting
    exact ⟨noted, has pid (.stopping waiting) before⟩
  · rw [runtime]
    intro fd binding bound
    obtain ⟨listed, noted, before⟩ := tracked.host.bound fd binding bound
    exact ⟨listed, noted, has binding.pid (.watchdog fd binding bound rfl) before⟩
  · rw [signals]
    exact tracked.host.reached
  · rw [instances, runtime]
    intro key service found pid held
    obtain ⟨noted, before⟩ := tracked.held key service found pid held
    exact ⟨noted, has pid (.handle key service found held) before⟩
  · rw [instances]
    exact tracked.apart
  · rw [instances, runtime]
    exact tracked.registered

/-- A process is forgotten. -/
theorem Host.Tracked.forget {host final : Host} {pid : Nat} (tracked : host.Tracked (some pid))
    (kernel : final.kernel = host.kernel)
    (runtime : final.runtime = (host.runtime.forget pid).disarmWatchdogPid pid)
    (has : ∀ other, other ≠ pid → host.kernel.Has (some pid) other → final.kernel.Has none other) :
    final.Tracked none := by
  have pidMap : final.runtime.pidMap = host.runtime.pidMap.erase pid := by
    rw [runtime, disarmWatchdogPid_pidMap, forget_pidMap]
  refine ⟨?_, ?_, ?_⟩
  · rw [runtime, disarmWatchdogPid_stoppingMap, ← runtime, pidMap]
    intro other waiting
    obtain ⟨other_ne, waiting⟩ := AList.mem_erase.mp waiting
    obtain ⟨noted, before⟩ := tracked.stopping other waiting
    exact ⟨AList.mem_erase.mpr ⟨other_ne, noted⟩, has other other_ne before⟩
  · intro fd binding bound
    have listed : ∀ fd binding,
        (host.runtime.forget pid).watchdogFds.lookup fd = some binding →
        (host.runtime.forget pid).watchdogPids.lookup binding.pid = some fd :=
      fun fd binding bound => (tracked.bound fd binding bound).1
    rw [runtime] at bound
    obtain ⟨other_ne, listed, before⟩ := ServiceRuntime.disarmed listed bound
    obtain ⟨-, noted, child⟩ := tracked.bound fd binding before
    rw [pidMap]
    exact ⟨by rw [runtime, listed], AList.mem_erase.mpr ⟨other_ne, noted⟩,
      has binding.pid other_ne child⟩
  · rw [kernel]
    exact tracked.reached

/-- An exit that is handled leaves nothing of its process. -/
theorem Services.Tracked.afterExit {services : Services} {pid : Nat} {code : Int}
    (tracked : services.Tracked (some pid)) : (afterExit pid code services).1.Tracked none := by
  have step := recordExit_cases pid code services
  rw [afterExit_fst]
  generalize Rind.recordExit pid code services = result at step
  have still : ∀ other, other ≠ pid → services.host.kernel.Has (some pid) other →
      services.host.kernel.Has none other := by
    rintro other other_ne (child | same)
    · exact .inl child
    · exact absurd (Option.some_inj.mp same).symm other_ne
  have noted := tracked.noted.recordExit step still
  cases step with
  | unknown unnoted =>
      have elsewhere : ∀ other ∈ services.host.runtime.pidMap, other ≠ pid := by
        rintro other known rfl
        rw [← AList.lookup_isSome, unnoted] at known
        cases known
      refine noted.tracked ⟨?_, ?_, tracked.host.reached⟩
      · intro other waiting
        obtain ⟨known, has⟩ := tracked.host.stopping other waiting
        exact ⟨known, still other (elsewhere other known) has⟩
      · intro fd binding bound
        obtain ⟨listed, known, has⟩ := tracked.host.bound fd binding bound
        exact ⟨listed, known, still binding.pid (elsewhere binding.pid known) has⟩
  | unregistered key listed absent =>
      have known := tracked.registered pid key listed
      rw [← AList.lookup_isSome, absent] at known
      cases known
  | unheld key service listed found without =>
      exact noted.tracked (tracked.host.forget rfl rfl still)
  | handled key service index inst listed found position at_ =>
      exact noted.tracked (tracked.host.forget rfl rfl still)

/-! ## Steps -/

/-- Taking an exit leaves its process to be forgotten. -/
theorem Services.Tracked.takeExit {services : Services} {action : ServiceAction}
    {taken : TakenExit} (tracked : services.Tracked none)
    (took : takeExit services action = some taken) :
    taken.base.Tracked (some taken.pid) := by
  cases action with
  | childExited =>
      obtain ⟨exit, -, rfl⟩ := Option.map_eq_some_iff.mp took
      exact tracked.rekernel rfl rfl rfl fun pid _ has => .inl has.child
  | exit pid code =>
      simp only [Rind.takeExit, Option.ite_none_right_eq_some, Option.some_inj] at took
      obtain ⟨-, rfl⟩ := took
      refine tracked.rekernel rfl rfl rfl ?_
      intro other _ has
      by_cases same : pid = other
      · exact .inr (congrArg some same)
      · refine .inl (AList.mem_erase.mpr ⟨?_, has.child⟩)
        exact fun other_eq => same other_eq.symm
  | _ => simp [Rind.takeExit] at took

theorem Services.Tracked.dropWatchdog {services : Services} {fd : Nat}
    {binding : WatchdogBinding} (tracked : services.Tracked none)
    (bound : services.host.runtime.watchdogFds.lookup fd = some binding) :
    (services.updateRuntime (·.dropWatchdog fd binding.pid)).Tracked none := by
  refine tracked.signalled ⟨tracked.host.stopping, ?_, tracked.host.reached⟩ rfl
    ⟨rfl, rfl, fun _ => .rfl, fun _ => id⟩
  intro other candidate left
  have other_ne : other ≠ fd := by
    rintro rfl
    rw [Services.updateRuntime, ServiceRuntime.dropWatchdog, AList.lookup_erase] at left
    cases left
  rw [Services.updateRuntime, ServiceRuntime.dropWatchdog, AList.lookup_erase_ne other_ne] at left
  obtain ⟨listed, known⟩ := tracked.host.bound other candidate left
  have elsewhere : candidate.pid ≠ binding.pid := by
    intro same
    rw [same, (tracked.host.bound fd binding bound).1, Option.some_inj] at listed
    exact other_ne listed.symm
  refine ⟨?_, known⟩
  rw [Services.updateRuntime, ServiceRuntime.dropWatchdog, AList.lookup_erase_ne elsewhere, listed]

section Steps

variable [SerdeJson] [TomlText]

/-- A step that does not collect the exit status of a recorded process without
handling the exit, and whose start creates children of the reaper. -/
def KeepsReaper (services : Services) (event : ServiceEnv × ServiceAction) : Prop :=
  (∀ pid code, event.2 = .reap pid code → ¬ services.Recorded pid) ∧
  ∀ request ∈ (beforeStart services event).2,
    StartsChildren event.1 request (beforeStart services event).1

theorem Services.Tracked.beforeStart {services : Services} {event : ServiceEnv × ServiceAction}
    (tracked : services.Tracked none)
    (reaps : ∀ pid code, event.2 = .reap pid code → ¬ services.Recorded pid) :
    (beforeStart services event).1.Tracked none := by
  have step := beforeStart_cases services event
  generalize Rind.beforeStart services event = result at step
  cases step with
  | start env request | idle env action => exact tracked
  | stop env request result stopped => exact tracked.stop stopped
  | reap env pid code child =>
      refine tracked.rekernel rfl rfl rfl ?_
      intro other recorded has
      refine .inl (AList.mem_erase.mpr ⟨?_, has.child⟩)
      rintro rfl
      exact reaps _ code rfl recorded
  | exit env action taken took => exact (tracked.takeExit took).afterExit
  | signal env fd binding bound =>
      have child := (tracked.host.bound fd binding bound).2.2.child
      have dropped := tracked.dropWatchdog bound
      exact dropped.signalled (dropped.host.kill child rfl rfl) rfl (.kill rfl rfl)
  | watchdog env fd binding result asked bound stopped plain =>
      exact (tracked.dropWatchdog bound).stop stopped
  | sweep env => exact tracked.sweep env

theorem Services.Tracked.serviceStep {services : Services} {event : ServiceEnv × ServiceAction}
    (tracked : services.Tracked none) (keeps : KeepsReaper services event) :
    (serviceStep services event).Tracked none := by
  have before := tracked.beforeStart keeps.1
  have children := keeps.2
  rw [serviceStep_eq]
  generalize Rind.beforeStart services event = result at before children
  obtain ⟨middle, _ | request⟩ := result
  · exact before
  · exact before.start (children request rfl) (start_cases middle)

omit [SerdeJson] [TomlText] in
theorem tracked_boot : Services.boot.Tracked none := by
  have nowhere : ∀ {β : Type} (key : Nat), key ∉ (∅ : AList fun _ : Nat => β) :=
    fun key => AList.notMem_empty key
  refine ⟨⟨?_, ?_, ?_⟩, ?_, ?_, ?_⟩
  · exact fun pid waiting => absurd waiting (nowhere pid)
  · intro fd binding bound
    rw [Services.boot, AList.lookup_empty] at bound
    cases bound
  · exact fun sent member => absurd member List.not_mem_nil
  · intro key service found
    rw [Services.boot, AList.lookup_empty] at found
    cases found
  · intro key service found
    rw [Services.boot, AList.lookup_empty] at found
    cases found
  · intro pid key noted
    rw [Services.boot, AList.lookup_empty] at noted
    cases noted

/-- In every state of a run whose steps leave the exit statuses to the reaper
and its exits, each pid that may be signalled is the one of a child, and every
signal so far was received by one. -/
theorem recorded_unreaped {events : List (ServiceEnv × ServiceAction)}
    (keeps : Along serviceStep KeepsReaper .boot events) :
    (∀ pid, (Runs.run serviceStep .boot events).Recorded pid →
      pid ∈ (Runs.run serviceStep .boot events).host.kernel.children) ∧
    ∀ sent ∈ (Runs.run serviceStep .boot events).host.kernel.signals, sent.reached := by
  have tracked : (Runs.run serviceStep .boot events).Tracked none :=
    keeps.invariant (fun _ _ tracked keeps => tracked.serviceStep keeps) tracked_boot
  refine ⟨?_, tracked.host.reached⟩
  intro pid recorded
  exact (tracked.has recorded).2.child

end Steps

/-! ## Services that fork and that wait -/

open scoped Compact

/-- A service with a watchdog. -/
def watchedService : ServiceMetadata :=
  { workerService with watchdog := some { action := .restart } }

/-- A stop of the service. -/
def stopWorker : StopRequest where
  name := "app:worker"
  force := false
  index := none
  onlyUser := none

/-- The service is started and stopped, and its process exits. -/
def stoppedOnce : List (ServiceEnv × ServiceAction) :=
  [(loneEnv watchedService 100, .start (.plain "app:worker")),
    (loneEnv watchedService 101, .stop stopWorker),
    (loneEnv watchedService 101, .exit 100 143)]

theorem recorded_unreaped_stopped :
    (∀ pid, (Runs.run serviceStep .boot stoppedOnce).Recorded pid →
      pid ∈ (Runs.run serviceStep .boot stoppedOnce).host.kernel.children) ∧
    ∀ sent ∈ (Runs.run serviceStep .boot stoppedOnce).host.kernel.signals, sent.reached := by
  have ended : (beforeStart (serviceStep (serviceStep .boot
      (loneEnv watchedService 100, .start (.plain "app:worker")))
      (loneEnv watchedService 101, .stop stopWorker))
      (loneEnv watchedService 101, .exit 100 143)).2 = none := by
    decide +kernel
  refine recorded_unreaped ⟨⟨nofun, ?_⟩, ⟨nofun, by simp [beforeStart]⟩, ⟨nofun, by simp [ended]⟩,
    trivial⟩
  intro request asked
  have started : (beforeStart .boot (loneEnv watchedService 100,
      ServiceAction.start (.plain "app:worker"))).2 = some (.plain "app:worker") := rfl
  rw [started, Option.mem_some_iff] at asked
  subst asked
  intro key service found now free active pid created
  have made : (loneEnv watchedService 100).metadata.instantiateOne Service.new "*" "app:worker"
      Services.boot.instances = some ("app:worker@static", .new watchedService) := by
    decide +kernel
  cases Option.some_inj.mp (found.symm.trans made)
  decide +kernel

/-- A service that is waited for. -/
def waitedService : ServiceMetadata := { workerService with type := .wait }

/-- The service is started and stopped. -/
def waitedOnce : List (ServiceEnv × ServiceAction) :=
  [(loneEnv waitedService 100, .start (.plain "app:worker")),
    (loneEnv waitedService 101, .stop stopWorker)]

theorem not_unreaped_waited :
    ¬ ∀ sent ∈ (Runs.run serviceStep .boot waitedOnce).host.kernel.signals, sent.reached := by
  decide +kernel

end Rind
