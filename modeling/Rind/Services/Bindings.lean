import Rind.Data.Inverse
import Rind.Services.Armed
import Rind.Services.Reaped

/-!
# The tables of the watchdogs

Four tables hold the processes of services: the service of each, those that are stopping,
and in both directions the timers of those that are watched.  Every function writes some
of them, and together they keep them in agreement with each other and with the resources,
unless a process is noted under another key than its service has.
-/

namespace Rind

open Runs Maps

/-! ## Agreement -/

/-- The tables of the watchdogs are inverse to each other, and each watched or stopping
process is noted. -/
structure ServiceRuntime.Agrees (runtime : ServiceRuntime) : Prop where
  inverse : Inverse WatchdogBinding.pid runtime.watchdogFds runtime.watchdogPids
  watched : ∀ pid ∈ runtime.watchdogPids, pid ∈ runtime.pidMap
  stopping : ∀ pid ∈ runtime.stoppingMap, pid ∈ runtime.pidMap

namespace ServiceRuntime

variable {runtime final : ServiceRuntime}

/-- The process of a watchdog is noted. -/
theorem Agrees.bound (agrees : runtime.Agrees) {fd : Nat} {binding : WatchdogBinding}
    (found : runtime.watchdogFds.lookup fd = some binding) : binding.pid ∈ runtime.pidMap := by
  apply agrees.watched
  rw [← AList.lookup_isSome, agrees.inverse.back_of_lookup found, Option.isSome_some]

theorem Agrees.register (agrees : runtime.Agrees) {metadata : ServiceMetadata}
    {registryKey : Ustr} {branch user : Option Ustr} {pid : Nat} {answer : SpawnAnswer}
    (fresh : pid ∉ runtime.pidMap)
    (free : ∀ other cgroup fd, answer = .created other cgroup (some fd) →
      fd ∉ runtime.watchdogFds) :
    (registerProcess metadata registryKey branch user pid answer runtime).Agrees := by
  have noted : ∀ other ∈ runtime.pidMap, other ∈ runtime.pidMap.insert pid registryKey :=
    fun other member => (AList.mem_insert _).mpr (.inr member)
  unfold registerProcess
  split
  · next other cgroup fd watchdog =>
      have unwatched : pid ∉ runtime.watchdogPids := mt (agrees.watched pid) fresh
      refine ⟨agrees.inverse.insert (free other cgroup fd rfl) unwatched, ?_, ?_⟩
      · intro name member
        rcases (AList.mem_insert _).mp member with rfl | member
        · exact (AList.mem_insert _).mpr (.inl rfl)
        · exact noted name (agrees.watched name member)
      · exact fun name waiting => noted name (agrees.stopping name waiting)
  · refine ⟨agrees.inverse, ?_, ?_⟩
    · exact fun name member => noted name (agrees.watched name member)
    · exact fun name waiting => noted name (agrees.stopping name waiting)

/-- A disarmed process is not watched, and no other becomes so. -/
theorem mem_watchdogPids_disarm {pid other : Nat}
    (member : other ∈ (runtime.disarmWatchdogPid pid).watchdogPids) :
    other ≠ pid ∧ other ∈ runtime.watchdogPids := by
  unfold disarmWatchdogPid at member
  split at member
  · exact AList.mem_erase.mp member
  · next unwatched =>
      refine ⟨?_, member⟩
      rintro rfl
      exact AList.lookup_eq_none.mp unwatched member

theorem inverse_disarm (inverse : Inverse WatchdogBinding.pid runtime.watchdogFds
    runtime.watchdogPids) (pid : Nat) :
    Inverse WatchdogBinding.pid (runtime.disarmWatchdogPid pid).watchdogFds
      (runtime.disarmWatchdogPid pid).watchdogPids := by
  unfold disarmWatchdogPid
  split
  · next fd leads => exact inverse.erase leads
  · exact inverse

theorem Agrees.disarm (agrees : runtime.Agrees) (pid : Nat) :
    (runtime.disarmWatchdogPid pid).Agrees := by
  refine ⟨inverse_disarm agrees.inverse pid, ?_, ?_⟩
  · intro other member
    rw [disarmWatchdogPid_pidMap]
    exact agrees.watched other (mem_watchdogPids_disarm member).2
  · rw [disarmWatchdogPid_pidMap, disarmWatchdogPid_stoppingMap]
    exact agrees.stopping

/-- A process that has exited is forgotten in all tables. -/
theorem Agrees.forget (agrees : runtime.Agrees) (pid : Nat) :
    ((runtime.forget pid).disarmWatchdogPid pid).Agrees := by
  have inverse : Inverse WatchdogBinding.pid (runtime.forget pid).watchdogFds
    (runtime.forget pid).watchdogPids := agrees.inverse
  refine ⟨inverse_disarm inverse pid, ?_, ?_⟩
  · intro other member
    obtain ⟨other_ne, member⟩ := mem_watchdogPids_disarm member
    rw [disarmWatchdogPid_pidMap, forget_pidMap, AList.mem_erase]
    exact ⟨other_ne, agrees.watched other member⟩
  · rw [disarmWatchdogPid_pidMap, disarmWatchdogPid_stoppingMap, forget_pidMap]
    intro other waiting
    obtain ⟨other_ne, waiting⟩ := AList.mem_erase.mp waiting
    exact AList.mem_erase.mpr ⟨other_ne, agrees.stopping other waiting⟩

/-- An expired watchdog is taken out of the tables like a disarmed one. -/
theorem Agrees.dropWatchdog_eq (agrees : runtime.Agrees) {fd : Nat} {binding : WatchdogBinding}
    (found : runtime.watchdogFds.lookup fd = some binding) :
    runtime.dropWatchdog fd binding.pid = runtime.disarmWatchdogPid binding.pid := by
  simp only [dropWatchdog, disarmWatchdogPid, agrees.inverse.back_of_lookup found]

theorem Agrees.unstop (agrees : runtime.Agrees) (pid : Nat) : (runtime.unstop pid).Agrees :=
  ⟨agrees.inverse, agrees.watched,
    fun other waiting => agrees.stopping other (AList.mem_erase.mp waiting).2⟩

end ServiceRuntime

theorem Host.agrees_stopProcesses {host : Host} {pids : List Nat} (agrees : host.runtime.Agrees)
    (noted : ∀ pid ∈ pids, pid ∈ host.runtime.pidMap) (now : Nat) (mode : StopMode) :
    (stopProcesses now mode pids host).runtime.Agrees := by
  induction pids generalizing host with
  | nil => exact agrees
  | cons pid rest ih =>
      obtain ⟨known, others⟩ := List.forall_mem_cons.mp noted
      have kept : (stopProcess now mode pid host).runtime.pidMap = host.runtime.pidMap :=
        disarmWatchdogPid_pidMap pid host.runtime
      have disarmed := agrees.disarm pid
      apply ih
      · refine ⟨disarmed.inverse, disarmed.watched, ?_⟩
        intro other waiting
        rcases (AList.mem_insert _).mp waiting with rfl | waiting
        · rw [kept]
          exact known
        · exact disarmed.stopping other waiting
      · rw [kept]
        exact others

/-! ## Starts -/

/-- No two processes of a start, and no two of its timers, get the same number. -/
structure ServiceEnv.Distinct (env : ServiceEnv) : Prop where
  pids : ∀ {i j pid cgroup cgroup' timer timer'}, env.answer i = .created pid cgroup timer →
    env.answer j = .created pid cgroup' timer' → i = j
  timers : ∀ {i j pid pid' cgroup cgroup' fd}, env.answer i = .created pid cgroup (some fd) →
    env.answer j = .created pid' cgroup' (some fd) → i = j

/-- The numbers from an answer on are not in the tables. -/
def ServiceEnv.FreeFrom (env : ServiceEnv) (index : Nat) (runtime : ServiceRuntime) : Prop :=
  ∀ later, index ≤ later → ∀ pid cgroup timer, env.answer later = .created pid cgroup timer →
    pid ∉ runtime.pidMap ∧ ∀ fd ∈ timer, fd ∉ runtime.watchdogFds

/-- A host that notes some processes, which the tables of the other know. -/
abbrev Host.Lists (host : Host) (pid : Nat) : Prop := pid ∈ host.runtime.pidMap

/-- Noting a process leaves the later numbers free. -/
theorem ServiceEnv.FreeFrom.register {env : ServiceEnv} {index : Nat} {runtime : ServiceRuntime}
    (free : env.FreeFrom index runtime) (distinct : env.Distinct) {metadata : ServiceMetadata}
    {registryKey : Ustr} {branch user : Option Ustr} {pid : Nat} {cgroup : Option CoreError}
    {timer : Option Nat} (answered : env.answer index = .created pid cgroup timer) :
    env.FreeFrom (index + 1)
      (registerProcess metadata registryKey branch user pid (env.answer index) runtime) := by
  intro later le other cgroup' timer' created
  obtain ⟨absent, unarmed⟩ := free later (Nat.le_of_succ_le le) other cgroup' timer' created
  constructor
  · rw [registerProcess_pidMap, AList.mem_insert, not_or]
    refine ⟨?_, absent⟩
    rintro rfl
    exact absurd (distinct.pids answered created) (Nat.ne_of_lt le)
  · intro fd member
    obtain rfl := Option.mem_def.mp member
    unfold registerProcess
    split
    · next armed watchdog answer =>
        rw [ServiceRuntime.armWatchdogTimer, AList.mem_insert, not_or]
        refine ⟨?_, unarmed fd member⟩
        rintro rfl
        exact absurd (distinct.timers answer created) (Nat.ne_of_lt le)
    · exact unarmed fd member

/-- The processes of a start are noted. -/
theorem SpawnedAll.notes {env : ServiceEnv} {service : Service}
    {ctx : Option ServiceBranchContext} {registryKey : Ustr} {index : Nat} {host final : Host}
    {insts : List ChildInstance}
    (spawned : SpawnedAll env service ctx registryKey index host insts final)
    (distinct : env.Distinct) (free : env.FreeFrom index host.runtime)
    (agrees : host.runtime.Agrees) :
    final.runtime.Agrees ∧
      host.Notes Host.Lists registryKey (insts.map ChildInstance.pid) final ∧
      ∀ pid, some pid ∈ insts.map ChildInstance.pid → env.Creates pid := by
  induction spawned with
  | nil index host => exact ⟨agrees, .none registryKey rfl fun _ => id, by simp⟩
  | @cons index host middle final inst rest run first others ih =>
      obtain ⟨cgroup, timer, answered⟩ := first.answered
      obtain ⟨absent, unarmed⟩ := free index (Nat.le_refl _) first.pid cgroup timer answered
      have middle_agrees : middle.runtime.Agrees := by
        rw [first.runtime_eq]
        apply agrees.register absent
        intro other cgroup' fd created
        cases answered.symm.trans created
        exact unarmed fd rfl
      have pidMap : middle.runtime.pidMap = host.runtime.pidMap.insert first.pid registryKey := by
        rw [first.runtime_eq, registerProcess_pidMap]
      have one : host.Notes Host.Lists registryKey [some first.pid] middle := by
        refine ⟨?_, ?_, ?_, ?_, List.pairwise_singleton ..⟩
        · intro other member
          cases List.mem_singleton.mp member
          rw [pidMap, AList.lookup_insert]
        · intro other elsewhere
          rw [pidMap, AList.lookup_insert_ne]
          rintro rfl
          exact elsewhere List.mem_cons_self
        · intro other member
          cases List.mem_singleton.mp member
          exact ⟨absent, by rw [Host.Lists, pidMap, AList.mem_insert]; exact .inl rfl⟩
        · intro other before
          rw [Host.Lists, pidMap, AList.mem_insert]
          exact .inr before
      have free' : env.FreeFrom (index + 1) middle.runtime := by
        rw [first.runtime_eq]
        exact free.register distinct answered
      obtain ⟨last, more, created⟩ := ih free' middle_agrees
      have same : inst.pid = some first.pid := congrArg ChildInstance.pid first.inst_eq
      rw [List.map_cons, same]
      refine ⟨last, one.trans more, ?_⟩
      intro pid member
      rcases List.mem_cons.mp member with same | member
      · cases same
        exact first.creates
      · exact created pid member

/-- A failed spawn changes no table. -/
theorem SpawnFailed.runtime_eq {collected : Bool} {answer : SpawnAnswer} {host final : Host}
    (failed : SpawnFailed collected answer host final) : final.runtime = host.runtime := by
  cases failed with
  | refused => rfl
  | abandoned => rfl
  | killed => rfl

section Starts

variable [SerdeJson] [TomlText] {env : ServiceEnv} {request : StartRequest}

theorem spawnAll_notes {service : Service} {ctx : Option ServiceBranchContext}
    {registryKey : Ustr} {host final : Host} {result : Except CoreError (List ChildInstance)}
    (spawned : spawnAll env service ctx registryKey host = (result, final))
    (distinct : env.Distinct) (free : env.FreeFrom 0 host.runtime)
    (agrees : host.runtime.Agrees) :
    ∃ pids, (final.runtime.Agrees ∧ host.Notes Host.Lists registryKey pids final ∧
        ∀ pid, some pid ∈ pids → isInactive env.facets registryKey = false ∧ env.Creates pid) ∧
      ∀ insts, result = .ok insts → insts.map ChildInstance.pid = pids := by
  refine spawnAll_gives (fun pids final => final.runtime.Agrees ∧
    host.Notes Host.Lists registryKey pids final ∧ _) spawned ?_ ?_ ?_
  · exact ⟨agrees, .none registryKey rfl fun _ => id, by simp⟩
  · intro active insts final outcome
    obtain ⟨last, notes, created⟩ := outcome.notes distinct free agrees
    exact ⟨last, notes, fun pid member => ⟨active, created pid member⟩⟩
  · intro active insts middle final outcome failed
    obtain ⟨between, notes, created⟩ := outcome.notes distinct free agrees
    have same := failed.runtime_eq
    have more : middle.Notes Host.Lists registryKey [] final := by
      apply Host.Notes.none registryKey (by rw [same])
      intro pid before
      rw [Host.Lists, same]
      exact before
    have all := notes.trans more
    rw [List.append_nil] at all
    refine ⟨?_, all, fun pid member => ⟨active, created pid member⟩⟩
    rw [same]
    exact between

/-- A start that creates processes does so under the key its service is registered with. -/
def StartsKeyed (env : ServiceEnv) (request : StartRequest) (services : Services) : Prop :=
  ∀ key service,
    env.metadata.instantiateOne Service.new "*" request.name services.instances =
      some (key, service) →
    (request.deferred ∨ service.metadata.registersTransport = false) →
    request.held service = false →
    isInactive env.facets (ensureScopedName request.name) = false →
    ∀ pid, env.Creates pid → key = ensureScopedName request.name

end Starts

/-! ## Services -/

/-- The tables agree, and each instance is noted with its service. -/
structure Services.Bound (services : Services) : Prop where
  tables : services.host.runtime.Agrees
  noted : services.Noted services.host.Lists

namespace Services.Bound

variable {services final : Services}

theorem start [SerdeJson] [TomlText] {env : ServiceEnv} {request : StartRequest}
    (bound : services.Bound) (distinct : env.Distinct)
    (free : env.FreeFrom 0 services.host.runtime) (keyed : StartsKeyed env request services)
    (started : StartStep env request services final) : final.Bound := by
  constructor
  · rcases started.host_cases with same | ⟨key, service, result, found, now, idle, spawned⟩
    · rw [same]
      exact bound.tables
    · obtain ⟨pids, ⟨tables, -⟩, -⟩ := spawnAll_notes spawned distinct free bound.tables
      exact tables
  · apply bound.noted.start Host.Lists started
    intro key service result last found now idle spawned
    obtain ⟨pids, ⟨-, notes, created⟩, all⟩ := spawnAll_notes spawned distinct free bound.tables
    refine ⟨pids, notes, all, ?_⟩
    exact fun pid member =>
      keyed key service found now idle (created pid member).1 pid (created pid member).2

/-- A service is stopped, whole or in part. -/
theorem stopped {key : Ustr} {service : Service} (bound : services.Bound)
    (known : services.Known key service) (now : Nat) (mode : StopMode)
    (branch user : Option Ustr) (index : Option Nat) (lastState : ServiceState) :
    ({ instances := services.instances.insert key { service with
          instances := service.stoppedInstances branch user index
          lastState }
       host := stopProcesses now mode (service.stoppedPids branch user index) services.host } :
      Services).Bound := by
  have listed : ∀ pid ∈ service.stoppedPids branch user index,
      pid ∈ services.host.runtime.pidMap := by
    intro pid member
    obtain ⟨inst, inside, held⟩ := Service.pid_of_mem_stoppedPids member
    rcases known with known | new
    · exact (bound.noted.held key service known pid (List.mem_map.mpr ⟨inst, inside, held⟩)).2
    · rw [new] at inside
      cases inside
  have kept := (Host.Signalled.stopProcesses now mode (service.stoppedPids branch user index)
    services.host).pidMap
  have still : ∀ pid, services.host.Lists pid →
      (stopProcesses now mode (service.stoppedPids branch user index) services.host).Lists pid := by
    intro pid before
    rw [Host.Lists, kept]
    exact before
  refine ⟨Host.agrees_stopProcesses bound.tables listed now mode, ?_⟩
  refine bound.noted.grow Host.Lists (.none "" kept still) known rfl ?_ .slnil (by simp)
  rw [List.append_nil]
  exact service.map_stoppedInstances (ChildInstance.pid_stopped _ _) _

theorem stop {env : ServiceEnv} {request : StopRequest}
    {result : Except CoreError Unit × Services} (bound : services.Bound)
    (step : StopStep env request services result) : result.2.Bound := by
  cases step with
  | missing error absent => exact bound
  | stopped key service lastState found =>
      exact bound.stopped (known_of_instantiated found) env.now request.mode none
        request.onlyUser request.index lastState

/-- An exit takes the process out of all tables, wherever it is recorded. -/
theorem recordExit {pid : Nat} {code : Int} {result : Services × Option (Ustr × ServiceExitAction)}
    (bound : services.Bound) (step : ExitStep pid code services result) : result.1.Bound := by
  have noted := bound.noted
  constructor
  · cases step with
    | unknown unnoted => exact bound.tables
    | unregistered key listed absent =>
        have known := noted.registered pid key listed
        rw [← AList.lookup_isSome, absent] at known
        cases known
    | unheld key service listed found without => exact bound.tables.forget pid
    | handled key service index inst listed found position at_ => exact bound.tables.forget pid
  · apply noted.recordExit step
    intro other other_ne before
    have kept : other ∈ ((services.host.runtime.forget pid).disarmWatchdogPid pid).pidMap := by
      rw [disarmWatchdogPid_pidMap, forget_pidMap]
      exact AList.mem_erase.mpr ⟨other_ne, before⟩
    cases step with
    | unknown unnoted => exact before
    | unregistered key listed absent => exact AList.mem_erase.mpr ⟨other_ne, before⟩
    | unheld key service listed found without => exact kept
    | handled key service index inst listed found position at_ => exact kept

/-- The runtime changes within its tables. -/
theorem updateRuntime {update : ServiceRuntime → ServiceRuntime} (bound : services.Bound)
    (tables : (update services.host.runtime).Agrees)
    (kept : (update services.host.runtime).pidMap = services.host.runtime.pidMap) :
    (services.updateRuntime update).Bound :=
  ⟨tables, bound.noted.kept rfl kept fun pid before => by
    rw [Host.Lists, Services.updateRuntime, kept]
    exact before⟩

theorem dropWatchdog {fd : Nat} {binding : WatchdogBinding} (bound : services.Bound)
    (found : services.host.runtime.watchdogFds.lookup fd = some binding) :
    (services.updateRuntime (·.dropWatchdog fd binding.pid)).Bound := by
  apply bound.updateRuntime
  · rw [bound.tables.dropWatchdog_eq found]
    exact bound.tables.disarm binding.pid
  · rfl

theorem sweep (env : ServiceEnv) (bound : services.Bound) : (timeoutSweep env services).Bound := by
  rw [timeoutSweep]
  generalize List.map Sigma.fst _ = expired
  induction expired generalizing services with
  | nil => exact bound
  | cons pid rest ih =>
      have killed : (services.updateKernel (·.kill pid .sigkill)).Bound :=
        ⟨bound.tables, bound.noted.kept rfl rfl fun _ => id⟩
      exact ih (killed.updateRuntime (bound.tables.unstop pid) rfl)

end Services.Bound

end Rind
