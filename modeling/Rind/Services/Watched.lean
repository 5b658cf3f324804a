import Rind.Services.Bindings

/-!
# Watched processes

The service runtime runs together with the resources of the event loop.  In every state of
a run the tables of the watchdogs are inverse to each other, each process in them and each
stopping one is noted, and the armed timers are owned until they are terminated.  This
rests on starts that note a process under the key its service is registered with; the name
of a start and the page of its definition decide that.
-/

namespace Rind

open Runs Maps

/-! ## The system -/

/-- The services and the resources. -/
structure WatchSystem (P : Type) where
  services : Services
  resources : Resources P

/-- What happens to the processes of services. `stopService` is a stop of a registered
service by a trigger, a stack, a scope or the end of the daemon. -/
inductive WatchAction (P : Type) where
  | start (request : StartRequest)
  | stop (request : StopRequest)
  | stopService (key : Ustr) (mode : StopMode) (branch user : Option Ustr) (index : Option Nat)
  | exit (pid : Nat) (code : Int)
  | ping (service : Ustr) (branch : Option Ustr)
  | expired (fd : Nat)
  | sweep
  | resource (op : ResourceOp P)

/-- A stop of a registered service. -/
def stopRegistered (env : ServiceEnv) (key : Ustr) (mode : StopMode) (branch user : Option Ustr)
    (index : Option Nat) (services : Services) : Services :=
  match services.instances.lookup key with
  | some service =>
      let (service, host) := stopService env.now mode branch user index service services.host
      { instances := services.instances.insert key service, host }
  | none => services

def stopRegisteredOps {P : Type} (env : ServiceEnv) (key : Ustr) (mode : StopMode)
    (branch user : Option Ustr) (index : Option Nat) (services : Services) :
    List (ResourceOp P) :=
  match services.instances.lookup key with
  | some service => stopServiceOps env.now mode branch user index service services.host
  | none => []

section System

variable [SerdeJson] [TomlText] {P : Type} (insertField : Ustr → Ustr → P → P)

/-- The services after an action. A ping sets timers anew and changes no table. -/
def watchServices (services : Services) (event : ServiceEnv × WatchAction P) : Services :=
  let env := event.1
  match event.2 with
  | .start request => (start env request services).2
  | .stop request => (stop env request services).2
  | .stopService key mode branch user index =>
      stopRegistered env key mode branch user index services
  | .exit pid code => (childExited env pid code services).2
  | .ping _ _ => services
  | .expired fd => (watchdogExpired env fd services).2
  | .sweep => timeoutSweep env services
  | .resource _ => services

/-- What an action does with the resources. -/
def watchOps (services : Services) (event : ServiceEnv × WatchAction P) : List (ResourceOp P) :=
  let env := event.1
  match event.2 with
  | .start request => startOps insertField env request services
  | .stop request => stopOps env request services
  | .stopService key mode branch user index =>
      stopRegisteredOps env key mode branch user index services
  | .exit pid code => childExitedOps insertField env pid code services
  | .ping _ _ | .sweep => []
  | .expired fd => watchdogExpiredOps insertField env fd services
  | .resource op => [op]

def watchStep (system : WatchSystem P) (event : ServiceEnv × WatchAction P) : WatchSystem P where
  services := watchServices system.services event
  resources := Runs.run resourceStep system.resources (watchOps insertField system.services event)

/-- The part of an action before the start it makes, and that start. -/
def beforeWatch (services : Services) (event : ServiceEnv × WatchAction P) :
    Services × Option StartRequest :=
  match event.2 with
  | .start request => (services, some request)
  | .exit pid code => afterExit pid code services
  | .expired fd => beforeStart services (event.1, .watchdogExpired fd)
  | _ => (services, none)

end System

/-- A sweep arms and disarms nothing. -/
theorem timeoutSweep_watchdogFds (env : ServiceEnv) (services : Services) :
    (timeoutSweep env services).host.runtime.watchdogFds =
      services.host.runtime.watchdogFds := by
  rw [timeoutSweep]
  generalize List.map Sigma.fst _ = expired
  induction expired generalizing services with
  | nil => rfl
  | cons pid rest ih => rw [List.foldl_cons, ih]; rfl

/-! ## Agreement -/

/-- The watchdogs by descriptor and by process are inverse to each other, each process in
them and each stopping one is noted, and each armed descriptor is owned. -/
structure WatchSystem.Consistent {P : Type} (system : WatchSystem P) : Prop where
  inverse : ∀ pid fd, system.services.host.runtime.watchdogPids.lookup pid = some fd ↔
    ∃ binding, system.services.host.runtime.watchdogFds.lookup fd = some binding ∧
      binding.pid = pid
  watched : ∀ pid ∈ system.services.host.runtime.watchdogPids,
    pid ∈ system.services.host.runtime.pidMap
  bound : ∀ fd binding, system.services.host.runtime.watchdogFds.lookup fd = some binding →
    binding.pid ∈ system.services.host.runtime.pidMap
  stopping : ∀ pid ∈ system.services.host.runtime.stoppingMap,
    pid ∈ system.services.host.runtime.pidMap
  owned : ∀ fd ∈ system.services.host.runtime.watchdogFds,
    system.resources.fd.lookup (fd : RawFd) = some (.timer fd)

/-- The numbers that the system gives to a start are new: the processes are not noted, and
nothing is known of the descriptors. -/
structure FreshNumbers {P : Type} (env : ServiceEnv) (runtime : ServiceRuntime)
    (resources : Resources P) : Prop where
  pids : ∀ pid, env.Creates pid → pid ∉ runtime.pidMap
  timers : ∀ fd : Nat, env.Times fd → resources.Clean (fd : RawFd)
  distinct : env.Distinct

/-- Where timers are only ended, what is new stays so. -/
theorem FreshNumbers.ends {P : Type} {env : ServiceEnv} {runtime : ServiceRuntime}
    {resources : Resources P} (fresh : FreshNumbers env runtime resources)
    {ops : List (ResourceOp P)} (ends : ∀ op ∈ ops, op.Ends) :
    FreshNumbers env runtime (Runs.run resourceStep resources ops) :=
  ⟨fresh.pids, fun fd timed => (fresh.timers fd timed).ends ends, fresh.distinct⟩

section Conditions

variable [SerdeJson] [TomlText] {P : Type}

/-- New processes and descriptors have new numbers, an exit is one of a registered service,
and what else is done with the resources is a pass or is about other descriptors. -/
structure WatchAssumed (system : WatchSystem P) (event : ServiceEnv × WatchAction P) : Prop where
  fresh : ∀ request ∈ (beforeWatch system.services event).2,
    FreshNumbers event.1 (beforeWatch system.services event).1.host.runtime system.resources
  registered : ∀ pid code, event.2 = .exit pid code → ∀ key,
    system.services.host.runtime.pidMap.lookup pid = some key →
    key ∈ system.services.instances
  elsewhere : ∀ op, event.2 = .resource op → (∃ accepts, op = .pass accepts) ∨
    ∀ fd ∈ system.services.host.runtime.watchdogFds, op.Spares (fd : RawFd)

/-- A start that an action makes notes its processes under the key of its service. -/
def KeepsKeys (services : Services) (event : ServiceEnv × WatchAction P) : Prop :=
  ∀ request ∈ (beforeWatch services event).2,
    StartsKeyed event.1 request (beforeWatch services event).1

end Conditions

/-- The tables of the services agree, and the resources back the armed descriptors. -/
structure WatchSystem.Sound {P : Type} (system : WatchSystem P) : Prop where
  bound : system.services.Bound
  backs : system.resources.Backs system.services.host.runtime

namespace WatchSystem.Sound

variable {P : Type} {system : WatchSystem P}

theorem consistent (sound : system.Sound) : system.Consistent where
  inverse := sound.bound.tables.inverse
  watched := sound.bound.tables.watched
  bound _ _ found := sound.bound.tables.bound found
  stopping := sound.bound.tables.stopping
  owned fd armed := (sound.backs fd armed).1

/-- Timers are only ended. -/
theorem ends {services : Services} {ops : List (ResourceOp P)} (sound : system.Sound)
    (bound : services.Bound)
    (mirrors : Mirrors system.services.host.runtime services.host.runtime ops)
    (ends : ∀ op ∈ ops, op.Ends) :
    (⟨services, Runs.run resourceStep system.resources ops⟩ : WatchSystem P).Sound :=
  ⟨bound, sound.backs.ends mirrors ends⟩

theorem stopRegistered (sound : system.Sound) (env : ServiceEnv) (key : Ustr) (mode : StopMode)
    (branch user : Option Ustr) (index : Option Nat) :
    (⟨Rind.stopRegistered env key mode branch user index system.services,
      Runs.run resourceStep system.resources
        (stopRegisteredOps env key mode branch user index system.services)⟩ :
      WatchSystem P).Sound := by
  rw [Rind.stopRegistered, stopRegisteredOps]
  cases found : system.services.instances.lookup key with
  | none => exact sound
  | some service =>
      obtain ⟨lastState, stopped⟩ :=
        stopService_eq env.now mode branch user index service system.services.host
      have mirrors : Mirrors system.services.host.runtime
          (stopService env.now mode branch user index service system.services.host).2.runtime
          (stopServiceOps env.now mode branch user index service system.services.host :
            List (ResourceOp P)) := mirrors_stopService index service system.services.host
      rw [stopped] at mirrors
      simp only [stopped]
      exact sound.ends (sound.bound.stopped (.inl found) env.now mode branch user index lastState)
        mirrors (ends_stopService index service system.services.host)

section Starts

variable [SerdeJson] [TomlText] {insertField : Ustr → Ustr → P → P} {env : ServiceEnv}

omit [SerdeJson] [TomlText] in
/-- New numbers are in no table. -/
theorem freeFrom (sound : system.Sound)
    (fresh : FreshNumbers env system.services.host.runtime system.resources) :
    env.FreeFrom 0 system.services.host.runtime := by
  intro index _ pid cgroup timer created
  refine ⟨fresh.pids pid ⟨index, cgroup, timer, created⟩, ?_⟩
  intro fd member armed
  obtain rfl := Option.mem_def.mp member
  apply (fresh.timers fd ⟨index, pid, cgroup, created⟩).handle
  rw [← AList.lookup_isSome, (sound.backs fd armed).1, Option.isSome_some]

theorem start {request : StartRequest} (sound : system.Sound)
    (fresh : FreshNumbers env system.services.host.runtime system.resources)
    (keyed : StartsKeyed env request system.services) :
    (⟨(Rind.start env request system.services).2, Runs.run resourceStep system.resources
      (startOps insertField env request system.services)⟩ : WatchSystem P).Sound :=
  ⟨sound.bound.start fresh.distinct (sound.freeFrom fresh) keyed (start_cases system.services),
    sound.backs.begins (mirrors_start insertField env request system.services)
      (begins_start request system.services) fresh.timers⟩

theorem exit {pid : Nat} {code : Int} (sound : system.Sound)
    (fresh : ∀ request ∈ (afterExit pid code system.services).2,
      FreshNumbers env (afterExit pid code system.services).1.host.runtime system.resources)
    (keyed : ∀ request ∈ (afterExit pid code system.services).2,
      StartsKeyed env request (afterExit pid code system.services).1) :
    (⟨(childExited env pid code system.services).2, Runs.run resourceStep system.resources
      (childExitedOps insertField env pid code system.services)⟩ : WatchSystem P).Sound := by
  have ending : ∀ op ∈ (recordExitOps pid system.services : List (ResourceOp P)), op.Ends :=
    ends_recordExit pid system.services
  have recorded := sound.ends (sound.bound.recordExit (recordExit_cases pid code system.services))
    (mirrors_recordExit pid code system.services) ending
  rw [afterExit] at fresh keyed
  rw [childExited, childExitedOps, run_append]
  generalize recordExit pid code system.services = result at recorded fresh keyed ⊢
  rcases result with ⟨middle, _ | ⟨key, _ | _⟩⟩
  · exact recorded
  · exact recorded.start ((fresh _ rfl).ends ending) (keyed _ rfl)
  · exact recorded

theorem expired {fd : Nat} (sound : system.Sound)
    (fresh : ∀ request ∈ (beforeStart system.services (env, .watchdogExpired fd)).2,
      FreshNumbers env (beforeStart system.services (env, .watchdogExpired fd)).1.host.runtime
        system.resources)
    (keyed : ∀ request ∈ (beforeStart system.services (env, .watchdogExpired fd)).2,
      StartsKeyed env request (beforeStart system.services (env, .watchdogExpired fd)).1) :
    (⟨(watchdogExpired env fd system.services).2, Runs.run resourceStep system.resources
      (watchdogExpiredOps insertField env fd system.services)⟩ : WatchSystem P).Sound := by
  simp only [beforeStart] at fresh keyed
  rw [watchdogExpired, watchdogExpiredOps]
  cases found : system.services.host.runtime.watchdogFds.lookup fd with
  | none => exact sound
  | some binding =>
      simp only [found] at fresh keyed
      dsimp only
      generalize instanceKeyName binding.serviceKey = name at fresh keyed ⊢
      have dropping : ∀ op ∈ [(.terminate fd : ResourceOp P)], op.Ends := by
        simp [ResourceOp.Ends]
      have dropped := sound.ends (sound.bound.dropWatchdog found)
        (.terminate fd rfl : Mirrors system.services.host.runtime
          (system.services.host.runtime.dropWatchdog fd binding.pid) [.terminate fd]) dropping
      generalize system.services.updateRuntime _ = middle at fresh keyed dropped ⊢
      have stopping : ∀ op ∈ (stopOps env (watchdogStop name) middle : List (ResourceOp P)),
          op.Ends := ends_stop env (watchdogStop name) middle
      have stopped := dropped.ends (dropped.bound.stop (stop_cases env (watchdogStop name) middle))
        (mirrors_stop env (watchdogStop name) middle) stopping
      rw [← List.singleton_append, run_append]
      cases action : watchdogAction env binding with
      | signal =>
          exact ⟨⟨dropped.bound.tables, dropped.bound.noted.kept rfl rfl fun _ => id⟩,
            dropped.backs⟩
      | stop => exact stopped
      | restart =>
          simp only [action] at fresh keyed
          dsimp only
          rw [run_append]
          generalize stop env (watchdogStop name) middle = result at fresh keyed stopped ⊢
          obtain ⟨_ | _, last⟩ := result
          · exact stopped
          · exact stopped.start (((fresh _ rfl).ends dropping).ends stopping) (keyed _ rfl)

theorem step {event : ServiceEnv × WatchAction P} (sound : system.Sound)
    (assumed : WatchAssumed system event) (keeps : KeepsKeys system.services event) :
    (watchStep insertField system event).Sound := by
  obtain ⟨env, action⟩ := event
  obtain ⟨fresh, -, elsewhere⟩ := assumed
  cases action with
  | start request => exact sound.start (fresh request rfl) (keeps request rfl)
  | stop request =>
      exact sound.ends (sound.bound.stop (stop_cases env request system.services))
        (mirrors_stop env request system.services) (ends_stop env request system.services)
  | stopService key mode branch user index =>
      exact sound.stopRegistered env key mode branch user index
  | exit pid code => exact sound.exit fresh keeps
  | ping service branch => exact sound
  | expired fd => exact sound.expired fresh keeps
  | sweep =>
      exact sound.ends (sound.bound.sweep env) (.same (timeoutSweep_watchdogFds env _))
        fun op member => absurd member List.not_mem_nil
  | resource op =>
      refine ⟨sound.bound, ?_⟩
      rcases elsewhere op rfl with ⟨accepts, rfl⟩ | spares
      · exact sound.backs.pass accepts
      · exact sound.backs.spares spares

end Starts

end WatchSystem.Sound

theorem sound_boot {P : Type} (resources : Resources P) :
    (⟨.boot, resources⟩ : WatchSystem P).Sound := by
  refine ⟨⟨⟨.empty _, ?_, ?_⟩, ⟨?_, ?_, ?_⟩⟩, ?_⟩
  · exact fun pid member => absurd member (AList.notMem_empty pid)
  · exact fun pid member => absurd member (AList.notMem_empty pid)
  · intro key service found
    rw [Services.boot, AList.lookup_empty] at found
    cases found
  · intro key service found
    rw [Services.boot, AList.lookup_empty] at found
    cases found
  · intro pid key found
    rw [Services.boot, AList.lookup_empty] at found
    cases found
  · exact fun fd armed => absurd armed (AList.notMem_empty fd)

section Runs

variable [SerdeJson] [TomlText] {P : Type} {insertField : Ustr → Ustr → P → P}

/-- An armed descriptor stays so, or is terminated. -/
theorem armed_watchStep (system : WatchSystem P) (event : ServiceEnv × WatchAction P) {fd : Nat}
    (armed : fd ∈ system.services.host.runtime.watchdogFds) :
    fd ∈ (watchStep insertField system event).services.host.runtime.watchdogFds ∨
      .terminate (fd : RawFd) ∈ watchOps insertField system.services event := by
  refine or_iff_not_imp_right.mpr fun spared => ?_
  obtain ⟨env, action⟩ := event
  cases action with
  | start request =>
      exact (mirrors_start insertField env request system.services).armed armed spared
  | stop request => exact (mirrors_stop env request system.services).armed armed spared
  | stopService key mode branch user index =>
      simp only [watchOps, stopRegisteredOps] at spared
      simp only [watchStep, watchServices, stopRegistered]
      cases found : system.services.instances.lookup key with
      | none => exact armed
      | some service =>
          simp only [found] at spared
          exact (mirrors_stopService index service system.services.host).armed armed spared
  | exit pid code =>
      exact (mirrors_childExited insertField env pid code system.services).armed armed spared
  | ping service branch => exact armed
  | expired fd =>
      exact (mirrors_watchdogExpired insertField env fd system.services).armed armed spared
  | sweep =>
      rw [watchStep, watchServices, timeoutSweep_watchdogFds]
      exact armed
  | resource op => exact armed

/-- In every state of a run whose starts note their processes under the keys of their
services, the tables of the watchdogs are consistent with each other and with the
resources, and an armed descriptor stays armed until it is terminated. -/
theorem watchdogs_consistent {resources : Resources P} {events : List (ServiceEnv × WatchAction P)}
    (keeps : Along (watchStep insertField)
      (fun system event => WatchAssumed system event ∧ KeepsKeys system.services event)
      ⟨.boot, resources⟩ events) :
    (Runs.run (watchStep insertField) ⟨.boot, resources⟩ events).Consistent ∧
      ∀ event fd,
        fd ∈ (Runs.run (watchStep insertField) ⟨.boot, resources⟩
          events).services.host.runtime.watchdogFds →
        fd ∈ (watchStep insertField (Runs.run (watchStep insertField) ⟨.boot, resources⟩ events)
          event).services.host.runtime.watchdogFds ∨
        .terminate (fd : RawFd) ∈ watchOps insertField
          (Runs.run (watchStep insertField) ⟨.boot, resources⟩ events).services event := by
  have sound : (Runs.run (watchStep insertField) ⟨.boot, resources⟩ events).Sound :=
    keeps.invariant (fun _ _ sound keeps => sound.step keeps.1 keeps.2) (sound_boot resources)
  exact ⟨sound.consistent, fun event fd armed => armed_watchStep _ event armed⟩

end Runs

/-! ## A service of another page -/

open scoped Compact

/-- A page with one service, and one process that can be created, with its timer. -/
def onceEnv (page : Ustr) (metadata : ServiceMetadata) (pid : Nat) (timer : Option Nat) :
    ServiceEnv :=
  { loneEnv metadata pid with
    metadata := .ofGroup page "app" [metadata]
    answer := fun index =>
      if index = 0 then .created pid none timer else .refused (.custom "none is left") }

theorem onceEnv_answer {page : Ustr} {metadata : ServiceMetadata} {pid other index : Nat}
    {timer timer' : Option Nat} {cgroup : Option CoreError}
    (created : (onceEnv page metadata pid timer).answer index = .created other cgroup timer') :
    index = 0 ∧ other = pid ∧ timer' = timer := by
  simp only [onceEnv] at created
  split at created
  · next first =>
      cases created
      exact ⟨first, rfl, rfl⟩
  · cases created

theorem freshNumbers_onceEnv {P : Type} {page : Ustr} {metadata : ServiceMetadata} {pid : Nat}
    {timer : Option Nat} {runtime : ServiceRuntime} {resources : Resources P}
    (absent : pid ∉ runtime.pidMap) (clean : ∀ fd ∈ timer, resources.Clean (fd : RawFd)) :
    FreshNumbers (onceEnv page metadata pid timer) runtime resources where
  pids := by
    rintro other ⟨index, cgroup, timer', created⟩
    rw [(onceEnv_answer created).2.1]
    exact absent
  timers := by
    rintro fd ⟨index, other, cgroup, created⟩
    exact clean fd (onceEnv_answer created).2.2.symm
  distinct :=
    ⟨fun one two => (onceEnv_answer one).1.trans (onceEnv_answer two).1.symm,
      fun one two => (onceEnv_answer one).1.trans (onceEnv_answer two).1.symm⟩

/-- A payload without fields. -/
def noFields : Ustr → Ustr → Unit → Unit := fun _ _ payload => payload

/-- A watched service is started, is stopped and exits. -/
def watchedOnce : List (ServiceEnv × WatchAction Unit) :=
  [(onceEnv "static" watchedService 100 (some 7), .start (.plain "app:worker")),
    (onceEnv "static" watchedService 101 none, .resource (.pass acceptAll)),
    (onceEnv "static" watchedService 101 none, .stop stopWorker),
    (onceEnv "static" watchedService 101 none, .exit 100 143)]

/-- The services of a run of the small system. -/
def watchedRun (events : List (ServiceEnv × WatchAction Unit)) : WatchSystem Unit :=
  Runs.run (watchStep noFields) ⟨.boot, .empty Unit⟩ events

theorem watchdogs_consistent_once :
    (Runs.run (watchStep noFields) ⟨.boot, .empty Unit⟩ watchedOnce).Consistent := by
  have started : (onceEnv "static" watchedService 100 (some 7)).metadata.instantiateOne
      Service.new "*" "app:worker" Services.boot.instances =
        some ("app:worker@static", .new watchedService) := by
    decide +kernel
  have known : (watchedRun (watchedOnce.take 3)).services.host.runtime.pidMap.lookup 100 =
      some "app:worker@static" := by
    decide +kernel
  have kept : "app:worker@static" ∈ (watchedRun (watchedOnce.take 3)).services.instances := by
    decide +kernel
  have ended : (beforeWatch (watchedRun (watchedOnce.take 3)).services
      (onceEnv "static" watchedService 101 none, (.exit 100 143 : WatchAction Unit))).2 = none := by
    decide +kernel
  have keeps : Along (watchStep noFields)
      (fun system event => WatchAssumed system event ∧ KeepsKeys system.services event)
      ⟨.boot, .empty Unit⟩ watchedOnce := by
    refine ⟨⟨⟨?_, nofun, nofun⟩, ?_⟩, ⟨⟨nofun, nofun, ?_⟩, nofun⟩, ⟨⟨nofun, nofun, nofun⟩, nofun⟩,
      ⟨⟨?_, ?_, nofun⟩, ?_⟩, trivial⟩
    · rintro request -
      refine freshNumbers_onceEnv (AList.notMem_empty 100) ?_
      rintro fd -
      exact ⟨nofun, nofun, nofun, nofun, AList.notMem_empty _, AList.notMem_empty _,
        AList.notMem_empty _⟩
    · intro request asked key service found now free active pid created
      cases Option.some_inj.mp asked
      cases Option.some_inj.mp (found.symm.trans started)
      decide +kernel
    · intro op same
      cases same
      exact .inl ⟨acceptAll, rfl⟩
    · intro request asked
      cases ended.symm.trans asked
    · rintro pid code same key noted
      cases same
      cases Option.some_inj.mp (known.symm.trans noted)
      exact kept
    · intro request asked
      cases ended.symm.trans asked
  exact (watchdogs_consistent keeps).1

/-- The service is started by its name on a page that it is not defined on, and by its
plain name, whose process is noted under the first and kept under the page of the
definition. -/
def strayed : List (ServiceEnv × WatchAction Unit) :=
  [(onceEnv "units" workerService 100 none, .start (.plain "app:worker@static")),
    (onceEnv "units" workerService 101 none, .start (.plain "app:worker")),
    (onceEnv "units" workerService 102 none, .exit 101 0),
    (onceEnv "units" workerService 102 none, .stop stopWorker)]

theorem not_watchdogs_consistent :
    ¬ ∀ events : List (ServiceEnv × WatchAction Unit),
      Along (watchStep noFields) WatchAssumed ⟨.boot, .empty Unit⟩ events →
        (Runs.run (watchStep noFields) ⟨.boot, .empty Unit⟩ events).Consistent := by
  intro consistent
  have absent : 101 ∉ (watchedRun (strayed.take 1)).services.host.runtime.pidMap := by
    decide +kernel
  have known : (watchedRun (strayed.take 2)).services.host.runtime.pidMap.lookup 101 =
      some "app:worker@static" := by
    decide +kernel
  have kept : "app:worker@static" ∈ (watchedRun (strayed.take 2)).services.instances := by
    decide +kernel
  have ended : (beforeWatch (watchedRun (strayed.take 2)).services
      (onceEnv "units" workerService 102 none, (.exit 101 0 : WatchAction Unit))).2 = none := by
    decide +kernel
  have assumed : Along (watchStep noFields) WatchAssumed ⟨.boot, .empty Unit⟩ strayed := by
    refine ⟨⟨?_, nofun, nofun⟩, ⟨?_, nofun, nofun⟩, ⟨?_, ?_, nofun⟩, ⟨nofun, nofun, nofun⟩, trivial⟩
    · rintro request -
      exact freshNumbers_onceEnv (AList.notMem_empty 100) nofun
    · rintro request -
      exact freshNumbers_onceEnv absent nofun
    · intro request asked
      cases ended.symm.trans asked
    · rintro pid code same key noted
      cases same
      cases Option.some_inj.mp (known.symm.trans noted)
      exact kept
  have stopping : 101 ∈ (watchedRun strayed).services.host.runtime.stoppingMap ∧
      101 ∉ (watchedRun strayed).services.host.runtime.pidMap := by
    decide +kernel
  exact stopping.2 ((consistent strayed assumed).stopping 101 stopping.1)

end Rind
