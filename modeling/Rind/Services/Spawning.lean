import Rind.Services.Runtime

/-!
# What starts do

The cases of spawning a process, of the processes of one start and of a start by
request, each stated once for all later proofs.
-/

namespace Rind

section Spawning

/-! ## One process -/

/-- Whether the executor collects the exit status of a service's processes itself. -/
def Service.collected (scopes : ScopeAttributes) (service : Service) (registryKey : Ustr) : Bool :=
  match isolationFor scopes service.metadata ((Text.rsplitOnce '@' registryKey).map Prod.snd) with
  | .ok isolation => Executor.waits service.metadata isolation
  | .error _ => false

/-- A process that was started: its instance, and the host that knows it. -/
structure Spawned (env : ServiceEnv) (service : Service) (ctx : Option ServiceBranchContext)
    (registryKey : Ustr) (run : RunOption) (answer : SpawnAnswer) (host : Host)
    (inst : ChildInstance) (final : Host) where
  launch : Launch
  pid : Nat
  answered : ∃ cgroup timer, answer = .created pid cgroup timer
  native : launch.executor = .native
  fresh : pid ∉ host.kernel.children
  inst_eq : inst = ChildInstance.new ((ctx.bind (·.key)).getD "") launch.user (some ⟨pid⟩)
  runtime_eq : final.runtime = registerProcess service.metadata registryKey (ctx.bind (·.key))
    launch.user pid answer host.runtime
  kernel_eq : final.kernel =
    if service.collected env.scopes registryKey then host.kernel
    else host.kernel.fork pid ⟨run, launch.user, false⟩

/-- How a spawn fails: before there is a process, with a process left behind, or
with a process that is killed, be its exit status collected by the executor or
not. -/
inductive SpawnFailed (collected : Bool) (answer : SpawnAnswer) (host : Host) : Host → Prop where
  | refused : SpawnFailed collected answer host host
  | abandoned (pid : Nat) (error : CoreError) (process : Process)
      (left : answer = .abandoned pid error) :
      SpawnFailed collected answer host { host with kernel := host.kernel.fork pid process }
  | killed (pid : Nat) (process : Process) (kernel : Kernel) (fresh : pid ∉ host.kernel.children)
      (answered : ∃ cgroup timer, answer = .created pid cgroup timer)
      (kernel_eq : kernel = if collected then host.kernel else host.kernel.fork pid process) :
      SpawnFailed collected answer host { host with kernel := kernel.kill pid .sigkill }

theorem Executor.spawn_ok {executor : Executor} {metadata : ServiceMetadata}
    {isolation : ServiceIsolation} {process : Process} {answer : SpawnAnswer}
    {kernel final : Kernel} {handle : InstanceHandle}
    (spawned : executor.spawn metadata isolation process answer kernel = (.ok handle, final)) :
    executor = .native ∧ (∃ cgroup timer, answer = .created handle.pid cgroup timer) ∧
      handle.pid ∉ kernel.children ∧
      final = if waits metadata isolation then kernel else kernel.fork handle.pid process := by
  cases executor with
  | remote => cases answer <;> simp [spawn] at spawned
  | ima => simp [spawn] at spawned
  | native =>
      cases answer with
      | refused error => simp [spawn] at spawned
      | abandoned pid error => simp [spawn] at spawned
      | created pid cgroup timer =>
          simp only [spawn] at spawned
          split at spawned
          · simp at spawned
          · next fresh =>
              split at spawned
              · next waiting =>
                  cases spawned
                  exact ⟨rfl, ⟨cgroup, timer, rfl⟩, fresh, by rw [if_pos waiting]⟩
              · next running =>
                  cases spawned
                  exact ⟨rfl, ⟨cgroup, timer, rfl⟩, fresh, by rw [if_neg running]⟩

theorem Executor.spawn_error {executor : Executor} {metadata : ServiceMetadata}
    {isolation : ServiceIsolation} {process : Process} {answer : SpawnAnswer}
    {kernel final : Kernel} {error : CoreError}
    (spawned : executor.spawn metadata isolation process answer kernel = (.error error, final)) :
    final = kernel ∨
      ∃ pid error, answer = .abandoned pid error ∧ final = kernel.fork pid process := by
  cases executor with
  | remote => cases answer <;> (cases spawned; exact .inl rfl)
  | ima => cases spawned; exact .inl rfl
  | native =>
      cases answer with
      | refused error => cases spawned; exact .inl rfl
      | abandoned pid error => cases spawned; exact .inr ⟨pid, error, rfl, rfl⟩
      | created pid cgroup timer =>
          simp only [spawn] at spawned
          split at spawned
          · cases spawned; exact .inl rfl
          · split at spawned <;> simp at spawned

variable [SerdeJson] {env : ServiceEnv} {service : Service} {ctx : Option ServiceBranchContext}
  {registryKey : Ustr} {run : RunOption} {answer : SpawnAnswer} {host final : Host}

theorem prepare_collected {launch : Launch}
    (prepared : prepare env service ctx registryKey run = .ok launch) :
    service.collected env.scopes registryKey =
      Executor.waits service.metadata launch.isolation := by
  simp only [prepare, bind, Except.bind] at prepared
  split at prepared
  · cases prepared
  · split at prepared
    · cases prepared
    · next isolation isolated =>
        rw [Service.collected, isolated]
        split at prepared
        · cases prepared
        · cases prepared
          rfl

theorem spawnProcess_ok {inst : ChildInstance}
    (spawned : spawnProcess env service ctx registryKey run answer host = (.ok inst, final)) :
    Nonempty (Spawned env service ctx registryKey run answer host inst final) := by
  rw [spawnProcess] at spawned
  split at spawned
  · simp at spawned
  · next launch prepared =>
      split at spawned
      · simp at spawned
      · next handle kernel executed =>
          obtain ⟨native, answered, fresh, kernel_eq⟩ := Executor.spawn_ok executed
          split at spawned
          · simp at spawned
          · simp only [Prod.mk.injEq, Except.ok.injEq] at spawned
            obtain ⟨inst_eq, final_eq⟩ := spawned
            subst final_eq
            exact ⟨{
              launch, pid := handle.pid, answered, native, fresh
              inst_eq := inst_eq.symm
              runtime_eq := rfl
              kernel_eq := by rw [prepare_collected prepared, kernel_eq] }⟩

theorem spawnProcess_error {error : CoreError}
    (failed : spawnProcess env service ctx registryKey run answer host = (.error error, final)) :
    SpawnFailed (service.collected env.scopes registryKey) answer host final := by
  rw [spawnProcess] at failed
  split at failed
  · cases failed
    exact .refused
  · next launch prepared =>
      split at failed
      · next kernel executed =>
          cases failed
          rcases Executor.spawn_error executed with same | ⟨pid, error, left, same⟩
          · rw [same]
            exact .refused
          · rw [same]
            exact .abandoned pid error _ left
      · next handle kernel executed =>
          obtain ⟨-, answered, fresh, kernel_eq⟩ := Executor.spawn_ok executed
          split at failed
          · cases failed
            apply SpawnFailed.killed handle.pid ⟨run, launch.user, false⟩ kernel fresh answered
            rw [prepare_collected prepared, kernel_eq]
          · simp at failed

/-! ## The processes of a start -/

/-- Processes started one after the other, by the answers from an index on. -/
inductive SpawnedAll (env : ServiceEnv) (service : Service) (ctx : Option ServiceBranchContext)
    (registryKey : Ustr) : (index : Nat) → Host → List ChildInstance → Host → Prop where
  | nil (index : Nat) (host : Host) : SpawnedAll env service ctx registryKey index host [] host
  | cons {index : Nat} {host middle final : Host} {inst : ChildInstance}
      {rest : List ChildInstance} (run : RunOption)
      (first : Spawned env service ctx registryKey run (env.answer index) host inst middle)
      (others : SpawnedAll env service ctx registryKey (index + 1) middle rest final) :
      SpawnedAll env service ctx registryKey index host (inst :: rest) final

variable [TomlText]

/-- What a start leaves on the host: all its processes, or those before the
first failure and what that leaves. -/
theorem spawnEach_cases {runs : List RunOption} {index : Nat}
    {result : Except CoreError (List ChildInstance)}
    (spawned : spawnEach env service ctx registryKey runs index host = (result, final)) :
    match result with
    | .ok insts => SpawnedAll env service ctx registryKey index host insts final
    | .error _ => ∃ insts middle, SpawnedAll env service ctx registryKey index host insts middle ∧
        SpawnFailed (service.collected env.scopes registryKey)
          (env.answer (index + insts.length)) middle final := by
  induction runs generalizing index host result with
  | nil =>
      cases spawned
      exact .nil ..
  | cons run rest ih =>
      rw [spawnEach] at spawned
      split at spawned
      · next error middle failed =>
          cases spawned
          exact ⟨[], _, .nil .., spawnProcess_error failed⟩
      · next inst middle started =>
          obtain ⟨first⟩ := spawnProcess_ok started
          split at spawned
          · next error last failed =>
              cases spawned
              obtain ⟨insts, stop, before, failed⟩ := ih failed
              have shift : index + (inst :: insts).length = index + 1 + insts.length := by
                rw [List.length_cons]
                omega
              refine ⟨inst :: insts, stop, .cons _ first before, ?_⟩
              rw [shift]
              exact failed
          · next insts last others =>
              cases spawned
              exact .cons _ first (ih others)

/-- A start that succeeds has an instance for each run option. -/
theorem length_spawnEach {runs : List RunOption} {index : Nat} {insts : List ChildInstance}
    (spawned : spawnEach env service ctx registryKey runs index host = (.ok insts, final)) :
    insts.length = runs.length := by
  induction runs generalizing index host insts with
  | nil =>
      cases spawned
      rfl
  | cons run rest ih =>
      rw [spawnEach] at spawned
      split at spawned
      · simp at spawned
      · split at spawned
        · simp at spawned
        · next others =>
            cases spawned
            rw [List.length_cons, List.length_cons, ih others]

theorem spawnAll_cases {result : Except CoreError (List ChildInstance)}
    (spawned : spawnAll env service ctx registryKey host = (result, final)) :
    match result with
    | .ok insts => SpawnedAll env service ctx registryKey 0 host insts final
    | .error _ => ∃ insts middle, SpawnedAll env service ctx registryKey 0 host insts middle ∧
        SpawnFailed (service.collected env.scopes registryKey) (env.answer insts.length)
          middle final := by
  rw [spawnAll] at spawned
  split at spawned
  · cases spawned
    exact .nil ..
  · have cases_ := spawnEach_cases spawned
    cases result with
    | ok insts => exact cases_
    | error error =>
        obtain ⟨insts, middle, before, failed⟩ := cases_
        rw [Nat.zero_add] at failed
        exact ⟨insts, middle, before, failed⟩

/-- What a start gives: nothing, the processes of all commands, or those that came before one
that failed. -/
theorem spawnAll_gives {result : Except CoreError (List ChildInstance)}
    (Gives : List (Option Nat) → Host → Prop)
    (spawned : spawnAll env service ctx registryKey host = (result, final))
    (nothing : Gives [] host)
    (all : isInactive env.facets registryKey = false → ∀ insts final,
      SpawnedAll env service ctx registryKey 0 host insts final →
      Gives (insts.map ChildInstance.pid) final)
    (part : isInactive env.facets registryKey = false → ∀ insts middle final,
      SpawnedAll env service ctx registryKey 0 host insts middle →
      SpawnFailed (service.collected env.scopes registryKey) (env.answer insts.length)
        middle final → Gives (insts.map ChildInstance.pid) final) :
    ∃ pids, Gives pids final ∧
      ∀ insts, result = .ok insts → insts.map ChildInstance.pid = pids := by
  cases inactive : isInactive env.facets registryKey with
  | true =>
      rw [spawnAll, if_pos inactive] at spawned
      cases spawned
      refine ⟨[], nothing, ?_⟩
      rintro insts ⟨⟩
      rfl
  | false =>
      have outcome := spawnAll_cases spawned
      cases result with
      | ok insts =>
          refine ⟨_, all inactive insts final outcome, ?_⟩
          rintro insts ⟨⟩
          rfl
      | error error =>
          obtain ⟨insts, middle, before, failed⟩ := outcome
          exact ⟨_, part inactive insts middle final before failed, nofun⟩

/-- A start whose first process fails leaves what that leaves. -/
theorem spawnAll_first {error : CoreError} {run : RunOption} {rest : List RunOption}
    (runs : service.metadata.run.asMany = run :: rest)
    (first : (spawnProcess env service ctx registryKey ((resolveRunOption env.heap run).getD run)
      (env.answer 0) host).1.isOk = false)
    (spawned : spawnAll env service ctx registryKey host = (.error error, final)) :
    ∃ error, spawnProcess env service ctx registryKey ((resolveRunOption env.heap run).getD run)
      (env.answer 0) host = (.error error, final) := by
  rw [spawnAll, runs] at spawned
  split at spawned
  · cases spawned
  · rw [spawnEach] at spawned
    generalize spawnProcess env service ctx registryKey _ (env.answer 0) host = result
      at first spawned ⊢
    obtain ⟨_ | inst, middle⟩ := result
    · cases spawned
      exact ⟨_, rfl⟩
    · cases first

omit [TomlText] in
/-- A process is created where it is answered so, with a process id that is free. -/
theorem spawnProcess_of_launch {number : Nat} {timer : Option Nat} {launch : Launch}
    (prepared : prepare env service ctx registryKey run = .ok launch)
    (native : launch.executor = .native) (created : answer = .created number none timer)
    (free : number ∉ host.kernel.children) :
    ∃ inst final, spawnProcess env service ctx registryKey run answer host = (.ok inst, final) ∧
      inst.state = .active ∧
      ∀ other ∈ final.kernel.children, other ∈ host.kernel.children ∨ other = number := by
  have grouped : setupCgroupForPid launch.isolation answer = none := by
    rw [created, setupCgroupForPid, ite_self]
  have spawned : ∃ kernel, launch.executor.spawn service.metadata launch.isolation
      ⟨run, launch.user, false⟩ answer host.kernel = (.ok ⟨number⟩, kernel) ∧
      ∀ other ∈ kernel.children, other ∈ host.kernel.children ∨ other = number := by
    simp only [created, native, Executor.spawn, if_neg free]
    split
    · exact ⟨_, rfl, fun _ => .inl⟩
    · refine ⟨_, rfl, fun other child => ?_⟩
      rw [← AList.lookup_isSome, Kernel.lookup_fork free] at child
      split at child
      · next same => exact .inr same
      · exact .inl (AList.lookup_isSome.mp child)
  obtain ⟨kernel, spawned, children⟩ := spawned
  let runtime :=
    registerProcess service.metadata registryKey (ctx.bind (·.key)) launch.user number answer
      host.runtime
  refine ⟨.new ((ctx.bind (·.key)).getD "") launch.user (some ⟨number⟩),
    { kernel, runtime }, ?_, rfl, children⟩
  simp only [spawnProcess, prepared, spawned, grouped]
  rfl

/-- The commands of a service are spawned where each gets a process id of its own. -/
theorem spawnEach_of_launches {pid : Nat → Nat}
    (created : ∀ index, ∃ timer, env.answer index = .created (pid index) none timer)
    (apart : Function.Injective pid) {runs : List RunOption}
    (launches : ∀ run ∈ runs, ∃ launch, prepare env service ctx registryKey
      ((resolveRunOption env.heap run).getD run) = .ok launch ∧ launch.executor = .native)
    {index : Nat} (free : ∀ later, index ≤ later → pid later ∉ host.kernel.children) :
    ∃ insts final, spawnEach env service ctx registryKey runs index host = (.ok insts, final) ∧
      (∀ inst ∈ insts, inst.state = .active) ∧
      ∀ other ∈ final.kernel.children, other ∈ host.kernel.children ∨
        ∃ index, other = pid index := by
  induction runs generalizing index host with
  | nil => exact ⟨[], host, rfl, by simp, fun _ => .inl⟩
  | cons run rest ih =>
      obtain ⟨launch, prepared, native⟩ := launches run List.mem_cons_self
      obtain ⟨timer, answered⟩ := created index
      obtain ⟨inst, middle, spawned, active, children⟩ :=
        spawnProcess_of_launch prepared native answered (free index (Nat.le_refl _))
      have free' : ∀ later, index + 1 ≤ later → pid later ∉ middle.kernel.children := by
        intro later le child
        rcases children _ child with child | same
        · exact free later (by omega) child
        · have := apart same
          omega
      obtain ⟨insts, final, others, actives, children'⟩ :=
        ih (fun other member => launches other (List.mem_cons_of_mem _ member)) free'
      refine ⟨inst :: insts, final, ?_, ?_, ?_⟩
      · simp only [spawnEach, spawned, others]
      · exact List.forall_mem_cons.mpr ⟨active, actives⟩
      · intro other child
        rcases children' other child with child | later
        · rcases children other child with child | same
          · exact .inl child
          · exact .inr ⟨index, same⟩
        · exact .inr later

end Spawning

/-! ## Requests -/

namespace StartRequest

/-- What a request passes on to the processes. -/
def context (request : StartRequest) : Option ServiceBranchContext :=
  match request.branchCtx, request.onlyUser with
  | some ctx, _ => some ctx
  | none, some user => some ⟨none, none, some user⟩
  | none, none => none

/-- Whether the service is not started because it runs already. -/
def held (request : StartRequest) (service : Service) : Bool :=
  match request.branchCtx, request.onlyUser with
  | some ctx, _ => ctx.key.any fun key =>
      service.instances.any fun inst => inst.key == key && inst.state.isRunning
  | none, some _ => false
  | none, none => service.holdsSingleton

/-- The instances after a successful start. -/
def settle (request : StartRequest) (insts : List ChildInstance) : List ChildInstance :=
  match request.branchCtx with
  | some _ => insts.map (·.mark .active)
  | none => markFirst .active insts

/-- The instances after a failed start. -/
def spoil (request : StartRequest) (state : ServiceState) (insts : List ChildInstance) :
    List ChildInstance :=
  match request.branchCtx with
  | some _ => insts.map fun inst => if inst.state = .active then inst else inst.mark state
  | none => markFirst state insts

variable {β : Type} {view : ChildInstance → β}

theorem map_markFirst (blind : ∀ inst state, view (inst.mark state) = view inst)
    (state : ServiceState) (insts : List ChildInstance) :
    (markFirst state insts).map view = insts.map view := by
  cases insts with
  | nil => rfl
  | cons first rest => rw [markFirst, List.map_cons, List.map_cons, blind]

/-- A successful start changes nothing but the states of the instances. -/
theorem map_settle (blind : ∀ inst state, view (inst.mark state) = view inst)
    (request : StartRequest) (insts : List ChildInstance) :
    (request.settle insts).map view = insts.map view := by
  rw [settle]
  split
  · rw [List.map_map]
    exact List.map_congr_left fun inst _ => blind inst .active
  · exact map_markFirst blind .active insts

/-- Neither does a failed one. -/
theorem map_spoil (blind : ∀ inst state, view (inst.mark state) = view inst)
    (request : StartRequest) (state : ServiceState) (insts : List ChildInstance) :
    (request.spoil state insts).map view = insts.map view := by
  rw [spoil]
  split
  · rw [List.map_map]
    apply List.map_congr_left
    intro inst _
    rw [Function.comp_apply]
    split
    · rfl
    · exact blind inst state
  · exact map_markFirst blind state insts

end StartRequest

section Starting

variable [SerdeJson] [TomlText] {env : ServiceEnv} {request : StartRequest}

/-- What a start makes of a service. -/
inductive StartOutcome (env : ServiceEnv) (request : StartRequest) (service : Service)
    (host : Host) : Service → Host → Prop where
  | held (held : request.held service) : StartOutcome env request service host service host
  | started (free : request.held service = false) (insts : List ChildInstance) (final : Host)
      (spawned : spawnAll env service request.context (ensureScopedName request.name) host =
        (.ok insts, final)) :
      StartOutcome env request service host
        { service with instances := request.settle (service.instances ++ insts) } final
  | failed (free : request.held service = false) (error : CoreError) (final : Host)
      (lastState : ServiceState)
      (spawned : spawnAll env service request.context (ensureScopedName request.name) host =
        (.error error, final)) :
      StartOutcome env request service host
        { service with
          lastState
          instances := request.spoil (startError (ensureScopedName request.name) error)
            service.instances } final

theorem startRequested_cases {service service' : Service} {host final : Host}
    (started : startRequested env request service host = (service', final)) :
    StartOutcome env request service host service' final := by
  obtain ⟨name, onlyUser, branchCtx, deferred⟩ := request
  cases branchCtx with
  | some ctx =>
      simp only [startRequested, startBranch] at started
      split at started
      · next running =>
          cases started
          exact .held running
      · next free =>
          split at started
          · next insts middle spawned =>
              cases started
              exact .started (by exact Bool.eq_false_iff.mpr free) insts _ spawned
          · next error middle spawned =>
              cases started
              exact .failed (by exact Bool.eq_false_iff.mpr free) error _ _ spawned
  | none =>
      cases onlyUser with
      | some user =>
          simp only [startRequested, startForUser] at started
          split at started
          · next insts middle spawned =>
              cases started
              exact .started rfl insts _ spawned
          · next error middle spawned =>
              cases started
              exact .failed rfl error _ _ spawned
      | none =>
          simp only [startRequested, startService] at started
          split at started
          · next running =>
              cases started
              exact .held running
          · next free =>
              split at started
              · next insts middle spawned =>
                  cases started
                  exact .started (by exact Bool.eq_false_iff.mpr free) insts _ spawned
              · next error middle spawned =>
                  cases started
                  exact .failed (by exact Bool.eq_false_iff.mpr free) error _ _ spawned

/-- What a start makes of the services: nothing without a definition, otherwise
the service of its key is stored as it is or started. -/
inductive StartStep (env : ServiceEnv) (request : StartRequest) (services : Services) :
    Services → Prop where
  | missing
      (absent : env.metadata.instantiateOne Service.new "*" request.name services.instances =
        none) :
      StartStep env request services services
  | postponed (key : Ustr) (service : Service)
      (found : env.metadata.instantiateOne Service.new "*" request.name services.instances =
        some (key, service))
      (later : request.deferred = false ∧ service.metadata.registersTransport) :
      StartStep env request services (services.store key service)
  | tried (key : Ustr) (service service' : Service) (final : Host)
      (found : env.metadata.instantiateOne Service.new "*" request.name services.instances =
        some (key, service))
      (now : request.deferred ∨ service.metadata.registersTransport = false)
      (outcome : StartOutcome env request service services.host service' final) :
      StartStep env request services
        { instances := services.instances.insert key service', host := final }

theorem start_cases (services : Services) :
    StartStep env request services (start env request services).2 := by
  rw [start]
  split
  · next absent => exact .missing absent
  · next key service found =>
      split
      · next later =>
          apply StartStep.postponed key service found
          simpa using later
      · next now =>
          apply StartStep.tried key service _ _ found
          · simpa [or_iff_not_imp_left] using now
          · exact startRequested_cases rfl

/-- A start changes its own service alone. -/
theorem lookup_start (request : StartRequest) (services : Services) {key : Ustr}
    (other : key ≠ env.metadata.instanceKey "*" request.name) :
    (start env request services).2.instances.lookup key = services.instances.lookup key := by
  have step : StartStep env request services (start env request services).2 :=
    start_cases services
  generalize (start env request services).2 = after at step ⊢
  cases step with
  | missing absent => rfl
  | postponed own service found later =>
      obtain ⟨rfl, -⟩ := MetadataRegistry.instantiateOne_cases found
      exact AList.lookup_insert_ne other
  | tried own service service' final found now outcome =>
      obtain ⟨rfl, -⟩ := MetadataRegistry.instantiateOne_cases found
      exact AList.lookup_insert_ne other

end Starting

end Rind
