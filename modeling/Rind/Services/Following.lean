import Rind.Services.Considering
import Rind.Services.Launches

/-!
# Instances that follow branches

A branching service follows its source facet if it runs for exactly the branches
that are there and admitted, as far as its maximum allows.  It does so in every run
of additions, merges and removals in which each key that goes is told to stop, and
in which whatever is to be started can be started while nothing is stopping.
-/

namespace Rind

open Prog Runs

/-! ## Starting branches -/

/-- The start of a branch. -/
def branchStart (entry : Ustr × Option ServiceBranchContext) : StartRequest where
  name := entry.1
  onlyUser := none
  branchCtx := entry.2
  deferred := false

/-- The key of a process is the one of its branch. -/
theorem Spawned.key_eq {service : Service} {ctx : Option ServiceBranchContext}
    {registryKey : Ustr} {run : RunOption} {answer : SpawnAnswer} {host final : Host}
    {inst : ChildInstance}
    (spawned : Spawned env service ctx registryKey run answer host inst final) :
    inst.key = (ctx.bind (·.key)).getD "" := by
  rw [spawned.inst_eq]
  rfl

theorem SpawnedAll.key_eq {service : Service} {ctx : Option ServiceBranchContext}
    {registryKey : Ustr} {index : Nat} {host final : Host} {insts : List ChildInstance}
    (spawned : SpawnedAll env service ctx registryKey index host insts final) :
    ∀ inst ∈ insts, inst.key = (ctx.bind (·.key)).getD "" := by
  induction spawned with
  | nil index host => simp
  | cons run first others ih => exact List.forall_mem_cons.mpr ⟨first.key_eq, ih⟩

/-- All instances of a service are running. -/
def Service.AllRunning (service : Service) : Prop :=
  ∀ inst ∈ service.instances, inst.state.isRunning

theorem runningKeys_of_allRunning {service : Service} (running : service.AllRunning) :
    service.runningKeys = (service.instances.map ChildInstance.key).toFinset := by
  rw [Service.runningKeys, List.filter_eq_self.mpr running]

/-- A running instance goes on as another one. -/
structure ChildInstance.GoesOn (inst later : ChildInstance) : Prop where
  handle : later.handle = inst.handle
  key : later.key = inst.key
  told : later.manuallyStopped = inst.manuallyStopped
  running : later.state.isRunning

/-- All running instances go on, but those of a key. -/
def Service.GoesOn (but : Option Ustr) (service later : Service) : Prop :=
  ∀ inst ∈ service.instances, inst.state.isRunning → but ≠ some inst.key →
    ∃ inst' ∈ later.instances, inst.GoesOn inst'

theorem Service.GoesOn.refl (but : Option Ustr) (service : Service) :
    service.GoesOn but service :=
  fun inst member running _ => ⟨inst, member, rfl, rfl, rfl, running⟩

theorem Service.GoesOn.trans {but : Option Ustr} {service middle later : Service}
    (first : service.GoesOn but middle) (second : middle.GoesOn but later) :
    service.GoesOn but later := by
  intro inst member running other
  obtain ⟨between, member', on⟩ := first inst member running other
  obtain ⟨last, member'', on'⟩ := second between member' on.running (on.key.symm ▸ other)
  exact ⟨last, member'', on'.handle.trans on.handle, on'.key.trans on.key,
    on'.told.trans on.told, on'.running⟩

theorem Service.GoesOn.mono {but : Option Ustr} {service later : Service}
    (on : service.GoesOn none later) : service.GoesOn but later :=
  fun inst member running _ => on inst member running nofun

section Starting

variable [SerdeJson] [TomlText]

/-- Whether a start has nothing to do, or creates its processes. -/
def startSucceeds (env : ServiceEnv) (request : StartRequest) (services : Services) : Bool :=
  match env.metadata.instantiateOne Service.new "*" request.name services.instances with
  | none => false
  | some (_, service) =>
      request.held service ||
        match spawnAll env service request.context (ensureScopedName request.name)
          services.host with
        | (.ok (_ :: _), _) => true
        | _ => false

variable {env : ServiceEnv} {name : Ustr} {metadata : ServiceMetadata} {services : Services}

omit [SerdeJson] [TomlText] in
theorem LeadsBack.instantiateOne_full {definitions : MetadataRegistry ServiceMetadata}
    (led : LeadsBack definitions name metadata) (services : Services) :
    definitions.instantiateOne Service.new "*" name services.instances =
      some (name, services.serviceOf name metadata) := by
  rw [MetadataRegistry.instantiateOne, MetadataRegistry.instanceKey_of_scoped led.full,
    led.direct, Services.serviceOf]
  cases services.instances.lookup name <;> rfl

/-- The start of a branch of a service without a transport is carried out at once. -/
theorem start_branch {ctx : Option ServiceBranchContext} (led : LeadsBack env.metadata name metadata)
    (defines : services.Defines name metadata) (plain : metadata.registersTransport = false) :
    start env (branchStart (name, ctx)) services = (.ok (), {
      instances := services.instances.insert name (startRequested env (branchStart (name, ctx))
        (services.serviceOf name metadata) services.host).1
      host := (startRequested env (branchStart (name, ctx))
        (services.serviceOf name metadata) services.host).2 }) := by
  have found : env.metadata.instantiateOne Service.new "*" (branchStart (name, ctx)).name
      services.instances = some (name, services.serviceOf name metadata) :=
    led.instantiateOne_full services
  rw [start, found]
  simp [defines.serviceOf, plain]

/-- What the start of a branch makes of a service. -/
structure BranchStarted (key : Ustr) (service : Service) (host : Host) (after : Service)
    (final : Host) : Prop where
  metadata : after.metadata = service.metadata
  all : after.AllRunning
  keys : after.runningKeys = insert key service.runningKeys
  goesOn : service.GoesOn none after
  signals : host.kernel.signals <+: final.kernel.signals

/-- A successful start of a branch adds its key. -/
theorem start_own {ctx : ServiceBranchContext} {key : Ustr}
    (led : LeadsBack env.metadata name metadata) (defines : services.Defines name metadata)
    (plain : metadata.registersTransport = false)
    (running : (services.serviceOf name metadata).AllRunning) (own : ctx.key = some key)
    (succeeds : startSucceeds env (branchStart (name, some ctx)) services) :
    ∃ service host, start env (branchStart (name, some ctx)) services =
        (.ok (), { instances := services.instances.insert name service, host }) ∧
      BranchStarted key (services.serviceOf name metadata) services.host service host := by
  have found : env.metadata.instantiateOne Service.new "*" (branchStart (name, some ctx)).name
      services.instances = some (name, services.serviceOf name metadata) :=
    led.instantiateOne_full services
  have ran : start env (branchStart (name, some ctx)) services = _ := start_branch led defines plain
  generalize services.serviceOf name metadata = service at found ran running ⊢
  rw [startSucceeds, found] at succeeds
  generalize started : startRequested env (branchStart (name, some ctx)) service services.host =
    result at ran
  obtain ⟨after, host⟩ := result
  refine ⟨after, host, ran, ?_⟩
  cases startRequested_cases started with
  | held held =>
      refine ⟨rfl, running, ?_, .refl none service, List.prefix_rfl⟩
      have runs : ctx.key.any service.runsBranch := held
      rw [own, Option.any_some, Service.runsBranch_iff] at runs
      exact (Finset.insert_eq_of_mem runs).symm
  | failed free error host lastState spawned =>
      simp [free, spawned] at succeeds
  | started free insts host spawned =>
      have made : insts ≠ [] := by
        rintro rfl
        simp [free, spawned] at succeeds
      have keys : ∀ inst ∈ insts, inst.key = key := by
        intro inst member
        rw [(spawnAll_cases spawned).key_eq inst member]
        exact congrArg (·.getD "") own
      have all : Service.AllRunning { service with
          instances := (branchStart (name, some ctx)).settle (service.instances ++ insts) } := by
        intro inst member
        obtain ⟨before, -, rfl⟩ := List.mem_map.mp member
        rfl
      refine ⟨rfl, all, ?_, ?_, (Host.Extends.of_spawnAll spawned).signals⟩
      · rw [runningKeys_of_allRunning all, runningKeys_of_allRunning running,
          StartRequest.map_settle (fun _ _ => rfl), List.map_append, List.toFinset_append]
        have added : (insts.map ChildInstance.key).toFinset = {key} := by
          ext other
          rw [List.mem_toFinset, List.mem_map, Finset.mem_singleton]
          constructor
          · rintro ⟨inst, member, rfl⟩
            exact keys inst member
          · rintro rfl
            obtain ⟨first, member⟩ := List.exists_mem_of_ne_nil insts made
            exact ⟨first, member, keys first member⟩
        rw [added, Finset.union_comm, Finset.singleton_union]
      · intro inst member _ _
        exact ⟨inst.mark .active, List.mem_map_of_mem (List.mem_append_left _ member), rfl, rfl,
          rfl, rfl⟩

/-- Every start is answered with processes of its own. -/
structure Plenty (answer : Nat → Nat → SpawnAnswer) (pid : Nat → Nat → Nat) : Prop where
  created : ∀ start index, ∃ timer, answer start index = .created (pid start index) none timer
  apart : ∀ start index start' index', pid start index = pid start' index' →
    start = start' ∧ index = index'

/-- All commands of a service can be prepared for a branch, whatever instances there
are. -/
def BranchLaunches (env : ServiceEnv) (name : Ustr) (metadata : ServiceMetadata)
    (ctx : ServiceBranchContext) : Prop :=
  ∀ service : Service, service.metadata = metadata → ∀ run ∈ metadata.run.asMany,
    ∃ launch, prepare env service (some ctx) name ((resolveRunOption env.heap run).getD run) =
      .ok launch ∧ launch.executor = .native

/-- The start of a branch succeeds if its commands can be prepared, and its processes
created. -/
theorem startSucceeds_of_launches {answer : Nat → Nat → SpawnAnswer} {pid : Nat → Nat → Nat}
    {number : Nat} {ctx : ServiceBranchContext} (led : LeadsBack env.metadata name metadata)
    (defines : services.Defines name metadata) (commands : metadata.run.asMany ≠ [])
    (active : isInactive env.facets name = false) (launches : BranchLaunches env name metadata ctx)
    (plenty : Plenty answer pid) (free : FreeFrom pid number services.host) :
    startSucceeds { env with answer := answer number } (branchStart (name, some ctx)) services := by
  have found : env.metadata.instantiateOne Service.new "*" (branchStart (name, some ctx)).name
      services.instances = some (name, services.serviceOf name metadata) :=
    led.instantiateOne_full services
  have same : (services.serviceOf name metadata).metadata = metadata := defines.serviceOf
  generalize services.serviceOf name metadata = service at found same
  let env' := { env with answer := answer number }
  have created : ∀ index, ∃ timer, env'.answer index =
      .created (pid number index) none timer := plenty.created number
  have prepared : ∀ run ∈ service.metadata.run.asMany, ∃ launch, prepare env' service (some ctx)
      name ((resolveRunOption env'.heap run).getD run) = .ok launch ∧ launch.executor = .native :=
    fun run member => launches service same run (same ▸ member)
  obtain ⟨insts, host, spawned, -⟩ :=
    spawnEach_of_launches created (fun _ _ same => (plenty.apart _ _ _ _ same).2) prepared
      fun later (_ : 0 ≤ later) => free number (Nat.le_refl _) later
  have all : spawnAll env' service (some ctx) name services.host = (.ok insts, host) := by
    rw [spawnAll, if_neg (by simp [env', active]), spawned]
  have some_ : insts ≠ [] := by
    rintro rfl
    have length := length_spawnEach spawned
    rw [same] at length
    exact commands (List.length_eq_zero_iff.mp length.symm)
  obtain ⟨first, rest, rfl⟩ := List.exists_cons_of_ne_nil some_
  have context : (branchStart (name, some ctx)).context = some ctx := rfl
  have own : ensureScopedName (branchStart (name, some ctx)).name = name :=
    ensureScopedName_of_full led.full
  rw [startSucceeds, found, context, own]
  dsimp only
  rw [all, Bool.or_true]

/-- The start of a service whose name leads to it ends without an error. -/
theorem start_ok (led : LeadsBack env.metadata name metadata)
    (ctx : Option ServiceBranchContext) (services : Services) :
    (start env (branchStart (name, ctx)) services).1 = .ok () := by
  have own : env.metadata.instanceKey "*" (branchStart (name, ctx)).name = name :=
    MetadataRegistry.instanceKey_of_scoped led.full
  rw [start, MetadataRegistry.instantiateOne, own]
  cases services.instances.lookup name with
  | some service => dsimp only; split <;> rfl
  | none =>
      rw [branchStart, led.direct]
      dsimp only [Option.map_some]
      split <;> rfl

/-- The start of another service. -/
theorem start_other {other : Ustr} {ctx : Option ServiceBranchContext} {metadata' : ServiceMetadata}
    (led : LeadsBack env.metadata other metadata') (apart : name ≠ other) :
    ∃ after, start env (branchStart (other, ctx)) services = (.ok (), after) ∧
      after.instances.lookup name = services.instances.lookup name ∧
      services.host.kernel.signals <+: after.host.kernel.signals := by
  have own : env.metadata.instanceKey "*" (branchStart (other, ctx)).name = other :=
    MetadataRegistry.instanceKey_of_scoped led.full
  exact ⟨_, Prod.ext (start_ok led ctx services) rfl,
    lookup_start _ services (own.symm ▸ apart), (Host.Extends.of_start _ services).signals⟩

/-- One of the starts that an event leads to. -/
def startNoted (env : ServiceEnv) (answer : Nat → Nat → SpawnAnswer)
    (entry : (Ustr × Option ServiceBranchContext) × Nat) : Prog Services CoreError Unit :=
  fun services => some (start { env with answer := answer entry.2 } (branchStart entry.1) services)

/-- Starts of services whose names lead to them end without an error. -/
theorem starts_end {answer : Nat → Nat → SpawnAnswer}
    {starts : List (Ustr × Option ServiceBranchContext)}
    (leads : ∀ entry ∈ starts, ∃ metadata, LeadsBack env.metadata entry.1 metadata) (number : Nat)
    (services : Services) :
    ∃ final, Prog.each (starts.zipIdx number) (startNoted env answer) services =
      some (.ok (), final) := by
  induction starts generalizing number services with
  | nil => exact ⟨services, rfl⟩
  | cons entry rest ih =>
      obtain ⟨metadata, led⟩ := leads entry List.mem_cons_self
      obtain ⟨own, ctx⟩ := entry
      have first : (start { env with answer := answer number } (branchStart (own, ctx))
          services).1 = .ok () := by
        apply start_ok
        exact led
      have ran : startNoted env answer ((own, ctx), number) services = some (.ok (), _) :=
        congrArg some (Prod.ext first rfl)
      rw [List.zipIdx_cons, each_cons, run_bind_of_ok ran]
      exact ih (fun other inside => leads other (List.mem_cons_of_mem _ inside)) _ _

/-- The keys that a list of starts is for. -/
def startKeys (name : Ustr) (starts : List (Ustr × Option ServiceBranchContext)) :
    List Ustr :=
  (starts.filter (·.1 = name)).map fun entry => (entry.2.bind (·.key)).getD ""

omit [SerdeJson] [TomlText] in
theorem startKeys_own {ctx : ServiceBranchContext} {key : Ustr}
    {rest : List (Ustr × Option ServiceBranchContext)} (own : ctx.key = some key) :
    startKeys name ((name, some ctx) :: rest) = key :: startKeys name rest := by
  simp [startKeys, own]

omit [SerdeJson] [TomlText] in
theorem startKeys_other {entry : Ustr × Option ServiceBranchContext}
    {rest : List (Ustr × Option ServiceBranchContext)} (apart : entry.1 ≠ name) :
    startKeys name (entry :: rest) = startKeys name rest := by
  simp [startKeys, apart]

/-- What the starts of an event make of the service. -/
structure Started (name : Ustr) (metadata : ServiceMetadata)
    (starts : List (Ustr × Option ServiceBranchContext)) (services final : Services) :
    Prop where
  defines : final.Defines name metadata
  signals : services.host.kernel.signals <+: final.host.kernel.signals
  idle : startKeys name starts = [] →
    final.serviceOf name metadata = services.serviceOf name metadata
  keys : (final.serviceOf name metadata).runningKeys =
    (services.serviceOf name metadata).runningKeys ∪ (startKeys name starts).toFinset
  goesOn : (services.serviceOf name metadata).GoesOn none (final.serviceOf name metadata)

/-- Later process ids stay free. -/
theorem freeFrom_start {answer : Nat → Nat → SpawnAnswer} {pid : Nat → Nat → Nat} {number : Nat}
    (plenty : Plenty answer pid) (free : FreeFrom pid number services.host)
    {request : StartRequest} {result : Except CoreError Unit} {after : Services}
    (ran : start { env with answer := answer number } request services = (result, after)) :
    FreeFrom pid (number + 1) after.host := by
  have final : (start { env with answer := answer number } request services).2 = after :=
    congrArg Prod.snd ran
  intro later le index child
  rw [← final] at child
  have whole : ∀ index pid error, answer number index ≠ .abandoned pid error := by
    intro index pid error abandoned
    obtain ⟨timer, created⟩ := plenty.created number index
    cases created.symm.trans abandoned
  have created : pid later index ∈ services.host.kernel.children ∨
      ServiceEnv.Creates { env with answer := answer number } (pid later index) :=
    children_start request services whole _ child
  rcases created with old | ⟨index', error, timer, created⟩
  · exact free later (by omega) index old
  · obtain ⟨timer', created'⟩ := plenty.created number index'
    have same := created'.symm.trans created
    injection same with same
    have := (plenty.apart _ _ _ _ same).1
    omega

/-- What it takes to start branches of a service. -/
structure AbleToStart (env : ServiceEnv) (answer : Nat → Nat → SpawnAnswer)
    (pid : Nat → Nat → Nat) (number : Nat) (name : Ustr) (metadata : ServiceMetadata)
    (services : Services) : Prop where
  running : (services.serviceOf name metadata).AllRunning
  plain : metadata.registersTransport = false
  commands : metadata.run.asMany ≠ []
  active : isInactive env.facets name = false
  plenty : Plenty answer pid
  free : FreeFrom pid number services.host

/-- A list of starts as one of the services sees it.  `Able` is what it takes to start its
branches, and every start keeps that; `Becomes` is what the starts make of it. -/
theorem starts_induction {answer : Nat → Nat → SpawnAnswer} (Able : Nat → Services → Prop)
    (Becomes : List (Ustr × Option ServiceBranchContext) → Services → Services → Prop)
    {starts : List (Ustr × Option ServiceBranchContext)} {number : Nat}
    (leads : ∀ entry ∈ starts, ∃ metadata, LeadsBack env.metadata entry.1 metadata)
    (defines : services.Defines name metadata)
    (keyed : ∀ entry ∈ starts, entry.1 = name → ∃ ctx key, entry.2 = some ctx ∧
      ctx.key = some key ∧ BranchLaunches env name metadata ctx)
    (able : startKeys name starts ≠ [] → Able number services)
    (stays : ∀ number request services after,
      start { env with answer := answer number } request services = (.ok (), after) →
      after.serviceOf name metadata = services.serviceOf name metadata →
      Able number services → Able (number + 1) after)
    (done : ∀ services, services.Defines name metadata → Becomes [] services services)
    (own : ∀ number services ctx key, services.Defines name metadata → Able number services →
      BranchLaunches env name metadata ctx → ctx.key = some key →
      ∃ after, start { env with answer := answer number } (branchStart (name, some ctx))
          services = (.ok (), after) ∧ after.Defines name metadata ∧ Able (number + 1) after ∧
        ∀ rest final, Becomes rest after final → Becomes ((name, some ctx) :: rest) services final)
    (other : ∀ entry services after, entry.1 ≠ name →
      after.serviceOf name metadata = services.serviceOf name metadata →
      services.host.kernel.signals <+: after.host.kernel.signals →
      ∀ rest final, Becomes rest after final → Becomes (entry :: rest) services final) :
    ∃ final, Prog.each (starts.zipIdx number) (startNoted env answer) services =
        some (.ok (), final) ∧ Becomes starts services final := by
  induction starts generalizing services number with
  | nil => exact ⟨services, rfl, done services defines⟩
  | cons entry rest ih =>
      obtain ⟨metadata', led'⟩ := leads entry List.mem_cons_self
      have leads' := fun other inside => leads other (List.mem_cons_of_mem _ inside)
      have keyed' := fun other inside => keyed other (List.mem_cons_of_mem _ inside)
      obtain ⟨target, ctx⟩ := entry
      rw [List.zipIdx_cons, each_cons]
      by_cases same : target = name
      · subst same
        obtain ⟨ctx', key, rfl, own_key, launches⟩ := keyed _ List.mem_cons_self rfl
        have now := able (by simp [startKeys_own own_key])
        obtain ⟨after, ran, defines', able', becomes⟩ :=
          own number services ctx' key defines now launches own_key
        have once : startNoted env answer ((target, some ctx'), number) services =
            some (.ok (), after) := congrArg some ran
        obtain ⟨final, ran', others⟩ := ih leads' defines' keyed' fun _ => able'
        exact ⟨final, (run_bind_of_ok once).trans ran', becomes rest final others⟩
      · obtain ⟨after, ran, lookup, signals⟩ :
            ∃ after, start { env with answer := answer number } (branchStart (target, ctx))
              services = (.ok (), after) ∧ _ :=
          start_other led' (Ne.symm same)
        have once : startNoted env answer ((target, ctx), number) services =
            some (.ok (), after) := congrArg some ran
        have current : after.serviceOf name metadata = services.serviceOf name metadata := by
          rw [Services.serviceOf, lookup, Services.serviceOf]
        have able' (some_ : startKeys name rest ≠ []) : Able (number + 1) after :=
          stays number _ services after ran current (able (by rwa [startKeys_other same]))
        obtain ⟨final, ran', others⟩ :=
          ih leads' (fun service found => defines service (lookup ▸ found)) keyed' able'
        exact ⟨final, (run_bind_of_ok once).trans ran',
          other _ services after same current signals rest final others⟩

theorem starts_run {answer : Nat → Nat → SpawnAnswer} {pid : Nat → Nat → Nat}
    {starts : List (Ustr × Option ServiceBranchContext)} {number : Nat}
    (leads : ∀ entry ∈ starts, ∃ metadata, LeadsBack env.metadata entry.1 metadata)
    (led : LeadsBack env.metadata name metadata) (defines : services.Defines name metadata)
    (keyed : ∀ entry ∈ starts, entry.1 = name → ∃ ctx key, entry.2 = some ctx ∧
      ctx.key = some key ∧ BranchLaunches env name metadata ctx)
    (able : startKeys name starts ≠ [] → AbleToStart env answer pid number name metadata services) :
    ∃ final, Prog.each (starts.zipIdx number) (startNoted env answer) services =
        some (.ok (), final) ∧ Started name metadata starts services final := by
  refine starts_induction (AbleToStart env answer pid · name metadata ·) (Started name metadata)
    leads defines keyed able ?_ ?_ ?_ ?_
  · intro number request services after ran current now
    exact { now with
      running := current.symm ▸ now.running
      free := freeFrom_start now.plenty now.free ran }
  · intro services defines
    exact ⟨defines, List.prefix_rfl, fun _ => rfl, by simp [startKeys], .refl none _⟩
  · intro number services ctx key defines now launches own_key
    obtain ⟨service, host, ran, branch⟩ :
        ∃ service host, start { env with answer := answer number }
          (branchStart (name, some ctx)) services = (.ok (), {
            instances := services.instances.insert name service, host }) ∧ _ :=
      start_own led defines now.plain now.running own_key (startSucceeds_of_launches led
        defines now.commands now.active launches now.plenty now.free)
    have current : Services.serviceOf
        { instances := services.instances.insert name service, host } name metadata = service :=
      Services.serviceOf_insert
    refine ⟨_, ran, Services.defines_insert (branch.metadata.trans defines.serviceOf),
      { now with
        running := current.symm ▸ branch.all
        free := freeFrom_start now.plenty now.free ran },
      fun rest final started => ?_⟩
    have keys : startKeys name ((name, some ctx) :: rest) = key :: startKeys name rest :=
      startKeys_own own_key
    refine ⟨started.defines, branch.signals.trans started.signals, ?_, ?_, ?_⟩
    · rw [keys]
      exact fun none_ => absurd none_ (by simp)
    · rw [started.keys, current, branch.keys, keys, List.toFinset_cons, Finset.insert_union,
        Finset.union_insert]
    · exact branch.goesOn.trans (current ▸ started.goesOn)
  · intro entry services after apart current signals rest final started
    have keys : startKeys name (entry :: rest) = startKeys name rest := startKeys_other apart
    refine ⟨started.defines, signals.trans started.signals, ?_, ?_, ?_⟩
    · rw [keys, ← current]
      exact started.idle
    · rw [started.keys, current, keys]
    · exact current ▸ started.goesOn

end Starting

/-! ## Evaluating an event -/

/-- No branch waits that there is room for. -/
def BranchingConfig.Filled (branching : BranchingConfig) (wanted running : Finset Ustr) : Prop :=
  wanted ⊆ running ∨ ∃ max, branching.maxInstances = some max ∧ max ≤ running.card

section Evaluating

variable [SerdeJson] {env : ServiceEnv} {trigger : EmitTrigger} {name : Ustr}
  {metadata : ServiceMetadata} {branching : BranchingConfig} {services : Services}

/-- The keys that run after what an event stops. -/
def EmitTrigger.spared (trigger : EmitTrigger) (branching : BranchingConfig) (service : Service) :
    Finset Ustr :=
  service.runningKeys.filter fun key => trigger.revertedKey branching ≠ some key

theorem StopOutcome.spared {service after : Service} {host final : Host}
    (outcome : StopOutcome branching trigger service host (after, final)) :
    after.runningKeys = trigger.spared branching service := by
  cases outcome with
  | kept idle =>
      rw [EmitTrigger.spared, Finset.filter_true_of_mem]
      intro key running reverted
      exact idle key reverted running
  | stopped key reverted running after final stops =>
      ext other
      rw [EmitTrigger.spared, Finset.mem_filter, Service.mem_runningKeys, Service.mem_runningKeys,
        stops.instances, reverted, ne_eq, Option.some_inj]
      constructor
      · rintro ⟨_, member, state, rfl⟩
        obtain ⟨inst, inside, rfl⟩ := List.mem_map.mp member
        by_cases about : inst.concerns (some key) none
        · rw [ChildInstance.stopped, if_pos about] at state
          split at state <;> cases state
        · rw [ChildInstance.stopped, if_neg about] at state ⊢
          exact ⟨⟨inst, inside, state, rfl⟩,
            fun same => about (ChildInstance.concerns_key.mpr same.symm)⟩
      · rintro ⟨⟨inst, inside, state, rfl⟩, apart⟩
        have about : ¬ inst.concerns (some key) none :=
          fun about => apart (ChildInstance.concerns_key.mp about).symm
        exact ⟨inst, List.mem_map.mpr ⟨inst, inside, if_neg about⟩, state, rfl⟩

theorem StopOutcome.goesOn {service after : Service} {host final : Host}
    (outcome : StopOutcome branching trigger service host (after, final)) :
    service.GoesOn (trigger.revertedKey branching) after := by
  cases outcome with
  | kept idle => exact Service.GoesOn.refl _ service
  | stopped key reverted running after final stops =>
      intro inst member state other
      have about : ¬ inst.concerns (some key) none := fun about =>
        other (reverted.trans (congrArg some (ChildInstance.concerns_key.mp about).symm))
      refine ⟨inst, ?_, rfl, rfl, rfl, state⟩
      rw [stops.instances]
      exact List.mem_map.mpr ⟨inst, member, if_neg about⟩

/-- The processes of the stopped branch are signalled. -/
theorem StopOutcome.told {service after : Service} {host final : Host}
    (outcome : StopOutcome branching trigger service host (after, final)) {key : Ustr}
    (reverted : trigger.revertedKey branching = some key) {inst : ChildInstance}
    (member : inst ∈ service.instances) (running : inst.state.isRunning) (same : inst.key = key)
    {pid : Nat} (held : inst.pid = some pid) :
    ∃ sent ∈ final.kernel.signals.drop host.kernel.signals.length,
      sent.pid = pid ∧ sent.signal = .sigterm := by
  cases outcome with
  | kept idle =>
      exact absurd (Service.mem_runningKeys.mpr ⟨inst, member, running, same⟩) (idle key reverted)
  | stopped key' reverted' _ after final stops =>
      obtain rfl := Option.some.inj (reverted.symm.trans reverted')
      obtain ⟨new, signals, told⟩ := stops.signals
      rw [signals, List.drop_left]
      exact told inst member same pid held

/-- Considering services at most signals processes. -/
theorem considerServices_signalled {targets : List Ustr} :
    Within (fun _ => True)
      (fun state next : TriggerState => state.services.host.Signalled next.services.host)
      (considerServices env trigger targets) := by
  have rule : Rule (Within (ε := CoreError) (fun _ => True)
      fun state next : TriggerState => state.services.host.Signalled next.services.host) :=
    Within.rule (fun _ => .refl _) fun _ _ _ => .trans
  refine rule.each fun name _ => ?_
  rw [considerService]
  split
  · exact rule.pure
  · split
    · exact rule.pure
    · refine rule.read fun _ => rule.bind ?_ ?_
      · intro state _ result final ran
        cases ran
        refine ⟨trivial, ?_⟩
        rw [TriggerState.stop]
        split
        · exact .refl _
        · exact signalled_stopTriggered ..
      · split
        · exact rule.pure
        · refine rule.read fun _ => ?_
          split
          · exact rule.pure
          · intro state _ result final ran
            refine ⟨trivial, ?_⟩
            rw [startTriggered] at ran
            dsimp only at ran
            split at ran <;> cases ran <;> exact .refl _

variable [TomlText] {answer : Nat → Nat → SpawnAnswer}

/-- The keys of the branches that are there and admitted. -/
def ServiceEnv.wanted (env : ServiceEnv) (branching : BranchingConfig) : Finset Ustr :=
  (wantedKeys env.facets env.heap branching).toFinset

/-- The wanted keys that no instance is running for. -/
def waitingKeys (env : ServiceEnv) (branching : BranchingConfig) (service : Service) :
    List Ustr :=
  (wantedKeys env.facets env.heap branching).filter (· ∉ service.runningKeys)

/-- What it takes to start the branches that wait: the event stops no instance and all
are running, the conditions of a start are met, the processes can be created, and the
maximum lets in as many branches as there is room for. -/
structure CanStart (env : ServiceEnv) (answer : Nat → Nat → SpawnAnswer) (trigger : EmitTrigger)
    (name : Ustr) (metadata : ServiceMetadata) (branching : BranchingConfig)
    (services : Services) : Prop where
  quiet : ∀ key ∈ (services.serviceOf name metadata).runningKeys,
    trigger.revertedKey branching ≠ some key
  met : metadata.shouldStart env.facets trigger.event
  afters : AftersStay env trigger metadata services
  able : ∃ pid, AbleToStart env answer pid 0 name metadata services
  launches : ∀ branch ∈ env.facets.instances branching.source, ∀ key,
    branchKeyFromPayload branch.payload branching.key = some key →
      BranchLaunches env name metadata ⟨some key, some branch.payload, none⟩
  room : ∀ max, branching.maxInstances = some max →
    (services.serviceOf name metadata).instances.length < max ∧
      let running := (services.serviceOf name metadata).runningKeys
      let waiting := waitingKeys env branching (services.serviceOf name metadata)
      (running ∪ (waiting.take max).toFinset).card = min max (running ∪ waiting.toFinset).card

/-- What the evaluation of an event makes of a branching service. -/
structure Evaluated (env : ServiceEnv) (trigger : EmitTrigger) (name : Ustr)
    (metadata : ServiceMetadata) (branching : BranchingConfig) (services final : Services) :
    Prop where
  defines : final.Defines name metadata
  only : (final.serviceOf name metadata).runningKeys ⊆
    trigger.spared branching (services.serviceOf name metadata) ∪ env.wanted branching
  filled : branching.Filled (env.wanted branching) (final.serviceOf name metadata).runningKeys
  bounded : ∀ max, branching.maxInstances = some max →
    (services.serviceOf name metadata).runningKeys.card ≤ max →
      (final.serviceOf name metadata).runningKeys.card ≤ max
  goesOn : (services.serviceOf name metadata).GoesOn (trigger.revertedKey branching)
    (final.serviceOf name metadata)
  told : ∀ key, trigger.revertedKey branching = some key →
    ∀ inst ∈ (services.serviceOf name metadata).instances, inst.state.isRunning → inst.key = key →
      ∀ pid, inst.pid = some pid →
        ∃ sent ∈ final.host.kernel.signals.drop services.host.kernel.signals.length,
          sent.pid = pid ∧ sent.signal = .sigterm

section Considered

omit [TomlText]

omit [SerdeJson] in
/-- The branches to consider are those of the graph, if the event is no impulse of the
name of the source. -/
theorem branchesToConsider_eq {facets : Facets} {event : Option FlowInstance}
    (plain : ∀ change, event = some change → change.type = .impulse →
      change.name ≠ branching.source) :
    branchesToConsider facets branching event = facets.instances branching.source := by
  rw [branchesToConsider]
  cases event with
  | none => exact List.append_nil _
  | some change =>
      have apart : (change.type == .impulse && change.name == branching.source) = false := by
        rw [Bool.eq_false_iff, ne_eq, Bool.and_eq_true, beq_iff_eq, beq_iff_eq]
        exact fun both => plain change rfl both.1 both.2
      rw [Option.filter_some, apart]
      exact List.append_nil _

theorem keys_waiting (service : Service) :
    (branchCandidates env branching service (env.facets.instances branching.source)).map
      (·.key.getD "") = waitingKeys env branching service :=
  keys_branchCandidates _

omit [SerdeJson] in
theorem startKeys_filter (starts : List (Ustr × Option ServiceBranchContext)) :
    startKeys name (starts.filter (·.1 = name)) = startKeys name starts := by
  rw [startKeys, startKeys, List.filter_filter]
  simp only [Bool.and_self]

omit [SerdeJson] in
theorem startKeys_map (contexts : List ServiceBranchContext) :
    startKeys name (contexts.map fun ctx => (name, some ctx)) =
      contexts.map (·.key.getD "") := by
  rw [startKeys, List.filter_eq_self.mpr (by simp), List.map_map]
  rfl

/-- A service that has all the branches it has room for gets no start. -/
theorem ownStarts_of_filled
    (plain : ∀ event, trigger.event = some event → event.type = .impulse →
      event.name ≠ branching.source)
    (filled : branching.Filled (env.wanted branching)
      (services.serviceOf name metadata).runningKeys) :
    ownStarts env trigger name metadata branching services = [] := by
  have idle : branchStarts env branching (services.serviceOf name metadata)
      (env.facets.instances branching.source) 0 = [] := by
    rw [branchStarts_eq]
    rcases filled with all | ⟨max, limit, full⟩
    · have none_ : branchCandidates env branching (services.serviceOf name metadata)
          (env.facets.instances branching.source) = [] := by
        rw [← List.map_eq_nil_iff, keys_waiting, waitingKeys, List.filter_eq_nil_iff]
        intro key member
        simpa using all (List.mem_toFinset.mpr member)
      rw [none_]
      cases branching.maxInstances <;> simp
    · have crowded := full.trans (Service.card_runningKeys_le _)
      rw [limit]
      exact if_pos crowded
  rw [ownStarts, branchesToConsider_eq plain, idle, List.map_nil, ite_self]

/-- A service whose conditions are met is started for the branches that wait. -/
theorem startKeys_ownStarts
    (plain : ∀ event, trigger.event = some event → event.type = .impulse →
      event.name ≠ branching.source)
    (met : metadata.shouldStart env.facets trigger.event)
    (afters : aftersRunning env metadata services)
    (room : ∀ max, branching.maxInstances = some max →
      (services.serviceOf name metadata).instances.length < max) :
    startKeys name (ownStarts env trigger name metadata branching services) =
      match branching.maxInstances with
      | none => waitingKeys env branching (services.serviceOf name metadata)
      | some max => (waitingKeys env branching (services.serviceOf name metadata)).take max := by
  rw [ownStarts, met, afters, Bool.and_self, if_pos rfl, startKeys_map,
    branchesToConsider_eq plain, branchStarts_eq]
  cases limit : branching.maxInstances with
  | none => exact keys_waiting _
  | some max =>
      dsimp only
      rw [if_neg (not_le.mpr (room max limit)), Nat.sub_zero, List.map_take, keys_waiting]

/-- The contexts of the starts are those of the branches that are considered. -/
theorem ctx_of_mem_ownStarts {entry : Ustr × Option ServiceBranchContext}
    (member : entry ∈ ownStarts env trigger name metadata branching services) :
    ∃ branch ∈ branchesToConsider env.facets branching trigger.event, ∃ key,
      branchKeyFromPayload branch.payload branching.key = some key ∧
        entry.2 = some ⟨some key, some branch.payload, none⟩ := by
  rw [ownStarts] at member
  split at member
  · obtain ⟨ctx, started, rfl⟩ := List.mem_map.mp member
    have candidate : ctx ∈ branchCandidates env branching (services.serviceOf name metadata)
        (branchesToConsider env.facets branching trigger.event) := by
      rw [branchStarts_eq] at started
      split at started
      · exact started
      · split at started
        · cases started
        · exact List.mem_of_mem_take started
    obtain ⟨branch, stored, made⟩ := List.mem_filterMap.mp candidate
    obtain ⟨key, named, made⟩ := Option.bind_eq_some_iff.mp made
    split at made
    · cases made
    · cases made
      exact ⟨branch, stored, key, named, rfl⟩
  · cases member

theorem keyed_ownStarts
    (plain : ∀ event, trigger.event = some event → event.type = .impulse →
      event.name ≠ branching.source) {entry : Ustr × Option ServiceBranchContext}
    (member : entry ∈ ownStarts env trigger name metadata branching services) :
    ∃ branch ∈ env.facets.instances branching.source, ∃ key,
      branchKeyFromPayload branch.payload branching.key = some key ∧
        entry.2 = some ⟨some key, some branch.payload, none⟩ := by
  rw [← branchesToConsider_eq plain]
  exact ctx_of_mem_ownStarts member

/-- All keys that wait, or as many as there is room for. -/
theorem filled_of_waiting {service : Service} {keys : List Ustr}
    (taken : keys = match branching.maxInstances with
      | none => waitingKeys env branching service
      | some max => (waitingKeys env branching service).take max)
    (room : ∀ max, branching.maxInstances = some max →
      (service.runningKeys ∪ ((waitingKeys env branching service).take max).toFinset).card =
        min max (service.runningKeys ∪ (waitingKeys env branching service).toFinset).card) :
    keys.toFinset ⊆ env.wanted branching ∧
      branching.Filled (env.wanted branching) (service.runningKeys ∪ keys.toFinset) ∧
      ∀ max, branching.maxInstances = some max →
        (service.runningKeys ∪ keys.toFinset).card ≤ max := by
  generalize waiting_eq : waitingKeys env branching service = waiting at taken room
  have inside : ∀ key ∈ waiting, key ∈ env.wanted branching := by
    intro key member
    rw [← waiting_eq, waitingKeys] at member
    exact List.mem_toFinset.mpr (List.mem_filter.mp member).1
  have all : env.wanted branching ⊆ service.runningKeys ∪ waiting.toFinset := by
    intro key member
    by_cases runs : key ∈ service.runningKeys
    · exact Finset.mem_union_left _ runs
    · rw [← waiting_eq]
      exact Finset.mem_union_right _ (List.mem_toFinset.mpr
        (List.mem_filter.mpr ⟨List.mem_toFinset.mp member, decide_eq_true runs⟩))
  cases limit : branching.maxInstances with
  | none =>
      rw [limit] at taken
      subst taken
      exact ⟨fun key member => inside key (List.mem_toFinset.mp member), .inl all, nofun⟩
  | some max =>
      have counted := room max limit
      rw [limit] at taken
      subst taken
      have within_ : service.runningKeys ∪ (waiting.take max).toFinset ⊆
          service.runningKeys ∪ waiting.toFinset :=
        Finset.union_subset_union_right fun key member =>
          List.mem_toFinset.mpr (List.mem_of_mem_take (List.mem_toFinset.mp member))
      refine ⟨fun key member => inside key (List.mem_of_mem_take (List.mem_toFinset.mp member)),
        ?_, ?_⟩
      · by_cases enough : max ≤ (service.runningKeys ∪ waiting.toFinset).card
        · rw [Nat.min_eq_left enough] at counted
          exact .inr ⟨max, limit, counted.ge⟩
        · rw [Nat.min_eq_right (Nat.le_of_not_le enough)] at counted
          rw [Finset.eq_of_subset_of_card_le within_ counted.ge]
          exact .inl all
      · intro other same
        obtain rfl := Option.some.inj same
        exact counted.trans_le (Nat.min_le_left ..)

end Considered

/-- What the starts of a service lead to, by the keys it runs for when they are noted. -/
structure StartsFit (env : ServiceEnv) (branching : BranchingConfig) (running : Finset Ustr)
    (before : Nat) (keys : List Ustr) : Prop where
  only : keys.toFinset ⊆ env.wanted branching
  filled : branching.Filled (env.wanted branching) (running ∪ keys.toFinset)
  bounded : ∀ max, branching.maxInstances = some max → before ≤ max →
    (running ∪ keys.toFinset).card ≤ max

omit [TomlText] in
/-- A service with all branches it has room for. -/
theorem StartsFit.nil {running : Finset Ustr} {before : Nat}
    (filled : branching.Filled (env.wanted branching) running) (fewer : running.card ≤ before) :
    StartsFit env branching running before [] := by
  constructor
  · exact Finset.empty_subset _
  · simpa using filled
  · intro max _ fits
    simpa using fewer.trans fits

/-- The starts that are noted for a service, if the branches that are stopped leave nothing
to start or all that waits can be started. -/
theorem ownStarts_fit {stopped : Services} {host : Host}
    (outcome : StopOutcome branching trigger (services.serviceOf name metadata) host
      (stopped.serviceOf name metadata, stopped.host))
    (plain : ∀ event, trigger.event = some event → event.type = .impulse →
      event.name ≠ branching.source)
    (afters : AftersStay env trigger metadata services → aftersRunning env metadata stopped)
    (starts : branching.Filled (env.wanted branching)
        (trigger.spared branching (services.serviceOf name metadata)) ∨
      CanStart env answer trigger name metadata branching services) :
    StartsFit env branching (stopped.serviceOf name metadata).runningKeys
        (services.serviceOf name metadata).runningKeys.card
        (startKeys name (ownStarts env trigger name metadata branching stopped)) ∧
      (ownStarts env trigger name metadata branching stopped ≠ [] →
        CanStart env answer trigger name metadata branching services ∧
          stopped.serviceOf name metadata = services.serviceOf name metadata) := by
  have spared := outcome.spared
  rcases starts with filled | can
  · rw [← spared] at filled
    rw [ownStarts_of_filled plain filled]
    refine ⟨.nil filled ?_, fun some_ => absurd rfl some_⟩
    rw [spared]
    exact Finset.card_le_card (Finset.filter_subset ..)
  · have same : stopped.serviceOf name metadata = services.serviceOf name metadata := by
      generalize stopped.serviceOf name metadata = after at outcome
      cases outcome with
      | kept idle => rfl
      | stopped key reverted running after final stops => exact absurd reverted (can.quiet key running)
    refine ⟨?_, fun _ => ⟨can, same⟩⟩
    have fits : ∀ max, branching.maxInstances = some max →
        (stopped.serviceOf name metadata).instances.length < max :=
      fun max limit => same ▸ (can.room max limit).1
    obtain ⟨only, filled, bounded⟩ :=
      filled_of_waiting (startKeys_ownStarts plain can.met (afters can.afters) fits)
        fun max limit => same ▸ (can.room max limit).2
    exact ⟨only, filled, fun max limit _ => bounded max limit⟩

omit [SerdeJson] [TomlText] in
/-- What has been added to the end of a list is still new from an earlier beginning. -/
theorem mem_drop_of_prefix {α : Type} {first second third last : List α} {entry : α}
    (before : first <+: second) (after : third <+: last)
    (member : entry ∈ third.drop second.length) : entry ∈ last.drop first.length := by
  obtain ⟨more, rfl⟩ := after
  have later : entry ∈ third.drop first.length := by
    rw [← Nat.add_sub_cancel' before.length_le, ← List.drop_drop] at member
    exact List.mem_of_mem_drop member
  rw [List.drop_append]
  exact List.mem_append_left _ later

/-- Evaluating an event for the service, if the branches it stops leave nothing to start
or all that waits can be started. -/
theorem evaluateTriggers_own {targets : List Ustr}
    (leads : ∀ target ∈ targets, ∃ metadata, LeadsBack env.metadata target metadata)
    (led : LeadsBack env.metadata name metadata) (listed : name ∈ targets)
    (distinct : targets.Nodup) (defines : services.Defines name metadata)
    (branches : metadata.branching = some branching)
    (plain : ∀ event, trigger.event = some event → event.type = .impulse →
      event.name ≠ branching.source)
    (starts : branching.Filled (env.wanted branching)
        (trigger.spared branching (services.serviceOf name metadata)) ∨
      CanStart env answer trigger name metadata branching services) :
    ∃ final, evaluateTriggers env answer trigger targets services = some (.ok (), final) ∧
      Evaluated env trigger name metadata branching services final := by
  obtain ⟨next, middle, considered⟩ :=
    considerServices_own trigger ⟨services, []⟩ leads led listed distinct defines branches
  have own : next.toStart.filter (·.1 = name) =
      ownStarts env trigger name metadata branching (middle.stop env trigger name).services :=
    considered.toStart
  have afters := considered.afters leads distinct
  obtain ⟨-, signalled⟩ := considerServices_signalled _ trivial _ _ considered.ran
  have outcome := considered.outcome
  have service := considered.service
  have after := considered.after
  generalize (middle.stop env trigger name).services = stopped at own afters outcome service after
  obtain ⟨fit, can⟩ := ownStarts_fit outcome plain afters starts
  have keys : startKeys name (ownStarts env trigger name metadata branching stopped) =
      startKeys name next.toStart := by
    rw [← own, startKeys_filter]
  rw [keys, ← service] at fit
  have needed (some_ : startKeys name next.toStart ≠ []) :
      CanStart env answer trigger name metadata branching services ∧
        stopped.serviceOf name metadata = services.serviceOf name metadata := by
    refine can fun none_ => some_ ?_
    rw [← keys, none_]
    rfl
  obtain ⟨pid, able⟩ : ∃ pid, startKeys name next.toStart ≠ [] →
      AbleToStart env answer pid 0 name metadata next.services := by
    by_cases idle : startKeys name next.toStart = []
    · exact ⟨fun _ _ => 0, fun some_ => absurd idle some_⟩
    · obtain ⟨can, same⟩ := needed idle
      obtain ⟨pid, able⟩ := can.able
      refine ⟨pid, fun _ => { able with running := ?_, free := ?_ }⟩
      · rw [service, same]
        exact able.running
      · intro later le index child
        exact able.free later le index ((signalled.children _).mp child)
  have keyed : ∀ entry ∈ next.toStart, entry.1 = name → ∃ ctx key, entry.2 = some ctx ∧
      ctx.key = some key ∧ BranchLaunches env name metadata ctx := by
    intro entry member same
    have inside : entry ∈ ownStarts env trigger name metadata branching stopped := by
      rw [← own]
      exact List.mem_filter.mpr ⟨member, decide_eq_true same⟩
    obtain ⟨can, -⟩ := can (List.ne_nil_of_mem inside)
    obtain ⟨branch, stored, key, named, ctx⟩ := keyed_ownStarts plain inside
    exact ⟨_, key, ctx, rfl, can.launches branch stored key named⟩
  obtain ⟨final, ran, started⟩ := starts_run (considered.leads leads rfl) led considered.defines keyed able
  refine ⟨final, ?_, started.defines, ?_, ?_, ?_, ?_, ?_⟩
  · rw [evaluateTriggers, considered.ran]
    exact ran
  · rw [started.keys, service, outcome.spared]
    exact Finset.union_subset_union_right fit.only
  · rw [started.keys]
    exact fit.filled
  · rw [started.keys]
    exact fit.bounded
  · exact outcome.goesOn.trans (service ▸ started.goesOn.mono)
  · intro key reverted inst member running same pid held
    obtain ⟨sent, new, about⟩ := outcome.told reverted member running same held
    exact ⟨sent, mem_drop_of_prefix considered.before (after.trans started.signals) new, about⟩

/-- Evaluating an event that is not about the service. -/
theorem evaluateTriggers_other {targets : List Ustr}
    (leads : ∀ target ∈ targets, ∃ metadata, LeadsBack env.metadata target metadata)
    (led : LeadsBack env.metadata name metadata) (absent : name ∉ targets)
    (defines : services.Defines name metadata) :
    ∃ final, evaluateTriggers env answer trigger targets services = some (.ok (), final) ∧
      final.Defines name metadata ∧
      final.serviceOf name metadata = services.serviceOf name metadata := by
  obtain ⟨next, ran, lookup, -, more, toStart, others⟩ :=
    considerServices_other trigger ⟨services, []⟩ leads absent
  have own (entry : Ustr × Option ServiceBranchContext) (member : entry ∈ next.toStart) :
      entry.1 ∈ targets := others entry (by simpa [toStart] using member)
  have idle : startKeys name next.toStart = [] := by
    rw [startKeys, List.map_eq_nil_iff, List.filter_eq_nil_iff]
    intro entry member same
    exact absent (of_decide_eq_true same ▸ own entry member)
  have able (some_ : startKeys name next.toStart ≠ []) :
      AbleToStart env answer (fun _ _ => 0) 0 name metadata next.services := absurd idle some_
  obtain ⟨final, ran', started⟩ :=
    starts_run (fun entry member => leads entry.1 (own entry member)) led
      (fun service found => defines service (lookup ▸ found))
      (fun entry member same => absurd (same ▸ own entry member) absent) able
  refine ⟨final, ?_, started.defines, (started.idle idle).trans ?_⟩
  · rw [evaluateTriggers, ran]
    exact ran'
  · rw [Services.serviceOf, lookup, Services.serviceOf]

end Evaluating

end Rind
