import Rind.Services.Steps

/-!
# Instances and their processes

An instance that is active, starting or stopping should have a process.  Starts
mark instances by their position as active, and so may mark one whose process
has exited.
-/

namespace Rind

open Runs

/-- A live instance has a process. -/
def ChildInstance.Backed (inst : ChildInstance) : Prop := inst.state.isLive → inst.handle.isSome

/-! ## Starts -/

/-- The instances that a successful start marks as active besides its own. -/
def StartRequest.marks (request : StartRequest) (insts : List ChildInstance) :
    List ChildInstance :=
  match request.branchCtx with
  | some _ => insts
  | none => insts.head?.toList

section Starts

variable [SerdeJson] [TomlText]

/-- A start that succeeds finds a process in every instance it marks. -/
def MarksProcesses (env : ServiceEnv) (request : StartRequest) (services : Services) : Prop :=
  ∀ key service insts final,
    env.metadata.instantiateOne Service.new "*" request.name services.instances =
      some (key, service) →
    (request.deferred ∨ service.metadata.registersTransport = false) →
    request.held service = false →
    spawnAll env service request.context (ensureScopedName request.name) services.host =
      (.ok insts, final) →
    ∀ inst ∈ request.marks service.instances, inst.handle.isSome

variable {env : ServiceEnv} {request : StartRequest}

omit [SerdeJson] [TomlText] in
theorem SpawnedAll.handle_isSome {service : Service} {ctx : Option ServiceBranchContext}
    {registryKey : Ustr} {index : Nat} {host final : Host} {insts : List ChildInstance}
    (spawned : SpawnedAll env service ctx registryKey index host insts final) :
    ∀ inst ∈ insts, inst.handle.isSome := by
  induction spawned with
  | nil index host => simp
  | cons run first others ih =>
      intro inst member
      rcases List.mem_cons.mp member with rfl | member
      · rw [first.inst_eq]
        rfl
      · exact ih inst member

omit [SerdeJson] [TomlText] in
/-- A successful start leaves backed instances exactly when those it marks have
a process. -/
theorem StartRequest.backed_settle_iff {insts new : List ChildInstance}
    (backed : ∀ inst ∈ insts, inst.Backed) (running : ∀ inst ∈ new, inst.handle.isSome) :
    (∀ inst ∈ request.settle (insts ++ new), inst.Backed) ↔
      ∀ inst ∈ request.marks insts, inst.handle.isSome := by
  have marked : ∀ inst : ChildInstance, (inst.mark .active).Backed ↔ inst.handle.isSome :=
    fun inst => ⟨fun backed => backed rfl, fun running _ => running⟩
  have backed_new : ∀ inst ∈ new, inst.Backed := fun inst member _ => running inst member
  cases branch : request.branchCtx with
  | some ctx =>
      simp only [settle, marks, branch, List.forall_mem_map, marked, List.forall_mem_append]
      exact and_iff_left running
  | none =>
      simp only [settle, marks, branch]
      cases insts with
      | nil =>
          simp only [List.nil_append, List.head?_nil, Option.toList_none, List.not_mem_nil,
            false_imp_iff, implies_true, iff_true]
          cases new with
          | nil => simp [markFirst]
          | cons first rest =>
              obtain ⟨head, tail⟩ := List.forall_mem_cons.mp backed_new
              refine List.forall_mem_cons.mpr ⟨(marked first).mpr ?_, tail⟩
              exact running first List.mem_cons_self
      | cons first rest =>
          obtain ⟨-, tail⟩ := List.forall_mem_cons.mp backed
          have others : ∀ inst ∈ rest ++ new, inst.Backed :=
            List.forall_mem_append.mpr ⟨tail, backed_new⟩
          simp only [List.cons_append, markFirst, List.forall_mem_cons, marked, List.head?_cons,
            Option.toList_some, List.mem_singleton, forall_eq]
          exact and_iff_left others

omit [SerdeJson] [TomlText] in
/-- A failed start never marks an instance as live. -/
theorem StartRequest.backed_spoil {insts : List ChildInstance} {registryKey : Ustr}
    {error : CoreError} (backed : ∀ inst ∈ insts, inst.Backed) :
    ∀ inst ∈ request.spoil (startError registryKey error) insts, inst.Backed := by
  have marked : ∀ inst : ChildInstance, (inst.mark (startError registryKey error)).Backed :=
    fun inst live => absurd live Bool.false_ne_true
  rw [spoil]
  split
  · intro inst member
    obtain ⟨original, inside, rfl⟩ := List.mem_map.mp member
    split
    · exact backed original inside
    · exact marked original
  · cases insts with
    | nil => simp [markFirst]
    | cons first rest =>
        obtain ⟨-, tail⟩ := List.forall_mem_cons.mp backed
        exact List.forall_mem_cons.mpr ⟨marked first, tail⟩

theorem StartStep.backed_iff {services final : Services}
    (backed : services.Every ChildInstance.Backed)
    (started : StartStep env request services final) :
    final.Every ChildInstance.Backed ↔ MarksProcesses env request services := by
  cases started with
  | missing absent =>
      refine iff_of_true backed ?_
      intro key service insts final found
      rw [absent] at found
      cases found
  | postponed key service found later =>
      refine iff_of_true (backed.insert rfl (backed.instantiated found)) ?_
      intro other service' insts final found' now
      rw [found, Option.some_inj, Prod.mk.injEq] at found'
      obtain ⟨-, rfl⟩ := found'
      rw [later.1, later.2] at now
      simp at now
  | tried key service service' last found now outcome =>
      have instances := backed.instantiated found
      cases outcome with
      | held running =>
          refine iff_of_true (backed.insert rfl instances) ?_
          intro other service' insts final found' now free
          rw [found, Option.some_inj, Prod.mk.injEq] at found'
          obtain ⟨-, rfl⟩ := found'
          rw [running] at free
          cases free
      | started free insts last spawned =>
          have running := SpawnedAll.handle_isSome (spawnAll_cases spawned)
          have settled := request.backed_settle_iff instances running
          constructor
          · intro every other service' insts' final found' now' free' spawned'
            rw [found, Option.some_inj, Prod.mk.injEq] at found'
            obtain ⟨-, rfl⟩ := found'
            exact settled.mp (every key _ (AList.lookup_insert _))
          · intro marks
            refine backed.insert rfl (settled.mpr ?_)
            exact marks key service insts last found now free spawned
      | failed free error last lastState spawned =>
          refine iff_of_true (backed.insert rfl (request.backed_spoil instances)) ?_
          intro other service' insts final found' now free spawned'
          rw [found, Option.some_inj, Prod.mk.injEq] at found'
          obtain ⟨-, rfl⟩ := found'
          rw [spawned] at spawned'
          cases spawned'

/-! ## Steps -/

omit [SerdeJson] [TomlText] in
theorem backed_afterExit {services : Services} (pid : Nat) (code : Int)
    (backed : services.Every ChildInstance.Backed) :
    (afterExit pid code services).1.Every ChildInstance.Backed := by
  have step := recordExit_cases pid code services
  rw [afterExit]
  generalize recordExit pid code services = result at step
  cases step with
  | unknown noted | unregistered key noted absent | unheld key service noted found without =>
      exact backed
  | handled key service index inst noted found position at_ =>
      have instances : ∀ member ∈ (service.afterExit index inst code).instances,
          member.Backed := by
        intro member inside
        rcases List.mem_or_eq_of_mem_set (ServiceExitAction.mem_of_mem_keeps inside) with
          inside | rfl
        · exact backed key service found member inside
        · exact fun live => absurd live Bool.false_ne_true
      cases exitAction service.metadata inst code with
      | restart => exact backed.insert rfl instances
      | stopDependents => exact backed.insert rfl instances

omit [SerdeJson] [TomlText] in
theorem ChildInstance.Backed.stopped {inst : ChildInstance} (key user : Option Ustr)
    (backed : inst.Backed) : (inst.stopped key user).Backed := by
  rw [ChildInstance.stopped]
  split
  · split
    · next handle present =>
        intro _
        rw [present, Option.isSome_some]
    · exact fun live => absurd live Bool.false_ne_true
  · exact backed

/-- What precedes a start never leaves a live instance without its process. -/
theorem backed_beforeStart {services : Services} (event : ServiceEnv × ServiceAction)
    (backed : services.Every ChildInstance.Backed) :
    (beforeStart services event).1.Every ChildInstance.Backed := by
  have step := beforeStart_cases services event
  generalize beforeStart services event = result at step
  cases step with
  | start env request | reap env pid code child | idle env action | signal env fd binding bound =>
      exact backed
  | stop env request result stopped =>
      exact backed.stop (fun inst backed => backed.stopped none request.onlyUser) stopped
  | exit env action taken took =>
      obtain ⟨instances, -⟩ := takeExit_base took
      apply backed_afterExit
      rw [Services.Every, instances]
      exact backed
  | watchdog env fd binding result asked bound stopped plain =>
      have dropped :
          (services.updateRuntime (·.dropWatchdog fd binding.pid)).Every ChildInstance.Backed :=
        backed
      exact dropped.stop (fun inst backed => backed.stopped none none) stopped
  | sweep env =>
      rw [Services.Every, timeoutSweep_instances]
      exact backed

/-- The start a step makes finds a process in every instance it marks. -/
def StepMarksProcesses (services : Services) (event : ServiceEnv × ServiceAction) : Prop :=
  ∀ request ∈ (beforeStart services event).2,
    MarksProcesses event.1 request (beforeStart services event).1

theorem backed_serviceStep_iff {services : Services} {event : ServiceEnv × ServiceAction}
    (backed : services.Every ChildInstance.Backed) :
    (serviceStep services event).Every ChildInstance.Backed ↔
      StepMarksProcesses services event := by
  have before := backed_beforeStart event backed
  rw [serviceStep_eq, StepMarksProcesses]
  generalize beforeStart services event = result at before
  obtain ⟨middle, _ | request⟩ := result
  · simp [before]
  · simp only [Option.mem_some_iff, forall_eq']
    exact (start_cases middle).backed_iff before

omit [SerdeJson] [TomlText] in
/-- Nothing runs at first. -/
theorem backed_boot : Services.boot.Every ChildInstance.Backed := by
  intro key service lookup
  simp [Services.boot] at lookup

omit [SerdeJson] [TomlText] in
theorem ChildInstance.backed_iff {inst : ChildInstance} :
    inst.Backed ↔
      (inst.state = .active ∨ inst.state = .starting ∨ inst.state = .stopping →
        inst.handle.isSome) ∧
      (inst.handle = none →
        inst.state = .inactive ∨ (∃ code, inst.state = .exited code) ∨
          ∃ text, inst.state = .error text) := by
  rw [Backed]
  cases handle : inst.handle <;> cases inst.state <;> simp [ServiceState.isLive]

/-- In every state of a run each instance that is active, starting or stopping
has a process, and one without a process is inactive, exited or an error, exactly
when every start of the run that succeeds finds a process in each instance it
marks. -/
theorem live_instances_have_processes_iff (events : List (ServiceEnv × ServiceAction)) :
    Along serviceStep StepMarksProcesses .boot events ↔
      ∀ before, before <+: events → ∀ key service,
        (Runs.run serviceStep .boot before).instances.lookup key = some service →
        ∀ inst ∈ service.instances,
          (inst.state = .active ∨ inst.state = .starting ∨ inst.state = .stopping →
            inst.handle.isSome) ∧
          (inst.handle = none →
            inst.state = .inactive ∨ (∃ code, inst.state = .exited code) ∨
              ∃ text, inst.state = .error text) := by
  rw [along_iff (fun services event backed => backed_serviceStep_iff backed) events backed_boot]
  simp only [Services.Every, ChildInstance.backed_iff]

end Starts

/-! ## A service that is restarted -/

open scoped Compact

/-- A service that is restarted whenever it exits. -/
def renewedService : ServiceMetadata := { workerService with restart := some (.bool true) }

/-- The service is started, and its process exits. -/
def renewedOnce : List (ServiceEnv × ServiceAction) :=
  [(loneEnv renewedService 100, .start (.plain "app:worker")),
    (loneEnv renewedService 101, .exit 100 0)]

theorem not_live_renewed :
    ¬ ∀ service,
      (Runs.run serviceStep .boot renewedOnce).instances.lookup "app:worker@static" = some service →
      ∀ inst ∈ service.instances, inst.state = .active → inst.handle.isSome := by
  have marked : ((Runs.run serviceStep .boot renewedOnce).instances.lookup "app:worker@static").any
      (fun service => service.instances.any fun inst =>
        inst.state == .active && inst.handle.isNone) = true := by
    decide +kernel
  intro every
  obtain ⟨service, found, marked⟩ := (Option.any_eq_true _ _).mp marked
  obtain ⟨inst, member, vacant⟩ := List.any_eq_true.mp marked
  rw [Bool.and_eq_true, beq_iff_eq, Option.isNone_iff_eq_none] at vacant
  have running := every service found inst member vacant.1
  rw [vacant.2] at running
  cases running

end Rind
