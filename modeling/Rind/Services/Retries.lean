import Rind.Services.Steps

/-!
# Restarts after failures

A service that restarts on failure counts the restarts of an instance in that
instance.  A restart makes new instances, so the count of a running instance is
always zero: as long as retries are allowed at all, each failure is followed by
a restart.
-/

namespace Rind

open Runs

/-- The service a process is noted for has an instance with it. -/
def Services.holds (services : Services) (pid : Nat) : Bool :=
  ((services.host.runtime.pidMap.lookup pid).bind (services.instances.lookup ·)).any fun service =>
    (service.findByPid pid).isSome

/-- Whether a step handles the failure of an instance's process. -/
def isFailure (services : Services) (event : ServiceEnv × ServiceAction) : Bool :=
  (takeExit services event.2).any fun taken => taken.code != 0 && services.holds taken.pid

/-- An instance that has not been restarted or stopped while its process runs. -/
def ChildInstance.Untried (inst : ChildInstance) : Prop :=
  inst.handle.isSome → inst.retryCount = 0 ∧ inst.manuallyStopped = false

/-- Every service is the one of a key, restarts on failure, and its running
instances are untried. -/
def OnlyOnFailure (key : Ustr) (maxRetries : Nat) (services : Services) : Prop :=
  ∀ other service, services.instances.lookup other = some service →
    other = key ∧ service.metadata.restart = some (.onFailure maxRetries) ∧
      ∀ inst ∈ service.instances, inst.Untried

/-- There is just the service of a key, which restarts on failure. -/
structure RestartsOnFailure (key : Ustr) (maxRetries : Nat) (services : Services) : Prop where
  known : (services.instances.lookup key).isSome
  only : OnlyOnFailure key maxRetries services

theorem OnlyOnFailure.insert {key : Ustr} {maxRetries : Nat} {services : Services}
    {service : Service} {final : Services} (inv : OnlyOnFailure key maxRetries services)
    (stored : final.instances = services.instances.insert key service)
    (policy : service.metadata.restart = some (.onFailure maxRetries))
    (untried : ∀ inst ∈ service.instances, inst.Untried) :
    RestartsOnFailure key maxRetries final := by
  constructor
  · rw [stored, AList.lookup_insert, Option.isSome_some]
  · intro other found lookup
    rw [stored] at lookup
    by_cases same : other = key
    · subst same
      rw [AList.lookup_insert, Option.some_inj] at lookup
      subst lookup
      exact ⟨rfl, policy, untried⟩
    · rw [AList.lookup_insert_ne same] at lookup
      exact inv other found lookup

/-! ## Starts -/

theorem untried_of_spawnedAll {env : ServiceEnv} {service : Service} {ctx : Option ServiceBranchContext}
    {registryKey : Ustr} {index : Nat} {host final : Host} {insts : List ChildInstance}
    (spawned : SpawnedAll env service ctx registryKey index host insts final) :
    ∀ inst ∈ insts, inst.Untried := by
  induction spawned with
  | nil index host => simp
  | cons run first others ih =>
      intro inst member
      rcases List.mem_cons.mp member with rfl | member
      · rw [first.inst_eq]
        intro _
        exact ⟨rfl, rfl⟩
      · exact ih inst member

section Starts

variable [SerdeJson] [TomlText] {env : ServiceEnv} {request : StartRequest}

theorem untried_of_startOutcome {service service' : Service} {host final : Host}
    (outcome : StartOutcome env request service host service' final)
    (untried : ∀ inst ∈ service.instances, inst.Untried) :
    service'.metadata = service.metadata ∧ ∀ inst ∈ service'.instances, inst.Untried := by
  have blind : ∀ (inst : ChildInstance) state, (inst.mark state).Untried = inst.Untried :=
    fun _ _ => rfl
  have transfer : ∀ {first last : List ChildInstance},
      last.map ChildInstance.Untried = first.map ChildInstance.Untried →
      (∀ inst ∈ first, inst.Untried) → ∀ inst ∈ last, inst.Untried := by
    intro first last same every inst member
    have listed := List.mem_map_of_mem (f := ChildInstance.Untried) member
    rw [same] at listed
    obtain ⟨original, inside, same⟩ := List.mem_map.mp listed
    exact same ▸ every original inside
  cases outcome with
  | held running => exact ⟨rfl, untried⟩
  | started free insts final spawned =>
      refine ⟨rfl, transfer (StartRequest.map_settle blind _ _) ?_⟩
      intro inst member
      rcases List.mem_append.mp member with member | member
      · exact untried inst member
      · exact untried_of_spawnedAll (spawnAll_cases spawned) inst member
  | failed free error final lastState spawned =>
      exact ⟨rfl, transfer (StartRequest.map_spoil blind _ _ _) untried⟩

variable {key : Ustr} {maxRetries : Nat} {services : Services}

/-- A start of the service keeps its running instances untried. -/
theorem RestartsOnFailure.start {final : Services}
    (inv : RestartsOnFailure key maxRetries services) (name : request.name = key)
    (full : '@' ∈ key.toList) (started : StartStep env request services final) :
    RestartsOnFailure key maxRetries final := by
  have known : ∀ {found : Ustr} {service : Service},
      env.metadata.instantiateOne Service.new "*" request.name services.instances =
        some (found, service) → found = key ∧ services.instances.lookup key = some service := by
    intro found service instantiated
    obtain ⟨found_eq, cases_⟩ := MetadataRegistry.instantiateOne_cases instantiated
    rw [name, MetadataRegistry.instanceKey_of_scoped full] at found_eq
    subst found_eq
    rcases cases_ with kept | ⟨absent, -⟩
    · exact ⟨rfl, kept⟩
    · exact absurd inv.known (by simp [absent])
  cases started with
  | missing absent => exact inv
  | postponed found service instantiated later =>
      obtain ⟨rfl, lookup⟩ := known instantiated
      obtain ⟨-, policy, untried⟩ := inv.only _ service lookup
      exact inv.only.insert rfl policy untried
  | tried found service service' final instantiated now outcome =>
      obtain ⟨rfl, lookup⟩ := known instantiated
      obtain ⟨-, policy, untried⟩ := inv.only _ service lookup
      obtain ⟨metadata, untried⟩ := untried_of_startOutcome outcome untried
      exact inv.only.insert rfl (by rw [metadata, policy]) untried

/-! ## Exits -/

/-- Whether an action is about the exit of a process. -/
def ServiceAction.isExit : ServiceAction → Bool
  | .reap _ _ | .childExited | .exit _ _ => true
  | _ => false

/-- Whether a step restarts the service of a process that has exited. -/
def isRestart (services : Services) (event : ServiceEnv × ServiceAction) : Bool :=
  event.2.isExit && (beforeStart services event).2.isSome

omit [SerdeJson] [TomlText] in
/-- An exit asks for a restart exactly when it is a failure and retries are
allowed, however often the service has been restarted before. -/
theorem RestartsOnFailure.afterExit (inv : RestartsOnFailure key maxRetries services)
    (pid : Nat) (code : Int) :
    RestartsOnFailure key maxRetries (afterExit pid code services).1 ∧
      (∀ request ∈ (afterExit pid code services).2, request.name = key) ∧
      (afterExit pid code services).2.isSome =
        (decide (0 < maxRetries) && (code != 0 && services.holds pid)) := by
  have step := recordExit_cases pid code services
  rw [Rind.afterExit]
  generalize recordExit pid code services = result at step
  cases step with
  | unknown noted => exact ⟨inv, by simp, by simp [Services.holds, noted]⟩
  | unregistered other noted absent =>
      exact ⟨⟨inv.known, inv.only⟩, by simp, by simp [Services.holds, noted, absent]⟩
  | unheld other service noted found without =>
      exact ⟨⟨inv.known, inv.only⟩, by simp, by simp [Services.holds, noted, found, without]⟩
  | handled other service index inst noted found position at_ =>
      obtain ⟨rfl, policy, untried⟩ := inv.only other service found
      have held : services.holds pid = true := by
        simp [Services.holds, noted, found, position]
      have kept : ∀ final : Services,
          final.instances =
            services.instances.insert other (service.afterExit index inst code) →
          RestartsOnFailure other maxRetries final := by
        intro final stored
        apply inv.only.insert stored policy
        intro member inside
        rcases List.mem_or_eq_of_mem_set (ServiceExitAction.mem_of_mem_keeps inside) with
          inside | rfl
        · exact untried member inside
        · intro running
          simp [ChildInstance.exited] at running
      have action : exitAction service.metadata inst code =
          if code ≠ 0 ∧ 0 < maxRetries then .restart else .stopDependents := by
        obtain ⟨same, at_same, member, pid_eq⟩ := service.instance_of_findByPid position
        rw [at_, Option.some_inj] at at_same
        subst at_same
        obtain ⟨handle, present, -⟩ := Option.map_eq_some_iff.mp pid_eq
        obtain ⟨count, manual⟩ := untried inst member (by rw [present, Option.isSome_some])
        simp [exitAction, manual, policy, count]
      rw [action, held]
      by_cases restarted : code ≠ 0 ∧ 0 < maxRetries
      · rw [if_pos restarted]
        refine ⟨kept _ rfl, ?_, ?_⟩
        · rintro request ⟨⟩
          rfl
        · simp [restarted.1, restarted.2]
      · rw [if_neg restarted]
        refine ⟨kept _ rfl, by simp, ?_⟩
        simp only [Option.isSome_none]
        grind

/-! ## Runs -/

/-- The steps of a run without requests from outside: exits, and the repeated
start that a restart of a service with an endpoint dispatches. -/
def UnaidedStep (key : Ustr) (event : ServiceEnv × ServiceAction) : Prop :=
  event.2.isExit ∨ event.2 = .start { StartRequest.plain key with deferred := true }

theorem RestartsOnFailure.beforeStart (inv : RestartsOnFailure key maxRetries services)
    {event : ServiceEnv × ServiceAction} (unaided : UnaidedStep key event) :
    RestartsOnFailure key maxRetries (beforeStart services event).1 ∧
      (∀ request ∈ (beforeStart services event).2, request.name = key) ∧
      isRestart services event = (decide (0 < maxRetries) && isFailure services event) := by
  obtain ⟨env, action⟩ := event
  rcases unaided with exit | rfl
  · cases action with
    | start request | stop request | watchdogExpired fd | timeoutSweep =>
        simp [ServiceAction.isExit] at exit
    | reap pid code =>
        have unhandled : isFailure services (env, .reap pid code) = false := rfl
        refine ⟨?_, by simp [Rind.beforeStart], ?_⟩
        rotate_left
        · rw [unhandled]
          simp [isRestart, Rind.beforeStart]
        simp only [Rind.beforeStart, reapOnce]
        split
        · exact ⟨inv.known, inv.only⟩
        · exact inv
    | childExited | exit pid code =>
        rw [isRestart, isFailure, exit, Bool.true_and]
        simp only [Rind.beforeStart]
        generalize took : takeExit services _ = taken
        cases taken with
        | none => exact ⟨inv, by simp, by simp⟩
        | some taken =>
            obtain ⟨instances, runtime⟩ := takeExit_base took
            have based : RestartsOnFailure key maxRetries taken.base := by
              constructor
              · rw [instances]; exact inv.known
              · rw [OnlyOnFailure, instances]; exact inv.only
            obtain ⟨kept, name, asked⟩ := based.afterExit taken.pid taken.code
            refine ⟨kept, name, ?_⟩
            have holds : taken.base.holds taken.pid = services.holds taken.pid := by
              simp only [Services.holds, instances, runtime]
            rw [asked, holds, Option.any_some]
  · refine ⟨inv, ?_, by simp [isRestart, isFailure, takeExit, ServiceAction.isExit]⟩
    rintro request ⟨⟩
    rfl

theorem RestartsOnFailure.serviceStep (inv : RestartsOnFailure key maxRetries services)
    (full : '@' ∈ key.toList) {event : ServiceEnv × ServiceAction}
    (unaided : UnaidedStep key event) :
    RestartsOnFailure key maxRetries (serviceStep services event) := by
  obtain ⟨before, name, -⟩ := inv.beforeStart unaided
  rw [serviceStep_eq]
  generalize Rind.beforeStart services event = result at before name
  obtain ⟨middle, _ | request⟩ := result
  · exact before
  · exact before.start (name request rfl) full (start_cases middle)

/-- The services after the first start of a service. -/
theorem restartsOnFailure_start {metadata : ServiceMetadata}
    (defined : env.metadata.instantiated "*" request.name = some metadata)
    (policy : metadata.restart = some (.onFailure maxRetries)) :
    RestartsOnFailure (env.metadata.instanceKey "*" request.name) maxRetries
      (start env request .boot).2 := by
  have nothing : OnlyOnFailure (env.metadata.instanceKey "*" request.name) maxRetries .boot := by
    intro other service lookup
    simp [Services.boot] at lookup
  have made : env.metadata.instantiateOne Service.new "*" request.name Services.boot.instances =
      some (env.metadata.instanceKey "*" request.name, Service.new metadata) := by
    simp [MetadataRegistry.instantiateOne, Services.boot, defined]
  have untried : ∀ inst ∈ (Service.new metadata).instances, inst.Untried := by
    intro inst member
    exact absurd member List.not_mem_nil
  generalize final_eq : (Rind.start env request .boot).2 = final
  have started : StartStep env request .boot (Rind.start env request .boot).2 :=
    start_cases .boot
  rw [final_eq] at started
  cases started with
  | missing absent => rw [made] at absent; simp at absent
  | postponed key service found later =>
      rw [made] at found
      cases found
      exact nothing.insert rfl policy untried
  | tried key service service' last found now outcome =>
      rw [made] at found
      cases found
      obtain ⟨same, untried⟩ := untried_of_startOutcome outcome untried
      exact nothing.insert rfl (by rw [same]; exact policy) untried

/-- A service that restarts on failure at most `maxRetries` times per instance
is restarted at most `maxRetries` times in a run exactly when it may not be
restarted at all or fails at most that often: a restarted service starts counting
from zero. -/
theorem restarts_le_iff {metadata : ServiceMetadata}
    (defined : env.metadata.instantiated "*" request.name = some metadata)
    (policy : metadata.restart = some (.onFailure maxRetries))
    (events : List (ServiceEnv × ServiceAction))
    (unaided : ∀ event ∈ events,
      UnaidedStep (env.metadata.instanceKey "*" request.name) event) :
    count serviceStep isRestart (start env request .boot).2 events ≤ maxRetries ↔
      maxRetries = 0 ∨
        count serviceStep isFailure (start env request .boot).2 events ≤ maxRetries := by
  have initial := restartsOnFailure_start defined policy
  have full := env.metadata.instanceKey_scoped "*" request.name
  have along : Along serviceStep
      (fun _ event => UnaidedStep (env.metadata.instanceKey "*" request.name) event)
      (start env request .boot).2 events := Along.of_forall unaided
  have keeps : ∀ services event,
      RestartsOnFailure (env.metadata.instanceKey "*" request.name) maxRetries services →
      UnaidedStep (env.metadata.instanceKey "*" request.name) event →
      RestartsOnFailure (env.metadata.instanceKey "*" request.name) maxRetries
        (serviceStep services event) :=
    fun services event inv unaided => inv.serviceStep full unaided
  rcases Nat.eq_zero_or_pos maxRetries with rfl | positive
  · have never : count serviceStep isRestart (start env request .boot).2 events =
        count serviceStep (fun _ _ => false) (start env request .boot).2 events := by
      refine along.count_congr keeps ?_ initial
      intro services event inv unaided
      rw [(inv.beforeStart unaided).2.2]
      rfl
    rw [never, count_false]
    simp
  · have always : count serviceStep isRestart (start env request .boot).2 events =
        count serviceStep isFailure (start env request .boot).2 events := by
      refine along.count_congr keeps ?_ initial
      intro services event inv unaided
      rw [(inv.beforeStart unaided).2.2, decide_eq_true positive, Bool.true_and]
    rw [always, or_iff_right (Nat.ne_of_gt positive)]

end Starts

/-! ## A service with one retry -/

open scoped Compact

/-- A service that may be restarted once. -/
def retriedService : ServiceMetadata := { workerService with restart := some (.onFailure 1) }

/-- The service's process fails, and so does the one that replaces it. -/
def twoFailures : List (ServiceEnv × ServiceAction) :=
  [(loneEnv retriedService 101, .exit 100 1), (loneEnv retriedService 102, .exit 101 1)]

theorem restarts_le_iff_retried :
    count serviceStep isRestart (start (loneEnv retriedService 100) (.plain "app:worker") .boot).2
      [(loneEnv retriedService 101, .exit 100 1), (loneEnv retriedService 102, .exit 101 0)] ≤
        1 := by
  have defined : (loneEnv retriedService 100).metadata.instantiated "*" "app:worker" =
      some retriedService := by decide
  apply (restarts_le_iff defined rfl _ ?_).mpr
  · exact .inr (by decide +kernel)
  · intro event member
    simp only [List.mem_cons, List.not_mem_nil, or_false] at member
    rcases member with rfl | rfl <;> exact .inl rfl

theorem not_restarts_le_retried :
    ¬ count serviceStep isRestart
        (start (loneEnv retriedService 100) (.plain "app:worker") .boot).2 twoFailures ≤ 1 := by
  decide +kernel

end Rind
