import Rind.Prog.Worklist
import Rind.Services.Steps
import Rind.Services.Triggers

/-!
# Stacks of services

A service comes after others, and follows them: `reconcile_stacks` starts the
dependents of a service that has started, and stops those of one that has
stopped.  A start reconciles at once, within the action that starts, and what it
starts reconciles in turn; it also queues the same reconciliation for later.  A
stop only queues one.

What an action dispatches to the sockets and to the timers is not part of this.
-/

namespace Rind

/-! ## Definitions -/

/-- A definition, with the page and the group it is in. -/
structure Dependent where
  scope : Ustr
  group : Ustr
  metadata : ServiceMetadata
  deriving DecidableEq, Repr

/-- The name a dependent is started and stopped by. -/
def Dependent.name (dependent : Dependent) : Ustr := rslvns dependent.group dependent.metadata.name

/-- All definitions with their pages and groups. -/
def allDependents (definitions : MetadataRegistry ServiceMetadata) : List Dependent :=
  definitions.metadata.entries.flatMap fun page =>
    page.2.values.keys.flatMap fun group =>
      ((definitions.groupItems page.1 group).getD []).map fun metadata =>
        { scope := page.1, group, metadata }

/-- The definitions that list a service in `after`. -/
def dependentsOf (definitions : MetadataRegistry ServiceMetadata) (service : Ustr) :
    List Dependent :=
  (allDependents definitions).filter (·.metadata.after.any (·.contains service))

/-! ## The queue -/

inductive ServiceEventKind where
  | started
  | exited (code : Int)
  | stopped
  | failed
  deriving DecidableEq, Repr

/-- An action that waits in the queue of the runtimes. -/
inductive StackAction where
  | start (request : StartRequest)
  | stop (request : StopRequest)
  | reconcileStacks (service : Ustr) (action : ServiceEventKind)
  deriving DecidableEq, Repr

/-- What was decided about a dependent of a started service, and in which state of
the services. -/
structure StackTurn where
  service : Ustr
  dependent : Dependent
  services : Services
  started : Bool

/-- The services, the actions that wait and how many starts there were. `turns`
notes every decision about a dependent of a started service. -/
structure Stacks where
  services : Services
  queue : List StackAction
  starts : Nat
  turns : List StackTurn

namespace Stacks

def enqueue (actions : List StackAction) (stack : Stacks) : Stacks :=
  { stack with queue := stack.queue ++ actions }

def note (service : Ustr) (dependent : Dependent) (started : Bool) (stack : Stacks) : Stacks :=
  { stack with
    turns := stack.turns ++ [⟨service, dependent, stack.services, started⟩] }

variable (actions : List StackAction) (service : Ustr) (dependent : Dependent) (started : Bool)
  (stack : Stacks)

@[simp] theorem enqueue_queue : (stack.enqueue actions).queue = stack.queue ++ actions := rfl
@[simp] theorem enqueue_services : (stack.enqueue actions).services = stack.services := rfl
@[simp] theorem enqueue_starts : (stack.enqueue actions).starts = stack.starts := rfl
@[simp] theorem enqueue_turns : (stack.enqueue actions).turns = stack.turns := rfl
@[simp] theorem note_queue : (stack.note service dependent started).queue = stack.queue := rfl
@[simp] theorem note_services :
    (stack.note service dependent started).services = stack.services := rfl
@[simp] theorem note_turns : (stack.note service dependent started).turns =
    stack.turns ++ [⟨service, dependent, stack.services, started⟩] := rfl
@[simp] theorem note_starts : (stack.note service dependent started).starts = stack.starts := rfl

end Stacks

/-- What the actions read. `answers` says for each start what comes of its
spawns. -/
structure StackEnv where
  base : ServiceEnv
  answers : Nat → Nat → SpawnAnswer

/-- What a start reads. -/
def StackEnv.at (env : StackEnv) (start : Nat) : ServiceEnv :=
  { env.base with answer := env.answers start }

/-- Every instance of the service is up, and there is one. -/
def Service.isHealthy (service : Service) : Bool :=
  !service.instances.isEmpty && !service.instances.any fun inst =>
    match inst.state with
    | .inactive | .stopping | .exited _ | .error _ => true
    | .active | .starting => false

/-- `as_one::<Service>("*", name)` -/
def Services.asOne (definitions : MetadataRegistry ServiceMetadata) (services : Services)
    (name : Ustr) : Option Service :=
  services.instances.lookup (definitions.instanceKey "*" name)

/-! ## Stopping -/

/-- The reconciliation that a stop queues: none while an instance is active. -/
def stopAnnouncement (name : Ustr) (service : Service) : List StackAction :=
  if service.instances.any (·.state = .active) then [] else [.reconcileStacks name .stopped]

theorem eq_of_mem_stopAnnouncement {name : Ustr} {service : Service} {action : StackAction}
    (member : action ∈ stopAnnouncement name service) :
    action = .reconcileStacks name .stopped := by
  rw [stopAnnouncement] at member
  split at member
  · contradiction
  · exact List.mem_singleton.mp member

/-- A queued `stop`. -/
def stopStack (env : ServiceEnv) (request : StopRequest) : Prog Stacks CoreError Unit :=
  fun stack =>
    match stop env request stack.services with
    | (.error error, services) => some (.error error, { stack with services })
    | (.ok (), services) =>
        let stopped := services.asOne env.metadata request.name
        some (.ok (), ({ stack with services } : Stacks).enqueue
          (stopped.elim [] (stopAnnouncement request.name)))

/-- Stop a dependent, where it is instantiated. -/
def Stacks.stopDependent (env : ServiceEnv) (dependent : Dependent) (stack : Stacks) : Stacks :=
  match stack.services.asOne env.metadata dependent.name with
  | none => stack
  | some service =>
      let (service, host) :=
        stopService env.now .graceful none none none service stack.services.host
      let key := env.metadata.instanceKey "*" dependent.name
      ({ stack with services :=
          { instances := stack.services.instances.insert key service, host } } : Stacks).enqueue
        (stopAnnouncement dependent.name service)

def Stacks.stopDependents (env : ServiceEnv) (dependents : List Dependent) (stack : Stacks) :
    Stacks :=
  dependents.foldl (fun stack dependent => stack.stopDependent env dependent) stack

/-! ## Starting -/

section Starting

variable [SerdeJson]

/-- Whether a dependent of a started service is to be started. -/
def startsDependent (env : ServiceEnv) (metadata : ServiceMetadata) (services : Services) : Bool :=
  metadata.startOn.all (·.all (conditionIsActive env.facets · none)) &&
    (metadata.after.getD []).any fun name =>
      (services.asOne env.metadata name).any Service.isHealthy

/-- Start a dependent of a started service, if it is to be started. -/
def considerDependent (env : StackEnv) (call : StartRequest → Prog Stacks CoreError Unit)
    (service : Ustr) (dependent : Dependent) : Prog Stacks CoreError Unit := do
  let starts ← Prog.read fun stack =>
    startsDependent env.base dependent.metadata stack.services
  Prog.change (Stacks.note service dependent starts)
  if starts then call (.plain dependent.name) else pure ()

/-- Whether the event is the end of a service that is waited for. -/
def waitCompleted (definitions : MetadataRegistry ServiceMetadata) (service : Ustr)
    (action : ServiceEventKind) : Bool :=
  action == .exited 0 && (definitions.find "*" service).any (·.type == .wait)

/-- `reconcile_stacks`, given `__runtime_start`. -/
def reconcileStacks (env : StackEnv) (call : StartRequest → Prog Stacks CoreError Unit)
    (service : Ustr) (action : ServiceEventKind) : Prog Stacks CoreError Unit :=
  let serviceName := instanceKeyName service
  let dependents := dependentsOf env.base.metadata serviceName
  match action with
  | .started => Prog.each dependents (considerDependent env call serviceName)
  | .failed | .stopped | .exited _ =>
      if waitCompleted env.base.metadata serviceName action then pure ()
      else Prog.each dependents fun dependent =>
        Prog.change (Stacks.stopDependent env.base dependent)

variable [TomlText]

/-- What a start leads to. -/
inductive FollowUp where
  /-- The service runs already, or could not be started. -/
  | nothing
  /-- The start is queued again. -/
  | again
  /-- The start is announced, and before that the announcement is `queued`. -/
  | announce (queued : Bool)
  deriving DecidableEq, Repr

/-- What the start of a service leads to. -/
def followUp (env : ServiceEnv) (request : StartRequest) (services : Services) : FollowUp :=
  match env.metadata.instantiateOne Service.new "*" request.name services.instances with
  | none => .nothing
  | some (_, service) =>
      if !request.deferred && service.metadata.registersTransport then .again
      else
        let spawns (ctx : Option ServiceBranchContext) : Bool :=
          (spawnAll env service ctx (ensureScopedName request.name) services.host).1.isOk
        match request.branchCtx, request.onlyUser with
        | some ctx, _ =>
            if (ctx.key.any fun key =>
                service.instances.any fun inst => inst.key == key && inst.state.isRunning) ||
                !spawns (some ctx) then
              .nothing
            else .announce false
        | none, some user =>
            if spawns (some ⟨none, none, some user⟩) then .announce false else .nothing
        -- also where the service was held back or has failed
        | none, none => .announce (!service.holdsSingleton && spawns none)

/-- Start the service itself. -/
def launchStack (env : StackEnv) (request : StartRequest) : Prog Stacks CoreError Unit :=
  fun stack =>
    let (result, services) := start (env.at stack.starts) request stack.services
    some (result, { stack with services, starts := stack.starts + 1 })

/-- What follows the start itself. -/
def followStart (env : StackEnv) (call : StartRequest → Prog Stacks CoreError Unit)
    (request : StartRequest) : FollowUp → Prog Stacks CoreError Unit
  | .nothing => pure ()
  | .again => Prog.change (Stacks.enqueue [.start { request with deferred := true }])
  | .announce true => do
      Prog.change (Stacks.enqueue [.reconcileStacks (ensureScopedName request.name) .started])
      reconcileStacks env call (ensureScopedName request.name) .started
  | .announce false => reconcileStacks env call (ensureScopedName request.name) .started

/-- `__runtime_start` with what it leads to. -/
def startStack (env : StackEnv) : Prog.Body Stacks CoreError StartRequest := fun call request => do
  let next ← Prog.read fun stack => followUp (env.at stack.starts) request stack.services
  launchStack env request
  followStart env call request next

/-! ## Handling the queue -/

/-- Handle an action, with at most `depth` nested starts. -/
def handleAction (env : StackEnv) (depth : Nat) : StackAction → Prog Stacks CoreError Unit
  | .start request => Prog.iterate (startStack env) depth request
  | .stop request => stopStack env.base request
  | .reconcileStacks service action =>
      reconcileStacks env (Prog.iterate (startStack env) depth) service action

/-- An action is taken out of the queue and handled, and its error is logged. The
runtimes take the first one, which `fifo` demands. -/
inductive Handles (env : StackEnv) (fifo : Prop) (stack next : Stacks) : Prop where
  | action (front back : List StackAction) (action : StackAction)
      (taken : stack.queue = front ++ action :: back) (order : fifo → front = [])
      (depth : Nat) (result : Except CoreError Unit)
      (ran : handleAction env depth action { stack with queue := front ++ back } =
        some (result, next))

/-- However the queue is worked off, every action is handled and the queue runs
empty. -/
inductive Settles (env : StackEnv) (fifo : Prop) : Stacks → Prop where
  | intro (stack : Stacks) (proceeds : stack.queue ≠ [] → ∃ next, Handles env fifo stack next)
      (settles : ∀ next, Handles env fifo stack next → Settles env fifo next) :
      Settles env fifo stack

end Starting

/-! ## What the actions do -/

/-- A service lists another one in `after`. -/
def Follows (definitions : MetadataRegistry ServiceMetadata) (source target : Ustr) : Prop :=
  ∃ dependent ∈ dependentsOf definitions source, instanceKeyName dependent.name = target

/-- An action has put such actions at the end of the queue. -/
def Queues (fresh : StackAction → Prop) (before after : Stacks) : Prop :=
  ∃ queued, after.queue = before.queue ++ queued ∧ ∀ action ∈ queued, fresh action

namespace Queues

variable {fresh : StackAction → Prop} {first second third : Stacks}

theorem of_eq (same : second.queue = first.queue) : Queues fresh first second :=
  ⟨[], by rw [same, List.append_nil], by simp⟩

theorem enqueue {action : StackAction} (holds : fresh action) :
    Queues fresh first (first.enqueue [action]) :=
  ⟨[action], rfl, by simpa using holds⟩

theorem trans (left : Queues fresh first second) (right : Queues fresh second third) :
    Queues fresh first third := by
  obtain ⟨queued, second_eq, holds⟩ := left
  obtain ⟨queued', third_eq, holds'⟩ := right
  refine ⟨queued ++ queued', by rw [third_eq, second_eq, List.append_assoc], ?_⟩
  intro action member
  rcases List.mem_append.mp member with member | member
  · exact holds action member
  · exact holds' action member

/-- Queueing such actions is structural. -/
theorem rule (fresh : StackAction → Prop) :
    Prog.Rule (Prog.Within (ε := CoreError) (fun _ => True) (Queues fresh)) :=
  Prog.Within.rule (fun _ => of_eq rfl) fun _ _ _ => trans

end Queues

/-- After a stop without a filter no instance is active. -/
theorem ChildInstance.stopped_state (inst : ChildInstance) :
    (inst.stopped none none).state = if inst.handle.isSome then .stopping else .inactive := by
  rw [ChildInstance.stopped, if_pos inst.concerns_none]
  cases inst.handle <;> rfl

/-- A stop without a filter is announced. -/
theorem stopAnnouncement_of_stopped (name : Ustr) {insts : List ChildInstance} {service : Service}
    (all : service.instances = insts.map (·.stopped none none)) :
    stopAnnouncement name service = [.reconcileStacks name .stopped] := by
  rw [stopAnnouncement, if_neg]
  simp only [all, List.any_map, List.any_eq_true, not_exists, not_and]
  intro inst _
  rw [Function.comp_apply, inst.stopped_state]
  cases inst.handle <;> simp

/-- What the stop of a dependent does. -/
inductive DependentStop (env : ServiceEnv) (dependent : Dependent) (stack : Stacks) :
    Stacks → Prop where
  | absent (missing : stack.services.asOne env.metadata dependent.name = none) :
      DependentStop env dependent stack stack
  | stopped (service : Service) (lastState : ServiceState)
      (found : stack.services.asOne env.metadata dependent.name = some service) :
      DependentStop env dependent stack
        (({ stack with services := {
            instances := stack.services.instances.insert
              (env.metadata.instanceKey "*" dependent.name)
              { service with
                instances := service.instances.map (·.stopped none none)
                lastState }
            host := stopProcesses env.now .graceful (service.stoppedPids none none none)
              stack.services.host } } : Stacks).enqueue
          [.reconcileStacks dependent.name .stopped])

theorem stopDependent_cases (env : ServiceEnv) (dependent : Dependent) (stack : Stacks) :
    DependentStop env dependent stack (stack.stopDependent env dependent) := by
  cases found : stack.services.asOne env.metadata dependent.name with
  | none =>
      simp only [Stacks.stopDependent, found]
      exact .absent found
  | some service =>
      obtain ⟨lastState, stopped⟩ := stopService_eq env.now .graceful none none none service
        stack.services.host
      have announced : stopAnnouncement dependent.name { service with
          instances := service.stoppedInstances none none none, lastState } = _ :=
        stopAnnouncement_of_stopped dependent.name rfl
      simp only [Stacks.stopDependent, found, stopped, announced]
      exact .stopped service lastState found

/-- Stopping dependents instantiates nothing. -/
theorem isSome_stopDependent (env : ServiceEnv) (dependent : Dependent) (stack : Stacks)
    (key : Ustr) :
    ((stack.stopDependent env dependent).services.instances.lookup key).isSome =
      (stack.services.instances.lookup key).isSome := by
  have stopped := stopDependent_cases env dependent stack
  generalize stack.stopDependent env dependent = after at stopped ⊢
  cases stopped with
  | absent missing => rfl
  | stopped service lastState found =>
      rw [Stacks.enqueue_services]
      by_cases same : key = env.metadata.instanceKey "*" dependent.name
      · subst same
        rw [AList.lookup_insert, Option.isSome_some]
        exact (congrArg Option.isSome found).symm
      · rw [AList.lookup_insert_ne same]

theorem isSome_stopDependents (env : ServiceEnv) (dependents : List Dependent) (stack : Stacks)
    (key : Ustr) :
    ((stack.stopDependents env dependents).services.instances.lookup key).isSome =
      (stack.services.instances.lookup key).isSome := by
  induction dependents generalizing stack with
  | nil => rfl
  | cons dependent rest ih => exact (ih _).trans (isSome_stopDependent env dependent stack key)

/-- Stopping dependents queues a reconciliation for each one that is
instantiated. -/
theorem stopDependents_queue (env : ServiceEnv) (dependents : List Dependent) (stack : Stacks) :
    (stack.stopDependents env dependents).queue = stack.queue ++
      (dependents.filter fun dependent =>
        (stack.services.asOne env.metadata dependent.name).isSome).map
          fun dependent => .reconcileStacks dependent.name .stopped := by
  induction dependents generalizing stack with
  | nil => exact (List.append_nil _).symm
  | cons dependent rest ih =>
      have kept (other : Dependent) :
          ((stack.stopDependent env dependent).services.asOne env.metadata other.name).isSome =
            (stack.services.asOne env.metadata other.name).isSome :=
        isSome_stopDependent env dependent stack _
      have later : stack.stopDependents env (dependent :: rest) =
          (stack.stopDependent env dependent).stopDependents env rest := rfl
      rw [later, ih, List.filter_congr fun other _ => kept other]
      have stopped := stopDependent_cases env dependent stack
      generalize stack.stopDependent env dependent = after at stopped ⊢
      cases stopped with
      | absent missing => simp [missing]
      | stopped service lastState found => simp [found]

/-- The service a stop leaves. -/
def Service.afterStop (request : StopRequest) (lastState : ServiceState) (service : Service) :
    Service :=
  { service with
    instances := service.stoppedInstances none request.onlyUser request.index
    lastState }

/-- What a queued `stop` does. -/
inductive StackStop (env : ServiceEnv) (request : StopRequest) (stack : Stacks) :
    Except CoreError Unit × Stacks → Prop where
  | missing (error : CoreError)
      (absent : env.metadata.instantiateOne Service.new "*" request.name
        stack.services.instances = none) :
      StackStop env request stack (.error error, stack)
  | stopped (service : Service) (lastState : ServiceState)
      (found : env.metadata.instantiateOne Service.new "*" request.name
        stack.services.instances = some (env.metadata.instanceKey "*" request.name, service)) :
      StackStop env request stack (.ok (),
        ({ stack with services := {
            instances := stack.services.instances.insert
              (env.metadata.instanceKey "*" request.name) (service.afterStop request lastState)
            host := stopProcesses env.now request.mode
              (service.stoppedPids none request.onlyUser request.index)
              stack.services.host } } : Stacks).enqueue
          (stopAnnouncement request.name (service.afterStop request lastState)))

theorem stopStack_cases (env : ServiceEnv) (request : StopRequest) (stack : Stacks) :
    ∃ outcome, stopStack env request stack = some outcome ∧
      StackStop env request stack outcome := by
  have stopped := stop_cases env request stack.services
  rw [stopStack]
  generalize stop env request stack.services = result at stopped ⊢
  cases stopped with
  | missing error absent => exact ⟨_, rfl, .missing error absent⟩
  | stopped key service lastState found =>
      obtain ⟨rfl, -⟩ := MetadataRegistry.instantiateOne_cases found
      refine ⟨_, rfl, ?_⟩
      simp only [Services.asOne, AList.lookup_insert, Option.elim_some]
      exact .stopped service lastState found

section Structure

variable [SerdeJson] {env : StackEnv} {call : StartRequest → Prog Stacks CoreError Unit}
  {holds : Prog Stacks CoreError Unit → Prop}

/-- What passes through the structure of programs holds of a reconciliation if it
does of its parts. -/
theorem reconcileStacks_rule (rule : Prog.Rule holds) {service : Ustr} {action : ServiceEventKind}
    (notes : ∀ dependent started,
      holds (Prog.change (Stacks.note (instanceKeyName service) dependent started)))
    (calls : action = .started →
      ∀ dependent ∈ dependentsOf env.base.metadata (instanceKeyName service),
        holds (call (.plain dependent.name)))
    (stops : action ≠ .started →
      ∀ dependent ∈ dependentsOf env.base.metadata (instanceKeyName service),
        holds (Prog.change (Stacks.stopDependent env.base dependent))) :
    holds (reconcileStacks env call service action) := by
  have stopping (other : action ≠ .started) :
      holds (if waitCompleted env.base.metadata (instanceKeyName service) action then pure ()
        else Prog.each (dependentsOf env.base.metadata (instanceKeyName service)) fun dependent =>
          Prog.change (Stacks.stopDependent env.base dependent)) := by
    split
    · exact rule.pure
    · exact rule.each (stops other)
  cases action with
  | started =>
      apply rule.each
      intro dependent listed
      apply rule.read
      intro stack
      apply rule.bind (notes dependent _)
      split
      · exact calls rfl dependent listed
      · exact rule.pure
  | exited code => exact stopping nofun
  | stopped => exact stopping nofun
  | failed => exact stopping nofun

/-- Handling the stop of a service stops its dependents. -/
theorem reconcileStacks_stopped (service : Ustr) (stack : Stacks) :
    reconcileStacks env call service .stopped stack =
      some (.ok (), stack.stopDependents env.base
        (dependentsOf env.base.metadata (instanceKeyName service))) :=
  Prog.run_each_change _ _ stack

variable [TomlText]

theorem followUp_again {env : ServiceEnv} {request : StartRequest} {services : Services}
    (again : followUp env request services = .again) : request.deferred = false := by
  rw [followUp] at again
  split at again
  · contradiction
  · split at again
    · next later =>
        rw [Bool.and_eq_true, Bool.not_eq_true'] at later
        exact later.1
    · dsimp only at again
      split at again
      · split at again <;> contradiction
      · split at again <;> contradiction
      · contradiction

/-- A start fails exactly where its service is not found. -/
theorem start_found (env : ServiceEnv) (request : StartRequest) (services : Services) :
    if (env.metadata.instantiateOne Service.new "*" request.name services.instances).isSome then
      ∃ started, start env request services = (.ok (), started)
    else ∃ error, start env request services = (.error error, services) := by
  cases one : env.metadata.instantiateOne Service.new "*" request.name services.instances with
  | none => exact ⟨_, by rw [start, one]⟩
  | some entry =>
      rw [if_pos Option.isSome_some]
      simp only [start, one]
      split <;> exact ⟨_, rfl⟩

/-- A start that does not fail goes on with what it leads to. -/
theorem startStack_run {request : StartRequest} {stack : Stacks} {services : Services}
    (started : start (env.at stack.starts) request stack.services = (.ok (), services)) :
    startStack env call request stack =
      followStart env call request (followUp (env.at stack.starts) request stack.services)
        { stack with services, starts := stack.starts + 1 } := by
  rw [startStack, Prog.run_read_bind, Prog.run_bind, launchStack, started]

theorem startStack_failed {request : StartRequest} {stack : Stacks} {services : Services}
    {error : CoreError}
    (failed : start (env.at stack.starts) request stack.services = (.error error, services)) :
    startStack env call request stack =
      some (.error error, { stack with services, starts := stack.starts + 1 }) := by
  rw [startStack, Prog.run_read_bind, Prog.run_bind, launchStack, failed]

omit [TomlText] in
/-- The same of what follows a start. -/
theorem followStart_rule (rule : Prog.Rule holds) {request : StartRequest} {next : FollowUp}
    (again : next = .again →
      holds (Prog.change (Stacks.enqueue [.start { request with deferred := true }])))
    (announces : holds (Prog.change (Stacks.enqueue
      [.reconcileStacks (ensureScopedName request.name) .started])))
    (reconciles : holds (reconcileStacks env call (ensureScopedName request.name) .started)) :
    holds (followStart env call request next) := by
  match next with
  | .nothing => exact rule.pure
  | .again => exact again rfl
  | .announce true => exact rule.bind announces reconciles
  | .announce false => exact reconciles

/-- The same of a start. -/
theorem startStack_rule (rule : Prog.Rule holds) {request : StartRequest}
    (launches : holds (launchStack env request))
    (again : request.deferred = false →
      holds (Prog.change (Stacks.enqueue [.start { request with deferred := true }])))
    (announces : holds (Prog.change (Stacks.enqueue
      [.reconcileStacks (ensureScopedName request.name) .started])))
    (reconciles : holds (reconcileStacks env call (ensureScopedName request.name) .started)) :
    holds (startStack env call request) := by
  apply rule.read
  intro stack
  apply rule.bind launches
  exact followStart_rule rule (fun next => again (followUp_again next)) announces reconciles

end Structure

end Rind
