import Rind.Services.Stacks

/-!
# Cycles

Starting a service starts the services that come after it, and stopping one stops
them: both follow the graph of `after` lists.  Both finish in every state exactly
if that graph has no cycle.
-/

namespace Rind

open Prog

/-- No service comes, over others or by itself, after itself. -/
def Acyclic (definitions : MetadataRegistry ServiceMetadata) : Prop :=
  ∀ name, ¬ Relation.TransGen (Follows definitions) name name

section Cycles

variable [SerdeJson] [TomlText] {env : StackEnv}

/-- In every state every start finishes, and so does the queue after a stop. -/
structure Terminating (definitions : MetadataRegistry ServiceMetadata) : Prop where
  starts : ∀ env : StackEnv, env.base.metadata = definitions → ∀ request stack,
    ∃ depth, (iterate (startStack env) depth request stack).isSome
  stops : ∀ env : StackEnv, env.base.metadata = definitions → ∀ request stack result final,
    stopStack env.base request stack = some (result, final) → Settles env True final

/-! ## Without a cycle -/

/-- How much there is after a service. -/
noncomputable def rank (definitions : MetadataRegistry ServiceMetadata) (name : Ustr) : Nat :=
  (reachable (Follows definitions)
    ((allDependents definitions).map (instanceKeyName ·.name)).toFinset name).card

/-- How much there is after the service of a start. -/
noncomputable def startRank (definitions : MetadataRegistry ServiceMetadata)
    (request : StartRequest) : Nat :=
  rank definitions (instanceKeyName request.name)

omit [SerdeJson] [TomlText] in
theorem rank_lt {definitions : MetadataRegistry ServiceMetadata} (acyclic : Acyclic definitions)
    {source target : Ustr} (follows : Follows definitions source target) :
    rank definitions target < rank definitions source := by
  apply card_reachable_lt _ acyclic follows
  rintro source _ ⟨dependent, listed, rfl⟩
  rw [List.mem_toFinset]
  exact List.mem_map_of_mem (List.mem_of_mem_filter listed)

theorem launchStack_halts (request : StartRequest) :
    Halts (fun _ => True) (launchStack env request) :=
  fun _ _ => ⟨_, _, rfl, trivial⟩

omit [TomlText] in
theorem reconcileStacks_halts {call : StartRequest → Prog Stacks CoreError Unit} {service : Ustr}
    {action : ServiceEventKind}
    (calls : ∀ dependent ∈ dependentsOf env.base.metadata (instanceKeyName service),
      Halts (fun _ => True) (call (.plain dependent.name))) :
    Halts (fun _ => True) (reconcileStacks env call service action) :=
  reconcileStacks_rule Halts.rule (fun _ _ => Halts.change fun _ => id) (fun _ => calls)
    fun _ _ _ => Halts.change fun _ => id

/-- A start finishes within as many nested starts as there are services after
it. -/
theorem startStack_halts (acyclic : Acyclic env.base.metadata) {depth : Nat}
    {request : StartRequest}
    (enough : startRank env.base.metadata request < depth) :
    Halts (fun _ => True) (iterate (startStack env) depth request) := by
  refine iterate_halts_of_rank (startRank env.base.metadata) ?_ enough
  intro request call ih
  apply startStack_rule Halts.rule (launchStack_halts request)
  · exact fun _ => Halts.change fun _ => id
  · exact Halts.change fun _ => id
  · apply reconcileStacks_halts
    intro dependent listed
    rw [instanceKeyName_ensureScopedName] at listed
    exact ih _ (rank_lt acyclic ⟨dependent, listed, rfl⟩)

/-- Handling an action finishes. -/
theorem handleAction_halts (acyclic : Acyclic env.base.metadata) (action : StackAction)
    (stack : Stacks) :
    ∃ depth result final, handleAction env depth action stack = some (result, final) := by
  have halts : ∃ depth, Halts (fun _ => True) (handleAction env depth action) := by
    cases action with
    | start request =>
        exact ⟨startRank env.base.metadata request + 1, startStack_halts acyclic (Nat.lt_add_one _)⟩
    | stop request =>
        refine ⟨0, fun stack _ => ?_⟩
        simp only [handleAction, stopStack]
        split <;> exact ⟨_, _, rfl, trivial⟩
    | reconcileStacks service kind =>
        refine ⟨rank env.base.metadata (instanceKeyName service), ?_⟩
        apply reconcileStacks_halts
        intro dependent listed
        exact startStack_halts acyclic (rank_lt acyclic ⟨dependent, listed, rfl⟩)
  obtain ⟨depth, halts⟩ := halts
  obtain ⟨result, final, ran, -⟩ := halts stack trivial
  exact ⟨depth, result, final, ran⟩

/-- An action is above the actions it queues: those of services after its own,
and its own in another form. -/
noncomputable def level (definitions : MetadataRegistry ServiceMetadata) : StackAction → Nat
  | .start request =>
      3 * rank definitions (instanceKeyName request.name) + if request.deferred then 1 else 2
  | .stop request => 3 * rank definitions (instanceKeyName request.name) + 1
  | .reconcileStacks service _ => 3 * rank definitions (instanceKeyName service)

/-- An action has queued actions below a level. -/
def QueuesBelow (definitions : MetadataRegistry ServiceMetadata) (bound : Nat) :
    Stacks → Stacks → Prop :=
  Queues fun action => level definitions action < bound

omit [TomlText] in
theorem reconcileStacks_queuesBelow (acyclic : Acyclic env.base.metadata)
    {call : StartRequest → Prog Stacks CoreError Unit} {service : Ustr}
    {action : ServiceEventKind} {bound : Nat}
    (bounded : level env.base.metadata (.reconcileStacks service action) ≤ bound)
    (calls : ∀ dependent ∈ dependentsOf env.base.metadata (instanceKeyName service),
      Within (fun _ => True) (QueuesBelow env.base.metadata bound)
        (call (.plain dependent.name))) :
    Within (fun _ => True) (QueuesBelow env.base.metadata bound)
      (reconcileStacks env call service action) := by
  apply reconcileStacks_rule (Queues.rule _)
  · intro dependent started stack _ result final ran
    cases ran
    exact ⟨trivial, Queues.of_eq rfl⟩
  · exact fun _ => calls
  · intro _ dependent listed stack _ result final ran
    cases ran
    refine ⟨trivial, ?_⟩
    have lower : rank env.base.metadata (instanceKeyName dependent.name) <
        rank env.base.metadata (instanceKeyName service) :=
      rank_lt acyclic ⟨dependent, listed, rfl⟩
    simp only [level] at bounded
    have stopped := stopDependent_cases env.base dependent stack
    generalize stack.stopDependent env.base dependent = final at stopped ⊢
    cases stopped with
    | absent missing => exact Queues.of_eq rfl
    | stopped found lastState known =>
        apply Queues.enqueue
        simp only [level]
        omega

theorem startStack_queuesBelow (acyclic : Acyclic env.base.metadata) (depth : Nat)
    {request : StartRequest} {bound : Nat}
    (bounded : level env.base.metadata (.start request) ≤ bound) :
    Within (fun _ => True) (QueuesBelow env.base.metadata bound)
      (iterate (startStack env) depth request) := by
  let good (request : StartRequest) : Prop := level env.base.metadata (.start request) ≤ bound
  suffices step : ∀ call : StartRequest → Prog Stacks CoreError Unit,
      (∀ c, good c → Within (fun _ => True) (QueuesBelow env.base.metadata bound) (call c)) →
        ∀ c, good c → Within (fun _ => True) (QueuesBelow env.base.metadata bound)
          (startStack env call c) from iterate_within step depth bounded
  clear bounded
  intro call ih request bounded
  unfold good at ih bounded
  simp only [level] at bounded ih
  apply startStack_rule (Queues.rule _)
  · intro stack _ result final ran
    cases ran
    exact ⟨trivial, Queues.of_eq rfl⟩
  · intro now stack _ result final ran
    cases ran
    refine ⟨trivial, Queues.enqueue ?_⟩
    rw [now] at bounded
    simp only [level]
    simp only [Bool.false_eq_true, if_false, if_true] at bounded ⊢
    omega
  · intro stack _ result final ran
    cases ran
    refine ⟨trivial, Queues.enqueue ?_⟩
    simp only [level, instanceKeyName_ensureScopedName]
    split at bounded <;> omega
  · apply reconcileStacks_queuesBelow acyclic
    · simp only [level, instanceKeyName_ensureScopedName]
      omega
    · intro dependent listed
      apply ih
      rw [instanceKeyName_ensureScopedName] at listed
      have lower : rank env.base.metadata (instanceKeyName dependent.name) <
          rank env.base.metadata (instanceKeyName request.name) :=
        rank_lt acyclic ⟨dependent, listed, rfl⟩
      simp only [StartRequest.plain, Bool.false_eq_true, if_false]
      split at bounded <;> omega

/-- Handling an action queues only actions below it. -/
theorem handleAction_queuesBelow (acyclic : Acyclic env.base.metadata) {depth : Nat}
    {action : StackAction} {stack final : Stacks} {result : Except CoreError Unit}
    (ran : handleAction env depth action stack = some (result, final)) :
    QueuesBelow env.base.metadata (level env.base.metadata action) stack final := by
  cases action with
  | start request =>
      exact (startStack_queuesBelow acyclic depth (Nat.le_refl _) stack trivial result final ran).2
  | stop request =>
      simp only [handleAction, stopStack] at ran
      split at ran
      · cases ran
        exact Queues.of_eq rfl
      · next services _ =>
          cases ran
          refine ⟨_, rfl, ?_⟩
          cases services.asOne env.base.metadata request.name with
          | none => simp
          | some service =>
              intro action member
              rw [eq_of_mem_stopAnnouncement member]
              exact Nat.lt_succ_self _
  | reconcileStacks service kind =>
      apply And.right
      refine reconcileStacks_queuesBelow acyclic (Nat.le_refl _) ?_ stack trivial result final ran
      intro dependent listed
      apply startStack_queuesBelow acyclic
      have lower : rank env.base.metadata (instanceKeyName dependent.name) <
          rank env.base.metadata (instanceKeyName service) :=
        rank_lt acyclic ⟨dependent, listed, rfl⟩
      simp only [level, StartRequest.plain, Bool.false_eq_true, if_false]
      omega

/-- However it is worked off, a queue runs empty. -/
theorem settles_of_acyclic (acyclic : Acyclic env.base.metadata) (fifo : Prop) (stack : Stacks) :
    Settles env fifo stack := by
  have takes : ∀ before after, Handles env fifo before after →
      Worklist.Takes Stacks.queue
        (fun action other => level env.base.metadata other < level env.base.metadata action)
        before after := by
    rintro before after ⟨front, back, action, taken, -, depth, result, ran⟩
    obtain ⟨queued, queue_eq, below⟩ := handleAction_queuesBelow acyclic ran
    exact ⟨front, action, back, queued, taken, queue_eq, below⟩
  induction stack using (Worklist.wellFounded_of_takes takes).induction with
  | _ stack ih =>
      refine .intro stack (fun nonempty => ?_) ih
      obtain ⟨action, back, taken⟩ := List.exists_cons_of_ne_nil nonempty
      obtain ⟨depth, result, next, ran⟩ :=
        handleAction_halts acyclic action { stack with queue := back }
      exact ⟨next, [], back, action, taken, fun _ => rfl, depth, result, ran⟩

/-! ## On a cycle -/

/-- Every definition is instantiated, no instance is active, and a service on a
cycle is among those whose dependents are to be stopped. -/
structure Stuck (env : StackEnv) (stack : Stacks) : Prop where
  stops : ∀ action ∈ stack.queue, ∃ name, action = .reconcileStacks name .stopped
  circular : ∃ name, .reconcileStacks name .stopped ∈ stack.queue ∧
    Relation.TransGen (Follows env.base.metadata) (instanceKeyName name) (instanceKeyName name)
  present : ∀ dependent ∈ allDependents env.base.metadata,
    (stack.services.asOne env.base.metadata dependent.name).isSome

/-- A stuck queue stays so when its first action is handled. -/
theorem Stuck.step {stack next : Stacks} (stuck : Stuck env stack)
    (handled : Handles env True stack next) : Stuck env next := by
  obtain ⟨front, back, action, taken, order, depth, result, ran⟩ := handled
  obtain rfl : front = [] := order trivial
  rw [List.nil_append] at taken ran
  obtain ⟨name, rfl⟩ := stuck.stops action (by rw [taken]; exact List.mem_cons_self)
  rw [handleAction, reconcileStacks_stopped] at ran
  cases ran
  let dependents := dependentsOf env.base.metadata (instanceKeyName name)
  have queue_eq := stopDependents_queue env.base dependents { stack with queue := back }
  have all : ∀ dependent ∈ dependents,
      (stack.services.asOne env.base.metadata dependent.name).isSome :=
    fun dependent listed => stuck.present dependent (List.mem_of_mem_filter listed)
  rw [List.filter_eq_self.mpr all] at queue_eq
  refine ⟨?_, ?_, ?_⟩
  · intro action member
    rw [queue_eq] at member
    rcases List.mem_append.mp member with member | member
    · exact stuck.stops action (by rw [taken]; exact List.mem_cons_of_mem _ member)
    · obtain ⟨dependent, -, rfl⟩ := List.mem_map.mp member
      exact ⟨_, rfl⟩
  · obtain ⟨other, member, cycle⟩ := stuck.circular
    rw [taken] at member
    rcases List.mem_cons.mp member with same | member
    · -- the next service on the cycle takes the place of the handled one
      cases same
      obtain ⟨target, ⟨dependent, listed, rfl⟩, path⟩ := Relation.TransGen.head'_iff.mp cycle
      refine ⟨dependent.name, ?_, ?_⟩
      · rw [queue_eq]
        exact List.mem_append_right _ (List.mem_map.mpr ⟨dependent, listed, rfl⟩)
      · exact Relation.TransGen.tail' path ⟨dependent, listed, rfl⟩
    · refine ⟨other, ?_, cycle⟩
      rw [queue_eq]
      exact List.mem_append_left _ member
  · intro dependent listed
    exact (isSome_stopDependents env.base dependents _ _).trans (stuck.present dependent listed)

theorem Stuck.not_settles {stack : Stacks} (stuck : Stuck env stack) :
    ¬ Settles env True stack := by
  intro settles
  induction settles with
  | intro stack proceeds _ ih =>
      obtain ⟨name, member, -⟩ := stuck.circular
      obtain ⟨next, handled⟩ := proceeds (List.ne_nil_of_mem member)
      exact ih next handled (stuck.step handled)

/-- A stop of all instances of a service. -/
def plainStop (name : Ustr) : StopRequest := { name, force := false, index := none, onlyUser := none }

omit [SerdeJson] [TomlText] in
/-- The stop of a service that is instantiated queues a reconciliation. -/
theorem stopStack_plain {name : Ustr} {stack : Stacks}
    (known : (stack.services.asOne env.base.metadata name).isSome) :
    ∃ final, stopStack env.base (plainStop name) stack = some (.ok (), final) ∧
      final.queue = stack.queue ++ [.reconcileStacks name .stopped] ∧
      ∀ other, (stack.services.asOne env.base.metadata other).isSome →
        (final.services.asOne env.base.metadata other).isSome := by
  obtain ⟨outcome, ran, stopped⟩ := stopStack_cases env.base (plainStop name) stack
  cases stopped with
  | missing error absent =>
      obtain ⟨service, found⟩ := Option.isSome_iff_exists.mp known
      have one := MetadataRegistry.instantiateOne_of_known Service.new rfl found
      cases one.symm.trans absent
  | stopped service lastState found =>
      refine ⟨_, ran, ?_, ?_⟩
      · exact congrArg (stack.queue ++ ·) (stopAnnouncement_of_stopped name rfl)
      · intro other present
        rw [Stacks.enqueue_services, Services.asOne, AList.lookup_isSome, AList.mem_insert,
          ← AList.lookup_isSome]
        exact .inr present

/-- Every definition with its instance. -/
def allInstantiated (definitions : MetadataRegistry ServiceMetadata) :
    AList fun _ : Ustr => Service :=
  (allDependents definitions).foldr (fun dependent instances =>
    instances.insert (definitions.instanceKey "*" dependent.name)
      (Service.new dependent.metadata)) ∅

omit [SerdeJson] [TomlText] in
theorem lookup_allInstantiated {definitions : MetadataRegistry ServiceMetadata}
    {dependent : Dependent} (listed : dependent ∈ allDependents definitions) :
    ((allInstantiated definitions).lookup (definitions.instanceKey "*" dependent.name)).isSome := by
  rw [allInstantiated]
  generalize allDependents definitions = dependents at listed ⊢
  induction dependents with
  | nil => cases listed
  | cons first rest ih =>
      rw [List.foldr_cons, AList.lookup_isSome, AList.mem_insert, ← AList.lookup_isSome]
      rcases List.mem_cons.mp listed with rfl | listed
      · exact .inl rfl
      · exact .inr (ih listed)

/-- A system with these definitions. -/
def definedEnv (definitions : MetadataRegistry ServiceMetadata) : StackEnv where
  base := { loneEnv workerService 0 with metadata := definitions }
  answers _ index := .created index none none

/-- Its state when every definition has an instance. -/
def instantiatedStack (definitions : MetadataRegistry ServiceMetadata) : Stacks where
  services := { Services.boot with instances := allInstantiated definitions }
  queue := []
  starts := 0
  turns := []

/-- The queue of a stop does not run empty on a cycle. -/
theorem not_settles_of_cycle {definitions : MetadataRegistry ServiceMetadata} {name : Ustr}
    (cycle : Relation.TransGen (Follows definitions) name name) :
    ∃ request result final,
      stopStack (definedEnv definitions).base request (instantiatedStack definitions) =
        some (result, final) ∧ ¬ Settles (definedEnv definitions) True final := by
  obtain ⟨source, -, dependent, listed, rfl⟩ := Relation.TransGen.tail'_iff.mp cycle
  have present : ∀ dependent ∈ allDependents definitions,
      ((instantiatedStack definitions).services.asOne (definedEnv definitions).base.metadata
        dependent.name).isSome :=
    fun _ => lookup_allInstantiated
  obtain ⟨final, ran, queue_eq, kept⟩ :=
    stopStack_plain (present dependent (List.mem_of_mem_filter listed))
  refine ⟨_, _, final, ran, Stuck.not_settles ⟨?_, ⟨dependent.name, ?_, cycle⟩, ?_⟩⟩
  · intro action member
    rw [queue_eq] at member
    exact ⟨_, List.mem_singleton.mp member⟩
  · rw [queue_eq]
    exact List.mem_append_right _ (List.mem_singleton_self _)
  · exact fun other member => kept other.name (present other member)

/-- The starts and stops of services finish in every state exactly if no service
comes after itself. -/
theorem terminating_iff (definitions : MetadataRegistry ServiceMetadata) :
    Terminating definitions ↔ Acyclic definitions := by
  constructor
  · intro terminating name cycle
    obtain ⟨request, result, final, ran, endless⟩ := not_settles_of_cycle cycle
    exact endless (terminating.stops (definedEnv definitions) rfl request _ _ _ ran)
  · intro acyclic
    refine ⟨?_, ?_⟩
    · rintro env rfl request stack
      obtain ⟨result, final, ran, -⟩ :=
        startStack_halts acyclic (Nat.lt_add_one _) stack trivial
      exact ⟨_, by rw [ran]; rfl⟩
    · rintro env rfl request stack result final ran
      exact settles_of_acyclic acyclic True final

/-- A start whose own service is the only one to be started then does not
finish: the service runs already, which is announced like a start. -/
theorem startStack_endless {name : Ustr} {service : Service} {dependent : Dependent}
    (held : service.holdsSingleton) (now : service.metadata.registersTransport = false)
    (itself : dependentsOf env.base.metadata (instanceKeyName name) = [dependent])
    (same : dependent.name = name)
    (starts : ∀ services : Services, services.asOne env.base.metadata name = some service →
      startsDependent env.base dependent.metadata services)
    (depth : Nat) {stack : Stacks}
    (known : stack.services.asOne env.base.metadata name = some service) :
    iterate (startStack env) depth (.plain name) stack = none := by
  induction depth generalizing stack with
  | zero => rfl
  | succ depth ih =>
      have one := MetadataRegistry.instantiateOne_of_known Service.new rfl known
      have next : followUp (env.at stack.starts) (.plain name) stack.services =
          .announce false := by
        simp [followUp, StackEnv.at, StartRequest.plain, one, now, held]
      have started : start (env.at stack.starts) (.plain name) stack.services =
          (.ok (), stack.services.store (env.base.metadata.instanceKey "*" name) service) := by
        simp [Services.store, start, startRequested, startService, StackEnv.at,
          StartRequest.plain, one, now, held]
      rw [iterate, startStack_run started, next, followStart]
      simp only [reconcileStacks, StartRequest.plain, instanceKeyName_ensureScopedName, itself,
        Prog.each_singleton]
      rw [considerDependent, Prog.run_read_bind, Prog.run_change_bind, if_pos, same]
      · exact ih (AList.lookup_insert _)
      · exact starts _ (AList.lookup_insert _)

end Cycles

/-! ## Small systems -/

/-- A service in the group `app`, after others. -/
def layer (name : Ustr) (after : List Ustr) : ServiceMetadata :=
  { workerService with name, after := some after }

/-- A database, and services after it. -/
def layerEnv (layers : List ServiceMetadata) : StackEnv :=
  definedEnv (.ofGroup "static" "app" (layer "db" [] :: layers))

/-- Services with their instances. -/
def runningStack (services : List (Ustr × ServiceMetadata × List ChildInstance)) : Stacks where
  services :=
    { Services.boot with
      instances := services.foldr (fun entry running =>
        running.insert entry.1
          { metadata := entry.2.1, instances := entry.2.2, lastState := .active }) ∅ }
  queue := []
  starts := 0
  turns := []

/-- A service that comes after itself. -/
def loopService : ServiceMetadata :=
  { workerService with name := "loop", singleton := true, after := some ["app:loop"] }

def loopDefinitions : MetadataRegistry ServiceMetadata := .ofGroup "static" "app" [loopService]

/-- The service with one running process. -/
def loopRunning : Service :=
  { metadata := loopService, instances := [.new "" none (some ⟨1⟩)], lastState := .active }

def loopStack : Stacks :=
  runningStack [("app:loop@static", loopService, [.new "" none (some ⟨1⟩)])]

open scoped Rind.Compact

/-- Neither does starting a service after itself finish, nor stopping it. -/
theorem not_terminating_loop : ¬ Terminating loopDefinitions ∧
    ∀ depth, iterate (startStack (definedEnv loopDefinitions)) depth (.plain "app:loop")
      loopStack = none := by
  have short : instanceKeyName "app:loop" = "app:loop" := by decide +kernel
  have itself : dependentsOf loopDefinitions "app:loop" = [⟨"static", "app", loopService⟩] := by
    decide +kernel
  constructor
  · intro terminating
    have cycle : Follows loopDefinitions "app:loop" "app:loop" := by
      refine ⟨⟨"static", "app", loopService⟩, ?_, by decide +kernel⟩
      rw [itself]
      exact List.mem_singleton_self _
    obtain ⟨request, result, final, ran, endless⟩ := not_settles_of_cycle (.single cycle)
    exact endless (terminating.stops (definedEnv loopDefinitions) rfl request _ _ _ ran)
  · intro depth
    have healthy : loopRunning.isHealthy := by decide +kernel
    have running : loopStack.services.asOne (definedEnv loopDefinitions).base.metadata "app:loop" =
        some loopRunning := by decide +kernel
    apply startStack_endless (by decide +kernel) (by decide +kernel) _ _ _ depth running
    · exact ⟨"static", "app", loopService⟩
    · exact (congrArg (dependentsOf loopDefinitions) short).trans itself
    · decide +kernel
    · intro services known
      have known : services.asOne (definedEnv loopDefinitions).base.metadata "app:loop" =
          some loopRunning := known
      simp [startsDependent, loopService, workerService, known, healthy]

end Rind
