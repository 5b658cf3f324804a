import Rind.Services.Cycles

/-!
# Stops for one user

A stop with `only_user` is about the instances of that user.  What it queues where
no instance of the service is active any more is not: the dependents are stopped
without a filter, and theirs in turn.  So the instances of other users are left
alone exactly if one of the service stays active, or if none of those that the
cascade reaches had anything left to stop.
-/

namespace Rind

open Prog

/-! ## Instances -/

/-- The instance at a position of a service. -/
def instanceAt (services : Services) (key : Ustr) (index : Nat) : Option ChildInstance :=
  (services.instances.lookup key).bind (·.instances[index]?)

/-- The state an instance is stopped into. -/
def ChildInstance.stopState (inst : ChildInstance) : ServiceState :=
  if inst.handle.isSome then .stopping else .inactive

/-- The services whose dependents are stopped when one has stopped. -/
inductive Cascade (env : ServiceEnv) (services : Services) (source : Ustr) : Ustr → Prop where
  | source : Cascade env services source source
  | dependent {middle : Ustr} (reached : Cascade env services source middle)
      (dependent : Dependent) (listed : dependent ∈ dependentsOf env.metadata middle)
      (known : (services.asOne env.metadata dependent.name).isSome) :
      Cascade env services source (instanceKeyName dependent.name)

/-- The key of a service that is stopped when one has stopped. -/
def Touched (env : ServiceEnv) (services : Services) (source key : Ustr) : Prop :=
  ∃ middle, Cascade env services source middle ∧
    ∃ dependent ∈ dependentsOf env.metadata middle,
      env.metadata.instanceKey "*" dependent.name = key

/-! ## The cascade -/

section Cascade

variable {env : ServiceEnv} {stack : Stacks} {services : Services} {source key : Ustr}

theorem instanceAt_stopDependent (dependent : Dependent) (index : Nat) :
    instanceAt (stack.stopDependent env dependent).services key index =
      (instanceAt stack.services key index).map fun inst =>
        if env.metadata.instanceKey "*" dependent.name = key then inst.stopped none none
        else inst := by
  have stopped := stopDependent_cases env dependent stack
  generalize stack.stopDependent env dependent = after at stopped ⊢
  by_cases same : env.metadata.instanceKey "*" dependent.name = key
  · subst same
    cases stopped with
    | absent missing =>
        rw [Services.asOne] at missing
        rw [instanceAt, missing]
        rfl
    | stopped service lastState found =>
        rw [Services.asOne] at found
        simp only [instanceAt, Stacks.enqueue_services, AList.lookup_insert, found,
          Option.bind_some, List.getElem?_map, if_true]
  · cases stopped with
    | absent missing => simp [same]
    | stopped service lastState found =>
        simp [instanceAt, AList.lookup_insert_ne (Ne.symm same), same]

/-- Stopping dependents stops every instance of them, and no other. -/
theorem instanceAt_stopDependents (dependents : List Dependent) (index : Nat) :
    instanceAt (stack.stopDependents env dependents).services key index =
      (instanceAt stack.services key index).map fun inst =>
        if ∃ dependent ∈ dependents, env.metadata.instanceKey "*" dependent.name = key then
          inst.stopped none none
        else inst := by
  induction dependents generalizing stack with
  | nil => simp [Stacks.stopDependents]
  | cons dependent rest ih =>
      have later : stack.stopDependents env (dependent :: rest) =
          (stack.stopDependent env dependent).stopDependents env rest := rfl
      rw [later, ih, instanceAt_stopDependent, Option.map_map]
      congr 1
      funext inst
      rw [Function.comp_apply]
      by_cases here : env.metadata.instanceKey "*" dependent.name = key
      · simp [here, inst.stopped_stopped none none]
      · simp [here]

/-- While the cascade goes on: only its reconciliations are queued, no service is
instantiated, and an instance is as it was, or belongs to a touched service and is
stopped. -/
structure Cascading (env : ServiceEnv) (source : Ustr) (services : Services) (stack : Stacks) :
    Prop where
  queue : ∀ action ∈ stack.queue, ∃ name, action = .reconcileStacks name .stopped ∧
    Cascade env services source (instanceKeyName name)
  known : ∀ key, (stack.services.instances.lookup key).isSome =
    (services.instances.lookup key).isSome
  instances : ∀ key index,
    instanceAt stack.services key index = instanceAt services key index ∨
      Touched env services source key ∧ instanceAt stack.services key index =
        (instanceAt services key index).map (·.stopped none none)

/-- Handling the first reconciliation stops all dependents. -/
theorem Cascading.handle {name : Ustr} {rest : List StackAction}
    (cascading : Cascading env source services stack)
    (taken : stack.queue = .reconcileStacks name .stopped :: rest) :
    Cascading env source services
      (Stacks.stopDependents env (dependentsOf env.metadata (instanceKeyName name))
        { stack with queue := rest }) := by
  obtain ⟨other, same, reached⟩ := cascading.queue _ (taken ▸ List.mem_cons_self)
  cases same
  refine ⟨?_, ?_, ?_⟩
  · intro action member
    rw [stopDependents_queue, List.mem_append] at member
    rcases member with member | member
    · exact cascading.queue action (taken ▸ List.mem_cons_of_mem _ member)
    · obtain ⟨dependent, listed, rfl⟩ := List.mem_map.mp member
      obtain ⟨listed, known⟩ := List.mem_filter.mp listed
      rw [Services.asOne, cascading.known] at known
      exact ⟨_, rfl, reached.dependent dependent listed known⟩
  · intro key
    rw [isSome_stopDependents]
    exact cascading.known key
  · intro key index
    rw [instanceAt_stopDependents]
    by_cases here : ∃ dependent ∈ dependentsOf env.metadata (instanceKeyName name),
        env.metadata.instanceKey "*" dependent.name = key
    · refine .inr ⟨⟨_, reached, here⟩, ?_⟩
      simp only [here, if_true]
      rcases cascading.instances key index with same | ⟨-, same⟩
      · rw [same]
      · rw [same, Option.map_map]
        exact congrArg (Option.map · _) (funext fun inst => inst.stopped_stopped none none)
    · simp only [here, if_false, Option.map_id']
      exact cascading.instances key index

end Cascade

section Runs

variable [SerdeJson] [TomlText] {env : StackEnv} {stack next : Stacks} {services : Services}
  {source : Ustr}

/-- A step of the cascade stops the dependents of a service. -/
theorem Cascading.step (cascading : Cascading env.base source services stack)
    (handled : Handles env True stack next) : Cascading env.base source services next := by
  obtain ⟨front, rest, action, taken, order, depth, result, ran⟩ := handled
  obtain rfl : front = [] := order trivial
  rw [List.nil_append] at taken ran
  obtain ⟨name, rfl, -⟩ := cascading.queue action (taken ▸ List.mem_cons_self)
  rw [handleAction, reconcileStacks_stopped] at ran
  cases ran
  exact cascading.handle taken

theorem Cascading.run (cascading : Cascading env.base source services stack)
    (ran : Relation.ReflTransGen (Handles env True) stack next) :
    Cascading env.base source services next := by
  induction ran with
  | refl => exact cascading
  | tail _ handled ih => exact ih.step handled

/-- The first reconciliation of a queue can be handled. -/
theorem handles_first {name : Ustr} {rest : List StackAction}
    (taken : stack.queue = .reconcileStacks name .stopped :: rest) :
    Handles env True stack (Stacks.stopDependents env.base
      (dependentsOf env.base.metadata (instanceKeyName name)) { stack with queue := rest }) := by
  refine ⟨[], rest, _, taken, fun _ => rfl, 0, .ok (), ?_⟩
  rw [handleAction]
  exact reconcileStacks_stopped name _

/-- The cascade comes to every service that it is said to reach. -/
theorem Cascading.reaches (cascading : Cascading env.base source services stack) {name : Ustr}
    (starts : .reconcileStacks name .stopped ∈ stack.queue) (own : instanceKeyName name = source)
    {middle : Ustr} (reached : Cascade env.base services source middle) :
    ∃ later other rest, Relation.ReflTransGen (Handles env True) stack later ∧
      later.queue = .reconcileStacks other .stopped :: rest ∧ instanceKeyName other = middle := by
  have comes {stack : Stacks} (cascading : Cascading env.base source services stack) {name : Ustr}
      (listed : .reconcileStacks name .stopped ∈ stack.queue) :
      ∃ later rest, Relation.ReflTransGen (Handles env True) stack later ∧
        Cascading env.base source services later ∧
        later.queue = .reconcileStacks name .stopped :: rest := by
    refine Worklist.comes_to ?_ cascading listed
    intro stack cascading action rest taken
    obtain ⟨name, rfl, -⟩ := cascading.queue action (taken ▸ List.mem_cons_self)
    exact ⟨_, _, handles_first taken, stopDependents_queue _ _ _, cascading.handle taken⟩
  induction reached with
  | source =>
      obtain ⟨later, rest, ran, -, taken⟩ := comes cascading starts
      exact ⟨later, name, rest, ran, taken, own⟩
  | dependent reached dependent listed known ih =>
      obtain ⟨later, other, rest, ran, taken, rfl⟩ := ih
      have cascading := cascading.run ran
      have handled : Handles env True _ _ := handles_first taken
      have queued : .reconcileStacks dependent.name .stopped ∈ (Stacks.stopDependents env.base
          (dependentsOf env.base.metadata (instanceKeyName other))
          { later with queue := rest }).queue := by
        rw [stopDependents_queue, List.mem_append]
        refine .inr (List.mem_map.mpr ⟨dependent, List.mem_filter.mpr ⟨listed, ?_⟩, rfl⟩)
        rw [Services.asOne, cascading.known]
        exact known
      obtain ⟨last, rest, ran', -, taken⟩ := comes (cascading.handle taken) queued
      exact ⟨last, dependent.name, rest, ran.trans (.head handled ran'), taken, rfl⟩

/-- Such instances have kept their states. -/
def Spares (foreign : ChildInstance → Prop) (before after : Services) : Prop :=
  ∀ key index inst, instanceAt before key index = some inst → foreign inst →
    ∃ other, instanceAt after key index = some other ∧ other.state = inst.state

/-- Such instances of the touched services have nothing left to stop. -/
def Stopped (env : ServiceEnv) (foreign : ChildInstance → Prop) (services : Services)
    (source : Ustr) : Prop :=
  ∀ key, Touched env services source key → ∀ index inst,
    instanceAt services key index = some inst → foreign inst → inst.state = inst.stopState

theorem spares_iff_stopped {foreign : ChildInstance → Prop} {name : Ustr}
    (queued : stack.queue = [.reconcileStacks name .stopped]) :
    (∀ later, Relation.ReflTransGen (Handles env True) stack later →
        Spares foreign stack.services later.services) ↔
      Stopped env.base foreign stack.services (instanceKeyName name) := by
  have cascading : Cascading env.base (instanceKeyName name) stack.services stack := by
    refine ⟨?_, fun _ => rfl, fun _ _ => .inl rfl⟩
    intro action member
    rw [queued] at member
    exact ⟨name, List.mem_singleton.mp member, .source⟩
  constructor
  · rintro spares key ⟨middle, reached, dependent, listed, rfl⟩ index inst at_ own
    obtain ⟨later, other, rest, ran, taken, rfl⟩ :=
      cascading.reaches (by rw [queued]; exact List.mem_singleton_self _) rfl reached
    have handled : Handles env True _ _ := handles_first taken
    obtain ⟨final, final_at, same⟩ := spares _ (ran.tail handled) _ index inst at_ own
    have here : ∃ follower ∈ dependentsOf env.base.metadata (instanceKeyName other),
        env.base.metadata.instanceKey "*" follower.name =
          env.base.metadata.instanceKey "*" dependent.name := ⟨dependent, listed, rfl⟩
    have final_eq : final = inst.stopped none none := by
      rw [instanceAt_stopDependents] at final_at
      simp only [here, if_true] at final_at
      rcases (cascading.run ran).instances _ index with kept | ⟨-, kept⟩
      · rw [kept, at_] at final_at
        exact (Option.some.inj final_at).symm
      · rw [kept, at_, Option.map_some, Option.map_some, inst.stopped_stopped none none] at final_at
        exact (Option.some.inj final_at).symm
    rw [← same, final_eq]
    exact inst.stopped_state
  · intro stopped later ran key index inst at_ own
    rcases (cascading.run ran).instances key index with same | ⟨touched, same⟩
    · exact ⟨inst, same.trans at_, rfl⟩
    · refine ⟨inst.stopped none none, by rw [same, at_]; rfl, ?_⟩
      rw [stopped key touched index inst at_ own]
      exact inst.stopped_state

/-! ## The stop -/

/-- An instance that a stop for a user is not about. -/
def Foreign (user : Ustr) (inst : ChildInstance) : Prop := inst.concerns none (some user) = false

/-- After the stop, and whatever of what it queues has been handled, the instances
of others have the states they had before. -/
def StopSpares (env : StackEnv) (request : StopRequest) (user : Ustr) (stack : Stacks) : Prop :=
  ∀ result final, stopStack env.base request stack = some (result, final) →
    ∀ later, Relation.ReflTransGen (Handles env True) final later →
      Spares (Foreign user) stack.services later.services

omit [SerdeJson] [TomlText] in
theorem instanceKeyName_instanceKey (definitions : MetadataRegistry ServiceMetadata)
    (name : Ustr) : instanceKeyName (definitions.instanceKey "*" name) = instanceKeyName name := by
  rw [MetadataRegistry.instanceKey]
  split
  · rfl
  · next bare =>
      rw [instanceKeyName_of_notMem bare]
      apply instanceKeyName_of_append bare
      rw [String.toList_append, String.toList_append, List.append_assoc]
      rfl

/-- Whether a stop is about an instance at a position. -/
def StopRequest.isAbout (request : StopRequest) (index : Nat) (inst : ChildInstance) : Bool :=
  request.index.all (· == index) && inst.concerns none request.onlyUser

omit [SerdeJson] [TomlText] in
theorem getElem?_stoppedInstances (request : StopRequest) (service : Service) (index : Nat) :
    (service.stoppedInstances none request.onlyUser request.index)[index]? =
      service.instances[index]?.map fun inst =>
        if request.isAbout index inst then
          { inst with
            state := inst.stopState
            manuallyStopped := inst.handle.isSome || inst.manuallyStopped }
        else inst := by
  have stopped (inst : ChildInstance) : inst.stopped none request.onlyUser =
      if inst.concerns none request.onlyUser then
        { inst with
          state := inst.stopState
          manuallyStopped := inst.handle.isSome || inst.manuallyStopped }
      else inst := by
    rw [ChildInstance.stopped, ChildInstance.stopState]
    split
    · cases held : inst.handle <;> simp [ChildInstance.mark, held]
    · rfl
  cases at_ : request.index with
  | none =>
      simp only [Service.stoppedInstances, List.getElem?_map, StopRequest.isAbout, at_,
        Option.all_none, Bool.true_and]
      exact congrArg (Option.map · _) (funext stopped)
  | some position =>
      simp only [Service.stoppedInstances, List.getElem?_modify, StopRequest.isAbout, at_,
        Option.all_some]
      by_cases same : position = index
      · simp [same, stopped]
      · simp [same]

/-- An instance of the stopped service stays active, because the stop is not about
it. -/
def KeepsActive (env : ServiceEnv) (request : StopRequest) (services : Services) : Prop :=
  ∃ index inst,
    instanceAt services (env.metadata.instanceKey "*" request.name) index = some inst ∧
      inst.state = .active ∧ ¬ request.isAbout index inst

section Stop

variable {request : StopRequest} {result : Except CoreError Unit} {env : ServiceEnv}

omit [SerdeJson] [TomlText] in
theorem instanceAt_of_instantiated {name : Ustr} {service : Service}
    (one : env.metadata.instantiateOne Service.new "*" name services.instances =
      some (env.metadata.instanceKey "*" name, service)) (index : Nat) :
    instanceAt services (env.metadata.instanceKey "*" name) index = service.instances[index]? := by
  obtain ⟨-, kept | ⟨absent, item, rfl⟩⟩ := MetadataRegistry.instantiateOne_cases one
  · rw [instanceAt, kept, Option.bind_some]
  · rw [instanceAt, absent]
    rfl

omit [SerdeJson] [TomlText] in
/-- The stop changes the instances it is about. -/
theorem instanceAt_stop (stopped : StackStop env request stack (result, next)) (key : Ustr)
    (index : Nat) :
    instanceAt next.services key index =
      (instanceAt stack.services key index).map fun inst =>
        if key = env.metadata.instanceKey "*" request.name ∧ result = .ok () ∧
            request.isAbout index inst then
          { inst with
            state := inst.stopState
            manuallyStopped := inst.handle.isSome || inst.manuallyStopped }
        else inst := by
  cases stopped with
  | missing error absent => simp
  | stopped service lastState one =>
      by_cases same : key = env.metadata.instanceKey "*" request.name
      · subst same
        rw [instanceAt_of_instantiated one]
        simp only [instanceAt, Stacks.enqueue_services, AList.lookup_insert, Option.bind_some,
          Service.afterStop, getElem?_stoppedInstances, true_and]
      · simp [instanceAt, AList.lookup_insert_ne same, same]

omit [SerdeJson] [TomlText] in
/-- The stop instantiates its service. -/
theorem isSome_stop (stopped : StackStop env request stack (result, next)) (key : Ustr) :
    (next.services.instances.lookup key).isSome ↔
      (stack.services.instances.lookup key).isSome ∨
        result = .ok () ∧ key = env.metadata.instanceKey "*" request.name := by
  cases stopped with
  | missing error absent => simp
  | stopped service lastState one =>
      rw [Stacks.enqueue_services, AList.lookup_isSome, AList.mem_insert, ← AList.lookup_isSome]
      simp [or_comm]

omit [SerdeJson] [TomlText] in
/-- The stop queues a reconciliation if no instance stays active. -/
theorem queue_stop (stopped : StackStop env request stack (.ok (), next)) :
    (KeepsActive env request stack.services → next.queue = stack.queue) ∧
      (¬ KeepsActive env request stack.services →
        next.queue = stack.queue ++ [.reconcileStacks request.name .stopped]) := by
  cases stopped with
  | stopped service lastState one =>
      have active : (service.afterStop request lastState).instances.any (·.state = .active) ↔
          KeepsActive env request stack.services := by
        simp only [List.any_eq_true, decide_eq_true_eq, List.mem_iff_getElem?, KeepsActive,
          instanceAt_of_instantiated one, Service.afterStop, getElem?_stoppedInstances,
          Option.map_eq_some_iff]
        constructor
        · rintro ⟨_, ⟨index, inst, at_, rfl⟩, active⟩
          by_cases about : request.isAbout index inst
          · rw [if_pos about, ChildInstance.stopState] at active
            cases held : inst.handle <;> simp [held] at active
          · rw [if_neg about] at active
            exact ⟨index, inst, at_, active, about⟩
        · rintro ⟨index, inst, at_, active, about⟩
          exact ⟨inst, ⟨index, inst, at_, if_neg about⟩, active⟩
      rw [Stacks.enqueue_queue, stopAnnouncement]
      constructor
      · intro keeps
        rw [if_pos (active.mpr keeps), List.append_nil]
      · intro keeps
        rw [if_neg (mt active.mp keeps)]

variable {user : Ustr}

omit [SerdeJson] [TomlText] in
/-- The instances of others are the same after the stop. -/
theorem foreign_stop (only : request.onlyUser = some user)
    (stopped : StackStop env request stack (result, next)) {key : Ustr} {index : Nat}
    {inst : ChildInstance} (foreign : Foreign user inst) :
    instanceAt next.services key index = some inst ↔
      instanceAt stack.services key index = some inst := by
  have about {inst : ChildInstance} (foreign : Foreign user inst) :
      ¬ request.isAbout index inst := by
    rw [StopRequest.isAbout, only, foreign, Bool.and_false]
    exact Bool.false_ne_true
  rw [instanceAt_stop stopped, Option.map_eq_some_iff]
  constructor
  · rintro ⟨before, at_, same⟩
    split at same
    · next held =>
        subst same
        -- a stop changes neither key nor user
        exact absurd held.2.2 (@about before foreign)
    · rw [at_, same]
  · intro at_
    exact ⟨inst, at_, if_neg fun held => about foreign held.2.2⟩

omit [SerdeJson] [TomlText] in
/-- The service that the stop instantiates reaches no other services. -/
theorem cascade_stop (stopped : StackStop env request stack (result, next)) (middle : Ustr) :
    Cascade env next.services (instanceKeyName request.name) middle ↔
      Cascade env stack.services (instanceKeyName request.name) middle := by
  constructor
  · intro reached
    induction reached with
    | source => exact .source
    | dependent _ dependent listed known ih =>
        rcases (isSome_stop stopped _).mp known with known | ⟨-, same⟩
        · exact ih.dependent dependent listed known
        · rw [← instanceKeyName_instanceKey env.metadata dependent.name, same,
            instanceKeyName_instanceKey]
          exact .source
  · intro reached
    induction reached with
    | source => exact .source
    | dependent _ dependent listed known ih =>
        exact ih.dependent dependent listed ((isSome_stop stopped _).mpr (.inl known))

end Stop

end Runs

/-! ## Two users -/

/-- A running instance of a user. -/
def ownInstance (user : Ustr) (pid : Nat) : ChildInstance := .new "" (some user) (some ⟨pid⟩)

/-- Somebody runs the database, and bob a service after it. -/
def sharedStack (database : List ChildInstance) : Stacks :=
  runningStack [("app:db@static", layer "db" [], database),
    ("app:web@static", layer "web" ["app:db"], [ownInstance "bob" 200])]

def sharedEnv : StackEnv := layerEnv [layer "web" ["app:db"]]

/-- The stop of the database for alice. -/
def aliceStop : StopRequest :=
  { name := "app:db", force := false, index := none, onlyUser := some "alice" }

open scoped Rind.Compact

end Rind
