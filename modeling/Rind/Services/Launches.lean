import Rind.Services.Cycles
import Rind.Services.Owners

/-!
# Starting dependents once

A start is announced twice, at once and through the queue, so each dependent is
considered at least twice; only being a singleton keeps it from being started
again.  Where all transitive dependents are singletons that can be started, a
successful start starts each of them exactly once, in whichever order the queue is
handled.

The invariant is the one of a worklist: of every service that is up, the
dependents are up too, or still to be considered.
-/

namespace Rind

open Prog

/-! ## Spawning -/

section Spawning

variable [SerdeJson] [TomlText]

/-- What a spawn of a command takes before there is a process. -/
def Launchable (env : ServiceEnv) (service : Service) (registryKey : Ustr) (run : RunOption) :
    Prop :=
  ∃ launch, prepare env service none registryKey ((resolveRunOption env.heap run).getD run) =
    .ok launch ∧ launch.executor = .native

/-- Every process can be created, with a process id of its own, and moved to its
group. -/
structure PlentyPids (env : StackEnv) (pid : Nat → Nat → Nat) : Prop where
  created : ∀ start index, ∃ timer, env.answers start index = .created (pid start index) none timer
  apart : ∀ start index start' index', pid start index = pid start' index' →
    start = start' ∧ index = index'

/-- The process ids of later starts are not taken. -/
def FreeFrom (pid : Nat → Nat → Nat) (start : Nat) (host : Host) : Prop :=
  ∀ later, start ≤ later → ∀ index, pid later index ∉ host.kernel.children

variable {env : StackEnv} {pid : Nat → Nat → Nat} {service : Service} {registryKey : Ustr}
  {host : Host}

/-- The commands of a service are spawned where all can be. -/
theorem exists_spawnEach {start : Nat} (plenty : PlentyPids env pid) {runs : List RunOption}
    (launches : ∀ run ∈ runs, Launchable env.base service registryKey run) {index : Nat}
    (free : ∀ later, index ≤ later → pid start later ∉ host.kernel.children) :
    ∃ insts final, spawnEach (env.at start) service none registryKey runs index host =
        (.ok insts, final) ∧
      (∀ inst ∈ insts, inst.state = .active) ∧
      ∀ other ∈ final.kernel.children, other ∈ host.kernel.children ∨
        ∃ index, other = pid start index := by
  have created : ∀ index, ∃ timer, (env.at start).answer index =
      .created (pid start index) none timer := plenty.created start
  exact spawnEach_of_launches created (fun _ _ same => (plenty.apart _ _ _ _ same).2) launches free

end Spawning

/-! ## Starts by name -/

section Starts

variable [SerdeJson] [TomlText] {env : ServiceEnv} {services : Services} {name key : Ustr}
  {deferred : Bool} {service : Service}

/-- A start by name, for the first time or again. -/
def nameStart (name : Ustr) (deferred : Bool) : StartRequest := { StartRequest.plain name with deferred }

theorem start_again
    (one : env.metadata.instantiateOne Service.new "*" name services.instances =
      some (key, service)) (later : (!deferred && service.metadata.registersTransport) = true) :
    start env (nameStart name deferred) services = (.ok (), services.store key service) ∧
      followUp env (nameStart name deferred) services = .again := by
  simp [start, followUp, nameStart, StartRequest.plain, one, later]

theorem start_held
    (one : env.metadata.instantiateOne Service.new "*" name services.instances =
      some (key, service)) (now : (!deferred && service.metadata.registersTransport) = false)
    (held : service.holdsSingleton) :
    start env (nameStart name deferred) services = (.ok (), services.store key service) ∧
      followUp env (nameStart name deferred) services = .announce false := by
  simp [start, followUp, startRequested, startService, nameStart, StartRequest.plain, one, now,
    held, Services.store]

theorem start_launched
    (one : env.metadata.instantiateOne Service.new "*" name services.instances =
      some (key, service)) (now : (!deferred && service.metadata.registersTransport) = false)
    (free : service.holdsSingleton = false) {insts : List ChildInstance} {host : Host}
    (spawned : spawnAll env service none (ensureScopedName name) services.host =
      (.ok insts, host)) :
    start env (nameStart name deferred) services =
        (.ok (), {
          instances := services.instances.insert key
            { service with instances := markFirst .active (service.instances ++ insts) }
          host }) ∧
      followUp env (nameStart name deferred) services = .announce true := by
  simp [start, followUp, startRequested, startService, nameStart, StartRequest.plain, one, now,
    free, spawned, Except.isOk, Except.toBool]

end Starts

/-! ## The invariant -/

section Launches

variable {env : StackEnv} {pid : Nat → Nat → Nat} {source : Ustr}

/-- A name is the source, or comes after it. -/
def IsAfter (env : StackEnv) (source name : Ustr) : Prop :=
  Relation.ReflTransGen (Follows env.base.metadata) source name

/-- A transitive dependent of the source. -/
def Depends (env : StackEnv) (source : Ustr) (dependent : Dependent) : Prop :=
  ∃ middle, IsAfter env source middle ∧ dependent ∈ dependentsOf env.base.metadata middle

/-- The service of a name is up. -/
def Healthy (env : StackEnv) (stack : Stacks) (name : Ustr) : Prop :=
  (stack.services.asOne env.base.metadata name).any Service.isHealthy

/-- A singleton has been started once. -/
structure IsUp (metadata : ServiceMetadata) (service : Service) : Prop where
  metadata_eq : service.metadata = metadata
  length : service.instances.length = metadata.run.asMany.length
  healthy : service.isHealthy
  held : service.holdsSingleton

section Context

variable [SerdeJson] [TomlText]

/-- A singleton that is found by its name, and whose commands can be spawned. -/
structure Startable (env : StackEnv) (dependent : Dependent) : Prop where
  bare : '@' ∉ dependent.name.toList
  defined : env.base.metadata.instantiated "*" dependent.name = some dependent.metadata
  singleton : dependent.metadata.singleton
  runs : dependent.metadata.run.asMany ≠ []
  listed : isInactive env.base.facets (ensureScopedName dependent.name) = false
  launches : ∀ run ∈ dependent.metadata.run.asMany, Launchable env.base
    (Service.new dependent.metadata) (ensureScopedName dependent.name) run

/-- Nothing comes after itself, and whatever comes after the source can be
started. -/
structure Orderly (env : StackEnv) (pid : Nat → Nat → Nat) (source : Ustr) : Prop where
  bare : '@' ∉ source.toList
  acyclic : Acyclic env.base.metadata
  unconditional : ∀ dependent, Depends env source dependent → dependent.metadata.startOn = none
  startable : ∀ dependent, Depends env source dependent → Startable env dependent
  plenty : PlentyPids env pid

namespace Orderly

variable (orderly : Orderly env pid source) {dependent : Dependent}

include orderly

theorem name_eq (depends : Depends env source dependent) :
    instanceKeyName dependent.name = dependent.name :=
  instanceKeyName_of_notMem (orderly.startable dependent depends).bare

theorem isAfter (depends : Depends env source dependent) : IsAfter env source dependent.name := by
  obtain ⟨middle, reached, listed⟩ := depends
  exact reached.tail ⟨dependent, listed, orderly.name_eq ⟨middle, reached, listed⟩⟩

/-- What comes after the source is the source or a dependent. -/
theorem eq_or_depends {name : Ustr} (reached : IsAfter env source name) :
    name = source ∨ ∃ dependent, Depends env source dependent ∧ dependent.name = name := by
  rcases Relation.ReflTransGen.cases_tail reached with same | ⟨middle, before, follows⟩
  · exact .inl same
  · obtain ⟨dependent, listed, rfl⟩ := follows
    have depends : Depends env source dependent := ⟨middle, before, listed⟩
    exact .inr ⟨dependent, depends, (orderly.name_eq depends).symm⟩

theorem bare_of_isAfter {name : Ustr} (reached : IsAfter env source name) :
    '@' ∉ name.toList := by
  rcases orderly.eq_or_depends reached with rfl | ⟨dependent, depends, rfl⟩
  · exact orderly.bare
  · exact (orderly.startable dependent depends).bare

theorem name_ne_source (depends : Depends env source dependent) : dependent.name ≠ source := by
  intro same
  obtain ⟨middle, reached, listed⟩ := depends
  have follows : Follows env.base.metadata middle source :=
    ⟨dependent, listed, (orderly.name_eq ⟨middle, reached, listed⟩).trans same⟩
  exact orderly.acyclic source (Relation.TransGen.tail' reached follows)

end Orderly

end Context

/-- A dependent is up, or its start is still queued. -/
def Settled (env : StackEnv) (queue : List StackAction) (stack : Stacks) (name : Ustr) : Prop :=
  Healthy env stack name ∨ .start (nameStart name true) ∈ queue

/-- The dependents of a service are settled, or still to be considered. -/
def Covered (env : StackEnv) (queue : List StackAction) (stack : Stacks) (name : Ustr) : Prop :=
  (∃ full, .reconcileStacks full .started ∈ queue ∧ instanceKeyName full = name) ∨
    ∀ dependent ∈ dependentsOf env.base.metadata name, Settled env queue stack dependent.name

/-- An action that the start of the source leads to. -/
def Expected (env : StackEnv) (source : Ustr) (stack : Stacks) (action : StackAction) : Prop :=
  (∃ full, action = .reconcileStacks full .started ∧
      IsAfter env source (instanceKeyName full) ∧ Healthy env stack (instanceKeyName full)) ∨
    ∃ dependent, Depends env source dependent ∧ action = .start (nameStart dependent.name true)

/-- The source is up, a dependent is up or has no instance yet, and of everything
that is up the dependents are settled or to be considered. The actions in `owed`
count as queued, although they have been taken out and are being handled. -/
structure Underway (env : StackEnv) (pid : Nat → Nat → Nat) (source : Ustr)
    (owed : List StackAction) (stack : Stacks) : Prop where
  root : Healthy env stack source
  each : ∀ dependent, Depends env source dependent → ∀ service,
    stack.services.asOne env.base.metadata dependent.name = some service →
      service = Service.new dependent.metadata ∨ IsUp dependent.metadata service
  free : FreeFrom pid stack.starts stack.services.host
  queue : ∀ action ∈ stack.queue, Expected env source stack action
  covered : ∀ name, IsAfter env source name → Healthy env stack name →
    Covered env (owed ++ stack.queue) stack name

/-- What has been achieved stays so. -/
structure Advances (env : StackEnv) (source : Ustr) (before after : Stacks) : Prop where
  healthy : ∀ name, IsAfter env source name → Healthy env before name → Healthy env after name
  queue : ∃ queued, after.queue = before.queue ++ queued

namespace Advances

variable {first second third : Stacks} {owed : List StackAction} {name : Ustr}

theorem refl (stack : Stacks) : Advances env source stack stack :=
  ⟨fun _ _ => id, [], (List.append_nil _).symm⟩

theorem trans (left : Advances env source first second) (right : Advances env source second third) :
    Advances env source first third := by
  obtain ⟨queued, second_eq⟩ := left.queue
  obtain ⟨queued', third_eq⟩ := right.queue
  exact ⟨fun name reached healthy => right.healthy name reached (left.healthy name reached healthy),
    queued ++ queued', by rw [third_eq, second_eq, List.append_assoc]⟩

theorem mem_queue (advances : Advances env source first second) {action : StackAction}
    (member : action ∈ owed ++ first.queue) : action ∈ owed ++ second.queue := by
  obtain ⟨queued, second_eq⟩ := advances.queue
  rw [second_eq, ← List.append_assoc]
  exact List.mem_append_left _ member

theorem settled (advances : Advances env source first second) (reached : IsAfter env source name)
    (settled : Settled env (owed ++ first.queue) first name) :
    Settled env (owed ++ second.queue) second name :=
  settled.imp (advances.healthy name reached) advances.mem_queue

end Advances

section Steps

variable [SerdeJson] [TomlText] {owed : List StackAction} {stack next : Stacks}
  {dependent : Dependent}

theorem Advances.covered (orderly : Orderly env pid source) {name : Ustr}
    (advances : Advances env source stack next) (reached : IsAfter env source name)
    (covered : Covered env (owed ++ stack.queue) stack name) :
    Covered env (owed ++ next.queue) next name := by
  rcases covered with ⟨full, member, same⟩ | settled
  · exact .inl ⟨full, advances.mem_queue member, same⟩
  · refine .inr fun dependent listed => ?_
    exact advances.settled (orderly.isAfter ⟨name, reached, listed⟩) (settled dependent listed)

/-- The dependent is kept under its key, with more actions in the queue. -/
structure Stores (env : StackEnv) (dependent : Dependent) (service : Service)
    (queued : List StackAction) (stack next : Stacks) : Prop where
  instances : next.services.instances =
    stack.services.instances.insert (env.base.metadata.instanceKey "*" dependent.name) service
  queue : next.queue = stack.queue ++ queued

omit [SerdeJson] [TomlText] in
theorem Stores.healthy {service : Service} {queued : List StackAction}
    (stores : Stores env dependent service queued stack next) :
    Healthy env next dependent.name ↔ service.isHealthy := by
  rw [Healthy, Services.asOne, stores.instances, AList.lookup_insert, Option.any_some]

/-- Storing a dependent that is up or has no instance yet, which it had not either
before, goes on with what is under way. -/
theorem Underway.store (orderly : Orderly env pid source)
    (underway : Underway env pid source owed stack)
    (depends : Depends env source dependent) {service : Service} {queued : List StackAction}
    (stores : Stores env dependent service queued stack next)
    (fine : service = Service.new dependent.metadata ∨ IsUp dependent.metadata service)
    (kept : Healthy env stack dependent.name → service.isHealthy)
    (free : FreeFrom pid next.starts next.services.host)
    (expected : ∀ action ∈ queued, Expected env source next action)
    (announced : service.isHealthy → Healthy env stack dependent.name ∨
      ∃ full, .reconcileStacks full .started ∈ queued ∧ instanceKeyName full = dependent.name) :
    Underway env pid source owed next ∧ Advances env source stack next := by
  have bare := (orderly.startable dependent depends).bare
  have own : next.services.asOne env.base.metadata dependent.name = some service := by
    rw [Services.asOne, stores.instances, AList.lookup_insert]
  have other {name : Ustr} (free : '@' ∉ name.toList) (apart : name ≠ dependent.name) :
      next.services.asOne env.base.metadata name = stack.services.asOne env.base.metadata name := by
    rw [Services.asOne, stores.instances, AList.lookup_insert_ne]
    · rfl
    · intro same
      exact apart (MetadataRegistry.instanceKey_injective free bare same)
  have healthy_other {name : Ustr} (reached : IsAfter env source name)
      (apart : name ≠ dependent.name) : Healthy env next name ↔ Healthy env stack name := by
    rw [Healthy, Healthy, other (orderly.bare_of_isAfter reached) apart]
  have advances : Advances env source stack next := by
    refine ⟨fun name reached healthy => ?_, queued, stores.queue⟩
    by_cases same : name = dependent.name
    · subst same
      exact stores.healthy.mpr (kept healthy)
    · exact (healthy_other reached same).mpr healthy
  refine ⟨⟨?_, ?_, free, ?_, ?_⟩, advances⟩
  · exact advances.healthy source .refl underway.root
  · intro sibling depends' found lookup
    by_cases same : sibling.name = dependent.name
    · have defined := (orderly.startable sibling depends').defined
      rw [same, (orderly.startable dependent depends).defined, Option.some_inj] at defined
      rw [same, own, Option.some_inj] at lookup
      rw [← defined, ← lookup]
      exact fine
    · rw [other (orderly.startable sibling depends').bare same] at lookup
      exact underway.each sibling depends' found lookup
  · intro action member
    rw [stores.queue] at member
    rcases List.mem_append.mp member with member | member
    · rcases underway.queue action member with ⟨full, rfl, reached, healthy⟩ | start
      · exact .inl ⟨full, rfl, reached, advances.healthy _ reached healthy⟩
      · exact .inr start
    · exact expected action member
  · intro name reached healthy
    by_cases same : name = dependent.name
    · subst same
      rcases announced (stores.healthy.mp healthy) with before | ⟨full, member, same⟩
      · exact advances.covered orderly reached (underway.covered _ reached before)
      · refine .inl ⟨full, ?_, same⟩
        rw [stores.queue]
        exact List.mem_append_right _ (List.mem_append_right _ member)
    · exact advances.covered orderly reached
        (underway.covered name reached ((healthy_other reached same).mp healthy))

/-- What a start by name of a dependent achieves. -/
structure Achieves (env : StackEnv) (pid : Nat → Nat → Nat) (source : Ustr)
    (owed : List StackAction) (goal : Stacks → Prop) (stack : Stacks)
    (result : Except CoreError Unit) (final : Stacks) : Prop where
  fine : result = .ok ()
  underway : Underway env pid source owed final
  advances : Advances env source stack final
  reached : goal final

/-- What a routine achieves wherever it is run. -/
def Does (env : StackEnv) (pid : Nat → Nat → Nat) (source : Ustr) (owed : List StackAction)
    (needs goal : Stacks → Prop) (body : Prog Stacks CoreError Unit) : Prop :=
  ∀ stack result final, Underway env pid source owed stack → needs stack →
    body stack = some (result, final) → Achieves env pid source owed goal stack result final

omit [SerdeJson] [TomlText] in
theorem Does.weaken {needs goal goal' : Stacks → Prop} {body : Prog Stacks CoreError Unit}
    (does : Does env pid source owed needs goal body) (weaker : ∀ final, goal final → goal' final) :
    Does env pid source owed needs goal' body := by
  intro stack result final underway ready ran
  obtain ⟨fine, underway', advances, reached⟩ := does stack result final underway ready ran
  exact ⟨fine, underway', advances, weaker final reached⟩

/-- Considering a dependent of a service that is up settles it. -/
theorem considerDependent_does (orderly : Orderly env pid source)
    {call : StartRequest → Prog Stacks CoreError Unit} {name : Ustr}
    (reached : IsAfter env source name)
    (listed : dependent ∈ dependentsOf env.base.metadata name)
    (calls : Does env pid source owed (fun _ => True)
      (fun final => Settled env final.queue final dependent.name)
      (call (nameStart dependent.name false))) :
    Does env pid source owed (Healthy env · name)
      (fun final => Settled env final.queue final dependent.name)
      (considerDependent env call name dependent) := by
  intro stack result final underway healthy ran
  have depends : Depends env source dependent := ⟨name, reached, listed⟩
  have starts : startsDependent env.base dependent.metadata stack.services := by
    rw [startsDependent, orderly.unconditional dependent depends]
    have after := List.of_mem_filter listed
    cases afters : dependent.metadata.after with
    | none => rw [afters] at after; cases after
    | some names =>
        rw [afters, Option.any_some, List.contains_iff_mem] at after
        simp only [Option.all_none, Bool.true_and, Option.getD_some]
        exact List.any_eq_true.mpr ⟨name, after, healthy⟩
  rw [considerDependent, run_read_bind, run_change_bind, if_pos starts] at ran
  have noted : Underway env pid source owed (stack.note name dependent true) :=
    ⟨underway.root, underway.each, underway.free, underway.queue, underway.covered⟩
  rw [starts] at ran
  obtain ⟨fine, underway', advances, settled⟩ := calls _ _ _ noted trivial ran
  exact ⟨fine, underway', ⟨advances.healthy, advances.queue⟩, settled⟩

/-- Reconciling the start of a service that is up settles all its dependents. -/
theorem considerEach_does (orderly : Orderly env pid source)
    {call : StartRequest → Prog Stacks CoreError Unit} {name : Ustr}
    (reached : IsAfter env source name) {dependents : List Dependent}
    (listed : ∀ dependent ∈ dependents, dependent ∈ dependentsOf env.base.metadata name)
    (calls : ∀ dependent, Depends env source dependent →
      Does env pid source owed (fun _ => True)
        (fun final => Settled env final.queue final dependent.name)
        (call (nameStart dependent.name false))) :
    Does env pid source owed (Healthy env · name)
      (fun final => ∀ dependent ∈ dependents,
        Settled env final.queue final dependent.name)
      (Prog.each dependents (considerDependent env call name)) := by
  induction dependents with
  | nil =>
      intro stack result final underway healthy ran
      cases ran
      exact ⟨rfl, underway, .refl stack, by simp⟩
  | cons dependent rest ih =>
      intro stack result final underway healthy ran
      have member := listed dependent List.mem_cons_self
      have depends : Depends env source dependent := ⟨name, reached, member⟩
      have first := considerDependent_does orderly reached member (calls dependent depends)
      rw [each_cons] at ran
      rcases run_bind_cases ran with ⟨err, firstRan, rfl⟩ | ⟨_, middle, firstRan, restRan⟩
      · cases (first _ _ _ underway healthy firstRan).fine
      · obtain ⟨-, underway', advances, settled⟩ := first _ _ _ underway healthy firstRan
        obtain ⟨fine, underway'', advances', others⟩ :=
          ih (fun other inside => listed other (List.mem_cons_of_mem _ inside)) _ _ _ underway'
            (advances.healthy name reached healthy) restRan
        refine ⟨fine, underway'', advances.trans advances', List.forall_mem_cons.mpr ⟨?_, others⟩⟩
        exact @Advances.settled _ _ _ _ [] _ advances' (orderly.isAfter depends) settled

omit [SerdeJson] [TomlText] in
theorem not_isHealthy_new (metadata : ServiceMetadata) : (Service.new metadata).isHealthy = false :=
  rfl

/-- A dependent is found, up or without an instance. -/
theorem Underway.found (orderly : Orderly env pid source)
    (underway : Underway env pid source owed stack) (depends : Depends env source dependent) :
    ∃ service, env.base.metadata.instantiateOne Service.new "*" dependent.name
        stack.services.instances =
          some (env.base.metadata.instanceKey "*" dependent.name, service) ∧
      (service = Service.new dependent.metadata ∨ IsUp dependent.metadata service) ∧
      (Healthy env stack dependent.name ↔ service.isHealthy) := by
  cases known : stack.services.asOne env.base.metadata dependent.name with
  | some service =>
      refine ⟨service, MetadataRegistry.instantiateOne_of_known Service.new rfl known,
        underway.each dependent depends service known, ?_⟩
      rw [Healthy, known, Option.any_some]
  | none =>
      refine ⟨Service.new dependent.metadata, ?_, .inl rfl, ?_⟩
      · rw [Services.asOne] at known
        simp only [MetadataRegistry.instantiateOne, known,
          (orderly.startable dependent depends).defined, Option.map_some]
      · rw [Healthy, known, not_isHealthy_new]
        rfl

/-- The service of a dependent whose commands have been spawned is up. -/
theorem exists_spawnAll (orderly : Orderly env pid source) (depends : Depends env source dependent)
    {start : Nat} {host : Host} (free : FreeFrom pid start host) :
    ∃ insts final, spawnAll (env.at start) (Service.new dependent.metadata) none
        (ensureScopedName dependent.name) host = (.ok insts, final) ∧
      IsUp dependent.metadata
        { Service.new dependent.metadata with instances := markFirst .active insts } ∧
      FreeFrom pid (start + 1) final := by
  obtain ⟨bare, defined, singleton, runs, listed, launches⟩ := orderly.startable dependent depends
  obtain ⟨insts, final, spawned, active, children⟩ :=
    exists_spawnEach orderly.plenty launches
      fun (later : Nat) (_ : 0 ≤ later) => free start (Nat.le_refl _) later
  have length := length_spawnEach spawned
  refine ⟨insts, final, ?_, ?_, ?_⟩
  · have unlisted : isInactive (env.at start).facets (ensureScopedName dependent.name) = false :=
      listed
    rw [spawnAll, unlisted]
    exact spawned
  · cases insts with
    | nil => exact absurd (List.length_eq_zero_iff.mp length.symm) runs
    | cons first rest =>
        refine ⟨rfl, length, ?_, ?_⟩
        · rw [Service.isHealthy, markFirst, Bool.and_eq_true]
          refine ⟨rfl, ?_⟩
          rw [Bool.not_eq_true', List.any_eq_false]
          intro inst member
          rcases List.mem_cons.mp member with rfl | member
          · simp [ChildInstance.mark]
          · simp [active inst (List.mem_cons_of_mem _ member)]
        · simp [Service.holdsSingleton, markFirst, ChildInstance.mark, ServiceState.isLive,
            Service.new, singleton]
  · intro later le index child
    rcases children _ child with child | ⟨index', same⟩
    · exact free later (by omega) index child
    · have := (orderly.plenty.apart _ _ _ _ same).1
      omega

/-- A start by name of a dependent settles it, and a deferred one brings it up. -/
theorem startStack_does (orderly : Orderly env pid source) (depth : Nat) (deferred : Bool)
    (depends : Depends env source dependent) :
    Does env pid source owed (fun _ => True)
      (fun final => Settled env final.queue final dependent.name ∧
        (deferred → Healthy env final dependent.name))
      (iterate (startStack env) depth (nameStart dependent.name deferred)) := by
  induction depth generalizing dependent deferred with
  | zero => intro stack result final underway _ ran; cases ran
  | succ depth ih =>
      intro stack result final underway _ ran
      rw [iterate] at ran
      obtain ⟨service, found, fine, healthy⟩ := underway.found orderly depends
      have one : (env.at stack.starts).metadata.instantiateOne Service.new "*"
          dependent.name stack.services.instances =
            some (env.base.metadata.instanceKey "*" dependent.name, service) := found
      have later : FreeFrom pid (stack.starts + 1) stack.services.host :=
        fun later le index => underway.free later (by omega) index
      -- what follows an announced start, from a state in which the dependent is up
      have reconciles {middle : Stacks} (underway : Underway env pid source owed middle)
          (up : Healthy env middle dependent.name)
          (ran : reconcileStacks env (iterate (startStack env) depth)
            (ensureScopedName dependent.name) .started middle = some (result, final)) :
          Achieves env pid source owed (Healthy env · dependent.name) middle result final := by
        rw [reconcileStacks, instanceKeyName_ensureScopedName, orderly.name_eq depends] at ran
        obtain ⟨fine, underway', advances, -⟩ :=
          considerEach_does orderly (orderly.isAfter depends) (fun _ => id)
            (fun other depends => (ih false depends).weaken fun _ => And.left) _ _ _ underway up ran
        exact ⟨fine, underway', advances, advances.healthy _ (orderly.isAfter depends) up⟩
      by_cases again : (!deferred && service.metadata.registersTransport) = true
      · obtain ⟨started, next⟩ := start_again one again
        rw [startStack_run started, next] at ran
        obtain ⟨rfl, final_eq⟩ := Prod.mk.inj (Option.some.inj ran)
        have stores : Stores env dependent service [.start (nameStart dependent.name true)] stack
            final := final_eq ▸ ⟨rfl, rfl⟩
        obtain ⟨underway', advances⟩ := underway.store orderly depends stores fine healthy.mp
          (final_eq ▸ later)
          (fun action member => .inr ⟨dependent, depends, List.mem_singleton.mp member⟩)
          (fun up => .inl (healthy.mpr up))
        refine ⟨rfl, underway', advances, .inr ?_, fun now => ?_⟩
        · rw [stores.queue]
          exact List.mem_append_right _ (List.mem_singleton_self _)
        · rw [now] at again
          cases again
      · have now := eq_false_of_ne_true again
        rcases fine with rfl | up
        · obtain ⟨insts, host, spawned, up, free⟩ := exists_spawnAll orderly depends underway.free
          obtain ⟨started, next⟩ := start_launched one now
            (Bool.and_false _) spawned
          rw [startStack_run started, next, followStart, run_change_bind] at ran
          generalize middle_eq : Stacks.enqueue _ _ = middle at ran
          have stores : Stores env dependent
              { Service.new dependent.metadata with instances := markFirst .active insts }
              [.reconcileStacks (ensureScopedName dependent.name) .started] stack middle :=
            middle_eq ▸ ⟨rfl, rfl⟩
          have own : instanceKeyName (ensureScopedName dependent.name) = dependent.name :=
            (instanceKeyName_ensureScopedName _).trans (orderly.name_eq depends)
          have reached := orderly.isAfter depends
          have live := stores.healthy.mpr up.healthy
          obtain ⟨underway', advances⟩ := underway.store orderly depends stores (.inr up)
            (fun _ => up.healthy) (middle_eq ▸ free)
            (fun action member => .inl
              ⟨_, List.mem_singleton.mp member, own.symm ▸ reached, own.symm ▸ live⟩)
            (fun _ => .inr ⟨_, List.mem_singleton_self _, own⟩)
          obtain ⟨fine, underway'', advances', up⟩ := reconciles underway' live ran
          exact ⟨fine, underway'', advances.trans advances', .inl up, fun _ => up⟩
        · obtain ⟨started, next⟩ := start_held one now up.held
          rw [startStack_run started, next, followStart] at ran
          generalize middle_eq : Stacks.mk _ _ _ _ = middle at ran
          have stores : Stores env dependent service [] stack middle :=
            middle_eq ▸ ⟨rfl, (List.append_nil _).symm⟩
          obtain ⟨underway', advances⟩ := underway.store orderly depends stores (.inr up)
            healthy.mp (middle_eq ▸ later) (by simp) (fun up => .inl (healthy.mpr up))
          obtain ⟨fine, underway'', advances', up⟩ :=
            reconciles underway' (stores.healthy.mpr up.healthy) ran
          exact ⟨fine, underway'', advances.trans advances', .inl up, fun _ => up⟩

/-! ## The queue -/

/-- What handling an action is for. -/
def Discharged (env : StackEnv) (stack : Stacks) : StackAction → Prop
  | .reconcileStacks service _ => ∀ dependent ∈ dependentsOf env.base.metadata
      (instanceKeyName service), Settled env stack.queue stack dependent.name
  | .start request => Healthy env stack request.name
  | .stop _ => False

omit [SerdeJson] [TomlText] in
/-- An action that has done what it is for is not owed any more. -/
theorem Underway.discharge {action : StackAction}
    (underway : Underway env pid source [action] stack)
    (discharged : Discharged env stack action) : Underway env pid source [] stack := by
  refine ⟨underway.root, underway.each, underway.free, underway.queue, ?_⟩
  intro name reached healthy
  rcases underway.covered name reached healthy with ⟨full, member, same⟩ | settled
  · rcases List.mem_cons.mp member with taken | member
    · subst taken same
      exact .inr discharged
    · exact .inl ⟨full, member, same⟩
  · refine .inr fun dependent listed => ?_
    rcases settled dependent listed with up | member
    · exact .inl up
    · rcases List.mem_cons.mp member with taken | member
      · subst taken
        exact .inl discharged
      · exact .inr member

/-- Handling an action, from wherever in the queue, goes on with what is under
way. -/
theorem Underway.step (orderly : Orderly env pid source)
    (underway : Underway env pid source [] stack) (handled : Handles env False stack next) :
    Underway env pid source [] next := by
  obtain ⟨front, back, action, taken, -, depth, result, ran⟩ := handled
  have owed : Underway env pid source [action] { stack with queue := front ++ back } := by
    have members (other : StackAction) :
        other ∈ [action] ++ (front ++ back) ↔ other ∈ stack.queue := by
      simp [taken, or_left_comm]
    refine ⟨underway.root, underway.each, underway.free, ?_, ?_⟩
    · intro other member
      exact underway.queue other ((members other).mp (List.mem_append_right _ member))
    · intro name reached healthy
      rcases underway.covered name reached healthy with ⟨full, member, same⟩ | settled
      · exact .inl ⟨full, (members _).mpr member, same⟩
      · exact .inr fun dependent listed => (settled dependent listed).imp_right (members _).mpr
  have expected := underway.queue action (by rw [taken]; simp)
  rcases expected with ⟨full, rfl, reached, healthy⟩ | ⟨dependent, depends, rfl⟩
  · obtain ⟨-, underway', -, settled⟩ :=
      considerEach_does orderly reached (fun _ => id)
        (fun other depends => (startStack_does orderly depth false depends).weaken
          fun _ => And.left) _ _ _ owed healthy ran
    exact underway'.discharge settled
  · obtain ⟨-, underway', -, -, up⟩ :=
      startStack_does orderly depth true depends _ _ _ owed trivial ran
    exact underway'.discharge (up rfl)

theorem Underway.run (orderly : Orderly env pid source)
    (underway : Underway env pid source [] stack)
    (ran : Relation.ReflTransGen (Handles env False) stack next) :
    Underway env pid source [] next := by
  induction ran with
  | refl => exact underway
  | tail _ handled ih => exact ih.step orderly handled

/-- When the queue is empty all dependents have been started once. -/
theorem Underway.finished (orderly : Orderly env pid source)
    (underway : Underway env pid source [] stack) (empty : stack.queue = [])
    (depends : Depends env source dependent) :
    ∃ service, stack.services.asOne env.base.metadata dependent.name = some service ∧
      IsUp dependent.metadata service := by
  have all (name : Ustr) (reached : IsAfter env source name) : Healthy env stack name := by
    induction reached with
    | refl => exact underway.root
    | tail before follows ih =>
        obtain ⟨dependent, listed, rfl⟩ := follows
        have depends : Depends env source dependent := ⟨_, before, listed⟩
        rw [orderly.name_eq depends]
        rcases underway.covered _ before ih with ⟨full, member, -⟩ | settled
        · rw [empty] at member
          cases member
        · rcases settled dependent listed with up | member
          · exact up
          · rw [empty] at member
            cases member
  obtain ⟨service, known, healthy⟩ := (Option.any_eq_true ..).mp (all _ (orderly.isAfter depends))
  refine ⟨service, known, ?_⟩
  rcases underway.each dependent depends service known with rfl | up
  · rw [not_isHealthy_new] at healthy
    cases healthy
  · exact up

/-! ## The start of the source -/

/-- The start is announced, and the service is up after it. -/
structure Succeeds (env : StackEnv) (request : StartRequest) (stack : Stacks) : Prop where
  announced : ∃ queued,
    followUp (env.at stack.starts) request stack.services = .announce queued
  healthy : ((start (env.at stack.starts) request stack.services).2.asOne env.base.metadata
    request.name).any Service.isHealthy

/-- The start finishes, the queue is worked off in every order, and then every
transitive dependent has an instance for each of its commands. -/
structure StartsOnce (env : StackEnv) (request : StartRequest) (stack : Stacks) : Prop where
  finishes : ∃ depth, (iterate (startStack env) depth request stack).isSome
  settles : ∀ depth result started,
    iterate (startStack env) depth request stack = some (result, started) →
      Settles env False started
  once : ∀ depth result started final,
    iterate (startStack env) depth request stack = some (result, started) →
      Relation.ReflTransGen (Handles env False) started final → final.queue = [] →
        ∀ dependent, Depends env (instanceKeyName request.name) dependent →
          ∃ service, final.services.asOne env.base.metadata dependent.name = some service ∧
            service.instances.length = dependent.metadata.run.asMany.length

/-- What may be there before the start. -/
structure Unstarted (env : StackEnv) (pid : Nat → Nat → Nat) (request : StartRequest)
    (stack : Stacks) : Prop where
  named : env.base.metadata.instanceKey "*" (instanceKeyName request.name) =
    env.base.metadata.instanceKey "*" request.name
  alone : stack.queue = []
  free : FreeFrom pid stack.starts stack.services.host
  fresh : ∀ dependent, Depends env (instanceKeyName request.name) dependent → ∀ service,
    stack.services.asOne env.base.metadata dependent.name = some service →
      service = Service.new dependent.metadata

/-- After a successful start of the source everything is under way, but for the
dependents of the source itself. -/
theorem underway_started {request : StartRequest}
    (orderly : Orderly env pid (instanceKeyName request.name))
    (unstarted : Unstarted env pid request stack) (succeeds : Succeeds env request stack)
    {queued : List StackAction}
    (announcement : ∀ action ∈ queued,
      action = .reconcileStacks (ensureScopedName request.name) .started) :
    Underway env pid (instanceKeyName request.name)
      [.reconcileStacks (ensureScopedName request.name) .started]
      (Stacks.enqueue queued { stack with
        services := (start (env.at stack.starts) request stack.services).2
        starts := stack.starts + 1 }) := by
  have own := instanceKeyName_ensureScopedName request.name
  have up : ((start (env.at stack.starts) request stack.services).2.asOne env.base.metadata
      (instanceKeyName request.name)).any Service.isHealthy := by
    rw [Services.asOne, unstarted.named]
    exact succeeds.healthy
  have kept {dependent : Dependent} (depends : Depends env (instanceKeyName request.name) dependent) :
      (start (env.at stack.starts) request stack.services).2.asOne env.base.metadata
        dependent.name = stack.services.asOne env.base.metadata dependent.name := by
    apply lookup_start
    intro same
    have same := same.trans unstarted.named.symm
    exact orderly.name_ne_source depends (MetadataRegistry.instanceKey_injective
      (orderly.startable dependent depends).bare orderly.bare same)
  refine ⟨up, ?_, ?_, ?_, ?_⟩
  · intro dependent depends service known
    exact .inl (unstarted.fresh dependent depends service ((kept depends).symm.trans known))
  · intro later le index child
    have le : stack.starts + 1 ≤ later := le
    have whole : ∀ index number error,
        (env.at stack.starts).answer index ≠ .abandoned number error := by
      intro index number error left
      obtain ⟨timer, created⟩ := orderly.plenty.created stack.starts index
      cases created.symm.trans left
    rcases children_start request stack.services whole _ child with child | ⟨index', c, t, created⟩
    · exact unstarted.free later (Nat.le_of_succ_le le) index child
    · obtain ⟨timer, created'⟩ := orderly.plenty.created stack.starts index'
      obtain ⟨same, -⟩ := SpawnAnswer.created.inj (created'.symm.trans created)
      have := (orderly.plenty.apart _ _ _ _ same).1
      omega
  · intro action member
    rw [Stacks.enqueue_queue, unstarted.alone, List.nil_append] at member
    exact .inl ⟨_, announcement action member, own.symm ▸ .refl, own.symm ▸ up⟩
  · intro name reached healthy
    rcases orderly.eq_or_depends reached with rfl | ⟨dependent, depends, rfl⟩
    · exact .inl ⟨_, List.mem_cons_self, own⟩
    · obtain ⟨service, known, healthy⟩ := (Option.any_eq_true ..).mp healthy
      rw [unstarted.fresh dependent depends service ((kept depends).symm.trans known),
        not_isHealthy_new] at healthy
      cases healthy

/-- A successful start of a service starts each transitive dependent exactly once,
if all of them are singletons that can be started. -/
theorem startsOnce {request : StartRequest}
    (orderly : Orderly env pid (instanceKeyName request.name))
    (unstarted : Unstarted env pid request stack) (succeeds : Succeeds env request stack) :
    StartsOnce env request stack := by
  refine ⟨?_, fun _ _ started _ => settles_of_acyclic orderly.acyclic False started, ?_⟩
  · obtain ⟨result, final, ran, -⟩ :=
      startStack_halts orderly.acyclic (Nat.lt_add_one _) stack trivial
    exact ⟨_, by rw [ran]; rfl⟩
  · intro depth result started final ran steps empty dependent depends
    cases depth with
    | zero => cases ran
    | succ depth =>
        have reconciled {middle : Stacks}
            (underway : Underway env pid (instanceKeyName request.name)
              [.reconcileStacks (ensureScopedName request.name) .started] middle)
            (ran : reconcileStacks env (iterate (startStack env) depth)
              (ensureScopedName request.name) .started middle = some (result, started)) :
            Underway env pid (instanceKeyName request.name) [] started := by
          have own := instanceKeyName_ensureScopedName request.name
          rw [reconcileStacks, own] at ran
          obtain ⟨-, underway', -, settled⟩ :=
            considerEach_does orderly .refl (fun _ => id)
              (fun other depends => (startStack_does orderly depth false depends).weaken
                fun _ => And.left) _ _ _ underway underway.root ran
          exact underway'.discharge (by rw [Discharged, own]; exact settled)
        obtain ⟨queued, next⟩ := succeeds.announced
        have found := start_found (env.at stack.starts) request stack.services
        split at found
        · obtain ⟨services, started_eq⟩ := found
          rw [iterate, startStack_run started_eq, next] at ran
          have underway : Underway env pid (instanceKeyName request.name) [] started := by
            cases queued with
            | false =>
                have underway := underway_started orderly unstarted succeeds
                  (List.forall_mem_nil _)
                rw [started_eq, Stacks.enqueue, List.append_nil] at underway
                exact reconciled underway ran
            | true =>
                have underway := underway_started orderly unstarted succeeds
                  fun action member => List.mem_singleton.mp member
                rw [started_eq] at underway
                exact reconciled underway ran
          obtain ⟨service, known, up⟩ :=
            (underway.run orderly steps).finished orderly empty depends
          exact ⟨service, known, up.length⟩
        · next missing =>
            rw [followUp, Option.not_isSome_iff_eq_none.mp missing] at next
            cases next

end Steps

end Launches

/-! ## A diamond -/

/-- There is no cycle where every service has a lower number than those it comes
after. -/
theorem acyclic_of_numbers {definitions : MetadataRegistry ServiceMetadata} (number : Ustr → Nat)
    (lower : ∀ dependent ∈ allDependents definitions, ∀ name ∈ dependent.metadata.after.getD [],
      number (instanceKeyName dependent.name) < number name) : Acyclic definitions := by
  have decreases {source target : Ustr}
      (path : Relation.TransGen (Follows definitions) source target) :
      number target < number source := by
    have one {source target : Ustr} (follows : Follows definitions source target) :
        number target < number source := by
      obtain ⟨dependent, listed, rfl⟩ := follows
      obtain ⟨listed, after⟩ := List.mem_filter.mp listed
      refine lower dependent listed source ?_
      cases names : dependent.metadata.after with
      | none => rw [names] at after; cases after
      | some names' =>
          rw [names, Option.any_some, List.contains_iff_mem] at after
          exact after
    induction path with
    | single follows => exact one follows
    | tail _ follows ih => exact (one follows).trans ih
  exact fun name cycle => Nat.lt_irrefl _ (decreases cycle)

/-- A system with services in the group `app`, in which every process gets an id of
its own. -/
def pairedEnv (services : List ServiceMetadata) : StackEnv :=
  { definedEnv (.ofGroup "static" "app" services) with
    answers := fun start index => .created (Nat.pair start index) none none }

/-- A service in the group `app` that is started once. -/
def soloLayer (name : Ustr) (after : List Ustr) : ServiceMetadata :=
  { layer name after with singleton := true }

/-- A database, two services after it, and one after both. -/
def diamond : List ServiceMetadata :=
  [soloLayer "db" [], soloLayer "web" ["app:db"], soloLayer "mail" ["app:db"],
    soloLayer "portal" ["app:web", "app:mail"]]

section Drain

variable [SerdeJson] [TomlText]

/-- Work off a queue from its front, in so many steps. -/
def drain (env : StackEnv) (depth : Nat) : (steps : Nat) → Stacks → Option Stacks
  | 0, _ => none
  | steps + 1, stack =>
      match stack.queue with
      | [] => some stack
      | action :: rest =>
          match handleAction env depth action { stack with queue := rest } with
          | none => none
          | some (_, next) => drain env depth steps next

theorem drain_steps {env : StackEnv} {depth steps : Nat} {stack final : Stacks}
    (drained : drain env depth steps stack = some final) :
    Relation.ReflTransGen (Handles env False) stack final ∧ final.queue = [] := by
  induction steps generalizing stack with
  | zero => cases drained
  | succ steps ih =>
      rw [drain] at drained
      split at drained
      · next empty =>
          cases drained
          exact ⟨.refl, empty⟩
      · next action rest taken =>
          split at drained
          · cases drained
          · next result next ran =>
              obtain ⟨others, empty⟩ := ih drained
              exact ⟨.head ⟨[], rest, action, taken, fun _ => rfl, depth, result, ran⟩ others, empty⟩

end Drain

open scoped Rind.Compact

/-- A service that is not a singleton is started again by the queued
announcement. -/
theorem not_startsOnce_layer :
    ¬ ∀ (env : StackEnv) (request : StartRequest) (stack : Stacks),
      Acyclic env.base.metadata →
        (∀ dependent ∈ allDependents env.base.metadata,
          dependent.metadata.startOn = none ∧ dependent.metadata.branching = none) →
          stack = runningStack [] → Succeeds env request stack → StartsOnce env request stack := by
  intro once
  let env := pairedEnv [layer "db" [], layer "web" ["app:db"]]
  have acyclic : Acyclic env.base.metadata := by
    apply acyclic_of_numbers fun name => if name = "app:db" then 1 else 0
    decide +kernel
  have ran : (iterate (startStack env) 3 (.plain "app:db") (runningStack [])).map (fun outcome =>
      (drain env 3 5 outcome.2).map fun final =>
        (final.services.asOne env.base.metadata "app:web").map (·.instances.length)) =
      some (some (some 2)) := by decide +kernel
  obtain ⟨⟨result, started⟩, ran, drained⟩ := Option.map_eq_some_iff.mp ran
  obtain ⟨final, drained, twice⟩ := Option.map_eq_some_iff.mp drained
  obtain ⟨steps, empty⟩ := drain_steps drained
  have starts := once env (.plain "app:db") _ acyclic (by decide +kernel) rfl
    ⟨⟨true, by decide +kernel⟩, by decide +kernel⟩
  have depends : Depends env (instanceKeyName "app:db")
      ⟨"static", "app", layer "web" ["app:db"]⟩ := ⟨_, .refl, by decide +kernel⟩
  obtain ⟨service, known, length⟩ := starts.once 3 result started final ran steps empty _ depends
  have name : (⟨"static", "app", layer "web" ["app:db"]⟩ : Dependent).name = "app:web" := by
    decide +kernel
  rw [name] at known
  rw [known, Option.map_some, length] at twice
  exact absurd twice (by decide +kernel)

/-- The services of the diamond. -/
theorem allDependents_diamond : allDependents (pairedEnv diamond).base.metadata =
    diamond.map (⟨"static", "app", ·⟩) := by
  decide +kernel

theorem launchable_diamond {metadata : ServiceMetadata} (listed : metadata ∈ diamond)
    {run : RunOption} (member : run ∈ metadata.run.asMany) :
    Launchable (pairedEnv diamond).base (Service.new metadata)
      (ensureScopedName (Dependent.mk "static" "app" metadata).name) run := by
  have prepared : ∀ metadata ∈ diamond, ∀ run ∈ metadata.run.asMany,
      (prepare (pairedEnv diamond).base (Service.new metadata) none
        (ensureScopedName (Dependent.mk "static" "app" metadata).name)
        ((resolveRunOption (pairedEnv diamond).base.heap run).getD run)).toOption.map
          (·.executor) = some .native := by
    decide +kernel
  obtain ⟨launch, found, native⟩ :=
    Option.map_eq_some_iff.mp (prepared metadata listed run member)
  refine ⟨launch, ?_, native⟩
  cases ran : prepare (pairedEnv diamond).base (Service.new metadata) none
      (ensureScopedName (Dependent.mk "static" "app" metadata).name)
      ((resolveRunOption (pairedEnv diamond).base.heap run).getD run) with
  | error err => rw [ran] at found; cases found
  | ok launch' => rw [ran] at found; exact congrArg Except.ok (Option.some.inj found)

/-- In the diamond everything is started once. -/
theorem startsOnce_diamond :
    StartsOnce (pairedEnv diamond) (.plain "app:db") (runningStack []) := by
  have acyclic : Acyclic (pairedEnv diamond).base.metadata := by
    apply acyclic_of_numbers fun name =>
      if name = "app:db" then 2 else if name = "app:portal" then 0 else 1
    decide +kernel
  have listed {dependent : Dependent}
      (depends : Depends (pairedEnv diamond) (instanceKeyName "app:db") dependent) :
      ∃ metadata ∈ diamond, ⟨"static", "app", metadata⟩ = dependent := by
    obtain ⟨middle, -, listed⟩ := depends
    have member := List.mem_of_mem_filter listed
    rw [allDependents_diamond] at member
    exact List.mem_map.mp member
  have orderly : Orderly (pairedEnv diamond) Nat.pair
      (instanceKeyName (StartRequest.plain "app:db").name) := by
    refine ⟨?_, acyclic, ?_, ?_, ?_⟩
    · decide +kernel
    · intro dependent depends
      obtain ⟨metadata, member, rfl⟩ := listed depends
      have plain : ∀ metadata ∈ diamond, metadata.startOn = none := by decide +kernel
      exact plain metadata member
    · intro dependent depends
      obtain ⟨metadata, member, rfl⟩ := listed depends
      have fields : ∀ metadata ∈ diamond,
          '@' ∉ (Dependent.mk "static" "app" metadata).name.toList ∧
            (pairedEnv diamond).base.metadata.instantiated "*"
              (Dependent.mk "static" "app" metadata).name = some metadata ∧
            metadata.singleton = true ∧ metadata.run.asMany ≠ [] ∧
            isInactive (pairedEnv diamond).base.facets
              (ensureScopedName (Dependent.mk "static" "app" metadata).name) = false := by
        decide +kernel
      obtain ⟨bare, defined, singleton, runs, unlisted⟩ := fields metadata member
      exact ⟨bare, defined, singleton, runs, unlisted,
        fun run inside => launchable_diamond member inside⟩
    · exact ⟨fun start index => ⟨none, rfl⟩, fun _ _ _ _ same => Nat.pair_eq_pair.mp same⟩
  refine startsOnce orderly ⟨?_, rfl, ?_, ?_⟩ ⟨⟨true, ?_⟩, ?_⟩
  · decide +kernel
  · exact fun _ _ _ child => absurd child (AList.notMem_empty _)
  · intro dependent depends service known
    cases known
  · decide +kernel
  · decide +kernel

end Rind
