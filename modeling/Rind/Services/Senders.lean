import Rind.Services.Candidates
import Rind.Services.Stdio

/-!
# Who sends a message

The place in the list of instances says whose message it is, as long as it is the
place of an instance of the right user.  Starts can fill the place of a process
that is gone, and exits can move the instances to other places.  In a run without
such steps, and in which all users are known, every message is ingested with the
uid of the user of its process.
-/

namespace Rind

open Prog Runs

theorem mem_ensureScopedName (name : Ustr) : '@' ∈ (ensureScopedName name).toList := by
  rw [ensureScopedName]
  split
  · next full => exact full
  · simp

/-! ## Users of a service -/

/-- The users of the instances of a service, in order. -/
def Services.users (services : Services) (key : Ustr) : List (Option Ustr) :=
  ((services.instances.lookup key).map fun service =>
    service.instances.map ChildInstance.user).getD []

namespace Services

variable {services final : Services} {key : Ustr} {service : Service}

theorem users_of_found (found : services.instances.lookup key = some service) :
    services.users key = service.instances.map ChildInstance.user := by
  rw [users, found, Option.map_some, Option.getD_some]

/-- An instantiated service has its users, for a new one has none. -/
theorem users_instantiated {definitions : MetadataRegistry ServiceMetadata} {name : Ustr}
    (found : definitions.instantiateOne Service.new "*" name services.instances =
      some (key, service)) : services.users key = service.instances.map ChildInstance.user := by
  obtain ⟨-, kept | ⟨absent, item, rfl⟩⟩ := MetadataRegistry.instantiateOne_cases found
  · exact users_of_found kept
  · rw [users, absent]
    rfl

theorem users_insert (stored : final.instances = services.instances.insert key service)
    (other : Ustr) :
    final.users other =
      if other = key then service.instances.map ChildInstance.user else services.users other := by
  rw [users, stored]
  split
  · next same => rw [same, AList.lookup_insert, Option.map_some, Option.getD_some]
  · next apart => rw [AList.lookup_insert_ne apart, users]

/-- Keeping a service with the users it has changes nothing. -/
theorem users_insert_same (stored : final.instances = services.instances.insert key service)
    (same : service.instances.map ChildInstance.user = services.users key) (other : Ustr) :
    final.users other = services.users other := by
  rw [users_insert stored]
  split
  · next own => rw [own, same]
  · rfl

theorem users_congr (same : final.instances = services.instances) (key : Ustr) :
    final.users key = services.users key := by
  rw [users, users, same]

theorem user_sender {definitions : MetadataRegistry ServiceMetadata} {listener : Listener}
    (full : '@' ∈ listener.service.toList) :
    (services.sender definitions listener).map ChildInstance.user =
      (services.users listener.service)[listener.index]? := by
  rw [sender, asOne, MetadataRegistry.instanceKey_of_scoped full, users]
  cases services.instances.lookup listener.service with
  | none => simp
  | some service => simp

end Services

/-! ## Places -/

/-- A source of messages whose place in the list is the one of an instance of the
same user, if of any, and of one as long as its process has an instance. -/
structure Placed (services : Services) (source : Listener) : Prop where
  full : '@' ∈ source.service.toList
  own : ∀ user, (services.users source.service)[source.index]? = some user → user = source.user
  inside : source.gone = false → source.index < (services.users source.service).length

theorem Placed.congr {services final : Services} {source : Listener}
    (placed : Placed services source)
    (same : final.users source.service = services.users source.service) : Placed final source := by
  obtain ⟨full, own, inside⟩ := placed
  exact ⟨full, by rwa [same], by rwa [same]⟩

/-! ## Starts -/

section Starts

variable [SerdeJson] [TomlText]

/-- A start gives no place to an instance that messages of another user still come
from, and keeps the service under the name that its messages carry. -/
structure StartAccords (env : ServiceEnv) (request : StartRequest) (services : Services)
    (sources : List Listener) : Prop where
  named : ∀ key service, env.metadata.instantiateOne Service.new "*" request.name
    services.instances = some (key, service) → service.metadata.isStdio →
      key = ensureScopedName request.name
  vacant : ∀ key service, env.metadata.instantiateOne Service.new "*" request.name
    services.instances = some (key, service) → request.held service = false →
      ∀ insts final, spawnAll env service request.context (ensureScopedName request.name)
        services.host = (.ok insts, final) →
        ∀ user, resolveUser env.facets env.scopes service request.context
          (scopeOf (ensureScopedName request.name)) = .ok user →
          ∀ source ∈ sources, source.service = key →
            service.instances.length ≤ source.index →
              source.index < service.instances.length + insts.length → source.user = user

variable {env : ServiceEnv} {request : StartRequest} {service : Service}
  {ctx : Option ServiceBranchContext} {registryKey : Ustr} {host final : Host}

/-- All processes of a start run as the user that was resolved for it. -/
theorem users_spawnEach {runs : List RunOption} {index : Nat} {insts : List ChildInstance}
    (spawned : spawnEach env service ctx registryKey runs index host = (.ok insts, final)) :
    ∀ inst ∈ insts,
      resolveUser env.facets env.scopes service ctx (scopeOf registryKey) = .ok inst.user := by
  induction runs generalizing index host insts with
  | nil =>
      cases spawned
      simp
  | cons run rest ih =>
      rw [spawnEach] at spawned
      split at spawned
      · simp at spawned
      · next inst middle first =>
          split at spawned
          · simp at spawned
          · next others =>
              cases spawned
              exact List.forall_mem_cons.mpr ⟨spawnProcess_user first, ih others⟩

theorem users_spawnAll {insts : List ChildInstance}
    (spawned : spawnAll env service ctx registryKey host = (.ok insts, final)) :
    ∀ inst ∈ insts,
      resolveUser env.facets env.scopes service ctx (scopeOf registryKey) = .ok inst.user := by
  rw [spawnAll] at spawned
  split at spawned
  · cases spawned
    simp
  · exact users_spawnEach spawned

/-- The listeners of a start are of processes of its service and its user. -/
theorem mem_spawnListeners {gone : Bool} {runs : List RunOption} {index : Nat}
    {listener : Listener}
    (member : listener ∈ spawnListeners env service ctx registryKey gone runs index host) :
    listener.service = registryKey ∧ listener.index = service.instances.length ∧
      listener.gone = gone ∧ runs ≠ [] ∧
      resolveUser env.facets env.scopes service ctx (scopeOf registryKey) = .ok listener.user := by
  induction runs generalizing index host with
  | nil => cases member
  | cons run rest ih =>
      rw [spawnListeners] at member
      split at member
      · cases member
      · next inst middle first =>
          rcases List.mem_cons.mp member with rfl | member
          · exact ⟨rfl, rfl, rfl, List.cons_ne_nil run rest, spawnProcess_user first⟩
          · obtain ⟨own, at_, same, -, resolved⟩ := ih member
            exact ⟨own, at_, same, List.cons_ne_nil run rest, resolved⟩

/-- What a start makes of the users: nothing, or those of its processes follow. -/
theorem users_start {services after : Services} (step : StartStep env request services after) :
    (∀ key, after.users key = services.users key) ∨
      ∃ key service insts final, env.metadata.instantiateOne Service.new "*" request.name
          services.instances = some (key, service) ∧ request.held service = false ∧
        spawnAll env service request.context (ensureScopedName request.name) services.host =
          (.ok insts, final) ∧
        ∀ other, after.users other =
          if other = key then services.users key ++ insts.map ChildInstance.user
          else services.users other := by
  have blind : ∀ (inst : ChildInstance) (state : ServiceState),
      (inst.mark state).user = inst.user := fun _ _ => rfl
  cases step with
  | missing absent => exact .inl fun _ => rfl
  | postponed key service found later =>
      exact .inl (Services.users_insert_same rfl (Services.users_instantiated found).symm)
  | tried key service service' final found now outcome =>
      have users := Services.users_instantiated found
      cases outcome with
      | held held => exact .inl (Services.users_insert_same rfl users.symm)
      | started free insts final spawned =>
          refine .inr ⟨key, service, insts, final, found, free, spawned, fun other => ?_⟩
          rw [Services.users_insert rfl, StartRequest.map_settle blind, List.map_append, users]
      | failed free error final lastState spawned =>
          apply Or.inl
          apply Services.users_insert_same rfl
          rw [StartRequest.map_spoil blind, users]

variable {services : Services} {sources : List Listener}

/-- Sources that are in their place stay so in a start. -/
theorem Placed.start {after : Services} {source : Listener} (placed : Placed services source)
    (member : source ∈ sources) (accords : StartAccords env request services sources)
    (step : StartStep env request services after) : Placed after source := by
  rcases users_start step with same | ⟨key, service, insts, final, found, free, spawned, users⟩
  · exact placed.congr (same _)
  · by_cases own : source.service = key
    · have before := Services.users_instantiated found
      have after_users : after.users source.service =
          services.users source.service ++ insts.map ChildInstance.user := by
        rw [users, if_pos own, own]
      refine ⟨placed.full, fun user at_ => ?_, fun live => ?_⟩
      · rw [after_users] at at_
        by_cases old : source.index < (services.users source.service).length
        · rw [List.getElem?_append_left old] at at_
          exact placed.own user at_
        · have le : (services.users source.service).length ≤ source.index := Nat.le_of_not_lt old
          rw [List.getElem?_append_right le] at at_
          have member' := List.mem_of_getElem? at_
          obtain ⟨inst, inside, rfl⟩ := List.mem_map.mp member'
          have bound := (List.getElem?_eq_some_iff.mp at_).1
          rw [List.length_map] at bound
          have length : (services.users source.service).length = service.instances.length := by
            rw [own, before, List.length_map]
          exact (accords.vacant key service found free insts final spawned _
            (users_spawnAll spawned inst inside) source member own (by omega) (by omega)).symm
      · rw [after_users, List.length_append]
        exact Nat.lt_add_right _ (placed.inside live)
    · exact placed.congr (by rw [users, if_neg own])

/-- The listeners of a start are of places that get instances of their user, or
none if the start fails. -/
theorem startListeners_placed (accords : StartAccords env request services sources)
    {listener : Listener} (member : listener ∈ startListeners env request services) :
    Placed (start env request services).2 listener := by
  have step : StartStep env request services (start env request services).2 :=
    start_cases services
  generalize (start env request services).2 = after at step ⊢
  rw [startListeners] at member
  cases step with
  | missing absent => rw [absent] at member; cases member
  | postponed key service found later => simp [found, later] at member
  | tried key service service' final found now outcome =>
      have before := Services.users_instantiated found
      simp only [found] at member
      split at member
      · cases member
      · rw [requestListeners] at member
        split at member
        · next spawns =>
            simp only [Bool.and_eq_true, Bool.not_eq_true'] at spawns
            obtain ⟨⟨stdio, free⟩, listed⟩ := spawns
            obtain ⟨own, at_, gone, runs, resolved⟩ := mem_spawnListeners member
            have key_eq := accords.named key service found stdio
            have full : '@' ∈ listener.service.toList := by
              rw [own]
              exact mem_ensureScopedName request.name
            subst key_eq
            have after_users : Services.users
                ⟨services.instances.insert (ensureScopedName request.name) service', final⟩
                listener.service = service'.instances.map ChildInstance.user := by
              rw [Services.users_insert rfl, if_pos own]
            cases outcome with
            | held held => rw [held] at free; cases free
            | started _ insts final spawned =>
                rw [StartRequest.map_settle fun _ _ => rfl, List.map_append] at after_users
                have length : insts.length = service.metadata.run.asMany.length := by
                  rw [spawnAll, listed] at spawned
                  exact length_spawnEach spawned
                have some_ : 0 < insts.length := length ▸ List.length_pos_iff.mpr runs
                refine ⟨full, fun user at_user => ?_, fun _ => ?_⟩
                · have bound : (service.instances.map ChildInstance.user).length ≤ listener.index := by
                    rw [List.length_map, at_]
                  rw [after_users, List.getElem?_append_right bound] at at_user
                  obtain ⟨inst, inside, rfl⟩ := List.mem_map.mp (List.mem_of_getElem? at_user)
                  exact Except.ok.inj ((users_spawnAll spawned inst inside).symm.trans resolved)
                · rw [after_users, List.length_append, List.length_map, List.length_map, at_]
                  exact Nat.lt_add_of_pos_right some_
            | failed _ error final lastState spawned =>
                rw [StartRequest.map_spoil fun _ _ => rfl] at after_users
                refine ⟨full, fun user at_user => ?_, fun live => ?_⟩
                · rw [after_users, List.getElem?_eq_none (by simp [at_])] at at_user
                  cases at_user
                · rw [gone, spawned] at live
                  cases live
        · cases member

end Starts

/-! ## Exits -/

/-- The instances that are kept when the one at an index has exited for good. -/
def Service.remaining (service : Service) (index : Nat) : List ChildInstance :=
  (service.instances.eraseIdx index).filter (·.state.isLive)

/-- An exit for good leaves at the place of each source an instance of its user or
none, and one for each of the other processes that have an instance. -/
def ExitAccords (taken : TakenExit) (sources : List Listener) : Prop :=
  ∀ key service index inst, taken.base.host.runtime.pidMap.lookup taken.pid = some key →
    taken.base.instances.lookup key = some service →
      service.findByPid taken.pid = some index → service.instances[index]? = some inst →
        exitAction service.metadata inst taken.code = .stopDependents →
          ∀ source ∈ sources, source.service = key →
            (∀ other, (service.remaining index)[source.index]? = some other →
              other.user = source.user) ∧
            (source.gone = false → source.pid ≠ some taken.pid →
              source.index < (service.remaining index).length)

/-- An element that a filter drops may as well be erased. -/
theorem filter_set_of_not {α : Type} {keep : α → Bool} {dropped : α} (not : keep dropped = false)
    (items : List α) (index : Nat) :
    (items.set index dropped).filter keep = (items.eraseIdx index).filter keep := by
  induction items generalizing index with
  | nil => rfl
  | cons item rest ih =>
      cases index with
      | zero => simp [not]
      | succ index => simp only [List.set_cons_succ, List.eraseIdx_cons_succ, List.filter_cons, ih]

/-- An exit that is followed by a restart moves no instance. -/
theorem Service.users_afterExit_restart {service : Service} {index : Nat} {inst : ChildInstance}
    {code : Int} (at_ : service.instances[index]? = some inst)
    (action : exitAction service.metadata inst code = .restart) :
    (service.afterExit index inst code).instances.map ChildInstance.user =
      service.instances.map ChildInstance.user := by
  obtain ⟨inside, rfl⟩ := List.getElem?_eq_some_iff.mp at_
  have bound : index < (service.instances.map ChildInstance.user).length := by simpa using inside
  have same : (service.instances[index].exited service.metadata code).user =
      (service.instances.map ChildInstance.user)[index] := by
    rw [List.getElem_map]
    rfl
  rw [afterExit, action, ServiceExitAction.keeps, List.map_set, same, List.set_getElem_self bound]

theorem Service.instances_afterExit_stop {service : Service} {index : Nat} {inst : ChildInstance}
    {code : Int} (action : exitAction service.metadata inst code = .stopDependents) :
    (service.afterExit index inst code).instances = service.remaining index := by
  rw [afterExit, action, ServiceExitAction.keeps]
  exact filter_set_of_not rfl service.instances index

/-- The exit of a process changes nothing of a source but that it is gone. -/
theorem Placed.gone {services : Services} {source : Listener} (placed : Placed services source)
    (pid : Nat) : Placed services (source.exit pid) := by
  rw [Listener.exit]
  split
  · exact ⟨placed.full, placed.own, fun live => by cases live⟩
  · exact placed

/-- What an exit leaves of a service has the users of the source in its place. -/
theorem Placed.remain {services after : Services} {service : Service} {index pid : Nat}
    {source : Listener} (placed : Placed services source)
    (users : after.users source.service =
      (service.remaining index).map ChildInstance.user)
    (own : ∀ other, (service.remaining index)[source.index]? = some other →
      other.user = source.user)
    (inside : source.gone = false → source.pid ≠ some pid →
      source.index < (service.remaining index).length) : Placed after (source.exit pid) := by
  have kept (user : Option Ustr) (at_ : (after.users source.service)[source.index]? = some user) :
      user = source.user := by
    rw [users, List.getElem?_map] at at_
    obtain ⟨other, found, rfl⟩ := Option.map_eq_some_iff.mp at_
    exact own other found
  rw [Listener.exit]
  split
  · exact ⟨placed.full, kept, fun live => by cases live⟩
  · next other =>
      refine ⟨placed.full, kept, fun live => ?_⟩
      rw [users, List.length_map]
      exact inside live other

/-- Sources that are in their place stay so in an exit. -/
theorem Placed.exit {taken : TakenExit} {sources : List Listener} {source : Listener}
    (placed : Placed taken.base source) (member : source ∈ sources)
    (accords : ExitAccords taken sources) :
    Placed (afterExit taken.pid taken.code taken.base).1 (source.exit taken.pid) := by
  have step := recordExit_cases taken.pid taken.code taken.base
  rw [afterExit]
  generalize recordExit taken.pid taken.code taken.base = result at step
  cases step with
  | unknown noted => exact placed.gone taken.pid
  | unregistered key noted absent =>
      refine (placed.congr ?_).gone taken.pid
      rfl
  | unheld key service noted found without =>
      refine (placed.congr ?_).gone taken.pid
      rfl
  | handled key service index inst noted found position at_ =>
      have before := Services.users_of_found found
      cases action : exitAction service.metadata inst taken.code with
      | restart =>
          refine (placed.congr ?_).gone taken.pid
          apply Services.users_insert_same rfl
          rw [Service.users_afterExit_restart at_ action]
          exact before.symm
      | stopDependents =>
          by_cases own : source.service = key
          · obtain ⟨users, inside⟩ :=
              accords key service index inst noted found position at_ action source member own
            refine placed.remain ?_ users inside
            rw [Services.users_insert rfl, if_pos own, Service.instances_afterExit_stop action]
          · refine (placed.congr ?_).gone taken.pid
            rw [Services.users_insert rfl, if_neg own]
            rfl

/-! ## Steps -/

/-- A listener after the exit of an action is one of the same place and user. -/
theorem Placed.settle {services : Services} {source : Listener} (placed : Placed services source)
    (before : Services) (action : ServiceAction) :
    Placed services (source.settle before action) := by
  rw [Listener.settle]
  cases takeExit before action with
  | none => exact placed
  | some taken => exact placed.gone taken.pid

theorem Listener.settle_same (services : Services) (action : ServiceAction) (source : Listener) :
    (source.settle services action).service = source.service ∧
      (source.settle services action).index = source.index ∧
      (source.settle services action).user = source.user := by
  rw [settle]
  cases takeExit services action with
  | none => exact ⟨rfl, rfl, rfl⟩
  | some taken =>
      rw [Option.elim_some, exit]
      split <;> exact ⟨rfl, rfl, rfl⟩

/-- A stop keeps the users of all services. -/
theorem StopStep.users {env : ServiceEnv} {request : StopRequest} {services : Services}
    {result : Except CoreError Unit × Services} (stopped : StopStep env request services result)
    (key : Ustr) : result.2.users key = services.users key := by
  cases stopped with
  | missing error absent => rfl
  | stopped own service lastState found =>
      apply Services.users_insert_same rfl
      rw [Service.map_stoppedInstances (ChildInstance.user_stopped _ _)]
      exact (Services.users_instantiated found).symm

section Steps

variable [SerdeJson] [TomlText]

theorem Placed.beforeStart {services : Services} {event : ServiceEnv × ServiceAction}
    {sources : List Listener} {source : Listener} (placed : Placed services source)
    (member : source ∈ sources)
    (accords : ∀ taken, takeExit services event.2 = some taken → ExitAccords taken sources) :
    Placed (beforeStart services event).1 (source.settle services event.2) := by
  have step := beforeStart_cases services event
  generalize Rind.beforeStart services event = result at step
  have settled := placed.settle services event.2
  cases step with
  | start env request | idle env action => exact settled
  | stop env request result stopped => exact settled.congr (stopped.users _)
  | reap env pid code child => exact settled.congr rfl
  | signal env fd binding bound => exact settled.congr rfl
  | watchdog env fd binding result asked bound stopped plain =>
      exact settled.congr (stopped.users _)
  | sweep env => exact settled.congr (Services.users_congr (timeoutSweep_instances env services) _)
  | exit env action taken took =>
      have base : Placed taken.base source :=
        placed.congr (Services.users_congr (takeExit_base took).1 _)
      rw [Listener.settle, took]
      exact base.exit member (accords taken took)

/-- A step that puts no instance into the place of another user's, and only drains
messages of known users. -/
def Accords (stdio : Stdio) (event : StdioEnv × StdioAction) : Prop :=
  match event.2 with
  | .service action =>
      (∀ taken, takeExit stdio.services action = some taken → ExitAccords taken stdio.sources) ∧
        ∀ request ∈ (beforeStart stdio.services (event.1.base, action)).2,
          StartAccords event.1.base request (beforeStart stdio.services (event.1.base, action)).1
            stdio.sources
  | .drainEvents =>
      ∀ message ∈ stdio.queue, ∀ inst,
        stdio.services.sender event.1.base.metadata message.listener = some inst →
          ∀ user, inst.user = some user → (event.1.uids user).isSome
  | .read _ _ | .close _ => True

end Steps

/-- A message that was ingested with the uid of the user of its process, or dropped
when the process had no instance. -/
def Delivery.Right (delivery : Delivery) : Prop :=
  match delivery.uid with
  | some uid => delivery.own = some uid
  | none => delivery.message.listener.gone

/-- No message so far was ingested as anyone but its sender. -/
def Stdio.DeliveredRight (stdio : Stdio) : Prop :=
  ∀ delivery ∈ stdio.delivered, delivery.Right

/-- All sources are in their place, and all messages so far were right. -/
structure Attributed (stdio : Stdio) : Prop where
  sources : ∀ source ∈ stdio.sources, Placed stdio.services source
  delivered : stdio.DeliveredRight

section Runs

variable [SerdeJson] [TomlText]

theorem StartAccords.settle {env : ServiceEnv} {request : StartRequest} {services : Services}
    {sources : List Listener} (accords : StartAccords env request services sources)
    (before : Services) (action : ServiceAction) :
    StartAccords env request services (sources.map (Listener.settle before action)) := by
  refine ⟨accords.named, ?_⟩
  intro key service found free insts final spawned user resolved source member own above below
  obtain ⟨original, inside, rfl⟩ := List.mem_map.mp member
  obtain ⟨service_eq, index_eq, user_eq⟩ := Listener.settle_same before action original
  rw [service_eq] at own
  rw [index_eq] at above below
  rw [user_eq]
  exact accords.vacant key service found free insts final spawned user resolved original inside
    own above below

/-- A step of the services keeps the sources in their place. -/
theorem Attributed.service {stdio : Stdio} (attributed : Attributed stdio) (env : StdioEnv)
    (action : ServiceAction) (accords : Accords stdio (env, .service action)) :
    Attributed (stdioStep stdio (env, .service action)) := by
  obtain ⟨exits, starts⟩ := accords
  refine ⟨?_, attributed.delivered⟩
  have before : ∀ source ∈ stdio.sources.map (Listener.settle stdio.services action),
      Placed (beforeStart stdio.services (env.base, action)).1 source := by
    intro source member
    obtain ⟨original, inside, rfl⟩ := List.mem_map.mp member
    exact (attributed.sources original inside).beforeStart inside exits
  have step := serviceStep_eq stdio.services (env.base, action)
  have listeners : ∀ source ∈ (stdioStep stdio (env, .service action)).sources,
      source ∈ stdio.sources.map (Listener.settle stdio.services action) ∨
        source ∈ stepListeners stdio.services (env.base, action) := by
    intro source member
    simp only [Stdio.sources, stdioStep, List.map_append, List.mem_append, List.map_map] at member ⊢
    rcases member with (old | new) | queued
    · exact .inl (.inl old)
    · exact .inr new
    · exact .inl (.inr queued)
  intro source member
  show Placed (serviceStep stdio.services (env.base, action)) source
  rw [step]
  rw [stepListeners] at listeners
  generalize Rind.beforeStart stdio.services (env.base, action) = result at before starts listeners
  obtain ⟨middle, _ | request⟩ := result
  · rcases listeners source member with old | new
    · exact before source old
    · cases new
  · have accords := (starts request rfl).settle stdio.services action
    rcases listeners source member with old | new
    · exact (before source old).start old accords (start_cases middle)
    · exact startListeners_placed accords new

omit [SerdeJson] [TomlText] in
/-- A message from a source in its place is ingested as its user, or dropped when
the process has no instance. -/
theorem Placed.deliver {env : StdioEnv} {services : Services} {message : StdioMessage}
    (placed : Placed services message.listener)
    (known : ∀ inst, services.sender env.base.metadata message.listener = some inst →
      ∀ user, inst.user = some user → (env.uids user).isSome) :
    (deliver env services message).Right := by
  have sender : (services.sender env.base.metadata message.listener).map ChildInstance.user =
      (services.users message.listener.service)[message.listener.index]? :=
    Services.user_sender placed.full
  rw [Delivery.Right, Rind.deliver]
  cases found : services.sender env.base.metadata message.listener with
  | none =>
      rw [found, Option.map_none] at sender
      rw [Option.map_none]
      cases gone : message.listener.gone with
      | true => rfl
      | false => exact absurd (placed.inside gone) (by simpa using sender.symm)
  | some inst =>
      rw [found, Option.map_some] at sender
      have own := placed.own inst.user sender.symm
      simp only [Option.map_some, ← own]
      cases user : inst.user with
      | none => rfl
      | some user_ =>
          obtain ⟨uid, uid_eq⟩ := Option.isSome_iff_exists.mp (known inst found user_ user)
          rw [StdioEnv.uid?, StdioEnv.senderUid, uid_eq, Option.getD_some]

theorem Attributed.step {stdio : Stdio} {event : StdioEnv × StdioAction}
    (attributed : Attributed stdio) (accords : Accords stdio event) :
    Attributed (stdioStep stdio event) := by
  obtain ⟨env, action⟩ := event
  cases action with
  | service action => exact attributed.service env action accords
  | read listener message =>
      refine ⟨fun source member => attributed.sources source ?_, attributed.delivered⟩
      simp only [Stdio.sources, stdioStep, List.map_append, List.mem_append] at member ⊢
      rcases member with open_ | queued | new
      · exact .inl open_
      · exact .inr queued
      · cases found : stdio.listeners[listener]? with
        | none => simp [found] at new
        | some origin =>
            simp only [found, Option.map_some, Option.toList_some, List.map_cons, List.map_nil,
              List.mem_singleton] at new
            exact .inl (new ▸ List.mem_of_getElem? found)
  | close listener =>
      refine ⟨fun source member => attributed.sources source ?_, attributed.delivered⟩
      simp only [Stdio.sources, stdioStep, List.mem_append] at member ⊢
      exact member.imp_left fun open_ => List.mem_of_mem_eraseIdx open_
  | drainEvents =>
      refine ⟨fun source member => attributed.sources source ?_, fun delivery member => ?_⟩
      · simp only [Stdio.sources, stdioStep, List.map_nil, List.append_nil] at member
        exact List.mem_append_left _ member
      · rcases List.mem_append.mp member with before | now
        · exact attributed.delivered delivery before
        · obtain ⟨message, queued, rfl⟩ := List.mem_map.mp now
          refine Placed.deliver (attributed.sources _ ?_) (accords message queued)
          exact List.mem_append_right _ (List.mem_map_of_mem queued)

/-- In a run that accords, every message is ingested with the uid of the user of
its process, or dropped when the process has no instance. -/
theorem delivered_right {events : List (StdioEnv × StdioAction)}
    (accords : Along stdioStep Accords .boot events) :
    (Runs.run stdioStep .boot events).DeliveredRight := by
  have initial : Attributed .boot :=
    ⟨by simp [Stdio.boot, Stdio.sources], fun delivery member => by cases member⟩
  have attributed : Attributed (Runs.run stdioStep .boot events) :=
    accords.invariant (fun _ _ attributed accords => attributed.step accords) initial
  exact attributed.delivered

end Runs

/-! ## A service of two users -/

open scoped Compact

/-- A service that talks over its standard output. -/
def chattyService : ServiceMetadata := { workerService with transport := some (.type "stdio") }

/-- A system with this service, of the users alice and bob. -/
def chattyEnv (pid : Nat) : StdioEnv where
  base := loneEnv chattyService pid
  uids user := if user = "alice" then some 1000 else if user = "bob" then some 1001 else none

/-- A start for a user. -/
def startFor (user : Ustr) : StdioAction :=
  .service (.start { StartRequest.plain "app:worker" with onlyUser := some user })

/-- A message that sets a facet. -/
def chattyMessage : TransportMessage where
  type := .facet
  payload := none
  branch := none
  name := some "app:busy"
  action := .set

/-- Alice's message is still in the channel when her process exits, and bob's takes
its place. -/
theorem not_delivered_right_shifted :
    ¬ ∀ events : List (StdioEnv × StdioAction),
      (Runs.run stdioStep .boot events).DeliveredRight := by
  intro right
  let events : List (StdioEnv × StdioAction) :=
    [(chattyEnv 100, startFor "alice"), (chattyEnv 101, startFor "bob"),
      (chattyEnv 102, .read 0 chattyMessage), (chattyEnv 102, .service (.exit 100 0)),
      (chattyEnv 102, .drainEvents)]
  have taken : (Runs.run stdioStep .boot events).delivered.map
      (fun delivery => (delivery.uid, delivery.own)) = [(some 1001, some 1000)] := by
    decide +kernel
  obtain ⟨delivery, member, both⟩ := List.mem_map.mp
    (taken ▸ List.mem_singleton_self (some 1001, some 1000))
  obtain ⟨uid, own⟩ := Prod.mk.inj both
  have wrong := right events delivery member
  rw [Delivery.Right, uid, own] at wrong
  cases wrong

/-- Two users, of whom one leaves and the other one talks. -/
def chattyEvents : List (StdioEnv × StdioAction) :=
  [(chattyEnv 100, startFor "alice"), (chattyEnv 101, startFor "bob"), (chattyEnv 102, .close 1),
    (chattyEnv 102, .service (.exit 101 0)), (chattyEnv 102, .read 0 chattyMessage),
    (chattyEnv 102, .drainEvents)]

theorem delivered_right_chatty : (Runs.run stdioStep .boot chattyEvents).DeliveredRight := by
  have named : ensureScopedName "app:worker" = "app:worker@static" := by decide +kernel
  apply delivered_right
  refine ⟨?_, ?_, trivial, ?_, trivial, ?_, trivial⟩
  · refine ⟨by simp [takeExit], fun request asked => ?_⟩
    obtain rfl := Option.mem_some_iff.mp asked
    refine ⟨fun key service found _ => ?_, ?_⟩
    · have made : (chattyEnv 100).base.metadata.instantiateOne Service.new "*" "app:worker"
          Services.boot.instances = some ("app:worker@static", .new chattyService) := by
        decide +kernel
      exact (Prod.mk.inj (Option.some.inj (found.symm.trans made))).1.trans named.symm
    · intro key service found free insts final spawned user resolved source member
      cases member
  · refine ⟨by simp [takeExit], fun request asked => ?_⟩
    obtain rfl := Option.mem_some_iff.mp asked
    have made : ((chattyEnv 101).base.metadata.instantiateOne Service.new "*" "app:worker"
        (stdioStep .boot (chattyEnv 100, startFor "alice")).services.instances).map
          (fun entry => (entry.1, entry.2.instances.length)) = some ("app:worker@static", 1) := by
      decide +kernel
    obtain ⟨entry, made, both⟩ := Option.map_eq_some_iff.mp made
    obtain ⟨key_eq, length⟩ := Prod.mk.inj both
    refine ⟨fun key service found _ => ?_, ?_⟩
    · obtain rfl := Option.some.inj (made.symm.trans found)
      exact key_eq.trans named.symm
    · intro key service found free insts final spawned user resolved source member own above
      obtain rfl := Option.some.inj (made.symm.trans found)
      have first : ∀ source ∈ (stdioStep .boot (chattyEnv 100, startFor "alice")).sources,
          source.index = 0 := by
        decide +kernel
      have one : service.instances.length = 1 := length
      rw [first source member, one] at above
      exact absurd above (by decide)
  · generalize state_eq : stdioStep (stdioStep (stdioStep .boot (chattyEnv 100, startFor "alice"))
      (chattyEnv 101, startFor "bob")) (chattyEnv 102, .close 1) = state
    refine ⟨fun taken took => ?_, fun request asked => ?_⟩
    · intro key service index inst noted found position at_ action source member own
      obtain ⟨instances, runtime⟩ := takeExit_base took
      have pid : taken.pid = 101 := by
        simp only [takeExit, Option.ite_none_right_eq_some, Option.some_inj] at took
        exact took.2 ▸ rfl
      rw [runtime, pid] at noted
      rw [instances] at found
      rw [pid] at position
      have kept : (state.services.host.runtime.pidMap.lookup 101).all (fun key =>
          (state.services.instances.lookup key).all fun service =>
            (service.findByPid 101).all fun index =>
              (service.remaining index).map ChildInstance.user == [some "alice"]) = true := by
        rw [← state_eq]
        decide +kernel
      have sources : ∀ source ∈ state.sources, source.index = 0 ∧ source.user = some "alice" := by
        rw [← state_eq]
        decide +kernel
      rw [noted, Option.all_some, found, Option.all_some, position, Option.all_some,
        beq_iff_eq] at kept
      obtain ⟨index_eq, user⟩ := sources source member
      have length := congrArg List.length kept
      rw [List.length_map] at length
      refine ⟨fun other held => ?_, fun _ _ => by rw [index_eq, length]; decide⟩
      have first := congrArg (·[0]?) kept
      rw [index_eq] at held
      rw [List.getElem?_map, held] at first
      exact (Option.some.inj first).trans user.symm
    · have plain : (beforeStart state.services ((chattyEnv 102).base, .exit 101 0)).2 = none := by
        rw [← state_eq]
        decide +kernel
      rw [plain] at asked
      cases asked
  · generalize state_eq : stdioStep (stdioStep (stdioStep (stdioStep (stdioStep .boot
      (chattyEnv 100, startFor "alice")) (chattyEnv 101, startFor "bob")) (chattyEnv 102, .close 1))
      (chattyEnv 102, .service (.exit 101 0))) (chattyEnv 102, .read 0 chattyMessage) = state
    have known : state.queue.all (fun message =>
        (state.services.sender (chattyEnv 102).base.metadata message.listener).all fun inst =>
          inst.user.all fun user => ((chattyEnv 102).uids user).isSome) = true := by
      rw [← state_eq]
      decide +kernel
    intro message member inst found user named
    have own := List.all_eq_true.mp known message member
    rw [found, Option.all_some, named, Option.all_some] at own
    exact own

end Rind
