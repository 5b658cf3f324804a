import Rind.Services.Owners

/-!
# Noted processes

The runtime notes the process of each instance with the key of its service.  Starts add
processes, stops leave them as they are, and an exit takes one out.  What else is known
about the noted processes is left open here: `has` stands for it.
-/

namespace Rind

/-- Two handles are not of one process. -/
def Unshared (first second : Option Nat) : Prop := ∀ pid, first = some pid → second ≠ some pid

theorem Unshared.set_none {pids : List (Option Nat)} (apart : pids.Pairwise Unshared)
    (index : Nat) : (pids.set index none).Pairwise Unshared := by
  induction pids generalizing index with
  | nil => exact .nil
  | cons first rest ih =>
      obtain ⟨head, tail⟩ := List.pairwise_cons.mp apart
      cases index with
      | zero => exact List.pairwise_cons.mpr ⟨fun _ _ _ => nofun, tail⟩
      | succ index =>
          refine List.pairwise_cons.mpr ⟨?_, ih tail index⟩
          intro other member
          rcases List.mem_or_eq_of_mem_set member with member | rfl
          · exact head other member
          · exact fun _ _ => nofun

/-- The process of an instance is the one of no other instance. -/
theorem Unshared.notMem_set {pids : List (Option Nat)} {index pid : Nat}
    (apart : pids.Pairwise Unshared) (at_ : pids[index]? = some (some pid)) :
    some pid ∉ pids.set index none := by
  induction pids generalizing index with
  | nil => cases at_
  | cons first rest ih =>
      obtain ⟨head, tail⟩ := List.pairwise_cons.mp apart
      intro member
      cases index with
      | zero =>
          rw [List.getElem?_cons_zero, Option.some_inj] at at_
          rcases List.mem_cons.mp member with same | member
          · cases same
          · exact head _ member pid at_ rfl
      | succ index =>
          rw [List.getElem?_cons_succ] at at_
          rcases List.mem_cons.mp member with rfl | member
          · exact head _ (List.mem_of_getElem? at_) pid rfl rfl
          · exact ih tail at_ member

/-- The processes that are left to a service after an exit. -/
theorem Service.map_pid_afterExit_sublist (service : Service) (index : Nat)
    (inst : ChildInstance) (code : Int) :
    ((service.afterExit index inst code).instances.map ChildInstance.pid).Sublist
      ((service.instances.map ChildInstance.pid).set index none) := by
  have updated : ((service.instances.set index (inst.exited service.metadata code)).map
      ChildInstance.pid) = (service.instances.map ChildInstance.pid).set index none := by
    rw [List.map_set]
    rfl
  rw [← updated, Service.afterExit]
  apply List.Sublist.map
  cases exitAction service.metadata inst code with
  | restart => exact .refl _
  | stopDependents => exact List.filter_sublist

/-- The process of each instance is noted with its service, no two instances of a service
have the same one, and what is noted is registered. -/
structure Services.Noted (has : Nat → Prop) (services : Services) : Prop where
  held : ∀ key service, services.instances.lookup key = some service →
    ∀ pid, some pid ∈ service.instances.map ChildInstance.pid →
      services.host.runtime.pidMap.lookup pid = some key ∧ has pid
  apart : ∀ key service, services.instances.lookup key = some service →
    (service.instances.map ChildInstance.pid).Pairwise Unshared
  registered : ∀ pid key, services.host.runtime.pidMap.lookup pid = some key →
    key ∈ services.instances

/-- A service is the one of its key, or a new one. -/
def Services.Known (services : Services) (key : Ustr) (service : Service) : Prop :=
  services.instances.lookup key = some service ∨ service.instances = []

theorem Services.known_of_instantiated {registry : MetadataRegistry ServiceMetadata}
    {name key : Ustr} {services : Services} {service : Service}
    (found : registry.instantiateOne Service.new "*" name services.instances =
      some (key, service)) : services.Known key service := by
  obtain ⟨-, kept | ⟨-, item, rfl⟩⟩ := MetadataRegistry.instantiateOne_cases found
  · exact .inl kept
  · exact .inr rfl

/-- What the processes of a start note on a host. -/
structure Host.Notes (has : Host → Nat → Prop) (registryKey : Ustr) (pids : List (Option Nat))
    (host final : Host) : Prop where
  noted : ∀ pid, some pid ∈ pids → final.runtime.pidMap.lookup pid = some registryKey
  kept : ∀ pid, some pid ∉ pids →
    final.runtime.pidMap.lookup pid = host.runtime.pidMap.lookup pid
  fresh : ∀ pid, some pid ∈ pids → ¬ has host pid ∧ has final pid
  still : ∀ pid, has host pid → has final pid
  apart : pids.Pairwise Unshared

namespace Host.Notes

variable {has : Host → Nat → Prop} {registryKey : Ustr} {host middle final : Host}

theorem none (registryKey : Ustr) (kept : final.runtime.pidMap = host.runtime.pidMap)
    (still : ∀ pid, has host pid → has final pid) : host.Notes has registryKey [] final :=
  ⟨by simp, fun _ _ => by rw [kept], by simp, still, .nil⟩

theorem trans {first others : List (Option Nat)} (one : host.Notes has registryKey first middle)
    (more : middle.Notes has registryKey others final) :
    host.Notes has registryKey (first ++ others) final := by
  constructor
  · intro pid member
    by_cases later : some pid ∈ others
    · exact more.noted pid later
    · rw [more.kept pid later]
      exact one.noted pid ((List.mem_append.mp member).resolve_right later)
  · intro pid absent
    rw [List.mem_append, not_or] at absent
    rw [more.kept pid absent.2, one.kept pid absent.1]
  · intro pid member
    rcases List.mem_append.mp member with member | member
    · exact ⟨(one.fresh pid member).1, more.still pid (one.fresh pid member).2⟩
    · refine ⟨?_, (more.fresh pid member).2⟩
      exact fun before => (more.fresh pid member).1 (one.still pid before)
  · exact fun pid before => more.still pid (one.still pid before)
  · refine List.pairwise_append.mpr ⟨one.apart, more.apart, ?_⟩
    rintro _ before _ after pid rfl rfl
    exact (more.fresh pid after).1 (one.fresh pid before).2

end Host.Notes

namespace Services.Noted

variable {has has' : Nat → Prop} {services final : Services}

/-- Neither the instances nor the noted processes change. -/
theorem kept (noted : services.Noted has) (instances : final.instances = services.instances)
    (pidMap : final.host.runtime.pidMap = services.host.runtime.pidMap)
    (still : ∀ pid, has pid → has' pid) : final.Noted has' := by
  refine ⟨?_, ?_, ?_⟩
  · rw [instances, pidMap]
    intro key service found pid held
    exact ⟨(noted.held key service found pid held).1,
      still pid (noted.held key service found pid held).2⟩
  · rw [instances]
    exact noted.apart
  · rw [instances, pidMap]
    exact noted.registered

/-- A service is stored with processes that were not there before. -/
theorem grow (has : Host → Nat → Prop) {key registryKey : Ustr} {service service' : Service}
    {pids new : List (Option Nat)} (noted : services.Noted (has services.host))
    (notes : services.host.Notes has registryKey pids final.host)
    (known : services.Known key service)
    (stored : final.instances = services.instances.insert key service')
    (instances : service'.instances.map ChildInstance.pid =
      service.instances.map ChildInstance.pid ++ new)
    (part : new.Sublist pids) (same : ∀ pid, some pid ∈ pids → key = registryKey) :
    final.Noted (has final.host) := by
  have old : ∀ pid other, services.host.runtime.pidMap.lookup pid = some other ∧
      has services.host pid →
      final.host.runtime.pidMap.lookup pid = some other ∧ has final.host pid := by
    rintro pid other ⟨found, before⟩
    have elsewhere : some pid ∉ pids := fun member => (notes.fresh pid member).1 before
    exact ⟨by rw [notes.kept pid elsewhere, found], notes.still pid before⟩
  have before : (∀ pid, some pid ∈ service.instances.map ChildInstance.pid →
        services.host.runtime.pidMap.lookup pid = some key ∧ has services.host pid) ∧
      (service.instances.map ChildInstance.pid).Pairwise Unshared := by
    rcases known with known | new
    · exact ⟨noted.held key service known, noted.apart key service known⟩
    · exact ⟨by simp [new], by simp [new]⟩
  refine ⟨?_, ?_, ?_⟩
  · intro other candidate lookup pid member
    rw [stored] at lookup
    by_cases at_ : other = key
    · subst at_
      rw [AList.lookup_insert, Option.some_inj] at lookup
      subst lookup
      rw [instances] at member
      rcases List.mem_append.mp member with member | member
      · exact old pid other (before.1 pid member)
      · have inside := part.subset member
        rw [notes.noted pid inside, same pid inside]
        exact ⟨rfl, (notes.fresh pid inside).2⟩
    · rw [AList.lookup_insert_ne at_] at lookup
      exact old pid other (noted.held other candidate lookup pid member)
  · intro other candidate lookup
    rw [stored] at lookup
    by_cases at_ : other = key
    · subst at_
      rw [AList.lookup_insert, Option.some_inj] at lookup
      subst lookup
      rw [instances, List.pairwise_append]
      refine ⟨before.2, notes.apart.sublist part, ?_⟩
      rintro _ held _ member pid rfl rfl
      exact (notes.fresh pid (part.subset member)).1 (before.1 pid held).2
    · rw [AList.lookup_insert_ne at_] at lookup
      exact noted.apart other candidate lookup
  · intro pid other found
    rw [stored, AList.mem_insert]
    by_cases member : some pid ∈ pids
    · rw [notes.noted pid member, Option.some_inj] at found
      exact .inl (by rw [← found, same pid member])
    · rw [notes.kept pid member] at found
      exact .inr (noted.registered pid other found)

theorem stop (has : Host → Nat → Prop) {env : ServiceEnv} {request : StopRequest}
    {result : Except CoreError Unit × Services} (noted : services.Noted (has services.host))
    (stopped : StopStep env request services result)
    (still : ∀ pid, has services.host pid → has result.2.host pid) :
    result.2.Noted (has result.2.host) := by
  cases stopped with
  | missing error absent => exact noted
  | stopped key service lastState found =>
      refine noted.grow has (.none "" (Host.Signalled.stopProcesses ..).pidMap still)
        (known_of_instantiated found) rfl ?_ .slnil (by simp)
      rw [List.append_nil]
      exact service.map_stoppedInstances (ChildInstance.pid_stopped _ _) _

/-- A start, of which is known what its processes note. -/
theorem start [SerdeJson] [TomlText] (has : Host → Nat → Prop) {env : ServiceEnv}
    {request : StartRequest} (noted : services.Noted (has services.host))
    (started : StartStep env request services final)
    (spawns : ∀ key service result last,
      env.metadata.instantiateOne Service.new "*" request.name services.instances =
        some (key, service) →
      (request.deferred ∨ service.metadata.registersTransport = false) →
      request.held service = false →
      spawnAll env service request.context (ensureScopedName request.name) services.host =
        (result, last) →
      ∃ pids, services.host.Notes has (ensureScopedName request.name) pids last ∧
        (∀ insts, result = .ok insts → insts.map ChildInstance.pid = pids) ∧
        ∀ pid, some pid ∈ pids → key = ensureScopedName request.name) :
    final.Noted (has final.host) := by
  have blind : ∀ (inst : ChildInstance) state, (inst.mark state).pid = inst.pid :=
    fun _ _ => rfl
  cases started with
  | missing absent => exact noted
  | postponed key service found later =>
      exact noted.grow has (.none "" rfl fun _ => id) (known_of_instantiated found) rfl
        (List.append_nil _).symm .slnil (by simp)
  | tried key service service' last found now outcome =>
      cases outcome with
      | held running =>
          exact noted.grow has (.none "" rfl fun _ => id) (known_of_instantiated found) rfl
            (List.append_nil _).symm .slnil (by simp)
      | started free insts last spawned =>
          obtain ⟨pids, notes, all, same⟩ := spawns key service _ _ found now free spawned
          refine noted.grow has notes (known_of_instantiated found) rfl ?_ (.refl pids) same
          rw [StartRequest.map_settle blind, List.map_append, all insts rfl]
      | failed free error last lastState spawned =>
          obtain ⟨pids, notes, -, same⟩ := spawns key service _ _ found now free spawned
          refine noted.grow has notes (known_of_instantiated found) rfl ?_ (List.nil_sublist pids)
            same
          rw [StartRequest.map_spoil blind, List.append_nil]

end Services.Noted

/-- A start leaves the host as it is, or spawns the processes of its service. -/
theorem StartStep.host_cases [SerdeJson] [TomlText] {env : ServiceEnv} {request : StartRequest}
    {services final : Services} (started : StartStep env request services final) :
    final.host = services.host ∨ ∃ key service result,
      env.metadata.instantiateOne Service.new "*" request.name services.instances =
        some (key, service) ∧
      (request.deferred ∨ service.metadata.registersTransport = false) ∧
      request.held service = false ∧
      spawnAll env service request.context (ensureScopedName request.name) services.host =
        (result, final.host) := by
  cases started with
  | missing absent => exact .inl rfl
  | postponed key service found later => exact .inl rfl
  | tried key service service' last found now outcome =>
      cases outcome with
      | held running => exact .inl rfl
      | started free insts last spawned =>
          exact .inr ⟨key, service, _, found, now, free, spawned⟩
      | failed free error last lastState spawned =>
          exact .inr ⟨key, service, _, found, now, free, spawned⟩

/-- An exit leads on from where it is recorded. -/
theorem afterExit_fst (pid : Nat) (code : Int) (services : Services) :
    (afterExit pid code services).1 = (recordExit pid code services).1 := by
  rw [afterExit]
  rcases recordExit pid code services with ⟨middle, _ | ⟨key, _ | _⟩⟩ <;> rfl

namespace Services.Noted

variable {has has' : Nat → Prop} {services final : Services}

/-- A process is forgotten, with the instance that has it. -/
theorem forget {pid : Nat} (noted : services.Noted has)
    (pidMap : final.host.runtime.pidMap = services.host.runtime.pidMap.erase pid)
    (keys : ∀ key, key ∈ services.instances → key ∈ final.instances)
    (held : ∀ key service, final.instances.lookup key = some service →
      ∀ other, some other ∈ service.instances.map ChildInstance.pid → other ≠ pid ∧
        services.host.runtime.pidMap.lookup other = some key ∧ has other)
    (apart : ∀ key service, final.instances.lookup key = some service →
      (service.instances.map ChildInstance.pid).Pairwise Unshared)
    (still : ∀ other, other ≠ pid → has other → has' other) : final.Noted has' := by
  refine ⟨?_, apart, ?_⟩
  · intro key service found other member
    obtain ⟨other_ne, listed, before⟩ := held key service found other member
    rw [pidMap, AList.lookup_erase_ne other_ne]
    exact ⟨listed, still other other_ne before⟩
  · intro other key listed
    rw [pidMap] at listed
    by_cases same : other = pid
    · rw [same, AList.lookup_erase] at listed
      cases listed
    · rw [AList.lookup_erase_ne same] at listed
      exact keys key (noted.registered other key listed)

/-- An exit that is recorded leaves no instance with its process. -/
theorem recordExit {pid : Nat} {code : Int} {result : Services × Option (Ustr × ServiceExitAction)}
    (noted : services.Noted has) (step : ExitStep pid code services result)
    (still : ∀ other, other ≠ pid → has other → has' other) : result.1.Noted has' := by
  have forgotten : ((services.host.runtime.forget pid).disarmWatchdogPid pid).pidMap =
      services.host.runtime.pidMap.erase pid := by
    rw [disarmWatchdogPid_pidMap, forget_pidMap]
  have elsewhere : ∀ {key : Ustr} {service : Service},
      services.instances.lookup key = some service →
      services.host.runtime.pidMap.lookup pid ≠ some key →
      ∀ other, some other ∈ service.instances.map ChildInstance.pid → other ≠ pid := by
    intro key service found other_ne other member
    rintro rfl
    exact other_ne (noted.held key service found other member).1
  cases step with
  | unknown unnoted =>
      refine ⟨?_, noted.apart, noted.registered⟩
      intro key service found other member
      obtain ⟨listed, before⟩ := noted.held key service found other member
      refine ⟨listed, still other (elsewhere found ?_ other member) before⟩
      rw [unnoted]
      exact nofun
  | unregistered key listed absent =>
      have known := noted.registered pid key listed
      rw [← AList.lookup_isSome, absent] at known
      cases known
  | unheld key service listed found without =>
      refine noted.forget forgotten (fun _ => id) ?_ noted.apart still
      intro other candidate lookup running member
      refine ⟨?_, noted.held other candidate lookup running member⟩
      rintro rfl
      have here := (noted.held other candidate lookup running member).1
      rw [listed, Option.some_inj] at here
      subst here
      have same := Option.some_inj.mp (found.symm.trans lookup)
      subst same
      obtain ⟨inst, inside, held⟩ := List.mem_map.mp member
      rw [Service.findByPid, List.findIdx?_eq_none_iff] at without
      simpa [held] using without inst inside
  | handled key service index inst listed found position at_ =>
      have before := noted.apart key service found
      obtain ⟨same, at_same, -, exited_pid⟩ := service.instance_of_findByPid position
      have exited : (service.instances.map ChildInstance.pid)[index]? = some (some pid) := by
        rw [List.getElem?_map, at_same, Option.map_some, exited_pid]
      have left := service.map_pid_afterExit_sublist index inst code
      refine noted.forget forgotten ?_ ?_ ?_ still
      · exact fun other known => (AList.mem_insert _).mpr (.inr known)
      · intro other candidate lookup running member
        by_cases at_key : other = key
        · subst at_key
          rw [Services.store, AList.lookup_insert, Option.some_inj] at lookup
          subst lookup
          have member := left.subset member
          refine ⟨?_, noted.held other service found running ?_⟩
          · rintro rfl
            exact Unshared.notMem_set before exited member
          · exact (List.mem_or_eq_of_mem_set member).resolve_right (by simp)
        · rw [Services.store, AList.lookup_insert_ne at_key] at lookup
          refine ⟨elsewhere lookup ?_ running member,
            noted.held other candidate lookup running member⟩
          rw [listed]
          exact fun same => at_key (Option.some_inj.mp same).symm
      · intro other candidate lookup
        by_cases at_key : other = key
        · subst at_key
          rw [Services.store, AList.lookup_insert, Option.some_inj] at lookup
          subst lookup
          exact (Unshared.set_none before index).sublist left
        · rw [Services.store, AList.lookup_insert_ne at_key] at lookup
          exact noted.apart other candidate lookup

end Services.Noted

end Rind
