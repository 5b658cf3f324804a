import Rind.Services.Additions

/-!
# Watchdogs that restart

A watchdog that expires stops its service and starts it again.  The instance
whose watchdog it is should be replaced by one that runs for the same user and
branch, and those of others should be left alone.
-/

namespace Rind

open Runs

/-! ## Expiries -/

/-- The watchdog of an instance expires. The instances of its service have
different processes, which are children, and the one that is concerned belongs
to no other service. -/
structure Expiry (env : ServiceEnv) (services : Services) (fd : Nat) (binding : WatchdogBinding)
    (service : Service) (inst : ChildInstance) : Prop where
  bound : services.host.runtime.watchdogFds.lookup fd = some binding
  restarts : watchdogAction env binding = .restart
  found : services.instances.lookup binding.serviceKey = some service
  member : inst ∈ service.instances
  held : inst.pid = some binding.pid
  noted : services.host.runtime.pidMap.lookup binding.pid = some binding.serviceKey
  children : ∀ pid, some pid ∈ service.instances.map ChildInstance.pid →
    pid ∈ services.host.kernel.children
  apart : (service.instances.map ChildInstance.pid).Pairwise Unshared
  only : ∀ key other, services.instances.lookup key = some other →
    some binding.pid ∈ other.instances.map ChildInstance.pid → key = binding.serviceKey

/-- How an expiry is handled further: the exit of the process, and the start that
a service with an endpoint dispatches to itself, before the exit or after it. -/
structure Handling where
  exited : ServiceEnv
  code : Int
  deferred : Option (ServiceEnv × Bool)

namespace Handling

variable (handling : Handling)

def events (binding : WatchdogBinding) : List (ServiceEnv × ServiceAction) :=
  let exit := (handling.exited, ServiceAction.exit binding.pid handling.code)
  match handling.deferred with
  | none => [exit]
  | some (env, late) =>
      let start :=
        (env, ServiceAction.start (.later (instanceKeyName binding.serviceKey) true))
      if late then [exit, start] else [start, exit]

/-- What the start reads, if it is not deferred the same as the expiry. -/
def starter (env : ServiceEnv) : ServiceEnv := (handling.deferred.map Prod.fst).getD env

/-- Whether the exit is handled before the start. -/
def late : Bool := handling.deferred.any Prod.snd

end Handling

/-- The service with the instances a start finds: those that have a process and
have not exited, if the exit has been handled. -/
def Service.left (service : Service) (late : Bool) (pid : Nat) : Service :=
  if late then
    { service with
      instances := service.instances.filter fun other =>
        other.pid.isSome && other.pid != some pid }
  else service

/-- An instance whose process no instance had before, except one that has
exited. -/
def Service.unseen (service : Service) (pid : Nat) (other : ChildInstance) : Bool :=
  other.pid.isSome &&
    !service.instances.any fun known => known.pid == other.pid && known.pid != some pid

/-- The process of the instance was killed, no process of an instance for another
user or branch was signalled, and exactly one new instance runs, for the same
user and branch. -/
structure Renewed (services : Services) (binding : WatchdogBinding) (service : Service)
    (inst : ChildInstance) (middle final : Services) : Prop where
  killed : ∃ sent ∈ middle.host.kernel.signals.drop services.host.kernel.signals.length,
    sent.pid = binding.pid ∧ sent.signal = .sigkill
  alike : ∀ sent ∈ final.host.kernel.signals.drop services.host.kernel.signals.length,
    ∀ other ∈ service.instances, other.pid = some sent.pid →
      other.user = inst.user ∧ other.key = inst.key
  replaced : ∃ last new, final.instances.lookup binding.serviceKey = some last ∧
    last.instances.filter (service.unseen binding.pid) = [new] ∧ new.user = inst.user ∧
    new.key = inst.key ∧ new.state = .active ∧
    ∃ pid, new.pid = some pid ∧ pid ∈ final.host.kernel.children

section Renewal

variable [SerdeJson] [TomlText]

/-- The name of the service leads back to it, its instances with a process are all
for the user of the expired one and for no branch, the start is not one of a
singleton that has a live instance, and creates exactly one process for that
user. -/
structure Renews (env : ServiceEnv) (services : Services) (binding : WatchdogBinding)
    (service : Service) (inst : ChildInstance) (handling : Handling) : Prop where
  own : env.metadata.instanceKey "*" (instanceKeyName binding.serviceKey) = binding.serviceKey
  resolved : (handling.starter env).metadata.instanceKey "*"
    (instanceKeyName binding.serviceKey) = binding.serviceKey
  alike : ∀ other ∈ service.instances, other.handle.isSome →
    other.user = inst.user ∧ other.key = inst.key
  plain : inst.key = ""
  free : (service.metadata.singleton && (service.left handling.late binding.pid).instances.head?.any
    (·.handle.isSome)) = false
  spawns : SpawnsOne (handling.starter env) (service.left handling.late binding.pid)
    (ensureScopedName (instanceKeyName binding.serviceKey)) inst.user
    fun pid => pid ∈ services.host.kernel.children ∧ ¬(handling.late ∧ pid = binding.pid)

end Renewal

/-! ## Stops -/

theorem ChildInstance.stopped_fate {inst : ChildInstance} {pid : Nat} (held : inst.pid = some pid) :
    (inst.stopped none none).fate = (some pid, true) := by
  obtain ⟨handle, present, same⟩ := Option.map_eq_some_iff.mp held
  rw [stopped, concerns_none, if_pos rfl, present]
  simp [fate, ChildInstance.pid, same]

theorem ChildInstance.isLive_stopped (inst : ChildInstance) :
    (inst.stopped none none).state.isLive = inst.pid.isSome := by
  rw [stopped, concerns_none, if_pos rfl, ChildInstance.pid]
  cases inst.handle <;> rfl

/-- The services once the stop of an expiry is done. -/
structure Halted (services : Services) (binding : WatchdogBinding) (service : Service)
    (halted : Services) : Prop where
  found : ∃ stopped, halted.instances.lookup binding.serviceKey = some stopped ∧
    stopped.metadata = service.metadata ∧
    stopped.instances = service.instances.map (·.stopped none none)
  children : ∀ pid, pid ∈ halted.host.kernel.children ↔ pid ∈ services.host.kernel.children
  noted : halted.host.runtime.pidMap.lookup binding.pid = some binding.serviceKey
  signals : ∃ new, halted.host.kernel.signals = services.host.kernel.signals ++ new ∧
    new.map SentSignal.pid = service.instances.filterMap ChildInstance.pid ∧
    ∀ sent ∈ new, sent.signal = .sigkill

variable {env : ServiceEnv} {services : Services} {fd : Nat} {binding : WatchdogBinding}
  {service : Service} {inst : ChildInstance}

theorem Expiry.stop (expiry : Expiry env services fd binding service inst)
    (own : env.metadata.instanceKey "*" (instanceKeyName binding.serviceKey) =
      binding.serviceKey) :
    ∃ halted, stop env (watchdogStop (instanceKeyName binding.serviceKey))
      (services.updateRuntime (·.dropWatchdog fd binding.pid)) = (.ok (), halted) ∧
      Halted services binding service halted := by
  have made : env.metadata.instantiateOne Service.new "*" (instanceKeyName binding.serviceKey)
      (services.updateRuntime (·.dropWatchdog fd binding.pid)).instances =
        some (binding.serviceKey, service) :=
    MetadataRegistry.instantiateOne_of_known Service.new own expiry.found
  have step := stop_cases env (watchdogStop (instanceKeyName binding.serviceKey))
    (services.updateRuntime (·.dropWatchdog fd binding.pid))
  generalize Rind.stop env _ _ = result at step
  cases step with
  | missing error absent =>
      have absent : env.metadata.instantiateOne Service.new "*"
        (instanceKeyName binding.serviceKey)
        (services.updateRuntime (·.dropWatchdog fd binding.pid)).instances = none := absent
      rw [made] at absent
      cases absent
  | stopped key stopped lastState found =>
      cases Option.some_inj.mp (found.symm.trans made)
      have signalled := Host.Signalled.stopProcesses env.now .forceKill
        (service.stoppedPids none none none)
        (services.updateRuntime (·.dropWatchdog fd binding.pid)).host
      refine ⟨_, rfl, ⟨_, AList.lookup_insert _, rfl, rfl⟩, signalled.children, ?_, ?_⟩
      · exact (congrArg (·.lookup binding.pid) signalled.pidMap).trans expiry.noted
      · exact signals_stopProcesses ..

/-! ## Exits -/

/-- The exit of a process whose instance was stopped removes that instance, and
those that are not live. -/
theorem exit_stopped [SerdeJson] [TomlText] (exited : ServiceEnv) (code : Int)
    {halted : Services} {key : Ustr} {pid : Nat} {stopped : Service}
    (noted : halted.host.runtime.pidMap.lookup pid = some key)
    (found : halted.instances.lookup key = some stopped)
    (child : pid ∈ halted.host.kernel.children)
    (present : some pid ∈ stopped.instances.map ChildInstance.pid)
    (manual : ∀ inst ∈ stopped.instances, inst.pid = some pid → inst.manuallyStopped) :
    ∃ index gone left, (stopped.instances.map ChildInstance.pid)[index]? = some (some pid) ∧
      gone.pid = none ∧ gone.state.isLive = false ∧
      (serviceStep halted (exited, .exit pid code)).instances.lookup key = some left ∧
      left.metadata = stopped.metadata ∧
      left.instances = (stopped.instances.set index gone).filter (·.state.isLive) ∧
      (serviceStep halted (exited, .exit pid code)).host.kernel = halted.host.kernel.reap pid := by
  have before : beforeStart halted (exited, .exit pid code) =
      afterExit pid code (halted.updateKernel (·.reap pid)) := by
    simp only [beforeStart, takeExit, if_pos child]
  have step := recordExit_cases pid code (halted.updateKernel (·.reap pid))
  rw [serviceStep_eq, before, afterExit]
  generalize recordExit pid code _ = result at step
  cases step with
  | unknown absent =>
      have absent : halted.host.runtime.pidMap.lookup pid = none := absent
      rw [noted] at absent
      cases absent
  | unregistered other known absent =>
      cases Option.some_inj.mp (noted.symm.trans known)
      have absent : halted.instances.lookup key = none := absent
      rw [found] at absent
      cases absent
  | unheld other candidate known lookup without =>
      cases Option.some_inj.mp (noted.symm.trans known)
      cases Option.some_inj.mp (found.symm.trans lookup)
      obtain ⟨inst, inside, held⟩ := List.mem_map.mp present
      rw [Service.findByPid, List.findIdx?_eq_none_iff] at without
      simpa [held] using without inst inside
  | handled other candidate index inst known lookup position at_ =>
      cases Option.some_inj.mp (noted.symm.trans known)
      cases Option.some_inj.mp (found.symm.trans lookup)
      obtain ⟨same, at_same, inside, held⟩ := stopped.instance_of_findByPid position
      cases Option.some_inj.mp (at_.symm.trans at_same)
      have action : exitAction stopped.metadata inst code = .stopDependents := by
        rw [exitAction, if_pos (manual inst inside held)]
      refine ⟨index, inst.exited stopped.metadata code, stopped.afterExit index inst code, ?_, rfl,
        rfl, ?_, rfl, ?_, ?_⟩
      · rw [List.getElem?_map, at_, Option.map_some, held]
      · rw [action]
        exact AList.lookup_insert _
      · rw [Service.afterExit, action]
        rfl
      · rw [action]
        rfl

/-! ## Lists of instances -/

/-- An instance with the process of an old one that has not exited is no new one. -/
theorem Service.unseen_eq_false {index pid : Nat} {other : ChildInstance}
    (apart : (service.instances.map ChildInstance.pid).Pairwise Unshared)
    (exited : (service.instances.map ChildInstance.pid)[index]? = some (some pid))
    (old : ∀ held, other.pid = some held →
      some held ∈ (service.instances.map ChildInstance.pid).set index none) :
    service.unseen pid other = false := by
  cases held : other.pid with
  | none => simp [Service.unseen, held]
  | some running =>
      have inside := old running held
      have running_ne : running ≠ pid := by
        rintro rfl
        exact Unshared.notMem_set apart exited inside
      have known := (List.mem_or_eq_of_mem_set inside).resolve_right (by simp)
      obtain ⟨known, member, known_pid⟩ := List.mem_map.mp known
      have seen : (service.instances.any fun known =>
          known.pid == some running && known.pid != some pid) = true := by
        apply List.any_eq_true.mpr
        exact ⟨known, member, by simp [known_pid, running_ne]⟩
      rw [Service.unseen, held, seen]
      rfl

/-- An instance with a process that is no other child is a new one. -/
theorem Expiry.unseen_eq_true (expiry : Expiry env services fd binding service inst)
    {other : ChildInstance} {pid : Nat} (held : other.pid = some pid)
    (fresh : pid ∈ services.host.kernel.children → pid = binding.pid) :
    service.unseen binding.pid other = true := by
  have unseen : (service.instances.any fun known =>
      known.pid == some pid && known.pid != some binding.pid) = false := by
    apply List.any_eq_false.mpr
    intro known member same
    rw [Bool.and_eq_true, beq_iff_eq, bne_iff_ne] at same
    have child := expiry.children pid (List.mem_map.mpr ⟨known, member, same.1⟩)
    rw [fresh child] at same
    exact same.2 same.1
  rw [Service.unseen, held, unseen]
  rfl

/-- What an exit leaves of stopped instances. -/
theorem filter_isLive_set {insts : List ChildInstance} {index pid : Nat} {gone : ChildInstance}
    (apart : (insts.map ChildInstance.pid).Pairwise Unshared)
    (exited : (insts.map ChildInstance.pid)[index]? = some (some pid))
    (dead : gone.state.isLive = false) :
    ((insts.map (·.stopped none none)).set index gone).filter (·.state.isLive) =
      (insts.filter fun other => other.pid.isSome && other.pid != some pid).map
        (·.stopped none none) := by
  induction insts generalizing index with
  | nil => cases exited
  | cons first rest ih =>
      obtain ⟨head, tail⟩ := List.pairwise_cons.mp apart
      cases index with
      | zero =>
          rw [List.map_cons, List.getElem?_cons_zero, Option.some_inj] at exited
          rw [List.map_cons, List.set_cons_zero, List.filter_cons_of_neg (by simp [dead]),
            List.filter_cons_of_neg (by simp [exited]), List.filter_map]
          congr 1
          apply List.filter_congr
          intro other member
          have other_ne : other.pid ≠ some pid :=
            head other.pid (List.mem_map_of_mem member) pid exited
          simp [ChildInstance.isLive_stopped, other_ne]
      | succ index =>
          rw [List.map_cons, List.getElem?_cons_succ] at exited
          have first_ne : first.pid ≠ some pid := by
            intro same
            exact head (some pid) (List.mem_of_getElem? exited) pid same rfl
          rw [List.map_cons, List.set_cons_succ, List.filter_cons, List.filter_cons,
            ChildInstance.isLive_stopped, ih tail exited]
          cases held : first.pid with
          | none => simp
          | some running =>
              rw [held] at first_ne
              simp [first_ne]

theorem Service.holdsSingleton_stopped {stopped original : Service}
    (metadata : stopped.metadata = original.metadata)
    (instances : stopped.instances = original.instances.map (·.stopped none none)) :
    stopped.holdsSingleton =
      (original.metadata.singleton && original.instances.head?.any (·.handle.isSome)) := by
  have live : ∀ inst : ChildInstance,
      (inst.stopped none none).state.isLive = inst.handle.isSome := by
    intro inst
    rw [ChildInstance.isLive_stopped, ChildInstance.pid, Option.isSome_map]
  rw [Service.holdsSingleton, metadata, instances]
  cases original.instances with
  | nil => rfl
  | cons first rest =>
      simp only [List.map_cons, List.head?_cons, Option.any_some, live]

theorem map_user_stopped (insts : List ChildInstance) :
    (insts.map (·.stopped none none)).map ChildInstance.user = insts.map ChildInstance.user := by
  rw [List.map_map]
  exact List.map_congr_left fun inst _ => inst.user_stopped none none

theorem map_pid_of_fate {insts others : List ChildInstance}
    (same : insts.map ChildInstance.fate = others.map ChildInstance.fate) :
    insts.map ChildInstance.pid = others.map ChildInstance.pid := by
  have first : ∀ insts : List ChildInstance,
      insts.map ChildInstance.pid = (insts.map ChildInstance.fate).map Prod.fst := by
    intro insts
    rw [List.map_map]
    rfl
  rw [first, first, same]

/-! ## The two orders -/

theorem Expiry.child (expiry : Expiry env services fd binding service inst) :
    binding.pid ∈ services.host.kernel.children :=
  expiry.children binding.pid (List.mem_map.mpr ⟨inst, expiry.member, expiry.held⟩)

/-- Old instances and new ones. -/
theorem Expiry.filter_unseen (expiry : Expiry env services fd binding service inst)
    {old added : List ChildInstance} {index : Nat}
    (exited : (service.instances.map ChildInstance.pid)[index]? = some (some binding.pid))
    (kept : ∀ pid, some pid ∈ old.map ChildInstance.pid →
      some pid ∈ (service.instances.map ChildInstance.pid).set index none)
    (fresh : ∀ other ∈ added, ∃ pid, other.pid = some pid ∧
      (pid ∈ services.host.kernel.children → pid = binding.pid)) :
    (old ++ added).filter (service.unseen binding.pid) = added := by
  have before : old.filter (service.unseen binding.pid) = [] := by
    apply List.filter_eq_nil_iff.mpr
    intro other member
    rw [Bool.not_eq_true]
    refine service.unseen_eq_false expiry.apart exited ?_
    exact fun pid held => kept pid (List.mem_map.mpr ⟨other, member, held⟩)
  have after : added.filter (service.unseen binding.pid) = added := by
    apply List.filter_eq_self.mpr
    intro other member
    obtain ⟨pid, held, fresh⟩ := fresh other member
    exact expiry.unseen_eq_true held fresh
  rw [List.filter_append, before, after, List.nil_append]

section Orders

variable [SerdeJson] [TomlText]

/-- What the start and the exit after an expiry come to. -/
structure Outcome (starter : ServiceEnv) (services : Services) (binding : WatchdogBinding)
    (service : Service) (late : Bool) (final : Services) (last : Service)
    (added : List ChildInstance) : Prop where
  found : final.instances.lookup binding.serviceKey = some last
  unseen : last.instances.filter (service.unseen binding.pid) = added
  fresh : ∀ new ∈ added, new.key = "" ∧ new.state = .active
  one_iff : ∀ user,
    (∃ new, added = [new] ∧ new.user = user ∧
      ∃ pid, new.pid = some pid ∧ pid ∈ final.host.kernel.children) ↔
    starter.metadata.instanceKey "*" (instanceKeyName binding.serviceKey) = binding.serviceKey ∧
      (service.metadata.singleton &&
        (service.left late binding.pid).instances.head?.any (·.handle.isSome)) = false ∧
      SpawnsOne starter (service.left late binding.pid)
        (ensureScopedName (instanceKeyName binding.serviceKey)) user
        fun pid => pid ∈ services.host.kernel.children ∧ ¬(late ∧ pid = binding.pid)

/-- The start comes first. -/
theorem Halted.early {state : Services} (halted : Halted services binding service state)
    (expiry : Expiry env services fd binding service inst) (deferred : Bool)
    (now : deferred = true ∨ service.metadata.registersTransport = false)
    (starter exited : ServiceEnv) (code : Int) :
    ∃ last added, Outcome starter services binding service false
        (serviceStep (start starter (.later (instanceKeyName binding.serviceKey) deferred) state).2
          (exited, .exit binding.pid code)) last added ∧
      state.host.kernel.signals <+: (serviceStep
        (start starter (.later (instanceKeyName binding.serviceKey) deferred) state).2
          (exited, .exit binding.pid code)).host.kernel.signals := by
  obtain ⟨stopped, found, metadata, instances⟩ := halted.found
  rw [← metadata] at now
  obtain ⟨last, old, added, lookup, adds⟩ := start_added starter _ found now
  generalize (start starter (.later (instanceKeyName binding.serviceKey) deferred) state).2 =
    started at lookup adds
  have child : binding.pid ∈ state.host.kernel.children :=
    (halted.children binding.pid).mpr expiry.child
  have pids : old.map ChildInstance.pid = service.instances.map ChildInstance.pid := by
    rw [map_pid_of_fate adds.kept, instances, List.map_map]
    exact List.map_congr_left fun inst _ => inst.pid_stopped none none
  have apart : ∀ new ∈ added, ∀ pid, new.pid = some pid → pid ≠ binding.pid := by
    rintro new member pid held rfl
    obtain ⟨-, -, other, held', fresh⟩ := adds.fresh new member
    cases Option.some_inj.mp (held.symm.trans held')
    exact fresh child
  have present : some binding.pid ∈ last.instances.map ChildInstance.pid := by
    rw [adds.instances, List.map_append, pids]
    exact List.mem_append_left _ (List.mem_map.mpr ⟨inst, expiry.member, expiry.held⟩)
  have manual : ∀ other ∈ last.instances, other.pid = some binding.pid →
      other.manuallyStopped := by
    intro other member held
    rw [adds.instances] at member
    rcases List.mem_append.mp member with member | member
    · have fate : other.fate ∈ old.map ChildInstance.fate := List.mem_map_of_mem member
      rw [adds.kept, instances, List.map_map] at fate
      obtain ⟨original, -, same⟩ := List.mem_map.mp fate
      have original_pid : original.pid = some binding.pid := by
        rw [← held, ← original.pid_stopped none none]
        exact congrArg Prod.fst same
      rw [Function.comp_apply, ChildInstance.stopped_fate original_pid] at same
      exact (congrArg Prod.snd same).symm
    · exact absurd rfl (apart other member binding.pid held)
  have noted : started.host.runtime.pidMap.lookup binding.pid = some binding.serviceKey :=
    (adds.grown.noted binding.pid child).trans halted.noted
  obtain ⟨index, gone, left, exited_at, gone_pid, -, found_left, metadata_left, left_eq, kernel⟩ :=
    exit_stopped exited code noted lookup (adds.grown.children _ child) present manual
  generalize serviceStep started (exited, .exit binding.pid code) = final at found_left kernel
  rw [adds.instances, List.map_append] at exited_at
  have inside : index < (old.map ChildInstance.pid).length := by
    by_contra outside
    rw [List.getElem?_append_right (Nat.not_lt.mp outside)] at exited_at
    obtain ⟨new, member, held⟩ := List.mem_map.mp (List.mem_of_getElem? exited_at)
    exact apart new member binding.pid held rfl
  rw [List.getElem?_append_left inside, pids] at exited_at
  rw [List.length_map] at inside
  have running : added.filter (·.state.isLive) = added := by
    apply List.filter_eq_self.mpr
    intro new member
    rw [(adds.fresh new member).2.1]
    rfl
  refine ⟨left, added, ⟨found_left, ?_, ?_, ?_⟩, ?_⟩
  · rw [left_eq, adds.instances, List.set_append_left _ _ inside, List.filter_append, running]
    refine expiry.filter_unseen exited_at ?_ ?_
    · intro pid held
      have kept := (List.filter_sublist.map ChildInstance.pid).subset held
      rw [List.map_set, gone_pid, pids] at kept
      exact kept
    · intro new member
      obtain ⟨-, -, pid, held, fresh⟩ := adds.fresh new member
      exact ⟨pid, held, fun known => absurd ((halted.children pid).mpr known) fresh⟩
  · exact fun new member => ⟨(adds.fresh new member).1, (adds.fresh new member).2.1⟩
  · intro user
    have same : ∀ pid, (pid ∈ state.host.kernel.children ↔
        pid ∈ services.host.kernel.children ∧ ¬(false = true ∧ pid = binding.pid)) := by
      intro pid
      simp [halted.children]
    have users : stopped.instances.map ChildInstance.user =
        service.instances.map ChildInstance.user := by
      rw [instances, map_user_stopped]
    have one := adds.one_iff user
    rw [Service.holdsSingleton_stopped metadata instances,
      SpawnsOne.congr metadata users same] at one
    refine Iff.trans ?_ one
    have reaped : ∀ new ∈ added, ∀ pid, new.pid = some pid →
        (pid ∈ final.host.kernel.children ↔ pid ∈ started.host.kernel.children) := by
      intro new member pid held
      rw [kernel]
      exact AList.mem_erase.trans (and_iff_right (apart new member pid held))
    constructor
    · rintro ⟨new, rfl, same, pid, held, child⟩
      exact ⟨new, rfl, same, pid, held, (reaped new List.mem_cons_self pid held).mp child⟩
    · rintro ⟨new, rfl, same, pid, held, child⟩
      exact ⟨new, rfl, same, pid, held, (reaped new List.mem_cons_self pid held).mpr child⟩
  · rw [kernel]
    exact adds.grown.signals

/-- The exit comes first. -/
theorem Halted.late {state : Services} (halted : Halted services binding service state)
    (expiry : Expiry env services fd binding service inst)
    (starter exited : ServiceEnv) (code : Int) :
    ∃ last added, Outcome starter services binding service true
        (start starter (.later (instanceKeyName binding.serviceKey) true)
          (serviceStep state (exited, .exit binding.pid code))).2 last added ∧
      state.host.kernel.signals <+: (start starter
        (.later (instanceKeyName binding.serviceKey) true)
          (serviceStep state (exited, .exit binding.pid code))).2.host.kernel.signals := by
  obtain ⟨stopped, found, metadata, instances⟩ := halted.found
  have child : binding.pid ∈ state.host.kernel.children :=
    (halted.children binding.pid).mpr expiry.child
  have pids : stopped.instances.map ChildInstance.pid =
      service.instances.map ChildInstance.pid := by
    rw [instances, List.map_map]
    exact List.map_congr_left fun inst _ => inst.pid_stopped none none
  have present : some binding.pid ∈ stopped.instances.map ChildInstance.pid := by
    rw [pids]
    exact List.mem_map.mpr ⟨inst, expiry.member, expiry.held⟩
  have manual : ∀ other ∈ stopped.instances, other.pid = some binding.pid →
      other.manuallyStopped := by
    intro other member held
    rw [instances] at member
    obtain ⟨original, -, rfl⟩ := List.mem_map.mp member
    rw [original.pid_stopped none none] at held
    exact congrArg Prod.snd (ChildInstance.stopped_fate held)
  obtain ⟨index, gone, left, exited_at, gone_pid, dead, found_left, metadata_left, left_eq,
    kernel⟩ := exit_stopped exited code halted.noted found child present manual
  generalize serviceStep state (exited, .exit binding.pid code) = middle at found_left kernel
  obtain ⟨last, old, added, lookup, adds⟩ :=
    start_added starter (instanceKeyName binding.serviceKey) found_left (.inl rfl)
  generalize (start starter (.later (instanceKeyName binding.serviceKey) true) middle).2 =
    final at lookup adds
  rw [pids] at exited_at
  have middle_child : ∀ pid, pid ∈ middle.host.kernel.children ↔
      pid ∈ services.host.kernel.children ∧ ¬(true = true ∧ pid = binding.pid) := by
    intro pid
    rw [kernel, Kernel.reap, AList.mem_erase, halted.children, and_comm]
    simp
  refine ⟨last, added, ⟨lookup, ?_, ?_, ?_⟩, ?_⟩
  · rw [adds.instances]
    refine expiry.filter_unseen exited_at ?_ ?_
    · intro pid held
      rw [map_pid_of_fate adds.kept, left_eq] at held
      have kept := (List.filter_sublist.map ChildInstance.pid).subset held
      rw [List.map_set, gone_pid, pids] at kept
      exact kept
    · intro new member
      obtain ⟨-, -, pid, held, fresh⟩ := adds.fresh new member
      refine ⟨pid, held, fun known => ?_⟩
      by_contra other
      exact fresh ((middle_child pid).mpr ⟨known, fun same => other same.2⟩)
  · exact fun new member => ⟨(adds.fresh new member).1, (adds.fresh new member).2.1⟩
  · intro user
    have apart := expiry.apart
    have same : left.instances =
        (service.left true binding.pid).instances.map (·.stopped none none) := by
      rw [left_eq, instances, filter_isLive_set apart exited_at dead]
      rfl
    have same_metadata : left.metadata = (service.left true binding.pid).metadata :=
      metadata_left.trans metadata
    have users : left.instances.map ChildInstance.user =
        (service.left true binding.pid).instances.map ChildInstance.user := by
      rw [same, map_user_stopped]
    have one := adds.one_iff user
    rw [Service.holdsSingleton_stopped same_metadata same,
      SpawnsOne.congr same_metadata users middle_child] at one
    exact one
  · have signals : middle.host.kernel.signals = state.host.kernel.signals := by
      rw [kernel]
      rfl
    rw [← signals]
    exact adds.grown.signals

end Orders

/-! ## Renewals -/

section Renewals

variable [SerdeJson] [TomlText] {handling : Handling}

/-- A start that is postponed leaves the services halted. -/
theorem Halted.postponed {state : Services} (halted : Halted services binding service state)
    (later : service.metadata.registersTransport = true)
    (own : env.metadata.instanceKey "*" (instanceKeyName binding.serviceKey) =
      binding.serviceKey) :
    Halted services binding service
      (start env (.later (instanceKeyName binding.serviceKey) false) state).2 := by
  obtain ⟨stopped, found, metadata, instances⟩ := halted.found
  have made := MetadataRegistry.instantiateOne_of_known Service.new own found
  have step : StartStep env (.later (instanceKeyName binding.serviceKey) false) state
    (start env (.later (instanceKeyName binding.serviceKey) false) state).2 := start_cases state
  generalize (start env (.later (instanceKeyName binding.serviceKey) false) state).2 = final at step
  cases step with
  | missing absent => exact halted
  | postponed key candidate known _ =>
      cases Option.some_inj.mp (made.symm.trans known)
      refine ⟨⟨stopped, AList.lookup_insert _, metadata, instances⟩, halted.children,
        halted.noted, halted.signals⟩
  | tried key candidate last final known now outcome =>
      cases Option.some_inj.mp (made.symm.trans known)
      rcases now with now | now
      · cases now
      · rw [metadata, later] at now
        cases now

/-- An expiry whose name leads elsewhere kills another process. -/
theorem Expiry.not_killed (expiry : Expiry env services fd binding service inst)
    (lost : env.metadata.instanceKey "*" (instanceKeyName binding.serviceKey) ≠
      binding.serviceKey) :
    ∀ sent ∈ (serviceStep services (env, .watchdogExpired fd)).host.kernel.signals.drop
      services.host.kernel.signals.length, sent.pid ≠ binding.pid := by
  have step := stop_cases env (watchdogStop (instanceKeyName binding.serviceKey))
    (services.updateRuntime (·.dropWatchdog fd binding.pid))
  simp only [serviceStep, watchdogExpired, expiry.bound, expiry.restarts]
  generalize Rind.stop env _ _ = result at step
  cases step with
  | missing error absent => simp [Services.updateRuntime]
  | stopped key stopped lastState found =>
      have signalled := Host.Signalled.stopProcesses env.now .forceKill
        (stopped.stoppedPids none none none)
        (services.updateRuntime (·.dropWatchdog fd binding.pid)).host
      have spared : binding.pid ∉ stopped.stoppedPids none none none := by
        intro member
        obtain ⟨running, inside, held⟩ := Service.pid_of_mem_stoppedPids member
        obtain ⟨rfl, known | ⟨-, item, rfl⟩⟩ := MetadataRegistry.instantiateOne_cases found
        · exact lost (expiry.only _ stopped known (List.mem_map.mpr ⟨running, inside, held⟩))
        · exact absurd inside List.not_mem_nil
      obtain ⟨new, signals, pids, -⟩ := signals_stopProcesses env.now .forceKill
        (stopped.stoppedPids none none none)
        (services.updateRuntime (·.dropWatchdog fd binding.pid)).host
      generalize halted_eq : ({ instances := _, host := _ } : Services) = halted
      have host : halted.host = stopProcesses env.now .forceKill
          (stopped.stoppedPids none none none)
          (services.updateRuntime (·.dropWatchdog fd binding.pid)).host := by
        rw [← halted_eq]
        rfl
      have grown := start_grown env halted (instanceKeyName binding.serviceKey) false
      have child : binding.pid ∈ halted.host.kernel.children := by
        rw [host]
        exact (signalled.children binding.pid).mpr expiry.child
      have before : halted.host.kernel.signals = services.host.kernel.signals ++ new := by
        rw [host, signals]
        rfl
      obtain ⟨more, after⟩ := grown.signals
      have spared_later := grown.spared
      rw [← after, List.drop_left] at spared_later
      have all : (start env (.plain (instanceKeyName binding.serviceKey)) halted).2.host.kernel.signals
          = services.host.kernel.signals ++ (new ++ more) := by
        rw [← List.append_assoc, ← before]
        exact after.symm
      rw [all, List.drop_left]
      rintro sent member same
      rcases List.mem_append.mp member with member | member
      · apply spared
        rw [← same, ← pids]
        exact List.mem_map_of_mem member
      · apply spared_later sent member
        rw [same]
        exact child

variable (handling) in
/-- What an expiry comes to, once the name has led back to the service. -/
theorem Outcome.renewed_iff {middle final : Services} {last : Service}
    {added : List ChildInstance} {new more : List SentSignal}
    (outcome : Outcome (handling.starter env) services binding service handling.late final last
      added)
    (expiry : Expiry env services fd binding service inst)
    (own : env.metadata.instanceKey "*" (instanceKeyName binding.serviceKey) =
      binding.serviceKey)
    (pids : new.map SentSignal.pid = service.instances.filterMap ChildInstance.pid)
    (lethal : ∀ sent ∈ new, sent.signal = .sigkill)
    (early : services.host.kernel.signals ++ new <+: middle.host.kernel.signals)
    (signals : final.host.kernel.signals = services.host.kernel.signals ++ new ++ more) :
    Renewed services binding service inst middle final ↔
      Renews env services binding service inst handling := by
  have signalled : ∀ other ∈ service.instances, ∀ pid, other.pid = some pid →
      ∃ sent ∈ new, sent.pid = pid := by
    intro other member pid held
    have inside : pid ∈ new.map SentSignal.pid := by
      rw [pids]
      exact List.mem_filterMap.mpr ⟨other, member, held⟩
    exact List.mem_map.mp inside
  have later : final.host.kernel.signals.drop services.host.kernel.signals.length =
      new ++ more := by
    rw [signals, List.append_assoc, List.drop_left]
  have has_pid : ∀ other : ChildInstance, other.handle.isSome →
      ∃ pid, other.pid = some pid := by
    intro other running
    obtain ⟨handle, present⟩ := Option.isSome_iff_exists.mp running
    exact ⟨handle.pid, by rw [ChildInstance.pid, present, Option.map_some]⟩
  constructor
  · intro renewed
    obtain ⟨last', added', found, unseen, user, key, -, running⟩ := renewed.replaced
    cases Option.some_inj.mp (outcome.found.symm.trans found)
    rw [outcome.unseen] at unseen
    obtain ⟨resolved, free, spawns⟩ := (outcome.one_iff inst.user).mp ⟨added', unseen, user, running⟩
    have plain := (outcome.fresh added' (by rw [unseen]; exact List.mem_cons_self)).1
    refine ⟨own, resolved, ?_, key.symm.trans plain, free, spawns⟩
    intro other member running
    obtain ⟨pid, held⟩ := has_pid other running
    obtain ⟨sent, inside, same⟩ := signalled other member pid held
    refine renewed.alike sent ?_ other member (by rw [held, same])
    rw [later]
    exact List.mem_append_left _ inside
  · intro renews
    refine ⟨?_, ?_, ?_⟩
    · obtain ⟨sent, inside, same⟩ := signalled inst expiry.member binding.pid expiry.held
      obtain ⟨rest, middle_eq⟩ := early
      refine ⟨sent, ?_, same, lethal sent inside⟩
      rw [← middle_eq, List.append_assoc, List.drop_left]
      exact List.mem_append_left _ inside
    · intro sent _ other member held
      refine renews.alike other member ?_
      obtain ⟨handle, present, -⟩ := Option.map_eq_some_iff.mp held
      rw [present, Option.isSome_some]
    · obtain ⟨new, added_eq, user, running⟩ :=
        (outcome.one_iff inst.user).mpr ⟨renews.resolved, renews.free, renews.spawns⟩
      obtain ⟨key, state⟩ := outcome.fresh new (by rw [added_eq]; exact List.mem_cons_self)
      exact ⟨last, new, outcome.found, outcome.unseen.trans added_eq, user,
        key.trans renews.plain.symm, state, running⟩

end Renewals

/-! ## A singleton -/

open scoped Compact

/-- The services once one with a watchdog runs as process 100. -/
def watched (metadata : ServiceMetadata) : Services :=
  (start (loneEnv metadata 100) (.plain "app:worker") .boot).2

/-- The watchdog of process 100. -/
def watchedBinding : WatchdogBinding where
  serviceKey := "app:worker@static"
  branch := none
  user := none
  pid := 100

/-- The instance of process 100. -/
def watchedInstance : ChildInstance := .new "" none (some ⟨100⟩)

/-- A service with a watchdog of which only one instance may run. -/
def singleService : ServiceMetadata := { watchedService with singleton := true }

end Rind
