import Rind.Services.Reaped

/-!
# What plain starts add

A plain start leaves the processes of a service as they are and adds new ones.
When it adds exactly one can be told from what it reads.
-/

namespace Rind

section Spawning

variable [SerdeJson] [TomlText] {env : ServiceEnv} {service : Service} {registryKey : Ustr}
  {user : Option Ustr} {host final : Host}

/-- A plain start creates exactly one process that keeps running, as a user. -/
structure SpawnsOne (env : ServiceEnv) (service : Service) (registryKey : Ustr)
    (user : Option Ustr) (busy : Nat → Prop) : Prop where
  active : isInactive env.facets registryKey = false
  spawns : ∃ run launch pid cgroup timer, service.metadata.run.asMany = [run] ∧
    prepare env service none registryKey ((resolveRunOption env.heap run).getD run) =
      .ok launch ∧
    launch.executor = .native ∧ launch.user = user ∧
    Executor.waits service.metadata launch.isolation = false ∧
    env.answer 0 = .created pid cgroup timer ∧ ¬ busy pid ∧
    setupCgroupForPid launch.isolation (.created pid cgroup timer) = none

/-- Of the instances of the service only their users count. -/
theorem SpawnsOne.congr {other : Service} {busy busy' : Nat → Prop}
    (metadata : service.metadata = other.metadata)
    (users : service.instances.map ChildInstance.user = other.instances.map ChildInstance.user)
    (same : ∀ pid, busy pid ↔ busy' pid) :
    SpawnsOne env service registryKey user busy ↔ SpawnsOne env other registryKey user busy' := by
  have prepared : ∀ run, prepare env service none registryKey run =
      prepare env other none registryKey run := by
    intro run
    simp only [prepare, resolveUser_congr metadata users, metadata]
  constructor
  · rintro ⟨active, spawns⟩
    simp only [metadata, prepared, same] at spawns
    exact ⟨active, spawns⟩
  · rintro ⟨active, spawns⟩
    simp only [← metadata, ← prepared, ← same] at spawns
    exact ⟨active, spawns⟩

omit [TomlText] in
/-- A created process that still runs, by what was settled before. -/
theorem spawnProcess_eq_ok {run : RunOption} {answer : SpawnAnswer} {inst : ChildInstance}
    (spawned : spawnProcess env service none registryKey run answer host = (.ok inst, final)) :
    ∃ launch pid cgroup timer, prepare env service none registryKey run = .ok launch ∧
      launch.executor = .native ∧ answer = .created pid cgroup timer ∧
      pid ∉ host.kernel.children ∧ setupCgroupForPid launch.isolation answer = none ∧
      inst = .new "" launch.user (some ⟨pid⟩) ∧
      final.kernel = if Executor.waits service.metadata launch.isolation then host.kernel
        else host.kernel.fork pid ⟨run, launch.user, false⟩ := by
  rw [spawnProcess] at spawned
  split at spawned
  · simp at spawned
  · next launch prepared =>
      split at spawned
      · simp at spawned
      · next handle kernel executed =>
          obtain ⟨native, ⟨cgroup, timer, answered⟩, fresh, forked⟩ := Executor.spawn_ok executed
          split at spawned
          · simp at spawned
          · next grouped =>
              cases spawned
              exact ⟨launch, handle.pid, cgroup, timer, prepared, native, answered, fresh, grouped,
                rfl, forked⟩

omit [TomlText] in
/-- And it is created, where all of that is settled. -/
theorem spawnProcess_of_prepared {run : RunOption} {answer : SpawnAnswer} {launch : Launch}
    {pid : Nat} {cgroup : Option CoreError} {timer : Option Nat}
    (prepared : prepare env service none registryKey run = .ok launch)
    (native : launch.executor = .native)
    (left : Executor.waits service.metadata launch.isolation = false)
    (answered : answer = .created pid cgroup timer) (fresh : pid ∉ host.kernel.children)
    (grouped : setupCgroupForPid launch.isolation answer = none) :
    ∃ final, spawnProcess env service none registryKey run answer host =
      (.ok (.new "" launch.user (some ⟨pid⟩)), final) ∧ pid ∈ final.kernel.children := by
  subst answered
  rw [spawnProcess, prepared]
  simp only [native, Executor.spawn, if_neg fresh, left, grouped]
  exact ⟨_, rfl, Kernel.mem_children_fork.mpr (.inr rfl)⟩

theorem spawnsOne_iff :
    (∃ inst final, spawnAll env service none registryKey host = (.ok [inst], final) ∧
      inst.user = user ∧ ∃ pid, inst.pid = some pid ∧ pid ∈ final.kernel.children) ↔
    SpawnsOne env service registryKey user (· ∈ host.kernel.children) := by
  constructor
  · rintro ⟨inst, final, spawned, same, pid', held, child⟩
    rw [spawnAll] at spawned
    split at spawned
    · simp at spawned
    · next active =>
        refine ⟨Bool.eq_false_iff.mpr active, ?_⟩
        obtain ⟨run, runs⟩ := List.length_eq_one_iff.mp (length_spawnEach spawned).symm
        rw [runs, spawnEach] at spawned
        split at spawned
        · simp at spawned
        · next first middle started =>
            cases spawned
            obtain ⟨launch, pid, cgroup, timer, prepared, native, answered, fresh, grouped, rfl,
              forked⟩ := spawnProcess_eq_ok started
            cases held
            refine ⟨run, launch, pid, cgroup, timer, runs, prepared, native, same, ?_, answered,
              fresh, answered ▸ grouped⟩
            by_contra collected
            rw [Bool.not_eq_false] at collected
            rw [forked, if_pos collected] at child
            exact fresh child
  · rintro ⟨active, run, launch, pid, cgroup, timer, runs, prepared, native, rfl, left, answered,
      fresh, grouped⟩
    rw [← answered] at grouped
    have fresh : pid ∉ host.kernel.children := fresh
    obtain ⟨final, spawned, child⟩ :=
      spawnProcess_of_prepared prepared native left answered fresh grouped
    refine ⟨.new "" launch.user (some ⟨pid⟩), final, ?_, rfl, pid, rfl, child⟩
    rw [spawnAll, active, runs, if_neg Bool.false_ne_true, spawnEach, spawned]
    rfl

end Spawning

/-! ## Starts -/

/-- A host on which processes were started: children stay, with what is noted of
them, and so do the signals. -/
structure Host.Extends (host final : Host) : Prop where
  children : ∀ pid ∈ host.kernel.children, pid ∈ final.kernel.children
  noted : ∀ pid ∈ host.kernel.children,
    final.runtime.pidMap.lookup pid = host.runtime.pidMap.lookup pid
  spared : ∀ sent ∈ final.kernel.signals.drop host.kernel.signals.length,
    sent.pid ∉ host.kernel.children
  signals : host.kernel.signals <+: final.kernel.signals

namespace Host.Extends

variable {host middle final : Host}

theorem refl (host : Host) : host.Extends host :=
  ⟨fun _ => id, fun _ _ => rfl, by simp, List.prefix_rfl⟩

theorem trans (first : host.Extends middle) (second : middle.Extends final) :
    host.Extends final where
  children pid child := second.children pid (first.children pid child)
  noted pid child := by rw [second.noted pid (first.children pid child), first.noted pid child]
  spared := by
    obtain ⟨sent, first_eq⟩ := first.signals
    obtain ⟨more, second_eq⟩ := second.signals
    have before := first.spared
    have after := second.spared
    rw [← second_eq, List.drop_left] at after
    rw [← first_eq, List.drop_left] at before
    rw [← second_eq, ← first_eq, List.append_assoc, List.drop_left]
    intro signal member
    rcases List.mem_append.mp member with member | member
    · exact before signal member
    · exact fun child => after signal member (first.children signal.pid child)
  signals := first.signals.trans second.signals

/-- Children are added, and nothing but them is noted. -/
theorem of_fork (pid : Nat) (process : Process)
    (kernel : final.kernel = host.kernel ∨ final.kernel = host.kernel.fork pid process)
    (noted : ∀ other ∈ host.kernel.children,
      final.runtime.pidMap.lookup other = host.runtime.pidMap.lookup other) :
    host.Extends final := by
  have signals : final.kernel.signals = host.kernel.signals := by
    rcases kernel with same | forked
    · rw [same]
    · rw [forked, Kernel.signals_fork]
  refine ⟨?_, noted, by simp [signals], by rw [signals]⟩
  intro other child
  rcases kernel with same | forked
  · rw [same]
    exact child
  · rw [forked]
    exact Kernel.mem_children_fork.mpr (.inl child)

theorem of_spawned {env : ServiceEnv} {service : Service} {ctx : Option ServiceBranchContext}
    {registryKey : Ustr} {run : RunOption} {answer : SpawnAnswer} {inst : ChildInstance}
    (spawned : Spawned env service ctx registryKey run answer host inst final) :
    host.Extends final := by
  have forked := spawned.kernel_eq
  refine of_fork spawned.pid ⟨run, spawned.launch.user, false⟩ ?_ ?_
  · split at forked
    · exact .inl forked
    · exact .inr forked
  · intro other child
    have other_ne : other ≠ spawned.pid := by
      rintro rfl
      exact spawned.fresh child
    rw [spawned.runtime_eq, registerProcess_pidMap, AList.lookup_insert_ne other_ne]

theorem of_spawnedAll {env : ServiceEnv} {service : Service} {ctx : Option ServiceBranchContext}
    {registryKey : Ustr} {index : Nat} {insts : List ChildInstance}
    (spawned : SpawnedAll env service ctx registryKey index host insts final) :
    host.Extends final := by
  induction spawned with
  | nil index host => exact refl host
  | cons run first others ih => exact (of_spawned first).trans ih

theorem of_spawnFailed {collected : Bool} {answer : SpawnAnswer}
    (failed : SpawnFailed collected answer host final) : host.Extends final := by
  cases failed with
  | refused => exact refl host
  | abandoned pid error process left => exact of_fork pid process (.inr rfl) fun _ _ => rfl
  | killed pid process kernel fresh answered forked =>
      have first : host.Extends { host with kernel } := by
        refine of_fork pid process ?_ fun _ _ => rfl
        split at forked
        · exact .inl forked
        · exact .inr forked
      have same : kernel.signals = host.kernel.signals := by
        rw [forked]
        split
        · rfl
        · exact Kernel.signals_fork
      refine ⟨?_, first.noted, ?_, ?_⟩
      · exact fun other child => Kernel.mem_children_kill.mpr (first.children other child)
      · rw [Kernel.kill, same, List.drop_left]
        intro sent member
        cases List.mem_singleton.mp member
        exact fresh
      · rw [Kernel.kill, same]
        exact List.prefix_append ..

theorem of_spawnAll [SerdeJson] [TomlText] {env : ServiceEnv} {service : Service}
    {ctx : Option ServiceBranchContext} {registryKey : Ustr}
    {result : Except CoreError (List ChildInstance)}
    (spawned : spawnAll env service ctx registryKey host = (result, final)) :
    host.Extends final := by
  have outcome := spawnAll_cases spawned
  cases result with
  | ok insts => exact of_spawnedAll outcome
  | error error =>
      obtain ⟨insts, middle, before, failed⟩ := outcome
      exact (of_spawnedAll before).trans (of_spawnFailed failed)

theorem of_start [SerdeJson] [TomlText] {env : ServiceEnv} (request : StartRequest)
    (services : Services) : services.host.Extends (start env request services).2.host := by
  have step : StartStep env request services (start env request services).2 :=
    start_cases services
  generalize (start env request services).2 = after at step
  cases step with
  | missing absent => exact refl _
  | postponed key service found later => exact refl _
  | tried key service service' final found now outcome =>
      cases outcome with
      | held held => exact refl _
      | started free insts final spawned => exact of_spawnAll spawned
      | failed free error final lastState spawned => exact of_spawnAll spawned

end Host.Extends

/-- The instances of a start are active, without a branch, and have processes
that were no children before. -/
theorem SpawnedAll.fresh {env : ServiceEnv} {service : Service} {registryKey : Ustr}
    {index : Nat} {host final : Host} {insts : List ChildInstance}
    (spawned : SpawnedAll env service none registryKey index host insts final) :
    ∀ inst ∈ insts, inst.key = "" ∧ inst.state = .active ∧
      ∃ pid, inst.pid = some pid ∧ pid ∉ host.kernel.children := by
  induction spawned with
  | nil index host => simp
  | cons run first others ih =>
      intro inst member
      rcases List.mem_cons.mp member with rfl | member
      · rw [first.inst_eq]
        exact ⟨rfl, rfl, first.pid, rfl, first.fresh⟩
      · obtain ⟨key, state, pid, held, fresh⟩ := ih inst member
        exact ⟨key, state, pid, held,
          fun child => fresh ((Host.Extends.of_spawned first).children pid child)⟩

/-- The start by name that a service with an endpoint dispatches to itself. -/
def StartRequest.later (name : Ustr) (deferred : Bool) : StartRequest :=
  { StartRequest.plain name with deferred }

/-- What of an instance no start changes. -/
def ChildInstance.fate (inst : ChildInstance) : Option Nat × Bool :=
  (inst.pid, inst.manuallyStopped)

section Starting

variable [SerdeJson] [TomlText] {env : ServiceEnv}

/-- What a plain start adds to a service, if the name leads to it. -/
structure Added (env : ServiceEnv) (name : Ustr) (resolved : Prop) (service : Service)
    (host : Host) (last : Service) (final : Host) (old added : List ChildInstance) : Prop where
  grown : host.Extends final
  instances : last.instances = old ++ added
  kept : old.map ChildInstance.fate = service.instances.map ChildInstance.fate
  fresh : ∀ inst ∈ added, inst.key = "" ∧ inst.state = .active ∧
    ∃ pid, inst.pid = some pid ∧ pid ∉ host.kernel.children
  one_iff : ∀ user,
    (∃ new, added = [new] ∧ new.user = user ∧
      ∃ pid, new.pid = some pid ∧ pid ∈ final.kernel.children) ↔
    resolved ∧ service.holdsSingleton = false ∧
      SpawnsOne env service (ensureScopedName name) user (· ∈ host.kernel.children)

theorem added_of_startOutcome {name : Ustr} {deferred : Bool} {service last : Service}
    {host final : Host} {resolved : Prop} (leads : resolved)
    (outcome : StartOutcome env (.later name deferred) service host last final) :
    ∃ old added, Added env name resolved service host last final old added := by
  have blind : ∀ (inst : ChildInstance) state, (inst.mark state).fate = inst.fate :=
    fun _ _ => rfl
  cases outcome with
  | held held =>
      refine ⟨service.instances, [], .refl host, (List.append_nil _).symm, rfl, by simp, ?_⟩
      intro user
      refine iff_of_false (by simp) ?_
      rintro ⟨-, free, -⟩
      have held : service.holdsSingleton = true := held
      rw [free] at held
      cases held
  | started free insts last spawned =>
      have fresh := SpawnedAll.fresh (spawnAll_cases spawned)
      have one_iff : ∀ user, (∃ new, insts = [new] ∧ new.user = user ∧
            ∃ pid, new.pid = some pid ∧ pid ∈ final.kernel.children) ↔
          resolved ∧ service.holdsSingleton = false ∧
            SpawnsOne env service (ensureScopedName name) user (· ∈ host.kernel.children) := by
        intro user
        rw [← spawnsOne_iff]
        constructor
        · rintro ⟨new, rfl, same⟩
          exact ⟨leads, free, new, final, spawned, same⟩
        · rintro ⟨-, -, new, last, spawned', same⟩
          cases Prod.mk.inj (spawned.symm.trans spawned') with
          | intro insts_eq final_eq =>
              cases insts_eq
              subst final_eq
              exact ⟨new, rfl, same⟩
      cases instances : service.instances with
      | nil =>
          refine ⟨[], insts, .of_spawnAll spawned, ?_, by rw [instances], fresh, one_iff⟩
          have settled : markFirst .active ([] ++ insts) = insts := by
            rw [List.nil_append]
            cases insts with
            | nil => rfl
            | cons first rest =>
                rw [markFirst, ChildInstance.mark, ← (fresh first List.mem_cons_self).2.1]
          exact settled
      | cons first rest =>
          refine ⟨first.mark .active :: rest, insts, .of_spawnAll spawned, ?_, ?_, fresh, one_iff⟩
          · have settled : markFirst .active (first :: rest ++ insts) =
                first.mark .active :: rest ++ insts := rfl
            exact settled
          · rw [instances, List.map_cons, blind, List.map_cons]
  | failed free error last lastState spawned =>
      refine ⟨markFirst (startError (ensureScopedName name) error) service.instances, [],
        .of_spawnAll spawned, (List.append_nil _).symm, StartRequest.map_markFirst blind _ _,
        by simp, ?_⟩
      intro user
      refine iff_of_false (by simp) ?_
      rintro ⟨-, -, spawns⟩
      obtain ⟨new, last, spawned', -⟩ := spawnsOne_iff.mpr spawns
      have spawned : spawnAll env service none (ensureScopedName name) host =
          (.error error, final) := spawned
      rw [spawned] at spawned'
      cases spawned'

variable (env) in
/-- A plain start leaves a service as it is, or adds to it. -/
theorem start_added {services : Services} (name : Ustr) {key : Ustr} {service : Service}
    {deferred : Bool} (found : services.instances.lookup key = some service)
    (now : deferred = true ∨ service.metadata.registersTransport = false) :
    ∃ last old added,
      (start env (.later name deferred) services).2.instances.lookup key = some last ∧
      Added env name (env.metadata.instanceKey "*" name = key) service services.host last
        (start env (.later name deferred) services).2.host old added := by
  have step : StartStep env (.later name deferred) services
    (start env (.later name deferred) services).2 := start_cases services
  generalize (start env (.later name deferred) services).2 = final at step
  by_cases own : env.metadata.instanceKey "*" name = key
  · have made := MetadataRegistry.instantiateOne_of_known Service.new own found
    cases step with
    | missing absent => cases made.symm.trans absent
    | postponed other candidate known later =>
        cases Option.some_inj.mp (made.symm.trans known)
        have first : deferred = false := later.1
        rcases now with now | now
        · rw [first] at now
          cases now
        · rw [now] at later
          cases later.2
    | tried other candidate last final known now outcome =>
        cases Option.some_inj.mp (made.symm.trans known)
        obtain ⟨old, added, adds⟩ := added_of_startOutcome own outcome
        exact ⟨last, old, added, AList.lookup_insert _, adds⟩
  · have untouched : ∀ final : Services, services.host.Extends final.host →
        final.instances.lookup key = some service →
        ∃ last old added, final.instances.lookup key = some last ∧
          Added env name (env.metadata.instanceKey "*" name = key) service services.host last
            final.host old added := by
      intro final grown lookup
      refine ⟨service, service.instances, [], lookup, grown, (List.append_nil _).symm, rfl, by simp,
        ?_⟩
      intro user
      exact iff_of_false (by simp) fun spawns => own spawns.1
    have elsewhere : ∀ {other : Ustr} {candidate : Service},
        env.metadata.instantiateOne Service.new "*" name services.instances =
          some (other, candidate) → key ≠ other := by
      rintro other candidate known rfl
      exact own (MetadataRegistry.instantiateOne_cases known).1.symm
    cases step with
    | missing absent => exact untouched _ (.refl _) found
    | postponed other candidate known later =>
        refine untouched _ (.refl _) ?_
        exact (AList.lookup_insert_ne (elsewhere known)).trans found
    | tried other candidate last final known now outcome =>
        obtain ⟨old, added, adds⟩ := added_of_startOutcome trivial outcome
        refine untouched _ adds.grown ?_
        exact (AList.lookup_insert_ne (elsewhere known)).trans found

variable (env) in
/-- Whatever a plain start leads to, it spares the children there are. -/
theorem start_grown (services : Services) (name : Ustr) (deferred : Bool) :
    services.host.Extends (start env (.later name deferred) services).2.host := by
  have step : StartStep env (.later name deferred) services
    (start env (.later name deferred) services).2 := start_cases services
  generalize (start env (.later name deferred) services).2 = final at step
  cases step with
  | missing absent => exact .refl _
  | postponed key service known later => exact .refl _
  | tried key service last final known now outcome =>
      obtain ⟨old, added, adds⟩ := added_of_startOutcome trivial outcome
      exact adds.grown

end Starting

end Rind
