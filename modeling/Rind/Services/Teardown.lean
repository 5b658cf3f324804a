import Rind.Services.Sockets
import Rind.Services.Steps

/-!
# Stopping a scope

When a scope ends, its services and its sockets are stopped one after the other.
Each loop ends at the first definition whose unit it does not find, so what comes
after it keeps running.
-/

namespace Rind

open Prog

/-! ## The loops -/

section Loops

/-- Stop the service of one definition. -/
def stopItem (env : ServiceEnv) (scope : Ustr) (item : Ustr × ServiceMetadata) : UnitProg Unit :=
  fun units =>
    let key := env.metadata.instanceKey scope (rslvns item.1 item.2.name)
    match asOneService key units.instances with
    | .error error => some (.error error, units)
    | .ok (others, service) =>
        let (service, host) := stopService env.now .forceKill none none none service units.host
        some (.ok (), { units with
          instances := units.instances.insert key (others ++ [.service service])
          host })

/-- `ServiceRuntime::stop_for_scope` -/
def stopServicesForScope (env : ServiceEnv) (scope : Ustr) : UnitProg Unit :=
  each ((env.metadata.items scope).getD []) (stopItem env scope)

/-- `SocketRuntime::stop_for_scope` -/
def stopSocketsForScope (definitions : MetadataRegistry SocketMetadata) (scope : Ustr) :
    UnitProg Unit :=
  each ((definitions.items scope).getD []) fun item =>
    stopSocket definitions (rslvns item.1 item.2.name)

end Loops

/-! ## What is to be stopped -/

/-- Whether some service of an entry has a running instance. -/
def runs (entry : List UnitInstance) : Prop :=
  ∃ service, .service service ∈ entry ∧ ∃ inst ∈ service.instances, inst.state.isRunning

/-- The keys of the units that the items of a scope define. -/
def scopeKeys {M : Type} [NamedItem M] (registry : MetadataRegistry M) (metadata scope : Ustr) :
    List Ustr :=
  ((registry.items scope).getD []).map fun item =>
    registry.instanceKey metadata (rslvns item.1 (NamedItem.name item.2))

/-- No service of the scope runs any more, and the processes of those that did were
killed. -/
structure ServicesStopped (env : ServiceEnv) (scope : Ustr) (units final : Units) : Prop where
  quiet : ∀ key ∈ scopeKeys env.metadata scope scope, ¬ runs (final.entry key)
  killed : ∀ key ∈ scopeKeys env.metadata scope scope, ∀ service,
    .service service ∈ units.entry key → ∀ inst ∈ service.instances, inst.state.isRunning →
    ∀ pid, inst.pid = some pid →
    ∃ sent ∈ final.host.kernel.signals.drop units.host.kernel.signals.length,
      sent.pid = pid ∧ sent.signal = .sigkill

/-- No socket of the scope is active any more, and the descriptors of those that
were are closed. -/
structure SocketsStopped (definitions : MetadataRegistry SocketMetadata) (scope : Ustr)
    (units final : Units) : Prop where
  quiet : ∀ key ∈ scopeKeys definitions scope scope, ∀ socket,
    .socket socket ∈ final.entry key → socket.active = false
  closed : ∀ key ∈ scopeKeys definitions scope scope, ∀ socket,
    .socket socket ∈ units.entry key → socket.active →
    socket.fd ∈ final.sockets.closed.drop units.sockets.closed.length

/-- A service stands last under a key. -/
def Units.holdsService (units : Units) (key : Ustr) : Prop :=
  ∃ service, (units.entry key).getLast? = some (.service service)

/-- An entry of a list, up to and including which all entries are fine. -/
def ReachedThrough {α : Type} (fine : List α → Prop) (entries : List α) (entry : α) : Prop :=
  ∃ earlier later, entries = earlier ++ entry :: later ∧ fine (earlier ++ [entry])

/-- The keys before it, and the key itself, all have a service. -/
def Units.reachesService (units : Units) (keys : List Ustr) (key : Ustr) : Prop :=
  ReachedThrough (∀ other ∈ ·, units.holdsService other) keys key

/-- The keys before it, and the key itself, all have a socket, and none of them
comes twice. -/
def Units.reachesSocket (units : Units) (keys : List Ustr) (key : Ustr) : Prop :=
  ReachedThrough (fun keys => keys.Nodup ∧ ∀ other ∈ keys, (units.lastSocket other).isSome) keys
    key

/-- The entries of a loop that ends at the first one that is not fine. -/
theorem mem_iff_reachedThrough {α : Type} {fine : List α → Prop}
    (closed : ∀ earlier later, fine (earlier ++ later) → fine earlier) {done rest : List α}
    (doneFine : fine done) (ends : ∀ entry later, rest = entry :: later → ¬ fine (done ++ [entry]))
    (entry : α) : entry ∈ done ↔ ReachedThrough fine (done ++ rest) entry := by
  constructor
  · intro inside
    obtain ⟨earlier, later, rfl⟩ := List.append_of_mem inside
    refine ⟨earlier, later ++ rest, by simp, closed (earlier ++ [entry]) later ?_⟩
    simpa using doneFine
  · rintro ⟨earlier, later, same, fineEarlier⟩
    have shorter : earlier ++ [entry] <+: done ++ rest := ⟨later, by simp [same]⟩
    rcases List.prefix_or_prefix_of_prefix shorter (List.prefix_append done rest) with
      inside | ⟨more, whole⟩
    · exact inside.subset (by simp)
    · cases more with
      | nil =>
          rw [List.append_nil] at whole
          simp [whole]
      | cons first more =>
          rw [← whole, List.prefix_append_right_inj] at shorter
          obtain ⟨others, rfl⟩ := shorter
          refine absurd (closed (done ++ [first]) more ?_) (ends first (more ++ others) rfl)
          simpa [whole] using fineEarlier

/-! ## The loop over the services -/

section ServiceLoop

variable {env : ServiceEnv} {scope key : Ustr} {units middle final : Units}

theorem asOneService_eq_ok {instances : UnitInstances} {others : List UnitInstance}
    {service : Service} :
    asOneService key instances = .ok (others, service) ↔
      instances.lookup key = some (others ++ [.service service]) := by
  rw [asOneService]
  cases instances.lookup key with
  | none => simp
  | some entry =>
      induction entry using List.reverseRecOn with
      | nil => simp
      | append_singleton before last _ => cases last <;> simp [eq_comm]

theorem Units.holdsService_iff :
    units.holdsService key ↔
      ∃ others service, units.instances.lookup key = some (others ++ [.service service]) := by
  rw [Units.holdsService, Units.entry]
  cases units.instances.lookup key with
  | none => simp
  | some entry =>
      simp only [Option.getD_some, List.getLast?_eq_some_iff, Option.some.injEq]
      exact exists_comm

/-- What stopping the service of one definition does. -/
inductive StopItem (env : ServiceEnv) (key : Ustr) (units : Units) :
    Except CoreError Unit × Units → Prop where
  | missing (error : CoreError) (absent : ¬ units.holdsService key) :
      StopItem env key units (.error error, units)
  | stopped (others : List UnitInstance) (service : Service) (lastState : ServiceState)
      (found : units.instances.lookup key = some (others ++ [.service service])) :
      StopItem env key units (.ok (), { units with
        instances := units.instances.insert key (others ++ [.service { service with
          instances := service.stoppedInstances none none none
          lastState }])
        host := stopProcesses env.now .forceKill (service.stoppedPids none none none) units.host })

theorem stopItem_cases (item : Ustr × ServiceMetadata) {result : Except CoreError Unit}
    (ran : stopItem env scope item units = some (result, final)) :
    StopItem env (env.metadata.instanceKey scope (rslvns item.1 item.2.name)) units
      (result, final) := by
  simp only [stopItem] at ran
  split at ran
  · next error failed =>
      cases ran
      refine .missing error fun holds => ?_
      obtain ⟨others, service, found⟩ := Units.holdsService_iff.mp holds
      rw [asOneService_eq_ok.mpr found] at failed
      cases failed
  · next others service found =>
      obtain ⟨lastState, stopped⟩ :=
        stopService_eq env.now .forceKill none none none service units.host
      rw [stopped] at ran
      cases ran
      exact .stopped others service lastState (asOneService_eq_ok.mp found)

/-- The services that stand last under some keys have been stopped. -/
structure Swept (keys : List Ustr) (units final : Units) : Prop where
  others : ∀ key ∉ keys, final.entry key = units.entry key
  signals : units.host.kernel.signals <+: final.host.kernel.signals
  stopped : ∀ key ∈ keys, ∃ before service service',
    units.entry key = before ++ [.service service] ∧
      final.entry key = before ++ [.service service'] ∧
      (∀ inst ∈ service'.instances, ¬ inst.state.isRunning) ∧
      ∀ inst ∈ service.instances, ∀ pid, inst.pid = some pid →
        ∃ sent ∈ final.host.kernel.signals.drop units.host.kernel.signals.length,
          sent.pid = pid ∧ sent.signal = .sigkill

theorem Swept.nil (units : Units) : Swept [] units units :=
  ⟨fun _ _ => rfl, List.prefix_refl _, by simp⟩

theorem Swept.trans {first second : List Ustr} (left : Swept first units middle)
    (right : Swept second middle final) : Swept (first ++ second) units final := by
  obtain ⟨more, finalSignals⟩ := right.signals
  refine ⟨fun key outside => ?_, left.signals.trans right.signals, fun key inside => ?_⟩
  · rw [List.mem_append, not_or] at outside
    rw [right.others key outside.2, left.others key outside.1]
  have early {sent : SentSignal} (early : sent ∈ middle.host.kernel.signals.drop
      units.host.kernel.signals.length) :
      sent ∈ final.host.kernel.signals.drop units.host.kernel.signals.length := by
    rw [← finalSignals, List.drop_append_of_le_length left.signals.length_le]
    exact List.mem_append_left _ early
  have late {sent : SentSignal} (late : sent ∈ final.host.kernel.signals.drop
      middle.host.kernel.signals.length) :
      sent ∈ final.host.kernel.signals.drop units.host.kernel.signals.length :=
    (List.drop_sublist_drop_left _ left.signals.length_le).subset late
  by_cases earlier : key ∈ first
  · obtain ⟨before, service, service', entry, stopped, quiet, killed⟩ := left.stopped key earlier
    have lethal : ∀ inst ∈ service.instances, ∀ pid, inst.pid = some pid →
        ∃ sent ∈ final.host.kernel.signals.drop units.host.kernel.signals.length,
          sent.pid = pid ∧ sent.signal = .sigkill := by
      intro inst member pid held
      obtain ⟨sent, new, same⟩ := killed inst member pid held
      exact ⟨sent, early new, same⟩
    by_cases later : key ∈ second
    · obtain ⟨before', _, service'', entry', again, quiet', -⟩ := right.stopped key later
      rw [stopped] at entry'
      obtain ⟨rfl, -⟩ := List.append_inj' entry' rfl
      exact ⟨before, service, service'', entry, again, quiet', lethal⟩
    · exact ⟨before, service, service', entry, by rw [right.others key later, stopped], quiet,
        lethal⟩
  · have later := (List.mem_append.mp inside).resolve_left earlier
    obtain ⟨before, service, service', entry, stopped, quiet, killed⟩ := right.stopped key later
    refine ⟨before, service, service', by rw [← left.others key earlier, entry], stopped, quiet,
      fun inst member pid held => ?_⟩
    obtain ⟨sent, new, same⟩ := killed inst member pid held
    exact ⟨sent, late new, same⟩

/-- Stopping services leaves a service wherever there was one. -/
theorem Swept.holdsService {keys : List Ustr} (swept : Swept keys units final) (key : Ustr) :
    final.holdsService key ↔ units.holdsService key := by
  by_cases inside : key ∈ keys
  · obtain ⟨before, service, service', entry, stopped, -⟩ := swept.stopped key inside
    simp [Units.holdsService, entry, stopped]
  · rw [Units.holdsService, swept.others key inside, Units.holdsService]

/-- A stopped instance is not running. -/
theorem ChildInstance.not_isRunning_stopped (inst : ChildInstance) :
    ¬ (inst.stopped none none).state.isRunning := by
  rw [stopped, concerns_none, if_pos rfl]
  cases inst.handle <;> simp [mark, ServiceState.isRunning]

theorem StopItem.swept (stopped : StopItem env key units (.ok (), final)) :
    units.holdsService key ∧ Swept [key] units final := by
  cases stopped with
  | stopped others service lastState found =>
      refine ⟨Units.holdsService_iff.mpr ⟨others, service, found⟩, ?_, ?_, ?_⟩
      · intro other apart
        rw [List.mem_singleton] at apart
        simp [Units.entry, AList.lookup_insert_ne apart]
      · obtain ⟨new, signals, -⟩ := signals_stopProcesses env.now .forceKill
          (service.stoppedPids none none none) units.host
        exact ⟨new, signals.symm⟩
      · intro other same
        cases List.mem_singleton.mp same
        refine ⟨others, service, { service with
          instances := service.stoppedInstances none none none
          lastState }, by simp [Units.entry, found], by simp [Units.entry], ?_, ?_⟩
        · intro inst member
          obtain ⟨original, -, rfl⟩ := List.mem_map.mp member
          exact original.not_isRunning_stopped
        · intro inst member pid held
          obtain ⟨new, signals, pids, modes⟩ := signals_stopProcesses env.now .forceKill
            (service.stoppedPids none none none) units.host
          have signalled : pid ∈ new.map SentSignal.pid := by
            rw [pids]
            exact List.mem_filterMap.mpr ⟨inst, member, held⟩
          obtain ⟨sent, listed, same⟩ := List.mem_map.mp signalled
          refine ⟨sent, ?_, same, modes sent listed⟩
          rw [signals, List.drop_left]
          exact listed

/-- The loop stops the services of the first keys, up to one without a service. -/
theorem eachStopItem_swept {items : List (Ustr × ServiceMetadata)}
    {result : Except CoreError Unit}
    (ran : each items (stopItem env scope) units = some (result, final)) :
    ∃ done rest, (items.map fun item =>
        env.metadata.instanceKey scope (rslvns item.1 item.2.name)) = done ++ rest ∧
      (∀ key ∈ done, units.holdsService key) ∧
      (∀ key later, rest = key :: later → ¬ units.holdsService key) ∧
      Swept done units final := by
  induction items generalizing units with
  | nil =>
      cases ran
      exact ⟨[], [], rfl, by simp, by simp, .nil _⟩
  | cons item items ih =>
      rw [each_cons] at ran
      rcases run_bind_cases ran with ⟨error, failed, -⟩ | ⟨_, middle, stopped, ran⟩
      · cases stopItem_cases item failed with
        | missing _ absent =>
            refine ⟨[], _, rfl, by simp, ?_, .nil _⟩
            rintro key later same
            cases same
            exact absent
      · obtain ⟨holds, first⟩ := (stopItem_cases item stopped).swept
        obtain ⟨done, rest, keys, held, ends, swept⟩ := ih ran
        refine ⟨_ :: done, rest, by rw [List.map_cons, keys]; rfl, ?_, ?_, first.trans swept⟩
        · rw [List.forall_mem_cons]
          exact ⟨holds, fun key inside => (first.holdsService key).mp (held key inside)⟩
        · intro key later same holds
          exact ends key later same ((first.holdsService key).mpr holds)

/-- The loop comes to the keys before which, and under which, it finds services. -/
theorem stopServicesForScope_swept {result : Except CoreError Unit}
    (ran : stopServicesForScope env scope units = some (result, final)) :
    ∃ done, (∀ key, key ∈ done ↔
        units.reachesService (scopeKeys env.metadata scope scope) key) ∧
      Swept done units final := by
  obtain ⟨done, rest, keys, held, ends, swept⟩ := eachStopItem_swept ran
  have keys : scopeKeys env.metadata scope scope = done ++ rest := keys
  refine ⟨done, fun key => ?_, swept⟩
  rw [keys]
  refine mem_iff_reachedThrough ?_ held ?_ key
  · intro earlier later fine other inside
    exact fine other (List.mem_append_left _ inside)
  · intro entry later same fine
    exact ends entry later same (fine entry (by simp))

/-- Where the services of some keys have been stopped, those of a scope have been exactly
if its running ones are among them, and stand last under their keys. -/
theorem Swept.servicesStopped_iff {done : List Ustr} {reached : Ustr → Prop}
    (swept : Swept done units final) (mem : ∀ key, key ∈ done ↔ reached key) :
    ServicesStopped env scope units final ↔
      ∀ key ∈ scopeKeys env.metadata scope scope, runs (units.entry key) →
        reached key ∧ ¬ runs (units.entry key).dropLast := by
  constructor
  · intro stopped key listed running
    have inside : key ∈ done := by
      by_contra outside
      have quiet := stopped.quiet key listed
      rw [swept.others key outside] at quiet
      exact quiet running
    refine ⟨(mem key).mp inside, ?_⟩
    rintro ⟨other, member, running⟩
    obtain ⟨before, service, service', entry, final, -⟩ := swept.stopped key inside
    rw [entry, List.dropLast_concat] at member
    exact stopped.quiet key listed ⟨other, by simp [final, member], running⟩
  · intro condition
    constructor
    · rintro key listed ⟨other, member, running⟩
      by_cases inside : key ∈ done
      · obtain ⟨before, service, service', entry, final, quiet, -⟩ := swept.stopped key inside
        rw [final, List.mem_append, List.mem_singleton] at member
        rcases member with member | same
        · refine (condition key listed ⟨other, by simp [entry, member], running⟩).2 ?_
          rw [entry, List.dropLast_concat]
          exact ⟨other, member, running⟩
        · cases same
          obtain ⟨inst, inside, running⟩ := running
          exact quiet inst inside running
      · rw [swept.others key inside] at member
        have running : runs (units.entry key) := ⟨other, member, running⟩
        exact inside ((mem key).mpr (condition key listed running).1)
    · intro key listed other member inst within running pid holds
      have running : ∃ inst ∈ other.instances, inst.state.isRunning := ⟨inst, within, running⟩
      obtain ⟨reaches, alone⟩ := condition key listed ⟨other, member, running⟩
      obtain ⟨before, service, service', entry, -, -, killed⟩ :=
        swept.stopped key ((mem key).mpr reaches)
      rw [entry, List.dropLast_concat] at alone
      rw [entry, List.mem_append, List.mem_singleton] at member
      rcases member with member | same
      · exact absurd ⟨other, member, running⟩ alone
      · cases same
        exact killed inst within pid holds

/-- Every running service of the scope is stopped exactly if the loop comes to its
key, where no running service stands before it. -/
theorem servicesStopped_iff {result : Except CoreError Unit}
    (ran : stopServicesForScope env scope units = some (result, final)) :
    ServicesStopped env scope units final ↔
      ∀ key ∈ scopeKeys env.metadata scope scope, runs (units.entry key) →
        units.reachesService (scopeKeys env.metadata scope scope) key ∧
          ¬ runs (units.entry key).dropLast := by
  obtain ⟨done, reached, swept⟩ := stopServicesForScope_swept ran
  exact swept.servicesStopped_iff reached

end ServiceLoop

/-! ## The loop over the sockets -/

section SocketLoop

variable {definitions : MetadataRegistry SocketMetadata} {scope key : Ustr}
  {units middle final : Units}

/-- The loop closes the sockets of the first keys, up to one without a socket. -/
theorem eachStopSocket_released {items : List (Ustr × SocketMetadata)}
    {result : Except CoreError Unit}
    (ran : each items (fun item => stopSocket definitions (rslvns item.1 item.2.name)) units =
      some (result, final)) :
    ∃ done rest, (items.map fun item =>
        definitions.instanceKey "*" (rslvns item.1 item.2.name)) = done ++ rest ∧
      (done.Nodup ∧ ∀ key ∈ done, (units.lastSocket key).isSome) ∧
      (∀ key later, rest = key :: later → key ∈ done ∨ units.lastSocket key = none) ∧
      Released done units final := by
  induction items generalizing units with
  | nil =>
      cases ran
      exact ⟨[], [], rfl, by simp, by simp, fun _ _ => rfl, by simp, by simp⟩
  | cons item items ih =>
      rw [each_cons] at ran
      rcases run_bind_cases ran with ⟨error, failed, -⟩ | ⟨_, middle, stopped, ran⟩
      · rcases stopSocket_cases failed with ⟨absent, -, released⟩ | ⟨-, same, -⟩
        · refine ⟨[], _, rfl, by simp, ?_, released⟩
          rintro key later same
          cases same
          exact .inr absent
        · cases same
      · rcases stopSocket_cases stopped with ⟨-, failed, -⟩ | ⟨present, -, first⟩
        · exact absurd rfl failed
        generalize keyed : definitions.instanceKey "*" (rslvns item.1 item.2.name) = key at *
        obtain ⟨done, rest, keys, ⟨nodup, held⟩, ends, released⟩ := ih ran
        have fresh : key ∉ done := by
          intro inside
          have none := held key inside
          rw [Units.lastSocket, first.gone key (by simp)] at none
          cases none
        have kept {other : Ustr} (apart : other ≠ key) :
            middle.lastSocket other = units.lastSocket other := by
          rw [Units.lastSocket, first.others other (by simpa using apart), Units.lastSocket]
        have apart {other : Ustr} (inside : other ∈ done) : other ≠ key := by
          rintro rfl
          exact fresh inside
        refine ⟨key :: done, rest, by rw [List.map_cons, keys, keyed]; rfl,
          ⟨List.nodup_cons.mpr ⟨fresh, nodup⟩, ?_⟩, ?_, ?_, ?_, ?_⟩
        · rw [List.forall_mem_cons]
          exact ⟨present, fun other inside => kept (apart inside) ▸ held other inside⟩
        · intro other later same
          by_cases again : other = key
          · exact .inl (by simp [again])
          · exact (ends other later same).imp (List.mem_cons_of_mem _) fun none =>
              (kept again).symm.trans none
        · intro other outside
          rw [List.mem_cons, not_or] at outside
          rw [released.others other outside.2, first.others other (by simpa using outside.1)]
        · intro other inside
          by_cases later : other ∈ done
          · exact released.gone other later
          · rw [released.others other later]
            exact first.gone other (by simpa [later] using inside)
        · have same : (done.filterMap fun other => (middle.lastSocket other).map Socket.fd) =
              done.filterMap fun other => (units.lastSocket other).map Socket.fd :=
            List.filterMap_congr fun other inside => by rw [kept (apart inside)]
          rw [released.closed, first.closed, same, List.append_assoc, ← List.filterMap_append]
          rfl

/-- The keys that the loop comes to. -/
theorem stopSocketsForScope_released {result : Except CoreError Unit}
    (ran : stopSocketsForScope definitions scope units = some (result, final)) :
    ∃ done, (∀ key, key ∈ done ↔ units.reachesSocket (scopeKeys definitions "*" scope) key) ∧
      Released done units final := by
  obtain ⟨done, rest, keys, held, ends, released⟩ := eachStopSocket_released ran
  have keys : scopeKeys definitions "*" scope = done ++ rest := keys
  refine ⟨done, fun key => ?_, released⟩
  rw [keys]
  refine mem_iff_reachedThrough ?_ held ?_ key
  · rintro earlier later ⟨nodup, fine⟩
    exact ⟨nodup.of_append_left, fun other inside => fine other (List.mem_append_left _ inside)⟩
  · rintro entry later same ⟨nodup, fine⟩
    rcases ends entry later same with inside | none
    · exact (List.disjoint_of_nodup_append nodup) inside (by simp)
    · have present := fine entry (by simp)
      rw [none] at present
      cases present

/-- Every active socket of the scope is closed exactly if the loop comes to its
key, and its descriptor is that of the last socket of a key the loop comes to. -/
theorem socketsStopped_iff {result : Except CoreError Unit}
    (ran : stopSocketsForScope definitions scope units = some (result, final)) :
    SocketsStopped definitions scope units final ↔
      ∀ key ∈ scopeKeys definitions scope scope, ∀ socket, .socket socket ∈ units.entry key →
        socket.active → units.reachesSocket (scopeKeys definitions "*" scope) key ∧
          ∃ other, units.reachesSocket (scopeKeys definitions "*" scope) other ∧
            (units.lastSocket other).map Socket.fd = some socket.fd := by
  obtain ⟨done, reached, released⟩ := stopSocketsForScope_released ran
  have closed (fd : Nat) : fd ∈ final.sockets.closed.drop units.sockets.closed.length ↔
      ∃ other ∈ done, (units.lastSocket other).map Socket.fd = some fd := by
    rw [released.closed, List.drop_left, List.mem_filterMap]
  simp only [← reached]
  constructor
  · intro stopped key listed socket member active
    refine ⟨?_, (closed socket.fd).mp (stopped.closed key listed socket member active)⟩
    by_contra outside
    have kept : socket ∈ final.socketsAt key := by
      rw [released.others key outside, Units.mem_socketsAt]
      exact member
    rw [stopped.quiet key listed socket (Units.mem_socketsAt.mp kept)] at active
    cases active
  · intro condition
    constructor
    · intro key listed socket member
      by_contra active
      rw [Bool.not_eq_false] at active
      rw [← Units.mem_socketsAt] at member
      by_cases inside : key ∈ done
      · rw [released.gone key inside] at member
        cases member
      · rw [released.others key inside, Units.mem_socketsAt] at member
        exact inside (condition key listed socket member active).1
    · intro key listed socket member active
      exact (closed socket.fd).mpr (condition key listed socket member active).2

end SocketLoop

/-- The two loops over a scope stop all that runs exactly where each of them comes
to the keys of what runs. -/
theorem stopForScope_iff {env : ServiceEnv} {definitions : MetadataRegistry SocketMetadata}
    {scope : Ustr} {units final opened closed : Units} {result result' : Except CoreError Unit}
    (stopped : stopServicesForScope env scope units = some (result, final))
    (released : stopSocketsForScope definitions scope opened = some (result', closed)) :
    (ServicesStopped env scope units final ↔
      ∀ key ∈ scopeKeys env.metadata scope scope, runs (units.entry key) →
        units.reachesService (scopeKeys env.metadata scope scope) key ∧
          ¬ runs (units.entry key).dropLast) ∧
    (SocketsStopped definitions scope opened closed ↔
      ∀ key ∈ scopeKeys definitions scope scope, ∀ socket, .socket socket ∈ opened.entry key →
        socket.active → opened.reachesSocket (scopeKeys definitions "*" scope) key ∧
          ∃ other, opened.reachesSocket (scopeKeys definitions "*" scope) other ∧
            (opened.lastSocket other).map Socket.fd = some socket.fd) :=
  ⟨servicesStopped_iff stopped, socketsStopped_iff released⟩

/-! ## Two services and a socket -/

section Pair

def idleService : ServiceMetadata := { workerService with name := "idle" }

def webService : ServiceMetadata := { workerService with name := "web" }

def scopeEnv (services : List ServiceMetadata) : ServiceEnv :=
  { loneEnv webService 100 with metadata := .ofGroup "static" "app" services }

/-- Only the web service has been started. -/
def webUnits : Units where
  instances := AList.insert "app:web@static"
    [.service ⟨webService, [.new "" none (some ⟨100⟩)], .active⟩] ∅
  host := Services.boot.host
  sockets := ⟨∅, ∅, ∅, ∅, []⟩

def busSocket : SocketMetadata where
  name := "bus"
  owner := none
  startOn := none
  stopOn := none

/-- The definitions of a user's scope, next to an empty default scope. -/
def busRegistry : MetadataRegistry SocketMetadata where
  metadata := AList.insert "static" ⟨"static", ∅⟩
    (AList.insert "alice" ⟨"alice", AList.insert "app" [busSocket] ∅⟩ ∅)
  index := none

def busUnits (scope : Ustr) : Units :=
  { webUnits with instances := AList.insert ("app:bus@" ++ scope) [.socket ⟨busSocket, 7, true⟩] ∅ }

theorem stopServices_idle :
    stopServicesForScope (scopeEnv [idleService, webService]) "static" webUnits =
      some (.error (.missingInstances "app:idle@static"), webUnits) := rfl

theorem stopSockets_alice :
    stopSocketsForScope busRegistry "alice" (busUnits "alice") =
      some (.error (.missingInstances "app:bus@static"), busUnits "alice") := rfl

/-- A service that has never been started keeps those after it from being stopped,
and the sockets of a user's scope are looked up in the default scope. -/
theorem not_stopForScope_idle :
    (¬ ∀ (env : ServiceEnv) (scope : Ustr) (units final : Units) (result : Except CoreError Unit),
      stopServicesForScope env scope units = some (result, final) →
        ServicesStopped env scope units final) ∧
    ¬ ∀ (definitions : MetadataRegistry SocketMetadata) (scope : Ustr) (units final : Units)
      (result : Except CoreError Unit),
      stopSocketsForScope definitions scope units = some (result, final) →
        SocketsStopped definitions scope units final := by
  constructor
  · intro stops
    have stopped := stops _ _ _ _ _ stopServices_idle
    refine stopped.quiet "app:web@static" (by decide +kernel) ⟨_, List.mem_singleton.mpr rfl, ?_⟩
    exact ⟨_, List.mem_singleton.mpr rfl, rfl⟩
  · intro stops
    have stopped := stops _ _ _ _ _ stopSockets_alice
    have inactive := stopped.quiet "app:bus@alice" (by decide +kernel) ⟨busSocket, 7, true⟩
      (List.mem_singleton.mpr rfl)
    cases inactive

theorem stopForScope_iff_running : ∃ final closed : Units,
    ServicesStopped (scopeEnv [webService]) "static" webUnits final ∧
      SocketsStopped (.ofGroup "static" "app" [busSocket]) "static" (busUnits "static")
        closed := by
  let sockets : MetadataRegistry SocketMetadata := .ofGroup "static" "app" [busSocket]
  obtain ⟨⟨result, final⟩, stopped⟩ : ∃ outcome,
      stopServicesForScope (scopeEnv [webService]) "static" webUnits = some outcome := ⟨_, rfl⟩
  obtain ⟨⟨result', closed⟩, released⟩ : ∃ outcome,
      stopSocketsForScope sockets "static" (busUnits "static") = some outcome := ⟨_, rfl⟩
  obtain ⟨quiet, closes⟩ := stopForScope_iff stopped released
  refine ⟨final, closed, quiet.mpr ?_, closes.mpr ?_⟩
  · have keys : scopeKeys (scopeEnv [webService]).metadata "static" "static" =
        ["app:web@static"] := by decide +kernel
    rw [keys]
    intro key listed running
    cases List.mem_singleton.mp listed
    refine ⟨⟨[], [], rfl, ?_⟩, ?_⟩
    · intro other inside
      cases List.mem_singleton.mp inside
      exact ⟨_, rfl⟩
    · rintro ⟨service, member, -⟩
      cases member
  · have keys : scopeKeys sockets "static" "static" = ["app:bus@static"] := by decide +kernel
    have searched : scopeKeys sockets "*" "static" = ["app:bus@static"] := by decide +kernel
    have reached : (busUnits "static").reachesSocket ["app:bus@static"] "app:bus@static" := by
      refine ⟨[], [], rfl, List.nodup_singleton _, fun other inside => ?_⟩
      cases List.mem_singleton.mp inside
      rfl
    rw [keys, searched]
    intro key listed socket member active
    cases List.mem_singleton.mp listed
    cases List.mem_singleton.mp member
    exact ⟨reached, _, reached, rfl⟩

end Pair

end Rind
