import Rind.Services.Following
import Rind.Services.Reverts

/-!
# Deciding on a start

Services and sockets start on the same kind of condition list, and each runtime evaluates it on
its own.  A socket starts if any of the conditions is satisfied, which is what the documentation
says of services; a service starts if all of them are.  Here is what an event leads to for a
service and a socket with the same list.
-/

namespace Rind

open Prog

section Deciding

variable [SerdeJson]

/-! ## Condition lists -/

/-- A start-on condition is satisfied. -/
def AnySatisfied (facets : Facets) (event : Option FlowInstance)
    (startOn : Option (List FlowItem)) : Prop :=
  ∃ conds ∈ startOn, ∃ cond ∈ conds, conditionMatches facets cond event none

/-- There is a list of start-on conditions, and all of them are satisfied. -/
def AllSatisfied (facets : Facets) (event : Option FlowInstance)
    (startOn : Option (List FlowItem)) : Prop :=
  ∃ conds ∈ startOn, ∀ cond ∈ conds, conditionMatches facets cond event none

theorem ServiceMetadata.shouldStart_iff {metadata : ServiceMetadata} {facets : Facets}
    {event : Option FlowInstance} :
    metadata.shouldStart facets event ↔ AllSatisfied facets event metadata.startOn := by
  simp only [shouldStart, AllSatisfied, Option.any_eq_true, List.all_eq_true, Option.mem_def]

theorem SocketMetadata.shouldStart_iff {metadata : SocketMetadata} {facets : Facets}
    {event : Option FlowInstance} :
    metadata.shouldStart facets event ↔ AnySatisfied facets event metadata.startOn := by
  simp only [shouldStart, AnySatisfied, Option.any_eq_true, List.any_eq_true, Option.mem_def]

/-! ## The service -/

/-- A start of the service has something to start: if it is branching, a branch that its lists
admit, and room for one more instance. -/
def ServiceMetadata.StartsSome (metadata : ServiceMetadata) (env : ServiceEnv)
    (event : Option FlowInstance) (instances : Nat) : Prop :=
  ∀ branching ∈ metadata.branching,
    (∃ branch ∈ branchesToConsider env.facets branching event,
      ∃ key ∈ branchKeyFromPayload branch.payload branching.key,
        branching.admits env.facets env.heap key) ∧
    ∀ max ∈ branching.maxInstances, instances < max

/-- The evaluation of a trigger runs to its end, and one of the starts that it decides on is of
the service. -/
def StartsService [TomlText] (env : ServiceEnv) (answer : Nat → Nat → SpawnAnswer)
    (trigger : EmitTrigger) (targets : List Ustr) (services : Services) (name : Ustr) : Prop :=
  ∃ state final, considerServices env trigger targets ⟨services, []⟩ = some (.ok (), state) ∧
    evaluateTriggers env answer trigger targets services = some (.ok (), final) ∧
    ∃ ctx, (name, ctx) ∈ state.toStart

variable {env : ServiceEnv} {trigger : EmitTrigger} {name : Ustr} {metadata : ServiceMetadata}
  {state : TriggerState} {service : Service}

/-- A trigger leaves a service alone that is not running. -/
theorem stopTriggered_of_idle (idle : service.isRunning = false) (host : Host) :
    stopTriggered env trigger service host = (service, host) := by
  rw [stopTriggered]
  cases service.metadata.branching with
  | none =>
      dsimp only
      rw [idle, Bool.and_false, if_neg Bool.false_ne_true]
  | some branching =>
      have none_ : service.revertedKeys branching trigger = [] := by
        rw [revertedKeys_eq]
        cases trigger.revertedKey branching with
        | none => rfl
        | some key =>
            rw [Service.isRunning, List.any_eq_false] at idle
            rw [List.map_eq_nil_iff, List.filter_eq_nil_iff]
            intro inst member both
            exact idle inst member (Bool.and_eq_true_iff.mp both).1
      dsimp only
      rw [none_]
      rfl

omit [SerdeJson] in
/-- No instance of a service that is not running runs for a branch. -/
theorem runsBranch_of_idle (idle : service.isRunning = false) (key : Ustr) :
    service.runsBranch key = false := by
  rw [Service.isRunning, List.any_eq_false] at idle
  rw [Service.runsBranch, List.any_eq_false]
  intro inst member both
  exact idle inst member (Bool.and_eq_true_iff.mp both).2

/-- The branches that are started of a service that is not running. -/
theorem branchStarts_ne_nil_iff {branching : BranchingConfig} {branches : List FlowInstance}
    (idle : service.isRunning = false) :
    branchStarts env branching service branches 0 ≠ [] ↔
      (∃ branch ∈ branches, ∃ key ∈ branchKeyFromPayload branch.payload branching.key,
        branching.admits env.facets env.heap key) ∧
      ∀ max ∈ branching.maxInstances, service.instances.length < max := by
  have candidates : branchCandidates env branching service branches ≠ [] ↔
      ∃ branch ∈ branches, ∃ key ∈ branchKeyFromPayload branch.payload branching.key,
        branching.admits env.facets env.heap key := by
    rw [Ne, List.eq_nil_iff_forall_not_mem, not_forall_not]
    simp only [branchCandidates, List.mem_filterMap, Option.bind_eq_some_iff,
      runsBranch_of_idle idle, Bool.false_or, Bool.not_eq_true']
    constructor
    · rintro ⟨ctx, branch, listed, key, named, made⟩
      refine ⟨branch, listed, key, named, ?_⟩
      by_contra refused
      rw [if_pos (eq_false_of_ne_true refused)] at made
      cases made
    · rintro ⟨branch, listed, key, named, admitted⟩
      exact ⟨_, branch, listed, key, named, if_neg (by simp [admitted])⟩
  rw [branchStarts_eq, ← candidates]
  cases branching.maxInstances with
  | none => simp
  | some max =>
      dsimp only
      by_cases full : max ≤ service.instances.length
      · simp [full]
      · have room : max ≠ 0 := by omega
        rw [if_neg full, Nat.sub_zero]
        simp [room, Nat.lt_of_not_le full]

/-- Considering the service where it is not running. -/
theorem considerService_idle (led : LeadsBack env.metadata name metadata)
    (defines : state.services.Defines name metadata)
    (idle : (state.services.serviceOf name metadata).isRunning = false)
    (alone : metadata.after = none) :
    ∃ next, considerService env trigger name state = some (.ok (), next) ∧
      next.services.serviceOf name metadata = state.services.serviceOf name metadata ∧
      next.services.Defines name metadata ∧
      ∃ more, next.toStart = state.toStart ++ more ∧ (∀ entry ∈ more, entry.1 = name) ∧
        (more ≠ [] ↔ AllSatisfied env.facets trigger.event metadata.startOn ∧
          metadata.StartsSome env trigger.event
            (state.services.serviceOf name metadata).instances.length) := by
  have stops : (state.stop env trigger name).services.serviceOf name metadata =
        state.services.serviceOf name metadata ∧
      (state.stop env trigger name).services.Defines name metadata ∧
      (state.stop env trigger name).toStart = state.toStart := by
    rw [TriggerState.stop]
    cases known : state.services.instances.lookup name with
    | none => exact ⟨rfl, defines, rfl⟩
    | some service =>
        have own : state.services.serviceOf name metadata = service := by
          rw [Services.serviceOf, known, Option.getD_some]
        rw [own] at idle ⊢
        dsimp only
        rw [stopTriggered_of_idle idle, Services.serviceOf_insert]
        exact ⟨rfl, Services.defines_insert (defines service known), rfl⟩
  generalize current : state.services.serviceOf name metadata = service at stops idle ⊢
  generalize stopped_eq : state.stop env trigger name = stopped at stops
  obtain ⟨same, kept, toStart⟩ := stops
  have resting : (state.services.instances.lookup name).any Service.isRunning = false := by
    cases known : state.services.instances.lookup name with
    | none => rfl
    | some other =>
        rw [Services.serviceOf, known, Option.getD_some] at current
        rw [Option.any_some, current, idle]
  rw [considerService, led.found, ensureScopedName_of_full led.full]
  dsimp only
  rw [if_neg (not_not.mpr led.grouped), run_read_bind, run_change_bind, stopped_eq, resting]
  by_cases met : metadata.shouldStart env.facets trigger.event
  · have ready : aftersRunning env metadata stopped.services = true := by
      rw [aftersRunning, alone, Option.all_none]
    rw [met, Bool.not_true, if_neg Bool.false_ne_true, run_read_bind, ready, Bool.not_true,
      Bool.and_false, Bool.or_false, if_neg Bool.false_ne_true, startTriggered]
    cases parsed : (Text.rsplitOnce '@' name).getD (name, "static") with
    | mk base scope =>
        have own : service.metadata = metadata := same ▸ kept.serviceOf
        simp only [led.instantiateOne parsed, same]
        refine ⟨_, rfl, Services.serviceOf_insert, Services.defines_insert own, _,
          by rw [toStart], ?_, ?_⟩
        · intro entry member
          obtain ⟨ctx, -, rfl⟩ := List.mem_map.mp member
          rfl
        · rw [← ServiceMetadata.shouldStart_iff, met, ServiceMetadata.StartsSome, own]
          cases branches : metadata.branching with
          | none => simp
          | some branching =>
              dsimp only
              rw [Ne, List.map_eq_nil_iff, List.map_eq_nil_iff, ← Ne, branchStarts_ne_nil_iff idle]
              simp
  · rw [eq_false_of_ne_true met, Bool.not_false, if_pos rfl]
    refine ⟨stopped, rfl, same, kept, [], by rw [toStart, List.append_nil], by simp, ?_⟩
    rw [← ServiceMetadata.shouldStart_iff]
    simp [met]

/-- Considering all definitions that a trigger is about, where the service is not running. -/
theorem considerServices_idle (state : TriggerState) {targets : List Ustr}
    (leads : ∀ target ∈ targets, ∃ metadata, LeadsBack env.metadata target metadata)
    (led : LeadsBack env.metadata name metadata) (defines : state.services.Defines name metadata)
    (idle : (state.services.serviceOf name metadata).isRunning = false)
    (alone : metadata.after = none) :
    ∃ next more, considerServices env trigger targets state = some (.ok (), next) ∧
      next.toStart = state.toStart ++ more ∧ (∀ entry ∈ more, entry.1 ∈ targets) ∧
        ((∃ ctx, (name, ctx) ∈ more) ↔ name ∈ targets ∧
          AllSatisfied env.facets trigger.event metadata.startOn ∧
          metadata.StartsSome env trigger.event
            (state.services.serviceOf name metadata).instances.length) := by
  induction targets generalizing state with
  | nil => exact ⟨state, [], rfl, (List.append_nil _).symm, by simp, by simp⟩
  | cons target rest ih =>
      have leads' := fun other inside => leads other (List.mem_cons_of_mem _ inside)
      -- what the first of them comes to, whether or not it is the service
      obtain ⟨middle, more, ran, same, defines', toStart, names, decided⟩ :
          ∃ middle more, considerService env trigger target state = some (.ok (), middle) ∧
            middle.services.serviceOf name metadata = state.services.serviceOf name metadata ∧
            middle.services.Defines name metadata ∧ middle.toStart = state.toStart ++ more ∧
            (∀ entry ∈ more, entry.1 = target) ∧
            ((∃ ctx, (name, ctx) ∈ more) ↔ name = target ∧
              AllSatisfied env.facets trigger.event metadata.startOn ∧
              metadata.StartsSome env trigger.event
                (state.services.serviceOf name metadata).instances.length) := by
        by_cases own : name = target
        · subst own
          obtain ⟨middle, ran, same, defines', more, toStart, names, decided⟩ :=
            considerService_idle led defines idle alone
          refine ⟨middle, more, ran, same, defines', toStart, names, ?_⟩
          rw [← decided, eq_self, true_and]
          constructor
          · rintro ⟨ctx, member⟩
            exact List.ne_nil_of_mem member
          · intro some_
            obtain ⟨⟨other, ctx⟩, member⟩ := List.exists_mem_of_ne_nil more some_
            obtain rfl : other = name := names _ member
            exact ⟨ctx, member⟩
        · obtain ⟨metadata', led'⟩ := leads target List.mem_cons_self
          obtain ⟨middle, ran, lookup, -, more, toStart, names⟩ :=
            considerService_other trigger state led' own
          refine ⟨middle, more, ran, ?_, ?_, toStart, names, ?_⟩
          · rw [Services.serviceOf, lookup, Services.serviceOf]
          · intro service found
            exact defines service (lookup ▸ found)
          · constructor
            · rintro ⟨ctx, member⟩
              exact absurd (names _ member) own
            · exact fun both => absurd both.1 own
      obtain ⟨next, more', ran', toStart', names', decided'⟩ := ih middle leads' defines' (same ▸ idle)
      refine ⟨next, more ++ more', ?_, ?_, ?_, ?_⟩
      · rw [considerServices, each_cons, run_bind_of_ok ran]
        exact ran'
      · rw [toStart', toStart, List.append_assoc]
      · intro entry member
        rcases List.mem_append.mp member with member | member
        · exact List.mem_cons.mpr (.inl (names entry member))
        · exact List.mem_cons_of_mem _ (names' entry member)
      · simp only [List.mem_append, exists_or, decided, decided', same, List.mem_cons, or_and_right]

/-- Which triggers start a service that is not running and comes after no other. -/
theorem startsService_iff [TomlText] {answer : Nat → Nat → SpawnAnswer} {targets : List Ustr}
    {services : Services}
    (leads : ∀ target ∈ targets, ∃ metadata, LeadsBack env.metadata target metadata)
    (led : LeadsBack env.metadata name metadata) (defines : services.Defines name metadata)
    (idle : (services.serviceOf name metadata).isRunning = false) (alone : metadata.after = none) :
    StartsService env answer trigger targets services name ↔
      name ∈ targets ∧ AllSatisfied env.facets trigger.event metadata.startOn ∧
        metadata.StartsSome env trigger.event
          (services.serviceOf name metadata).instances.length := by
  obtain ⟨next, more, ran, toStart, names, decided⟩ :=
    considerServices_idle ⟨services, []⟩ leads led defines idle alone
  rw [List.nil_append] at toStart
  obtain ⟨final, ended⟩ : ∃ final, Prog.each (next.toStart.zipIdx 0) (startNoted env answer)
      next.services = some (.ok (), final) := by
    apply starts_end
    intro entry member
    exact leads _ (names entry (toStart ▸ member))
  rw [← decided, ← toStart]
  constructor
  · rintro ⟨state, final, ran', -, starts⟩
    cases ran.symm.trans ran'
    exact starts
  · intro starts
    refine ⟨next, final, ran, ?_, starts⟩
    rw [evaluateTriggers, ran]
    exact ended

/-! ## The socket -/

/-- The evaluation of a trigger runs to its end, and the socket is active afterwards. -/
def StartsSocket (definitions : MetadataRegistry SocketMetadata)
    (create : SocketMetadata → Except CoreError Nat) (facets : Facets) (trigger : EmitTrigger)
    (targets : List Ustr) (units : Units) (name : Ustr) : Prop :=
  ∃ final, evaluateSocketTriggers definitions create facets trigger targets units =
    some (.ok (), final) ∧ socketActive definitions name final

section Sockets

variable {definitions : MetadataRegistry SocketMetadata}
  {create : SocketMetadata → Except CoreError Nat} {facets : Facets}
  {event : Option FlowInstance} {socket : SocketMetadata} {units : Units} {key : Ustr}

omit [SerdeJson] in
/-- A socket that is started or stopped leaves the units under other keys alone. -/
theorem entry_startSocket (create : SocketMetadata → Except CoreError Nat) (units : Units)
    {other : Ustr} (apart : definitions.instanceKey "*" other ≠ key) :
    ∃ result final, startSocket definitions create other units = some (result, final) ∧
      final.entry key = units.entry key := by
  have kept {entry : List UnitInstance} {sockets : SocketRuntime} :
      Units.entry ⟨units.instances.insert (definitions.instanceKey "*" other) entry, units.host,
        sockets⟩ key = units.entry key := by
    simp [Units.entry, AList.lookup_insert_ne apart.symm]
  rw [startSocket, instantiateSocket]
  dsimp only
  split
  · next error instances failed =>
      refine ⟨_, _, rfl, ?_⟩
      split at failed
      · cases failed
      · cases failed
        rfl
      · split at failed
        · cases failed
          rfl
        · split at failed
          · cases failed
            exact kept
          · cases failed
  · next socket instances opened =>
      refine ⟨_, _, rfl, ?_⟩
      split at opened
      · cases opened
        rfl
      · cases opened
      · split at opened
        · cases opened
        · split at opened
          · cases opened
          · cases opened
            exact kept

omit [SerdeJson] in
theorem entry_stopSocket (units : Units) {other : Ustr}
    (apart : definitions.instanceKey "*" other ≠ key) :
    ∃ result final, stopSocket definitions other units = some (result, final) ∧
      final.entry key = units.entry key := by
  have kept {sockets : SocketRuntime} :
      Units.entry ⟨units.instances.erase (definitions.instanceKey "*" other), units.host,
        sockets⟩ key = units.entry key := by
    simp [Units.entry, AList.lookup_erase_ne apart.symm]
  rw [stopSocket, uninstantiateSocket]
  cases units.instances.lookup (definitions.instanceKey "*" other) with
  | none => exact ⟨_, _, rfl, rfl⟩
  | some entry =>
      dsimp only
      cases (entry.filterMap UnitInstance.asSocket).getLast? with
      | none => exact ⟨_, _, rfl, kept⟩
      | some socket => exact ⟨_, _, rfl, kept⟩

/-- Considering another socket. -/
theorem considerSocket_other (create : SocketMetadata → Except CoreError Nat) (facets : Facets)
    (event : Option FlowInstance) (units : Units) {other : Ustr}
    (apart : definitions.instanceKey "*" other ≠ key) :
    ∃ next, considerSocket definitions create facets event other units = some (.ok (), next) ∧
      next.entry key = units.entry key := by
  rw [considerSocket]
  cases definitions.find "*" other with
  | none => exact ⟨units, rfl, rfl⟩
  | some metadata =>
      dsimp only
      rw [run_read_bind]
      split
      · obtain ⟨result, final, ran, kept⟩ := entry_startSocket create units apart
        exact ⟨final, run_attempt_of_some ran, kept⟩
      · split
        · obtain ⟨result, final, ran, kept⟩ := entry_stopSocket units apart
          exact ⟨final, run_attempt_of_some ran, kept⟩
        · exact ⟨units, rfl, rfl⟩

/-- Considering other sockets. -/
theorem evaluateSocketTriggers_other (create : SocketMetadata → Except CoreError Nat)
    (facets : Facets) (trigger : EmitTrigger) (units : Units) {targets : List Ustr}
    (apart : ∀ target ∈ targets, definitions.instanceKey "*" target ≠ key) :
    ∃ final, evaluateSocketTriggers definitions create facets trigger targets units =
        some (.ok (), final) ∧ final.entry key = units.entry key := by
  induction targets generalizing units with
  | nil => exact ⟨units, rfl, rfl⟩
  | cons target rest ih =>
      obtain ⟨middle, ran, kept⟩ :=
        considerSocket_other create facets trigger.event units (apart target List.mem_cons_self)
      obtain ⟨final, ran', kept'⟩ :=
        ih middle fun other inside => apart other (List.mem_cons_of_mem _ inside)
      refine ⟨final, ?_, kept'.trans kept⟩
      rw [evaluateSocketTriggers, each_cons, run_bind_of_ok ran]
      exact ran'

/-- Considering the socket where no unit has its name. -/
theorem considerSocket_idle (facets : Facets) (event : Option FlowInstance) {name : Ustr}
    (found : definitions.find "*" name = some socket)
    (made : definitions.instantiated "*" name = some socket)
    (created : ∃ fd, create socket = .ok fd)
    (empty : units.entry (definitions.instanceKey "*" name) = []) :
    ∃ next, considerSocket definitions create facets event name units = some (.ok (), next) ∧
      (socketActive definitions name next ↔ AnySatisfied facets event socket.startOn) := by
  obtain ⟨fd, created⟩ := created
  have inactive : socketActive definitions name units = false := by
    rw [socketActive, empty]
    rfl
  rw [considerSocket, found]
  dsimp only
  rw [run_read_bind, inactive, Bool.not_false, Bool.and_true, Bool.and_false,
    if_neg Bool.false_ne_true, ← SocketMetadata.shouldStart_iff]
  by_cases met : socket.shouldStart facets event
  · rw [if_pos met]
    have ran : ∃ next, startSocket definitions create name units = some (.ok (), next) ∧
        socketActive definitions name next := by
      rw [Units.entry] at empty
      simp only [startSocket, instantiateSocket, empty, made, created]
      refine ⟨_, rfl, ?_⟩
      simp [socketActive, Units.entry, UnitInstance.asSocket]
    obtain ⟨next, ran, active⟩ := ran
    exact ⟨next, run_attempt_of_some ran, by simp [active, met]⟩
  · rw [if_neg met]
    exact ⟨units, rfl, by simp [inactive, met]⟩

/-- Which triggers start a socket where no unit has its name. -/
theorem startsSocket_iff {trigger : EmitTrigger} {targets : List Ustr} {name : Ustr}
    (found : definitions.find "*" name = some socket)
    (made : definitions.instantiated "*" name = some socket)
    (created : ∃ fd, create socket = .ok fd)
    (empty : units.entry (definitions.instanceKey "*" name) = []) (distinct : targets.Nodup)
    (own : ∀ target ∈ targets, definitions.instanceKey "*" target =
      definitions.instanceKey "*" name → target = name) :
    StartsSocket definitions create facets trigger targets units name ↔
      name ∈ targets ∧ AnySatisfied facets trigger.event socket.startOn := by
  have active_of_entry {before after : Units}
      (kept : after.entry (definitions.instanceKey "*" name) =
        before.entry (definitions.instanceKey "*" name)) :
      socketActive definitions name after = socketActive definitions name before := by
    rw [socketActive, kept, socketActive]
  have only {final : Units} (ran : evaluateSocketTriggers definitions create facets trigger
      targets units = some (.ok (), final)) :
      StartsSocket definitions create facets trigger targets units name ↔
        socketActive definitions name final := by
    constructor
    · rintro ⟨other, ran', active⟩
      cases ran.symm.trans ran'
      exact active
    · exact fun active => ⟨final, ran, active⟩
  by_cases listed : name ∈ targets
  · obtain ⟨before, after, rfl, absent⟩ := List.eq_append_cons_of_mem listed
    have later : name ∉ after := (List.nodup_cons.mp (List.nodup_append.mp distinct).2.1).1
    have first : ∀ target ∈ before,
        definitions.instanceKey "*" target ≠ definitions.instanceKey "*" name :=
      fun target member same => absent (own target (List.mem_append_left _ member) same ▸ member)
    have last : ∀ target ∈ after,
        definitions.instanceKey "*" target ≠ definitions.instanceKey "*" name :=
      fun target member same => later
        (own target (List.mem_append_right _ (List.mem_cons_of_mem _ member)) same ▸ member)
    obtain ⟨middle, ran, kept⟩ := evaluateSocketTriggers_other create facets trigger units first
    obtain ⟨turned, ran', decided⟩ :=
      considerSocket_idle facets trigger.event found made created (kept.trans empty)
    obtain ⟨final, ran'', kept'⟩ := evaluateSocketTriggers_other create facets trigger turned last
    have whole : evaluateSocketTriggers definitions create facets trigger
        (before ++ name :: after) units = some (.ok (), final) := by
      rw [evaluateSocketTriggers, each_append_of_ok ran, each_cons, run_bind_of_ok ran']
      exact ran''
    rw [only whole, active_of_entry kept', decided]
    exact (and_iff_right listed).symm
  · have others : ∀ target ∈ targets,
        definitions.instanceKey "*" target ≠ definitions.instanceKey "*" name :=
      fun target member same => listed (own target member same ▸ member)
    obtain ⟨final, ran, kept⟩ := evaluateSocketTriggers_other create facets trigger units others
    rw [only ran, active_of_entry kept, socketActive, empty]
    simp [listed]

end Sockets

/-! ## The same conditions -/

/-- A service that comes after no other and a socket with the same start-on list, where the
service is not running and the socket not open. -/
structure Twins where
  env : ServiceEnv
  services : Services
  targets : List Ustr
  name : Ustr
  metadata : ServiceMetadata
  definitions : MetadataRegistry SocketMetadata
  create : SocketMetadata → Except CoreError Nat
  units : Units
  socketTargets : List Ustr
  socketName : Ustr
  socket : SocketMetadata
  same : socket.startOn = metadata.startOn
  alone : metadata.after = none
  leads : ∀ target ∈ targets, ∃ metadata, LeadsBack env.metadata target metadata
  led : LeadsBack env.metadata name metadata
  defines : services.Defines name metadata
  idle : (services.serviceOf name metadata).isRunning = false
  found : definitions.find "*" socketName = some socket
  made : definitions.instantiated "*" socketName = some socket
  created : ∃ fd, create socket = .ok fd
  empty : units.entry (definitions.instanceKey "*" socketName) = []
  distinct : socketTargets.Nodup
  own : ∀ target ∈ socketTargets, definitions.instanceKey "*" target =
    definitions.instanceKey "*" socketName → target = socketName

namespace Twins

variable (twins : Twins) (trigger : EmitTrigger)

/-- A start-on condition of the two is satisfied. -/
def Satisfied : Prop := AnySatisfied twins.env.facets trigger.event twins.metadata.startOn

/-- The service has something to start. -/
def StartsSome : Prop :=
  twins.metadata.StartsSome twins.env trigger.event
    (twins.services.serviceOf twins.name twins.metadata).instances.length

/-- The service is started if and only if one of the conditions is satisfied, and the socket
whenever the service is. -/
structure StartTogether [TomlText] (answer : Nat → Nat → SpawnAnswer) : Prop where
  service : StartsService twins.env answer trigger twins.targets twins.services twins.name ↔
    twins.Satisfied trigger
  socket : StartsSocket twins.definitions twins.create twins.env.facets trigger
      twins.socketTargets twins.units twins.socketName ↔
    StartsService twins.env answer trigger twins.targets twins.services twins.name

end Twins

end Deciding

/-! ## A service that waits for a session or for the network -/

section Backend

open scoped Compact

/-- The conditions of the service `backend` in the documentation. -/
def backendConditions : List FlowItem :=
  [.detailed (some "rind:user_session") none none none,
    .detailed none (some "net:configured") none none]

def backendService : ServiceMetadata :=
  { workerService with name := "backend", startOn := some backendConditions }

def backendSocket : SocketMetadata := ⟨"backend", none, some backendConditions, none⟩

def sessionBranch : FlowInstance := ⟨"rind:user_session", .string "alice", .facet⟩

/-- The first session has been set. -/
def sessionSet : EmitTrigger where
  name := some "rind:user_session"
  flowType := some .facet
  payload := some sessionBranch.payload
  action := .apply

def backendEnv : ServiceEnv :=
  { loneEnv backendService 100 with
    facets := AList.insert "rind:user_session" [sessionBranch] ∅ }

theorem leadsBack_backend : LeadsBack backendEnv.metadata "app:backend@static" backendService := by
  have parsed : (Text.rsplitOnce '@' "app:backend@static").getD ("app:backend@static", "static") =
      ("app:backend", "static") := by decide +kernel
  exact .of_parts (by decide) (by decide) parsed (by decide +kernel) (by decide +kernel)
    (by decide +kernel) (by decide +kernel)

def backends : Twins where
  env := backendEnv
  services := .boot
  targets := ["app:backend@static"]
  name := "app:backend@static"
  metadata := backendService
  definitions := .ofGroup "static" "app" [backendSocket]
  create _ := .ok 3
  units := noUnits
  socketTargets := ["app:backend"]
  socketName := "app:backend"
  socket := backendSocket
  same := rfl
  alone := rfl
  leads := List.forall_mem_singleton.mpr ⟨_, leadsBack_backend⟩
  led := leadsBack_backend
  defines := by
    intro service found
    cases found
  idle := rfl
  found := by decide +kernel
  made := by decide +kernel
  created := ⟨3, rfl⟩
  empty := rfl
  distinct := List.nodup_singleton _
  own := List.forall_mem_singleton.mpr fun _ => rfl

theorem considerServices_backend :
    (considerServices backendEnv sessionSet ["app:backend@static"] ⟨.boot, []⟩).map
      (fun outcome => outcome.2.toStart) = some [] := by decide +kernel

end Backend

end Rind
