import Rind.Services.Branching

/-!
# Evaluating an event for a branching service

The definitions that an event is about are considered one after the other.  For a
branching service among them: what it is told to stop when its turn comes, and the
branches that are to be started afterwards.
-/

namespace Rind

open Prog

/-! ## One definition -/

/-- The full name of a service leads to its definition, and to the key of its own
name. -/
structure LeadsBack (definitions : MetadataRegistry ServiceMetadata) (name : Ustr)
    (metadata : ServiceMetadata) : Prop where
  full : '@' ∈ name.toList
  grouped : ':' ∈ name.toList
  found : definitions.find "*" name = some metadata
  own : ∀ base scope, (Text.rsplitOnce '@' name).getD (name, "static") = (base, scope) →
    definitions.instanceKey scope base = name ∧ definitions.instantiated scope base = some metadata
  direct : definitions.instantiated "*" name = some metadata

/-- It is enough to look at the two parts of the name. -/
theorem LeadsBack.of_parts {definitions : MetadataRegistry ServiceMetadata} {name base scope : Ustr}
    {metadata : ServiceMetadata} (full : '@' ∈ name.toList) (grouped : ':' ∈ name.toList)
    (parsed : (Text.rsplitOnce '@' name).getD (name, "static") = (base, scope))
    (found : definitions.find "*" name = some metadata)
    (key : definitions.instanceKey scope base = name)
    (made : definitions.instantiated scope base = some metadata)
    (direct : definitions.instantiated "*" name = some metadata) :
    LeadsBack definitions name metadata := by
  refine ⟨full, grouped, found, ?_, direct⟩
  intro base' scope' parsed'
  cases parsed.symm.trans parsed'
  exact ⟨key, made⟩

theorem ensureScopedName_of_full {name : Ustr} (full : '@' ∈ name.toList) :
    ensureScopedName name = name := if_pos full

/-- A service, or a new one where it is not instantiated. -/
def Services.serviceOf (services : Services) (name : Ustr) (metadata : ServiceMetadata) : Service :=
  (services.instances.lookup name).getD (Service.new metadata)

/-- The service of a name has the definition, if it is instantiated. -/
def Services.Defines (services : Services) (name : Ustr) (metadata : ServiceMetadata) : Prop :=
  ∀ service, services.instances.lookup name = some service → service.metadata = metadata

section Evaluations

variable [SerdeJson] {env : ServiceEnv} {trigger : EmitTrigger} {name : Ustr}
  {metadata : ServiceMetadata} {branching : BranchingConfig} {state : TriggerState}

omit [SerdeJson] in
theorem Services.Defines.serviceOf {services : Services} (defines : services.Defines name metadata) :
    (services.serviceOf name metadata).metadata = metadata := by
  rw [Services.serviceOf]
  cases known : services.instances.lookup name with
  | none => rfl
  | some service => exact defines service known

omit [SerdeJson] in
theorem Services.serviceOf_insert {services : Services} {service : Service} {host : Host} :
    Services.serviceOf { instances := services.instances.insert name service, host } name metadata =
      service := by
  rw [Services.serviceOf, AList.lookup_insert, Option.getD_some]

omit [SerdeJson] in
theorem Services.defines_insert {services : Services} {service : Service} {host : Host}
    (same : service.metadata = metadata) :
    Services.Defines { instances := services.instances.insert name service, host } name metadata := by
  intro other found
  rw [AList.lookup_insert, Option.some_inj] at found
  rw [← found, same]

/-- What a trigger stops of the service. -/
theorem TriggerState.stop_own (defines : state.services.Defines name metadata)
    (branches : metadata.branching = some branching) :
    StopOutcome branching trigger (state.services.serviceOf name metadata) state.services.host
        ((state.stop env trigger name).services.serviceOf name metadata,
          (state.stop env trigger name).services.host) ∧
      (state.stop env trigger name).services.Defines name metadata := by
  rw [TriggerState.stop]
  cases known : state.services.instances.lookup name with
  | none =>
      refine ⟨.kept fun key asked running => ?_, defines⟩
      obtain ⟨inst, member, -⟩ := Service.mem_runningKeys.mp running
      rw [Services.serviceOf, known] at member
      cases member
  | some service =>
      have same := defines service known
      have outcome : StopOutcome branching trigger service state.services.host
          (stopTriggered env trigger service state.services.host) :=
        stopTriggered_cases (same ▸ branches)
      have current : state.services.serviceOf name metadata = service := by
        rw [Services.serviceOf, known, Option.getD_some]
      have kept : (stopTriggered env trigger service state.services.host).1.metadata = metadata := by
        generalize stopTriggered env trigger service state.services.host = result at outcome
        cases outcome with
        | kept idle => exact same
        | stopped key reverted running after final stops => exact stops.metadata.trans same
      dsimp only
      rw [current, Services.serviceOf_insert]
      exact ⟨outcome, Services.defines_insert kept⟩

/-- The starts that a trigger leads to, once it has stopped what it stops. -/
def ownStarts (env : ServiceEnv) (trigger : EmitTrigger) (name : Ustr) (metadata : ServiceMetadata)
    (branching : BranchingConfig) (services : Services) :
    List (Ustr × Option ServiceBranchContext) :=
  if metadata.shouldStart env.facets trigger.event && aftersRunning env metadata services then
    (branchStarts env branching (services.serviceOf name metadata)
      (branchesToConsider env.facets branching trigger.event) 0).map fun ctx => (name, some ctx)
  else []

theorem name_of_mem_ownStarts {services : Services} {entry : Ustr × Option ServiceBranchContext}
    (member : entry ∈ ownStarts env trigger name metadata branching services) : entry.1 = name := by
  rw [ownStarts] at member
  split at member
  · obtain ⟨ctx, -, rfl⟩ := List.mem_map.mp member
    rfl
  · cases member

omit [SerdeJson] in
theorem LeadsBack.instantiateOne {definitions : MetadataRegistry ServiceMetadata}
    (leads : LeadsBack definitions name metadata) {base scope : Ustr}
    (parsed : (Text.rsplitOnce '@' name).getD (name, "static") = (base, scope))
    (services : Services) :
    definitions.instantiateOne Service.new scope base services.instances =
      some (name, services.serviceOf name metadata) := by
  obtain ⟨own, made⟩ := leads.own base scope parsed
  rw [MetadataRegistry.instantiateOne, own, made, Services.serviceOf]
  cases services.instances.lookup name <;> rfl

/-- Considering the service. -/
theorem considerService_own (leads : LeadsBack env.metadata name metadata)
    (defines : state.services.Defines name metadata)
    (branches : metadata.branching = some branching) :
    ∃ next, considerService env trigger name state = some (.ok (), next) ∧
      next.services.serviceOf name metadata =
        (state.stop env trigger name).services.serviceOf name metadata ∧
      next.services.host = (state.stop env trigger name).services.host ∧
      next.services.Defines name metadata ∧
      next.toStart = state.toStart ++ ownStarts env trigger name metadata branching
        (state.stop env trigger name).services := by
  obtain ⟨-, kept⟩ : _ ∧ (state.stop env trigger name).services.Defines name metadata :=
    TriggerState.stop_own defines branches
  have toStart : (state.stop env trigger name).toStart = state.toStart := by
    rw [TriggerState.stop]
    split <;> rfl
  generalize stopped_eq : state.stop env trigger name = stopped at kept toStart ⊢
  rw [considerService, leads.found, ensureScopedName_of_full leads.full]
  dsimp only
  rw [if_neg (not_not.mpr leads.grouped), run_read_bind, run_change_bind, stopped_eq]
  by_cases met : metadata.shouldStart env.facets trigger.event
  · rw [met, Bool.not_true, if_neg Bool.false_ne_true, run_read_bind]
    by_cases ready : aftersRunning env metadata stopped.services
    · have running : (!aftersRunning env metadata stopped.services || (metadata.branching.isNone &&
          (state.services.instances.lookup name).any Service.isRunning)) = false := by
        rw [ready, branches]
        rfl
      rw [running, if_neg Bool.false_ne_true, startTriggered]
      cases parsed : (Text.rsplitOnce '@' name).getD (name, "static") with
      | mk base scope =>
          simp only [leads.instantiateOne parsed, kept.serviceOf, branches]
          refine ⟨_, rfl, ?_, rfl, ?_, ?_⟩
          · exact Services.serviceOf_insert
          · exact Services.defines_insert kept.serviceOf
          · rw [toStart, ownStarts, met, ready, List.map_map]
            rfl
    · rw [eq_false_of_ne_true ready, Bool.not_false, Bool.true_or, if_pos rfl]
      refine ⟨stopped, rfl, rfl, rfl, kept, ?_⟩
      rw [ownStarts, eq_false_of_ne_true ready, Bool.and_false, toStart]
      exact (List.append_nil _).symm
  · rw [eq_false_of_ne_true met, Bool.not_false, if_pos rfl]
    refine ⟨stopped, rfl, rfl, rfl, kept, ?_⟩
    rw [ownStarts, eq_false_of_ne_true met, Bool.false_and, toStart]
    exact (List.append_nil _).symm

/-- What a trigger stops, it stops one call after the other. -/
theorem stopTriggered_hosts {rel : Host → Host → Prop} (refl : ∀ host, rel host host)
    (trans : ∀ first middle last, rel first middle → rel middle last → rel first last)
    (once : ∀ key service host,
      rel host (stopService env.now .graceful key none none service host).2)
    (service : Service) (host : Host) : rel host (stopTriggered env trigger service host).2 := by
  rw [stopTriggered]
  split
  · next branching branches =>
    clear branches
    generalize service.revertedKeys branching trigger = keys
    induction keys generalizing service host with
    | nil => exact refl host
    | cons key rest ih => exact trans _ _ _ (once (some key) service host) (ih ..)
  · split
    · exact once none service host
    · exact refl host

theorem signals_stopTriggered (service : Service) (host : Host) :
    host.kernel.signals <+: (stopTriggered env trigger service host).2.kernel.signals := by
  let rel (host final : Host) := host.kernel.signals <+: final.kernel.signals
  have once (key : Option Ustr) (service : Service) (host : Host) :
      rel host (stopService env.now .graceful key none none service host).2 := by
    obtain ⟨lastState, stopped⟩ := stopService_eq env.now .graceful key none none service host
    obtain ⟨new, signals, -⟩ :=
      signals_stopProcesses env.now .graceful (service.stoppedPids key none none) host
    rw [stopped]
    exact ⟨new, signals.symm⟩
  exact stopTriggered_hosts (fun host => show rel host host from List.prefix_rfl)
    (fun _ _ _ => List.IsPrefix.trans) once service host

theorem signalled_stopTriggered (service : Service) (host : Host) :
    host.Signalled (stopTriggered env trigger service host).2 := by
  refine stopTriggered_hosts Host.Signalled.refl (fun _ _ _ => .trans)
    (fun key service host => ?_) service host
  obtain ⟨lastState, stopped⟩ := stopService_eq env.now .graceful key none none service host
  rw [stopped]
  exact Host.Signalled.stopProcesses ..

/-- Considering another service. -/
theorem considerService_other (trigger : EmitTrigger) (state : TriggerState) {other : Ustr}
    {metadata' : ServiceMetadata} (leads : LeadsBack env.metadata other metadata')
    (apart : name ≠ other) :
    ∃ next, considerService env trigger other state = some (.ok (), next) ∧
      next.services.instances.lookup name = state.services.instances.lookup name ∧
      state.services.host.kernel.signals <+: next.services.host.kernel.signals ∧
      ∃ more, next.toStart = state.toStart ++ more ∧ ∀ entry ∈ more, entry.1 = other := by
  have stops : (state.stop env trigger other).services.instances.lookup name =
        state.services.instances.lookup name ∧
      state.services.host.kernel.signals <+:
        (state.stop env trigger other).services.host.kernel.signals ∧
      (state.stop env trigger other).toStart = state.toStart := by
    rw [TriggerState.stop]
    split
    · exact ⟨rfl, List.prefix_rfl, rfl⟩
    · exact ⟨AList.lookup_insert_ne apart, signals_stopTriggered .., rfl⟩
  generalize stopped_eq : state.stop env trigger other = stopped at stops
  obtain ⟨lookup, signals, toStart⟩ := stops
  have idle : ∃ more, stopped.toStart = state.toStart ++ more ∧ ∀ entry ∈ more, entry.1 = other :=
    ⟨[], by rw [toStart, List.append_nil], by simp⟩
  rw [considerService, leads.found, ensureScopedName_of_full leads.full]
  dsimp only
  rw [if_neg (not_not.mpr leads.grouped), run_read_bind, run_change_bind, stopped_eq]
  split
  · exact ⟨stopped, rfl, lookup, signals, idle⟩
  · rw [run_read_bind]
    split
    · exact ⟨stopped, rfl, lookup, signals, idle⟩
    · rw [startTriggered]
      cases parsed : (Text.rsplitOnce '@' other).getD (other, "static") with
      | mk base scope =>
          simp only [leads.instantiateOne parsed]
          refine ⟨_, rfl, ?_, signals, _, by rw [toStart], ?_⟩
          · exact (AList.lookup_insert_ne apart).trans lookup
          · intro entry member
            obtain ⟨ctx, -, rfl⟩ := List.mem_map.mp member
            rfl

/-! ## All definitions -/

/-- Considering other services. -/
theorem considerServices_other (trigger : EmitTrigger) (state : TriggerState)
    {targets : List Ustr}
    (leads : ∀ target ∈ targets, ∃ metadata, LeadsBack env.metadata target metadata)
    (apart : name ∉ targets) :
    ∃ next, considerServices env trigger targets state = some (.ok (), next) ∧
      next.services.instances.lookup name = state.services.instances.lookup name ∧
      state.services.host.kernel.signals <+: next.services.host.kernel.signals ∧
      ∃ more, next.toStart = state.toStart ++ more ∧ ∀ entry ∈ more, entry.1 ∈ targets := by
  induction targets generalizing state with
  | nil => exact ⟨state, rfl, rfl, List.prefix_rfl, [], (List.append_nil _).symm, by simp⟩
  | cons target rest ih =>
      obtain ⟨metadata', led⟩ := leads target List.mem_cons_self
      rw [List.mem_cons, not_or] at apart
      obtain ⟨apart, rest_apart⟩ := apart
      obtain ⟨middle, ran, lookup, signals, more, toStart, others⟩ :=
        considerService_other trigger state led apart
      obtain ⟨next, ran', lookup', signals', more', toStart', others'⟩ :=
        ih middle (fun other inside => leads other (List.mem_cons_of_mem _ inside)) rest_apart
      refine ⟨next, ?_, lookup'.trans lookup, signals.trans signals', more ++ more', ?_, ?_⟩
      · rw [considerServices, each_cons, run_bind_of_ok ran]
        exact ran'
      · rw [toStart', toStart, List.append_assoc]
      · intro entry member
        rcases List.mem_append.mp member with member | member
        · exact List.mem_cons.mpr (.inl (others entry member))
        · exact List.mem_cons_of_mem _ (others' entry member)

/-- How the definitions are considered, seen from one of them: `middle` is the state
in which its turn comes. -/
structure Considered (env : ServiceEnv) (trigger : EmitTrigger) (name : Ustr)
    (metadata : ServiceMetadata) (branching : BranchingConfig) (targets : List Ustr)
    (state next middle : TriggerState) : Prop where
  ran : considerServices env trigger targets state = some (.ok (), next)
  turn : considerServices env trigger (targets.takeWhile (· ≠ name)) state =
    some (.ok (), middle)
  outcome : StopOutcome branching trigger (state.services.serviceOf name metadata)
    middle.services.host ((middle.stop env trigger name).services.serviceOf name metadata,
      (middle.stop env trigger name).services.host)
  service : next.services.serviceOf name metadata =
    (middle.stop env trigger name).services.serviceOf name metadata
  defines : next.services.Defines name metadata
  before : state.services.host.kernel.signals <+: middle.services.host.kernel.signals
  after : (middle.stop env trigger name).services.host.kernel.signals <+:
    next.services.host.kernel.signals
  toStart : next.toStart.filter (·.1 = name) = state.toStart.filter (·.1 = name) ++
    ownStarts env trigger name metadata branching (middle.stop env trigger name).services
  names : ∀ entry ∈ next.toStart, entry ∈ state.toStart ∨ entry.1 ∈ targets

theorem considerServices_own {targets : List Ustr} (trigger : EmitTrigger) (state : TriggerState)
    (leads : ∀ target ∈ targets, ∃ metadata, LeadsBack env.metadata target metadata)
    (led : LeadsBack env.metadata name metadata) (listed : name ∈ targets)
    (distinct : targets.Nodup) (defines : state.services.Defines name metadata)
    (branches : metadata.branching = some branching) :
    ∃ next middle, Considered env trigger name metadata branching targets state next middle := by
  obtain ⟨before, after, rfl, absent⟩ := List.eq_append_cons_of_mem listed
  have later : name ∉ after := (List.nodup_cons.mp (List.nodup_append.mp distinct).2.1).1
  have first : (before ++ name :: after).takeWhile (· ≠ name) = before := by
    rw [List.takeWhile_append_of_pos, List.takeWhile_cons_of_neg (by simp), List.append_nil]
    intro target member
    exact decide_eq_true fun same => absent (same ▸ member)
  obtain ⟨middle, ran, lookup, signals, more, toStart, others⟩ :=
    considerServices_other trigger state (fun target member =>
      leads target (List.mem_append_left _ member)) absent
  have same : middle.services.serviceOf name metadata = state.services.serviceOf name metadata := by
    rw [Services.serviceOf, lookup, Services.serviceOf]
  have defines' : middle.services.Defines name metadata := by
    intro service found
    exact defines service (lookup ▸ found)
  obtain ⟨outcome, -⟩ : _ ∧ (middle.stop env trigger name).services.Defines name metadata :=
    TriggerState.stop_own defines' branches
  obtain ⟨turned, ran', service, host, kept, toStart'⟩ :
      ∃ next, considerService env trigger name middle = some (.ok (), next) ∧ _ :=
    considerService_own led defines' branches
  obtain ⟨next, ran'', lookup', signals', more', toStart'', others'⟩ :=
    considerServices_other trigger turned (fun target member =>
      leads target (List.mem_append_right _ (List.mem_cons_of_mem _ member))) later
  refine ⟨next, middle, ?_, ?_, ?_, ?_, ?_, signals, ?_, ?_, ?_⟩
  · rw [considerServices, each_append_of_ok ran, each_cons, run_bind_of_ok ran']
    exact ran''
  · rw [first]
    exact ran
  · rw [← same]
    exact outcome
  · rw [← service, Services.serviceOf, lookup', Services.serviceOf]
  · intro service found
    exact kept service (lookup' ▸ found)
  · rw [← host]
    exact signals'
  · have none_ : ∀ {more : List (Ustr × Option ServiceBranchContext)},
        (∀ entry ∈ more, entry.1 ≠ name) → more.filter (·.1 = name) = [] := by
      intro more others
      exact List.filter_eq_nil_iff.mpr fun entry member =>
        by simpa using others entry member
    have all_ : (ownStarts env trigger name metadata branching
        (middle.stop env trigger name).services).filter (·.1 = name) =
          ownStarts env trigger name metadata branching
            (middle.stop env trigger name).services :=
      List.filter_eq_self.mpr fun entry member => decide_eq_true (name_of_mem_ownStarts member)
    rw [toStart'', toStart', toStart, List.filter_append, List.filter_append, List.filter_append,
      none_ fun entry member same => absent (same ▸ others entry member),
      none_ fun entry member same => later (same ▸ others' entry member), all_, List.append_nil,
      List.append_nil]
  · intro entry member
    rw [toStart'', toStart', toStart, List.mem_append, List.mem_append, List.mem_append] at member
    rcases member with ((old | first) | own) | last
    · exact .inl old
    · exact .inr (List.mem_append_left _ (others entry first))
    · rw [name_of_mem_ownStarts own]
      exact .inr (List.mem_append_right _ List.mem_cons_self)
    · exact .inr (List.mem_append_right _ (List.mem_cons_of_mem _ (others' entry last)))

/-! ## The services that it comes after -/

/-- A running service that an event does not stop as a whole. -/
def Service.Stays (env : ServiceEnv) (trigger : EmitTrigger) (service : Service) : Bool :=
  match service.metadata.branching with
  | some branching => service.instances.any fun inst =>
      inst.state.isRunning && trigger.revertedKey branching != some inst.key
  | none => service.isRunning && !(service.metadata.shouldStop env.facets trigger.event ||
      service.metadata.autoStopOnRevert env.facets trigger)

theorem isRunning_of_stays {service : Service} (stays : service.Stays env trigger) :
    service.isRunning := by
  rw [Service.Stays] at stays
  split at stays
  · obtain ⟨inst, member, holds⟩ := List.any_eq_true.mp stays
    exact List.any_eq_true.mpr ⟨inst, member, (Bool.and_eq_true_iff.mp holds).1⟩
  · exact (Bool.and_eq_true_iff.mp stays).1

/-- The service that stays is running when its stop has been considered. -/
theorem isRunning_stopTriggered {service : Service} {host : Host}
    (stays : service.Stays env trigger) :
    (stopTriggered env trigger service host).1.isRunning := by
  cases branches : service.metadata.branching with
  | none =>
      rw [Service.Stays, branches] at stays
      obtain ⟨running, unmoved⟩ := Bool.and_eq_true_iff.mp stays
      rw [Bool.not_eq_true'] at unmoved
      simp only [stopTriggered, branches, unmoved, Bool.false_and, Bool.false_eq_true, if_false]
      exact running
  | some branching =>
      have running := isRunning_of_stays stays
      have outcome : StopOutcome branching trigger service host
        (stopTriggered env trigger service host) := stopTriggered_cases branches
      generalize stopTriggered env trigger service host = result at outcome
      cases outcome with
      | kept idle => exact running
      | stopped key reverted _ after final stops =>
          simp only [Service.Stays, branches, reverted] at stays
          obtain ⟨inst, member, holds⟩ := List.any_eq_true.mp stays
          rw [Bool.and_eq_true, bne_iff_ne] at holds
          refine List.any_eq_true.mpr ⟨inst, ?_, holds.1⟩
          have apart : ¬ inst.concerns (some key) none := fun about =>
            holds.2 (congrArg some (ChildInstance.concerns_key.mp about).symm)
          rw [stops.instances]
          exact List.mem_map.mpr ⟨inst, member, if_neg apart⟩

/-- A definition that is considered changes its service at most by the stop. -/
theorem considerService_known {next : TriggerState} {service : Service}
    (leads : LeadsBack env.metadata name metadata)
    (known : state.services.instances.lookup name = some service)
    (ran : considerService env trigger name state = some (.ok (), next)) :
    next.services.instances.lookup name =
      some (stopTriggered env trigger service state.services.host).1 := by
  have stopped_known : (state.stop env trigger name).services.instances.lookup name =
      some (stopTriggered env trigger service state.services.host).1 := by
    rw [TriggerState.stop, known]
    exact AList.lookup_insert _
  generalize stopped_eq : state.stop env trigger name = stopped at stopped_known
  rw [considerService, leads.found, ensureScopedName_of_full leads.full] at ran
  dsimp only at ran
  rw [if_neg (not_not.mpr leads.grouped), run_read_bind, run_change_bind, stopped_eq] at ran
  split at ran
  · cases ran
    exact stopped_known
  · rw [run_read_bind] at ran
    split at ran
    · cases ran
      exact stopped_known
    · rw [startTriggered] at ran
      cases parsed : (Text.rsplitOnce '@' name).getD (name, "static") with
      | mk base scope =>
          simp only [parsed, leads.instantiateOne parsed] at ran
          cases ran
          rw [Services.store]
          refine (AList.lookup_insert _).trans ?_
          rw [Services.serviceOf, stopped_known, Option.getD_some]

/-- A service that stays is running after any definitions have been considered, and
unchanged where it is not among them. -/
theorem considerServices_stays {targets : List Ustr} {key : Ustr} {service : Service}
    {next : TriggerState}
    (leads : ∀ target ∈ targets, ∃ metadata, LeadsBack env.metadata target metadata)
    (distinct : targets.Nodup) (known : state.services.instances.lookup key = some service)
    (stays : service.Stays env trigger)
    (ran : considerServices env trigger targets state = some (.ok (), next)) :
    ∃ after, next.services.instances.lookup key = some after ∧ after.isRunning ∧
      (key ∉ targets → after = service) := by
  induction targets generalizing state with
  | nil =>
      cases ran
      exact ⟨service, known, isRunning_of_stays stays, fun _ => rfl⟩
  | cons target rest ih =>
      obtain ⟨metadata', led⟩ := leads target List.mem_cons_self
      have leads' := fun other inside => leads other (List.mem_cons_of_mem _ inside)
      obtain ⟨later, distinct'⟩ := List.nodup_cons.mp distinct
      rw [considerServices, each_cons] at ran
      by_cases same : key = target
      · subst same
        rcases run_bind_cases ran with ⟨error, failed, same⟩ | ⟨⟨⟩, middle, first, others⟩
        · cases same
        · have stopped := considerService_known led known first
          obtain ⟨next', ran', lookup, -⟩ := considerServices_other trigger middle leads' later
          obtain rfl : next' = next := by
            rw [considerServices, others] at ran'
            cases ran'
            rfl
          exact ⟨_, lookup.trans stopped, isRunning_stopTriggered stays,
            fun absent => absurd List.mem_cons_self absent⟩
      · obtain ⟨middle, first, lookup, -⟩ := considerService_other trigger state led same
        rw [run_bind_of_ok first] at ran
        obtain ⟨after, found, running, kept⟩ := ih leads' distinct' (lookup.trans known) ran
        exact ⟨after, found, running, fun absent => kept fun inside =>
          absent (List.mem_cons_of_mem _ inside)⟩

/-- The services that a service comes after are running, and an event does not stop
them. -/
def AftersStay (env : ServiceEnv) (trigger : EmitTrigger) (metadata : ServiceMetadata)
    (services : Services) : Prop :=
  ∀ afters ∈ metadata.after, ∀ other ∈ afters, ∃ service,
    services.instances.lookup (env.metadata.instanceKey "*" other) = some service ∧
      service.Stays env trigger

/-- Then they are running when the turn of the service comes. -/
theorem aftersRunning_of_stay {before : List Ustr} {middle : TriggerState}
    (leads : ∀ target ∈ before, ∃ metadata, LeadsBack env.metadata target metadata)
    (distinct : before.Nodup) (absent : name ∉ before)
    (stay : AftersStay env trigger metadata state.services)
    (ran : considerServices env trigger before state = some (.ok (), middle)) :
    aftersRunning env metadata (middle.stop env trigger name).services := by
  rw [aftersRunning, Option.all_eq_true]
  intro afters comes
  rw [List.all_eq_true]
  intro other listed
  obtain ⟨service, known, stays⟩ := stay afters comes other listed
  obtain ⟨after, found, running, kept⟩ := considerServices_stays leads distinct known stays ran
  rw [Option.any_eq_true]
  by_cases own : env.metadata.instanceKey "*" other = name
  · rw [own] at found kept ⊢
    obtain rfl := kept absent
    refine ⟨(stopTriggered env trigger after middle.services.host).1, ?_,
      isRunning_stopTriggered stays⟩
    rw [TriggerState.stop, found]
    exact AList.lookup_insert _
  · refine ⟨after, ?_, running⟩
    rw [TriggerState.stop]
    split
    · exact found
    · exact (AList.lookup_insert_ne own).trans found

section Turn

variable {targets : List Ustr} {next middle : TriggerState}

/-- The names of what is to be started lead back, as those of the targets do. -/
theorem Considered.leads
    (considered : Considered env trigger name metadata branching targets state next middle)
    (leads : ∀ target ∈ targets, ∃ metadata, LeadsBack env.metadata target metadata)
    (first : state.toStart = []) :
    ∀ entry ∈ next.toStart, ∃ metadata, LeadsBack env.metadata entry.1 metadata := by
  intro entry member
  rcases considered.names entry member with old | target
  · rw [first] at old
    cases old
  · exact leads entry.1 target

/-- The services that it comes after are running when its turn comes, if they stay. -/
theorem Considered.afters
    (considered : Considered env trigger name metadata branching targets state next middle)
    (leads : ∀ target ∈ targets, ∃ metadata, LeadsBack env.metadata target metadata)
    (distinct : targets.Nodup) (stay : AftersStay env trigger metadata state.services) :
    aftersRunning env metadata (middle.stop env trigger name).services := by
  refine aftersRunning_of_stay (fun target member => ?_) ?_ ?_ stay considered.turn
  · exact leads target ((List.takeWhile_sublist _).mem member)
  · exact distinct.sublist (List.takeWhile_sublist _)
  · intro member
    simpa using List.mem_takeWhile_imp member

end Turn

end Evaluations

end Rind
