import Rind.Flow.StopOn
import Rind.Services.Following

/-!
# Branches over whole histories

Facets change, each change is announced, and each event is evaluated: a branching
service is to run for exactly the branches that are there and admitted.  What carries
this through a history is that a key that runs is wanted, or its removal is still to be
evaluated, and that nothing waits that there is room for, or a change of the source is
still to be evaluated.
-/

namespace Rind

open Prog Runs

/-! ## Histories -/

section Histories

variable [SerdeJson]

/-- The trigger that `drain_events` makes of an event. -/
def FlowEvent.trigger (event : FlowEvent) : EmitTrigger where
  name := some event.name
  flowType := some event.flowType
  payload := some (FlowPayload.fromJson (some event.payload))
  action := event.action

/-- The services that an event is about, in an unspecified order. -/
def FlowEvent.targets (event : FlowEvent) (definitions : MetadataRegistry ServiceMetadata) :
    List Ustr :=
  triggerTargets (indexInterests (serviceInterests definitions)) definitions "static" event.trigger

/-- The facets, the services, and the events that are still to be evaluated. -/
structure BranchSystem where
  flow : FlowState
  heap : VariableHeap
  services : Services
  pending : List FlowEvent

inductive BranchAction where
  /-- A change of a facet, with all that it sets off. -/
  | change (env : FlowEnv) (c : Call)
  /-- The next event is evaluated. -/
  | evaluate (env : ServiceEnv) (answer : Nat → Nat → SpawnAnswer) (targets : List Ustr)
  /-- Something else happens to the services. -/
  | process (env : ServiceEnv) (action : ServiceAction)

namespace BranchSystem

variable (definitions : MetadataRegistry ServiceMetadata) (system : BranchSystem)

/-- The environment of a step has the facets and the variables of its time. -/
def env (env : ServiceEnv) : ServiceEnv :=
  { env with metadata := definitions, facets := system.flow.facets, heap := system.heap }

/-- The keys of the branches that are there and admitted. -/
def wanted (branching : BranchingConfig) : Finset Ustr :=
  (wantedKeys system.flow.facets system.heap branching).toFinset

/-- The service of a name. -/
def service (name : Ustr) (metadata : ServiceMetadata) : Service :=
  system.services.serviceOf name metadata

end BranchSystem

variable [TomlText]

noncomputable def branchStep (definitions : MetadataRegistry ServiceMetadata)
    (system : BranchSystem) : BranchAction → BranchSystem
  | .change env c =>
      match exec env c system.flow with
      | none => system
      | some (_, flow) =>
          { system with
            flow
            pending := system.pending ++ flow.events.drop system.flow.events.length }
  | .evaluate env answer targets =>
      match system.pending with
      | [] => system
      | event :: rest =>
          match evaluateTriggers (system.env definitions env) answer event.trigger targets
              system.services with
          | none => { system with pending := rest }
          | some (_, services) => { system with services, pending := rest }
  | .process env action =>
      { system with services := serviceStep system.services (system.env definitions env, action) }

end Histories

/-! ## Following the branches -/

section Follows

variable [SerdeJson] [TomlText] (definitions : MetadataRegistry ServiceMetadata) (name : Ustr)
  (metadata : ServiceMetadata) (branching : BranchingConfig)

/-- When all events have been evaluated, the service runs for exactly the branches that
are there and admitted, as far as the maximum goes. -/
structure Followed (system : BranchSystem) : Prop where
  only : (system.service name metadata).runningKeys ⊆ system.wanted branching
  filled : branching.Filled (system.wanted branching) (system.service name metadata).runningKeys
  bounded : ∀ max, branching.maxInstances = some max →
    (system.service name metadata).runningKeys.card ≤ max

/-- When the removal of a branch is evaluated, its instances are told to stop, and those of
other keys go on. -/
def TellsRemoved (system : BranchSystem) (action : BranchAction) : Prop :=
  match action, system.pending with
  | .evaluate _ _ _, event :: _ =>
      let next := branchStep definitions system action
      ∀ key, event.trigger.removedKey branching = some key →
        (∀ inst ∈ (system.service name metadata).instances, inst.state.isRunning →
          inst.key = key → ∀ pid, inst.pid = some pid →
            ∃ sent ∈ next.services.host.kernel.signals.drop
              system.services.host.kernel.signals.length,
              sent.pid = pid ∧ sent.signal = .sigterm) ∧
          (system.service name metadata).GoesOn (some key) (next.service name metadata)
  | _, _ => True

/-- The service follows the branches in every state of a run. -/
structure FollowsBranches (system : BranchSystem) (actions : List BranchAction) : Prop where
  followed : ∀ before, before <+: actions →
    (Runs.run (branchStep definitions) system before).pending = [] →
      Followed name metadata branching (Runs.run (branchStep definitions) system before)
  told : Along (branchStep definitions) (TellsRemoved definitions name metadata branching)
    system actions

/-- Nothing but signals, and exits of other services or of instances that were told to
stop. -/
def KeepsBranches (system : BranchSystem) (action : ServiceAction) : Prop :=
  match action with
  | .reap _ _ | .timeoutSweep => True
  | .childExited | .exit _ _ =>
      ∀ taken, takeExit system.services action = some taken →
        (∀ key, taken.base.host.runtime.pidMap.lookup taken.pid = some key → '@' ∈ key.toList) ∧
          ∀ inst ∈ (system.service name metadata).instances, inst.pid = some taken.pid →
            inst.manuallyStopped ∧ ¬ inst.state.isRunning
  | .start _ | .stop _ | .watchdogExpired _ => False

/-- What each step of a history has to meet. -/
def BranchAction.Meets (system : BranchSystem) (action : BranchAction) : Prop :=
  let service := system.service name metadata
  match action with
  | .change env c => system.pending = [] ∧
      ∀ result flow, exec env c system.flow = some (result, flow) →
        let events := flow.events.drop system.flow.events.length
        let later := { system with flow }
        (∀ key ∈ service.runningKeys, key ∉ later.wanted branching →
          ∃ event ∈ events, event.trigger.revertedKey branching = some key) ∧
        (later.wanted branching ⊆ system.wanted branching ∨
          ∃ event ∈ events, event.name = branching.source)
  | .evaluate env answer targets => ∀ event rest, system.pending = event :: rest →
      targets.Perm (event.targets definitions) ∧
      (event.flowType = .impulse → event.name ≠ branching.source) ∧
      (∀ key ∈ service.runningKeys, event.trigger.removedKey branching = some key →
        branching.key.isSome) ∧
      (name ∈ targets →
        branching.Filled (system.wanted branching) (event.trigger.spared branching service) ∨
        CanStart (system.env definitions env) answer event.trigger name metadata branching
          system.services)
  | .process _ action => KeepsBranches name metadata system action

/-- The invariant of a history. -/
structure Tracks (system : BranchSystem) : Prop where
  defines : system.services.Defines name metadata
  only : ∀ key ∈ (system.service name metadata).runningKeys, key ∈ system.wanted branching ∨
    ∃ event ∈ system.pending, event.trigger.revertedKey branching = some key
  filled : branching.Filled (system.wanted branching)
      (system.service name metadata).runningKeys ∨
    ∃ event ∈ system.pending, event.name = branching.source
  bounded : ∀ max, branching.maxInstances = some max →
    (system.service name metadata).runningKeys.card ≤ max

/-- A branching service that is defined once, with a start-on condition on its source, among
services whose names lead back to them. -/
structure BranchesOn : Prop where
  leads : LeadsBack definitions name metadata
  others : ∀ entry ∈ serviceInterests definitions,
    ∃ metadata, LeadsBack definitions entry.1 metadata
  branches : metadata.branching = some branching
  defined : (name, interests metadata.startOn metadata.stopOn) ∈ serviceInterests definitions
  starts : branching.source ∈ (metadata.startOn.getD []).filterMap FlowItem.name

end Follows

/-! ## The services that an event is about -/

section Targets

variable {entries : List (Ustr × List Ustr)} {source target : Ustr}

theorem mem_targetsOf_indexInterests :
    target ∈ targetsOf (indexInterests entries) source ↔
      ∃ entry ∈ entries, source ∈ entry.2 ∧ target = entry.1 := by
  have folded (index : AList fun _ : Ustr => List Ustr) :
      target ∈ targetsOf (entries.foldl (fun index entry =>
        entry.2.foldl (addTarget entry.1) index) index) source ↔
        target ∈ targetsOf index source ∨ ∃ entry ∈ entries, source ∈ entry.2 ∧
          target = entry.1 := by
    induction entries generalizing index with
    | nil => simp
    | cons entry rest ih =>
        rw [List.foldl_cons, ih, mem_foldl_addTarget, List.exists_mem_cons_iff, or_assoc]
  rw [indexInterests, folded]
  simp [targetsOf]

end Targets

section Targets

variable [SerdeJson] {definitions : MetadataRegistry ServiceMetadata} {name target : Ustr}
  {metadata : ServiceMetadata} {branching : BranchingConfig} {event : FlowEvent}

theorem leadsBack_of_mem
    (others : ∀ entry ∈ serviceInterests definitions,
      ∃ metadata, LeadsBack definitions entry.1 metadata)
    (member : target ∈ event.targets definitions) :
    ∃ metadata, LeadsBack definitions target metadata := by
  rw [FlowEvent.targets, triggerTargets, FlowEvent.trigger, List.mem_dedup,
    List.mem_append, mem_targetsOf_indexInterests, mem_targetsOf_indexInterests] at member
  rcases member with ⟨entry, listed, -, rfl⟩ | ⟨entry, listed, -, rfl⟩ <;>
    exact others entry listed

theorem BranchesOn.mem_targets (on : BranchesOn definitions name metadata branching)
    (about : event.name = branching.source) : name ∈ event.targets definitions := by
  rw [FlowEvent.targets, triggerTargets, FlowEvent.trigger, List.mem_dedup, List.mem_append,
    mem_targetsOf_indexInterests, about]
  refine .inl ⟨_, on.defined, ?_, rfl⟩
  rw [interests, List.filterMap_append]
  exact List.mem_append_left _ on.starts

theorem nodup_targets : (event.targets definitions).Nodup := by
  rw [FlowEvent.targets, triggerTargets, FlowEvent.trigger]
  exact List.nodup_dedup _

/-- What an event removes, it is about. -/
theorem name_of_removedKey {key : Ustr} (removed : event.trigger.removedKey branching = some key) :
    event.name = branching.source := by
  rw [EmitTrigger.removedKey] at removed
  split at removed
  · next change _ known =>
      cases known
      split at removed
      · next same => exact same
      · cases removed
  · cases removed

theorem removedKey_of_reverted {key : Ustr}
    (reverted : event.trigger.revertedKey branching = some key) :
    event.trigger.removedKey branching = some key := by
  rw [EmitTrigger.revertedKey] at reverted
  split at reverted
  · exact reverted
  · cases reverted

end Targets

/-! ## One step -/

section Steps

variable [SerdeJson] [TomlText] {definitions : MetadataRegistry ServiceMetadata} {name : Ustr}
  {metadata : ServiceMetadata} {branching : BranchingConfig} {system : BranchSystem}

omit [SerdeJson] [TomlText] in
theorem BranchingConfig.Filled.mono {wanted fewer running : Finset Ustr}
    (filled : branching.Filled wanted running) (subset : fewer ⊆ wanted) :
    branching.Filled fewer running :=
  filled.imp subset.trans id

theorem Tracks.change (tracks : Tracks name metadata branching system) {env : FlowEnv} {c : Call}
    (meets : (BranchAction.change env c).Meets definitions name metadata branching system) :
    Tracks name metadata branching (branchStep definitions system (.change env c)) := by
  obtain ⟨handled, meets⟩ := meets
  rw [branchStep]
  cases ran : exec env c system.flow with
  | none => exact tracks
  | some outcome =>
      obtain ⟨result, flow⟩ := outcome
      obtain ⟨announced, noted⟩ := meets result flow ran
      dsimp only
      rw [handled, List.nil_append]
      refine ⟨tracks.defines, fun key running => ?_, ?_, tracks.bounded⟩
      · by_cases still : key ∈ { system with flow }.wanted branching
        · exact .inl still
        · exact .inr (announced key running still)
      · rcases noted with fewer | about
        · refine .inl (tracks.filled.elim (·.mono fewer) ?_)
          rintro ⟨event, member, -⟩
          rw [handled] at member
          cases member
        · exact .inr about

/-- Evaluating the next event. -/
theorem evaluate_cases (on : BranchesOn definitions name metadata branching)
    (tracks : Tracks name metadata branching system) {env : ServiceEnv}
    {answer : Nat → Nat → SpawnAnswer} {targets : List Ustr} {event : FlowEvent}
    {rest : List FlowEvent} (next : system.pending = event :: rest)
    (meets : (BranchAction.evaluate env answer targets).Meets definitions name metadata branching
      system) :
    ∃ final, branchStep definitions system (.evaluate env answer targets) =
        { system with services := final, pending := rest } ∧
      (name ∈ event.targets definitions ∧ Evaluated (system.env definitions env) event.trigger name
          metadata branching system.services final ∨
        name ∉ event.targets definitions ∧ final.Defines name metadata ∧
          final.serviceOf name metadata = system.services.serviceOf name metadata) := by
  obtain ⟨order, facet, -, starts⟩ := meets event rest next
  have leads : ∀ target ∈ targets, ∃ metadata, LeadsBack definitions target metadata :=
    fun target member => leadsBack_of_mem on.others (order.mem_iff.mp member)
  have plain : ∀ change, event.trigger.event = some change → change.type = .impulse →
      change.name ≠ branching.source := by
    intro change known
    cases known
    exact facet
  by_cases listed : name ∈ targets
  · obtain ⟨final, ran, evaluated⟩ :
        ∃ final, evaluateTriggers (system.env definitions env) answer event.trigger targets
          system.services = some (.ok (), final) ∧ _ :=
      evaluateTriggers_own leads on.leads listed (order.nodup_iff.mpr nodup_targets)
        tracks.defines on.branches plain (starts listed)
    refine ⟨final, ?_, .inl ⟨order.mem_iff.mp listed, evaluated⟩⟩
    simp only [branchStep, next, ran]
  · obtain ⟨final, ran, same⟩ :
        ∃ final, evaluateTriggers (system.env definitions env) answer event.trigger targets
          system.services = some (.ok (), final) ∧ _ :=
      evaluateTriggers_other leads on.leads listed tracks.defines
    refine ⟨final, ?_, .inr ⟨fun member => listed (order.mem_iff.mpr member), same⟩⟩
    simp only [branchStep, next, ran]

theorem Tracks.evaluate (on : BranchesOn definitions name metadata branching)
    (tracks : Tracks name metadata branching system) {env : ServiceEnv}
    {answer : Nat → Nat → SpawnAnswer} {targets : List Ustr}
    (meets : (BranchAction.evaluate env answer targets).Meets definitions name metadata branching
      system) :
    Tracks name metadata branching
      (branchStep definitions system (.evaluate env answer targets)) := by
  cases next : system.pending with
  | nil =>
      rw [branchStep, next]
      exact tracks
  | cons event rest =>
      have later {key : Ustr} (missed : event.trigger.revertedKey branching ≠ some key)
          (known : key ∈ system.wanted branching ∨ ∃ event ∈ system.pending,
            event.trigger.revertedKey branching = some key) :
          key ∈ system.wanted branching ∨
            ∃ event ∈ rest, event.trigger.revertedKey branching = some key := by
        refine known.imp_right ?_
        rintro ⟨other, member, reverted⟩
        rw [next] at member
        rcases List.mem_cons.mp member with rfl | member
        · exact absurd reverted missed
        · exact ⟨other, member, reverted⟩
      obtain ⟨final, stepped, outcome⟩ := evaluate_cases on tracks next meets
      rw [stepped]
      rcases outcome with ⟨-, evaluated⟩ | ⟨absent, defines, same⟩
      · refine ⟨evaluated.defines, fun key running => ?_, .inl evaluated.filled, ?_⟩
        · rcases Finset.mem_union.mp (evaluated.only running) with spared | wanted
          · obtain ⟨before, missed⟩ := Finset.mem_filter.mp spared
            exact later missed (tracks.only key before)
          · exact .inl wanted
        · exact fun max limit => evaluated.bounded max limit (tracks.bounded max limit)
      · have apart : event.name ≠ branching.source := fun about => absent (on.mem_targets about)
        have service : BranchSystem.service { system with services := final, pending := rest }
            name metadata = system.service name metadata := same
        refine ⟨defines, fun key running => ?_, ?_, fun max limit => ?_⟩
        · rw [service] at running
          refine later (fun reverted => ?_) (tracks.only key running)
          exact apart (name_of_removedKey (removedKey_of_reverted reverted))
        · rw [service]
          refine tracks.filled.imp_right ?_
          rintro ⟨other, member, about⟩
          rw [next] at member
          rcases List.mem_cons.mp member with rfl | member
          · exact absurd about apart
          · exact ⟨other, member, about⟩
        · rw [service]
          exact tracks.bounded max limit

omit [SerdeJson] [TomlText] in
/-- The exit of an instance that was told to stop leaves the running keys. -/
theorem Service.runningKeys_afterExit {service : Service} {index : Nat} {inst : ChildInstance}
    (at_ : service.instances[index]? = some inst) (told : inst.manuallyStopped)
    (stopped : ¬ inst.state.isRunning) (code : Int) :
    (service.afterExit index inst code).runningKeys = service.runningKeys := by
  have dependents : exitAction service.metadata inst code = .stopDependents := if_pos told
  ext key
  rw [mem_runningKeys, mem_runningKeys, afterExit, dependents]
  constructor
  · rintro ⟨other, member, running, rfl⟩
    rcases List.mem_or_eq_of_mem_set (List.mem_filter.mp member).1 with old | rfl
    · exact ⟨other, old, running, rfl⟩
    · cases running
  · rintro ⟨other, member, running, rfl⟩
    obtain ⟨place, found⟩ := List.mem_iff_getElem?.mp member
    have apart : index ≠ place := by
      rintro rfl
      obtain rfl := Option.some.inj (at_.symm.trans found)
      exact stopped running
    have live : other.state.isLive := by
      cases state : other.state <;> simp [state, ServiceState.isRunning] at running <;> rfl
    refine ⟨other, List.mem_filter.mpr ⟨?_, live⟩, running, rfl⟩
    exact List.mem_iff_getElem?.mpr ⟨place, by rw [List.getElem?_set_ne apart, found]⟩

/-- Services in which the one of a name has the same running keys. -/
structure SameKeys (name : Ustr) (metadata : ServiceMetadata) (services final : Services) :
    Prop where
  defines : final.Defines name metadata
  keys : (final.serviceOf name metadata).runningKeys =
    (services.serviceOf name metadata).runningKeys

omit [SerdeJson] [TomlText] in
theorem SameKeys.of_lookup {services final : Services} (defines : services.Defines name metadata)
    (lookup : final.instances.lookup name = services.instances.lookup name) :
    SameKeys name metadata services final := by
  constructor
  · exact fun service found => defines service (lookup ▸ found)
  · rw [Services.serviceOf, lookup, Services.serviceOf]

/-- The exit of a process that is not of a running instance. -/
theorem sameKeys_exit {env : ServiceEnv} {action : ServiceAction} {taken : TakenExit}
    (defines : system.services.Defines name metadata)
    (took : takeExit system.services action = some taken)
    (full : ∀ key, taken.base.host.runtime.pidMap.lookup taken.pid = some key → '@' ∈ key.toList)
    (told : ∀ inst ∈ (system.service name metadata).instances, inst.pid = some taken.pid →
      inst.manuallyStopped ∧ ¬ inst.state.isRunning) :
    SameKeys name metadata system.services
      (match afterExit taken.pid taken.code taken.base with
        | (middle, some request) => (start env request middle).2
        | (middle, none) => middle) := by
  obtain ⟨same, -⟩ := takeExit_base took
  have kept : SameKeys name metadata system.services taken.base :=
    .of_lookup defines (by rw [same])
  have step := recordExit_cases taken.pid taken.code taken.base
  rw [afterExit]
  generalize recordExit taken.pid taken.code taken.base = result at step
  cases step with
  | unknown noted => exact kept
  | unregistered key noted absent => exact .of_lookup defines (by rw [← same]; rfl)
  | unheld key service noted found without => exact .of_lookup defines (by rw [← same]; rfl)
  | handled key service index inst noted found position at_ =>
      by_cases own : key = name
      · subst own
        have known : system.service key metadata = service := by
          rw [BranchSystem.service, Services.serviceOf, ← same, found, Option.getD_some]
        obtain ⟨other, at', member, pid⟩ := service.instance_of_findByPid position
        obtain rfl := Option.some.inj (at_.symm.trans at')
        obtain ⟨manual, stopped⟩ := told inst (known ▸ member) pid
        have dependents : exitAction service.metadata inst taken.code = .stopDependents :=
          if_pos manual
        rw [dependents]
        constructor
        · refine Services.defines_insert ?_
          exact defines service (same ▸ found)
        · refine (congrArg Service.runningKeys Services.serviceOf_insert).trans ?_
          rw [Service.runningKeys_afterExit at_ manual stopped, ← known]
          rfl
      · have lookup : (AList.insert key (service.afterExit index inst taken.code)
            taken.base.instances).lookup name = system.services.instances.lookup name := by
          rw [AList.lookup_insert_ne (Ne.symm own), same]
        cases exitAction service.metadata inst taken.code with
        | stopDependents => exact .of_lookup defines lookup
        | restart =>
            have apart : name ≠ env.metadata.instanceKey "*" (StartRequest.plain key).name := by
              rw [StartRequest.plain, MetadataRegistry.instanceKey_of_scoped (full key noted)]
              exact Ne.symm own
            exact .of_lookup defines ((lookup_start _ _ apart).trans lookup)

theorem Tracks.process (tracks : Tracks name metadata branching system) {env : ServiceEnv}
    {action : ServiceAction}
    (meets : (BranchAction.process env action).Meets definitions name metadata branching system) :
    Tracks name metadata branching (branchStep definitions system (.process env action)) := by
  have kept : SameKeys name metadata system.services
      (serviceStep system.services (system.env definitions env, action)) := by
    have exited (took : ∀ taken, takeExit system.services action = some taken →
          (∀ key, taken.base.host.runtime.pidMap.lookup taken.pid = some key →
            '@' ∈ key.toList) ∧
          ∀ inst ∈ (system.service name metadata).instances, inst.pid = some taken.pid →
            inst.manuallyStopped ∧ ¬ inst.state.isRunning)
        (idle : takeExit system.services action = none →
          beforeStart system.services (system.env definitions env, action) =
            (system.services, none))
        (handled : ∀ taken, takeExit system.services action = some taken →
          beforeStart system.services (system.env definitions env, action) =
            afterExit taken.pid taken.code taken.base) :
        SameKeys name metadata system.services
          (serviceStep system.services (system.env definitions env, action)) := by
      rw [serviceStep_eq]
      cases taken_eq : takeExit system.services action with
      | none =>
          rw [idle taken_eq]
          exact .of_lookup tracks.defines rfl
      | some taken =>
          rw [handled taken taken_eq]
          obtain ⟨full, told⟩ := took taken taken_eq
          exact sameKeys_exit tracks.defines taken_eq full told
    cases action with
    | start request | stop request | watchdogExpired fd => exact meets.elim
    | timeoutSweep =>
        exact .of_lookup tracks.defines (congrArg _ (timeoutSweep_instances _ _))
    | reap pid code =>
        refine .of_lookup tracks.defines ?_
        simp only [serviceStep, reapOnce]
        split <;> rfl
    | childExited | exit pid code =>
        refine exited meets (fun none_ => ?_) fun taken some_ => ?_
        · simp only [beforeStart, none_]
        · simp only [beforeStart, some_]
  have running : (branchStep definitions system (.process env action)).service name metadata =
      Services.serviceOf (serviceStep system.services (system.env definitions env, action)) name
        metadata := rfl
  refine ⟨kept.defines, fun key runs => ?_, ?_, fun max limit => ?_⟩
  · rw [running, kept.keys] at runs
    exact tracks.only key runs
  · rw [running, kept.keys]
    exact tracks.filled
  · rw [running, kept.keys]
    exact tracks.bounded max limit

theorem Tracks.step (on : BranchesOn definitions name metadata branching)
    (tracks : Tracks name metadata branching system) {action : BranchAction}
    (meets : action.Meets definitions name metadata branching system) :
    Tracks name metadata branching (branchStep definitions system action) := by
  cases action with
  | change env c => exact tracks.change meets
  | evaluate env answer targets => exact tracks.evaluate on meets
  | process env action => exact tracks.process meets

/-- What the evaluation of a removal tells to stop. -/
theorem Tracks.tellsRemoved (on : BranchesOn definitions name metadata branching)
    (tracks : Tracks name metadata branching system) {action : BranchAction}
    (meets : action.Meets definitions name metadata branching system) :
    TellsRemoved definitions name metadata branching system action := by
  cases action with
  | change env c | process env action => simp only [TellsRemoved]
  | evaluate env answer targets =>
      cases next : system.pending with
      | nil => simp only [TellsRemoved, next]
      | cons event rest =>
          simp only [TellsRemoved, next]
          intro key removed
          obtain ⟨final, stepped, outcome⟩ := evaluate_cases on tracks next meets
          obtain ⟨-, -, keyed, -⟩ := meets event rest next
          rw [stepped]
          rcases outcome with ⟨-, evaluated⟩ | ⟨absent, -⟩
          · constructor
            · intro inst member running same pid held
              have some_ : branching.key.isSome :=
                keyed key (Service.mem_runningKeys.mpr ⟨inst, member, running, same⟩) removed
              refine evaluated.told key ?_ inst member running same pid held
              rw [EmitTrigger.revertedKey, if_pos some_, removed]
            · have goesOn := evaluated.goesOn
              rw [EmitTrigger.revertedKey] at goesOn
              split at goesOn
              · rw [removed] at goesOn
                exact goesOn
              · exact goesOn.mono
          · exact absurd (on.mem_targets (name_of_removedKey removed)) absent

omit [TomlText] in
theorem Tracks.followed (tracks : Tracks name metadata branching system)
    (handled : system.pending = []) : Followed name metadata branching system := by
  have none_ {P : FlowEvent → Prop} : ¬ ∃ event ∈ system.pending, P event := by
    simp [handled]
  exact ⟨fun key running => (tracks.only key running).resolve_right none_,
    tracks.filled.resolve_right none_, tracks.bounded⟩

end Steps

/-! ## Histories that are followed -/

section Run

variable [SerdeJson] [TomlText] {definitions : MetadataRegistry ServiceMetadata} {name : Ustr}
  {metadata : ServiceMetadata} {branching : BranchingConfig} {system : BranchSystem}

end Run

/-! ## A shell for each session -/

section Shells

open scoped Rind.Compact

/-- A branch for each session. -/
def sessionBranching (key : Option String) : BranchingConfig where
  source := "rind:session"
  key := key
  maxInstances := none
  only := none
  except := none

/-- A service with a shell for each session. -/
def sessionShell (key : Option String) : ServiceMetadata :=
  { workerService with
    name := "shell"
    startOn := some [.simple "rind:session"]
    branching := some (sessionBranching key) }

/-- One session, whose shell runs. -/
def shellSystem (key : Option String) : BranchSystem where
  flow := FlowState.empty.put "rind:session" [⟨"rind:session", ttyPayload "1", .facet⟩]
  heap := (loneEnv (sessionShell key) 100).heap
  services :=
    { Services.boot with
      instances := AList.insert "app:shell@static" {
        metadata := sessionShell key
        instances := [.new ((branchKeyFromPayload (ttyPayload "1") key).getD "") none (some ⟨100⟩)]
        lastState := .active } ∅ }
  pending := []

def shellEnv : FlowEnv := .load (.ofGroup "static" "rind" [sessionFacet]) none

/-- The session ends, and its end is evaluated. -/
def endSession (key : Option String) : List BranchAction :=
  [.change shellEnv (.removeFacet "rind:session" none),
    .evaluate (loneEnv (sessionShell key) 100) (fun _ index => .created (200 + index) none none)
      ["app:shell@static"]]

/-- The flow state after a call, to some depth. -/
def FlowState.after (env : FlowEnv) (depth : Nat) (c : Call) (state : FlowState) : FlowState :=
  ((run env depth c state).getD (.ok (), state)).2

theorem exec_of_finished {env : FlowEnv} {depth : Nat} {c : Call} {state : FlowState}
    (finished : (run env depth c state).map Prod.fst = some (.ok ())) :
    exec env c state = some (.ok (), state.after env depth c) := by
  obtain ⟨⟨result, final⟩, ran, rfl⟩ := Option.map_eq_some_iff.mp finished
  rw [FlowState.after, ran]
  exact exec_of_run ran

def shellDefinitions (key : Option String) : MetadataRegistry ServiceMetadata :=
  .ofGroup "static" "app" [sessionShell key]

/-- A change that finishes at some depth. -/
theorem branchStep_change {definitions : MetadataRegistry ServiceMetadata} {env : FlowEnv}
    {depth : Nat} {c : Call} {system : BranchSystem}
    (finished : (run env depth c system.flow).map Prod.fst = some (.ok ())) :
    branchStep definitions system (.change env c) =
      { system with
        flow := system.flow.after env depth c
        pending := system.pending ++
          (system.flow.after env depth c).events.drop system.flow.events.length } := by
  rw [branchStep, exec_of_finished finished]

theorem branchesOn_shell : BranchesOn (shellDefinitions (some "tty")) "app:shell@static"
    (sessionShell (some "tty")) (sessionBranching (some "tty")) := by
  have parsed : (Text.rsplitOnce '@' "app:shell@static").getD ("app:shell@static", "static") =
      ("app:shell", "static") := by decide +kernel
  have leads : LeadsBack (shellDefinitions (some "tty")) "app:shell@static"
      (sessionShell (some "tty")) :=
    .of_parts (by decide) (by decide) parsed (by decide +kernel) (by decide +kernel)
      (by decide +kernel) (by decide +kernel)
  have listed : serviceInterests (shellDefinitions (some "tty")) =
      [("app:shell@static", ["rind:session"])] := by decide +kernel
  constructor
  · exact leads
  · rw [listed]
    exact List.forall_mem_singleton.mpr ⟨_, leads⟩
  · rfl
  · decide +kernel
  · decide +kernel

end Shells

end Rind
