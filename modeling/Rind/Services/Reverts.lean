import Rind.Services.Steps
import Rind.Services.Triggers

/-!
# Removed facets

What `evaluate_triggers` does when a branch of a facet has been removed.  A
condition counts as met where the removed branch meets it, also if nothing in the
graph does any more.  So the removal by itself starts and stops nothing exactly
if the graph still meets every condition that the removed branch meets.
-/

namespace Rind

open Prog

section Reverts

variable [SerdeJson]

/-- The trigger of a removed branch. -/
def revertTrigger (removed : FlowInstance) : EmitTrigger where
  name := some removed.name
  flowType := some .facet
  payload := some removed.payload
  action := .revert

/-- The event of a removed branch. -/
def revertedBranch (removed : FlowInstance) : FlowInstance := { removed with type := .facet }

omit [SerdeJson] in
@[simp] theorem revertTrigger_event (removed : FlowInstance) :
    (revertTrigger removed).event = some (revertedBranch removed) := rfl

/-- The start-on and stop-on conditions of a definition. -/
def conditionsOf (startOn stopOn : Option (List FlowItem)) : List FlowItem :=
  startOn.getD [] ++ stopOn.getD []

/-- A condition of a definition, or of a service that has been started. -/
inductive IsCondition (env : ServiceEnv) (sockets : MetadataRegistry SocketMetadata)
    (services : Services) (cond : FlowItem) : Prop where
  | service (item : Ustr × ServiceMetadata) (defined : item ∈ env.metadata.allItems)
      (listed : cond ∈ conditionsOf item.2.startOn item.2.stopOn)
  | started (key : Ustr) (service : Service)
      (found : services.instances.lookup key = some service)
      (listed : cond ∈ conditionsOf service.metadata.startOn service.metadata.stopOn)
  | socket (item : Ustr × SocketMetadata) (defined : item ∈ sockets.allItems)
      (listed : cond ∈ conditionsOf item.2.startOn item.2.stopOn)

/-- The removal of a branch starts, stops, opens and closes only what the graph
after the removal does: `state` is what the services' triggers lead to, and
`final` what those of the sockets do. -/
structure RevertHarmless (env : ServiceEnv) (sockets : MetadataRegistry SocketMetadata)
    (removed : FlowInstance) (services : Services) (state : TriggerState)
    (units final : Units) : Prop where
  counted : ∀ cond, IsCondition env sockets services cond →
    conditionMatches env.facets cond (some (revertedBranch removed)) none →
    conditionIsActive env.facets cond none
  started : ∀ entry ∈ state.toStart, ∃ metadata, env.metadata.find "*" entry.1 = some metadata ∧
    metadata.shouldStart env.facets none
  stopped : ∀ key before after, services.instances.lookup key = some before →
    state.services.instances.lookup key = some after → before.metadata.branching = none →
    before.metadata.stopOn.isSome → after.instances ≠ before.instances →
    before.metadata.shouldStop env.facets none
  opened : ∀ key, ∀ socket ∈ final.socketsAt key, socket ∉ units.socketsAt key →
    ∃ name metadata, sockets.find "*" name = some metadata ∧
      sockets.instanceKey "*" name = key ∧ metadata.shouldStart env.facets none
  closed : ∀ key, ∀ socket ∈ units.socketsAt key, socket ∉ final.socketsAt key →
    ∃ name metadata, sockets.find "*" name = some metadata ∧
      sockets.instanceKey "*" name = key ∧ metadata.shouldStop env.facets none

section Conditions

variable {facets : Facets} {removed : FlowInstance}

/-- The graph still meets a condition if the removed branch does. -/
def StillMet (facets : Facets) (removed : FlowInstance) (cond : FlowItem) : Prop :=
  checkCondition cond (revertedBranch removed) → conditionIsActive facets cond none

theorem conditionMatches_iff {cond : FlowItem} :
    conditionMatches facets cond (some (revertedBranch removed)) none ↔
      checkCondition cond (revertedBranch removed) ∨ conditionIsActive facets cond none := by
  simp [conditionMatches, payloadCompatible]

theorem StillMet.conditionMatches_eq {cond : FlowItem} (still : StillMet facets removed cond) :
    conditionMatches facets cond (some (revertedBranch removed)) none =
      conditionMatches facets cond none none := by
  have graph : conditionMatches facets cond none none = conditionIsActive facets cond none := by
    simp [conditionMatches]
  rw [graph, Bool.eq_iff_iff, conditionMatches_iff]
  exact ⟨fun met => met.elim still id, .inr⟩

theorem all_conditionMatches {conds : List FlowItem}
    (still : ∀ cond ∈ conds, StillMet facets removed cond) :
    conds.all (conditionMatches facets · (some (revertedBranch removed)) none) =
      conds.all (conditionMatches facets · none none) := by
  rw [Bool.eq_iff_iff, List.all_eq_true, List.all_eq_true]
  exact forall₂_congr fun cond member => by rw [(still cond member).conditionMatches_eq]

theorem any_conditionMatches {conds : List FlowItem}
    (still : ∀ cond ∈ conds, StillMet facets removed cond) :
    conds.any (conditionMatches facets · (some (revertedBranch removed)) none) =
      conds.any (conditionMatches facets · none none) := by
  rw [Bool.eq_iff_iff, List.any_eq_true, List.any_eq_true]
  refine exists_congr fun cond => and_congr_right fun member => ?_
  rw [(still cond member).conditionMatches_eq]

variable {metadata : ServiceMetadata} {socket : SocketMetadata}

theorem ServiceMetadata.shouldStart_eq
    (still : ∀ cond ∈ conditionsOf metadata.startOn metadata.stopOn,
      StillMet facets removed cond) :
    metadata.shouldStart facets (some (revertedBranch removed)) =
      metadata.shouldStart facets none := by
  rw [shouldStart, shouldStart]
  cases starts : metadata.startOn with
  | none => rfl
  | some conds =>
      exact all_conditionMatches fun cond member =>
        still cond (by simp [conditionsOf, starts, member])

theorem ServiceMetadata.shouldStop_eq
    (still : ∀ cond ∈ conditionsOf metadata.startOn metadata.stopOn,
      StillMet facets removed cond) :
    metadata.shouldStop facets (some (revertedBranch removed)) =
      metadata.shouldStop facets none := by
  rw [shouldStop, shouldStop]
  cases stops : metadata.stopOn with
  | none => rfl
  | some conds =>
      exact any_conditionMatches fun cond member =>
        still cond (by simp [conditionsOf, stops, member])

theorem SocketMetadata.shouldStart_eq
    (still : ∀ cond ∈ conditionsOf socket.startOn socket.stopOn, StillMet facets removed cond) :
    socket.shouldStart facets (some (revertedBranch removed)) =
      socket.shouldStart facets none := by
  rw [shouldStart, shouldStart]
  cases starts : socket.startOn with
  | none => rfl
  | some conds =>
      exact any_conditionMatches fun cond member =>
        still cond (by simp [conditionsOf, starts, member])

theorem SocketMetadata.shouldStop_eq
    (still : ∀ cond ∈ conditionsOf socket.startOn socket.stopOn, StillMet facets removed cond) :
    socket.shouldStop facets (some (revertedBranch removed)) =
      socket.shouldStop facets none := by
  rw [shouldStop, shouldStop]
  cases stops : socket.stopOn with
  | none => rfl
  | some conds =>
      exact any_conditionMatches fun cond member =>
        still cond (by simp [conditionsOf, stops, member])

end Conditions

/-! ## The services -/

section Services

variable {env : ServiceEnv} {sockets : MetadataRegistry SocketMetadata} {removed : FlowInstance}
  {services : Services}

/-- A stop leaves the definition of a service alone. -/
theorem stopTriggered_metadata (env : ServiceEnv) (trigger : EmitTrigger) (service : Service)
    (host : Host) : (stopTriggered env trigger service host).1.metadata = service.metadata := by
  have stopped (key user : Option Ustr) (service : Service) (host : Host) :
      (stopService env.now .graceful key user none service host).1.metadata = service.metadata := by
    obtain ⟨lastState, same⟩ := stopService_eq env.now .graceful key user none service host
    rw [same]
  have folded (keys : List Ustr) (service : Service) (host : Host) :
      (keys.foldl (fun stopped key =>
        stopService env.now .graceful (some key) none none stopped.1 stopped.2)
          (service, host)).1.metadata = service.metadata := by
    induction keys generalizing service host with
    | nil => rfl
    | cons key rest ih => rw [List.foldl_cons, ih, stopped]
  rw [stopTriggered]
  split
  · exact folded _ service host
  · split
    · exact stopped none none service host
    · rfl

/-- A service with stop-on conditions is stopped where one of them counts as met. -/
theorem stopTriggered_of_unmet {trigger : EmitTrigger} {service : Service} (host : Host)
    (plain : service.metadata.branching = none) (stops : service.metadata.stopOn.isSome)
    (unmet : ¬ service.metadata.shouldStop env.facets trigger.event) :
    stopTriggered env trigger service host = (service, host) := by
  rw [Bool.not_eq_true] at unmet
  have manual : service.metadata.autoStopOnRevert env.facets trigger = false := by
    rw [ServiceMetadata.autoStopOnRevert, Option.isNone_eq_false_iff.mpr stops]
    rfl
  simp only [stopTriggered, plain, unmet, manual, Bool.or_self, Bool.false_and]
  rfl

/-- What the triggers of a removed branch have done so far: the starts are of
services whose conditions the graph meets, and so are the stops. -/
structure Justified (env : ServiceEnv) (services : Services) (state : TriggerState) : Prop where
  started : ∀ entry ∈ state.toStart, ∃ metadata, env.metadata.find "*" entry.1 = some metadata ∧
    metadata.shouldStart env.facets none
  stopped : ∀ key before, services.instances.lookup key = some before →
    ∃ after, state.services.instances.lookup key = some after ∧
      after.metadata = before.metadata ∧
      (before.metadata.branching = none → before.metadata.stopOn.isSome →
        after.instances ≠ before.instances → before.metadata.shouldStop env.facets none)

theorem Justified.refl (env : ServiceEnv) (services : Services) :
    Justified env services ⟨services, []⟩ where
  started := by simp
  stopped _ before found := ⟨before, found, rfl, fun _ _ changed => absurd rfl changed⟩

/-- Stopping what the trigger stops keeps the stops justified. -/
theorem Justified.stop {state : TriggerState} (justified : Justified env services state)
    (still : ∀ cond, IsCondition env sockets services cond → StillMet env.facets removed cond)
    (key : Ustr) : Justified env services (state.stop env (revertTrigger removed) key) := by
  rw [TriggerState.stop]
  split
  · exact justified
  · next service found =>
      refine ⟨justified.started, fun other before held => ?_⟩
      obtain ⟨after, present, same, only⟩ := justified.stopped other before held
      by_cases own : other = key
      · subst own
        cases found.symm.trans present
        refine ⟨_, AList.lookup_insert _, ?_, fun plain stops changed => ?_⟩
        · rw [stopTriggered_metadata, same]
        · have conditions : ∀ cond ∈ conditionsOf before.metadata.startOn before.metadata.stopOn,
              StillMet env.facets removed cond :=
            fun cond listed => still cond (.started other before held listed)
          by_cases met : before.metadata.shouldStop env.facets (some (revertedBranch removed))
          · rwa [ServiceMetadata.shouldStop_eq conditions] at met
          · rw [← same] at met
            rw [stopTriggered_of_unmet _ (same ▸ plain) (same ▸ stops) met] at changed
            exact only plain stops changed
      · exact ⟨after, by rw [AList.lookup_insert_ne own, present], same, only⟩

/-- Noting the starts of a service whose conditions the graph meets. -/
theorem Justified.start {state final : TriggerState} {name : Ustr} {trigger : EmitTrigger}
    {metadata : ServiceMetadata} {result : Except CoreError Unit}
    (justified : Justified env services state) (found : env.metadata.find "*" name = some metadata)
    (met : metadata.shouldStart env.facets none)
    (ran : startTriggered env trigger name state = some (result, final)) :
    Justified env services final := by
  simp only [startTriggered] at ran
  split at ran
  · cases ran
    exact justified
  · next key service instantiated =>
      cases ran
      refine ⟨fun entry listed => ?_, fun other before held => ?_⟩
      · rcases List.mem_append.mp listed with earlier | new
        · exact justified.started entry earlier
        · obtain ⟨ctx, -, rfl⟩ := List.mem_map.mp new
          exact ⟨metadata, found, met⟩
      · obtain ⟨after, present, rest⟩ := justified.stopped other before held
        refine ⟨after, ?_, rest⟩
        by_cases own : other = key
        · subst own
          rw [Services.store, AList.lookup_insert]
          obtain ⟨-, kept | ⟨absent, -⟩⟩ :=
            MetadataRegistry.instantiateOne_cases instantiated
          · exact kept.symm.trans present
          · cases absent.symm.trans present
        · rw [Services.store, AList.lookup_insert_ne own, present]

/-- What the triggers of a removed branch do to the services. -/
theorem considerServices_justified {targets : List Ustr}
    (still : ∀ cond, IsCondition env sockets services cond → StillMet env.facets removed cond) :
    Within (Justified env services) (fun _ _ => True)
      (considerServices env (revertTrigger removed) targets) := by
  have rule : Rule (Within (ε := CoreError) (Justified env services) fun _ _ => True) :=
    Within.rule (fun _ => trivial) fun _ _ _ _ _ => trivial
  refine rule.each fun name _ => ?_
  rw [considerService]
  split
  · exact rule.pure
  · next metadata found =>
      split
      · exact rule.pure
      · refine rule.read fun state => rule.bind ?_ ?_
        · intro state justified result final ran
          cases ran
          exact ⟨justified.stop still (ensureScopedName name), trivial⟩
        · split
          · exact rule.pure
          · next starts =>
              have met : metadata.shouldStart env.facets none := by
                obtain ⟨group, defined⟩ := MetadataRegistry.mem_allItems_of_find found
                rw [← ServiceMetadata.shouldStart_eq fun cond listed =>
                  still cond (.service (group, metadata) defined listed)]
                simpa using starts
              refine rule.read fun state => ?_
              split
              · exact rule.pure
              · intro state justified result final ran
                exact ⟨justified.start found met ran, trivial⟩

end Services

/-! ## The sockets -/

section Sockets

variable {env : ServiceEnv} {definitions : MetadataRegistry SocketMetadata}
  {removed : FlowInstance} {services : Services} {units final : Units}

/-- The sockets of two states differ where the graph meets the conditions of a
definition. -/
structure SocketsJustified (definitions : MetadataRegistry SocketMetadata) (facets : Facets)
    (units final : Units) : Prop where
  opened : ∀ key, ∀ socket ∈ final.socketsAt key, socket ∉ units.socketsAt key →
    ∃ name metadata, definitions.find "*" name = some metadata ∧
      definitions.instanceKey "*" name = key ∧ metadata.shouldStart facets none
  closed : ∀ key, ∀ socket ∈ units.socketsAt key, socket ∉ final.socketsAt key →
    ∃ name metadata, definitions.find "*" name = some metadata ∧
      definitions.instanceKey "*" name = key ∧ metadata.shouldStop facets none

theorem SocketsJustified.refl (definitions : MetadataRegistry SocketMetadata) (facets : Facets)
    (units : Units) : SocketsJustified definitions facets units units :=
  ⟨fun _ _ member absent => absurd member absent, fun _ _ member absent => absurd member absent⟩

theorem SocketsJustified.trans {facets : Facets} {middle : Units}
    (first : SocketsJustified definitions facets units middle)
    (second : SocketsJustified definitions facets middle final) :
    SocketsJustified definitions facets units final := by
  constructor
  · intro key socket member absent
    by_cases between : socket ∈ middle.socketsAt key
    · exact first.opened key socket between absent
    · exact second.opened key socket member between
  · intro key socket member absent
    by_cases between : socket ∈ middle.socketsAt key
    · exact second.closed key socket between absent
    · exact first.closed key socket member between

omit [SerdeJson] in
/-- A new entry takes the place of an empty one. -/
theorem socketsAt_insert {key : Ustr} {sockets : SocketRuntime} (entry : List UnitInstance)
    (empty : (units.instances.lookup key).getD [] = []) :
    (∀ other ≠ key,
      Units.socketsAt ⟨units.instances.insert key entry, units.host, sockets⟩ other =
        units.socketsAt other) ∧
      ∀ other, ∀ socket ∈ units.socketsAt other,
        socket ∈ Units.socketsAt ⟨units.instances.insert key entry, units.host, sockets⟩ other := by
  have apart : ∀ other ≠ key,
      Units.socketsAt ⟨units.instances.insert key entry, units.host, sockets⟩ other =
        units.socketsAt other := by
    intro other apart
    simp [Units.socketsAt, Units.entry, AList.lookup_insert_ne apart]
  refine ⟨apart, fun other socket member => ?_⟩
  by_cases own : other = key
  · rw [own, Units.socketsAt, Units.entry, empty] at member
    cases member
  · rw [apart other own]
    exact member

omit [SerdeJson] in
/-- Opening a socket changes the sockets under its own key only, and takes none
away. -/
theorem startSocket_sockets {create : SocketMetadata → Except CoreError Nat} {name : Ustr}
    {result : Except CoreError Unit}
    (ran : startSocket definitions create name units = some (result, final)) :
    (∀ key ≠ definitions.instanceKey "*" name, final.socketsAt key = units.socketsAt key) ∧
      ∀ key, ∀ socket ∈ units.socketsAt key, socket ∈ final.socketsAt key := by
  simp only [startSocket, instantiateSocket] at ran
  split at ran
  · next error instances failed =>
      cases ran
      split at failed
      · cases failed
      · cases failed
        exact ⟨fun _ _ => rfl, fun _ _ member => member⟩
      · next empty =>
          split at failed
          · cases failed
            exact ⟨fun _ _ => rfl, fun _ _ member => member⟩
          · split at failed
            · cases failed
              exact socketsAt_insert [] empty
            · cases failed
  · next socket instances opened =>
      cases ran
      split at opened
      · cases opened
        exact ⟨fun _ _ => rfl, fun _ _ member => member⟩
      · cases opened
      · next empty =>
          split at opened
          · cases opened
          · split at opened
            · cases opened
            · cases opened
              exact socketsAt_insert _ empty

omit [SerdeJson] in
/-- Stopping a socket changes the sockets under its own key only, and adds none. -/
theorem stopSocket_sockets {name : Ustr} {result : Except CoreError Unit}
    (ran : stopSocket definitions name units = some (result, final)) :
    (∀ key ≠ definitions.instanceKey "*" name, final.socketsAt key = units.socketsAt key) ∧
      ∀ key, ∀ socket ∈ final.socketsAt key, socket ∈ units.socketsAt key := by
  rcases stopSocket_cases ran with ⟨-, -, released⟩ | ⟨-, -, released⟩
  · have kept : ∀ key, final.socketsAt key = units.socketsAt key :=
      fun key => released.others key List.not_mem_nil
    exact ⟨fun key _ => kept key, fun key socket member => kept key ▸ member⟩
  · have kept : ∀ key ≠ definitions.instanceKey "*" name,
        final.socketsAt key = units.socketsAt key :=
      fun key apart => released.others key (by simpa using apart)
    refine ⟨kept, fun key socket member => ?_⟩
    by_cases own : key = definitions.instanceKey "*" name
    · rw [own, released.gone _ (by simp)] at member
      cases member
    · exact kept key own ▸ member

/-- What the triggers of a removed branch do to the sockets. -/
theorem evaluateSocketTriggers_justified {targets : List Ustr}
    {create : SocketMetadata → Except CoreError Nat}
    (still : ∀ cond, IsCondition env definitions services cond →
      StillMet env.facets removed cond) :
    Within (fun _ => True) (SocketsJustified definitions env.facets)
      (evaluateSocketTriggers definitions create env.facets (revertTrigger removed) targets) := by
  have rule : Rule (Within (ε := CoreError) (fun _ => True)
      (SocketsJustified definitions env.facets)) :=
    Within.rule (.refl definitions env.facets) fun _ _ _ => .trans
  refine rule.each fun name _ => ?_
  rw [considerSocket]
  split
  · exact rule.pure
  · next metadata found =>
      obtain ⟨group, defined⟩ := MetadataRegistry.mem_allItems_of_find found
      have conditions : ∀ cond ∈ conditionsOf metadata.startOn metadata.stopOn,
          StillMet env.facets removed cond :=
        fun cond listed => still cond (.socket (group, metadata) defined listed)
      refine rule.read fun units => ?_
      rw [revertTrigger_event, SocketMetadata.shouldStart_eq conditions,
        SocketMetadata.shouldStop_eq conditions]
      split
      · next starts =>
          refine rule.attempt fun units _ result final ran => ⟨trivial, ?_⟩
          obtain ⟨others, kept⟩ := startSocket_sockets ran
          refine ⟨fun key socket member absent => ?_, fun key socket member absent =>
            absurd (kept key socket member) absent⟩
          by_cases own : key = definitions.instanceKey "*" name
          · exact ⟨name, metadata, found, own.symm, (Bool.and_eq_true_iff.mp starts).1⟩
          · rw [others key own] at member
            exact absurd member absent
      · split
        · next stops =>
            refine rule.attempt fun units _ result final ran => ⟨trivial, ?_⟩
            obtain ⟨others, kept⟩ := stopSocket_sockets ran
            refine ⟨fun key socket member absent => absurd (kept key socket member) absent,
              fun key socket member absent => ?_⟩
            by_cases own : key = definitions.instanceKey "*" name
            · exact ⟨name, metadata, found, own.symm, (Bool.and_eq_true_iff.mp stops).1⟩
            · rw [others key own] at absent
              exact absurd member absent
        · exact rule.pure

end Sockets

/-- The removal of a branch starts and stops only what the graph does exactly if
the graph still meets every condition that the removed branch meets. -/
theorem revertHarmless_iff {env : ServiceEnv} {definitions : MetadataRegistry SocketMetadata}
    {create : SocketMetadata → Except CoreError Nat} {removed : FlowInstance}
    {services : Services} {state : TriggerState} {units final : Units}
    {targets socketTargets : List Ustr} {result socketResult : Except CoreError Unit}
    (ran : considerServices env (revertTrigger removed) targets ⟨services, []⟩ =
      some (result, state))
    (ranSockets : evaluateSocketTriggers definitions create env.facets (revertTrigger removed)
      socketTargets units = some (socketResult, final)) :
    RevertHarmless env definitions removed services state units final ↔
      ∀ cond, IsCondition env definitions services cond →
        checkCondition cond (revertedBranch removed) → conditionIsActive env.facets cond none := by
  constructor
  · intro harmless cond known met
    exact harmless.counted cond known (conditionMatches_iff.mpr (.inl met))
  · intro still
    have still : ∀ cond, IsCondition env definitions services cond →
        StillMet env.facets removed cond := still
    obtain ⟨justified, -⟩ := considerServices_justified still _ (.refl env services) _ _ ran
    obtain ⟨-, sockets⟩ := evaluateSocketTriggers_justified still _ trivial _ _ ranSockets
    refine ⟨fun cond known met => ?_, justified.started, ?_, sockets.opened, sockets.closed⟩
    · exact (conditionMatches_iff.mp met).elim (still cond known) id
    · intro key before after held left plain stops changed
      obtain ⟨after', present, -, only⟩ := justified.stopped key before held
      cases left.symm.trans present
      exact only plain stops changed

end Reverts

/-! ## A service that waits for the network -/

section Network

open scoped Compact

def browserService : ServiceMetadata :=
  { workerService with name := "browser", startOn := some [.simple "rind:net"] }

/-- The system after the removal of a branch of `rind:net`, with those that are left. -/
def netEnv (left : List FlowInstance) : ServiceEnv :=
  { loneEnv browserService 100 with facets := AList.insert "rind:net" left ∅ }

def link (name : String) : FlowInstance := ⟨"rind:net", .string name, .facet⟩

def noUnits : Units := ⟨∅, Services.boot.host, ⟨∅, ∅, ∅, ∅, []⟩⟩

def noSockets : MetadataRegistry SocketMetadata := ⟨∅, none⟩

/-- The browser is to be started, whether or not another branch is left. -/
theorem considerServices_net (left : List FlowInstance)
    (ran : (considerServices (netEnv left) (revertTrigger (link "eth0")) ["app:browser@static"]
      ⟨.boot, []⟩).map (fun outcome => (outcome.1, outcome.2.toStart)) =
        some (.ok (), [("app:browser@static", none)])) :
    ∃ state, considerServices (netEnv left) (revertTrigger (link "eth0"))
        ["app:browser@static"] ⟨.boot, []⟩ = some (.ok (), state) ∧
      state.toStart = [("app:browser@static", none)] := by
  obtain ⟨⟨result, state⟩, ran, checked⟩ := Option.map_eq_some_iff.mp ran
  obtain ⟨rfl, starts⟩ := Prod.mk.inj checked
  exact ⟨state, ran, starts⟩

theorem evaluateSocketTriggers_none (facets : Facets) (trigger : EmitTrigger) :
    evaluateSocketTriggers noSockets (fun _ => .ok 3) facets trigger [] noUnits =
      some (.ok (), noUnits) := rfl

/-- The removal of the last branch starts the service that waits for one. -/
theorem not_revertHarmless_last :
    ¬ ∀ (env : ServiceEnv) (definitions : MetadataRegistry SocketMetadata)
      (create : SocketMetadata → Except CoreError Nat) (removed : FlowInstance)
      (services : Services) (state : TriggerState) (units final : Units)
      (targets socketTargets : List Ustr) (result socketResult : Except CoreError Unit),
      considerServices env (revertTrigger removed) targets ⟨services, []⟩ =
          some (result, state) →
        evaluateSocketTriggers definitions create env.facets (revertTrigger removed)
          socketTargets units = some (socketResult, final) →
        RevertHarmless env definitions removed services state units final := by
  intro harmless
  obtain ⟨state, ran, starts⟩ := considerServices_net [] (by decide +kernel)
  have last := harmless _ _ _ _ _ _ _ _ _ _ _ _ ran (evaluateSocketTriggers_none _ _)
  obtain ⟨metadata, found, met⟩ := last.started ("app:browser@static", none) (by simp [starts])
  have unmet : ((netEnv []).metadata.find "*" "app:browser@static").all
      (!·.shouldStart (netEnv []).facets none) := by decide +kernel
  rw [found] at unmet
  simp [met] at unmet

/-- With another branch left the service is started rightly. -/
theorem revertHarmless_iff_other : ∃ state : TriggerState,
    state.toStart = [("app:browser@static", none)] ∧
      RevertHarmless (netEnv [link "wlan0"]) noSockets (link "eth0") .boot state noUnits
        noUnits := by
  obtain ⟨state, ran, starts⟩ := considerServices_net [link "wlan0"] (by decide +kernel)
  have settled : RevertHarmless (netEnv [link "wlan0"]) noSockets (link "eth0") .boot state
      noUnits noUnits ↔ _ := revertHarmless_iff ran (evaluateSocketTriggers_none _ _)
  refine ⟨state, starts, settled.mpr fun cond known met => ?_⟩
  have conditions : ∀ item ∈ (netEnv [link "wlan0"]).metadata.allItems,
      ∀ cond ∈ conditionsOf item.2.startOn item.2.stopOn,
        conditionIsActive (netEnv [link "wlan0"]).facets cond none := by decide +kernel
  cases known with
  | service item defined listed => exact conditions item defined cond listed
  | started key service found listed => cases found
  | socket item defined listed => cases defined

end Network

end Rind
