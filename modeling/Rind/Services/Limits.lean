import Rind.Services.Tracking

/-!
# The limit of a branching service

A branching service with a maximum is to have at most that many instances running after an
event has been evaluated, and a running instance for each admitted branch where it has fewer.
The evaluation compares the maximum with the number of instances that are there, in whatever
state, and with the number of starts it has decided on, but not with their sum.  A start marks
all instances as active, also those that have exited.
-/

namespace Rind

open Prog Runs

/-! ## Counting instances -/

namespace Service

/-- How many instances are running. -/
def runningCount (service : Service) : Nat := service.instances.countP (·.state.isRunning)

/-- The branch keys of all instances, in whatever state. -/
def keys (service : Service) : Finset Ustr := (service.instances.map ChildInstance.key).toFinset

/-- The keys that starts for some branches in turn add instances for, if none is running for the
first of them: from then on all instances are marked as active. -/
def addedKeys (service : Service) : List Ustr → Finset Ustr
  | [] => ∅
  | key :: rest => insert key (rest.toFinset \ service.keys)

variable {service : Service}

theorem runningCount_le (service : Service) : service.runningCount ≤ service.instances.length :=
  List.countP_le_length

theorem mem_keys {key : Ustr} :
    key ∈ service.keys ↔ ∃ inst ∈ service.instances, inst.key = key := by
  rw [keys, List.mem_toFinset, List.mem_map]

theorem AllRunning.runningCount (running : service.AllRunning) :
    service.runningCount = service.instances.length :=
  List.countP_eq_length.mpr running

theorem AllRunning.runningKeys (running : service.AllRunning) :
    service.runningKeys = service.keys :=
  runningKeys_of_allRunning running

end Service

/-! ## Starts in turn -/

/-- The start of a branch: nothing where an instance is running for it, and otherwise one more
instance, with all of them marked as active. -/
inductive BranchAdded (key : Ustr) (service : Service) : Service → Prop where
  | held (running : key ∈ service.runningKeys) : BranchAdded key service service
  | added (idle : key ∉ service.runningKeys) (inst : ChildInstance) (same : inst.key = key)
      (after : Service) (metadata : after.metadata = service.metadata)
      (instances : after.instances = (service.instances ++ [inst]).map (·.mark .active)) :
      BranchAdded key service after

/-- The starts of some branches in turn. -/
inductive BranchesAdded : List Ustr → Service → Service → Prop where
  | nil (service : Service) : BranchesAdded [] service service
  | cons {key : Ustr} {rest : List Ustr} {service middle final : Service}
      (first : BranchAdded key service middle) (others : BranchesAdded rest middle final) :
      BranchesAdded (key :: rest) service final

section Added

variable {service after : Service} {key : Ustr}

theorem BranchesAdded.of_nil (added : BranchesAdded [] service after) : after = service := by
  cases added
  rfl

/-- What one more instance makes of a service. -/
theorem added_spec {inst : ChildInstance} (same : inst.key = key)
    (instances : after.instances = (service.instances ++ [inst]).map (·.mark .active)) :
    after.AllRunning ∧ after.instances.length = service.instances.length + 1 ∧
      after.keys = insert key service.keys := by
  refine ⟨?_, by simp [instances], ?_⟩
  · intro other member
    rw [instances] at member
    obtain ⟨before, -, rfl⟩ := List.mem_map.mp member
    rfl
  · ext other
    rw [Finset.mem_insert, Service.mem_keys, Service.mem_keys, instances]
    simp [ChildInstance.mark, or_and_right, exists_or, same, or_comm, eq_comm]

/-- Starts from instances that are all running. -/
theorem BranchesAdded.of_allRunning {keys : List Ustr} (added : BranchesAdded keys service after)
    (running : service.AllRunning) :
    after.AllRunning ∧
      after.instances.length = service.instances.length + (keys.toFinset \ service.keys).card ∧
      after.keys = service.keys ∪ keys.toFinset := by
  induction added with
  | nil service => exact ⟨running, by simp, by simp⟩
  | @cons key rest service middle final first others ih =>
      rw [List.toFinset_cons]
      cases first with
      | held inside =>
          obtain ⟨all, length, keys⟩ := ih running
          rw [running.runningKeys] at inside
          refine ⟨all, ?_, ?_⟩
          · rw [length, Finset.insert_sdiff_of_mem _ inside]
          · rw [keys, Finset.union_insert, Finset.insert_eq_of_mem (Finset.mem_union_left _ inside)]
      | added idle inst same _ metadata instances =>
          obtain ⟨running', length', keys'⟩ := added_spec same instances
          obtain ⟨all, length, keys⟩ := ih running'
          rw [running.runningKeys] at idle
          refine ⟨all, ?_, ?_⟩
          · have split : insert key rest.toFinset \ service.keys =
                insert key (rest.toFinset \ insert key service.keys) := by
              rw [Finset.insert_sdiff_of_notMem _ idle]
              ext other
              simp only [Finset.mem_insert, Finset.mem_sdiff]
              tauto
            rw [length, length', keys', split, Finset.card_insert_of_notMem (by simp)]
            omega
          · rw [keys, keys', Finset.insert_union, Finset.union_insert]

/-- Starts of branches of which none is running. -/
theorem BranchesAdded.of_idle {rest : List Ustr}
    (added : BranchesAdded (key :: rest) service after) (idle : key ∉ service.runningKeys) :
    after.runningCount = service.instances.length + (service.addedKeys (key :: rest)).card ∧
      after.runningKeys = service.keys ∪ (key :: rest).toFinset := by
  cases added with
  | cons first others =>
      cases first with
      | held running => exact absurd running idle
      | added _ inst same middle metadata instances =>
          obtain ⟨running, length, keys⟩ := added_spec same instances
          obtain ⟨all, length', keys'⟩ := others.of_allRunning running
          constructor
          · have split : service.addedKeys (key :: rest) =
                insert key (rest.toFinset \ insert key service.keys) := by
              rw [Service.addedKeys]
              ext other
              simp only [Finset.mem_insert, Finset.mem_sdiff]
              tauto
            rw [all.runningCount, length', length, keys, split,
              Finset.card_insert_of_notMem (by simp)]
            omega
          · rw [all.runningKeys, keys', keys, List.toFinset_cons, Finset.insert_union,
              Finset.union_insert]

end Added

section Starting

variable [SerdeJson] [TomlText] {env : ServiceEnv} {name : Ustr} {metadata : ServiceMetadata}
  {services : Services} {answer : Nat → Nat → SpawnAnswer} {pid : Nat → Nat → Nat} {number : Nat}

/-- What it takes to start branches of a service with one command, whatever instances there
are. -/
structure CarriesOut (env : ServiceEnv) (answer : Nat → Nat → SpawnAnswer)
    (pid : Nat → Nat → Nat) (number : Nat) (name : Ustr) (metadata : ServiceMetadata)
    (services : Services) : Prop where
  plain : metadata.registersTransport = false
  active : isInactive env.facets name = false
  plenty : Plenty answer pid
  free : FreeFrom pid number services.host

/-- A start of a branch that can be carried out. -/
theorem start_branchAdded {ctx : ServiceBranchContext} {key : Ustr}
    (led : LeadsBack env.metadata name metadata) (defines : services.Defines name metadata)
    (single : metadata.run.asMany.length = 1)
    (carries : CarriesOut env answer pid number name metadata services)
    (launches : BranchLaunches env name metadata ctx) (own : ctx.key = some key) :
    ∃ service host, start { env with answer := answer number } (branchStart (name, some ctx))
        services = (.ok (), { instances := services.instances.insert name service, host }) ∧
      service.metadata = metadata ∧
      BranchAdded key (services.serviceOf name metadata) service := by
  let env' := { env with answer := answer number }
  have succeeds : startSucceeds env' (branchStart (name, some ctx)) services := by
    refine startSucceeds_of_launches led defines ?_ carries.active launches carries.plenty
      carries.free
    exact List.ne_nil_of_length_pos (by omega)
  have found : env'.metadata.instantiateOne Service.new "*" (branchStart (name, some ctx)).name
      services.instances = some (name, services.serviceOf name metadata) :=
    led.instantiateOne_full services
  have same : (services.serviceOf name metadata).metadata = metadata := defines.serviceOf
  have ran : start env' (branchStart (name, some ctx)) services = _ :=
    start_branch led defines carries.plain
  generalize services.serviceOf name metadata = service at found ran same
  rw [startSucceeds, found] at succeeds
  generalize started : startRequested env' (branchStart (name, some ctx)) service services.host =
    result at ran
  obtain ⟨after, host⟩ := result
  have held_iff : (branchStart (name, some ctx)).held service = service.runsBranch key := by
    change ctx.key.any service.runsBranch = _
    rw [own, Option.any_some]
  refine ⟨after, host, ran, ?_⟩
  cases startRequested_cases started with
  | held held => exact ⟨same, .held (Service.runsBranch_iff.mp (held_iff ▸ held))⟩
  | failed free error host lastState spawned => simp [free, spawned] at succeeds
  | started free insts host spawned =>
      have idle : key ∉ service.runningKeys := by
        rw [← Service.runsBranch_iff, ← held_iff, free]
        exact Bool.false_ne_true
      have length : insts.length = 1 := by
        have full : ensureScopedName (branchStart (name, some ctx)).name = name :=
          ensureScopedName_of_full led.full
        have each := spawned
        rw [spawnAll, full, if_neg (by simp [env', carries.active])] at each
        rw [length_spawnEach each, same, single]
      obtain ⟨inst, rfl⟩ := List.length_eq_one_iff.mp length
      refine ⟨same, .added idle inst ?_ _ rfl rfl⟩
      rw [(spawnAll_cases spawned).key_eq inst List.mem_cons_self]
      exact congrArg (·.getD "") own

/-- The starts that an event leads to, seen from one of the services. -/
theorem starts_added {starts : List (Ustr × Option ServiceBranchContext)}
    (leads : ∀ entry ∈ starts, ∃ metadata, LeadsBack env.metadata entry.1 metadata)
    (led : LeadsBack env.metadata name metadata) (defines : services.Defines name metadata)
    (single : metadata.run.asMany.length = 1)
    (keyed : ∀ entry ∈ starts, entry.1 = name → ∃ ctx key, entry.2 = some ctx ∧
      ctx.key = some key ∧ BranchLaunches env name metadata ctx)
    (carries : startKeys name starts ≠ [] →
      CarriesOut env answer pid number name metadata services) :
    ∃ final, Prog.each (starts.zipIdx number) (startNoted env answer) services =
        some (.ok (), final) ∧ final.Defines name metadata ∧
      BranchesAdded (startKeys name starts) (services.serviceOf name metadata)
        (final.serviceOf name metadata) := by
  refine starts_induction (CarriesOut env answer pid · name metadata ·)
    (fun starts services final => final.Defines name metadata ∧
      BranchesAdded (startKeys name starts) (services.serviceOf name metadata)
        (final.serviceOf name metadata)) leads defines keyed carries ?_ ?_ ?_ ?_
  · intro number request services after ran current now
    exact { now with free := freeFrom_start now.plenty now.free ran }
  · exact fun services defines => ⟨defines, .nil _⟩
  · intro number services ctx key defines now launches own_key
    obtain ⟨service, host, ran, metadata_eq, added⟩ :=
      start_branchAdded led defines single now launches own_key
    refine ⟨_, ran, Services.defines_insert metadata_eq,
      { now with free := freeFrom_start now.plenty now.free ran }, ?_⟩
    rintro rest final ⟨defines', others⟩
    rw [Services.serviceOf_insert] at others
    rw [startKeys_own own_key]
    exact ⟨defines', .cons added others⟩
  · rintro entry services after apart current - rest final ⟨defines', others⟩
    rw [startKeys_other apart, ← current]
    exact ⟨defines', others⟩

end Starting

/-! ## What an evaluation stops and starts -/

section Evaluating

variable [SerdeJson]

/-- The keys of the branches that an evaluation considers and the lists admit. -/
def ServiceEnv.admittedKeys (env : ServiceEnv) (branching : BranchingConfig)
    (event : Option FlowInstance) : List Ustr :=
  ((branchesToConsider env.facets branching event).filterMap fun branch =>
    branchKeyFromPayload branch.payload branching.key).filter
      (branching.admits env.facets env.heap)

/-- The key whose instances an evaluation stops, where it is about the service. -/
def EmitTrigger.stoppedKey (trigger : EmitTrigger) (branching : BranchingConfig)
    (targets : List Ustr) (name : Ustr) : Option Ustr :=
  if name ∈ targets then trigger.revertedKey branching else none

/-- The instances that run on when those of a key are stopped. -/
def Service.countBut (service : Service) (stopped : Option Ustr) : Nat :=
  service.instances.countP fun inst => inst.state.isRunning && stopped != some inst.key

/-- The admitted keys that no instance runs for when those of a key are stopped. -/
def Service.waitsFor (service : Service) (admitted : List Ustr) (stopped : Option Ustr) :
    List Ustr :=
  admitted.filter (· ∉ service.runningKeys.filter fun key => stopped ≠ some key)

/-- At most `max` instances are running, and if there are fewer, one for each admitted branch. -/
structure Service.KeepsLimit (service : Service) (max : Nat) (admitted : List Ustr) : Prop where
  bounded : service.runningCount ≤ max
  complete : service.runningCount < max → ∀ key ∈ admitted, key ∈ service.runningKeys

/-- The state in which an evaluation keeps the limit: nothing waits, or `max` instances run, or
all instances there are and those that are added make up `max` at most, and fewer only where
nothing is left out. -/
inductive Service.Fits (service : Service) (max : Nat) (admitted : List Ustr)
    (stopped : Option Ustr) : Prop where
  | settled (nothing : service.waitsFor admitted stopped = [])
  | full (all : service.countBut stopped = max)
  | room (fewer : service.instances.length < max)
      (within_ : service.instances.length +
        (service.addedKeys ((service.waitsFor admitted stopped).take max)).card ≤ max)
      (covered : service.instances.length +
          (service.addedKeys ((service.waitsFor admitted stopped).take max)).card < max →
        ∀ key ∈ service.waitsFor admitted stopped,
          key ∈ (service.waitsFor admitted stopped).take max ∨ key ∈ service.keys)

section Stops

variable {branching : BranchingConfig} {trigger : EmitTrigger} {service after : Service}
  {host final : Host}

omit [SerdeJson] in
theorem Service.countBut_le (service : Service) (stopped : Option Ustr) :
    service.countBut stopped ≤ service.runningCount := by
  apply List.countP_mono_left
  intro inst _ both
  exact (Bool.and_eq_true_iff.mp both).1

omit [SerdeJson] in
@[simp] theorem Service.countBut_none (service : Service) :
    service.countBut none = service.runningCount := by
  rw [countBut, runningCount]
  congr 1
  funext inst
  exact Bool.and_true _

/-- What an evaluation stops leaves the instances there, and no other running. -/
theorem StopOutcome.counts
    (outcome : StopOutcome branching trigger service host (after, final)) :
    after.instances.length = service.instances.length ∧ after.keys = service.keys ∧
      after.runningCount = service.countBut (trigger.revertedKey branching) := by
  cases outcome with
  | kept idle =>
      refine ⟨rfl, rfl, ?_⟩
      apply List.countP_congr
      intro inst member
      rw [Bool.and_eq_true, bne_iff_ne, iff_self_and]
      intro running reverted
      exact idle inst.key reverted (Service.mem_runningKeys.mpr ⟨inst, member, running, rfl⟩)
  | stopped key reverted running after final stops =>
      have same (inst : ChildInstance) : (inst.stopped (some key) none).key = inst.key := by
        rw [ChildInstance.stopped]
        split
        · split <;> rfl
        · rfl
      refine ⟨?_, ?_, ?_⟩
      · rw [stops.instances, List.length_map]
      · rw [Service.keys, stops.instances, List.map_map]
        exact congrArg List.toFinset (List.map_congr_left fun inst _ => same inst)
      · rw [Service.runningCount, stops.instances, List.countP_map, Service.countBut, reverted]
        apply List.countP_congr
        intro inst _
        rw [Function.comp_apply, Bool.and_eq_true, bne_iff_ne, ne_eq, Option.some_inj]
        by_cases about : inst.concerns (some key) none
        · have own := ChildInstance.concerns_key.mp about
          have idle : ¬ (inst.stopped (some key) none).state.isRunning := by
            rw [ChildInstance.stopped, if_pos about]
            split <;> exact Bool.false_ne_true
          simp [own, idle]
        · have other : ¬ key = inst.key :=
            fun same => about (ChildInstance.concerns_key.mpr same.symm)
          rw [ChildInstance.stopped, if_neg about]
          simp [other]

end Stops

section Decided

variable {env : ServiceEnv} {trigger : EmitTrigger} {name : Ustr} {metadata : ServiceMetadata}
  {branching : BranchingConfig} {services : Services} {max : Nat}

/-- The starts that an evaluation decides on for a service with a maximum. -/
theorem startKeys_ownStarts_max (limit : branching.maxInstances = some max) :
    startKeys name (ownStarts env trigger name metadata branching services) =
      if metadata.shouldStart env.facets trigger.event ∧ aftersRunning env metadata services ∧
        (services.serviceOf name metadata).instances.length < max then
        ((env.admittedKeys branching trigger.event).filter
          (· ∉ (services.serviceOf name metadata).runningKeys)).take max
      else [] := by
  rw [ownStarts]
  by_cases met : metadata.shouldStart env.facets trigger.event ∧ aftersRunning env metadata services
  · rw [met.1, met.2, Bool.and_self, if_pos rfl, startKeys_map, branchStarts_eq, limit]
    dsimp only
    by_cases room : (services.serviceOf name metadata).instances.length < max
    · rw [if_neg (not_le.mpr room), if_pos ⟨rfl, rfl, room⟩, Nat.sub_zero, List.map_take,
        keys_branchCandidates]
      rfl
    · rw [if_pos (not_lt.mp room), if_neg fun all => room all.2.2]
      rfl
  · rw [if_neg fun both => met (Bool.and_eq_true_iff.mp both),
      if_neg fun all => met ⟨all.1, all.2.1⟩]
    rfl

end Decided

/-! ## One evaluation -/

section Once

variable [TomlText] {env : ServiceEnv} {answer : Nat → Nat → SpawnAnswer} {trigger : EmitTrigger}
  {name : Ustr} {metadata : ServiceMetadata} {branching : BranchingConfig} {services : Services}
  {max : Nat}

/-- What it takes to decide on the starts of the branches that wait, and to carry them out. -/
structure StartsWaiting (env : ServiceEnv) (answer : Nat → Nat → SpawnAnswer)
    (trigger : EmitTrigger) (targets : List Ustr) (name : Ustr) (metadata : ServiceMetadata)
    (branching : BranchingConfig) (services : Services) : Prop where
  listed : name ∈ targets
  met : metadata.shouldStart env.facets trigger.event
  afters : AftersStay env trigger metadata services
  able : ∃ pid, CarriesOut env answer pid 0 name metadata services
  launches : ∀ branch ∈ branchesToConsider env.facets branching trigger.event, ∀ key,
    branchKeyFromPayload branch.payload branching.key = some key →
      BranchLaunches env name metadata ⟨some key, some branch.payload, none⟩

omit [SerdeJson] [TomlText] in
/-- A service that nothing is started of keeps the limit if nothing waits, or if as many
instances run as the limit lets in. -/
theorem keepsLimit_of_idle {service after : Service} {admitted : List Ustr}
    {stopped : Option Ustr} (count : after.runningCount = service.countBut stopped)
    (keys : after.runningKeys = service.runningKeys.filter fun key => stopped ≠ some key)
    (bounded : service.runningCount ≤ max)
    (idle : service.waitsFor admitted stopped ≠ [] → max ≤ service.instances.length) :
    after.KeepsLimit max admitted ↔ service.Fits max admitted stopped := by
  have fewer : service.countBut stopped ≤ max := (service.countBut_le stopped).trans bounded
  have waits : service.waitsFor admitted stopped = [] ↔ ∀ key ∈ admitted, key ∈ after.runningKeys := by
    rw [Service.waitsFor, keys, List.filter_eq_nil_iff]
    simp
  constructor
  · intro keeps
    by_cases nothing : service.waitsFor admitted stopped = []
    · exact .settled nothing
    · refine .full (le_antisymm fewer ?_)
      rw [← count]
      exact Nat.le_of_not_lt fun less => nothing (waits.mpr (keeps.complete less))
  · intro fits
    constructor
    · rw [count]
      exact fewer
    · intro less
      rw [count] at less
      cases fits with
      | settled nothing => exact waits.mp nothing
      | full all => omega
      | room room within_ covered =>
          by_cases nothing : service.waitsFor admitted stopped = []
          · exact waits.mp nothing
          · exact absurd (idle nothing) (not_le.mpr room)

omit [SerdeJson] [TomlText] in
/-- A service of which branches are started keeps the limit if there is room for them. -/
theorem keepsLimit_of_added {service stopped_ after : Service} {admitted : List Ustr}
    {stopped : Option Ustr} (length : stopped_.instances.length = service.instances.length)
    (keys : stopped_.keys = service.keys)
    (running : stopped_.runningKeys = service.runningKeys.filter fun key => stopped ≠ some key)
    (waiting : service.waitsFor admitted stopped ≠ [])
    (fewer : service.instances.length < max)
    (added : BranchesAdded ((service.waitsFor admitted stopped).take max) stopped_ after) :
    after.KeepsLimit max admitted ↔ service.Fits max admitted stopped := by
  have waits (key : Ustr) : key ∈ service.waitsFor admitted stopped ↔
      key ∈ admitted ∧ key ∉ stopped_.runningKeys := by
    rw [Service.waitsFor, running, List.mem_filter, decide_eq_true_eq]
  obtain ⟨first, rest, taken⟩ : ∃ first rest,
      (service.waitsFor admitted stopped).take max = first :: rest := by
    apply List.exists_cons_of_ne_nil
    rw [ne_eq, List.take_eq_nil_iff, not_or]
    exact ⟨by omega, waiting⟩
  have idle : first ∉ stopped_.runningKeys := by
    have inside : first ∈ (service.waitsFor admitted stopped).take max := by
      rw [taken]
      exact List.mem_cons_self
    exact ((waits first).mp (List.mem_of_mem_take inside)).2
  rw [taken] at added
  obtain ⟨count, after_keys⟩ := added.of_idle idle
  have same : stopped_.addedKeys (first :: rest) = service.addedKeys (first :: rest) := by
    rw [Service.addedKeys, keys, Service.addedKeys]
  rw [length, same, ← taken] at count
  rw [keys, ← taken] at after_keys
  have covers : (∀ key ∈ admitted, key ∈ after.runningKeys) ↔
      ∀ key ∈ service.waitsFor admitted stopped,
        key ∈ (service.waitsFor admitted stopped).take max ∨ key ∈ service.keys := by
    rw [after_keys]
    constructor
    · intro all key waits_
      have inside := all key ((waits key).mp waits_).1
      rw [Finset.mem_union, List.mem_toFinset] at inside
      exact inside.symm
    · intro all key listed
      rw [Finset.mem_union, List.mem_toFinset]
      by_cases runs : key ∈ stopped_.runningKeys
      · obtain ⟨inst, member, -, own⟩ := Service.mem_runningKeys.mp runs
        rw [← keys]
        exact .inl (Service.mem_keys.mpr ⟨inst, member, own⟩)
      · exact (all key ((waits key).mpr ⟨listed, runs⟩)).symm
  constructor
  · intro keeps
    refine .room fewer (count ▸ keeps.bounded) fun less => ?_
    exact covers.mp (keeps.complete (count.symm ▸ less))
  · intro fits
    cases fits with
    | settled nothing => exact absurd nothing waiting
    | full all =>
        have := (service.countBut_le stopped).trans service.runningCount_le
        omega
    | room _ within_ covered =>
        constructor
        · rw [count]
          exact within_
        · intro less
          exact covers.mpr (covered (count ▸ less))

/-- One evaluation keeps the limit exactly where the state fits, if the starts of what waits
can be carried out. -/
theorem evaluateTriggers_keepsLimit {targets : List Ustr}
    (leads : ∀ target ∈ targets, ∃ metadata, LeadsBack env.metadata target metadata)
    (led : LeadsBack env.metadata name metadata) (distinct : targets.Nodup)
    (defines : services.Defines name metadata) (branches : metadata.branching = some branching)
    (limit : branching.maxInstances = some max) (single : metadata.run.asMany.length = 1)
    (bounded : (services.serviceOf name metadata).runningCount ≤ max)
    (starts : (services.serviceOf name metadata).waitsFor
        (env.admittedKeys branching trigger.event)
        (trigger.stoppedKey branching targets name) ≠ [] →
      (services.serviceOf name metadata).instances.length < max →
        StartsWaiting env answer trigger targets name metadata branching services) :
    ∃ final, evaluateTriggers env answer trigger targets services = some (.ok (), final) ∧
      final.Defines name metadata ∧
      ((final.serviceOf name metadata).KeepsLimit max (env.admittedKeys branching trigger.event) ↔
        (services.serviceOf name metadata).Fits max (env.admittedKeys branching trigger.event)
          (trigger.stoppedKey branching targets name)) := by
  by_cases listed : name ∈ targets
  · rw [EmitTrigger.stoppedKey, if_pos listed] at starts ⊢
    obtain ⟨next, middle, considered⟩ :=
      considerServices_own trigger ⟨services, []⟩ leads led listed distinct defines branches
    have own : next.toStart.filter (·.1 = name) =
        ownStarts env trigger name metadata branching (middle.stop env trigger name).services :=
      considered.toStart
    have afters := considered.afters leads distinct
    obtain ⟨-, signalled⟩ := considerServices_signalled _ trivial _ _ considered.ran
    have outcome := considered.outcome
    have service := considered.service
    generalize (middle.stop env trigger name).services = stopped at own afters outcome service
    obtain ⟨length, instKeys, count⟩ := outcome.counts
    have spared := outcome.spared
    rw [EmitTrigger.spared] at spared
    have keys : startKeys name next.toStart =
        startKeys name (ownStarts env trigger name metadata branching stopped) := by
      rw [← own, startKeys_filter]
    rw [startKeys_ownStarts_max limit, length, spared] at keys
    have needed (some_ : startKeys name next.toStart ≠ []) :
        StartsWaiting env answer trigger targets name metadata branching services := by
      rw [keys] at some_
      split at some_
      · next ready =>
        refine starts (fun nothing => some_ ?_) ready.2.2
        rw [Service.waitsFor] at nothing
        rw [nothing, List.take_nil]
      · exact absurd rfl some_
    obtain ⟨pid, carries⟩ : ∃ pid, startKeys name next.toStart ≠ [] →
        CarriesOut env answer pid 0 name metadata next.services := by
      by_cases idle : startKeys name next.toStart = []
      · exact ⟨fun _ _ => 0, fun some_ => absurd idle some_⟩
      · obtain ⟨pid, able⟩ := (needed idle).able
        refine ⟨pid, fun _ => { able with free := ?_ }⟩
        intro later le index child
        exact able.free later le index ((signalled.children _).mp child)
    have keyed : ∀ entry ∈ next.toStart, entry.1 = name → ∃ ctx key, entry.2 = some ctx ∧
        ctx.key = some key ∧ BranchLaunches env name metadata ctx := by
      intro entry member same
      have inside : entry ∈ next.toStart.filter (·.1 = name) :=
        List.mem_filter.mpr ⟨member, decide_eq_true same⟩
      have some_ : startKeys name next.toStart ≠ [] := by
        rw [startKeys, ne_eq, List.map_eq_nil_iff]
        exact List.ne_nil_of_mem inside
      rw [own] at inside
      obtain ⟨branch, stored, key, named, ctx⟩ := ctx_of_mem_ownStarts inside
      exact ⟨_, key, ctx, rfl, (needed some_).launches branch stored key named⟩
    obtain ⟨final, ran, defines', added⟩ :=
      starts_added (considered.leads leads rfl) led considered.defines single keyed carries
    refine ⟨final, ?_, defines', ?_⟩
    · rw [evaluateTriggers, considered.ran]
      exact ran
    · rw [service, keys] at added
      by_cases waiting : (services.serviceOf name metadata).waitsFor
          (env.admittedKeys branching trigger.event) (trigger.revertedKey branching) ≠ [] ∧
          (services.serviceOf name metadata).instances.length < max
      · obtain ⟨waiting, room⟩ := waiting
        have can := starts waiting room
        rw [if_pos ⟨can.met, afters can.afters, room⟩] at added
        exact keepsLimit_of_added length instKeys spared waiting room added
      · have none_ : final.serviceOf name metadata = stopped.serviceOf name metadata := by
          have idle : startKeys name next.toStart = [] := by
            by_contra some_
            have inside := some_
            rw [keys] at inside
            split at inside
            · next ready =>
              refine waiting ⟨fun nothing => inside ?_, ready.2.2⟩
              rw [Service.waitsFor] at nothing
              rw [nothing, List.take_nil]
            · exact inside rfl
          rw [← keys, idle] at added
          exact added.of_nil
        rw [none_]
        refine keepsLimit_of_idle count spared bounded fun some_ => ?_
        exact not_lt.mp fun room => waiting ⟨some_, room⟩
  · rw [EmitTrigger.stoppedKey, if_neg listed] at starts ⊢
    obtain ⟨final, ran, defines', same⟩ :
        ∃ final, evaluateTriggers env answer trigger targets services = some (.ok (), final) ∧ _ :=
      evaluateTriggers_other leads led listed defines
    refine ⟨final, ran, defines', ?_⟩
    rw [same]
    refine keepsLimit_of_idle (Service.countBut_none _).symm ?_ bounded fun some_ => ?_
    · simp
    · exact not_lt.mp fun room => listed (starts some_ room).listed

end Once

end Evaluating

/-! ## Runs -/

section Histories

variable [SerdeJson] [TomlText] (definitions : MetadataRegistry ServiceMetadata) (name : Ustr)
  (metadata : ServiceMetadata) (branching : BranchingConfig) (max : Nat)

/-- The instances are of the definition, and at most `max` of them are running. -/
structure WithinLimit (services : Services) : Prop where
  defines : services.Defines name metadata
  bounded : (services.serviceOf name metadata).runningCount ≤ max

/-- When an event has been evaluated, the limit is kept, and reached as far as branches go. -/
def KeepsLimit (system : BranchSystem) (action : BranchAction) : Prop :=
  match action, system.pending with
  | .evaluate env _ _, event :: _ =>
      ((branchStep definitions system action).service name metadata).KeepsLimit max
        ((system.env definitions env).admittedKeys branching event.trigger.event)
  | _, _ => True

/-- What each step of a history has to meet: an evaluation of an event, in any order of what it
is about, finds the service in a state that fits, and carries its starts out; anything else
leaves at most `max` instances running. -/
def BranchAction.FitsLimit (system : BranchSystem) (action : BranchAction) : Prop :=
  match action with
  | .change _ _ => True
  | .evaluate env answer targets => ∀ event rest, system.pending = event :: rest →
      let env := system.env definitions env
      let service := system.service name metadata
      let admitted := env.admittedKeys branching event.trigger.event
      let stopped := event.trigger.stoppedKey branching targets name
      targets.Perm (event.targets definitions) ∧
      (service.waitsFor admitted stopped ≠ [] → service.instances.length < max →
        StartsWaiting env answer event.trigger targets name metadata branching system.services) ∧
      service.Fits max admitted stopped
  | .process _ _ => WithinLimit name metadata max (branchStep definitions system action).services

variable {definitions name metadata branching max} {system : BranchSystem}

theorem KeepsLimit.runningCount_le {env : ServiceEnv} {answer : Nat → Nat → SpawnAnswer}
    {targets : List Ustr}
    (keeps : KeepsLimit definitions name metadata branching max system
      (.evaluate env answer targets)) (announced : system.pending ≠ []) :
    ((branchStep definitions system (.evaluate env answer targets)).service
      name metadata).runningCount ≤ max := by
  cases next : system.pending with
  | nil => exact absurd next announced
  | cons event rest =>
      simp only [KeepsLimit, next] at keeps
      exact keeps.bounded

/-- Evaluating the next event. -/
theorem WithinLimit.evaluate (led : LeadsBack definitions name metadata)
    (others : ∀ entry ∈ serviceInterests definitions,
      ∃ metadata, LeadsBack definitions entry.1 metadata)
    (branches : metadata.branching = some branching) (limit : branching.maxInstances = some max)
    (single : metadata.run.asMany.length = 1) (within_ : WithinLimit name metadata max system.services)
    {env : ServiceEnv} {answer : Nat → Nat → SpawnAnswer} {targets : List Ustr}
    (fits : (BranchAction.evaluate env answer targets).FitsLimit definitions name metadata
      branching max system) :
    WithinLimit name metadata max
        (branchStep definitions system (.evaluate env answer targets)).services ∧
      KeepsLimit definitions name metadata branching max system
        (.evaluate env answer targets) := by
  cases next : system.pending with
  | nil => simpa only [branchStep, KeepsLimit, next, and_true] using within_
  | cons event rest =>
      obtain ⟨order, starts, fits⟩ := fits event rest next
      obtain ⟨final, ran, defines, keeps⟩ :
          ∃ final, evaluateTriggers (system.env definitions env) answer event.trigger targets
            system.services = some (.ok (), final) ∧ _ :=
        evaluateTriggers_keepsLimit
          (fun target member => leadsBack_of_mem others (order.mem_iff.mp member)) led
          (order.nodup_iff.mpr nodup_targets) within_.defines branches limit single
          within_.bounded starts
      have kept := keeps.mpr fits
      have stepped : branchStep definitions system (.evaluate env answer targets) =
          { system with services := final, pending := rest } := by
        simp only [branchStep, next, ran]
      simp only [KeepsLimit, next]
      rw [stepped]
      exact ⟨⟨defines, kept.bounded⟩, kept⟩

end Histories

/-! ## Two shells at most -/

section Shells

open scoped Rind.Compact

def limitedBranching : BranchingConfig :=
  { sessionBranching (some "tty") with maxInstances := some 2 }

/-- A shell for each of at most two sessions. -/
def limitedShell : ServiceMetadata :=
  { sessionShell (some "tty") with branching := some limitedBranching }

def limitedDefinitions : MetadataRegistry ServiceMetadata := .ofGroup "static" "app" [limitedShell]

/-- Nothing has been set or started. -/
def limitedSystem : BranchSystem where
  flow := .empty
  heap := (loneEnv limitedShell 100).heap
  services := .boot
  pending := []

def openSession (tty : String) : BranchAction := .change shellEnv (setTty "rind:session" tty)

/-- An evaluation whose processes get ids from `base` on. -/
def evaluateNext (base : Nat) : BranchAction :=
  .evaluate (loneEnv limitedShell 100)
    (fun number index => .created (base + Nat.pair number index) none none) ["app:shell@static"]

/-- A session opens, and its shell is started. -/
def firstSession : List BranchAction := [openSession "1", evaluateNext 100]

/-- Two more sessions open before the first of them is evaluated. -/
def threeSessions : List BranchAction :=
  firstSession ++ [openSession "2", openSession "3", evaluateNext 200]

theorem leadsBack_limited : LeadsBack limitedDefinitions "app:shell@static" limitedShell := by
  have parsed : (Text.rsplitOnce '@' "app:shell@static").getD ("app:shell@static", "static") =
      ("app:shell", "static") := by decide +kernel
  exact .of_parts (by decide) (by decide) parsed (by decide +kernel) (by decide +kernel)
    (by decide +kernel) (by decide +kernel)

theorem leadsBack_allLimited : ∀ entry ∈ serviceInterests limitedDefinitions,
    ∃ metadata, LeadsBack limitedDefinitions entry.1 metadata := by
  have listed : serviceInterests limitedDefinitions =
      [("app:shell@static", ["rind:session"])] := by decide +kernel
  rw [listed]
  exact List.forall_mem_singleton.mpr ⟨_, leadsBack_limited⟩

/-- The system after a session has opened. -/
def BranchSystem.opened (system : BranchSystem) (tty : String) : BranchSystem :=
  let flow := system.flow.after shellEnv 3 (setTty "rind:session" tty)
  { system with flow, pending := system.pending ++ flow.events.drop system.flow.events.length }

theorem branchStep_openSession (system : BranchSystem) (tty : String)
    (finished : (run shellEnv 3 (setTty "rind:session" tty) system.flow).map Prod.fst =
      some (.ok ())) :
    branchStep limitedDefinitions system (openSession tty) = system.opened tty :=
  branchStep_change finished

/-- The shell of the first session runs. -/
noncomputable def oneShell : BranchSystem :=
  branchStep limitedDefinitions (limitedSystem.opened "1") (evaluateNext 100)

end Shells

end Rind
