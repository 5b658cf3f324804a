import Rind.Prog.Rules
import Rind.Services.Reverts

/-!
# Names of conditions

The runtimes of the flows, the services and the sockets index the definitions by the names of
their conditions.  A condition is read from a name or from a table, all of whose fields may be
left out; of a table with neither a facet nor an impulse there is no name to unwrap.
-/

namespace Rind

open Prog

/-! ## What is read as a condition -/

/-- A field that may be left out, under one of its names. -/
def optionalField {α : Type} (names : List String) (reader : Toml → Option α)
    (fields : List (String × Toml)) : Option (Option α) :=
  match fields.filter fun field => names.contains field.1 with
  | [] => some none
  | [field] => (reader field.2).map some
  | _ => none

def Toml.asString : Toml → Option String
  | .string value => some value
  | _ => none

def Toml.asBoolean : Toml → Option Bool
  | .boolean value => some value
  | _ => none

def FlowMatchOperation.deserialize : Toml → Option FlowMatchOperation
  | .string value => some (.eq value)
  | .table fields => do
      let binary ← optionalField ["binary"] Toml.asBoolean fields
      let contains ← optionalField ["contains"] Toml.asString fields
      let asValue ← optionalField ["as"] (fun value => some value.toValue) fields
      some (.options binary contains asValue)
  | _ => none

def FlowItem.deserialize : Toml → Option FlowItem
  | .string name => some (.simple name)
  | .table fields => do
      let facet ← optionalField ["facet", "state"] Toml.asString fields
      let impulse ← optionalField ["impulse", "signal"] Toml.asString fields
      let target ← optionalField ["target"] FlowMatchOperation.deserialize fields
      let branch ← optionalField ["branch"] FlowMatchOperation.deserialize fields
      some (.detailed facet impulse target branch)
  | _ => none

/-- Any choice of the two names is read from some table. -/
theorem FlowItem.exists_deserialize (facet impulse : Option Ustr) :
    ∃ value, FlowItem.deserialize value = some (.detailed facet impulse none none) := by
  cases facet with
  | none =>
      cases impulse with
      | none => exact ⟨.table [], rfl⟩
      | some impulse => exact ⟨.table [("impulse", .string impulse)], rfl⟩
  | some facet =>
      cases impulse with
      | none => exact ⟨.table [("facet", .string facet)], rfl⟩
      | some impulse =>
          exact ⟨.table [("facet", .string facet), ("impulse", .string impulse)], rfl⟩

/-! ## Indexes -/

/-- A condition whose name can be unwrapped. -/
def FlowItem.Named (cond : FlowItem) : Prop := cond.name.isSome

instance (cond : FlowItem) : Decidable cond.Named :=
  inferInstanceAs (Decidable (cond.name.isSome = true))

/-- The names of some conditions, if all can be unwrapped. -/
def namesOf (conds : List FlowItem) : Option (List Ustr) := conds.mapM FlowItem.name

/-- Index definitions under their full names, unless the name of a condition panics. -/
def rebuildTriggerIndex (entries : List (Ustr × List FlowItem)) :
    Option (AList fun _ : Ustr => List Ustr) := do
  let named ← entries.mapM fun entry => (namesOf entry.2).map fun names => (entry.1, names)
  some (indexInterests named)

/-- The services of all pages under their full names, with their conditions. -/
def serviceConditions (definitions : MetadataRegistry ServiceMetadata) :
    List (Ustr × List FlowItem) :=
  definitions.metadata.entries.flatMap fun page =>
    page.2.values.entries.flatMap fun group =>
      group.2.map fun item =>
        (rslvns group.1 item.name ++ "@" ++ page.1, conditionsOf item.startOn item.stopOn)

/-- The sockets of all pages under their names without a scope, with their conditions. -/
def socketConditions (definitions : MetadataRegistry SocketMetadata) :
    List (Ustr × List FlowItem) :=
  definitions.allItems.map fun item =>
    (rslvns item.1 item.2.name, conditionsOf item.2.startOn item.2.stopOn)

section Indexes

variable {conds : List FlowItem} {entries : List (Ustr × List FlowItem)}

theorem isSome_mapM {α β : Type} {f : α → Option β} {items : List α} :
    (items.mapM f).isSome ↔ ∀ item ∈ items, (f item).isSome := by
  induction items with
  | nil => simp
  | cons item rest ih =>
      rw [List.mapM_cons, List.forall_mem_cons, ← ih]
      cases f item with
      | none => simp
      | some value =>
          cases rest.mapM f with
          | none => simp
          | some values => simp

theorem namesOf_isSome : (namesOf conds).isSome ↔ ∀ cond ∈ conds, cond.Named := isSome_mapM

theorem rebuildTriggerIndex_isSome :
    (rebuildTriggerIndex entries).isSome ↔ ∀ entry ∈ entries, ∀ cond ∈ entry.2, cond.Named := by
  rw [rebuildTriggerIndex, Option.bind_eq_bind, Option.isSome_bind]
  simp only [Option.isSome_some, Option.any_true, isSome_mapM, Option.isSome_map, namesOf_isSome]

/-- Names that can be unwrapped are those that the definition is interested in. -/
theorem namesOf_eq (named : ∀ cond ∈ conds, cond.Named) :
    namesOf conds = some (conds.filterMap FlowItem.name) := by
  rw [namesOf]
  induction conds with
  | nil => rfl
  | cons cond rest ih =>
      obtain ⟨first, others⟩ := List.forall_mem_cons.mp named
      obtain ⟨name, found⟩ := Option.isSome_iff_exists.mp first
      rw [List.mapM_cons, ih others, found, List.filterMap_cons_some found]
      rfl

/-- An index that can be built is the one of all interests. -/
theorem rebuildTriggerIndex_eq (named : ∀ entry ∈ entries, ∀ cond ∈ entry.2, cond.Named) :
    rebuildTriggerIndex entries = some (indexInterests (entries.map fun entry =>
      (entry.1, entry.2.filterMap FlowItem.name))) := by
  rw [rebuildTriggerIndex]
  have all : (entries.mapM fun entry => (namesOf entry.2).map fun names => (entry.1, names)) =
      some (entries.map fun entry => (entry.1, entry.2.filterMap FlowItem.name)) := by
    induction entries with
    | nil => rfl
    | cons entry rest ih =>
        obtain ⟨first, others⟩ := List.forall_mem_cons.mp named
        rw [List.mapM_cons, ih others, namesOf_eq first]
        rfl
  rw [all]
  rfl

theorem rebuildTriggerIndex_services {definitions : MetadataRegistry ServiceMetadata}
    (named : ∀ entry ∈ serviceConditions definitions, ∀ cond ∈ entry.2, cond.Named) :
    rebuildTriggerIndex (serviceConditions definitions) =
      some (indexInterests (serviceInterests definitions)) := by
  rw [rebuildTriggerIndex_eq named]
  congr 2
  simp only [serviceConditions, serviceInterests, List.map_flatMap, List.map_map]
  rfl

theorem rebuildTriggerIndex_sockets {definitions : MetadataRegistry SocketMetadata}
    (named : ∀ entry ∈ socketConditions definitions, ∀ cond ∈ entry.2, cond.Named) :
    rebuildTriggerIndex (socketConditions definitions) =
      some (indexInterests (socketInterests definitions)) := by
  rw [rebuildTriggerIndex_eq named, socketConditions, socketInterests, List.map_map]
  rfl

end Indexes

/-! ## Runtimes -/

/-- The definitions of the files that have been loaded. -/
structure TriggerDefinitions where
  facets : MetadataRegistry FlowFacetMetadata
  services : MetadataRegistry ServiceMetadata
  sockets : MetadataRegistry SocketMetadata

/-- The runtimes that index conditions, with the units that they start and stop. -/
structure TriggerRuntimes where
  flow : FlowRuntime
  serviceIndex : AList fun _ : Ustr => List Ustr
  socketIndex : AList fun _ : Ustr => List Ustr
  services : Services
  units : Units

/-- What is called of a runtime: it sets up its indexes, or evaluates a trigger in some order
of the definitions it is about. -/
inductive TriggerCall where
  | bootstrapFlow
  | bootstrapServices
  | bootstrapSockets
  | evaluateServices (env : ServiceEnv) (answer : Nat → Nat → SpawnAnswer) (scope : Ustr)
      (trigger : EmitTrigger) (order : List Ustr → List Ustr)
  | evaluateSockets (create : SocketMetadata → Except CoreError Nat) (facets : Facets)
      (scope : Ustr) (trigger : EmitTrigger) (order : List Ustr → List Ustr)

/-- The index that a trigger is evaluated with: one that is empty is built again. -/
def indexToUse (entries : List (Ustr × List FlowItem))
    (index : AList fun _ : Ustr => List Ustr) : Option (AList fun _ : Ustr => List Ustr) :=
  if index = ∅ then rebuildTriggerIndex entries else some index

section Runs

variable [SerdeJson] [TomlText] (definitions : TriggerDefinitions)

/-- What a call comes to, unless it panics. -/
def TriggerRuntimes.call (runtimes : TriggerRuntimes) : TriggerCall → Option TriggerRuntimes
  | .bootstrapFlow => some { runtimes with flow := refreshMetadataAndIndexes definitions.facets }
  | .bootstrapServices => do
      let serviceIndex ← rebuildTriggerIndex (serviceConditions definitions.services)
      some { runtimes with serviceIndex }
  | .bootstrapSockets => do
      let socketIndex ← rebuildTriggerIndex (socketConditions definitions.sockets)
      some { runtimes with socketIndex }
  | .evaluateServices env answer scope trigger order => do
      let serviceIndex ← indexToUse (serviceConditions definitions.services) runtimes.serviceIndex
      let targets := order (triggerTargets serviceIndex definitions.services scope trigger)
      let (_, services) ← evaluateTriggers { env with metadata := definitions.services } answer
        trigger targets runtimes.services
      some { runtimes with serviceIndex, services }
  | .evaluateSockets create facets scope trigger order => do
      let socketIndex ← indexToUse (socketConditions definitions.sockets) runtimes.socketIndex
      let targets := order (triggerTargets socketIndex definitions.sockets scope trigger)
      let (_, units) ← evaluateSocketTriggers definitions.sockets create facets trigger targets
        runtimes.units
      some { runtimes with socketIndex, units }

/-- One call after the other, until one panics. -/
def TriggerRuntimes.run (calls : List TriggerCall) (runtimes : TriggerRuntimes) :
    Option TriggerRuntimes :=
  calls.foldlM (TriggerRuntimes.call definitions) runtimes

/-- All conditions of services and sockets have names. -/
structure TriggerDefinitions.Named : Prop where
  services : ∀ entry ∈ serviceConditions definitions.services, ∀ cond ∈ entry.2, cond.Named
  sockets : ∀ entry ∈ socketConditions definitions.sockets, ∀ cond ∈ entry.2, cond.Named

variable {definitions}

/-! ## Evaluating -/

omit [TomlText] in
theorem startTriggered_halts (env : ServiceEnv) (trigger : EmitTrigger) (name : Ustr) :
    Halts (fun _ => True) (startTriggered env trigger name) := by
  intro state _
  simp only [startTriggered]
  split
  · exact ⟨_, _, rfl, trivial⟩
  · exact ⟨_, _, rfl, trivial⟩

omit [TomlText] in
theorem considerService_halts (env : ServiceEnv) (trigger : EmitTrigger) (name : Ustr) :
    Halts (fun _ => True) (considerService env trigger name) := by
  rw [considerService]
  split
  · exact Halts.rule.pure
  · split
    · exact Halts.rule.pure
    · apply Halts.rule.read
      intro state
      apply Halts.rule.bind (.change fun _ _ => trivial)
      split
      · exact Halts.rule.pure
      · apply Halts.rule.read
        intro state
        split
        · exact Halts.rule.pure
        · exact startTriggered_halts env trigger name

theorem evaluateTriggers_isSome (env : ServiceEnv) (answer : Nat → Nat → SpawnAnswer)
    (trigger : EmitTrigger) (targets : List Ustr) (services : Services) :
    (evaluateTriggers env answer trigger targets services).isSome := by
  have considers : Halts (fun _ => True) (considerServices env trigger targets) :=
    Halts.rule.each fun name _ => considerService_halts env trigger name
  obtain ⟨result, state, ran, -⟩ := considers ⟨services, []⟩ trivial
  rw [evaluateTriggers, ran]
  cases result with
  | error error => rfl
  | ok _ =>
      have starts : Halts (fun _ => True) (Prog.each state.toStart.zipIdx fun entry services =>
          some (start { env with answer := answer entry.2 }
            { name := entry.1.1, onlyUser := none, branchCtx := entry.1.2, deferred := false }
            services)) :=
        Halts.rule.each fun entry _ services _ => ⟨_, _, rfl, trivial⟩
      obtain ⟨result, final, ran, -⟩ := starts state.services trivial
      exact Option.isSome_of_eq_some ran

omit [SerdeJson] [TomlText] in
theorem startSocket_halts (sockets : MetadataRegistry SocketMetadata)
    (create : SocketMetadata → Except CoreError Nat) (name : Ustr) :
    Halts (fun _ => True) (startSocket sockets create name) := by
  intro units _
  rw [startSocket]
  split
  · exact ⟨_, _, rfl, trivial⟩
  · exact ⟨_, _, rfl, trivial⟩

omit [SerdeJson] [TomlText] in
theorem stopSocket_halts (sockets : MetadataRegistry SocketMetadata) (name : Ustr) :
    Halts (fun _ => True) (stopSocket sockets name) := by
  intro units _
  rw [stopSocket]
  split
  · exact ⟨_, _, rfl, trivial⟩
  · exact ⟨_, _, rfl, trivial⟩

omit [TomlText] in
theorem considerSocket_halts (sockets : MetadataRegistry SocketMetadata)
    (create : SocketMetadata → Except CoreError Nat) (facets : Facets)
    (event : Option FlowInstance) (name : Ustr) :
    Halts (fun _ => True) (considerSocket sockets create facets event name) := by
  rw [considerSocket]
  split
  · exact Halts.rule.pure
  · apply Halts.rule.read
    intro units
    split
    · exact Halts.rule.attempt (startSocket_halts sockets create name)
    · split
      · exact Halts.rule.attempt (stopSocket_halts sockets name)
      · exact Halts.rule.pure

omit [TomlText] in
theorem evaluateSocketTriggers_isSome (sockets : MetadataRegistry SocketMetadata)
    (create : SocketMetadata → Except CoreError Nat) (facets : Facets) (trigger : EmitTrigger)
    (targets : List Ustr) (units : Units) :
    (evaluateSocketTriggers sockets create facets trigger targets units).isSome := by
  have considers : Halts (fun _ => True)
      (evaluateSocketTriggers sockets create facets trigger targets) :=
    Halts.rule.each fun name _ => considerSocket_halts sockets create facets trigger.event name
  obtain ⟨result, final, ran, -⟩ := considers units trivial
  exact Option.isSome_of_eq_some ran

/-! ## Panics -/

omit [SerdeJson] [TomlText] in
theorem indexToUse_isSome {entries : List (Ustr × List FlowItem)}
    (named : ∀ entry ∈ entries, ∀ cond ∈ entry.2, cond.Named)
    (index : AList fun _ : Ustr => List Ustr) : (indexToUse entries index).isSome := by
  rw [indexToUse]
  split
  · exact rebuildTriggerIndex_isSome.mpr named
  · rfl

/-- Where all conditions have names, no call panics. -/
theorem TriggerDefinitions.Named.call (named : definitions.Named) (runtimes : TriggerRuntimes)
    (call : TriggerCall) : (runtimes.call definitions call).isSome := by
  cases call with
  | bootstrapFlow => rfl
  | bootstrapServices =>
      obtain ⟨index, built⟩ := Option.isSome_iff_exists.mp
        (rebuildTriggerIndex_isSome.mpr named.services)
      rw [TriggerRuntimes.call, built]
      rfl
  | bootstrapSockets =>
      obtain ⟨index, built⟩ := Option.isSome_iff_exists.mp
        (rebuildTriggerIndex_isSome.mpr named.sockets)
      rw [TriggerRuntimes.call, built]
      rfl
  | evaluateServices env answer scope trigger order =>
      obtain ⟨index, used⟩ := Option.isSome_iff_exists.mp
        (indexToUse_isSome named.services runtimes.serviceIndex)
      obtain ⟨final, ran⟩ := Option.isSome_iff_exists.mp
        (evaluateTriggers_isSome { env with metadata := definitions.services } answer trigger
          (order (triggerTargets index definitions.services scope trigger)) runtimes.services)
      simp only [TriggerRuntimes.call, used, ran, Option.bind_eq_bind, Option.bind_some]
      rfl
  | evaluateSockets create facets scope trigger order =>
      obtain ⟨index, used⟩ := Option.isSome_iff_exists.mp
        (indexToUse_isSome named.sockets runtimes.socketIndex)
      obtain ⟨final, ran⟩ := Option.isSome_iff_exists.mp
        (evaluateSocketTriggers_isSome definitions.sockets create facets trigger
          (order (triggerTargets index definitions.sockets scope trigger)) runtimes.units)
      simp only [TriggerRuntimes.call, used, ran, Option.bind_eq_bind, Option.bind_some]
      rfl

theorem TriggerDefinitions.Named.run (named : definitions.Named) (calls : List TriggerCall)
    (runtimes : TriggerRuntimes) : (runtimes.run definitions calls).isSome := by
  induction calls generalizing runtimes with
  | nil => rfl
  | cons call rest ih =>
      obtain ⟨middle, called⟩ := Option.isSome_iff_exists.mp (named.call runtimes call)
      rw [TriggerRuntimes.run, List.foldlM_cons, called]
      exact ih middle

/-- Building the indexes and evaluating triggers never panics exactly where all conditions of
services and sockets have names. -/
theorem TriggerDefinitions.neverPanics_iff (runtimes : TriggerRuntimes) :
    (∀ calls, (runtimes.run definitions calls).isSome) ↔ definitions.Named := by
  constructor
  · intro never
    constructor
    · have services := never [.bootstrapServices]
      rw [TriggerRuntimes.run, List.foldlM_cons] at services
      apply rebuildTriggerIndex_isSome.mp
      cases built : rebuildTriggerIndex (serviceConditions definitions.services) with
      | none =>
          rw [TriggerRuntimes.call, built] at services
          cases services
      | some index => rfl
    · have sockets := never [.bootstrapSockets]
      rw [TriggerRuntimes.run, List.foldlM_cons] at sockets
      apply rebuildTriggerIndex_isSome.mp
      cases built : rebuildTriggerIndex (socketConditions definitions.sockets) with
      | none =>
          rw [TriggerRuntimes.call, built] at sockets
          cases sockets
      | some index => rfl
  · intro named calls
    exact named.run calls runtimes

end Runs

/-! ## A condition without a name -/

section Examples

open scoped Compact

/-- A service whose start-on list has an entry that is read from an empty table. -/
def namelessDefinitions : TriggerDefinitions where
  facets := ⟨∅, none⟩
  services := .ofGroup "static" "app"
    [{ workerService with startOn := (FlowItem.deserialize (.table [])).map fun cond => [cond] }]
  sockets := noSockets

/-- No index has been built, and no unit has been started. -/
def TriggerRuntimes.boot : TriggerRuntimes where
  flow := ⟨∅, ∅⟩
  serviceIndex := ∅
  socketIndex := ∅
  services := .boot
  units := noUnits

theorem not_neverPanics_nameless :
    (FlowItem.deserialize (.table [])).isSome ∧
      ¬ ∀ calls, (TriggerRuntimes.boot.run namelessDefinitions calls).isSome := by
  constructor
  · rfl
  · intro never
    have built := never [.bootstrapServices]
    have panics : (rebuildTriggerIndex (serviceConditions namelessDefinitions.services)).isNone := by
      decide +kernel
    rw [TriggerRuntimes.run, List.foldlM_cons, TriggerRuntimes.call,
      Option.isNone_iff_eq_none.mp panics] at built
    cases built

end Examples

end Rind
