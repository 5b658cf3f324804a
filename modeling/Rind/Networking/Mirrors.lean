import Rind.Networking.Runtime
import Rind.Prog.Runs

/-!
# Facets that mirror the networks

The filter that interfaces and configured networks are removed with is an object
under `as`, which the flow runtime takes for a member of the payload.  So nothing
is ever removed, and the facets mirror the tables exactly where nothing has to be.
-/

namespace Rind.Networking

open Prog SerdeJson

/-! ## The facets -/

def systemSubscribers : List TransportMethod :=
  [.type "route:rind:sys-uds", .type "route:rind:sys-shm"]

/-- A facet of the group `net`. -/
def networkFacet (name : Ustr) (payload : FlowPayloadType) (branch : Option (List Ustr)) :
    FlowFacetMetadata where
  name := name
  payload := payload
  stopOn := none
  after := none
  branch := branch
  autoPayload := none
  subscribers := some systemSubscribers

def interfaceFacet : FlowFacetMetadata := networkFacet "interface!" .json (some ["name"])

def onlineFacet : FlowFacetMetadata := networkFacet "online!" .none none

def configuredFacet : FlowFacetMetadata := networkFacet "configured!" .json (some ["name"])

/-- The facets have the definitions that are built in. -/
structure BuiltIn (env : FlowEnv) : Prop where
  interface : env.find networkingInterfaceState = some interfaceFacet
  online : env.find networkingOnlineState = some onlineFacet
  configured : env.find networkingConfiguredState = some configuredFacet

/-! ## Runs -/

/-- What happens to the runtime. -/
inductive NetworkingEvent where
  | scan (now : Nat) (root : Option (List SysfsEntry))
  | configure (configs : List (NetworkConfigMetadata × Attempt))
  | reconcile (now : Nat) (configs : List (NetworkConfigMetadata × Attempt))
      (renewal : Ustr → Attempt)

def NetworkingEvent.program : NetworkingEvent → NetworkingProg Unit
  | scan now root => scanAndSync now root
  | configure configs => Networking.configure configs
  | reconcile now configs renewal => Networking.reconcile now configs renewal

structure NetworkingSystem where
  runtime : NetworkingRuntime
  flow : FlowState

/-- An event, and what the flow runtime reads when it executes the actions. -/
structure NetworkingStep where
  env : FlowEnv
  builtIn : BuiltIn env
  event : NetworkingEvent

section Runs

variable [SerdeJson] [TomlText]

/-- An event of the runtime, and then the actions that it has dispatched. -/
noncomputable def NetworkingSystem.step (system : NetworkingSystem) (step : NetworkingStep) :
    NetworkingSystem :=
  match step.event.program ⟨system.runtime, []⟩ with
  | none => system
  | some (_, state) =>
      match perform step.env state.dispatched system.flow with
      | none => system
      | some flow => ⟨state.runtime, flow⟩

/-- The names of the branches of a facet. -/
def branchNames (flow : FlowState) (facet : Ustr) : List (Option Json) :=
  (flow.facets.instances facet).map fun branch => branch.payload.getJsonField "name"

/-- The facets mirror the tables of the runtime. -/
structure Mirrors (system : NetworkingSystem) : Prop where
  interfaces : ∀ value, value ∈ branchNames system.flow networkingInterfaceState ↔
    ∃ name ∈ system.runtime.lastInterfaces, value = some (.str name)
  online : system.flow.facets.instances networkingOnlineState ≠ [] ↔
    ∃ entry ∈ system.runtime.lastInterfaces.entries, entry.2.isOnline
  configured : ∀ value, value ∈ branchNames system.flow networkingConfiguredState ↔
    ∃ name ∈ system.runtime.configuredInterfaces, value = some (.str name)

/-- The lease of an interface cannot be renewed, so that reconciling ends there. -/
def NetworkingRuntime.renewalFails (runtime : NetworkingRuntime) (attempt : Attempt)
    (iface : Ustr) : Bool :=
  match (runtime.lastInterfaces.lookup iface).bind (·.mac) with
  | none => true
  | some mac =>
      (parseMac mac).isNone ||
        (attempt.dhcpRequest.toBool && !attempt.bringInterfaceUp.toBool)

/-- Nothing has to be removed: a scan that is due finds the interfaces of the last one,
and the configured ones are online where reconciling looks at them. -/
def NetworkingRuntime.KeepsAllNames (runtime : NetworkingRuntime) : NetworkingEvent → Prop
  | .scan now root =>
      runtime.scanned now ∨
        ∀ name ∈ runtime.lastInterfaces, name ∈ collectWiredInterfaces root
  | .configure _ => True
  | .reconcile now _ renewal =>
      (∃ iface ∈ runtime.needingRenewal now, runtime.renewalFails (renewal iface) iface) ∨
        ∀ iface ∈ runtime.configuredInterfaces, runtime.stillOnline iface

end Runs

/-! ## Tables -/

/-- The rows of the two tables, and whether the flag is up. -/
structure Tables where
  interfaces : List Members
  configured : List Members
  online : Bool

namespace Tables

def after [SerdeJson] (tables : Tables) (actions : List Dispatched) : Tables where
  interfaces := actions.foldl
    (fun rows action => action.writes networkingInterfaceState "name" rows) tables.interfaces
  configured := actions.foldl
    (fun rows action => action.writes networkingConfiguredState "name" rows) tables.configured
  online := actions.foldl (fun up action => action.raises networkingOnlineState up) tables.online

/-- No row has a member that filters are put under. -/
structure Clean (tables : Tables) : Prop where
  interfaces : ∀ row ∈ tables.interfaces, row.lookup "as" = none
  configured : ∀ row ∈ tables.configured, row.lookup "as" = none

end Tables

/-- The names of the rows. -/
def rowNames (rows : List Members) : List (Option Json) := rows.map (·.lookup "name")

/-- An action on a table sets it to a row without the member that filters are put under,
or removes the rows of a name. -/
def Mirroring [SerdeJson] (facet : Ustr) : Dispatched → Prop
  | .setFacet other payload => other = facet →
      ∃ fields, payload = some (.obj fields) ∧ Row "name" fields ∧ fields.lookup "as" = none
  | .removeFacet other filter => other = facet → ∃ name, filter = some (nameFilter name)
  | _ => True

/-- An action that the runtime dispatches. -/
structure Sound [SerdeJson] (action : Dispatched) : Prop where
  interface : Mirroring networkingInterfaceState action
  configured : Mirroring networkingConfiguredState action
  online : action.Plain networkingOnlineState

/-- The name that an action sets a row of. -/
def setName (facet : Ustr) : Dispatched → Option (Option Json)
  | .setFacet other (some (.obj fields)) =>
      if other = facet then some (fields.lookup "name") else none
  | _ => none

/-- The names of the rows that some actions set. -/
def setNames (facet : Ustr) (actions : List Dispatched) : List (Option Json) :=
  actions.filterMap (setName facet)

theorem setNames_append (facet : Ustr) (first second : List Dispatched) :
    setNames facet (first ++ second) = setNames facet first ++ setNames facet second :=
  List.filterMap_append

section Mirroring

variable [SerdeJson] {facet : Ustr} {action : Dispatched} {actions : List Dispatched}
  {rows : List Members}

theorem Mirroring.fits (mirroring : Mirroring facet action) : action.Fits facet "name" := by
  cases action with
  | setFacet other payload =>
      intro same
      obtain ⟨fields, isObj, isRow, -⟩ := mirroring same
      exact ⟨fields, isObj, isRow⟩
  | removeFacet other filter =>
      intro same
      obtain ⟨name, isFilter⟩ := mirroring same
      exact ⟨_, isFilter⟩
  | _ => trivial

/-- An action adds the name of the row that it sets, and removes none. -/
theorem Mirroring.writes (mirroring : Mirroring facet action)
    (clean : ∀ row ∈ rows, row.lookup "as" = none) :
    (∀ row ∈ action.writes facet "name" rows, row.lookup "as" = none) ∧
      ∀ value, value ∈ rowNames (action.writes facet "name" rows) ↔
        value ∈ rowNames rows ∨ setName facet action = some value := by
  by_cases about : ∃ c, action.call = some c ∧ c.name = facet
  · obtain ⟨c, call, same⟩ := about
    cases action with
    | setFacet other payload =>
        cases call
        have about : other = facet := same
        subst about
        clear same
        obtain ⟨fields, rfl, isRow, absent⟩ := mirroring rfl
        rw [Dispatched.writes, if_pos rfl, setName, if_pos rfl]
        constructor
        · exact lookup_none_writeRow isRow.legal.ordered isRow.unforced absent clean
        · intro value
          rw [rowNames, mem_keys_writeRow isRow.present isRow.legal.ordered isRow.unforced,
            Option.some.injEq, or_comm, eq_comm]
          rfl
    | removeFacet other filter =>
        cases call
        have about : other = facet := same
        subst about
        clear same
        obtain ⟨name, rfl⟩ := mirroring rfl
        have kept : eraseRows [("as", .obj [("name", .str name)])] rows = rows :=
          eraseRows_of_absent (by simp) clean
        have none_ : setName other (.removeFacet other (some (nameFilter name))) = none := rfl
        rw [none_, nameFilter, Dispatched.writes, if_pos rfl, kept]
        simpa using clean
    | _ => cases call
  · have ne : ∀ c, action.call = some c → c.name ≠ facet :=
      fun c call same => about ⟨c, call, same⟩
    rw [Dispatched.writes_of_ne ne]
    constructor
    · exact clean
    · intro value
      have none_ : setName facet action = none := by
        unfold setName
        split
        · exact if_neg (ne _ rfl)
        · rfl
      simp [none_]

/-- Some actions add the names of the rows that they set, and remove none. -/
theorem rowNames_foldl (mirroring : ∀ action ∈ actions, Mirroring facet action)
    (clean : ∀ row ∈ rows, row.lookup "as" = none) :
    (∀ row ∈ actions.foldl (fun rows action => action.writes facet "name" rows) rows,
      row.lookup "as" = none) ∧
      ∀ value, value ∈ rowNames
          (actions.foldl (fun rows action => action.writes facet "name" rows) rows) ↔
        value ∈ rowNames rows ∨ value ∈ setNames facet actions := by
  induction actions generalizing rows with
  | nil => exact ⟨clean, fun value => by simp [setNames]⟩
  | cons action rest ih =>
      obtain ⟨first, others⟩ := List.forall_mem_cons.mp mirroring
      obtain ⟨cleanNext, names⟩ := first.writes clean
      obtain ⟨cleanLast, namesLast⟩ := ih others cleanNext
      refine ⟨cleanLast, fun value => ?_⟩
      rw [List.foldl_cons, namesLast, names, or_assoc]
      apply or_congr_right
      cases set : setName facet action with
      | none => simp [setNames, set]
      | some name => simp [setNames, set, eq_comm]

end Mirroring

/-- The facets hold the tables. -/
structure Shows [SerdeJson] (flow : FlowState) (tables : Tables) : Prop where
  interfaces : Holds (flow.facets.instances networkingInterfaceState) tables.interfaces
  configured : Holds (flow.facets.instances networkingConfiguredState) tables.configured
  online : flow.facets.instances networkingOnlineState ≠ [] ↔ tables.online

section Facets

variable [SerdeJson] {env : FlowEnv} {flow final : FlowState} {tables : Tables}
  {actions : List Dispatched}

omit [SerdeJson] in
theorem keyedBy_networkFacet (name : Ustr) :
    KeyedBy "name" (networkFacet name .json (some ["name"])) where
  payload := rfl
  branch := rfl
  target := by decide

/-- The names of the branches are those of the rows. -/
theorem Holds.branchNames {facet : Ustr} {rows : List Members}
    (holds : Holds (flow.facets.instances facet) rows) : branchNames flow facet = rowNames rows := by
  have fields : ∀ branch : FlowInstance,
      branch.payload.getJsonField "name" = branch.payload.toJson.asObject.bind (·.lookup "name") := by
    intro branch
    cases branch.payload <;> rfl
  rw [Networking.branchNames, List.map_congr_left fun branch _ => fields branch]
  have mapped := congrArg (List.map fun value => value.asObject.bind (·.lookup "name")) holds
  rw [List.map_map, List.map_map] at mapped
  exact mapped

/-- The facets hold the tables after some actions. -/
theorem Shows.perform [TomlText] (shows_ : Shows flow tables) (builtIn : BuiltIn env)
    (sound : ∀ action ∈ actions, Sound action)
    (ran : perform env actions flow = some final) : Shows final (tables.after actions) where
  interfaces :=
    Standalone.perform_holds ⟨builtIn.interface, rfl, rfl⟩ (keyedBy_networkFacet _)
      (fun action inside => (sound action inside).interface.fits) shows_.interfaces ran
  configured :=
    Standalone.perform_holds ⟨builtIn.configured, rfl, rfl⟩ (keyedBy_networkFacet _)
      (fun action inside => (sound action inside).configured.fits) shows_.configured ran
  online :=
    Standalone.perform_up ⟨builtIn.online, rfl, rfl⟩ rfl
      (fun action inside => (sound action inside).online) shows_.online ran

end Facets

/-! ## Rows -/

section Rows

variable [SerdeJson]

theorem row_interface (prints : PrintsUnsigned) (interface : WiredInterfaceState) :
    Row "name" interface.fields := by
  apply Row.of_keys ["carrier", "kind", "mac", "mtu", "name", "operstate"] rfl (by decide)
    (by decide) _ rfl
  intro member inside
  have mac : LegalMember ((interface.mac.map Json.str).getD .null) := by
    cases interface.mac with
    | none => exact legalMember_null
    | some mac => exact legalMember_str mac
  have mtu : LegalMember ((interface.mtu.map fun mtu => Json.num (.int mtu.toNat)).getD .null) := by
    cases interface.mtu with
    | none => exact legalMember_null
    | some mtu =>
        have bound : mtu.toNat < 2 ^ 64 := lt_trans mtu.toNat_lt (by decide)
        exact legalMember_unsigned prints bound
  simp only [WiredInterfaceState.fields, List.mem_cons, List.not_mem_nil, or_false] at inside
  rcases inside with rfl | rfl | rfl | rfl | rfl | rfl
  · exact legalMember_bool _
  · exact legalMember_str _
  · exact mac
  · exact mtu
  · exact legalMember_str _
  · exact legalMember_str _

theorem row_configured (iface : Ustr) (ip : String) (length : Nat) (gateway : Option Ipv4Addr) :
    Row "name" (configuredFields iface ip length gateway) := by
  apply Row.of_keys ["gateway", "ip", "name"] rfl (by decide) (by decide) _ rfl
  intro member inside
  simp only [configuredFields, List.mem_cons, List.not_mem_nil, or_false] at inside
  rcases inside with rfl | rfl | rfl
  · exact legalMember_str _
  · exact legalMember_str _
  · exact legalMember_str _

end Rows

end Rind.Networking
