import Rind.Flow.Keyed
import Rind.Services.Requests

/-!
# Actions on tables and flags

What a list of actions of the flow runtime leaves of a facet that depends on no
other: the rows of a table, or whether a flag is up.
-/

namespace Rind

section Performing

variable [SerdeJson]

namespace Dispatched

/-- What an action makes of the rows of a table. -/
def writes (name key : String) (rows : List Members) : Dispatched → List Members
  | .setFacet other (some (.obj fields)) => if other = name then writeRow key fields rows else rows
  | .removeFacet other (some (.obj filter)) => if other = name then eraseRows filter rows else rows
  | _ => rows

/-- An action on a table sets it to a row, or removes rows by an object. -/
def Fits (name key : String) : Dispatched → Prop
  | .setFacet other payload => other = name → ∃ fields, payload = some (.obj fields) ∧ Row key fields
  | .removeFacet other filter => other = name → ∃ fields, filter = some (.obj fields)
  | _ => True

/-- Whether a flag is up after an action. -/
def raises (name : String) (up : Bool) : Dispatched → Bool
  | .setFacet other none => if other = name then true else up
  | .removeFacet other none => if other = name then false else up
  | _ => up

/-- An action on a flag has no payload. -/
def Plain (name : String) : Dispatched → Prop
  | .setFacet other payload => other = name → payload = none
  | .removeFacet other filter => other = name → filter = none
  | _ => True

end Dispatched

variable [TomlText] {env : FlowEnv} {name key : String} {facet : FlowFacetMetadata}
  {actions : List Dispatched} {action : Dispatched} {c : Call} {state next final : FlowState}
  {result : Except CoreError Unit} {rows : List Members}

/-- A property of the graph after some actions, which each of them carries on. -/
theorem perform_foldl {α : Type} {effect : α → Dispatched → α} {holds : FlowState → α → Prop}
    {accepts : Dispatched → Prop}
    (idle : ∀ action state value, action.call = none → holds state value →
      holds state (effect value action))
    (one : ∀ action c state next result value, accepts action → action.call = some c →
      exec env c state.unguarded = some (result, next) → holds state value →
      holds next (effect value action))
    {value : α} (every : ∀ action ∈ actions, accepts action) (initial : holds state value)
    (ran : perform env actions state = some final) : holds final (actions.foldl effect value) := by
  induction actions generalizing state value with
  | nil =>
      cases ran
      exact initial
  | cons action rest ih =>
      obtain ⟨first, others⟩ := List.forall_mem_cons.mp every
      rw [perform] at ran
      split at ran
      · next none => exact ih others (idle action state value none initial) ran
      · next c call =>
          rw [Option.bind_eq_bind, Option.bind_eq_some_iff] at ran
          obtain ⟨⟨result, next⟩, ranFirst, ranRest⟩ := ran
          exact ih others (one action c state next result value first call ranFirst initial) ranRest

omit [TomlText] in
theorem Dispatched.writes_of_ne (other : ∀ c, action.call = some c → c.name ≠ name) :
    action.writes name key rows = rows := by
  unfold writes
  split
  · exact if_neg (other _ rfl)
  · exact if_neg (other _ rfl)
  · rfl

omit [TomlText] in
theorem Dispatched.raises_of_ne {up : Bool} (other : ∀ c, action.call = some c → c.name ≠ name) :
    action.raises name up = up := by
  unfold raises
  split
  · exact if_neg (other _ rfl)
  · exact if_neg (other _ rfl)
  · rfl

namespace Standalone

/-- A table after one action. -/
theorem holds_writes (alone : Standalone env name facet) (keyed : KeyedBy key facet)
    (free : state.guard = ∅) (fits : action.Fits name key) (call : action.call = some c)
    (ran : exec env c state = some (result, next))
    (holds : Holds (state.facets.instances name) rows) :
    Holds (next.facets.instances name) (action.writes name key rows) := by
  by_cases about : c.name = name
  · cases action with
    | setFacet other payload =>
        cases call
        have same : other = name := about
        subst same
        obtain ⟨fields, rfl, isRow⟩ := fits rfl
        obtain ⟨stored, stores, storedHolds⟩ := holds.store keyed isRow other
        have typed : payloadTypeOk facet.payload
            (freshInstance other (some (.json ⟨SerdeJson.toText (.obj fields)⟩))).payload := by
          simp [payloadTypeOk, freshInstance, keyed.payload]
        rw [Dispatched.writes, if_pos rfl, alone.exec_set free typed stores ran]
        exact storedHolds
    | removeFacet other filter =>
        cases call
        have same : other = name := about
        subst same
        obtain ⟨fields, rfl⟩ := fits rfl
        rw [Dispatched.writes, if_pos rfl, alone.exec_remove ran]
        exact holds.kept fields
    | _ => cases call
  · rw [alone.exec_other about ran, Dispatched.writes_of_ne]
    · exact holds
    · intro other called
      rw [call] at called
      cases called
      exact about

/-- A table after some actions. -/
theorem perform_holds (alone : Standalone env name facet) (keyed : KeyedBy key facet)
    (fits : ∀ action ∈ actions, action.Fits name key)
    (holds : Holds (state.facets.instances name) rows)
    (ran : perform env actions state = some final) :
    Holds (final.facets.instances name)
      (actions.foldl (fun rows action => action.writes name key rows) rows) := by
  let table (state : FlowState) (rows : List Members) : Prop :=
    Holds (state.facets.instances name) rows
  have idle (action : Dispatched) (state : FlowState) (rows : List Members)
      (none : action.call = none) (holds : table state rows) :
      table state (action.writes name key rows) := by
    rw [Dispatched.writes_of_ne fun c called => by rw [none] at called; cases called]
    exact holds
  have one (action : Dispatched) (c : Call) (state next : FlowState)
      (result : Except CoreError Unit) (rows : List Members) (fits : action.Fits name key)
      (call : action.call = some c)
      (ran : exec env c state.unguarded = some (result, next)) (holds : table state rows) :
      table next (action.writes name key rows) :=
    alone.holds_writes keyed rfl fits call ran holds
  exact perform_foldl idle one fits holds ran

/-- A flag after one action. -/
theorem up_raises (alone : Standalone env name facet) (flag : facet.payload = .none)
    {up : Bool} (free : state.guard = ∅) (plain : action.Plain name) (call : action.call = some c)
    (ran : exec env c state = some (result, next))
    (holds : (state.facets.instances name ≠ []) ↔ up) :
    (next.facets.instances name ≠ []) ↔ action.raises name up := by
  by_cases about : c.name = name
  · cases action with
    | setFacet other payload =>
        cases call
        have same : other = name := about
        subst same
        cases plain rfl
        have stored : storeInstance facet (freshInstance other none)
            (state.facets.instances other) = some [freshInstance other none] :=
          storeInstance_other (by simp [freshInstance])
        have typed : payloadTypeOk facet.payload (freshInstance other none).payload := by
          simp [payloadTypeOk, freshInstance, flag]
        rw [Dispatched.raises, if_pos rfl, alone.exec_set free typed stored ran]
        simp
    | removeFacet other filter =>
        cases call
        have same : other = name := about
        subst same
        cases plain rfl
        rw [Dispatched.raises, if_pos rfl, alone.exec_remove ran]
        simp [keptBranches, removalFilter, removes]
    | _ => cases call
  · rw [alone.exec_other about ran, Dispatched.raises_of_ne]
    · exact holds
    · intro other called
      rw [call] at called
      cases called
      exact about

/-- A flag after some actions. -/
theorem perform_up (alone : Standalone env name facet) (flag : facet.payload = .none)
    {up : Bool} (plain : ∀ action ∈ actions, action.Plain name)
    (holds : (state.facets.instances name ≠ []) ↔ up)
    (ran : perform env actions state = some final) :
    (final.facets.instances name ≠ []) ↔
      actions.foldl (fun up action => action.raises name up) up := by
  let isUp (state : FlowState) (up : Bool) : Prop := (state.facets.instances name ≠ []) ↔ up
  have idle (action : Dispatched) (state : FlowState) (up : Bool) (none : action.call = none)
      (holds : isUp state up) : isUp state (action.raises name up) := by
    rw [Dispatched.raises_of_ne fun c called => by rw [none] at called; cases called]
    exact holds
  have one (action : Dispatched) (c : Call) (state next : FlowState)
      (result : Except CoreError Unit) (up : Bool) (plain : action.Plain name)
      (call : action.call = some c)
      (ran : exec env c state.unguarded = some (result, next)) (holds : isUp state up) :
      isUp next (action.raises name up) :=
    alone.up_raises flag rfl plain call ran holds
  exact perform_foldl idle one plain holds ran

end Standalone

end Performing

end Rind
