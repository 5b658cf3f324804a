import Rind.Flow.Leaf
import Rind.Primitives.Scopes
import Rind.Prog.Runs

/-!
# Scopes that end with a facet

The action that removes a facet also removes the scope that lives as long as the facet.
Only the facet that the action is about is looked at, and one scope of it.
-/

namespace Rind

open Prog Runs

section Lifetimes

variable [SerdeJson] [TomlText]

/-! ## The actions -/

/-- The facet graph, and the global store of the scopes. -/
structure LifetimeSystem where
  flow : FlowState
  scopes : ScopeStore

/-- What a call of the runtime makes of the facet graph. -/
noncomputable def FlowState.acted (state : FlowState) (env : FlowEnv) (c : Call) : FlowState :=
  ((exec env c state.unguarded).elim state (·.2))

/-- What happens to facets and scopes. An action on a facet saves the graph and notifies
the loop, and both can fail. -/
inductive LifetimeStep where
  | upsert (scope : Ustr) (attributes : AList fun _ : Ustr => String)
      (lifetimeState : Option Ustr)
  | removeScope (scope : Ustr)
  | setFacet (env : FlowEnv) (name : Ustr) (payload : Option FlowPayload)
  | removeFacet (env : FlowEnv) (name : Ustr) (filter : Option FlowMatchOperation)
      (saved notified : Except CoreError Unit)

/-- The scopes after the facet graph has been changed. -/
def endScope (facets : Facets) (name : Ustr) (scopes : ScopeStore) : ScopeStore :=
  if (facets.instances name).isEmpty then
    match scopes.scopeForState name with
    | some scope => (scopes.removeScope scope).2
    | none => scopes
  else scopes

/-- Whether an action on a facet gets past its checks: the graph is saved, and then the loop
is notified. -/
def finishes (saved notified : Except CoreError Unit) : Except CoreError Unit :=
  saved.bind fun _ => notified

/-- The action `remove_facet`. Removing a facet never fails itself. -/
noncomputable def LifetimeSystem.removeFacet (system : LifetimeSystem) (env : FlowEnv)
    (name : Ustr) (filter : Option FlowMatchOperation) (saved notified : Except CoreError Unit) :
    Except CoreError Unit × LifetimeSystem :=
  let flow := system.flow.acted env (.removeFacet name filter)
  match finishes saved notified with
  | .ok () => (.ok (), { flow, scopes := endScope flow.facets name system.scopes })
  | .error error => (.error error, { system with flow })

noncomputable def LifetimeSystem.step (system : LifetimeSystem) : LifetimeStep → LifetimeSystem
  | .upsert scope attributes state =>
      { system with scopes := system.scopes.upsert scope attributes state }
  | .removeScope scope => { system with scopes := (system.scopes.removeScope scope).2 }
  | .setFacet env name payload =>
      { system with flow := system.flow.acted env (.setFacet name payload) }
  | .removeFacet env name filter saved notified =>
      (system.removeFacet env name filter saved notified).2

/-! ## Scopes and their facets -/

/-- A call that was made since removes a facet, which has no branches now. -/
def Ends (before after : FlowState) (facet : Ustr) : Prop :=
  (∃ record ∈ after.calls.drop before.calls.length,
    ∃ filter, record.call = .removeFacet facet filter) ∧
  after.facets.instances facet = []

/-- The scopes of the facets that were ended are gone, and those of facets with branches
are not. -/
structure EndsScopes (before after : LifetimeSystem) : Prop where
  ended : ∀ facet, Ends before.flow after.flow facet →
    ∀ scope, after.scopes.lifetimeOf scope ≠ some facet
  kept : ∀ scope facet, before.scopes.lifetimeOf scope = some facet →
    scope ∉ after.scopes.scopes → after.flow.facets.instances facet = []

/-- The property of the claim at a step of a run. -/
def RemovesScopes (system : LifetimeSystem) : LifetimeStep → Prop
  | .removeFacet env name filter saved notified =>
      EndsScopes system (system.removeFacet env name filter saved notified).2
  | _ => True

/-- A facet that the cascade of a removal ends is the lifetime of no scope, except for
the facet itself, of which the store finds the only scope, if nothing fails. -/
def EndsOneScope (system : LifetimeSystem) : LifetimeStep → Prop
  | .removeFacet env name filter saved notified =>
      ∀ facet, Ends system.flow (system.flow.acted env (.removeFacet name filter)) facet →
        ∀ scope, system.scopes.lifetimeOf scope = some facet →
          finishes saved notified = .ok () ∧ facet = name ∧
            system.scopes.scopeForState name = some scope
  | _ => True

theorem flow_removeFacet (system : LifetimeSystem) (env : FlowEnv) (name : Ustr)
    (filter : Option FlowMatchOperation) (saved notified : Except CoreError Unit) :
    (system.removeFacet env name filter saved notified).2.flow =
      system.flow.acted env (.removeFacet name filter) := by
  rw [LifetimeSystem.removeFacet]
  split <;> rfl

/-- The action removes the scope that the store finds, if it gets that far. -/
theorem scopes_removeFacet {system : LifetimeSystem} {env : FlowEnv} {name : Ustr}
    {filter : Option FlowMatchOperation} {saved notified : Except CoreError Unit} :
    (system.removeFacet env name filter saved notified).2.scopes = system.scopes ∨
      finishes saved notified = .ok () ∧
      (system.flow.acted env (.removeFacet name filter)).facets.instances name = [] ∧
      ∃ scope, system.scopes.scopeForState name = some scope ∧
        (system.removeFacet env name filter saved notified).2.scopes =
          (system.scopes.removeScope scope).2 := by
  rw [LifetimeSystem.removeFacet]
  split
  · dsimp only [endScope]
    split
    · next ended =>
        cases found : system.scopes.scopeForState name with
        | none => exact .inl rfl
        | some scope => exact .inr ⟨by assumption, List.isEmpty_iff.mp ended, scope, rfl, rfl⟩
    · exact .inl rfl
  · exact .inl rfl

/-- The scope that the store finds is removed with the facet, if nothing fails. -/
theorem scopes_removeFacet_of_ended {system : LifetimeSystem} {env : FlowEnv} {name scope : Ustr}
    {filter : Option FlowMatchOperation} {saved notified : Except CoreError Unit}
    (finished : finishes saved notified = .ok ())
    (ended : (system.flow.acted env (.removeFacet name filter)).facets.instances name = [])
    (found : system.scopes.scopeForState name = some scope) :
    (system.removeFacet env name filter saved notified).2.scopes =
      (system.scopes.removeScope scope).2 := by
  simp [LifetimeSystem.removeFacet, endScope, finished, ended, found]

/-- A removal ends the right scopes exactly if it has one scope at most to end, which the
store finds. -/
theorem removesScopes_iff {system : LifetimeSystem} (tied : system.scopes.Tied)
    (step : LifetimeStep) : RemovesScopes system step ↔ EndsOneScope system step := by
  cases step with
  | removeFacet env name filter saved notified =>
      have flow := flow_removeFacet system env name filter saved notified
      constructor
      · rintro ⟨gone, -⟩ facet ended scope lives
        rw [flow] at gone
        have gone := gone facet ended scope
        rcases scopes_removeFacet with same | ⟨finished, -, found, isFound, removed⟩
        · exact absurd lives (same ▸ gone)
        · rw [removed, ScopeStore.lifetimeOf_removeScope] at gone
          have own : scope = found := by
            by_contra apart
            rw [if_neg apart] at gone
            exact gone lives
          subst own
          have states := (tied name scope isFound).symm.trans lives
          exact ⟨finished, (Option.some.inj states).symm, isFound⟩
      · intro one
        constructor
        · rw [flow]
          intro facet ended scope lives
          have before : system.scopes.lifetimeOf scope = some facet := by
            rcases scopes_removeFacet with same | ⟨-, -, found, -, removed⟩
            · rwa [same] at lives
            · rw [removed, ScopeStore.lifetimeOf_removeScope] at lives
              split at lives
              · cases lives
              · exact lives
          obtain ⟨finished, rfl, found⟩ := one facet ended scope before
          rw [scopes_removeFacet_of_ended finished ended.2 found, ScopeStore.lifetimeOf_removeScope,
            if_pos rfl] at lives
          cases lives
        · rw [flow]
          intro scope facet lives gone
          rcases scopes_removeFacet with same | ⟨-, ended, found, isFound, removed⟩
          · rw [same, ← AList.lookup_eq_none] at gone
            simp [ScopeStore.lifetimeOf, gone] at lives
          · rw [removed, ← AList.lookup_eq_none, ScopeStore.lookup_removeScope] at gone
            split at gone
            · next own =>
                subst own
                have states := (tied name scope isFound).symm.trans lives
                rw [← Option.some.inj states, ended]
            · simp [ScopeStore.lifetimeOf, gone] at lives
  | upsert => exact Iff.rfl
  | removeScope => exact Iff.rfl
  | setFacet => exact Iff.rfl

/-- Every step keeps the store tied. -/
theorem tied_step {system : LifetimeSystem} (tied : system.scopes.Tied) (step : LifetimeStep) :
    (system.step step).scopes.Tied := by
  cases step with
  | upsert scope attributes state => exact tied.upsert scope attributes state
  | removeScope scope => exact tied.removeScope scope
  | setFacet => exact tied
  | removeFacet env name filter saved notified =>
      rw [LifetimeSystem.step]
      rcases scopes_removeFacet with same | ⟨-, -, scope, -, removed⟩
      · rw [same]
        exact tied
      · rw [removed]
        exact tied.removeScope scope

/-- The removals of a run end the right scopes exactly if each of them has one scope at
most to end, which the store finds. -/
theorem scopes_end_iff (flow : FlowState) (steps : List LifetimeStep) :
    Along LifetimeSystem.step RemovesScopes ⟨flow, .empty⟩ steps ↔
      Along LifetimeSystem.step EndsOneScope ⟨flow, .empty⟩ steps := by
  have keeps : ∀ (system : LifetimeSystem) (step : LifetimeStep),
      system.scopes.Tied → (system.step step).scopes.Tied := fun _ step tied => tied_step tied step
  apply along_congr keeps
  · exact fun system step tied => removesScopes_iff tied step
  · exact ScopeStore.empty_tied

end Lifetimes

/-! ## The scope of a facet that follows -/

section Follower

open scoped Rind.Compact

/-- A facet that follows the user. -/
def guestFacet : FlowFacetMetadata :=
  { userFacet with name := "guest", after := some [.simple "rind:user"] }

def guestEnv : FlowEnv := .load (.ofGroup "static" "rind" [userFacet, guestFacet]) none

/-- The user and the facet that follows it are both set. -/
def guestState : FlowState :=
  (FlowState.empty.put "rind:user" [⟨"rind:user", .json ⟨"\x7b\"id\":1\x7d"⟩, .facet⟩]).put
    "rind:guest" [⟨"rind:guest", .json ⟨"\x7b\"id\":1\x7d"⟩, .facet⟩]

/-- The filter that the follower is removed with. -/
def guestFilter : Option FlowMatchOperation :=
  some (.options none none (some (.obj [("id", .num (.int 1))])))

theorem ends_guest :
    Ends guestState (guestState.acted guestEnv (.removeFacet "rind:user" none)) "rind:guest" := by
  have ran : (run guestEnv 6 (.removeFacet "rind:user" none) guestState.unguarded).map
      (fun outcome => (outcome.2.facets.instances "rind:guest", outcome.2.calls.map (·.call))) =
        some ([], [.removeFacet "rind:user" none, .removeFacet "rind:guest" guestFilter]) := by
    decide +kernel
  obtain ⟨⟨result, final⟩, finished, checked⟩ := Option.map_eq_some_iff.mp ran
  obtain ⟨stored, called⟩ := Prod.mk.inj checked
  have ended : exec guestEnv (.removeFacet "rind:user" none) guestState.unguarded =
      some (result, final) :=
    exec_of_run finished
  rw [FlowState.acted, ended, Option.elim_some]
  have listed : Call.removeFacet "rind:guest" guestFilter ∈ final.calls.map (·.call) := by
    rw [called]
    exact List.mem_cons_of_mem _ List.mem_cons_self
  obtain ⟨record, made, same⟩ := List.mem_map.mp listed
  exact ⟨⟨record, made, guestFilter, same⟩, stored⟩

/-- The scope of a facet that ends with another one stays. -/
theorem not_scopes_end_guest :
    ¬ ∀ (flow : FlowState) (steps : List LifetimeStep),
      Along LifetimeSystem.step RemovesScopes ⟨flow, .empty⟩ steps := by
  intro ends
  have removes := (ends guestState [.upsert "visit" ∅ (some "rind:guest"),
    .removeFacet guestEnv "rind:user" none (.ok ()) (.ok ())]).2.1
  refine removes.ended "rind:guest" ?_ "visit" ?_
  · rw [flow_removeFacet]
    exact ends_guest
  · rcases scopes_removeFacet with same | ⟨-, -, scope, found, -⟩
    · rw [same]
      decide +kernel
    · have none : (ScopeStore.empty.upsert "visit" ∅ (some "rind:guest")).scopeForState
          "rind:user" = none := by decide +kernel
      cases none.symm.trans found

end Follower

end Rind
