import Rind.Flow.Removal

/-!
# Facets without dependents

A call on a facet that no other facet depends on has no cascade.  It does
exactly what its routine does to the entry of the facet.
-/

namespace Rind

open Prog

variable [SerdeJson] [TomlText] {env : FlowEnv} {name : Ustr}

section Reconcile

variable {call : Call → FlowProg Unit} {source : FlowInstance} {action : FlowAction}

theorem reconcileTranscendence_nil
    (none : targetsOf env.runtime.transcendenceIndex source.name = []) :
    reconcileTranscendence env call source action = pure () := by
  rw [reconcileTranscendence]
  split
  · rfl
  · rename_i targets found
    rw [targetsOf, found, Option.getD_some] at none
    rw [none, each_nil]

/-- A source with one facet after it makes at most one call. -/
theorem reconcileTranscendence_single {target : Ustr}
    (single : targetsOf env.runtime.transcendenceIndex source.name = [target]) :
    reconcileTranscendence env call source action =
      match transcendentCall env source action target with
      | none => pure ()
      | some c => call c := by
  rw [reconcileTranscendence]
  split
  · rename_i absent
    simp [targetsOf, absent] at single
  · rename_i targets found
    rw [targetsOf, found, Option.getD_some] at single
    rw [single]
    exact each_singleton _ _

theorem reconcileInverse_nil
    (none : targetsOf env.runtime.inverseTranscendenceIndex source.name = []) :
    reconcileInverseTranscendenceForSource env call source action = pure () := by
  rw [reconcileInverseTranscendenceForSource]
  split
  · rfl
  · rename_i targets found
    rw [targetsOf, found, Option.getD_some] at none
    rw [none, each_nil]

theorem applyCascade_leaf (leaf : dependents env source.name = []) :
    applyCascade env call source = pure () := by
  obtain ⟨transcendence, inverse⟩ := List.append_eq_nil_iff.mp leaf
  rw [applyCascade, reconcileTranscendence_nil transcendence, reconcileInverse_nil inverse]
  rfl

end Reconcile

/-- A set call on a facet without dependents stores its payload, unless its guard
key is taken. -/
theorem exec_setFacet_leaf (leaf : dependents env name = []) {payload : Option FlowPayload}
    {facet : FlowFacetMetadata} {branches : List FlowInstance} {state final : FlowState}
    {result : Except CoreError Unit} (found : env.find name = some facet)
    (typed : payloadTypeOk facet.payload (freshInstance name payload).payload)
    (stored : storeInstance facet (freshInstance name payload) (state.facets.instances name) =
      some branches)
    (ran : exec env (.setFacet name payload) state = some (result, final)) :
    result = .ok () ∧ (final.facets = state.facets ∨
      final.facets = state.facets.insert name branches) := by
  by_cases fresh : applyKey name payload ∈ state.guard
  · rw [exec_eq] at ran
    cases setFacet_cases ran with
    | guarded member => exact ⟨rfl, .inl rfl⟩
    | _ => contradiction
  · obtain ⟨cascaded, cascade, facets⟩ := exec_setFacet_stored fresh found typed stored ran
    rw [applyCascade_leaf leaf] at cascade
    cases cascade
    exact ⟨rfl, .inr facets⟩

/-- A remove call on a facet without dependents leaves the kept branches, and all
other facets alone. -/
theorem exec_removeFacet_leaf (leaf : dependents env name = [])
    {filter : Option FlowMatchOperation} {state final : FlowState}
    {result : Except CoreError Unit}
    (named : ∀ branch ∈ state.facets.instances name, branch.name = name)
    (ran : exec env (.removeFacet name filter) state = some (result, final)) :
    final.facets.instances name = keptBranches name filter state ∧
      ∀ other ≠ name, final.facets.instances other = state.facets.instances other := by
  have noEdge : ∀ branch ∈ state.facets.instances name, dependents env branch.name = [] :=
    fun branch stored => by rw [named branch stored, leaf]
  have acyclic : ¬ DependsOnItself env state name := by
    intro cycle
    obtain ⟨next, edge, -⟩ := Relation.TransGen.head'_iff.mp cycle
    rcases edge with direct | ⟨branch, stored, listed⟩
    · simp [leaf] at direct
    · simp [noEdge branch stored] at listed
  constructor
  · rcases exec_removeFacet ran with ⟨missing, rfl⟩ | ⟨middle, cascade, rfl⟩
    · simp [keptBranches, Facets.instances, missing]
    · rw [putBack]
      split
      · rename_i none
        rw [removeCascade_instances acyclic cascade, List.isEmpty_iff.mp none]
      · rw [FlowState.put_facets, Facets.instances_insert_self]
  · have frame := @frame_invariant _ _ env (fun other => other = name)
      fun _ same dependent listed => by simp [same, leaf] at listed
    refine (frame.exec_within (c := .removeFacet name filter) rfl state ?_ _ _ ran).2
    rintro other branch stored rfl dependent listed
    simp [noEdge branch stored] at listed

end Rind
