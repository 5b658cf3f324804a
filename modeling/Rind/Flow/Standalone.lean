import Rind.Flow.Removal

/-!
# Facets on their own

A facet that depends on no other facet is not changed by the cascade of any call.
A call on it does exactly what its routine does to the instances of the facet, and
no other call changes them.
-/

namespace Rind

open Prog

/-- A facet with a definition that names no other facet. -/
structure Standalone (env : FlowEnv) (name : Ustr) (facet : FlowFacetMetadata) : Prop where
  found : env.find name = some facet
  after : facet.after = none
  stopOn : facet.stopOn = none

namespace Standalone

variable [SerdeJson] [TomlText] {env : FlowEnv} {name : Ustr} {facet : FlowFacetMetadata}
  {state final : FlowState} {result : Except CoreError Unit}

/-- A cascade does not lead to the facet. -/
theorem name_ne (alone : Standalone env name facet) {source : FlowInstance}
    {action : FlowAction} {c : Call} (spawned : Spawns env source action c) : c.name ≠ name := by
  rintro rfl
  cases spawned with
  | transcend listed made =>
      obtain ⟨target, payload, found, afters, -, kind⟩ := transcendentCall_cases made
      rcases kind with ⟨-, rfl⟩ | ⟨-, rfl⟩
      · cases alone.found.symm.trans found
        simp [alone.after] at afters
      · cases alone.found.symm.trans found
        simp [alone.after] at afters
  | start listed found stops member =>
      cases alone.found.symm.trans found
      simp [alone.stopOn] at stops
  | stop filter listed found stops =>
      cases alone.found.symm.trans found
      simp [alone.stopOn] at stops

/-- Calls about other facets leave its instances alone. -/
theorem untouched (alone : Standalone env name facet) :
    Invariant env (·.name ≠ name) (fun _ => True)
      (fun state state' => state'.facets.instances name = state.facets.instances name) where
  refl _ := rfl
  trans _ _ _ left right := right.trans left
  quiet _ _ quiet _ := ⟨trivial, quiet.instances name⟩
  record _ _ _ _ := ⟨trivial, rfl⟩
  store _ _ _ _ _ other _ _ _ _ _ :=
    ⟨trivial, Facets.instances_insert_of_ne _ (Ne.symm other) _⟩
  take _ _ _ other _ := ⟨trivial, Facets.instances_erase_of_ne _ (Ne.symm other)⟩
  putBack _ _ _ _ _ other _ _ _ _ frame := by
    refine ⟨trivial, (Facets.instances_insert_of_ne _ (Ne.symm other) _).trans ?_⟩
    exact frame.trans (Facets.instances_erase_of_ne _ (Ne.symm other))
  applied _ _ _ _ spawned := alone.name_ne spawned
  reverted _ _ _ _ _ _ _ _ spawned := alone.name_ne spawned

theorem exec_other (alone : Standalone env name facet) {c : Call} (other : c.name ≠ name)
    (ran : exec env c state = some (result, final)) :
    final.facets.instances name = state.facets.instances name :=
  (alone.untouched.exec_within other state trivial _ _ ran).2

/-- Setting the facet stores the payload in its instances, whatever the call returns. -/
theorem exec_set (alone : Standalone env name facet) {payload : Option FlowPayload}
    {branches : List FlowInstance} (free : state.guard = ∅)
    (typed : payloadTypeOk facet.payload (freshInstance name payload).payload)
    (stored : storeInstance facet (freshInstance name payload) (state.facets.instances name) =
      some branches)
    (ran : exec env (.setFacet name payload) state = some (result, final)) :
    final.facets.instances name = branches := by
  have unguarded : applyKey name payload ∉ state.guard := by
    rw [free]
    exact Finset.notMem_empty _
  have cascaded {before after : FlowState} {result : Except CoreError Unit}
      (ran : applyCascade env (exec env) (freshInstance name payload)
        (before.put name branches) = some (result, after)) :
      after.facets.instances name = branches := by
    have kept := applyCascade_rule alone.untouched.rule
      (fun c spawned => alone.untouched.exec_within (alone.name_ne spawned)) _ trivial _ _ ran
    rw [kept.2, FlowState.put_facets, Facets.instances_insert_self]
  rw [exec_eq] at ran
  cases setFacet_cases ran with
  | guarded member => exact absurd member unguarded
  | unknown _ absent =>
      rw [alone.found] at absent
      contradiction
  | mismatch _ other found wrong =>
      cases alone.found.symm.trans found
      rw [typed] at wrong
      contradiction
  | unkeyed _ other found _ missing =>
      cases alone.found.symm.trans found
      cases stored.symm.trans missing
  | failed _ other found _ others stored' err _ cascade =>
      cases alone.found.symm.trans found
      cases stored.symm.trans stored'
      exact cascaded cascade
  | done _ other found _ others stored' middle cascade =>
      cases alone.found.symm.trans found
      cases stored.symm.trans stored'
      rw [FlowState.leave_facets]
      exact cascaded cascade

/-- Removing branches of the facet leaves the kept ones. -/
theorem exec_remove (alone : Standalone env name facet) {filter : Option FlowMatchOperation}
    (ran : exec env (.removeFacet name filter) state = some (result, final)) :
    final.facets.instances name = keptBranches name filter state := by
  cases exec_removeFacet_ok ran
  rcases exec_removeFacet ran with ⟨missing, rfl⟩ | ⟨middle, cascade, rfl⟩
  · simp [keptBranches, Facets.instances, missing]
  · have rounds := alone.untouched.rule.each
      fun branch (_ : branch ∈ (state.facets.instances name).filter (removes filter)) =>
        alone.untouched.revertBranch_within name branch fun c spawned =>
          alone.untouched.exec_within (alone.name_ne spawned)
    obtain ⟨-, frame⟩ := rounds _ trivial _ _ cascade
    rw [FlowState.take_facets, Facets.instances_erase_self] at frame
    rw [putBack]
    split
    · next none => rw [frame, List.isEmpty_iff.mp none]
    · rw [FlowState.put_facets, Facets.instances_insert_self]

end Standalone

end Rind
