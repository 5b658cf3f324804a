import Rind.Flow.Removal

/-!
# Facets that are not set meanwhile

Where no call of a cascade sets a facet, instances of it are only taken away.
A facet is set by transcendence from a source it comes after, or by its
automatic payloads.
-/

namespace Rind

open Prog

section Shrink

variable [SerdeJson] [TomlText] {env : FlowEnv} {target : Ustr}

/-- A facet without automatic payloads is only set by its sources of transcendence. -/
theorem Spawns.ne_setFacet {source : FlowInstance} {action : FlowAction} {c : Call}
    (unset : target ∉ targetsOf env.runtime.transcendenceIndex source.name)
    (manual : ∀ facet, env.find target = some facet → facet.autoPayload = none)
    (spawned : Spawns env source action c) (payload : Option FlowPayload) :
    c ≠ .setFacet target payload := by
  rintro rfl
  cases spawned with
  | transcend listed made =>
      obtain ⟨facet, payload, -, -, -, kind⟩ := transcendentCall_cases made
      rcases kind with ⟨-, same⟩ | ⟨-, same⟩
      · cases same
        exact unset listed
      · cases same
  | start listed found stops member =>
      rw [autoPayloadsFor, manual _ found] at member
      contradiction

/-- A revert sets no facet without automatic payloads. -/
theorem Spawns.revert_ne_setFacet {source : FlowInstance} {c : Call}
    (manual : ∀ facet, env.find target = some facet → facet.autoPayload = none)
    (spawned : Spawns env source .revert c) (payload : Option FlowPayload) :
    c ≠ .setFacet target payload := by
  rintro rfl
  cases spawned with
  | transcend listed made =>
      obtain ⟨facet, payload, -, -, -, kind⟩ := transcendentCall_cases made
      rcases kind with ⟨wrong, -⟩ | ⟨-, same⟩
      · cases wrong
      · cases same
  | start listed found stops member =>
      rw [autoPayloadsFor, manual _ found] at member
      contradiction

/-- Instances of the facet are only taken away. -/
def Shrinks (target : Ustr) (state state' : FlowState) : Prop :=
  (state'.facets.instances target).Sublist (state.facets.instances target)

/-- Calls that do not lead to a set call on the facet only take instances of it
away. -/
theorem shrink_invariant {reached : Ustr → Prop}
    (closed : ∀ name, reached name → ∀ dependent ∈ dependents env name, reached dependent)
    (unset : ∀ name, reached name → target ∉ targetsOf env.runtime.transcendenceIndex name)
    (manual : ∀ facet, env.find target = some facet → facet.autoPayload = none) :
    Invariant env (fun c => reached c.name ∧ ∀ payload, c ≠ .setFacet target payload)
      SelfNamed (Shrinks target) where
  refl _ := List.Sublist.refl _
  trans _ _ _ left right := right.trans left
  quiet state state' quiet named := by
    refine ⟨named.quiet quiet, ?_⟩
    rw [Shrinks, quiet.instances target]
  record _ _ _ named := ⟨named, List.Sublist.refl _⟩
  store name payload facet branches state good _ _ _ stored named := by
    refine ⟨named.store rfl stored, ?_⟩
    have apart : target ≠ name := by
      rintro rfl
      exact good.2 payload rfl
    rw [Shrinks, FlowState.put_facets, Facets.instances_insert_of_ne _ apart]
  take name _ state _ named := by
    refine ⟨named.take name, ?_⟩
    by_cases same : target = name
    · subst same
      rw [Shrinks, FlowState.take_facets, Facets.instances_erase_self]
      exact List.nil_sublist _
    · rw [Shrinks, FlowState.take_facets, Facets.instances_erase_of_ne _ same]
  putBack name filter toKeep state state' _ kept _ named named' shrunk := by
    refine ⟨named.putBack named' fun branch member => ?_, ?_⟩
    · rw [kept] at member
      exact List.mem_of_mem_filter member
    · by_cases same : target = name
      · subst same
        rw [Shrinks, FlowState.put_facets, Facets.instances_insert_self, kept]
        exact List.filter_sublist
      · rw [Shrinks, FlowState.put_facets, Facets.instances_insert_of_ne _ same]
        rwa [Shrinks, FlowState.take_facets, Facets.instances_erase_of_ne _ same] at shrunk
  applied name payload c good spawned :=
    ⟨closed name good.1 _ spawned.name_mem,
      fun payload' => spawned.ne_setFacet (unset name good.1) manual payload'⟩
  reverted name filter branch state c good named stored spawned := by
    have same := named name branch stored
    rw [show branch.name = name from same] at spawned
    exact ⟨closed name good.1 _ spawned.name_mem, fun payload' =>
      spawned.ne_setFacet (unset name good.1) manual payload'⟩

/-- Where the facet is not set meanwhile, a remove call on it leaves exactly the
kept instances. -/
theorem remove_shrinking {good : Call → Prop}
    (invariant : Invariant env good SelfNamed (Shrinks target))
    {filter : Option FlowMatchOperation} (goodCall : good (.removeFacet target filter))
    {state final : FlowState} {result : Except CoreError Unit} (named : SelfNamed state)
    (ran : exec env (.removeFacet target filter) state = some (result, final)) :
    final.facets.instances target = keptBranches target filter state := by
  rcases exec_removeFacet ran with ⟨missing, rfl⟩ | ⟨middle, cascade, rfl⟩
  · simp [keptBranches, Facets.instances, missing]
  · have rounds := invariant.rule.each
      fun branch (member : branch ∈ (state.facets.instances target).filter (removes filter)) =>
        invariant.revertBranch_within target branch fun c spawned =>
          invariant.exec_within (invariant.reverted target filter branch state c goodCall named
            (List.mem_of_mem_filter member) spawned)
    obtain ⟨taken, -⟩ := invariant.take target filter (state.record (.removeFacet target filter))
      goodCall named
    have shrunk := (rounds _ taken _ _ cascade).2
    rw [Shrinks, FlowState.take_facets, Facets.instances_erase_self, List.sublist_nil] at shrunk
    rw [putBack]
    split
    · rename_i none
      rw [shrunk, List.isEmpty_iff.mp none]
    · rw [FlowState.put_facets, Facets.instances_insert_self]

end Shrink

end Rind
