import Rind.Flow.Errors
import Mathlib.Logic.Relation

/-!
# What a cascade can reach

A change of a facet is carried on to its dependents only, so a call leaves alone
every facet that no chain of dependencies leads to.  Dependents are found by the
name of the instance that changed.  In reachable graphs this is the name it is
stored under; in others the two are related by `Named`.
-/

namespace Rind

/-- The facets that a change of a name may carry on to. -/
def dependents (env : FlowEnv) (source : Ustr) : List Ustr :=
  targetsOf env.runtime.transcendenceIndex source ++
    targetsOf env.runtime.inverseTranscendenceIndex source

/-- The second name is the first or one that a chain of dependencies leads to. -/
def Reaches (env : FlowEnv) : Ustr → Ustr → Prop :=
  Relation.ReflTransGen fun source target => target ∈ dependents env source

theorem Reaches.closed {env : FlowEnv} {source name : Ustr} (reached : Reaches env source name) :
    ∀ dependent ∈ dependents env name, Reaches env source dependent :=
  fun _ listed => reached.tail listed

/-! ## The names of stored instances -/

/-- Every instance has a name that is allowed where it is stored. -/
def Named (allowed : Ustr → Ustr → Prop) (state : FlowState) : Prop :=
  ∀ name, ∀ branch ∈ state.facets.instances name, allowed name branch.name

/-- A stored instance has the name of its call, or of an instance it replaces. -/
theorem name_of_mem_storeInstance [SerdeJson] {facet : FlowFacetMetadata} {fresh branch : FlowInstance}
    {entry branches : List FlowInstance} (stored : storeInstance facet fresh entry = some branches)
    (inside : branch ∈ branches) :
    branch.name = fresh.name ∨ ∃ old ∈ entry, branch.name = old.name := by
  by_cases isJson : ∃ json, fresh.payload = .json json
  · obtain ⟨newJson, isJson⟩ := isJson
    obtain ⟨newKey, -, rfl⟩ := storeInstance_json isJson stored
    rcases mem_mergeBranch inside with old | rfl | ⟨old, member, -, rfl⟩
    · exact .inr ⟨branch, old, rfl⟩
    · exact .inl rfl
    · refine .inr ⟨old, member, ?_⟩
      rw [mergeInto]
      split <;> rfl
  · rw [storeInstance_other fun json same => isJson ⟨json, same⟩] at stored
    cases stored
    exact .inl (congrArg _ (List.mem_singleton.mp inside))

/-- Every instance is stored under its own name. -/
abbrev SelfNamed : FlowState → Prop := Named fun name stored => stored = name

namespace Named

variable {allowed : Ustr → Ustr → Prop} {state state' : FlowState}

theorem quiet (named : Named allowed state) (quiet : Quiet state state') :
    Named allowed state' := by
  intro name branch stored
  exact named name branch (quiet.instances name ▸ stored)

theorem take (named : Named allowed state) (name : Ustr) : Named allowed (state.take name) :=
  FlowState.forall_take (fun name branches => ∀ branch ∈ branches,
    allowed name branch.name) (by simp) named

/-- Branches that were stored under the name before may be put there. -/
theorem putBack (named : Named allowed state) (named' : Named allowed state') {name : Ustr}
    {branches : List FlowInstance}
    (before : ∀ branch ∈ branches, branch ∈ state.facets.instances name) :
    Named allowed (state'.put name branches) :=
  FlowState.forall_put (fun name branches => ∀ branch ∈ branches, allowed name branch.name)
    (fun branch inside => named name branch (before branch inside)) named'

variable [SerdeJson]

theorem store (named : Named allowed state) {name : Ustr} (self : allowed name name)
    {payload : Option FlowPayload} {facet : FlowFacetMetadata} {branches : List FlowInstance}
    (stored : storeInstance facet (freshInstance name payload) (state.facets.instances name) =
      some branches) : Named allowed (state.put name branches) := by
  refine FlowState.forall_put (fun name branches => ∀ branch ∈ branches,
    allowed name branch.name) (fun branch inside => ?_) named
  rcases name_of_mem_storeInstance stored inside with same | ⟨old, oldIn, same⟩
  · rw [same]
    exact self
  · rw [same]
    exact named name old oldIn

end Named

section Frame

variable [SerdeJson] [TomlText]

/-- A nested call is about a dependent of its source. -/
theorem Spawns.name_mem {env : FlowEnv} {source : FlowInstance} {action : FlowAction} {c : Call}
    (spawned : Spawns env source action c) : c.name ∈ dependents env source.name := by
  cases spawned with
  | transcend listed made =>
      obtain ⟨facet, payload, -, -, -, kind⟩ := transcendentCall_cases made
      rcases kind with ⟨-, rfl⟩ | ⟨-, rfl⟩
      · exact List.mem_append_left _ listed
      · exact List.mem_append_left _ listed
  | start listed found stops member => exact List.mem_append_right _ listed
  | stop filter listed found stops => exact List.mem_append_right _ listed

/-- Calls on a closed set of names leave the instances of all others alone. -/
theorem frame_invariant {env : FlowEnv} {reached : Ustr → Prop}
    (closed : ∀ name, reached name → ∀ dependent ∈ dependents env name, reached dependent) :
    Invariant env (fun c => reached c.name)
      (Named fun name stored => reached name →
        ∀ dependent ∈ dependents env stored, reached dependent)
      (fun state state' => ∀ name, ¬ reached name →
        state'.facets.instances name = state.facets.instances name) where
  refl _ _ _ := rfl
  trans _ _ _ left right name outside := (right name outside).trans (left name outside)
  quiet state state' quiet named := ⟨named.quiet quiet, fun name _ => quiet.instances name⟩
  record _ _ _ named := ⟨named, fun _ _ => rfl⟩
  store name payload facet branches state inside _ _ _ stored named := by
    refine ⟨named.store (closed name) stored, fun other outside => ?_⟩
    have apart : other ≠ name := by
      rintro rfl
      exact outside inside
    rw [FlowState.put_facets, Facets.instances_insert_of_ne _ apart]
  take name _ state inside named := by
    refine ⟨named.take name, fun other outside => ?_⟩
    have apart : other ≠ name := by
      rintro rfl
      exact outside inside
    rw [FlowState.take_facets, Facets.instances_erase_of_ne _ apart]
  putBack name filter toKeep state state' inside kept _ named named' frame := by
    refine ⟨named.putBack named' fun branch member => ?_, fun other outside => ?_⟩
    · rw [kept] at member
      exact List.mem_of_mem_filter member
    · have apart : other ≠ name := by
        rintro rfl
        exact outside inside
      rw [FlowState.put_facets, Facets.instances_insert_of_ne _ apart, frame other outside,
        FlowState.take_facets, Facets.instances_erase_of_ne _ apart]
  applied name payload c inside spawned := closed name inside _ spawned.name_mem
  reverted name filter branch state c inside named stored spawned :=
    named name branch stored inside _ spawned.name_mem

/-- Every call keeps the instances under their own names. -/
theorem selfNamed_invariant (env : FlowEnv) :
    Invariant env (fun _ => True) SelfNamed (fun _ _ => True) where
  refl _ := trivial
  trans _ _ _ _ _ := trivial
  quiet _ _ quiet named := ⟨named.quiet quiet, trivial⟩
  record _ _ _ named := ⟨named, trivial⟩
  store _ _ _ _ _ _ _ _ _ stored named := ⟨named.store rfl stored, trivial⟩
  take name _ _ _ named := ⟨named.take name, trivial⟩
  putBack _ _ _ _ _ _ kept _ named named' _ := by
    refine ⟨named.putBack named' fun branch member => ?_, trivial⟩
    rw [kept] at member
    exact List.mem_of_mem_filter member
  applied _ _ _ _ _ := trivial
  reverted _ _ _ _ _ _ _ _ _ := trivial

omit [SerdeJson] [TomlText] in
theorem selfNamed_empty : SelfNamed .empty := by
  intro name branch inside
  simp [FlowState.empty, Facets.instances] at inside

/-- In a reachable graph every instance is stored under its own name. -/
theorem Reachable.selfNamed {metadata : MetadataRegistry FlowFacetMetadata} {state : FlowState}
    (reachable : Reachable metadata state) : SelfNamed state :=
  Invariant.of_reachable (fun env _ => selfNamed_invariant env) selfNamed_empty reachable

end Frame

end Rind
