import Rind.Flow.Leaf
import Rind.Flow.StopOn

/-!
# Setting a branch and removing it again

A branch of a source is set and then removed, and one facet comes after the
source.  The set call derives a payload for the facet and stores it, and the
remove call removes every instance that contains the derived payload.  This
takes back what the set call did, and instances that had contained the payload
before are removed with it.
-/

namespace Rind

open OrderedFields Prog SerdeJson

/-! ## The derived branch -/

section Derived

variable [SerdeJson] {facet : FlowFacetMetadata} {specs : List Ustr}

/-- A payload derived by branch specs is an object with exactly their target keys. -/
structure Derived (specs : List Ustr) (payload : FlowPayload) (fields : List (String × Json)) :
    Prop where
  printed : payload = .json ⟨toText (.obj fields)⟩
  legal : Legal (.obj fields)
  keys : ∀ member ∈ fields, member.1 ∈ specs.map branchTargetKey
  present : ∀ key ∈ specs.map branchTargetKey, (fields.lookup key).isSome

theorem derived_of_derivedPayload [TomlText] {env : FlowEnv} {source : FlowInstance}
    {payload : FlowPayload} (json : facet.payload = .json) (branch : facet.branch = some specs)
    (derives : derivedPayload env facet source = some payload) :
    ∃ fields, Derived specs payload fields := by
  rw [derivedPayload] at derives
  split at derives
  · obtain ⟨sourcePayload, -, made⟩ := payloadFrom_cases derives
    simp only [transcendentPayloadFor, json, branch] at made
    obtain ⟨sourceJson, members, fields, -, object, mapped, rfl⟩ := mapJsonPayload_cases made
    refine ⟨fields, rfl, mapFields_legal (object ▸ sourceJson.intoJson_legal) mapped, ?_, ?_⟩
    · intro member inside
      rcases mem_mapFields mapped inside with old | ⟨spec, listed, same, -⟩
      · contradiction
      · exact same ▸ List.mem_map_of_mem listed
    · intro key listed
      obtain ⟨spec, isSpec, rfl⟩ := List.mem_map.mp listed
      exact (lookup_mapFields_isSome mapped).2 spec isSpec
  · contradiction

namespace Derived

variable {payload : FlowPayload} {fields : List (String × Json)}

/-- The value of a derived payload. -/
theorem intoJson (derived : Derived specs payload fields) :
    FlowJson.intoJson ⟨toText (.obj fields)⟩ = .obj fields :=
  FlowJson.intoJson_toText derived.legal

/-- A derived payload has all branch keys of the facet it is derived for. -/
theorem keyed (derived : Derived specs payload fields) :
    ∃ key, jsonBranchKey (.obj fields) (specs.map branchTargetKey) = some key :=
  Option.isSome_iff_exists.mp (jsonBranchKey_isSome.mpr ⟨fields, rfl, derived.present⟩)

/-- The filter of a derived payload removes an object that has its members. -/
theorem removes_of_lookup (derived : Derived specs payload fields) {name : Ustr}
    {type : FlowType} {json : FlowJson} {members : List (String × Json)}
    (object : json.intoJson = .obj members)
    (holds : ∀ member ∈ fields, members.lookup member.1 = some member.2) :
    removes (payloadToFilter payload) ⟨name, .json json, type⟩ := by
  have contained : subsetMatch (.obj fields) (.obj members) := by
    refine subsetMatch_obj.mpr fun member inside => ⟨member.2, holds member inside, ?_⟩
    exact subsetMatch_self _ (derived.legal.of_mem inside).2
  simpa [removes, derived.printed, payloadToFilter, matchOperation, FlowPayload.toJson,
    derived.intoJson, object] using contained

/-- A stored branch with the key of a derived payload contains it. -/
theorem removes_old (derived : Derived specs payload fields) {old : FlowInstance}
    {key : List String} (oldKeyed : storedKey (specs.map branchTargetKey) old = some key)
    (newKeyed : jsonBranchKey (.obj fields) (specs.map branchTargetKey) = some key) :
    removes (payloadToFilter payload) old := by
  obtain ⟨json, stored, isJson, object, keyed⟩ := storedKey_eq_some oldKeyed
  obtain ⟨name, oldPayload, type⟩ := old
  cases isJson
  refine derived.removes_of_lookup object fun member inside => ?_
  rw [lookup_eq_of_branchKey (object ▸ json.intoJson_legal) derived.legal keyed newKeyed
    (derived.keys member inside)]
  exact derived.legal.ordered.lookup_of_mem inside

/-- It still does after the payload was merged into it, where no target key
forces a member. -/
theorem removes_merged (derived : Derived specs payload fields)
    (unforced : ∀ spec ∈ specs, Text.stripPrefix "&" (branchTargetKey spec) = none)
    {old : FlowInstance} {key : List String}
    (oldKeyed : storedKey (specs.map branchTargetKey) old = some key)
    (newKeyed : jsonBranchKey (.obj fields) (specs.map branchTargetKey) = some key) :
    removes (payloadToFilter payload) (mergeInto ⟨toText (.obj fields)⟩ old) := by
  obtain ⟨json, stored, isJson, object, keyed⟩ := storedKey_eq_some oldKeyed
  have storedLegal : Legal (.obj stored) := object ▸ json.intoJson_legal
  rw [mergeInto_eq isJson object derived.intoJson]
  refine derived.removes_of_lookup (intoJson_merged object derived.intoJson) fun member inside => ?_
  have held : fields.lookup member.1 = some member.2 :=
    derived.legal.ordered.lookup_of_mem inside
  have before : stored.lookup member.1 = some member.2 := by
    rw [lookup_eq_of_branchKey storedLegal derived.legal keyed newKeyed
      (derived.keys member inside), held]
  obtain ⟨value, merged⟩ := Option.isSome_iff_exists.mp
    (lookup_mergeFields_isSome (Option.isSome_of_eq_some before))
  rw [merged]
  rcases mem_mergeFields (mem_of_lookup merged) with kept | ⟨other, added, named⟩
  · rw [← before, storedLegal.ordered.lookup_of_mem kept]
  · rcases named with same | stripped
    · rw [← held, same, derived.legal.ordered.lookup_of_mem added]
    · obtain ⟨spec, listed, rfl⟩ := List.mem_map.mp (derived.keys _ added)
      rw [unforced spec listed] at stripped
      contradiction

/-- The store step of a derived payload succeeds, and what its filter keeps of the
facet is what it kept before. -/
theorem store (derived : Derived specs payload fields) (branch : facet.branch = some specs)
    (unforced : ∀ spec ∈ specs, Text.stripPrefix "&" (branchTargetKey spec) = none)
    (name : Ustr) (entry : List FlowInstance) :
    ∃ branches, storeInstance facet (freshInstance name (some payload)) entry = some branches ∧
      branches.filter (!removes (payloadToFilter payload) ·) =
        entry.filter (!removes (payloadToFilter payload) ·) := by
  obtain ⟨key, keyed⟩ := derived.keyed
  have keys : branchKeys facet = specs.map branchTargetKey := by rw [branchKeys, branch]
  refine ⟨mergeBranch (specs.map branchTargetKey) key ⟨toText (.obj fields)⟩
    (freshInstance name (some payload)) entry, ?_, filter_mergeBranch ?_ ?_⟩
  · have isJson : (freshInstance name (some payload)).payload =
        .json ⟨toText (.obj fields)⟩ := derived.printed
    simp [storeInstance, isJson, derived.intoJson, keys, keyed]
  · have removed : removes (payloadToFilter payload) (freshInstance name (some payload)) := by
      cases filter : payloadToFilter payload with
      | none => rfl
      | some filter => exact matchOperation_self filter
    rw [removed, Bool.not_true]
  · intro old _ oldKeyed
    rw [derived.removes_old oldKeyed keyed, derived.removes_merged unforced oldKeyed keyed]
    exact ⟨rfl, rfl⟩

end Derived

end Derived

/-! ## A source and a facet after it -/

section Unmatched

variable [SerdeJson] [TomlText]

/-- Whether an instance stays when the payload derived from a change is removed. -/
def unmatched (env : FlowEnv) (facet : FlowFacetMetadata) (changed branch : FlowInstance) : Bool :=
  !(derivedPayload env facet changed).any fun payload => removes (payloadToFilter payload) branch

theorem filter_unmatched_none {env : FlowEnv} {facet : FlowFacetMetadata} {changed : FlowInstance}
    (derives : derivedPayload env facet changed = none) (branches : List FlowInstance) :
    branches.filter (unmatched env facet changed) = branches := by
  rw [List.filter_eq_self]
  simp [unmatched, derives]

theorem unmatched_some {env : FlowEnv} {facet : FlowFacetMetadata} {changed : FlowInstance}
    {payload : FlowPayload} (derives : derivedPayload env facet changed = some payload) :
    unmatched env facet changed = (!removes (payloadToFilter payload) ·) := by
  funext branch
  simp [unmatched, derives]

end Unmatched

/-- A JSON facet with branch specs that comes after a JSON source, where no other
facet depends on either. -/
structure AfterPair (env : FlowEnv) (source target : Ustr) (sourceFacet facet : FlowFacetMetadata)
    (specs : List Ustr) : Prop where
  indexed : env.Indexed
  sourceFound : env.find source = some sourceFacet
  sourceJson : sourceFacet.payload = .json
  defines : env.Defines target facet
  json : facet.payload = .json
  branch : facet.branch = some specs
  after : source ∈ afterSources facet
  distinct : source ≠ target
  alone : ∀ item ∈ env.metadata.allItems,
    (source ∈ afterSources item.2 → rslvns item.1 item.2.name = target) ∧
      target ∉ afterSources item.2 ∧ source ∉ stopOnSources item.2 ∧ target ∉ stopOnSources item.2

namespace AfterPair

variable [SerdeJson] [TomlText] {env : FlowEnv} {source target : Ustr}
  {sourceFacet facet : FlowFacetMetadata} {specs : List Ustr}
  (pair : AfterPair env source target sourceFacet facet specs)
include pair

omit [SerdeJson] [TomlText] in
theorem targets_source : targetsOf env.runtime.transcendenceIndex source = [target] := by
  apply List.perm_singleton.mp
  rw [List.perm_ext_iff_of_nodup pair.indexed.nodup_transcendence (List.nodup_singleton _)]
  intro other
  rw [List.mem_singleton]
  constructor
  · intro listed
    obtain ⟨item, member, named, rfl⟩ := pair.indexed.transcendence_mem_iff.mp listed
    exact (pair.alone item member).1 named
  · rintro rfl
    exact pair.indexed.transcendence_mem pair.defines pair.after

omit [SerdeJson] [TomlText] in
theorem stops_source : targetsOf env.runtime.inverseTranscendenceIndex source = [] := by
  refine List.eq_nil_iff_forall_not_mem.mpr fun other listed => ?_
  obtain ⟨item, member, named, -⟩ := pair.indexed.inverse_mem_iff.mp listed
  exact (pair.alone item member).2.2.1 named

omit [SerdeJson] [TomlText] in
theorem leaf : dependents env target = [] := by
  refine List.eq_nil_iff_forall_not_mem.mpr fun other listed => ?_
  rcases List.mem_append.mp listed with listed | listed
  · obtain ⟨item, member, named, -⟩ := pair.indexed.transcendence_mem_iff.mp listed
    exact (pair.alone item member).2.1 named
  · obtain ⟨item, member, named, -⟩ := pair.indexed.inverse_mem_iff.mp listed
    exact (pair.alone item member).2.2.2 named

/-- What the change of the source sets off is the call on the derived payload. -/
theorem reconcile_eq (call : Call → FlowProg Unit) {changed : FlowInstance} (action : FlowAction)
    (same : changed.name = source) :
    reconcileTranscendence env call changed action =
      match derivedPayload env facet changed with
      | none => pure ()
      | some payload =>
          match action with
          | .apply => call (.setFacet target (some payload))
          | .revert => call (.removeFacet target (payloadToFilter payload)) := by
  rw [reconcileTranscendence_single (same ▸ pair.targets_source),
    transcendentCall_eq pair.defines.found]
  cases derivedPayload env facet changed <;> cases action <;> rfl

/-- What the apply of the source does to the facet. -/
theorem apply_source
    (unforced : ∀ spec ∈ specs, Text.stripPrefix "&" (branchTargetKey spec) = none)
    {changed : FlowInstance} (same : changed.name = source) {state final : FlowState}
    {result : Except CoreError Unit}
    (ran : applyCascade env (exec env) changed state = some (result, final)) :
    result = .ok () ∧
      (∀ other ≠ target, final.facets.instances other = state.facets.instances other) ∧
      (final.facets.instances target).filter (unmatched env facet changed) =
        (state.facets.instances target).filter (unmatched env facet changed) := by
  rw [applyCascade, pair.reconcile_eq _ _ same, reconcileInverse_nil (same ▸ pair.stops_source),
    bind_pure_unit] at ran
  cases derives : derivedPayload env facet changed with
  | none =>
      rw [derives] at ran
      cases ran
      exact ⟨rfl, fun _ _ => rfl, rfl⟩
  | some payload =>
      rw [derives] at ran
      obtain ⟨fields, derived⟩ := derived_of_derivedPayload pair.json pair.branch derives
      obtain ⟨branches, stored, kept⟩ := derived.store pair.branch unforced target
        (state.facets.instances target)
      have typed : payloadTypeOk facet.payload (freshInstance target (some payload)).payload := by
        simp [pair.json, freshInstance, derived.printed, payloadTypeOk]
      obtain ⟨rfl, unchanged | inserted⟩ :=
        exec_setFacet_leaf pair.leaf pair.defines.found typed stored ran
      · rw [unchanged]
        exact ⟨rfl, fun _ _ => rfl, rfl⟩
      · rw [inserted]
        refine ⟨rfl, fun other apart => Facets.instances_insert_of_ne _ apart _, ?_⟩
        rw [Facets.instances_insert_self]
        rw [unmatched_some derives, kept]

/-- The set call appends its branch to the source, and changes no instance of the
facet that the derived payload does not match. -/
theorem set_source
    (unforced : ∀ spec ∈ specs, Text.stripPrefix "&" (branchTargetKey spec) = none)
    {payload : FlowJson} {key : List String} {state middle : FlowState}
    {result : Except CoreError Unit} (unguarded : state.guard = ∅)
    (keyed : jsonBranchKey payload.intoJson (branchKeys sourceFacet) = some key)
    (absent : ∀ branch ∈ state.facets.instances source,
      storedKey (branchKeys sourceFacet) branch ≠ some key)
    (ran : exec env (.setFacet source (some (.json payload))) state = some (result, middle)) :
    result = .ok () ∧
      middle.facets.instances source =
        state.facets.instances source ++ [freshInstance source (some (.json payload))] ∧
      (middle.facets.instances target).filter
          (unmatched env facet (freshInstance source (some (.json payload)))) =
        (state.facets.instances target).filter
          (unmatched env facet (freshInstance source (some (.json payload)))) := by
  have stored : storeInstance sourceFacet (freshInstance source (some (.json payload)))
      (state.facets.instances source) =
        some (state.facets.instances source ++ [freshInstance source (some (.json payload))]) := by
    simp [storeInstance, freshInstance, keyed, mergeBranch_of_absent absent]
  have typed : payloadTypeOk sourceFacet.payload
      (freshInstance source (some (.json payload))).payload := by
    simp [pair.sourceJson, freshInstance, payloadTypeOk]
  obtain ⟨cascaded, cascade, facets⟩ :=
    exec_setFacet_stored (by simp [unguarded]) pair.sourceFound typed stored ran
  obtain ⟨ok, others, kept⟩ := pair.apply_source unforced rfl cascade
  rw [facets]
  refine ⟨ok, ?_, ?_⟩
  · rw [others source pair.distinct, storedState, FlowState.put_facets,
      Facets.instances_insert_self]
  · rw [kept, storedState, FlowState.put_facets,
      Facets.instances_insert_of_ne _ pair.distinct.symm]
    rfl

/-- What the revert of the source does to the facet. -/
theorem revert_source {changed : FlowInstance} (same : changed.name = source)
    {state final : FlowState} {result : Except CoreError Unit} (named : SelfNamed state)
    (fresh : revertKey { changed with type := .facet } ∉ state.guard)
    (ran : revertBranch env (exec env) source changed state = some (result, final)) :
    (∀ other ≠ target, final.facets.instances other = state.facets.instances other) ∧
      final.facets.instances target = (state.facets.instances target).filter
        (unmatched env facet { changed with type := .facet }) := by
  have reverted {middle : FlowState} {inner : Except CoreError Unit}
      (cascade : reconcileTranscendence env (exec env) { changed with type := .facet } .revert
        (revertAnnounced env source { changed with type := .facet } state) =
          some (inner, middle)) :
      (∀ other ≠ target, middle.facets.instances other = state.facets.instances other) ∧
        middle.facets.instances target = (state.facets.instances target).filter
          (unmatched env facet { changed with type := .facet }) := by
    have changedNamed : { changed with type := .facet : FlowInstance }.name = source := same
    rw [pair.reconcile_eq _ _ changedNamed] at cascade
    cases derives : derivedPayload env facet { changed with type := .facet } with
    | none =>
        rw [derives] at cascade
        cases cascade
        exact ⟨fun _ _ => rfl, (filter_unmatched_none derives _).symm⟩
    | some payload =>
        rw [derives] at cascade
        have targetNamed : ∀ branch ∈ (revertAnnounced env source
            { changed with type := .facet } state).facets.instances target,
            branch.name = target := named target
        obtain ⟨kept, others⟩ := exec_removeFacet_leaf pair.leaf targetNamed cascade
        refine ⟨others, ?_⟩
        rw [unmatched_some derives]
        exact kept
  cases revertBranch_cases ran with
  | guarded member => exact absurd member fresh
  | failed _ err _ cascade => exact reverted cascade
  | done _ middle cascade inner last inverse =>
      rw [reconcileInverse_nil (same ▸ pair.stops_source)] at inverse
      cases inverse
      obtain ⟨others, target⟩ := reverted cascade
      exact ⟨others, target⟩

/-- Removing exactly one branch of the source takes away what its derived payload
matches. -/
theorem remove_source {filter : Option FlowMatchOperation} {kept : List FlowInstance}
    {changed : FlowInstance} {state final : FlowState} {result : Except CoreError Unit}
    (named : SelfNamed state) (unguarded : state.guard = ∅) (isFacet : changed.type = .facet)
    (stored : state.facets.instances source = kept ++ [changed])
    (keeps : ∀ branch ∈ kept, removes filter branch = false)
    (drops : removes filter changed = true)
    (ran : exec env (.removeFacet source filter) state = some (result, final)) :
    final.facets.instances source = kept ∧
      final.facets.instances target =
        (state.facets.instances target).filter (unmatched env facet changed) := by
  have removed : (state.facets.instances source).filter (removes filter) = [changed] := by
    rw [stored, List.filter_append, List.filter_eq_nil_iff.mpr (by simpa using keeps)]
    simp [drops]
  have keptAll : keptBranches source filter state = kept := by
    rw [keptBranches, stored, List.filter_append, List.filter_eq_self.mpr (by simpa using keeps)]
    simp [drops]
  have changedNamed : changed.name = source := named source changed (by simp [stored])
  rcases exec_removeFacet ran with ⟨missing, -⟩ | ⟨middle, cascade, rfl⟩
  · simp [Facets.instances, missing] at stored
  · rw [removeCascade, removed, each_singleton] at cascade
    have takenNamed : SelfNamed ((state.record (.removeFacet source filter)).take source) :=
      Named.take named source
    obtain ⟨others, reverted⟩ := pair.revert_source changedNamed takenNamed
      (by simp [unguarded]) cascade
    have same : { changed with type := .facet } = changed := by
      cases changed
      cases isFacet
      rfl
    rw [same, FlowState.take_facets, Facets.instances_erase_of_ne _ pair.distinct.symm] at reverted
    have emptied := others source pair.distinct
    rw [FlowState.take_facets, Facets.instances_erase_self] at emptied
    rw [keptAll, putBack]
    split
    · rename_i none
      exact ⟨emptied.trans (List.isEmpty_iff.mp none).symm, reverted⟩
    · rw [FlowState.put_facets, Facets.instances_insert_self,
        Facets.instances_insert_of_ne _ pair.distinct.symm]
      exact ⟨rfl, reverted⟩

end AfterPair

/-! ## Greetings of sessions -/

section Greetings

open scoped Rind.Compact

/-- A facet that greets every session on its terminal. -/
def greetingFacet : FlowFacetMetadata :=
  { userFacet with
    name := "greeting"
    branch := some ["tty"]
    after := some [.simple "rind:session"] }

def greetingEnv : FlowEnv :=
  .load (.ofGroup "static" "rind" [sessionFacet, greetingFacet]) none

theorem afterPair_greeting :
    AfterPair greetingEnv "rind:session" "rind:greeting" sessionFacet greetingFacet ["tty"] where
  indexed := FlowEnv.load_indexed _ _
  sourceFound := by decide +kernel
  sourceJson := rfl
  defines := ⟨by decide +kernel, "rind", by decide +kernel, by decide +kernel⟩
  json := rfl
  branch := rfl
  after := by decide +kernel
  distinct := by decide
  alone := by decide +kernel

/-- A graph in which two terminals were greeted before any session. -/
def greetedState : FlowState :=
  FlowState.empty.put "rind:greeting"
    [⟨"rind:greeting", ttyPayload "1", .facet⟩, ⟨"rind:greeting", ttyPayload "2", .facet⟩]

theorem selfNamed_greeted : SelfNamed greetedState :=
  FlowState.forall_put (fun name branches => ∀ branch ∈ branches, branch.name = name)
    (by simp) fun _ _ inside => by simp [FlowState.empty, Facets.instances] at inside

def ttyFilter : Option FlowMatchOperation :=
  some (.options none none (some (.obj [("tty", .num (.int 1))])))

end Greetings

end Rind
