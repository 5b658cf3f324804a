import Rind.Flow.Shape

/-!
# One branch per key

A JSON facet is meant to hold one instance for each branch key, any other facet
one instance at all.  Pushing a new branch, merging into the branch with the same
key and putting kept branches back all preserve this, with one exception: a
forced member `&k` of the new payload may change the branch key of the branch it
is merged into, to the key of another stored branch.
-/

namespace Rind

section Unique

variable [SerdeJson]

/-- Two instances without a common branch key. -/
def Apart (keys : List Ustr) (left right : FlowInstance) : Prop :=
  ∀ key, storedKey keys left = some key → storedKey keys right ≠ some key

/-- The instances of a facet are told apart by their branch keys. -/
def BranchUnique (facet : FlowFacetMetadata) (branches : List FlowInstance) : Prop :=
  match facet.payload with
  | .json => branches.Pairwise (Apart (branchKeys facet))
  | _ => branches.length ≤ 1

/-- Every defined facet holds one instance per branch key. -/
def AllBranchUnique (metadata : MetadataRegistry FlowFacetMetadata) (state : FlowState) : Prop :=
  ∀ name facet, metadata.find "*" name = some facet →
    BranchUnique facet (state.facets.instances name)

theorem Apart.symm {keys : List Ustr} {left right : FlowInstance}
    (apart : Apart keys left right) : Apart keys right left :=
  fun key rightKeyed leftKeyed => apart key leftKeyed rightKeyed

theorem BranchUnique.sublist {facet : FlowFacetMetadata} {kept branches : List FlowInstance}
    (unique : BranchUnique facet branches) (sublist : kept.Sublist branches) :
    BranchUnique facet kept := by
  rw [BranchUnique] at unique ⊢
  split at unique
  · exact unique.sublist sublist
  · exact sublist.length_le.trans unique

/-- The stored branch that a payload is merged into does not take the branch key
of another stored branch. -/
def MergeKeepsApart (keys : List Ustr) (newJson : FlowJson) (entry : List FlowInstance) : Prop :=
  ∀ newKey, jsonBranchKey newJson.intoJson keys = some newKey →
    ∀ old ∈ entry, storedKey keys old = some newKey →
      ∀ other ∈ entry, storedKey keys other ≠ some newKey →
        Apart keys (mergeInto newJson old) other

/-- The merge step keeps the branches apart. -/
theorem mergeBranch_apart {keys : List Ustr} {newKey : List String} {newJson : FlowJson}
    {fresh : FlowInstance} {entry : List FlowInstance} (unique : entry.Pairwise (Apart keys))
    (freshKeyed : storedKey keys fresh = some newKey)
    (keeps : ∀ old ∈ entry, storedKey keys old = some newKey →
      ∀ other ∈ entry, storedKey keys other ≠ some newKey →
        Apart keys (mergeInto newJson old) other) :
    (mergeBranch keys newKey newJson fresh entry).Pairwise (Apart keys) := by
  induction entry with
  | nil => simp [mergeBranch]
  | cons branch rest ih =>
      obtain ⟨first, tail⟩ := List.pairwise_cons.mp unique
      rw [mergeBranch]
      split
      · rename_i keyed
        refine List.pairwise_cons.mpr ⟨fun other inside => ?_, tail⟩
        exact keeps branch (by simp) keyed other (List.mem_cons_of_mem _ inside)
          (first other inside newKey keyed)
      · rename_i different
        have tailKeeps : ∀ old ∈ rest, storedKey keys old = some newKey →
            ∀ other ∈ rest, storedKey keys other ≠ some newKey →
              Apart keys (mergeInto newJson old) other :=
          fun old oldIn keyed other otherIn =>
            keeps old (List.mem_cons_of_mem _ oldIn) keyed other (List.mem_cons_of_mem _ otherIn)
        refine List.pairwise_cons.mpr ⟨fun other inside => ?_, ih tail tailKeeps⟩
        rcases mem_mergeBranch inside with old | rfl | ⟨old, member, keyed, rfl⟩
        · exact first other old
        · intro key branchKeyed otherKeyed
          rw [freshKeyed] at otherKeyed
          exact different (branchKeyed.trans otherKeyed.symm)
        · exact (keeps old (List.mem_cons_of_mem _ member) keyed branch (by simp)
            different).symm

/-- The condition on one call: where it merges its payload into a stored branch,
the branch keeps apart from the others. -/
def CallRecord.KeepsApart (metadata : MetadataRegistry FlowFacetMetadata) (record : CallRecord) :
    Prop :=
  ∀ name newJson facet, record.call = .setFacet name (some (.json newJson)) →
    applyKey name (some (.json newJson)) ∉ record.guard →
    metadata.find "*" name = some facet → facet.payload = .json →
    MergeKeepsApart (branchKeys facet) newJson (record.facets.instances name)

section Decidable

instance (keys : List Ustr) (left right : FlowInstance) : Decidable (Apart keys left right) :=
  decidable_of_iff (storedKey keys left = none ∨ storedKey keys left ≠ storedKey keys right) <| by
    constructor
    · rintro (none | different) key leftKeyed rightKeyed
      · rw [none] at leftKeyed
        contradiction
      · exact different (leftKeyed.trans rightKeyed.symm)
    · intro apart
      cases leftKeyed : storedKey keys left with
      | none => exact .inl rfl
      | some key => exact .inr fun same => apart key leftKeyed same.symm

instance (facet : FlowFacetMetadata) (branches : List FlowInstance) :
    Decidable (BranchUnique facet branches) :=
  match payload : facet.payload with
  | .json => decidable_of_iff (branches.Pairwise (Apart (branchKeys facet)))
      (by simp only [BranchUnique, payload])
  | .string | .bytes | .none => decidable_of_iff (branches.length ≤ 1)
      (by simp only [BranchUnique, payload])

instance (keys : List Ustr) (newJson : FlowJson) (entry : List FlowInstance) :
    Decidable (MergeKeepsApart keys newJson entry) :=
  match keyed : jsonBranchKey newJson.intoJson keys with
  | none => isTrue fun newKey keyed' => by rw [keyed] at keyed'; contradiction
  | some newKey =>
      decidable_of_iff (∀ old ∈ entry, storedKey keys old = some newKey →
          ∀ other ∈ entry, storedKey keys other ≠ some newKey →
            Apart keys (mergeInto newJson old) other)
        ⟨fun keeps newKey' keyed' => by cases keyed.symm.trans keyed'; exact keeps,
          fun keeps => keeps newKey keyed⟩

instance (metadata : MetadataRegistry FlowFacetMetadata) (record : CallRecord) :
    Decidable (record.KeepsApart metadata) :=
  match made : record.call with
  | .setFacet name (some (.json newJson)) =>
      match found : metadata.find "*" name with
      | some facet =>
          decidable_of_iff (applyKey name (some (.json newJson)) ∉ record.guard →
              facet.payload = .json →
              MergeKeepsApart (branchKeys facet) newJson (record.facets.instances name))
            ⟨fun keeps name' newJson' facet' made' fresh found' => by
                cases made.symm.trans made'
                cases found.symm.trans found'
                exact keeps fresh,
              fun keeps fresh => keeps name newJson facet made fresh found⟩
      | none => isTrue fun name' newJson' facet' made' _ found' => by
          cases made.symm.trans made'
          cases found.symm.trans found'
  | .setFacet _ none | .setFacet _ (some (.string _)) | .setFacet _ (some (.bytes _))
  | .setFacet _ (some (.none _)) | .removeFacet _ _ =>
      isTrue fun name' newJson' facet' made' => by cases made.symm.trans made'

end Decidable

/-- The store step keeps the branches of a facet apart. -/
theorem branchUnique_storeInstance {facet : FlowFacetMetadata} {name : Ustr}
    {payload : Option FlowPayload} {entry branches : List FlowInstance}
    (typed : payloadTypeOk facet.payload (freshInstance name payload).payload)
    (unique : BranchUnique facet entry)
    (keeps : ∀ newJson, payload = some (.json newJson) → facet.payload = .json →
      MergeKeepsApart (branchKeys facet) newJson entry)
    (stored : storeInstance facet (freshInstance name payload) entry = some branches) :
    BranchUnique facet branches := by
  by_cases isJson : ∃ json, payload = some (.json json)
  · obtain ⟨newJson, rfl⟩ := isJson
    have jsonFacet : facet.payload = .json := by
      simpa [freshInstance, payloadTypeOk] using typed
    obtain ⟨newKey, keyed, rfl⟩ := storeInstance_json rfl stored
    simp only [BranchUnique, jsonFacet] at unique ⊢
    exact mergeBranch_apart unique keyed (keeps newJson rfl jsonFacet newKey keyed)
  · have other : ∀ json, (freshInstance name payload).payload ≠ .json json := by
      intro json same
      cases payload with
      | none => contradiction
      | some payload => exact isJson ⟨json, congrArg some same⟩
    rw [storeInstance_other other] at stored
    cases stored
    rw [BranchUnique]
    split
    · simp
    · simp

variable [TomlText]

/-- Calls that meet the condition keep every facet's branches apart. -/
theorem branchUnique_invariant (env : FlowEnv) :
    Invariant env (fun _ => True)
      (fun state => (∀ record ∈ state.calls, record.KeepsApart env.metadata) →
        AllBranchUnique env.metadata state)
      (fun state state' => state.calls ⊆ state'.calls) where
  refl state := List.Subset.refl _
  trans _ _ _ := List.Subset.trans
  quiet state state' quiet unique := by
    refine ⟨fun keeps name facet found => ?_, fun _ => quiet.calls ▸ id⟩
    rw [quiet.instances name]
    exact unique (quiet.calls ▸ keeps) name facet found
  record c state _ unique :=
    ⟨fun keeps => unique fun record inside => keeps record (List.mem_append_left _ inside),
      List.subset_append_left _ _⟩
  store name payload facet branches state _ recorded found typed stored unique := by
    refine ⟨fun keeps => ?_, List.Subset.refl _⟩
    obtain ⟨record, listed, recordedCall, sameEntry, unguarded⟩ := recorded
    refine FlowState.forall_put (fun name branches => ∀ facet,
      env.metadata.find "*" name = some facet → BranchUnique facet branches) ?_ (unique keeps)
    intro facet' found'
    cases found.symm.trans found'
    refine branchUnique_storeInstance typed (unique keeps name facet found) ?_ stored
    rintro newJson rfl jsonFacet
    rw [← sameEntry]
    exact keeps record listed name newJson facet recordedCall unguarded found jsonFacet
  take name _ state _ unique := by
    refine ⟨fun keeps => ?_, List.Subset.refl _⟩
    refine FlowState.forall_take (fun name branches => ∀ facet,
      env.metadata.find "*" name = some facet → BranchUnique facet branches) ?_ (unique keeps)
    intro facet _
    rw [BranchUnique]
    split <;> simp
  putBack name filter toKeep state state' _ kept _ unique unique' grown := by
    refine ⟨fun keeps => ?_, grown⟩
    refine FlowState.forall_put (fun name branches => ∀ facet,
      env.metadata.find "*" name = some facet → BranchUnique facet branches) ?_ (unique' keeps)
    intro facet found
    have before := unique (fun record inside => keeps record (grown inside)) name facet found
    exact before.sublist (kept ▸ List.filter_sublist)
  applied _ _ _ _ _ := trivial
  reverted _ _ _ _ _ _ _ _ _ := trivial

/-- In every run whose merges keep the branches apart, a JSON facet holds one
instance per branch key and any other facet at most one instance. -/
theorem reachable_branchUnique {metadata : MetadataRegistry FlowFacetMetadata}
    {state : FlowState} (reachable : Reachable metadata state)
    (keeps : ∀ record ∈ state.calls, record.KeepsApart metadata) :
    AllBranchUnique metadata state := by
  have empty : (∀ record ∈ FlowState.empty.calls, record.KeepsApart metadata) →
      AllBranchUnique metadata .empty := by
    intro _ name facet found
    rw [BranchUnique]
    split <;> simp [FlowState.empty, Facets.instances]
  have unique : (∀ record ∈ state.calls, record.KeepsApart metadata) →
      AllBranchUnique metadata state :=
    Invariant.of_reachable (fun env same => same ▸ branchUnique_invariant env) empty reachable
  exact unique keeps

end Unique

/-! ## Two users -/

section Users

open scoped Rind.Compact

/-- Two users, the first of them updated by a merge, are kept apart. -/
theorem reachable_branchUnique_users :
    ∃ state, AllBranchUnique userEnv.metadata state ∧
      state.facets.instances "rind:user" =
        [⟨"rind:user", .json ⟨"\x7b\"id\":1,\"tty\":2\x7d"⟩, .facet⟩,
          ⟨"rind:user", .json ⟨"\x7b\"id\":2\x7d"⟩, .facet⟩] := by
  have ran : (replay userEnv 2 [setUser "\x7b\"id\":1\x7d", setUser "\x7b\"id\":2\x7d",
      setUser "\x7b\"id\":1,\"tty\":2\x7d"] .empty).map (fun state =>
        (decide (∀ record ∈ state.calls, record.KeepsApart userEnv.metadata),
          state.facets.instances "rind:user")) =
      some (true, [⟨"rind:user", .json ⟨"\x7b\"id\":1,\"tty\":2\x7d"⟩, .facet⟩,
        ⟨"rind:user", .json ⟨"\x7b\"id\":2\x7d"⟩, .facet⟩]) := by
    decide +kernel
  obtain ⟨state, replayed, checked⟩ := Option.map_eq_some_iff.mp ran
  obtain ⟨keeps, stored⟩ := Prod.mk.inj checked
  exact ⟨state, reachable_branchUnique (.replay .empty replayed) (of_decide_eq_true keeps), stored⟩

/-- A forced member moves the first user onto the key of the second. -/
theorem not_branchUnique_forced :
    ¬ ∀ (metadata : MetadataRegistry FlowFacetMetadata) (state : FlowState),
      Reachable metadata state → AllBranchUnique metadata state := by
  intro unique
  have ran : (replay userEnv 2 [setUser "\x7b\"id\":1\x7d", setUser "\x7b\"id\":2\x7d",
      setUser "\x7b\"&id\":2,\"id\":1\x7d"] .empty).map
        (·.facets.instances "rind:user") =
      some [⟨"rind:user", .json ⟨"\x7b\"id\":2\x7d"⟩, .facet⟩,
        ⟨"rind:user", .json ⟨"\x7b\"id\":2\x7d"⟩, .facet⟩] := by
    decide +kernel
  obtain ⟨state, replayed, stored⟩ := Option.map_eq_some_iff.mp ran
  have apart := unique userEnv.metadata state (.replay .empty replayed) "rind:user" userFacet
    (by decide +kernel)
  rw [stored] at apart
  revert apart
  decide +kernel

end Users

end Rind
