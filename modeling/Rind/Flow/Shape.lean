import Rind.Flow.Invariant
import Rind.Flow.Payloads
import Rind.Flow.Indexes

/-!
# The shape of stored instances

Every instance in the graph has the name it is stored under, the payload type
its definition declares and, for JSON, all its branch keys.  The type and the
keys are checked on incoming payloads only; merged payloads keep them because a
merge drops no key, and the text it prints is read back as the merged object.
-/

namespace Rind

section Shape

variable [SerdeJson]

/-- The payload type a payload belongs to. -/
def FlowPayload.payloadType : FlowPayload → FlowPayloadType
  | .json _ => .json
  | .string _ => .string
  | .bytes _ => .bytes
  | .none _ => .none

omit [SerdeJson] in
theorem payloadTypeOk_iff {expected : FlowPayloadType} {payload : FlowPayload} :
    payloadTypeOk expected payload ↔ payload.payloadType = expected := by
  cases payload <;> rw [payloadTypeOk, beq_iff_eq] <;> exact eq_comm

/-- A JSON payload is an object with all the given keys. -/
def HasKeys (keys : List Ustr) (payload : FlowPayload) : Prop :=
  ∀ json, payload = .json json → ∃ fields, json.intoJson = .obj fields ∧
    ∀ key ∈ keys, (fields.lookup key).isSome

/-- An instance in the shape of its definition. -/
structure Shaped (metadata : MetadataRegistry FlowFacetMetadata) (name : Ustr)
    (branch : FlowInstance) : Prop where
  named : branch.name = name
  defined : ∃ facet, metadata.find "*" name = some facet ∧
    branch.payload.payloadType = facet.payload ∧ HasKeys (branchKeys facet) branch.payload

/-- A stored payload has the branch keys. -/
theorem HasKeys.of_branchKey {keys : List Ustr} {json : FlowJson} {key : List String}
    (keyed : jsonBranchKey json.intoJson keys = some key) : HasKeys keys (.json json) := by
  rintro _ ⟨⟩
  exact jsonBranchKey_isSome.mp (Option.isSome_of_eq_some keyed)

/-- Merging keeps the name, the payload type and the branch keys. -/
theorem Shaped.mergeInto {metadata : MetadataRegistry FlowFacetMetadata} {name : Ustr}
    {old : FlowInstance} (shaped : Shaped metadata name old) {keys : List Ustr}
    {oldKey newKey : List String} (oldKeyed : storedKey keys old = some oldKey)
    {newJson : FlowJson} (newKeyed : jsonBranchKey newJson.intoJson keys = some newKey) :
    Shaped metadata name (mergeInto newJson old) := by
  obtain ⟨named, facet, found, typed, keyed⟩ := shaped
  obtain ⟨json, stored, isJson, storedObject, -⟩ := storedKey_eq_some oldKeyed
  obtain ⟨added, addedObject, -⟩ := jsonBranchKey_isSome.mp (Option.isSome_of_eq_some newKeyed)
  rw [mergeInto_eq isJson storedObject addedObject]
  refine ⟨named, facet, found, ?_, ?_⟩
  · rw [isJson] at typed
    exact typed
  · rintro _ ⟨⟩
    refine ⟨_, intoJson_merged storedObject addedObject, fun key listed => ?_⟩
    obtain ⟨fields, object, present⟩ := keyed json isJson
    rw [storedObject] at object
    cases object
    exact lookup_mergeFields_isSome (present key listed)

/-- The store step keeps the shape. -/
theorem shaped_storeInstance {metadata : MetadataRegistry FlowFacetMetadata} {name : Ustr}
    {payload : Option FlowPayload} {facet : FlowFacetMetadata}
    (found : metadata.find "*" name = some facet)
    (typed : payloadTypeOk facet.payload (freshInstance name payload).payload)
    {entry branches : List FlowInstance} (entryShaped : ∀ branch ∈ entry, Shaped metadata name branch)
    (stored : storeInstance facet (freshInstance name payload) entry = some branches) :
    ∀ branch ∈ branches, Shaped metadata name branch := by
  intro branch inside
  by_cases isJson : ∃ json, (freshInstance name payload).payload = .json json
  · obtain ⟨newJson, isJson⟩ := isJson
    obtain ⟨newKey, keyed, rfl⟩ := storeInstance_json isJson stored
    rcases mem_mergeBranch inside with old | rfl | ⟨old, member, oldKeyed, rfl⟩
    · exact entryShaped branch old
    · exact ⟨rfl, facet, found, payloadTypeOk_iff.mp typed, isJson ▸ .of_branchKey keyed⟩
    · exact (entryShaped old member).mergeInto oldKeyed keyed
  · have other : ∀ json, (freshInstance name payload).payload ≠ .json json :=
      fun json same => isJson ⟨json, same⟩
    rw [storeInstance_other other] at stored
    cases stored
    rw [List.mem_singleton.mp inside]
    exact ⟨rfl, facet, found, payloadTypeOk_iff.mp typed, fun json same => absurd same (other json)⟩

/-- All instances of the graph are in shape. -/
def AllShaped (metadata : MetadataRegistry FlowFacetMetadata) (state : FlowState) : Prop :=
  ∀ name, ∀ branch ∈ state.facets.instances name, Shaped metadata name branch

variable [TomlText]

theorem allShaped_invariant (env : FlowEnv) :
    Invariant env (fun _ => True) (AllShaped env.metadata) (fun _ _ => True) where
  refl _ := trivial
  trans _ _ _ _ _ := trivial
  quiet state state' quiet shaped := by
    refine ⟨fun name branch inside => shaped name branch ?_, trivial⟩
    rwa [← quiet.instances name]
  record _ _ _ shaped := ⟨shaped, trivial⟩
  store name payload facet branches state _ _ found typed stored shaped :=
    ⟨FlowState.forall_put (fun name branches => ∀ branch ∈ branches,
        Shaped env.metadata name branch)
      (shaped_storeInstance found typed (shaped name) stored) shaped, trivial⟩
  take name _ state _ shaped :=
    ⟨FlowState.forall_take (fun name branches => ∀ branch ∈ branches,
        Shaped env.metadata name branch) (by simp) shaped, trivial⟩
  putBack name filter toKeep state state' _ kept _ shaped shaped' _ := by
    refine ⟨FlowState.forall_put (fun name branches => ∀ branch ∈ branches,
        Shaped env.metadata name branch) (fun branch inside => ?_) shaped', trivial⟩
    rw [kept] at inside
    exact shaped name branch (List.mem_of_mem_filter inside)
  applied _ _ _ _ _ := trivial
  reverted _ _ _ _ _ _ _ _ _ := trivial

end Shape

/-! ## A facet of users -/

section Users

open scoped Rind.Compact

/-- A facet that tells its branches apart by the default key `id`. -/
def userFacet : FlowFacetMetadata where
  name := "user"
  payload := .json
  stopOn := none
  after := none
  branch := none
  autoPayload := none
  subscribers := none

def userEnv : FlowEnv := .load (.ofGroup "static" "rind" [userFacet]) none

def setUser (text : String) : Call := .setFacet "rind:user" (some (.json ⟨text⟩))

end Users

end Rind
