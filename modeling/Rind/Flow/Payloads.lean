import Rind.Flow.Runtime

/-!
# Merged and mapped payloads

What merging and mapping do to the members of JSON objects, and what the store
step of a set call does to the instances of a facet.
-/

namespace Rind

open OrderedFields SerdeJson

/-! ## Merging members -/

section Members

variable {forced : String} {stored added : List (String × Json)}

theorem mergeFields_ordered (ordered : Ordered stored) :
    Ordered (mergeFields forced stored added) := by
  induction added generalizing forced stored with
  | nil => exact ordered
  | cons member rest ih =>
      obtain ⟨key, value⟩ := member
      rw [mergeFields]
      split
      · exact ih ordered
      · split
        · exact ih (ordered.insert _ _)
        · exact ih (ordered.insert _ _)

/-- A member after a merge is an old one, or one of the new payload under its
own or its forced key. -/
theorem mem_mergeFields {member : String × Json}
    (inside : member ∈ mergeFields forced stored added) :
    member ∈ stored ∨ ∃ key, (key, member.2) ∈ added ∧
      (member.1 = key ∨ Text.stripPrefix "&" key = some member.1) := by
  induction added generalizing forced stored with
  | nil => exact .inl inside
  | cons first rest ih =>
      obtain ⟨key, value⟩ := first
      have later : (∃ other, (other, member.2) ∈ rest ∧
            (member.1 = other ∨ Text.stripPrefix "&" other = some member.1)) →
          member ∈ stored ∨ ∃ other, (other, member.2) ∈ (key, value) :: rest ∧
            (member.1 = other ∨ Text.stripPrefix "&" other = some member.1) := by
        rintro ⟨other, found, named⟩
        exact .inr ⟨other, List.mem_cons_of_mem _ found, named⟩
      rw [mergeFields] at inside
      split at inside
      · rcases ih inside with old | new
        · exact .inl old
        · exact later new
      · split at inside
        · rename_i target stripped
          rcases ih inside with old | new
          · rcases mem_insert old with rfl | old
            · exact .inr ⟨key, by simp, .inr stripped⟩
            · exact .inl old
          · exact later new
        · rcases ih inside with old | new
          · rcases mem_insert old with rfl | old
            · exact .inr ⟨key, by simp, .inl rfl⟩
            · exact .inl old
          · exact later new

theorem lookup_insert_isSome {key other : String} {value : Json}
    (present : (stored.lookup other).isSome) :
    ((insert key value stored).lookup other).isSome := by
  rw [lookup_insert]
  split
  · rfl
  · exact present

/-- A merge drops no key. -/
theorem lookup_mergeFields_isSome {key : String} (present : (stored.lookup key).isSome) :
    ((mergeFields forced stored added).lookup key).isSome := by
  induction added generalizing forced stored with
  | nil => exact present
  | cons member rest ih =>
      obtain ⟨other, value⟩ := member
      rw [mergeFields]
      split
      · exact ih present
      · split
        · exact ih (lookup_insert_isSome present)
        · exact ih (lookup_insert_isSome present)

/-- A merge of members that are not forced writes them over the stored ones. -/
theorem lookup_mergeFields (ordered : Ordered added)
    (unforced : ∀ member ∈ added, member.1 ≠ "" ∧ Text.stripPrefix "&" member.1 = none)
    (key : String) :
    (mergeFields "" stored added).lookup key = (added.lookup key).or (stored.lookup key) := by
  induction added generalizing stored with
  | nil => rfl
  | cons member rest ih =>
      obtain ⟨other, value⟩ := member
      obtain ⟨above, restOrdered⟩ := List.pairwise_cons.mp ordered
      obtain ⟨⟨nonempty, plain⟩, restUnforced⟩ := List.forall_mem_cons.mp unforced
      have step : mergeFields "" stored ((other, value) :: rest) =
          mergeFields "" (insert other value stored) rest := by
        simp only [mergeFields, plain, if_neg (Ne.symm nonempty)]
      rw [step, ih restOrdered restUnforced, lookup_insert, List.lookup_cons]
      by_cases same : key = other
      · subst same
        have later : rest.lookup key = none := by
          cases held : rest.lookup key with
          | none => rfl
          | some value' => exact absurd (above _ (mem_of_lookup held)) (lt_irrefl _)
        simp [later]
      · simp [same, beq_false_of_ne same]

variable {specs : List Ustr} {source mapped fields : List (String × Json)}

theorem mapFields_ordered (ordered : Ordered mapped)
    (made : mapFields specs source mapped = some fields) : Ordered fields := by
  induction specs generalizing mapped with
  | nil => cases made; exact ordered
  | cons spec rest ih =>
      rw [mapFields, Option.bind_eq_bind, Option.bind_eq_some_iff] at made
      obtain ⟨value, -, made⟩ := made
      exact ih (ordered.insert _ _) made

/-- A mapped member has the target key of a spec and the value of its source
key. -/
theorem mem_mapFields (made : mapFields specs source mapped = some fields)
    {member : String × Json} (inside : member ∈ fields) :
    member ∈ mapped ∨ ∃ spec ∈ specs, member.1 = branchTargetKey spec ∧
      (branchSourceKey spec, member.2) ∈ source := by
  induction specs generalizing mapped with
  | nil => cases made; exact .inl inside
  | cons spec rest ih =>
      rw [mapFields, Option.bind_eq_bind, Option.bind_eq_some_iff] at made
      obtain ⟨value, found, made⟩ := made
      rcases ih made with old | ⟨other, listed, named, held⟩
      · rcases mem_insert old with rfl | old
        · exact .inr ⟨spec, by simp, rfl, mem_of_lookup found⟩
        · exact .inl old
      · exact .inr ⟨other, List.mem_cons_of_mem _ listed, named, held⟩

/-- A mapped object has the target keys of all specs. -/
theorem lookup_mapFields_isSome (made : mapFields specs source mapped = some fields) :
    (∀ key, (mapped.lookup key).isSome → (fields.lookup key).isSome) ∧
      ∀ spec ∈ specs, (fields.lookup (branchTargetKey spec)).isSome := by
  induction specs generalizing mapped with
  | nil =>
      cases made
      exact ⟨fun _ present => present, by simp⟩
  | cons spec rest ih =>
      rw [mapFields, Option.bind_eq_bind, Option.bind_eq_some_iff] at made
      obtain ⟨value, -, made⟩ := made
      obtain ⟨kept, present⟩ := ih made
      refine ⟨fun key held => kept key (lookup_insert_isSome held), ?_⟩
      refine List.forall_mem_cons.mpr ⟨kept _ ?_, present⟩
      rw [lookup_insert_self, Option.isSome_some]

end Members

/-! ## Merged and mapped values -/

section Values

variable [SerdeJson]

theorem mergeFields_legal {forced : String} {stored added : List (String × Json)}
    (storedLegal : Legal (.obj stored)) (addedLegal : Legal (.obj added)) :
    Legal (.obj (mergeFields forced stored added)) := by
  apply Json.Legal.obj (mergeFields_ordered storedLegal.ordered)
  rintro ⟨key, value⟩ inside
  rcases mem_mergeFields inside with old | ⟨other, new, -⟩
  · exact storedLegal.of_mem old
  · exact addedLegal.of_mem new

theorem mapFields_legal {specs : List Ustr} {source fields : List (String × Json)}
    (sourceLegal : Legal (.obj source)) (made : mapFields specs source [] = some fields) :
    Legal (.obj fields) := by
  apply Json.Legal.obj (mapFields_ordered (by simp [Ordered]) made)
  rintro ⟨key, value⟩ inside
  rcases mem_mapFields made inside with old | ⟨spec, -, -, held⟩
  · contradiction
  · exact sourceLegal.of_mem held

/-- A mapped payload is the printed object of the mapped members. -/
theorem mapJsonPayload_cases {specs : List Ustr} {source payload : FlowPayload}
    (made : mapJsonPayload specs source = some payload) :
    ∃ json members fields, source = .json json ∧ json.intoJson = .obj members ∧
      mapFields specs members [] = some fields ∧ payload = .json ⟨toText (.obj fields)⟩ := by
  cases source with
  | json json =>
      simp only [mapJsonPayload, Option.bind_eq_bind, Option.bind_eq_some_iff] at made
      obtain ⟨members, object, fields, mapped, same⟩ := made
      cases same
      cases value : json.intoJson with
      | obj members' =>
          rw [value] at object
          cases object
          exact ⟨json, members, fields, rfl, value, mapped, rfl⟩
      | _ => rw [value] at object; contradiction
  | _ => contradiction

/-- A value with a branch key is an object with all the branch keys. -/
theorem jsonBranchKey_isSome {value : Json} {keys : List Ustr} :
    (jsonBranchKey value keys).isSome ↔
      ∃ fields, value = .obj fields ∧ ∀ key ∈ keys, (fields.lookup key).isSome := by
  have mapM_isSome (fields : List (String × Json)) :
      (keys.mapM fun key => (fields.lookup key).map toText).isSome ↔
        ∀ key ∈ keys, (fields.lookup key).isSome := by
    induction keys with
    | nil => simp
    | cons key rest ih =>
        rw [List.mapM_cons, List.forall_mem_cons, ← ih]
        cases fields.lookup key <;>
          cases rest.mapM fun key => (fields.lookup key).map toText <;> simp
  cases value with
  | obj fields =>
      rw [jsonBranchKey, Json.asObject, Option.bind_eq_bind, Option.bind_some, mapM_isSome]
      simp
  | _ => simp [jsonBranchKey, Json.asObject]

/-- The branch key of an object lists the printed values of the keys. -/
theorem jsonBranchKey_obj {fields : List (String × Json)} {keys : List Ustr}
    {branchKey : List String} :
    jsonBranchKey (.obj fields) keys = some branchKey ↔
      keys.map (fun key => (fields.lookup key).map toText) = branchKey.map some := by
  rw [jsonBranchKey, Json.asObject, Option.bind_eq_bind, Option.bind_some]
  induction keys generalizing branchKey with
  | nil => cases branchKey <;> simp
  | cons key rest ih =>
      rw [List.mapM_cons]
      cases branchKey with
      | nil =>
          cases (fields.lookup key).map toText <;>
            cases rest.mapM fun key => (fields.lookup key).map toText <;> simp
      | cons text texts =>
          rw [List.map_cons, List.map_cons, List.cons.injEq, ← ih]
          cases (fields.lookup key).map toText <;>
            cases rest.mapM fun key => (fields.lookup key).map toText <;> simp

/-- Objects with one branch key have the same values under its keys. -/
theorem lookup_eq_of_branchKey {left right : List (String × Json)} {keys : List Ustr}
    {branchKey : List String} (leftLegal : Legal (.obj left)) (rightLegal : Legal (.obj right))
    (leftKeyed : jsonBranchKey (.obj left) keys = some branchKey)
    (rightKeyed : jsonBranchKey (.obj right) keys = some branchKey) {key : Ustr}
    (listed : key ∈ keys) : left.lookup key = right.lookup key := by
  have texts := (jsonBranchKey_obj.mp leftKeyed).trans (jsonBranchKey_obj.mp rightKeyed).symm
  have same : (left.lookup key).map toText = (right.lookup key).map toText :=
    List.map_inj_left.mp texts key listed
  cases held : left.lookup key with
  | none =>
      rw [held, Option.map_none, eq_comm, Option.map_eq_none_iff] at same
      exact same.symm
  | some value =>
      rw [held, Option.map_some, eq_comm, Option.map_eq_some_iff] at same
      obtain ⟨value', held', equal⟩ := same
      have valueLegal := (leftLegal.of_mem (mem_of_lookup held))
      have valueLegal' := (rightLegal.of_mem (mem_of_lookup held'))
      rw [held', toText_injective (LegalMember.legal valueLegal') (LegalMember.legal valueLegal)
        equal]

/-- The object a stored JSON branch holds. -/
theorem storedKey_eq_some {keys : List Ustr} {branch : FlowInstance} {key : List String}
    (keyed : storedKey keys branch = some key) :
    ∃ json fields, branch.payload = .json json ∧ json.intoJson = .obj fields ∧
      jsonBranchKey (.obj fields) keys = some key := by
  rw [storedKey] at keyed
  split at keyed
  · rename_i json isJson
    obtain ⟨fields, object, -⟩ := jsonBranchKey_isSome.mp (Option.isSome_of_eq_some keyed)
    exact ⟨json, fields, isJson, object, object ▸ keyed⟩
  · contradiction

/-- What merging makes of a stored branch that has a branch key. -/
theorem mergeInto_eq {newJson json : FlowJson} {branch : FlowInstance}
    {stored added : List (String × Json)} (isJson : branch.payload = .json json)
    (storedObject : json.intoJson = .obj stored) (addedObject : newJson.intoJson = .obj added) :
    mergeInto newJson branch =
      { branch with payload := .json ⟨toText (.obj (mergeFields "" stored added))⟩ } := by
  simp only [mergeInto, isJson, storedObject, addedObject, mergeJson]

/-- The value of a merged payload. -/
theorem intoJson_merged {newJson json : FlowJson} {stored added : List (String × Json)}
    (storedObject : json.intoJson = .obj stored) (addedObject : newJson.intoJson = .obj added) :
    FlowJson.intoJson ⟨toText (.obj (mergeFields "" stored added))⟩ =
      .obj (mergeFields "" stored added) := by
  apply FlowJson.intoJson_toText
  apply mergeFields_legal
  · exact storedObject ▸ json.intoJson_legal
  · exact addedObject ▸ newJson.intoJson_legal

/-! ## Storing an instance -/

/-- An instance after a merge step is an old one, the new one, or an old one
with the new payload merged in. -/
theorem mem_mergeBranch {keys : List Ustr} {newKey : List String} {newJson : FlowJson}
    {fresh branch : FlowInstance} {entry : List FlowInstance}
    (inside : branch ∈ mergeBranch keys newKey newJson fresh entry) :
    branch ∈ entry ∨ branch = fresh ∨
      ∃ old ∈ entry, storedKey keys old = some newKey ∧ branch = mergeInto newJson old := by
  induction entry with
  | nil => exact .inr (.inl (by simpa [mergeBranch] using inside))
  | cons first rest ih =>
      rw [mergeBranch] at inside
      split at inside
      · rename_i keyed
        rcases List.mem_cons.mp inside with rfl | old
        · exact .inr (.inr ⟨first, by simp, keyed, rfl⟩)
        · exact .inl (List.mem_cons_of_mem _ old)
      · rcases List.mem_cons.mp inside with rfl | inside
        · exact .inl (by simp)
        · rcases ih inside with old | new | ⟨old, member, merged⟩
          · exact .inl (List.mem_cons_of_mem _ old)
          · exact .inr (.inl new)
          · exact .inr (.inr ⟨old, List.mem_cons_of_mem _ member, merged⟩)

/-- The store step of a JSON payload. -/
theorem storeInstance_json {facet : FlowFacetMetadata} {fresh : FlowInstance}
    {entry branches : List FlowInstance} {newJson : FlowJson}
    (isJson : fresh.payload = .json newJson)
    (stored : storeInstance facet fresh entry = some branches) :
    ∃ newKey, jsonBranchKey newJson.intoJson (branchKeys facet) = some newKey ∧
      branches = mergeBranch (branchKeys facet) newKey newJson fresh entry := by
  simp only [storeInstance, isJson, Option.bind_eq_bind, Option.bind_eq_some_iff] at stored
  obtain ⟨newKey, keyed, same⟩ := stored
  cases same
  exact ⟨newKey, keyed, rfl⟩

/-- A branch with a new key is appended. -/
theorem mergeBranch_of_absent {keys : List Ustr} {newKey : List String} {newJson : FlowJson}
    {fresh : FlowInstance} {entry : List FlowInstance}
    (absent : ∀ branch ∈ entry, storedKey keys branch ≠ some newKey) :
    mergeBranch keys newKey newJson fresh entry = entry ++ [fresh] := by
  induction entry with
  | nil => rfl
  | cons first rest ih =>
      obtain ⟨apart, others⟩ := List.forall_mem_cons.mp absent
      rw [mergeBranch, if_neg apart, ih others, List.cons_append]

/-- What a predicate keeps of a stored entry, where it keeps neither the new branch
nor one it is merged into. -/
theorem filter_mergeBranch {keys : List Ustr} {newKey : List String} {newJson : FlowJson}
    {fresh : FlowInstance} {entry : List FlowInstance} {keep : FlowInstance → Bool}
    (dropsFresh : keep fresh = false)
    (dropsKeyed : ∀ old ∈ entry, storedKey keys old = some newKey →
      keep old = false ∧ keep (mergeInto newJson old) = false) :
    (mergeBranch keys newKey newJson fresh entry).filter keep = entry.filter keep := by
  induction entry with
  | nil => simp [mergeBranch, dropsFresh]
  | cons first rest ih =>
      rw [mergeBranch]
      split
      · rename_i keyed
        obtain ⟨before, after⟩ := dropsKeyed first (by simp) keyed
        simp [before, after]
      · have later := ih fun old member => dropsKeyed old (List.mem_cons_of_mem _ member)
        simp only [List.filter_cons, later]

/-- The store step of any other payload. -/
theorem storeInstance_other {facet : FlowFacetMetadata} {fresh : FlowInstance}
    {entry : List FlowInstance} (other : ∀ json, fresh.payload ≠ .json json) :
    storeInstance facet fresh entry = some [fresh] := by
  rw [storeInstance]
  split
  · rename_i json isJson
    exact absurd isJson (other json)
  · rfl

end Values

end Rind
