import Rind.Flow.Matching
import Rind.Flow.Members
import Rind.Flow.Shape

/-!
# Facets that are used as tables

A facet of JSON objects with one branch key is a table: setting it writes the
members of an object into the row with the same key, or appends a row, and
removing rows by an object takes those out that contain it.
-/

namespace Rind

open Prog SerdeJson

/-- The members of a JSON object. -/
abbrev Members : Type := List (String × Json)

/-- The members are written as they are named. -/
def Unforced (fields : Members) : Prop :=
  ∀ member ∈ fields, member.1 ≠ "" ∧ Text.stripPrefix "&" member.1 = none

instance (fields : Members) : Decidable (Unforced fields) :=
  inferInstanceAs (Decidable (∀ _ ∈ _, _))

/-- Write the members of an object into the first row with its key, or append it. -/
def writeRow (key : String) (fields : Members) : List Members → List Members
  | [] => [fields]
  | row :: rest =>
      if row.lookup key = fields.lookup key then mergeFields "" row fields :: rest
      else row :: writeRow key fields rest

/-- The rows that do not contain an object. -/
def eraseRows (filter : Members) (rows : List Members) : List Members :=
  rows.filter fun row => !subsetMatch (.obj filter) (.obj row)

section Rows

variable {key : String} {fields : Members} {rows : List Members}

/-- The keys of a table after a row was written. -/
theorem mem_keys_writeRow (present : (fields.lookup key).isSome)
    (ordered : OrderedFields.Ordered fields) (unforced : Unforced fields) (value : Option Json) :
    value ∈ (writeRow key fields rows).map (·.lookup key) ↔
      value = fields.lookup key ∨ value ∈ rows.map (·.lookup key) := by
  induction rows with
  | nil => simp [writeRow]
  | cons row rest ih =>
      rw [writeRow]
      split
      · next same =>
          have kept : (mergeFields "" row fields).lookup key = fields.lookup key := by
            rw [lookup_mergeFields ordered unforced, Option.or_of_isSome present]
          rw [List.map_cons, List.map_cons, kept, same, List.mem_cons]
          exact ⟨Or.inr, fun either => either.elim Or.inl id⟩
      · rw [List.map_cons, List.map_cons, List.mem_cons, List.mem_cons, ih]
        exact or_left_comm

/-- A member that neither the rows nor the written object have. -/
theorem lookup_none_writeRow {other : String} (ordered : OrderedFields.Ordered fields)
    (unforced : Unforced fields) (absent : fields.lookup other = none)
    (none_ : ∀ row ∈ rows, row.lookup other = none) :
    ∀ row ∈ writeRow key fields rows, row.lookup other = none := by
  induction rows with
  | nil => simpa [writeRow] using absent
  | cons row rest ih =>
      obtain ⟨first, others⟩ := List.forall_mem_cons.mp none_
      rw [writeRow]
      split
      · have merged : (mergeFields "" row fields).lookup other = none := by
          rw [lookup_mergeFields ordered unforced, absent, Option.none_or, first]
        exact List.forall_mem_cons.mpr ⟨merged, others⟩
      · exact List.forall_mem_cons.mpr ⟨first, ih others⟩

/-- A filter with a member that the rows do not have takes none of them out. -/
theorem eraseRows_of_absent {filter : Members} (inside : key ∈ filter.map Prod.fst)
    (none_ : ∀ row ∈ rows, row.lookup key = none) : eraseRows filter rows = rows := by
  obtain ⟨field, listed, rfl⟩ := List.mem_map.mp inside
  apply List.filter_eq_self.mpr
  intro row isRow
  rw [Bool.not_eq_true', ← Bool.not_eq_true, subsetMatch_obj]
  intro every
  obtain ⟨value, held, -⟩ := every field listed
  rw [none_ row isRow] at held
  cases held

end Rows

/-! ## Instances -/

section Holds

variable [SerdeJson]

/-- The objects that the instances of a facet hold. -/
def Holds (branches : List FlowInstance) (rows : List Members) : Prop :=
  branches.map (·.payload.toJson) = rows.map Json.obj

/-- A facet of objects that are told apart by one member. -/
structure KeyedBy (key : String) (facet : FlowFacetMetadata) : Prop where
  payload : facet.payload = .json
  branch : facet.branch = some [key]
  target : branchTargetKey key = key

/-- An object that can be printed and written, with a value of the key. -/
structure Row (key : String) (fields : Members) : Prop where
  legal : Legal (.obj fields)
  unforced : Unforced fields
  present : (fields.lookup key).isSome

variable {key : String} {facet : FlowFacetMetadata} {fields : Members} {rows : List Members}
  {branches : List FlowInstance}

theorem legalMember_str (text : String) : LegalMember (.str text) := ⟨by simp [Json.depth], trivial⟩

theorem legalMember_bool (value : Bool) : LegalMember (.bool value) :=
  ⟨by simp [Json.depth], trivial⟩

theorem legalMember_null : LegalMember .null := ⟨by simp [Json.depth], trivial⟩

theorem legalMember_unsigned (prints : PrintsUnsigned) {value : Nat} (bound : value < 2 ^ 64) :
    LegalMember (.num (.int value)) := ⟨by simp [Json.depth], prints value bound⟩

/-- An instance that holds an object has a JSON payload. -/
theorem toJson_eq_obj {payload : FlowPayload} {row : Members}
    (object : payload.toJson = .obj row) : ∃ json, payload = .json json ∧ json.intoJson = .obj row := by
  cases payload with
  | json json => exact ⟨json, rfl, object⟩
  | _ => cases object

/-- An object whose keys are given. -/
theorem Row.of_keys (keys : List String) (same : fields.map Prod.fst = keys)
    (ordered : keys.Pairwise (· < ·))
    (plain : ∀ key ∈ keys, key ≠ "" ∧ Text.stripPrefix "&" key = none)
    (legal : ∀ member ∈ fields, LegalMember member.2) (present : (fields.lookup key).isSome) :
    Row key fields where
  legal := by
    apply Json.Legal.obj _ legal
    rw [← same, List.pairwise_map] at ordered
    exact ordered
  unforced member inside := plain member.1 (same ▸ List.mem_map_of_mem inside)
  present := present

theorem Row.intoJson (isRow : Row key fields) :
    FlowJson.intoJson ⟨toText (.obj fields)⟩ = .obj fields :=
  FlowJson.intoJson_toText isRow.legal

/-- The branch key of an object. -/
theorem jsonBranchKey_singleton (row : Members) :
    jsonBranchKey (.obj row) [key] = (row.lookup key).map fun value => [toText value] := by
  rw [jsonBranchKey]
  cases held : row.lookup key <;> simp [Json.asObject, held]

/-- The rows after an object was stored. -/
theorem Holds.merge (holds : Holds branches rows) (isRow : Row key fields)
    {fresh : FlowInstance} (freshHolds : fresh.payload = .json ⟨toText (.obj fields)⟩)
    {value : Json} (held : fields.lookup key = some value) :
    Holds (mergeBranch [key] [toText value] ⟨toText (.obj fields)⟩ fresh branches)
      (writeRow key fields rows) := by
  induction branches generalizing rows with
  | nil =>
      have none_ : rows = [] := List.map_eq_nil_iff.mp holds.symm
      rw [none_, mergeBranch, writeRow, Holds, List.map_cons, List.map_cons, freshHolds]
      exact congrArg (· :: []) isRow.intoJson
  | cons branch rest ih =>
      cases rows with
      | nil => cases holds
      | cons row others =>
          obtain ⟨first, restHolds⟩ := List.cons.inj holds
          obtain ⟨json, isJson, object⟩ := toJson_eq_obj first
          have stored : storedKey [key] branch = (row.lookup key).map fun value => [toText value] := by
            rw [storedKey, isJson, ← jsonBranchKey_singleton, ← object]
          have same : storedKey [key] branch = some [toText value] ↔
              row.lookup key = fields.lookup key := by
            rw [stored, held, Option.map_eq_some_iff, ← held]
            constructor
            · rintro ⟨value', held', same⟩
              have legal : Legal (.obj row) := object ▸ json.intoJson_legal
              rw [held', held, toText_injective (LegalMember.legal (legal.of_mem (OrderedFields.mem_of_lookup held')))
                (LegalMember.legal (isRow.legal.of_mem (OrderedFields.mem_of_lookup held))) (List.cons.inj same).1]
            · intro equal
              exact ⟨value, equal.trans held, rfl⟩
          rw [mergeBranch, writeRow]
          by_cases merges : row.lookup key = fields.lookup key
          · rw [if_pos (same.mpr merges), if_pos merges, Holds, List.map_cons, List.map_cons,
              mergeInto_eq isJson object isRow.intoJson]
            exact congrArg₂ _ (intoJson_merged object isRow.intoJson) restHolds
          · rw [if_neg (mt same.mp merges), if_neg merges, Holds, List.map_cons, List.map_cons]
            exact congrArg₂ _ first (ih restHolds)

/-- Storing an object writes a row. -/
theorem Holds.store (holds : Holds branches rows) (keyed : KeyedBy key facet)
    (isRow : Row key fields) (name : Ustr) :
    ∃ stored, storeInstance facet
        (freshInstance name (some (.json ⟨toText (.obj fields)⟩))) branches = some stored ∧
      Holds stored (writeRow key fields rows) := by
  obtain ⟨value, held⟩ := Option.isSome_iff_exists.mp isRow.present
  have keys : branchKeys facet = [key] := by
    rw [branchKeys, keyed.branch]
    simp [keyed.target]
  have newKey : jsonBranchKey (FlowJson.intoJson ⟨toText (.obj fields)⟩) [key] =
      some [toText value] := by
    rw [isRow.intoJson, jsonBranchKey_singleton, held, Option.map_some]
  use mergeBranch [key] [toText value] ⟨toText (.obj fields)⟩
    (freshInstance name (some (.json ⟨toText (.obj fields)⟩))) branches
  constructor
  · simp only [storeInstance, freshInstance, Option.getD_some, keys, newKey, Option.bind_eq_bind,
      Option.bind_some]
  · exact holds.merge isRow rfl held

/-- Rows that are taken out by an object. -/
theorem Holds.kept (holds : Holds branches rows) (filter : Members) :
    Holds (branches.filter (!removes (some (.options none none (some (.obj filter)))) ·))
      (eraseRows filter rows) := by
  induction branches generalizing rows with
  | nil =>
      rw [List.map_eq_nil_iff.mp holds.symm]
      rfl
  | cons branch rest ih =>
      cases rows with
      | nil => cases holds
      | cons row others =>
          obtain ⟨first, restHolds⟩ := List.cons.inj holds
          have matched : removes (some (.options none none (some (.obj filter)))) branch =
              subsetMatch (.obj filter) (.obj row) := by
            rw [← first]
            rfl
          rw [eraseRows, List.filter_cons, List.filter_cons, matched]
          split
          · exact congrArg₂ _ first (ih restHolds)
          · exact ih restHolds

end Holds

end Rind
