import Rind.Flow.Matching
import Rind.Flow.Shape

/-!
# Filters and extensions

A filter that a payload contains is contained in every payload that extends it.
So a filter that is made from a payload removes whatever is taken for a branch of
that payload, and nothing of it stays active.
-/

namespace Rind

open OrderedFields

/-! ## Filters -/

section Filters

variable {filter : Json} {items : List Json} {members : List (String × Json)}

theorem subsetMatchFields_iff :
    subsetMatchFields filter members ↔ ∃ member ∈ members, subsetMatch filter member.2 := by
  induction members with
  | nil => simp [subsetMatchFields]
  | cons member rest ih => simp [subsetMatchFields, ih]

/-- What is no object is looked for in the members of an object. -/
theorem subsetMatch_members (plain : filter.asObject = none) :
    subsetMatch filter (.obj members) ↔ ∃ member ∈ members, subsetMatch filter member.2 := by
  rw [← subsetMatchFields_iff]
  cases filter with
  | obj fields => cases plain
  | _ => simp only [subsetMatch]

theorem subsetMatch_arr {values : List Json} :
    subsetMatch (.arr values) (.arr items) ↔
      ∀ value ∈ values, ∃ item ∈ items, subsetMatch value item := by
  simp only [subsetMatch, List.all_eq_true, subsetMatchItems_iff]

/-- What is no array is looked for in the items of an array. -/
theorem subsetMatch_items (plain : filter.asArray = none) :
    subsetMatch filter (.arr items) ↔ ∃ item ∈ items, subsetMatch filter item := by
  rw [← subsetMatchItems_iff]
  cases filter with
  | arr values => cases plain
  | _ => simp only [subsetMatch]

end Filters

/-! ## Extensions -/

/-- An extension of an object is an object that extends its members. -/
theorem obj_of_jsonSubset {payload : Json} {members : List (String × Json)}
    (subset : jsonSubset payload (.obj members)) : ∃ fields, payload = .obj fields := by
  cases payload with
  | obj fields => exact ⟨fields, rfl⟩
  | _ => simp [jsonSubset] at subset

theorem arr_of_jsonSubset {payload : Json} {items : List Json}
    (subset : jsonSubset payload (.arr items)) : ∃ values, payload = .arr values := by
  cases payload with
  | arr values => exact ⟨values, rfl⟩
  | _ => simp [jsonSubset] at subset

theorem jsonSubset_arr {values items : List Json} :
    jsonSubset (.arr values) (.arr items) ↔
      ∀ value ∈ values, ∃ item ∈ items, jsonSubset value item := by
  simp only [jsonSubset, List.all_eq_true, jsonSubsetItems_iff]

/-- What extends a scalar contains what the scalar contains. -/
theorem subsetMatch_extend_scalar {filter payload thing : Json} (scalar : thing.isScalar)
    (contained : subsetMatch filter payload) (subset : jsonSubset payload thing) :
    subsetMatch filter thing := by
  have equal : scalarEq payload thing ∧ payload.isScalar := by
    cases thing with
    | arr items => cases scalar
    | obj members => cases scalar
    | _ => cases payload <;> simp_all [jsonSubset, scalarEq, Json.isScalar]
  have equal' := subsetMatch_scalar equal.2 contained
  have reversed : scalarEq thing payload := scalarEq_of_common (scalarEq_refl thing) equal.1
  have same : scalarEq filter thing := scalarEq_of_common equal' reversed
  cases thing with
  | arr items => cases scalar
  | obj members => cases scalar
  | _ => exact same

mutual
/-- A payload contains what a payload that it extends contains. -/
theorem subsetMatch_extend (thing filter payload : Json) (contained : subsetMatch filter payload)
    (subset : jsonSubset payload thing) : subsetMatch filter thing := by
  cases thing with
  | arr items =>
      obtain ⟨values, rfl⟩ := arr_of_jsonSubset subset
      have extended (filter value : Json) (listed : value ∈ values)
          (inside : subsetMatch filter value) : ∃ item ∈ items, subsetMatch filter item := by
        obtain ⟨item, member, below⟩ := jsonSubset_arr.mp subset value listed
        exact ⟨item, member, subsetMatch_extend_items items item member filter value inside below⟩
      cases filter with
      | arr wanted =>
          refine subsetMatch_arr.mpr fun one listed => ?_
          obtain ⟨value, member, inside⟩ := subsetMatch_arr.mp contained one listed
          exact extended one value member inside
      | _ =>
          obtain ⟨value, member, inside⟩ := (subsetMatch_items rfl).mp contained
          exact (subsetMatch_items rfl).mpr (extended _ value member inside)
  | obj members =>
      obtain ⟨fields, rfl⟩ := obj_of_jsonSubset subset
      have extended (filter : Json) (field : String × Json) (listed : field ∈ fields)
          (inside : subsetMatch filter field.2) :
          ∃ value, members.lookup field.1 = some value ∧ subsetMatch filter value := by
        obtain ⟨value, held, below⟩ := jsonSubset_obj.mp subset field listed
        exact ⟨value, held, subsetMatch_extend_fields members _ (mem_of_lookup held) filter _
          inside below⟩
      cases filter with
      | obj wanted =>
          refine subsetMatch_obj.mpr fun one listed => ?_
          obtain ⟨value, held, inside⟩ := subsetMatch_obj.mp contained one listed
          exact extended one.2 (one.1, value) (mem_of_lookup held) inside
      | _ =>
          obtain ⟨field, member, inside⟩ := (subsetMatch_members rfl).mp contained
          obtain ⟨value, held, inside'⟩ := extended _ field member inside
          exact (subsetMatch_members rfl).mpr ⟨_, mem_of_lookup held, inside'⟩
  | null => exact subsetMatch_extend_scalar rfl contained subset
  | bool value => exact subsetMatch_extend_scalar rfl contained subset
  | num value => exact subsetMatch_extend_scalar rfl contained subset
  | str value => exact subsetMatch_extend_scalar rfl contained subset

theorem subsetMatch_extend_items (items : List Json) :
    ∀ item ∈ items, ∀ filter payload, subsetMatch filter payload → jsonSubset payload item →
      subsetMatch filter item := by
  cases items with
  | nil => simp
  | cons first rest =>
      refine List.forall_mem_cons.mpr ⟨?_, ?_⟩
      · exact subsetMatch_extend first
      · exact subsetMatch_extend_items rest

theorem subsetMatch_extend_fields (members : List (String × Json)) :
    ∀ member ∈ members, ∀ filter payload, subsetMatch filter payload →
      jsonSubset payload member.2 → subsetMatch filter member.2 := by
  cases members with
  | nil => simp
  | cons first rest =>
      refine List.forall_mem_cons.mpr ⟨?_, ?_⟩
      · exact subsetMatch_extend first.2
      · exact subsetMatch_extend_fields rest
end

/-! ## Filters made from payloads -/

section Removal

variable [SerdeJson]

/-- Whether one of some instances is one that a payload refers to. -/
def activeIn (entry : List FlowInstance) (payload : FlowPayload) : Bool :=
  entry.any fun branch => payloadCompatible (some payload) branch.payload

/-- A JSON instance contains what it extends. -/
theorem removes_of_compatible {entry : List FlowInstance} {payload : FlowPayload}
    (typed : ∀ branch ∈ entry, branch.payload.payloadType = payload.payloadType)
    {branch : FlowInstance} (inside : branch ∈ entry)
    (compatible : payloadCompatible (some payload) branch.payload) :
    removes (payloadToFilter payload) branch := by
  have same := typed branch inside
  obtain ⟨name, stored, type⟩ := branch
  cases payload with
  | json json =>
      cases stored with
      | json json' =>
          have contained := subsetMatch_of_jsonSubset _ _ compatible
          simpa [removes, payloadToFilter, matchOperation, FlowPayload.toJson] using contained
      | _ => cases same
  | string text =>
      cases stored with
      | string text' =>
          have equal : text = text' := by simpa [payloadCompatible] using compatible
          simp [removes, payloadToFilter, matchOperation, FlowPayload.toStringPayload, equal]
      | _ => cases same
  | bytes _ => rfl
  | none _ => rfl

/-- A filter that is made from a payload matches it and all that extends it, and no branch that is
taken for one of the payload is left where the filter removes. -/
structure Encloses (payload : FlowJson) : Prop where
  filter : payloadToFilter (.json payload) = some (.options none none (some payload.intoJson))
  itself : ∀ filter, payloadToFilter (.json payload) = some filter →
    matchOperation filter (.json payload)
  extensions : ∀ filter, payloadToFilter (.json payload) = some filter → ∀ thing : FlowJson,
    payloadCompatible (some (.json payload)) (.json thing) → matchOperation filter (.json thing)
  removed : ∀ entry : List FlowInstance,
    (∀ branch ∈ entry, branch.payload.payloadType = .json) →
      activeIn (entry.filter (!removes (payloadToFilter (.json payload)) ·)) (.json payload) = false

theorem encloses (payload : FlowJson) : Encloses payload where
  filter := rfl
  itself := fun _ made => matchOperation_self made
  extensions := by
    intro filter made thing compatible
    cases made
    exact subsetMatch_of_jsonSubset _ _ compatible
  removed := by
    intro entry typed
    rw [activeIn, List.any_eq_false]
    intro branch inside compatible
    obtain ⟨listed, kept⟩ := List.mem_filter.mp inside
    rw [removes_of_compatible typed listed compatible] at kept
    cases kept

end Removal

/-- A value matches itself, an extension matches what it extends, and a filter that matches a
payload matches every extension of it; so does the filter that is made from a payload. -/
theorem subsetMatch_laws [SerdeJson] :
    (∀ (number : Json.Number → Prop) (value : Json), value.Regular number →
      subsetMatch value value) ∧
    (∀ payload thing, jsonSubset payload thing → subsetMatch payload thing) ∧
    (∀ filter payload thing, subsetMatch filter payload → jsonSubset payload thing →
      subsetMatch filter thing) ∧
    ∀ payload, Encloses payload :=
  ⟨fun _ => subsetMatch_self, subsetMatch_of_jsonSubset,
    fun filter payload thing => subsetMatch_extend thing filter payload, encloses⟩

section Sessions

open scoped Compact

/-- A filter for the terminal of a session still matches when the session has a seat. -/
theorem subsetMatch_laws_session :
    subsetMatch (.str "tty1") (.obj [("seat", .str "seat0"), ("tty", .str "tty1")]) :=
  subsetMatch_laws.2.2.1 (.str "tty1") (.obj [("tty", .str "tty1")]) _ (by decide +kernel)
    (by decide +kernel)

end Sessions

end Rind
