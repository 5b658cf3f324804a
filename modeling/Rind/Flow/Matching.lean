import Rind.Flow.Triggers

/-!
# Matching a payload with itself

A payload extends itself and passes its own filter.  Both need the keys of an
object to be distinct, which legal values have.
-/

namespace Rind

open OrderedFields

theorem scalarEq_refl (value : Json) : scalarEq value value := by
  unfold scalarEq
  split <;> simp

theorem subsetMatchMember_eq (key : String) (filter : Json) (members : List (String × Json)) :
    subsetMatchMember key filter members = (members.lookup key).any (subsetMatch filter) := by
  induction members with
  | nil => rfl
  | cons member rest ih =>
      obtain ⟨name, value⟩ := member
      rw [subsetMatchMember, List.lookup_cons]
      split
      · rename_i same
        simp [same]
      · rename_i different
        rw [beq_false_of_ne different, ih]

theorem subsetMatchItems_iff {filter : Json} {items : List Json} :
    subsetMatchItems filter items ↔ ∃ item ∈ items, subsetMatch filter item := by
  induction items with
  | nil => simp [subsetMatchItems]
  | cons item rest ih => simp [subsetMatchItems, ih]

theorem jsonSubsetMember_eq (key : String) (reference : Json) (members : List (String × Json)) :
    jsonSubsetMember key reference members = (members.lookup key).any (jsonSubset reference) := by
  induction members with
  | nil => rfl
  | cons member rest ih =>
      obtain ⟨name, value⟩ := member
      rw [jsonSubsetMember, List.lookup_cons]
      split
      · rename_i same
        simp [same]
      · rename_i different
        rw [beq_false_of_ne different, ih]

theorem jsonSubsetItems_iff {reference : Json} {items : List Json} :
    jsonSubsetItems reference items ↔ ∃ item ∈ items, jsonSubset reference item := by
  induction items with
  | nil => simp [jsonSubsetItems]
  | cons item rest ih => simp [jsonSubsetItems, ih]

section Objects

variable {fields members : List (String × Json)}

/-- An object matches an object that has a matching member for each of its own. -/
theorem subsetMatch_obj : subsetMatch (.obj fields) (.obj members) ↔
    ∀ field ∈ fields, ∃ value, members.lookup field.1 = some value ∧
      subsetMatch field.2 value := by
  simp only [subsetMatch, List.all_eq_true, subsetMatchMember_eq, Option.any_eq_true]

theorem jsonSubset_obj : jsonSubset (.obj fields) (.obj members) ↔
    ∀ field ∈ fields, ∃ value, members.lookup field.1 = some value ∧
      jsonSubset field.2 value := by
  simp only [jsonSubset, List.all_eq_true, jsonSubsetMember_eq, Option.any_eq_true]

end Objects

variable {number : Json.Number → Prop}

mutual
theorem subsetMatch_self (value : Json) (regular : value.Regular number) :
    subsetMatch value value := by
  cases value with
  | arr items =>
      simp only [subsetMatch, List.all_eq_true]
      intro item inside
      exact subsetMatchItems_iff.mpr ⟨item, inside, subsetMatch_self_items items regular item inside⟩
  | obj fields =>
      refine subsetMatch_obj.mpr fun field inside => ⟨field.2, ?_, ?_⟩
      · exact regular.1.lookup_of_mem inside
      · exact subsetMatch_self_fields fields regular.2 field inside
  | null => exact scalarEq_refl .null
  | bool value => exact scalarEq_refl (.bool value)
  | num value => exact scalarEq_refl (.num value)
  | str value => exact scalarEq_refl (.str value)

theorem subsetMatch_self_items (items : List Json) (regular : Json.RegularItems number items) :
    ∀ item ∈ items, subsetMatch item item := by
  cases items with
  | nil => simp
  | cons first rest =>
      refine List.forall_mem_cons.mpr ⟨?_, ?_⟩
      · exact subsetMatch_self first regular.1
      · exact subsetMatch_self_items rest regular.2

theorem subsetMatch_self_fields (fields : List (String × Json))
    (regular : Json.RegularFields number fields) :
    ∀ field ∈ fields, subsetMatch field.2 field.2 := by
  cases fields with
  | nil => simp
  | cons first rest =>
      refine List.forall_mem_cons.mpr ⟨?_, ?_⟩
      · exact subsetMatch_self first.2 regular.1
      · exact subsetMatch_self_fields rest regular.2
end

mutual
theorem jsonSubset_self (value : Json) (regular : value.Regular number) :
    jsonSubset value value := by
  cases value with
  | arr items =>
      simp only [jsonSubset, List.all_eq_true]
      intro item inside
      exact jsonSubsetItems_iff.mpr ⟨item, inside, jsonSubset_self_items items regular item inside⟩
  | obj fields =>
      refine jsonSubset_obj.mpr fun field inside => ⟨field.2, ?_, ?_⟩
      · exact regular.1.lookup_of_mem inside
      · exact jsonSubset_self_fields fields regular.2 field inside
  | null => exact scalarEq_refl .null
  | bool value => exact scalarEq_refl (.bool value)
  | num value => exact scalarEq_refl (.num value)
  | str value => exact scalarEq_refl (.str value)

theorem jsonSubset_self_items (items : List Json) (regular : Json.RegularItems number items) :
    ∀ item ∈ items, jsonSubset item item := by
  cases items with
  | nil => simp
  | cons first rest =>
      refine List.forall_mem_cons.mpr ⟨?_, ?_⟩
      · exact jsonSubset_self first regular.1
      · exact jsonSubset_self_items rest regular.2

theorem jsonSubset_self_fields (fields : List (String × Json))
    (regular : Json.RegularFields number fields) :
    ∀ field ∈ fields, jsonSubset field.2 field.2 := by
  cases fields with
  | nil => simp
  | cons first rest =>
      refine List.forall_mem_cons.mpr ⟨?_, ?_⟩
      · exact jsonSubset_self first.2 regular.1
      · exact jsonSubset_self_fields rest regular.2
end

/-! ## Scalar values -/

/-- Equal scalar values are the same value, or two floating-point zeros. -/
theorem scalarEq_iff {left right : Json} : scalarEq left right ↔ left = right ∨
    ∃ a b, left = .num (.float a) ∧ right = .num (.float b) ∧ a ∈ ["0.0", "-0.0"] ∧
      b ∈ ["0.0", "-0.0"] := by
  unfold scalarEq
  split
  · rename_i a b
    simp only [Bool.or_eq_true, beq_iff_eq, Bool.and_eq_true, decide_eq_true_eq, Json.num.injEq,
      Json.Number.float.injEq]
    constructor
    · rintro (same | zeros)
      · exact .inl same
      · exact .inr ⟨a, b, rfl, rfl, zeros⟩
    · rintro (same | ⟨_, _, rfl, rfl, zeros⟩)
      · exact .inl same
      · exact .inr zeros
  · rename_i notFloats
    rw [beq_iff_eq]
    refine ⟨.inl, fun either => either.resolve_right ?_⟩
    rintro ⟨a, b, rfl, rfl, -⟩
    exact notFloats a b rfl rfl

/-- Two values that are equal to a third are equal. -/
theorem scalarEq_of_common {left right middle : Json} (first : scalarEq left middle)
    (second : scalarEq right middle) : scalarEq left right := by
  rw [scalarEq_iff] at first second ⊢
  rcases first with rfl | ⟨a, b, rfl, rfl, zero, zero'⟩
  · rcases second with rfl | ⟨a, b, rfl, rfl, zero, zero'⟩
    · exact .inl rfl
    · exact .inr ⟨b, a, rfl, rfl, zero', zero⟩
  · rcases second with rfl | ⟨c, d, rfl, -, zero'', -⟩
    · exact .inr ⟨a, b, rfl, rfl, zero, zero'⟩
    · exact .inr ⟨a, c, rfl, rfl, zero, zero''⟩

def Json.isScalar : Json → Bool
  | .arr _ | .obj _ => false
  | _ => true

theorem subsetMatch_scalar {filter thing : Json} (scalar : thing.isScalar)
    (contained : subsetMatch filter thing) : scalarEq filter thing := by
  cases thing with
  | arr items => contradiction
  | obj members => contradiction
  | null => exact contained
  | bool value => exact contained
  | num value => exact contained
  | str value => exact contained

mutual
/-- A value that extends another also contains it. -/
theorem subsetMatch_of_jsonSubset (reference thing : Json) (subset : jsonSubset reference thing) :
    subsetMatch reference thing := by
  cases thing with
  | arr items =>
      cases reference with
      | arr values =>
          simp only [jsonSubset, subsetMatch, List.all_eq_true] at subset ⊢
          intro value listed
          obtain ⟨item, inside, below⟩ := jsonSubsetItems_iff.mp (subset value listed)
          exact subsetMatchItems_iff.mpr
            ⟨item, inside, subsetMatch_of_jsonSubset_items items item inside value below⟩
      | _ => simp [jsonSubset] at subset
  | obj members =>
      cases reference with
      | obj fields =>
          refine subsetMatch_obj.mpr fun field listed => ?_
          obtain ⟨value, held, below⟩ := jsonSubset_obj.mp subset field listed
          exact ⟨value, held, subsetMatch_of_jsonSubset_fields members _
            (mem_of_lookup held) _ below⟩
      | _ => simp [jsonSubset] at subset
  | null => exact subset
  | bool value => exact subset
  | num value => exact subset
  | str value => exact subset

theorem subsetMatch_of_jsonSubset_items (items : List Json) :
    ∀ item ∈ items, ∀ reference, jsonSubset reference item → subsetMatch reference item := by
  cases items with
  | nil => simp
  | cons first rest =>
      refine List.forall_mem_cons.mpr ⟨fun reference => ?_, ?_⟩
      · exact subsetMatch_of_jsonSubset reference first
      · exact subsetMatch_of_jsonSubset_items rest

theorem subsetMatch_of_jsonSubset_fields (members : List (String × Json)) :
    ∀ member ∈ members, ∀ reference, jsonSubset reference member.2 →
      subsetMatch reference member.2 := by
  cases members with
  | nil => simp
  | cons first rest =>
      refine List.forall_mem_cons.mpr ⟨fun reference => ?_, ?_⟩
      · exact subsetMatch_of_jsonSubset reference first.2
      · exact subsetMatch_of_jsonSubset_fields rest
end

section Payloads

variable [SerdeJson]

theorem payloadCompatible_self (payload : FlowPayload) :
    payloadCompatible (some payload) payload := by
  cases payload with
  | json json => exact jsonSubset_self _ json.intoJson_legal.2
  | string text => simp [payloadCompatible]
  | bytes _ => rfl
  | none _ => rfl

/-- A payload passes the filter made from it. -/
theorem matchOperation_self {payload : FlowPayload} {filter : FlowMatchOperation}
    (made : payloadToFilter payload = some filter) : matchOperation filter payload := by
  cases payload with
  | json json =>
      cases made
      exact subsetMatch_self _ json.intoJson_legal.2
  | string text =>
      cases made
      simp [matchOperation, FlowPayload.toStringPayload]
  | bytes _ => contradiction
  | none _ => contradiction

end Payloads

end Rind
