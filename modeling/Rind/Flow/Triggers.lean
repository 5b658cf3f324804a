import Rind.Flow.Facet

/-!
# Matching and mapping payloads

Conditions and filters on payloads, the keys that tell the branches of a facet
apart, and the merge of a new payload into a stored branch.
-/

namespace Rind

/-! ## Filters -/

/-- Equality of scalar values. The two floating-point zeros are equal. -/
def scalarEq : (left right : Json) → Bool
  | .num (.float left), .num (.float right) =>
      left == right || (left ∈ ["0.0", "-0.0"] && right ∈ ["0.0", "-0.0"])
  | left, right => left == right

mutual
/-- Whether a payload contains a filter: objects and arrays by containment of
their members, and any value also inside an object or an array. -/
def subsetMatch : (filter payload : Json) → Bool
  | filter, .obj members =>
      match filter with
      | .obj fields => fields.all fun field => subsetMatchMember field.1 field.2 members
      | filter => subsetMatchFields filter members
  | filter, .arr items =>
      match filter with
      | .arr values => values.all fun value => subsetMatchItems value items
      | filter => subsetMatchItems filter items
  | filter, payload => scalarEq filter payload
termination_by structural _ payload => payload

/-- Whether the member under a key contains the filter. -/
def subsetMatchMember : (key : String) → (filter : Json) → (members : List (String × Json)) → Bool
  | _, _, [] => false
  | key, filter, (name, value) :: rest =>
      if key = name then subsetMatch filter value else subsetMatchMember key filter rest
termination_by structural _ _ members => members

/-- Whether some member contains the filter. -/
def subsetMatchFields : (filter : Json) → (members : List (String × Json)) → Bool
  | _, [] => false
  | filter, (_, value) :: rest => subsetMatch filter value || subsetMatchFields filter rest
termination_by structural _ members => members

/-- Whether some item contains the filter. -/
def subsetMatchItems : (filter : Json) → (items : List Json) → Bool
  | _, [] => false
  | filter, item :: rest => subsetMatch filter item || subsetMatchItems filter rest
termination_by structural _ items => items
end

def matchOperation [SerdeJson] (matcher : FlowMatchOperation) (payload : FlowPayload) : Bool :=
  match matcher with
  | .eq value => payload.toStringPayload == value
  | .options binary contains asValue =>
      if binary = some true then
        match payload with
        | .bytes _ => true
        | _ => false
      else
        match contains, asValue with
        | some needle, _ => Text.contains payload.toStringPayload needle
        | none, some filter => subsetMatch filter payload.toJson
        | none, none => false

/-! ## Conditions -/

def sameFlowName (a b : Ustr) : Bool := a == b || rslvnsSnorm a == rslvnsSnorm b

/-- Whether a payload passes the filters of a detailed condition. -/
def passes [SerdeJson] (target branch : Option FlowMatchOperation) (payload : FlowPayload) : Bool :=
  target.all (matchOperation · payload) && branch.all (matchOperation · payload)

def checkCondition [SerdeJson] (cond : FlowItem) (trigger : FlowInstance) : Bool :=
  match cond with
  | .simple name => sameFlowName name trigger.name
  | .detailed (some stateName) _ target branch =>
      trigger.type == .facet && sameFlowName stateName trigger.name &&
        passes target branch trigger.payload
  | .detailed none (some sigName) target branch =>
      trigger.type == .impulse && sameFlowName sigName trigger.name &&
        passes target branch trigger.payload
  | .detailed none none _ _ => false

/-! ## Branch keys and merging -/

def jsonBranchKey [SerdeJson] (value : Json) (keys : List Ustr) : Option (List String) := do
  let fields ← value.asObject
  keys.mapM fun key => (fields.lookup key).map SerdeJson.toText

/-- Write the members of a new payload over the stored ones. A member `&k` is
written under `k`, and a member named like the last forced key is skipped. -/
def mergeFields (forced : String) (stored : List (String × Json)) :
    (added : List (String × Json)) → List (String × Json)
  | [] => stored
  | (key, value) :: rest =>
      if forced = key then mergeFields forced stored rest
      else
        match Text.stripPrefix "&" key with
        | some target => mergeFields target (OrderedFields.insert target value stored) rest
        | none => mergeFields forced (OrderedFields.insert key value stored) rest

def mergeJson (a b : Json) : Json :=
  match a, b with
  | .obj stored, .obj added => .obj (mergeFields "" stored added)
  | a, _ => a

def payloadSignature : Option FlowPayload → String
  | some (.json value) => "json:" ++ value.text
  | some (.string value) => "str:" ++ value
  | some (.bytes value) => "bytes:" ++ toString value.length
  | some (.none _) => "none"
  | none => "none"

def payloadToFilter [SerdeJson] : FlowPayload → Option FlowMatchOperation
  | .json value => some (.options none none (some value.intoJson))
  | .string value => some (.eq value)
  | .bytes _ | .none _ => none

def defaultPayloadForType [SerdeJson] : FlowPayloadType → FlowPayload
  | .json => .json ⟨SerdeJson.toText (.obj [])⟩
  | .string => .string ""
  | .bytes => .bytes []
  | .none => .none false

/-- The key a branch spec `target:source` writes, the spec itself without a
colon. -/
def branchTargetKey (spec : Ustr) : Ustr :=
  match Text.splitOnce ':' spec with
  | some (target, _) => Text.trim target
  | none => spec

/-- The key a branch spec `target:source` reads. -/
def branchSourceKey (spec : Ustr) : Ustr :=
  match Text.splitOnce ':' spec with
  | some (_, source) => Text.trim source
  | none => spec

/-- The members a list of branch specs takes from a source object, in the
order of the specs. -/
def mapFields (branchSpecs : List Ustr) (source mapped : List (String × Json)) :
    Option (List (String × Json)) :=
  match branchSpecs with
  | [] => some mapped
  | spec :: rest => do
      let value ← source.lookup (branchSourceKey spec)
      mapFields rest source (OrderedFields.insert (branchTargetKey spec) value mapped)

def mapJsonPayload [SerdeJson] (branchSpecs : List Ustr) (source : FlowPayload) : Option FlowPayload :=
  match source with
  | .json sourceJson => do
      let sourceObj ← sourceJson.intoJson.asObject
      let mapped ← mapFields branchSpecs sourceObj []
      some (.json ⟨SerdeJson.toText (.obj mapped)⟩)
  | _ => none

/-! ## Compatibility -/

mutual
/-- Whether a value extends a reference, object by object and array by array. -/
def jsonSubset : (reference thing : Json) → Bool
  | reference, .obj members =>
      match reference with
      | .obj fields => fields.all fun field => jsonSubsetMember field.1 field.2 members
      | _ => false
  | reference, .arr items =>
      match reference with
      | .arr values => values.all fun value => jsonSubsetItems value items
      | _ => false
  | reference, thing => scalarEq reference thing
termination_by structural _ thing => thing

def jsonSubsetMember : (key : String) → (reference : Json) → (members : List (String × Json)) → Bool
  | _, _, [] => false
  | key, reference, (name, value) :: rest =>
      if key = name then jsonSubset reference value else jsonSubsetMember key reference rest
termination_by structural _ _ members => members

def jsonSubsetItems : (reference : Json) → (items : List Json) → Bool
  | _, [] => false
  | reference, item :: rest => jsonSubset reference item || jsonSubsetItems reference rest
termination_by structural _ items => items
end

def payloadCompatible [SerdeJson] (reference : Option FlowPayload) (thing : FlowPayload) : Bool :=
  match reference, thing with
  | none, _ => true
  | some (.json a), .json b => jsonSubset a.intoJson b.intoJson
  | some (.string a), .string b => a == b
  | some _, _ => true

end Rind
