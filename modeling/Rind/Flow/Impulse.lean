import Rind.Flow.Runtime

/-!
# Impulses

An impulse is announced to its subscribers and stored nowhere.  Impulses that
come after it are fired in turn, one level deep.
-/

namespace Rind

/-- The definition of an impulse. -/
structure FlowImpulseMetadata where
  name : Ustr
  payload : FlowPayloadType
  after : Option (List FlowItem)
  branch : Option (List Ustr)
  subscribers : Option (List TransportMethod)
  deriving DecidableEq, Repr

instance : NamedItem FlowImpulseMetadata := ⟨FlowImpulseMetadata.name⟩

variable [SerdeJson]

def impulseEvent (name : Ustr) (payload : FlowPayload) : FlowEvent :=
  { name, payload := payload.toJson, action := .apply, flowType := .impulse }

def impulseMessages (impulse : FlowImpulseMetadata) (name : Ustr) (payload : FlowPayload) :
    List SubscriberMessage :=
  subscriberMessages name "impulse" payload.toJson .apply impulse.subscribers

/-- Fire one impulse. -/
def impulse (impulses : MetadataRegistry FlowImpulseMetadata) (name : Ustr)
    (payload : Option FlowPayload) : FlowProg Unit :=
  match impulses.find "*" name with
  | none => Prog.fail (.invalidState ("signal not found: " ++ name))
  | some definition =>
      let flowPayload := payload.getD (.none false)
      if !payloadTypeOk definition.payload flowPayload then
        Prog.fail (.invalidState ("signal payload type mismatch: " ++ name))
      else
        Prog.change (FlowState.announce (impulseEvent name flowPayload)
          (impulseMessages definition name flowPayload))

/-- The payload an impulse takes from the one it comes after, if all its
conditions are met. -/
def impulsePayloadFrom (facets : Facets) (source : FlowInstance)
    (definition : FlowImpulseMetadata) : Option FlowPayload := do
  let after ← definition.after
  if after.any (checkCondition · source) &&
      after.all (conditionMatches facets · (some source) none) then
    match definition.branch with
    | some branchSpecs => mapJsonPayload branchSpecs source.payload
    | none => some source.payload
  else none

/-- The impulses that come after a source, with the payloads they take. -/
def impulseDependents (impulses : MetadataRegistry FlowImpulseMetadata) (facets : Facets)
    (source : FlowInstance) : List (Ustr × FlowPayload) :=
  impulses.allItems.filterMap fun item =>
    (impulsePayloadFrom facets source item.2).map fun payload =>
      (rslvns item.1 item.2.name, payload)

/-- Fire each impulse once for each text of its payload. -/
def emitOnce (impulses : MetadataRegistry FlowImpulseMetadata) (emitted : List Ustr) :
    List (Ustr × FlowPayload) → FlowProg Unit
  | [] => pure ()
  | (name, payload) :: rest => do
      let signature := name ++ "|" ++ payload.toStringPayload
      if signature ∈ emitted then emitOnce impulses emitted rest
      else do
        Prog.attempt (impulse impulses name (some payload))
        emitOnce impulses (signature :: emitted) rest

def reconcileImpulseTranscendence (impulses : MetadataRegistry FlowImpulseMetadata)
    (source : FlowInstance) : FlowProg Unit := do
  let dependents ← Prog.read fun state => impulseDependents impulses state.facets source
  emitOnce impulses [] dependents

/-- Fire an impulse and the ones that come after it. -/
def fireImpulse (impulses : MetadataRegistry FlowImpulseMetadata) (name : Ustr)
    (payload : FlowPayload) : FlowProg Unit := do
  impulse impulses name (some payload)
  reconcileImpulseTranscendence impulses ⟨name, payload, .impulse⟩

/-- The runtime action `impulse`. -/
def impulseAction (impulses : MetadataRegistry FlowImpulseMetadata) (name : Ustr)
    (payload : Option Json) : FlowProg Unit :=
  fireImpulse impulses name (FlowPayload.fromJson payload)

end Rind
