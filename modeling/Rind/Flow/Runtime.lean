import Rind.Flow.Triggers
import Rind.Primitives.Variables
import Rind.Prog.Core
import Mathlib.Data.Finset.Basic

/-!
# The flow runtime

Setting and removing facets.  A change of a facet is announced, stored, and
then carried on to its dependents: facets that come *after* it (transcendence)
and facets that it *stops* (inverse transcendence).  Dependents are changed by
the same two routines, so a change sets off a cascade of nested calls.

The runtime's routines are bodies over a parameter `call` for the nested calls.
`flowBody` puts them together, and `exec` is the routine with its recursion
tied.
-/

namespace Rind

/-- Which facets to reconsider when a facet changes. The order of the lists
stands for the unspecified iteration order of the program's hash sets. -/
structure FlowRuntime where
  inverseTranscendenceIndex : AList fun _ : Ustr => List Ustr
  transcendenceIndex : AList fun _ : Ustr => List Ustr

/-- What a call reads and never changes. -/
structure FlowEnv where
  metadata : MetadataRegistry FlowFacetMetadata
  runtime : FlowRuntime
  heap : Option VariableHeap

/-- The definition of a facet name. -/
def FlowEnv.find (env : FlowEnv) (name : Ustr) : Option FlowFacetMetadata :=
  env.metadata.find "*" name

/-- A call of one of the two mutually recursive routines. -/
inductive Call where
  | setFacet (name : Ustr) (payload : Option FlowPayload)
  | removeFacet (name : Ustr) (filter : Option FlowMatchOperation)
  deriving DecidableEq, Repr

/-- The facet a call is about. -/
def Call.name : Call → Ustr
  | .setFacet name _ => name
  | .removeFacet name _ => name

/-- A call together with the graph and the guard it was made on. -/
structure CallRecord where
  call : Call
  facets : Facets
  guard : Finset Ustr

/-- The facet graph and what a call does besides changing it. `calls` is a
history variable: the calls made so far, nested ones included. No routine reads
it. -/
structure FlowState where
  facets : Facets
  guard : Finset Ustr
  events : List FlowEvent
  messages : List SubscriberMessage
  calls : List CallRecord

abbrev FlowProg : Type → Type := Prog FlowState CoreError

namespace FlowState

def record (c : Call) (state : FlowState) : FlowState :=
  { state with calls := state.calls ++ [⟨c, state.facets, state.guard⟩] }

def enter (key : Ustr) (state : FlowState) : FlowState :=
  { state with guard := insert key state.guard }

def leave (key : Ustr) (state : FlowState) : FlowState :=
  { state with guard := state.guard.erase key }

/-- Emit an event and send the subscribers their messages. -/
def announce (event : FlowEvent) (messages : List SubscriberMessage) (state : FlowState) :
    FlowState :=
  { state with events := state.events ++ [event], messages := state.messages ++ messages }

/-- Replace the instances of a name. -/
def put (name : Ustr) (branches : List FlowInstance) (state : FlowState) : FlowState :=
  { state with facets := state.facets.insert name branches }

/-- Take the entry of a name out of the graph. -/
def take (name : Ustr) (state : FlowState) : FlowState :=
  { state with facets := state.facets.erase name }

end FlowState

/-! ## Messages to subscribers -/

def actionText : FlowAction → String
  | .apply => "set"
  | .revert => "remove"

/-- `publish_to_flow_subscribers`: the messages that are sent. -/
def subscriberMessages (endpoint : Ustr) (type : String) (payload : Json) (action : FlowAction)
    (subscribers : Option (List TransportMethod)) : List SubscriberMessage :=
  (subscribers.getD []).map fun subscriber =>
    let id := transportId subscriber
    let endpoint :=
      if (Text.stripPrefix "route:" id).isSome ∨ (id ≠ "uds" ∧ id ≠ "shm") then
        Text.trimStartMatches "route:" id
      else endpoint
    { endpoint, type, name := endpoint, action := actionText action, payload }

def facetSubscribersFor (env : FlowEnv) (name : Ustr) : Option (List TransportMethod) :=
  (env.find name).bind (·.subscribers)

/-! ## Payloads of dependents -/

section Payloads

variable [SerdeJson]

def payloadTypeOk (expected : FlowPayloadType) : FlowPayload → Bool
  | .json _ => expected == .json
  | .string _ => expected == .string
  | .bytes _ => expected == .bytes
  | .none _ => expected == .none

/-- The members an insert list takes from an array, by position. -/
def insertMany (keys : List String) (index : Nat) (value : Toml)
    (fields : List (String × Json)) : List (String × Json) :=
  match keys with
  | [] => fields
  | key :: rest =>
      match value.getIndex index with
      | some item =>
          insertMany rest (index + 1) value (OrderedFields.insert key item.toValue fields)
      | none => insertMany rest (index + 1) value fields

/-- The JSON text of an automatic payload. -/
def autoJson (cfg : AutoPayloadConfig) (value : Toml) : Json :=
  match cfg.insert with
  | some (.one key) => if key = "root" then value.toValue else .obj [(key, value.toValue)]
  | some (.many keys) => .obj (insertMany keys 0 value [])
  | none => .obj [("value", .str "none")]

def payloadsFromToml [TomlText] (facet : FlowFacetMetadata) (cfg : AutoPayloadConfig)
    (value : Toml) : FlowPayload :=
  match facet.payload with
  | .json => .json ⟨SerdeJson.toText (autoJson cfg value)⟩
  | .string => .string (TomlText.toText value)
  | .bytes => .bytes (TomlText.toText value).toUTF8.toList
  | .none => .none false

def autoPayloadsFor [TomlText] (facet : FlowFacetMetadata) (heap : Option VariableHeap) :
    List FlowPayload :=
  match facet.autoPayload with
  | none => []
  | some cfg =>
      match cfg.variableName.bind fun name => heap.bind (·.get name) with
      | none => [defaultPayloadForType facet.payload]
      | some value =>
          if cfg.many then
            match value.asArray with
            | none => [defaultPayloadForType facet.payload]
            | some items => items.map (payloadsFromToml facet cfg)
          else [payloadsFromToml facet cfg value]

def transcendentPayloadFor (facet : FlowFacetMetadata) (sourcePayload : FlowPayload) :
    Option FlowPayload :=
  match facet.payload with
  | .json =>
      match facet.branch with
      | some branchSpecs => mapJsonPayload branchSpecs sourcePayload
      | none =>
          match sourcePayload with
          | .json value => some (.json value)
          | _ => none
  | .string =>
      match sourcePayload with
      | .string value => some (.string value)
      | _ => none
  | .bytes =>
      match sourcePayload with
      | .bytes value => some (.bytes value)
      | _ => none
  | .none => some (.none false)

/-- The value a branch spec `a/b/c` leads to. -/
def walk (segments : List String) (current : Json) : Option Json :=
  match segments with
  | [] => some current
  | segment :: rest => (current.get segment).bind (walk rest)

def branchFilterFromPayload (payload : FlowPayload) (branchSpec : Ustr) :
    Option FlowMatchOperation :=
  match payload with
  | .json json => do
      let segments := (Text.split '/' branchSpec).filter (· ≠ "")
      let current ← walk segments json.intoJson
      some (.options none none (some (.obj [(branchTargetKey branchSpec, current)])))
  | _ => none

end Payloads

/-! ## Conditions on the graph -/

section Conditions

variable [SerdeJson]

def conditionIsActive (facets : Facets) (cond : FlowItem) (payload : Option FlowPayload) : Bool :=
  facets.entries.any fun entry => entry.2.any fun branch =>
    checkCondition cond { branch with type := .facet } && payloadCompatible payload branch.payload

def conditionMatches (facets : Facets) (cond : FlowItem) (event : Option FlowInstance)
    (payload : Option FlowPayload) : Bool :=
  event.any (fun event => checkCondition cond event && payloadCompatible payload event.payload) ||
    conditionIsActive facets cond payload

end Conditions

/-! ## Transcendence -/

section Reconcile

variable [SerdeJson] [TomlText]

/-- The payload a facet takes from a source it comes after. An automatic payload
takes precedence over the source's own. -/
def payloadFrom (env : FlowEnv) (facet : FlowFacetMetadata) (source : FlowInstance) :
    Option FlowPayload := do
  let sourcePayload ←
    if facet.autoPayload.isSome then (autoPayloadsFor facet env.heap).head?
    else some source.payload
  transcendentPayloadFor facet sourcePayload

/-- The change a source makes to one facet that comes after it. -/
def transcendentCall (env : FlowEnv) (source : FlowInstance) (action : FlowAction)
    (fullName : Ustr) : Option Call := do
  let facet ← env.find fullName
  let after ← facet.after
  if after.any (checkCondition · source) then do
    let payload ← payloadFrom env facet source
    match action with
    | .apply => some (.setFacet fullName (some payload))
    | .revert => some (.removeFacet fullName (payloadToFilter payload))
  else none

def reconcileTranscendence (env : FlowEnv) (call : Call → FlowProg Unit)
    (source : FlowInstance) (action : FlowAction) : FlowProg Unit :=
  match env.runtime.transcendenceIndex.lookup source.name with
  | none => pure ()
  | some targets =>
      Prog.each targets fun fullName =>
        match transcendentCall env source action fullName with
        | none => pure ()
        | some c => call c

/-- Whether an entry of a stop-on list lets a payload be active while `source`
changes. A plain entry for the source itself counts as absent on a revert. -/
def stopOnAllows (source : FlowInstance) (action : FlowAction) (facets : Facets)
    (payload : FlowPayload) (cfg : InverseBranchingConfig) : Bool :=
  let branches := facets.instances cfg.name
  match cfg.branch with
  | some branchSpec =>
      let filter := branchFilterFromPayload payload branchSpec
      !branches.any fun branch => filter.any (matchOperation · branch.payload)
  | none =>
      if action = .revert ∧ cfg.name = source.name then true else branches.isEmpty

/-- Whether the graph holds a branch of the name that a payload refers to. -/
def currentlyActive (facets : Facets) (fullName : Ustr) (payload : FlowPayload) : Bool :=
  (facets.instances fullName).any fun branch => payloadCompatible (some payload) branch.payload

/-- The change a source makes to one payload of a facet it may stop. -/
def inverseCall (source : FlowInstance) (action : FlowAction) (facets : Facets)
    (fullName : Ustr) (facet : FlowFacetMetadata) (deps : List InverseBranchingConfig)
    (payload : FlowPayload) : Option Call :=
  let shouldActivate :=
    facet.autoPayload.isSome && deps.all (stopOnAllows source action facets payload)
  let active := currentlyActive facets fullName payload
  if shouldActivate && !active then some (.setFacet fullName (some payload))
  else if !shouldActivate && active then
    some (.removeFacet fullName (payloadToFilter payload))
  else none

/-- The payloads of a facet that its stop-on list decides about. -/
def inversePayloads (env : FlowEnv) (facets : Facets) (fullName : Ustr)
    (facet : FlowFacetMetadata) : List FlowPayload :=
  if facet.autoPayload.isSome then autoPayloadsFor facet env.heap
  else (facets.instances fullName).map (·.payload)

/-- One facet that a source may stop. -/
def reconcileInverseTarget (env : FlowEnv) (call : Call → FlowProg Unit)
    (source : FlowInstance) (action : FlowAction) (fullName : Ustr) : FlowProg Unit :=
  match env.find fullName with
  | none => pure ()
  | some facet =>
      match facet.stopOn with
      | none => pure ()
      | some deps => do
          let payloads ← Prog.read fun state => inversePayloads env state.facets fullName facet
          Prog.each payloads fun payload => do
            let decision ← Prog.read fun state =>
              inverseCall source action state.facets fullName facet deps payload
            match decision with
            | none => pure ()
            | some c => call c

def reconcileInverseTranscendenceForSource (env : FlowEnv) (call : Call → FlowProg Unit)
    (source : FlowInstance) (action : FlowAction) : FlowProg Unit :=
  match env.runtime.inverseTranscendenceIndex.lookup source.name with
  | none => pure ()
  | some targets => Prog.each targets (reconcileInverseTarget env call source action)

/-! ## Setting a facet -/

def applyKey (name : Ustr) (payload : Option FlowPayload) : Ustr :=
  "apply::" ++ name ++ "::" ++ payloadSignature payload

/-- The keys that tell the branches of a facet apart. -/
def branchKeys (facet : FlowFacetMetadata) : List Ustr :=
  match facet.branch with
  | some specs => specs.map branchTargetKey
  | none => ["id"]

/-- The branch key of a stored instance. -/
def storedKey (keys : List Ustr) (branch : FlowInstance) : Option (List String) :=
  match branch.payload with
  | .json json => jsonBranchKey json.intoJson keys
  | _ => none

/-- A stored JSON branch after a new payload was merged into it. -/
def mergeInto (newJson : FlowJson) (branch : FlowInstance) : FlowInstance :=
  match branch.payload with
  | .json json =>
      { branch with
        payload := .json ⟨SerdeJson.toText (mergeJson json.intoJson newJson.intoJson)⟩ }
  | _ => branch

/-- Merge into the first branch with the new key, else append a branch. -/
def mergeBranch (keys : List Ustr) (newKey : List String) (newJson : FlowJson)
    (fresh : FlowInstance) : (entry : List FlowInstance) → List FlowInstance
  | [] => [fresh]
  | branch :: rest =>
      if storedKey keys branch = some newKey then mergeInto newJson branch :: rest
      else branch :: mergeBranch keys newKey newJson fresh rest

/-- The instances of a facet after a payload was stored, `none` where a JSON
payload lacks a branch key. -/
def storeInstance (facet : FlowFacetMetadata) (fresh : FlowInstance)
    (entry : List FlowInstance) : Option (List FlowInstance) :=
  match fresh.payload with
  | .json newJson => do
      let newKey ← jsonBranchKey newJson.intoJson (branchKeys facet)
      some (mergeBranch (branchKeys facet) newKey newJson fresh entry)
  | _ => some [fresh]

def applyEvent (fresh : FlowInstance) : FlowEvent :=
  { name := fresh.name, payload := fresh.payload.toJson, action := .apply, flowType := .facet }

def applyMessages (facet : FlowFacetMetadata) (fresh : FlowInstance) : List SubscriberMessage :=
  subscriberMessages fresh.name "facet" fresh.payload.toJson .apply facet.subscribers

/-- What `set_facet` does after a payload was stored. -/
def applyCascade (env : FlowEnv) (call : Call → FlowProg Unit) (fresh : FlowInstance) :
    FlowProg Unit := do
  reconcileTranscendence env call fresh .apply
  reconcileInverseTranscendenceForSource env call fresh .apply

def setFacet (env : FlowEnv) (call : Call → FlowProg Unit) (name : Ustr)
    (payload : Option FlowPayload) : FlowProg Unit := do
  let guardKey := applyKey name payload
  let guarded ← Prog.read fun state => decide (guardKey ∈ state.guard)
  if guarded then pure () else do
  Prog.change (FlowState.enter guardKey)
  match env.find name with
  -- the guard key stays behind here
  | none => Prog.fail (.invalidState ("facet not found: " ++ name))
  | some facet =>
      let flowPayload := payload.getD (.none false)
      if !payloadTypeOk facet.payload flowPayload then do
        Prog.change (FlowState.leave guardKey)
        Prog.fail (.invalidState ("state payload type mismatch: " ++ name))
      else do
        let fresh : FlowInstance := { name, payload := flowPayload, type := .facet }
        Prog.change (FlowState.announce (applyEvent fresh) (applyMessages facet fresh))
        let entry ← Prog.read fun state => state.facets.instances name
        -- `entry(name).or_default()`
        Prog.change (FlowState.put name entry)
        match storeInstance facet fresh entry with
        | none => do
            Prog.change (FlowState.leave guardKey)
            Prog.fail (.invalidState "invalid JSON branch keys")
        | some branches => do
            Prog.change (FlowState.put name branches)
            applyCascade env call fresh
            Prog.change (FlowState.leave guardKey)

/-! ## Removing a facet -/

def revertKey (branch : FlowInstance) : Ustr :=
  "revert::" ++ branch.name ++ "::" ++ payloadSignature (some branch.payload)

def revertEvent (branch : FlowInstance) : FlowEvent :=
  { name := branch.name, payload := branch.payload.toJson, action := .revert, flowType := .facet }

def revertMessages (env : FlowEnv) (name : Ustr) (branch : FlowInstance) :
    List SubscriberMessage :=
  subscriberMessages branch.name "facet" branch.payload.toJson .revert
    (facetSubscribersFor env name)

/-- Whether a filter removes a branch. No filter removes every branch. -/
def removes (filter : Option FlowMatchOperation) (branch : FlowInstance) : Bool :=
  filter.all (matchOperation · branch.payload)

/-- What `remove_facet` does after a branch was announced as removed. -/
def revertCascade (env : FlowEnv) (call : Call → FlowProg Unit) (branch : FlowInstance) :
    FlowProg Unit := do
  reconcileTranscendence env call branch .revert
  Prog.attempt (reconcileInverseTranscendenceForSource env call branch .revert)

/-- Announce one removed branch and carry its removal on. -/
def revertBranch (env : FlowEnv) (call : Call → FlowProg Unit) (name : Ustr)
    (stored : FlowInstance) : FlowProg Unit := do
  let branch := { stored with type := .facet }
  let guardKey := revertKey branch
  let guarded ← Prog.read fun state => decide (guardKey ∈ state.guard)
  if guarded then pure () else do
  Prog.change (FlowState.enter guardKey)
  Prog.change (FlowState.announce (revertEvent branch) (revertMessages env name branch))
  revertCascade env call branch
  Prog.change (FlowState.leave guardKey)

/-- Put the kept branches back, over whatever the cascade left there. -/
def putBack (name : Ustr) (toKeep : List FlowInstance) (state : FlowState) : FlowState :=
  if toKeep.isEmpty then state else state.put name toKeep

def removeFacet (env : FlowEnv) (call : Call → FlowProg Unit) (name : Ustr)
    (filter : Option FlowMatchOperation) : FlowProg Unit := do
  let entry ← Prog.read fun state => state.facets.lookup name
  match entry with
  | none => pure ()
  | some branches => do
      Prog.change (FlowState.take name)
      Prog.each (branches.filter (removes filter)) (revertBranch env call name)
      Prog.change (putBack name (branches.filter (!removes filter ·)))

/-! ## The recursion -/

/-- One call: note it, then run its routine. -/
def flowBody (env : FlowEnv) : Prog.Body FlowState CoreError Call := fun call c => do
  Prog.change (FlowState.record c)
  match c with
  | .setFacet name payload => setFacet env call name payload
  | .removeFacet name filter => removeFacet env call name filter

/-- The routines with at most `depth` calls nested in one another. -/
def run (env : FlowEnv) (depth : Nat) (c : Call) : FlowProg Unit :=
  Prog.iterate (flowBody env) depth c

/-- The routines with their recursion tied. -/
noncomputable def exec (env : FlowEnv) (c : Call) : FlowProg Unit :=
  Prog.fixpoint (flowBody env) c

/-! ## Bootstrap -/

/-- Every stop-on source is replayed as removed. -/
def reconcileInverseTranscendenceAll (env : FlowEnv) (call : Call → FlowProg Unit)
    (sources : List Ustr) : FlowProg Unit :=
  Prog.each sources fun source =>
    reconcileInverseTranscendenceForSource env call ⟨source, .none false, .facet⟩ .revert

/-- Bootstrap over given visiting orders of the loaded instances and of the
stop-on sources. -/
def bootstrapOver (env : FlowEnv) (call : Call → FlowProg Unit)
    (existingStates : List FlowInstance) (sources : List Ustr) : FlowProg Unit := do
  Prog.each existingStates fun state => reconcileTranscendence env call state .apply
  reconcileInverseTranscendenceAll env call sources

def bootstrap (env : FlowEnv) (call : Call → FlowProg Unit) : FlowProg Unit := do
  let existingStates ← Prog.read fun state => state.facets.entries.flatMap (·.2)
  bootstrapOver env call existingStates env.runtime.inverseTranscendenceIndex.keys

end Reconcile

/-! ## Indexes -/

section Indexes

def conditionName : FlowItem → Option Ustr
  | .simple name => some name
  | .detailed facet _ _ _ => facet

/-- Add a target to the set of a source. -/
def addTarget (target : Ustr) (index : AList fun _ : Ustr => List Ustr) (source : Ustr) :
    AList fun _ : Ustr => List Ustr :=
  index.insert source (((index.lookup source).getD []).insert target)

/-- The facets by the names they depend on. -/
def rebuildIndex (dependsOn : FlowFacetMetadata → List Ustr)
    (metadata : MetadataRegistry FlowFacetMetadata) : AList fun _ : Ustr => List Ustr :=
  metadata.allItems.foldl
    (fun index item =>
      (dependsOn item.2).foldl (addTarget (rslvns item.1 item.2.name)) index)
    ∅

def stopOnSources (facet : FlowFacetMetadata) : List Ustr :=
  (facet.stopOn.getD []).map InverseBranchingConfig.name

def afterSources (facet : FlowFacetMetadata) : List Ustr :=
  (facet.after.getD []).filterMap conditionName

def rebuildInverseTranscendenceIndex (metadata : MetadataRegistry FlowFacetMetadata) :
    AList fun _ : Ustr => List Ustr :=
  rebuildIndex stopOnSources metadata

def rebuildTranscendenceIndex (metadata : MetadataRegistry FlowFacetMetadata) :
    AList fun _ : Ustr => List Ustr :=
  rebuildIndex afterSources metadata

def refreshMetadataAndIndexes (metadata : MetadataRegistry FlowFacetMetadata) : FlowRuntime where
  inverseTranscendenceIndex := rebuildInverseTranscendenceIndex metadata
  transcendenceIndex := rebuildTranscendenceIndex metadata

end Indexes

end Rind
