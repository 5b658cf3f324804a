import Rind.Flow.Indexes
import Rind.Services.Sockets

/-!
# Triggers

What an event or the boot of a scope leads to: `evaluate_triggers` of the
services and of the sockets.  The definitions that name an event in their
start-on or stop-on conditions are looked up in an index, and each of them is
stopped or started as its conditions tell.
-/

namespace Rind

/-- What is to be evaluated: an event, or without a name a whole scope. -/
structure EmitTrigger where
  name : Option Ustr
  flowType : Option FlowType
  payload : Option FlowPayload
  action : FlowAction
  deriving DecidableEq, Repr

/-- The event of a trigger, where it is complete. -/
def EmitTrigger.event (trigger : EmitTrigger) : Option FlowInstance := do
  some { name := ← trigger.name, payload := ← trigger.payload, type := ← trigger.flowType }

/-! ## The trigger index -/

/-- `FlowItem::name`, which panics where there is none. -/
def FlowItem.name : FlowItem → Option Ustr
  | simple name => some name
  | detailed (some facet) _ _ _ => some facet
  | detailed none impulse _ _ => impulse

/-- The names a definition is indexed by. -/
def interests (startOn stopOn : Option (List FlowItem)) : List Ustr :=
  (startOn.getD [] ++ stopOn.getD []).filterMap FlowItem.name

/-- The keys by the names they are interested in. -/
def indexInterests (entries : List (Ustr × List Ustr)) : AList fun _ : Ustr => List Ustr :=
  entries.foldl (fun index entry => entry.2.foldl (addTarget entry.1) index) ∅

/-- The services under their full names, with their interests. -/
def serviceInterests (definitions : MetadataRegistry ServiceMetadata) :
    List (Ustr × List Ustr) :=
  definitions.metadata.entries.flatMap fun page =>
    page.2.values.entries.flatMap fun group =>
      group.2.map fun item =>
        (rslvns group.1 item.name ++ "@" ++ page.1, interests item.startOn item.stopOn)

/-- The sockets under their names without a scope, with their interests. -/
def socketInterests (definitions : MetadataRegistry SocketMetadata) : List (Ustr × List Ustr) :=
  definitions.allItems.map fun item =>
    (rslvns item.1 item.2.name, interests item.2.startOn item.2.stopOn)

/-- The other spelling of a name in the default scope. -/
def staticAlias (name : Ustr) : Ustr :=
  if Text.endsWith name "@static" then Text.trimEndMatches "@static" name else name ++ "@static"

/-- The definitions a trigger is about, in an unspecified order. -/
def triggerTargets {M : Type} [NamedItem M] (index : AList fun _ : Ustr => List Ustr)
    (definitions : MetadataRegistry M) (scope : Ustr) (trigger : EmitTrigger) : List Ustr :=
  match trigger.name with
  | some name => (targetsOf index name ++ targetsOf index (staticAlias name)).dedup
  | none =>
      (((definitions.items scope).getD []).map fun item =>
        rslvns item.1 (NamedItem.name item.2) ++ "@" ++ scope).dedup

/-! ## Branches -/

section Branches

variable [SerdeJson]

def branchKeyFromPayload (payload : FlowPayload) (keyName : Option String) : Option Ustr :=
  match keyName with
  | some field => (payloadFieldAsKey payload field).filter (· ≠ "")
  | none =>
      let value := payload.toStringPayload
      if value = "" then none else some value

/-- Whether an entry of an `only` or `except` list is about a branch key. -/
def checkBranchMatch (facets : Facets) (heap : VariableHeap) (spec key : String) : Bool :=
  match Text.stripPrefix "var:" spec with
  | some variableName =>
      match heap.get variableName with
      | none => false
      | some value =>
          match value.asArray with
          | some items => items.any fun item => subsetMatch (.str key) item.toValue
          | none => subsetMatch (.str key) value.toValue
  | none =>
      let ofFacet :=
        (Text.stripPrefix "facet:" spec).any fun source =>
          match Text.splitOnce '/' source with
          | some (name, field) => (facets.instances name).any fun branch =>
              subsetMatch (.str key) ((branch.payload.getJsonField field).getD .null)
          | none => (facets.instances source).any fun branch =>
              subsetMatch (.str key) branch.payload.toJson
      let ofMany :=
        (Text.stripPrefix "many:" spec).any fun names =>
          (Text.split ',' names).any fun name => subsetMatch (.str key) (.str (Text.trim name))
      ofFacet || ofMany || subsetMatch (.str key) (.str spec)

/-- Whether the `only` and `except` lists let a branch have an instance. -/
def BranchingConfig.admits (branching : BranchingConfig) (facets : Facets) (heap : VariableHeap)
    (key : Ustr) : Bool :=
  branching.only.all (·.any (checkBranchMatch facets heap · key)) &&
    !branching.except.any (·.any (checkBranchMatch facets heap · key))

end Branches

/-! ## Services -/

def Service.isRunning (service : Service) : Bool := service.instances.any (·.state.isRunning)

/-- Whether an instance with a branch key is running. -/
def Service.runsBranch (service : Service) (key : Ustr) : Bool :=
  service.instances.any fun inst => inst.key == key && inst.state.isRunning

structure TriggerState where
  services : Services
  toStart : List (Ustr × Option ServiceBranchContext)

section Services

variable [SerdeJson]

/-- Whether the start-on conditions of a service are met. -/
def ServiceMetadata.shouldStart (metadata : ServiceMetadata) (facets : Facets)
    (event : Option FlowInstance) : Bool :=
  metadata.startOn.any (·.all (conditionMatches facets · event none))

/-- Whether a stop-on condition of a service is met. -/
def ServiceMetadata.shouldStop (metadata : ServiceMetadata) (facets : Facets)
    (event : Option FlowInstance) : Bool :=
  metadata.stopOn.any (·.any (conditionMatches facets · event none))

/-- Whether a removed facet ends a start-on condition of a service without
stop-on. -/
def ServiceMetadata.autoStopOnRevert (metadata : ServiceMetadata) (facets : Facets)
    (trigger : EmitTrigger) : Bool :=
  metadata.stopOn.isNone && trigger.action == .revert && trigger.event.any fun event =>
    metadata.startOn.any (·.any fun cond =>
      checkCondition cond event && !conditionIsActive facets cond none)

/-- The keys of the running instances of a branch that was removed. -/
def Service.revertedKeys (service : Service) (branching : BranchingConfig)
    (trigger : EmitTrigger) : List Ustr :=
  match trigger.action, trigger.event with
  | .revert, some event =>
      if branching.key.isSome ∧ event.name = branching.source then
        let key := branchKeyFromPayload event.payload branching.key
        (service.instances.filter fun inst =>
          inst.state.isRunning && key == some inst.key).map ChildInstance.key
      else []
  | _, _ => []

/-- Stop what a trigger stops of a service. -/
def stopTriggered (env : ServiceEnv) (trigger : EmitTrigger) (service : Service) (host : Host) :
    Service × Host :=
  match service.metadata.branching with
  | some branching =>
      (service.revertedKeys branching trigger).foldl
        (fun stopped key =>
          stopService env.now .graceful (some key) none none stopped.1 stopped.2)
        (service, host)
  | none =>
      if (service.metadata.shouldStop env.facets trigger.event ||
          service.metadata.autoStopOnRevert env.facets trigger) && service.isRunning then
        stopService env.now .graceful none none none service host
      else (service, host)

def TriggerState.stop (env : ServiceEnv) (trigger : EmitTrigger) (key : Ustr)
    (state : TriggerState) : TriggerState :=
  match state.services.instances.lookup key with
  | none => state
  | some service =>
      let (service, host) := stopTriggered env trigger service state.services.host
      { state with services := { instances := state.services.instances.insert key service, host } }

/-- Whether all services that a service comes after are running. -/
def aftersRunning (env : ServiceEnv) (metadata : ServiceMetadata) (services : Services) : Bool :=
  metadata.after.all (·.all fun name =>
    (services.instances.lookup (env.metadata.instanceKey "*" name)).any Service.isRunning)

/-- The branches that a branching service is started for. -/
def branchesToConsider (facets : Facets) (branching : BranchingConfig)
    (event : Option FlowInstance) : List FlowInstance :=
  facets.instances branching.source ++
    (event.filter fun event => event.type == .impulse && event.name == branching.source).toList

/-- The branches of a list that get an instance, up to the maximum. -/
def branchStarts (env : ServiceEnv) (branching : BranchingConfig) (service : Service) :
    (branches : List FlowInstance) → (started : Nat) → List ServiceBranchContext
  | [], _ => []
  | branch :: rest, started =>
      match branchKeyFromPayload branch.payload branching.key with
      | none => branchStarts env branching service rest started
      | some key =>
          if service.runsBranch key || !branching.admits env.facets env.heap key then
            branchStarts env branching service rest started
          else if branching.maxInstances.any fun max =>
              max ≤ service.instances.length || max ≤ started then []
          else
            ⟨some key, some branch.payload, none⟩ ::
              branchStarts env branching service rest (started + 1)

/-- Note the starts of a service whose conditions are met. -/
def startTriggered (env : ServiceEnv) (trigger : EmitTrigger) (name : Ustr) :
    Prog TriggerState CoreError Unit := fun state =>
  let (base, scope) := (Text.rsplitOnce '@' name).getD (name, "static")
  match env.metadata.instantiateOne Service.new scope base state.services.instances with
  | none => some (.error (.metadataNotFound (env.metadata.resolveMetadataKey scope base)), state)
  | some (key, service) =>
      let starts :=
        match service.metadata.branching with
        | some branching =>
            (branchStarts env branching service
              (branchesToConsider env.facets branching trigger.event) 0).map some
        | none => [none]
      some (.ok (), {
        services := state.services.store key service
        toStart := state.toStart ++ starts.map fun ctx => (name, ctx) })

/-- One definition that a trigger is about. -/
def considerService (env : ServiceEnv) (trigger : EmitTrigger) (name : Ustr) :
    Prog TriggerState CoreError Unit :=
  match env.metadata.find "*" name with
  | none => pure ()
  | some metadata =>
      if ':' ∉ name.toList then pure () else do
      let key := ensureScopedName name
      let running ← Prog.read fun state =>
        (state.services.instances.lookup key).any Service.isRunning
      Prog.change (TriggerState.stop env trigger key)
      if !metadata.shouldStart env.facets trigger.event then pure () else do
      let ready ← Prog.read fun state => aftersRunning env metadata state.services
      if !ready || (metadata.branching.isNone && running) then pure ()
      else startTriggered env trigger name

/-- What a trigger stops, and the starts it leads to. -/
def considerServices (env : ServiceEnv) (trigger : EmitTrigger) (targets : List Ustr) :
    Prog TriggerState CoreError Unit :=
  Prog.each targets (considerService env trigger)

variable [TomlText]

/-- `ServiceRuntime::evaluate_triggers` over a given order of the targets. `answer`
says what comes of the spawns of each start. -/
def evaluateTriggers (env : ServiceEnv) (answer : Nat → Nat → SpawnAnswer)
    (trigger : EmitTrigger) (targets : List Ustr) : Prog Services CoreError Unit := fun services =>
  match considerServices env trigger targets ⟨services, []⟩ with
  | none => none
  | some (.error error, state) => some (.error error, state.services)
  | some (.ok (), state) =>
      Prog.each state.toStart.zipIdx
        (fun entry services => some (start { env with answer := answer entry.2 }
          { name := entry.1.1, onlyUser := none, branchCtx := entry.1.2, deferred := false }
          services))
        state.services

end Services

/-! ## Sockets -/

section Sockets

variable [SerdeJson]

def SocketMetadata.shouldStart (metadata : SocketMetadata) (facets : Facets)
    (event : Option FlowInstance) : Bool :=
  metadata.startOn.any (·.any (conditionMatches facets · event none))

def SocketMetadata.shouldStop (metadata : SocketMetadata) (facets : Facets)
    (event : Option FlowInstance) : Bool :=
  metadata.stopOn.any (·.any (conditionMatches facets · event none))

/-- Note a socket in the tables of its runtime. -/
def SocketRuntime.record (name : Ustr) (socket : Socket) (sockets : SocketRuntime) :
    SocketRuntime :=
  { sockets with
    instances := sockets.instances.insert socket.fd name
    owner :=
      match socket.metadata.owner with
      | none => sockets.owner
      | some owner => sockets.owner.insert socket.fd owner
    owners :=
      match socket.metadata.owner with
      | none => sockets.owners
      | some owner => sockets.owners.insert owner
          ((sockets.owners.lookup owner).getD [] ++ [(socket.metadata.name, socket.fd)]) }

/-- `instantiate_one::<Socket>`, where `create` gives the descriptor of a new
socket. -/
def instantiateSocket (definitions : MetadataRegistry SocketMetadata)
    (create : SocketMetadata → Except CoreError Nat) (name : Ustr) (instances : UnitInstances) :
    Except CoreError Socket × UnitInstances :=
  let key := definitions.instanceKey "*" name
  match (instances.lookup key).getD [] with
  | .socket socket :: _ => (.ok socket, instances)
  | _ :: _ => (.error (.typeMismatch "instance" "unkown"), instances)
  | [] =>
      match definitions.instantiated "*" name with
      | none => (.error (.metadataNotFound (definitions.resolveMetadataKey "*" name)), instances)
      | some metadata =>
          match create metadata with
          -- the empty entry stays behind here
          | .error error =>
              (.error (.custom ("failed to create socket " ++ name ++ ": " ++ error.text)),
                instances.insert key [])
          | .ok fd =>
              let socket := { metadata, fd, active := true }
              (.ok socket, instances.insert key [.socket socket])

def startSocket (definitions : MetadataRegistry SocketMetadata)
    (create : SocketMetadata → Except CoreError Nat) (name : Ustr) : UnitProg Unit :=
  fun units =>
    match instantiateSocket definitions create name units.instances with
    | (.error error, instances) => some (.error error, { units with instances })
    | (.ok socket, instances) =>
        some (.ok (), { units with instances, sockets := units.sockets.record name socket })

/-- Whether `as_one` finds an active socket. -/
def socketActive (definitions : MetadataRegistry SocketMetadata) (name : Ustr) (units : Units) :
    Bool :=
  (units.entry (definitions.instanceKey "*" name)).getLast?.any fun unit =>
    unit.asSocket.any Socket.active

/-- One socket that a trigger is about. -/
def considerSocket (definitions : MetadataRegistry SocketMetadata)
    (create : SocketMetadata → Except CoreError Nat) (facets : Facets)
    (event : Option FlowInstance) (name : Ustr) : UnitProg Unit :=
  match definitions.find "*" name with
  | none => pure ()
  | some metadata => do
      let active ← Prog.read (socketActive definitions name)
      if metadata.shouldStart facets event && !active then
        Prog.attempt (startSocket definitions create name)
      else if metadata.shouldStop facets event && active then
        Prog.attempt (stopSocket definitions name)
      else pure ()

/-- `SocketRuntime::evaluate_triggers` over a given order of the targets. -/
def evaluateSocketTriggers (definitions : MetadataRegistry SocketMetadata)
    (create : SocketMetadata → Except CoreError Nat) (facets : Facets) (trigger : EmitTrigger)
    (targets : List Ustr) : UnitProg Unit :=
  Prog.each targets (considerSocket definitions create facets trigger.event)

end Sockets

end Rind
