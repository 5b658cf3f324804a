import Rind.Ipc.Ports

/-!
# Lists of units

The handler that shows units, facets, variables and scopes to anybody who asks.  It only
reads, and an error in it becomes part of the reply.
-/

namespace Rind.Ipc

section Lists

variable [SerdeJson] [TomlText]

/-! ## Looking things up -/

namespace UnitRegistry

variable (registry : UnitRegistry)

/-- `as_one`: the instance that stands last under a name. -/
def asOne {M : Type} (definitions : MetadataRegistry M) (name : Ustr) : Option UnitInstance :=
  (registry.instances.lookup (definitions.instanceKey "*" name)).bind List.getLast?

/-- `instances`: all that stand under a name. -/
def instancesOf {M : Type} (definitions : MetadataRegistry M) (name : Ustr) :
    List UnitInstance :=
  (registry.instances.lookup (definitions.instanceKey "*" name)).getD []

/-- The groups of a page, or those of all pages for `*`. -/
def groupsOf (scope : Ustr) : Option (List Ustr) :=
  if scope = "*" then some (registry.groups.entries.flatMap fun page => page.2.keys).dedup
  else (registry.groups.lookup scope).map AList.keys

def hasGroup (scope group : Ustr) : Bool :=
  (registry.groups.lookup scope).any fun groups => group ∈ groups

/-- The description of a group. -/
def descriptor (scope group : Ustr) : Option String :=
  ((registry.groups.lookup scope).bind (·.lookup group)).join

end UnitRegistry

/-- The items of a group on any page, with the page. -/
def pagedItems {M : Type} (definitions : MetadataRegistry M) (group : Ustr) : List (Ustr × M) :=
  definitions.metadata.entries.flatMap fun page =>
    ((page.2.values.lookup group).getD []).map fun item => (page.1, item)

/-- A name within a scope. -/
def scopedItem (group name scope : Ustr) : Ustr := rslvns group name ++ "@" ++ scope

/-- The instances of a facet under its name in a scope, or under its bare name. -/
def facetInstances (facets : Facets) (group name scope : Ustr) : Option (List FlowInstance) :=
  (facets.lookup (scopedItem group name scope)).or (facets.lookup (rslvns group name))

/-- Whether a file system is mounted at a place. -/
def isMounted (proc : ProcFs) (target : Ustr) : Bool :=
  (Text.lines (proc.mountinfo.getD "")).any fun line =>
    (Text.splitWhitespace line)[4]? == some target

/-! ## Writing things down -/

variable (env : Env)

/-- The text of a state. -/
def stateText : ServiceState → String
  | .active => "Active"
  | .inactive => "Inactive"
  | .starting => "Starting"
  | .stopping => "Stopping"
  | .exited code => "Exited(" ++ toString code ++ ")"
  | .error text => "Error(" ++ env.debug text ++ ")"

/-- The state of the instance that was started last. -/
def lastState (service : Service) : String :=
  (service.instances.getLast?.map fun inst => stateText env inst.state).getD "Inactive"

def pids (service : Service) : List Nat := service.instances.filterMap ChildInstance.pid

/-- The payloads of instances, as JSON. -/
def serializedInstances (instances : Option (List FlowInstance)) : List (List UInt8) :=
  (instances.getD []).map fun branch => env.format.write (.json branch.payload.toJson)

def serializeSocket (socket : SocketDefinition) (active : Bool) : SocketSerialized where
  name := socket.name
  listen := socket.listen
  type := socket.kind
  triggers := (socket.trigger.map List.length).getD 0
  active := active

/-- A reply with a value. -/
def okWith (value : Serialized) : Message :=
  (Message.fromType .ok).withPayload (env.format.write value)

/-- A reply with a list that says how it is to be printed. -/
def okList (printer : IpcListPrinter) (entries : List Serialized) : Message :=
  okWith env (.list ⟨entries.map env.format.write, some printer⟩)

/-! ## One unit -/

section Build

open Handler

/-- The first process, which is looked at if there is one. -/
def firstPid (found : List Nat) : Handler (Option Nat) :=
  if found.isEmpty then pure none
  else do
    let pid ← unwrap found[0]?
    pure (some pid)

/-- The service with its instances, where it has been started. -/
def serializeService (registry : UnitRegistry) (group scope : Ustr)
    (definition : ServiceDefinition) : Handler ServiceSerialized := do
  let service := (registry.asOne registry.services
    (scopedItem group definition.name scope)).bind UnitInstance.asService
  let pid ← firstPid ((service.map pids).getD [])
  pure
    { name := definition.name, description := none
      lastState := (service.map (lastState env)).getD "Inactive"
      after := definition.after, restart := definition.restart.isSome
      run := definition.run.asMany.map RunOption.exec, pid }

/-- The items of a unit. The name may hold a scope itself. -/
def listUnit (facets : Facets) (registry : UnitRegistry) (payload : ListPayload) :
    Handler Message := do
  let (group, scope) :=
    (Text.splitOnce '@' payload.name).getD (payload.name, payload.scope.getD "static")
  if !registry.hasGroup scope group then throw (.notFound ("unit " ++ group))
  let services ← Prog.collect (serializeService env registry group scope)
    ((registry.services.groupItems scope group).getD [])
  let mounts := ((registry.mounts.groupItems scope group).getD []).map fun mount =>
    { source := mount.source, target := mount.target, fstype := mount.fstype
      mounted := isMounted env.proc mount.target }
  let sockets := ((registry.sockets.groupItems scope group).getD []).map fun socket =>
    let running := registry.asOne registry.sockets (scopedItem payload.name socket.name scope)
    serializeSocket socket (running.bind UnitInstance.asSocket).isSome
  let facets := ((registry.facets.groupItems scope group).getD []).map fun facet =>
    { name := facet.name
      instances := serializedInstances env
        (facetInstances facets payload.name facet.name scope)
      keys := facet.branch.getD [] }
  let impulses := ((registry.impulses.groupItems scope group).getD []).map fun impulse =>
    { name := impulse.name }
  pure (okWith env (.unit
    { description := registry.descriptor scope group, mounts, services, sockets, facets, impulses }))

/-! ## One item -/

/-- The definition of an item, or an error that names it. -/
def findItem {M : Type} [NamedItem M] (definitions : MetadataRegistry M) (type : String)
    (name : Ustr) : Handler M :=
  okOr (.metadataNotFound (type ++ " not found: " ++ name)) (definitions.find "*" name)

def listService (registry : UnitRegistry) (name : Ustr) : Handler Message := do
  let definition ← findItem registry.services "Service" name
  let service := ((registry.asOne registry.services name).bind UnitInstance.asService).getD
    (.new definition.toServiceMetadata)
  pure (okWith env (.service
    { name := service.metadata.name, description := definition.description
      lastState := lastState env service, after := service.metadata.after
      restart := service.metadata.restart.isSome
      run := service.metadata.run.asMany.map RunOption.exec, pid := (pids service)[0]? }))

def listSocket (registry : UnitRegistry) (name : Ustr) : Handler Message := do
  let definition ← findItem registry.sockets "Socket" name
  let active := ((registry.asOne registry.sockets name).bind UnitInstance.asSocket).any Socket.active
  pure (okWith env (.socket (serializeSocket definition active)))

def listFacet (facets : Facets) (registry : UnitRegistry) (name : Ustr) : Handler Message := do
  let definition ← findItem registry.facets "Facet" name
  pure (okWith env (.facet
    { name, instances := serializedInstances env (facets.lookup name)
      keys := definition.branch.getD [] }))

/-- The facets with branches. -/
def listFacets (facets : Facets) (registry : UnitRegistry) : Handler Message :=
  pure (okWith env (.facets (facets.entries.filterMap fun entry => do
    let definition ← registry.facets.find "*" entry.1
    let keys ← definition.branch
    some { name := entry.1, instances := serializedInstances env (some entry.2), keys })))

/-! ## Scopes and variables -/

def listScopes : Handler Message := do
  let scopes ← Prog.read Daemon.globalScopes
  pure (okList env ⟨"list", ["Name", "Attributes"], ["name", "attributes"], ["blue", "yellow"]⟩
    (scopes.scopes.entries.map fun entry => .scope entry.2))

/-- How variables are printed, in one of two ways. -/
def variablePrinter (type : String) : IpcListPrinter :=
  ⟨type, ["Name", "Default", "Value"], ["name", "default", "value"], ["green", "yellow", "cyan"]⟩

def variableHeap : Handler VariableHeap :=
  singleton (.invalidState "variable heap not found") Daemon.heap

def serializeVariable (heap : VariableHeap) (name : Ustr) (initial : Toml) : Serialized :=
  .variable
    { name, default := TomlText.toText initial
      value := TomlText.toText ((heap.get name).getD initial) }

def listVariables : Handler Message := do
  let heap ← variableHeap
  pure (okList env (variablePrinter "table")
    (heap.defaults.entries.map fun entry => serializeVariable heap entry.1 entry.2))

def listVariable (name : Ustr) : Handler Message := do
  let heap ← variableHeap
  let initial ← okOr (.notFound ("variable " ++ name)) (heap.defaults.lookup name)
  pure (okList env (variablePrinter "list") [serializeVariable heap name initial])

/-! ## All units -/

/-- The items of a group that are active, where an item has some instance that is. -/
def countActive {M : Type} (registry : UnitRegistry) (definitions : MetadataRegistry M)
    (items : List (Ustr × M)) (nameOf : M → Ustr) (group : Ustr)
    (active : UnitInstance → Bool) : Nat :=
  items.countP fun item =>
    (registry.instancesOf definitions (scopedItem group (nameOf item.2) item.1)).any active

def serializeGroup (facets : Facets) (registry : UnitRegistry) (group : Ustr) :
    UnitSerialized :=
  let services := pagedItems registry.services group
  let sockets := pagedItems registry.sockets group
  let definitions := pagedItems registry.facets group
  let mounts := (registry.mounts.groupItems "*" group).getD []
  { name := group
    services := services.length
    activeServices := countActive registry registry.services services
      (fun service => service.name) group fun inst =>
        inst.asService.any fun service => service.instances.any (·.state == .active)
    mounts := mounts.length
    mounted := mounts.countP fun mount => isMounted env.proc mount.target
    sockets := sockets.length
    activeSockets := countActive registry registry.sockets sockets (fun socket => socket.name)
      group fun inst => inst.asSocket.any Socket.active
    facets := definitions.length
    activeFacets := definitions.countP fun item =>
      (facetInstances facets group item.2.name item.1).isSome
    impulses := ((registry.impulses.groupItems "*" group).getD []).length }

def listUnits (facets : Facets) (registry : UnitRegistry) (payload : ListPayload) :
    Handler Message :=
  let units := ((registry.groupsOf (payload.scope.getD "static")).getD []).map
    (serializeGroup env facets registry)
  pure (okWith env (.units (units.mergeSort fun first second => first.name ≤ second.name)))

/-! ## Lists of extensions -/

def networkMethodText : NetworkMethod → String
  | .dhcp => "dhcp"
  | .static => "static"
  | .none => "none"

/-- A text in a JSON payload. -/
def payloadText (branch : FlowInstance) (field : String) : Option Ustr :=
  match branch.payload.getJsonField field with
  | some (.str text) => some text
  | _ => none

/-- The configuration that is in place for an interface. -/
def configuredAs (facets : Facets) (name : Ustr) : Option FlowInstance :=
  (facets.instances "net:configured!").find? fun branch =>
    payloadText branch "name" == some name

def serializeNetwork (facets : Facets) (config : NetworkConfigMetadata) : Serialized :=
  let configured := configuredAs facets config.name
  .network
    { interface := config.name, method := networkMethodText config.method
      address := configured.bind (payloadText · "ip")
      gateway := configured.bind (payloadText · "gateway")
      state := if configured.isSome then "Configured" else "Down" }

def listPorts : Handler Message := do
  let ports ← unwrap (getPorts env.proc)
  pure (okList env
    ⟨"table", ["Protocol", "Local IP", "Port", "State", "PID", "Process"],
      ["protocol", "local_address", "local_port", "state", "pid", "process"],
      ["blue", "green", "yellow", "white", "magenta", "cyan"]⟩ (ports.map .port))

def listNetworks (registry : UnitRegistry) : Handler Message := do
  let facets ← singleton .runtimeStopped Daemon.facets
  pure (okList env
    ⟨"list", ["Interface", "Method", "Address", "Gateway", "Status"],
      ["interface", "method", "address", "gateway", "state"],
      ["blue", "white", "yellow", "magenta", "green"]⟩
    (registry.networks.allItems.map fun item => serializeNetwork facets item.2))

/-- A list that only an extension knows. -/
def listByExtension (registry : UnitRegistry) (unitType : String) : Handler Message := do
  let networking ← okOr (.invalidState "extension manager not initialized") env.extensions
  if networking && unitType == "netport" then listPorts env
  else if networking && unitType == "netiface" then listNetworks env registry
  else throw .unknown

/-! ## The handler -/

def buildIpcListResponse (payload : ListPayload) : Handler Message := do
  let facets ← singleton (.invalidState "state machine store not found") Daemon.facets
  let registry ← Prog.read Daemon.registry
  match payload.unitType with
  | "unit" => listUnit env facets registry payload
  | "service" => listService env registry payload.name
  | "socket" => listSocket env registry payload.name
  | "facet" =>
      if payload.name.isEmpty then listFacets env facets registry
      else listFacet env facets registry payload.name
  | "scopes" => listScopes env
  | "variables" => listVariables env
  | "variable" => listVariable env payload.name
  | "unknown" | "units" | "all" | "" => listUnits env facets registry payload
  | other => listByExtension env registry other

/-- The text of an error becomes the reply, so that there always is one to unwrap. -/
def orErrorMessage (body : Handler Message) : Handler Message := fun daemon =>
  (body daemon).map fun outcome =>
    match outcome with
    | (.error (.error error), final) =>
        (.ok (env.format.textMessage .error error.text), final)
    | outcome => outcome

def handleIpcList (msg : Message) : Handler Message := do
  let payload ← parse env.format.list msg
  orErrorMessage env (buildIpcListResponse env payload)

end Build

end Lists

end Rind.Ipc
