import Rind.Flow.Runtime

/-!
# The transport runtime

Messages of clients come in through `ingest`, which dispatches actions of the
flow runtime.  Messages to subscribers go out through `send`.
-/

namespace Rind

inductive TransportMessageType where
  | impulse
  | facet
  | enquiry
  | response
  | unknown
  deriving DecidableEq, Repr

inductive TransportMessageAction where
  | set
  | remove
  deriving DecidableEq, Repr

structure TransportMessage where
  type : TransportMessageType
  payload : Option FlowPayload
  branch : Option FlowMatchOperation
  name : Option Ustr
  action : TransportMessageAction
  deriving DecidableEq, Repr

/-- The transports that clients connect to. -/
inductive StreamMethod where
  | uds
  | shm
  deriving DecidableEq, Repr

/-! ## Incoming messages -/

/-- What `ingest` reads of the permission store and of the definitions: the
name of a user, whether one holds a permission of a list, and the permissions a
facet or an impulse asks for. -/
structure IngestChecks where
  username : Nat → Option String
  holdsAny : Nat → List Ustr → Bool
  facetPermissions : Ustr → Option (List Ustr)
  impulsePermissions : Ustr → Option (List Ustr)

/-- What `ingest` sets off. -/
inductive Dispatched where
  | watchdogPing (service : Ustr)
  | log (service : Ustr)
  | respond (name : Option Ustr)
  | setFacet (name : Ustr) (payload : Option Json)
  | removeFacet (name : Ustr) (payload : Option Json)
  | impulse (name : Ustr) (payload : Option Json)
  deriving DecidableEq, Repr

section Ingest

variable [SerdeJson] (checks : IngestChecks)

/-- A name `user/rest` belongs to the user. Root may use every name. -/
def IngestChecks.ownName (uid : Nat) (name : Ustr) : Bool :=
  match Text.splitOnce '/' name with
  | some (owner, _) => (checks.username uid).all (owner == ·)
  | none => true

def IngestChecks.mayFacet (uid : Nat) (name : Ustr) : Bool :=
  uid == 0 || (checks.ownName uid name && (checks.facetPermissions name).all (checks.holdsAny uid))

def IngestChecks.mayImpulse (uid : Nat) (name : Ustr) : Bool :=
  (checks.impulsePermissions name).all (checks.holdsAny uid)

def facetDispatch (name : Ustr) (message : TransportMessage) : Dispatched :=
  match message.action with
  | .remove => .removeFacet name (message.payload.map FlowPayload.toJson)
  | .set => .setFacet name (message.payload.map FlowPayload.toJson)

/-- The actions a message from an endpoint sets off. Enquiries are answered
where the peer can be answered. -/
def ingest (endpoint : Ustr) (message : TransportMessage) (uid : Nat) (responder : Bool) :
    List Dispatched :=
  if message.name = some "watchdog" then [.watchdogPing endpoint]
  else if message.name = some "log" then [.log (rslvnsSnorm endpoint)]
  else
    match message.type, message.name with
    | .enquiry, name => if responder then [.respond name] else []
    | .facet, some name =>
        if checks.mayFacet uid name then [facetDispatch name message] else []
    | .impulse, some name =>
        if checks.mayImpulse uid name then
          [.impulse name (message.payload.map FlowPayload.toJson)]
        else []
    | _, _ => []

end Ingest

/-! ## Outgoing messages -/

/-- The arguments of the action `send`. -/
structure SendRequest where
  endpoint : Ustr
  name : Option Ustr
  branch : Option FlowMatchOperation
  action : Option String
  type : Option String
  payload : Option Json
  deriving DecidableEq, Repr

/-- A message on its way: to the standard input of a service, or to the clients
that the stream transports have at an endpoint. -/
inductive Outgoing where
  | stdio (endpoint : Ustr) (message : TransportMessage)
  | streams (endpoint : Ustr) (message : TransportMessage)
  deriving DecidableEq, Repr

section Send

variable [SerdeJson]

def sendMessage (request : SendRequest) : TransportMessage where
  type := if request.type.getD "facet" = "signal" then .impulse else .facet
  payload := request.payload.map fun value => FlowPayload.fromJson (some value)
  branch := request.branch
  name := request.name
  action := if request.action.getD "set" = "remove" then .remove else .set

/-- `TransportRuntime::send`. -/
def send (stdioEndpoints : List Ustr) (request : SendRequest) : Outgoing :=
  if request.endpoint ∈ stdioEndpoints then .stdio request.endpoint (sendMessage request)
  else .streams request.endpoint (sendMessage request)

/-- The `send` a message to a subscriber is dispatched as. -/
def SubscriberMessage.request (message : SubscriberMessage) : SendRequest where
  endpoint := message.endpoint
  name := some message.name
  branch := none
  action := some message.action
  type := some message.type
  payload := some message.payload

end Send

end Rind
