import Rind.Ipc.Users

/-!
# Services and sockets

The handlers that start and stop services and sockets.  Root and those who hold the
permission `SystemServices` may manage all of them.  Others may manage what asks for a
permission they hold, and services of users.
-/

namespace Rind.Ipc

/-! ## Who may manage what -/

/-- Whether a user holds a permission of one of the names. -/
def holdsAny (fuel : Nat) (pm : PermissionStore) (uid : UInt32) (names : List Ustr) : Option Bool :=
  names.anyM fun name =>
    match pm.fromName name with
    | some perm => pm.userHas fuel uid perm
    | none => some false

/-- Whether a user may manage an item, which lists who may, or else belongs to somebody. -/
def canManage {M : Type} (fuel : Nat) (pm : PermissionStore) (uid : UInt32) (item : Option M)
    (managedBy : M → Option (List Ustr)) (ownerHasAccess : M → UserRecord → Bool) : Option Bool :=
  if uid = 0 then some true
  else
    (pm.userHas fuel uid permSystemServices).bind fun held =>
      if held then some true
      else
        match pm.users.lookupByUid uid, item with
        | some caller, some item =>
            match managedBy item with
            | some names => holdsAny fuel pm uid names
            | none => some (ownerHasAccess item caller)
        | _, _ => some false

/-- The user that a request is only about. -/
def onlyUser (fuel : Nat) (pm : PermissionStore) (uid : UInt32) : Option (Option Ustr) :=
  (pm.userHas fuel uid permSystemServices).map fun held =>
    if uid == 0 || held then none else (pm.users.lookupByUid uid).map UserRecord.username

def ServiceDefinition.ownerHasAccess (service : ServiceDefinition) (caller : UserRecord) : Bool :=
  match service.space with
  | .user => true
  | .userSelective user => user == caller.username
  | .system => false

/-- The owner of a socket never gives access to it. -/
def SocketDefinition.ownerHasAccess (_ : SocketDefinition) (_ : UserRecord) : Bool := false

section Handlers

open Handler

variable (env : Env) (fuel : Nat) (msg : Message)

/-! ## Services -/

/-- Dispatch an action on a service, and one on the facet that keeps it where it is to
last. -/
def manageService (action : SSPayload → Option Ustr → ServiceDispatch)
    (kept : Option Json → Dispatched) (done : String) : Handler Message := do
  let pm ← permissionStore
  let payload ← parse env.format.ss msg
  let uid ← okOr .permissionDenied msg.fromUid
  let registry ← Prog.read Daemon.registry
  let service := registry.services.find "*" payload.name
  let managed ← Prog.await
    (canManage fuel pm uid service ServiceDefinition.managedBy ServiceDefinition.ownerHasAccess)
  if managed then
    let only ← Prog.await (onlyUser fuel pm uid)
    dispatch (.service (action payload only))
    if payload.persist then dispatch (.flow (kept (some (.str payload.name))))
    pure (env.format.okMessage (done ++ payload.name))
  else denied

def handleIpcStart : Handler Message :=
  manageService env fuel msg (fun payload only => .start payload.name only)
    (.setFacet "rind:active") "started "

def handleIpcStop : Handler Message :=
  manageService env fuel msg (fun payload only => .stop payload.name payload.force only)
    (.removeFacet "rind:active") "stopped "

/-! ## Sockets -/

/-- Dispatch an action on a socket, after a check of the socket that comes before the
denial. -/
def manageSocket (check : SSPayload → Option SocketDefinition → Except CoreError Unit)
    (action : Ustr → RuntimeCommand) (kept : Option Json → Dispatched) (done : String) :
    Handler Message := do
  let pm ← permissionStore
  let payload ← parse env.format.ss msg
  let uid ← okOr .permissionDenied msg.fromUid
  let registry ← Prog.read Daemon.registry
  let socket := registry.sockets.find "*" payload.name
  let managed ← Prog.await
    (canManage fuel pm uid socket SocketDefinition.managedBy SocketDefinition.ownerHasAccess)
  lift (check payload socket)
  if managed then
    dispatch (action payload.name)
    if payload.persist then dispatch (.flow (kept (some (.str payload.name))))
    pure (env.format.okMessage (done ++ payload.name))
  else denied

def handleIpcStartSocket : Handler Message :=
  manageSocket env fuel msg
    (fun payload socket => match socket with
      | none => .error (.notFound ("socket " ++ payload.name))
      | some _ => .ok ())
    .startSocket (.setFacet "rind:active") "started socket "

/-- A socket need not be defined to be stopped. -/
def handleIpcStopSocket : Handler Message :=
  manageSocket env fuel msg (fun _ _ => .ok ()) .stopSocket (.removeFacet "rind:active")
    "stopped socket "

/-! ## Units of other types -/

/-- Units of other types are left to extensions, none of which knows any. -/
def handleIpcLife : Handler Message := do
  let _ ← parse env.format.ss msg
  let _ ← okOr (.invalidState "extension manager not initialized") env.extensions
  pure {}

def handleIpcStartUnknown : Handler Message := handleIpcLife env msg

def handleIpcStopUnknown : Handler Message := handleIpcLife env msg

end Handlers

end Rind.Ipc
