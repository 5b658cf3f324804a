import Rind.Ipc.Lists

/-!
# Control of the daemon

The handlers that change scopes and permissions, ask the daemon to reload or to stop, and
deal with network interfaces and seats.
-/

namespace Rind.Ipc

section Handlers

open Handler

variable (env : Env) (msg : Message)

/-- Only root gets through. -/
def requireRoot : Handler Unit := if msg.fromUid = some 0 then pure () else denied

/-! ## Variables -/

def handleIpcSet : Handler Message := do
  let _ ← singleton (.custom "Failed to get variable heap") Daemon.heap
  pure {}

def handleIpcRemove : Handler Message := pure {}

/-! ## Scopes -/

/-- The name of a scope that clients may make and destroy. -/
def scopeName (name : String) : Except CoreError Ustr :=
  let scope := Text.trim name
  if scope.isEmpty || scope == "static" then .error (.custom "invalid scope name") else .ok scope

section Create

variable [Bincode FlowInstance] [Bincode StateSnapshot] [Crc32]

/-- The daemon with one more scope, and with the facets that were saved for it. -/
def Daemon.withScope (env : Env) (scope : Ustr) (attributes : AList fun _ : Ustr => String)
    (lifetimeState : Option Ustr) (daemon : Daemon) : Daemon :=
  { daemon with
    globalScopes := daemon.globalScopes.upsert scope attributes lifetimeState
    scopeSpecs := daemon.scopeSpecs.insert scope ⟨scope, attributes, lifetimeState⟩
    scopes := daemon.scopes.map (·.upsert scope attributes lifetimeState)
    facets := daemon.facets.map fun facets => loadScope env.layout daemon.files facets scope }

def handleIpcCreateScope : Handler Message := do
  requireRoot msg
  let payload ← parse env.format.scopeCreate msg
  let scope ← lift (scopeName payload.scope)
  let attributes := Maps.insertAll Prod.fst Prod.snd payload.attributes ∅
  Prog.change (Daemon.withScope env scope attributes payload.lifetimeState)
  request .reloadUnits
  pure (env.format.okMessage "scope created")

end Create

/-- The daemon without a scope, and without the facets in it. -/
def Daemon.withoutScope (env : Env) (scope : Ustr) (daemon : Daemon) : Daemon :=
  { daemon with
    globalScopes := (daemon.globalScopes.removeScope scope).2
    scopeSpecs := daemon.scopeSpecs.erase scope
    scopes := daemon.scopes.map fun scopes => (scopes.removeScope scope).2
    facets := daemon.facets.map (dropScope scope)
    files :=
      if daemon.facets.isSome then dropScopeFiles env.layout scope daemon.files
      else daemon.files }

def handleIpcDestroyScope : Handler Message := do
  requireRoot msg
  let payload ← parse env.format.scopeDestroy msg
  let scope ← lift (scopeName payload.scope)
  Prog.change (Daemon.withoutScope env scope)
  request .reloadUnits
  pure (env.format.okMessage "scope destroyed")

/-! ## Permissions -/

/-- The permission of a number or a name. -/
def permissionOf (pm : PermissionStore) (text : String) : Option PermissionId :=
  ((Text.parseUnsigned (2 ^ 16) text).map UInt16.ofNat).or (pm.fromName text)

/-- The store with a permission granted to a subject, or revoked. -/
def changePermission (pm : PermissionStore) (payload : PermissionPayload) (grant : Bool) :
    Except CoreError PermissionStore :=
  match permissionOf pm payload.permission with
  | none => .error (.notFound ("permission " ++ payload.permission))
  | some perm =>
      if payload.group then
        match pm.users.groupByName payload.subject with
        | none => .error (.notFound ("group " ++ payload.subject))
        | some group =>
            .ok (if grant then pm.grantGroup group.gid perm else pm.ungrantGroup group.gid perm)
      else
        match pm.users.lookupByName payload.subject with
        | none => .error (.notFound ("user " ++ payload.subject))
        | some user =>
            .ok (if grant then pm.grantUser user.uid perm else pm.ungrantUser user.uid perm)

def Env.permissionPath (env : Env) : String :=
  (env.environment "RIND_PERMS_PATH").getD "/etc/rperms"

/-- Change a permission and write the file. A file that cannot be written leaves the change
in place. -/
def grantUngrantIpc (grant : Bool) : Handler Message := do
  let pm ← singleton .runtimeStopped Daemon.permissions
  let payload ← parse env.format.permission msg
  let changed ← lift (changePermission pm payload grant)
  Prog.change fun daemon => { daemon with permissions := some changed }
  let written ← lift (changed.writePermsWithOverlay env.permissionPath env.permissionWrite)
  Prog.change fun daemon => { daemon with permissionFile := some written }
  pure (env.format.okMessage ("Permission changed for " ++ payload.subject))

def handleIpcGrantPermission : Handler Message := grantUngrantIpc env msg true

def handleIpcRevokePermission : Handler Message := grantUngrantIpc env msg false

/-- The id of the subject of a payload. -/
def subjectOf (pm : PermissionStore) (payload : PermissionPayload) : Option UInt32 :=
  if payload.group then (pm.users.groupByName payload.subject).map GroupEntry.gid
  else (pm.users.lookupByName payload.subject).map UserRecord.uid

def handleIpcShowPermission : Handler Message := do
  let pm ← singleton .runtimeStopped Daemon.permissions
  let payload := (msg.parsePayload env.format.permission).toOption
  let perms ← lift (pm.all (payload.bind (subjectOf pm)) (payload.any PermissionPayload.group))
  pure (okList env
    ⟨"table", ["Name", "Id", "Group"], ["name", "id", "group"], ["blue", "yellow", "green"]⟩
    (perms.map fun (id, name, group) => .permission { name, id, group }))

/-! ## Lifecycle -/

def queueLifecycleAction (action : LifecycleAction) (response : String) : Handler Message := do
  requireRoot msg
  request action
  pure (env.format.okMessage response)

/-- Whether a request asks for the static units to be reloaded as well. -/
def asksForStatic : Bool := (msg.parsePayload env.format.flag).toOption.getD false

def handleIpcReloadUnits : Handler Message := do
  if asksForStatic env msg then Prog.change fun daemon => { daemon with reloadStatic := true }
  queueLifecycleAction env msg .reloadUnits "unit reload scheduled"

def handleIpcReboot : Handler Message := queueLifecycleAction env msg .reboot "reboot scheduled"

def handleIpcSoftReboot : Handler Message :=
  queueLifecycleAction env msg .softReboot "soft reboot scheduled"

def handleIpcShutdown : Handler Message :=
  queueLifecycleAction env msg .shutdown "shutdown scheduled"

/-! ## Networks -/

/-- Bring an interface up or down. Other methods do nothing. -/
def handleIpcNetworkInternal (payload : NetworkPayload) : Except CoreError Unit :=
  if payload.method = "up" ∨ payload.method = "down" then
    if !env.interface.socket || !env.interface.getFlags then
      .error (.custom "failed to create socket")
    else if !env.interface.setFlags then .error (.custom "failed to set interface flags")
    else .ok ()
  else .ok ()

def handleIpcNetwork : Handler Message := do
  let payload ← parse env.format.network msg
  lift (handleIpcNetworkInternal env payload)
  pure (env.format.okMessage "ok")

/-! ## Seats -/

/-- The terminal of a seat. The number wraps around. -/
def seatToTty (seat : String) : String :=
  let number := ((Text.stripPrefix "seat" seat).bind (Text.parseUnsigned (2 ^ 64))).getD 0
  "tty" ++ toString ((number + 1) % 2 ^ 64)

section Seats

variable [SerdeJson]

/-- The payload of the first instance of the facet of the active seat. -/
def activeSeat (facets : Facets) : Option String :=
  (facets.instances "seat:active").head?.map fun branch => branch.payload.toStringPayload

/-- The session of an instance, if it names all of a session. -/
def seatSession (branch : FlowInstance) : Option Json := do
  let payload := branch.payload.toJson
  let seat ← payload.get "seat"
  let session ← payload.get "session"
  let user ← payload.get "user"
  some (.obj [("seat", seat), ("session", session), ("user", user)])

def seatList (facets : Facets) : Json :=
  .obj
    [("active", .str ((activeSeat facets).getD "")),
      ("login_required", .arr ((facets.instances "seat:login_required").filterMap fun branch =>
        (payloadText branch "seat").map .str)),
      ("sessions", .arr ((facets.instances "seat:session").filterMap seatSession)),
      ("taken", .arr ((facets.instances "seat:taken").map fun branch =>
        .str branch.payload.toStringPayload))]

def seatDevices (seat : Ustr) : Json :=
  .obj
    [("devices", .arr [.str ("/dev/" ++ seatToTty seat)]), ("seat", .str seat),
      ("tty", .str (seatToTty seat))]

def handleIpcSeat : Handler Message := do
  let payload ← parse env.format.seat msg
  let facets ← singleton .runtimeStopped Daemon.facets
  let ok (text : String) : Handler Message := pure (env.format.okMessage text)
  match payload with
  | .check => ok ((activeSeat facets).getD "seat0")
  | .take seat => do dispatch (.seatTake seat); ok "ok"
  | .giveBack seat => do dispatch (.seatReturn seat); ok "ok"
  | .activate seat => do dispatch (.seatActivate seat); ok "ok"
  | .list => ok (SerdeJson.toText (seatList facets))
  | .session seat session user => do
      dispatch (.flow (.setFacet "seat:session" (some (.obj
        [("seat", .str seat), ("session", .str session), ("user", .str user)]))))
      ok "ok"
  | .sessionEnd _ _ => do dispatch (.flow (.removeFacet "seat:session" (some .null))); ok "ok"
  | .devices seat => ok (SerdeJson.toText (seatDevices seat))
  | .taken _ => ok "ok"

end Seats

end Handlers

end Rind.Ipc
