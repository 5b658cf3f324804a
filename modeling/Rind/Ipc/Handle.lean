import Rind.Ipc.Control
import Rind.Ipc.Units

/-!
# Handling a message

Each action is registered with a handler and with the permission it takes.  A message is
rejected, or its handler answers it, and an error of the handler becomes the reply.
-/

namespace Rind.Ipc

/-! ## The actions -/

def permNetwork : PermissionId := 1003

def permSeat : PermissionId := 1004

namespace IpcSourcemap

def register (sources : IpcSourcemap) (action : String) (handler : IpcHandler)
    (perms : PermissionExpr) : IpcSourcemap := sources.insert action ⟨handler, perms⟩

/-- `init_actions` -/
def initActions (sources : IpcSourcemap) : IpcSourcemap :=
  sources.register "login" .login (.perm permLogin)
    |>.register "logout" .logout .all
    |>.register "run0" .run0 .all
    |>.register "start_service" .start .all
    |>.register "stop_service" .stop .all
    |>.register "start_socket" .startSocket .all
    |>.register "stop_socket" .stopSocket .all
    |>.register "start" .startUnknown .all
    |>.register "stop" .stopUnknown .all
    |>.register "show" .list .all
    |>.register "set_variable" .set .all
    |>.register "remove_variable" .remove .all
    |>.register "create_scope" .createScope .all
    |>.register "destroy_scope" .destroyScope .all
    |>.register "show_permissions" .showPermission .all
    |>.register "grant_permission" .grantPermission .rootOnly
    |>.register "revoke_permission" .revokePermission .rootOnly
    |>.register "reload_units" .reloadUnits .all
    |>.register "reboot" .reboot .all
    |>.register "soft_reboot" .softReboot .all
    |>.register "shutdown" .shutdown .all

/-- The actions of the networking and the seat runtime. -/
def plugins (sources : IpcSourcemap) : IpcSourcemap :=
  sources.register "network" .network (.perm permNetwork)
    |>.register "seat" .seat (.perm permSeat)

end IpcSourcemap

/-! ## Handling -/

section Handle

variable [SerdeJson] [TomlText] [Bincode FlowInstance] [Bincode StateSnapshot] [Crc32]
variable (env : Env) (fuel : Nat) (msg : Message)

/-- What a handler does with a message. -/
def IpcHandler.handle : IpcHandler → Handler Message
  | .login => handleIpcLogin env msg
  | .logout => handleIpcLogout env msg
  | .run0 => handleIpcRun0 env fuel msg
  | .start => handleIpcStart env fuel msg
  | .stop => handleIpcStop env fuel msg
  | .startSocket => handleIpcStartSocket env fuel msg
  | .stopSocket => handleIpcStopSocket env fuel msg
  | .startUnknown => handleIpcStartUnknown env msg
  | .stopUnknown => handleIpcStopUnknown env msg
  | .list => handleIpcList env msg
  | .set => handleIpcSet
  | .remove => handleIpcRemove
  | .createScope => handleIpcCreateScope env msg
  | .destroyScope => handleIpcDestroyScope env msg
  | .showPermission => handleIpcShowPermission env msg
  | .grantPermission => handleIpcGrantPermission env msg
  | .revokePermission => handleIpcRevokePermission env msg
  | .reloadUnits => handleIpcReloadUnits env msg
  | .reboot => handleIpcReboot env msg
  | .softReboot => handleIpcSoftReboot env msg
  | .shutdown => handleIpcShutdown env msg
  | .network => handleIpcNetwork env msg
  | .seat => handleIpcSeat env msg

/-- What comes of a message. -/
inductive Outcome where
  | unknownAction
  | rejected
  | handled (result : Except CoreError Message)

def Outcome.reply (env : Env) (msg : Message) : Outcome → Message
  | .unknownAction =>
      env.format.textMessage .error ("Message handler not found: " ++ env.debug msg.action)
  | .rejected => env.format.textMessage .error "Permission Denied"
  | .handled (.ok reply) => reply
  | .handled (.error error) =>
      env.format.textMessage .error ("IPC handler failed: " ++ error.text)

/-- Whether the sender has the permission that an action takes. -/
def permitted (pm : PermissionStore) (perms : PermissionExpr) : Option Bool :=
  match perms with
  | .all => some true
  | perms => pm.userCheck fuel (msg.fromUid.getD 0) perms

/-- The result of a handler that does not panic. -/
def caught (body : Handler Message) : Handler Outcome := fun daemon =>
  (body daemon).map fun outcome =>
    match outcome with
    | (.ok reply, final) => (.ok (.handled (.ok reply)), final)
    | (.error (.error error), final) => (.ok (.handled (.error error)), final)
    | (.error .panic, final) => (.error .panic, final)

/-- Check a message, and have it handled. -/
def considerIpcMessage : Handler Outcome := do
  let pm ← Handler.permissionStore
  let sources ← Prog.read Daemon.sources
  match (sources.getD ∅).lookup msg.action with
  | none => pure .unknownAction
  | some source =>
      if ← Prog.await (permitted fuel msg pm source.perms) then
        caught (source.handler.handle env fuel msg)
      else pure .rejected

def handleIpcMessage : Handler Message := do
  let outcome ← considerIpcMessage env fuel msg
  pure (outcome.reply env msg)

end Handle

end Rind.Ipc
