import Rind.Ipc.Daemon

/-!
# Logins and run0

The handlers that check passwords.  A login opens a session, and a logout closes one.
`run0` asks for the password of the user who runs a command as root, and for a while
not again for the commands that the same process runs.
-/

namespace Rind.Ipc

def permSystemServices : PermissionId := 1000

def permLogin : PermissionId := 1001

def permRun0 : PermissionId := 1002

/-! ## The parent of a process -/

/-- A signed number of 32 bits. -/
def parseI32 (text : String) : Option Int32 :=
  ((Text.parseSigned text).filter fun value => -2 ^ 31 ≤ value && value < 2 ^ 31).map Int32.ofInt

/-- The parent that the status of a process names, or the process itself. -/
def parentPid (status : String) (pid : Int32) : Int32 :=
  ((((Text.lines status).find? (Text.startsWith · "PPid:")).bind fun line =>
    (Text.splitWhitespace line)[1]?).bind parseI32).getD pid

/-- How long no password is asked for again, in nanoseconds. -/
def Env.run0Timeout (env : Env) : Nat :=
  10 ^ 9 * (((env.environment "RIND_RUN0_TIMEOUT").bind (Text.parseUnsigned (2 ^ 64))).getD 300)

/-! ## Passwords -/

section Handlers

open Handler

variable (env : Env)

def pamHandle : Handler PamHandle := singleton (.invalidState "pam handle not found") Daemon.pam

/-- `pam_authenticate` -/
def checkPassword (pam : PamHandle) (username password : String) : Handler UserRecord := do
  let (result, checked) := pam.pamAuthenticate env.crypt (env.clock.call username password)
  Prog.change fun daemon => { daemon with pam := some checked }
  lift (result.mapError CoreError.pamError)

section Checked

variable {env} {pam : PamHandle} {username password : String} (daemon : Daemon)

/-- A wrong password changes what is known of failed attempts. -/
theorem checkPassword_error {err : PamError}
    (failed : (pam.pamAuthenticate env.crypt (env.clock.call username password)).1 = .error err) :
    ∃ checked, checkPassword env pam username password daemon =
      some (.error (.error (.pamError err)), { daemon with pam := some checked }) := by
  rw [checkPassword]
  dsimp only
  rw [failed]
  exact ⟨_, rfl⟩

theorem checkPassword_ok {user : UserRecord}
    (passed : (pam.pamAuthenticate env.crypt (env.clock.call username password)).1 = .ok user) :
    ∃ checked, checkPassword env pam username password daemon =
      some (.ok user, { daemon with pam := some checked }) := by
  rw [checkPassword]
  dsimp only
  rw [passed]
  exact ⟨_, rfl⟩

end Checked

/-! ## run0 -/

/-- Whether a user may run commands as root. The user has to have an account, unless it is
root. -/
def mayRun0 (fuel : Nat) (pm : PermissionStore) (uid : UInt32) : Handler Bool := do
  if ← Prog.await (pm.userHas fuel uid permRun0) then pure true
  else
    let user ← unwrap (pm.users.lookupByUid uid)
    pure (pm.users.userInGroup user "wheel")

/-- Whether a user may use `run0` is found out without a change. -/
theorem reads_mayRun0 (fuel : Nat) (pm : PermissionStore) (uid : UInt32) :
    Prog.Reads (mayRun0 fuel pm uid) := by
  rw [mayRun0]
  apply Prog.Reads.bind (.await _)
  intro holds
  split
  · exact .pure _
  · exact .bind (Handler.reads_unwrap _) fun user => .pure _

def run0Queue : Handler (AList fun _ : Int32 => Nat) :=
  singleton (.invalidState "run0 queue state not found in scope") Daemon.run0Queue

/-- Whether a password was checked a short while ago. -/
def Env.isRecent (lastAuth : Option Nat) : Bool :=
  lastAuth.any fun last => env.clock.checked - last < env.run0Timeout

/-- Check the password of the user of an id, and remember it for the processes of a
parent. -/
def authenticateRun0 (uid : UInt32) (parent : Int32) (password : String) : Handler Message := do
  let pam ← pamHandle
  let user ← okOr (.custom "user not found") (pam.store.lookupByUid uid)
  let _ ← checkPassword env pam user.username password
  Prog.change fun daemon =>
    { daemon with
      run0Queue := daemon.run0Queue.map (·.insert parent env.clock.recorded)
      authentications := ⟨uid, parent, env.clock.recorded⟩ :: daemon.authentications }
  pure (.fromType .valid)

/-- Answer a request that may be answered, which comes from a process with a parent. -/
def answerRun0 (msg : Message) (uid : UInt32) (parent : Int32) : Handler Message := do
  let queue ← run0Queue
  if env.isRecent (queue.lookup parent) then pure (.fromType .valid)
  else if msg.type = .requestInput then
    pure (env.format.textMessage .error CoreError.permissionDenied.text)
  else
    match msg.parsePayload env.format.run0Auth with
    | .error _ => pure (.fromType .requestInput)
    | .ok payload => authenticateRun0 env uid parent payload.password

def handleIpcRun0 (fuel : Nat) (msg : Message) : Handler Message := do
  let pm ← permissionStore
  let pid ← okOr .permissionDenied msg.fromPid
  let uid ← okOr .permissionDenied msg.fromUid
  if ← mayRun0 fuel pm uid then
    let status ← lift ((env.proc.status pid).mapError CoreError.ioError)
    answerRun0 env msg uid (parentPid status pid)
  else denied

/-! ## Sessions -/

/-- The device of a seat. -/
def seatDevice (seat : String) : String :=
  if Text.startsWith seat "/dev/" then seat else "/dev/" ++ seat

/-- `pam_open_session` -/
def openSession (pam : PamHandle) (username seat : String) : Handler PamSession := do
  let id ← Prog.read Daemon.sessionIdCounter
  let (session, opened) ←
    lift ((pam.pamOpenSession username seat id env.clock.recorded).mapError CoreError.pamError)
  Prog.change fun daemon => { daemon with pam := some opened, sessionIdCounter := id + 1 }
  pure session

def handleIpcLogin (msg : Message) : Handler Message := do
  let payload ← parse env.format.login msg
  let pam ← pamHandle
  let _ ← okOr .permissionDenied (pam.store.lookupByName payload.username)
  let _ ← checkPassword env pam payload.username (payload.password.getD "")
  let pam ← pamHandle
  lift ((pam.pamAcctMgmt env.today payload.username).mapError CoreError.pamError)
  let seat := seatDevice payload.seat
  let session ← openSession env pam payload.username seat
  dispatch (.login payload.username seat session.id)
  pure (env.format.okMessage ("logged in successfully as " ++ payload.username))

/-- Close a session and tell the runtime of the users. -/
def closeSession (payload : LogoutPayload) : Handler Message := do
  let pam ← pamHandle
  let closed ← lift ((pam.pamCloseSession payload.sessionId).mapError CoreError.pamError)
  Prog.change fun daemon => { daemon with pam := some closed }
  dispatch (.logout payload.sessionId payload.username payload.seat)
  pure (env.format.okMessage ("logged out successfully as " ++ payload.username))

def handleIpcLogout (msg : Message) : Handler Message := do
  let payload ← parse env.format.logout msg
  let pam ← pamHandle
  let user ← okOr .permissionDenied (pam.store.lookupByName payload.username)
  if msg.fromUid = some user.uid then closeSession env payload else denied

end Handlers

/-! ## Two users -/

def alice : UserRecord := ⟨"alice", 1000, 1000, "", "/home/alice", "/bin/sh", []⟩

def bob : UserRecord := ⟨"bob", 1001, 1001, "", "/home/bob", "/bin/sh", []⟩

end Rind.Ipc
