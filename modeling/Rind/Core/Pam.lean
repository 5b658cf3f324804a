import Rind.Core.UserStore
import Rind.Prog.Runs

/-!
# Authentication

Passwords are checked against the shadow file.  Each user has a counter of
failed attempts, which is cleared by a successful one and locks the user out for a
while once it has reached the limit.
-/

namespace Rind

/-- The functions of the libraries that check a password against a hash. -/
structure Crypt where
  sha512Check : String → String → Bool
  sha256Check : String → String → Bool
  yescryptVerify : String → String → Bool

def verifyPassword (crypt : Crypt) (password hash : String) : Bool :=
  if hash.isEmpty || hash == "!" || hash == "*" || hash == "!!" then false
  else if Text.startsWith hash "$6$" then crypt.sha512Check password hash
  else if Text.startsWith hash "$5$" then crypt.sha256Check password hash
  else if Text.startsWith hash "$y$" then crypt.yescryptVerify password hash
  else false

structure PamSession where
  id : UInt64
  username : Ustr
  tty : String
  startedAt : Nat
  deriving DecidableEq, Repr

/-- The failed attempts of a user, and when the last one was, in nanoseconds. -/
structure LockoutState where
  failedAttempts : UInt32
  lastFailure : Option Nat
  deriving DecidableEq, Repr

structure PamConfig where
  maxRetries : UInt32 := 5
  lockoutDuration : Nat := 60 * 10 ^ 9
  deriving DecidableEq, Repr

structure PamHandle where
  store : UserStore
  config : PamConfig
  sessions : AList fun _ : UInt64 => PamSession
  lockouts : AList fun _ : Ustr => LockoutState

namespace PamHandle

def withConfig (store : UserStore) (config : PamConfig) : PamHandle := ⟨store, config, ∅, ∅⟩

variable (handle : PamHandle)

def checkLockout (username : Ustr) (now : Nat) : Except PamError Unit :=
  match handle.lockouts.lookup username with
  | none => .ok ()
  | some state =>
      if handle.config.maxRetries ≤ state.failedAttempts then
        match state.lastFailure with
        | none => .ok ()
        | some last =>
            if now - last < handle.config.lockoutDuration then .error .maxRetriesExceeded else .ok ()
      else .ok ()

/-- Count a failure. The counter has 32 bits and wraps around. -/
def recordFailure (username : Ustr) (now : Nat) : PamHandle :=
  let state := (handle.lockouts.lookup username).getD ⟨0, none⟩
  { handle with
    lockouts := handle.lockouts.insert username
      { failedAttempts := state.failedAttempts + 1, lastFailure := some now } }

def clearLockout (username : Ustr) : PamHandle :=
  { handle with lockouts := handle.lockouts.erase username }

end PamHandle

/-- A call of `pam_authenticate`: it looks at the clock first, and again where it
records a failure. -/
structure PamCall where
  username : Ustr
  password : String
  start : Nat
  finish : Nat
  ordered : start ≤ finish

namespace PamHandle

variable (crypt : Crypt) (handle : PamHandle)

/-- The entry that a password is verified against, unless the call ends before. -/
def entryToVerify (call : PamCall) : Except PamError (UserRecord × ShadowEntry) := do
  handle.checkLockout call.username call.start
  match handle.store.lookupByName call.username, handle.store.shadowFor call.username with
  | some user, some shadow => if shadow.isLocked then .error .accountLocked else .ok (user, shadow)
  | _, _ => .error .userNotFound

def pamAuthenticate (call : PamCall) : Except PamError UserRecord × PamHandle :=
  match handle.entryToVerify call with
  | .error error => (.error error, handle)
  | .ok (user, shadow) =>
      if verifyPassword crypt call.password shadow.passwordHash then
        (.ok user, handle.clearLockout call.username)
      else (.error .authenticationFailed, handle.recordFailure call.username call.finish)

/-- Whether a user may log in whose password was right. -/
def pamAcctMgmt (today : Int) (username : Ustr) : Except PamError Unit :=
  match handle.store.shadowFor username with
  | none => .error .userNotFound
  | some shadow =>
      if shadow.isLocked then .error .accountLocked
      else if shadow.isExpired today then .error .accountExpired
      else if shadow.passwordExpired today then .error .passwordExpired
      else .ok ()

/-- Open a session under an id that was counted for it. -/
def pamOpenSession (username tty : Ustr) (id : UInt64) (now : Nat) :
    Except PamError (PamSession × PamHandle) :=
  match handle.store.lookupByName username with
  | none => .error .userNotFound
  | some _ =>
      let session : PamSession := { id, username, tty, startedAt := now }
      .ok (session, { handle with sessions := handle.sessions.insert id session })

def pamCloseSession (sessionId : UInt64) : Except PamError PamHandle :=
  match handle.sessions.lookup sessionId with
  | none => .error (.sessionError "session not found")
  | some _ => .ok { handle with sessions := handle.sessions.erase sessionId }

/-- The state after a call. -/
def authenticate (call : PamCall) : PamHandle := (handle.pamAuthenticate crypt call).2

/-- Whether a call of a user gets as far as verifying a password. -/
def verifies (user : Ustr) (call : PamCall) : Bool :=
  call.username == user && (handle.entryToVerify call).toBool

/-- Whether a call authenticates a user. -/
def succeeds (user : Ustr) (call : PamCall) : Bool :=
  call.username == user && (handle.pamAuthenticate crypt call).1.toBool

end PamHandle

end Rind
