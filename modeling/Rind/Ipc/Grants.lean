import Rind.Core.Granting
import Rind.Ipc.Control

/-!
# Grants that fail

A grant or a revocation changes the store first, and writes the file of the permissions after
that.  The file is emptied before it is written to.  Where the writing fails, the change stays
in the store, and the file is what has been written by then.
-/

namespace Rind.Ipc

open Prog Fuel PermissionStore

/-! ## The file -/

/-- What comes of writing a file: all is written, the file cannot be opened, or only a
beginning is written to the file that has been emptied. -/
inductive FileWrite where
  | written
  | refused (error : String)
  | cut (length : Nat) (error : String)

/-- What `fs::write` returns. -/
def FileWrite.outcome : FileWrite → Except String Unit
  | .written => .ok ()
  | .refused error | .cut _ error => .error error

/-- What the file holds afterwards. -/
def FileWrite.leaves (file : Option (List UInt8)) (bytes : List UInt8) :
    FileWrite → Option (List UInt8)
  | .written => some bytes
  | .refused _ => file
  | .cut length _ => some (bytes.take length)

variable (env : Env) (msg : Message) (grant : Bool) (write : FileWrite) (daemon : Daemon)
  (file : Option (List UInt8))

def Env.writing : Env := { env with permissionWrite := write.outcome }

/-- The store that a request changes, and what it asks for, unless it is refused before. -/
def requestedChange : Option (PermissionStore × PermissionPayload) := do
  let pm ← daemon.permissions
  let payload ← (msg.parsePayload env.format.permission).toOption
  let _ ← (changePermission pm payload grant).toOption
  some (pm, payload)

/-- The bytes of the file with a store, where they can be encoded. -/
def encoded (changed : PermissionStore) : Except CoreError (List UInt8) :=
  changed.writePermsWithOverlay env.permissionPath (.ok ())

/-- What the file of the permissions holds after a request. -/
def fileAfter : Option (List UInt8) :=
  match requestedChange env msg grant daemon with
  | none => file
  | some (pm, payload) =>
      match (changePermission pm payload grant).bind (encoded env) with
      | .error _ => file
      | .ok bytes => write.leaves file bytes

/-- A request that fails leaves all answers about permissions and the file as they were. -/
def KeptOnError : Prop :=
  ∀ error final,
    grantUngrantIpc (env.writing write) msg grant daemon = some (.error (.error error), final) →
      (∀ pm, daemon.permissions = some pm →
        ∃ changed, final.permissions = some changed ∧ SameAnswers pm changed) ∧
      fileAfter env msg grant write daemon file = file

/-- The subject of a request has the permission already as the request makes it. -/
def StandsAlready (pm : PermissionStore) (payload : PermissionPayload) : Prop :=
  ∀ perm, permissionOf pm payload.permission = some perm →
    if payload.group then
      ∀ group, pm.users.groupByName payload.subject = some group →
        Fuel.Answers (pm.groupHas · group.gid perm) (pm.groupSettled grant group.gid)
    else
      ∀ user, pm.users.lookupByName payload.subject = some user →
        Fuel.Answers (pm.userHas · user.uid perm) (pm.userSettled grant user.uid perm)

/-- The file can be written, or its writing fails without harm: there is nothing to change in
the store, and the file has not been emptied or holds already what is written to it. -/
def WritesSafely (settled : Prop) : Except CoreError (List UInt8) → Prop
  | .error _ => settled
  | .ok bytes =>
      match write with
      | .written => True
      | .refused _ => settled
      | .cut length _ => settled ∧ file = some (bytes.take length)

/-! ## Requests -/

section Requests

variable {env} {msg} {grant} {write} {daemon} {file} {pm changed : PermissionStore}
  {payload : PermissionPayload}

theorem changePermission_sameAnswers_iff (ok : changePermission pm payload grant = .ok changed) :
    SameAnswers pm changed ↔ StandsAlready grant pm payload := by
  rw [changePermission] at ok
  rw [StandsAlready]
  cases found : permissionOf pm payload.permission with
  | none =>
      rw [found] at ok
      cases ok
  | some perm =>
      rw [found] at ok
      dsimp only at ok
      by_cases group : payload.group = true
      · rw [if_pos group] at ok
        simp only [if_pos group]
        cases subject : pm.users.groupByName payload.subject with
        | none =>
            rw [subject] at ok
            cases ok
        | some entry =>
            rw [subject] at ok
            have same : pm.changeGroup grant entry.gid perm = changed := Except.ok.inj ok
            rw [← same, sameAnswers_changeGroup_iff]
            simp
      · rw [if_neg group] at ok
        simp only [if_neg group]
        cases subject : pm.users.lookupByName payload.subject with
        | none =>
            rw [subject] at ok
            cases ok
        | some user =>
            rw [subject] at ok
            have same : pm.changeUser grant user.uid perm = changed := Except.ok.inj ok
            rw [← same, sameAnswers_changeUser_iff]
            simp

/-- The bytes are encoded before anything is written. -/
theorem writePermsWithOverlay_eq (pm : PermissionStore) (path : String)
    (outcome : Except String Unit) :
    pm.writePermsWithOverlay path outcome =
      (pm.writePermsWithOverlay path (.ok ())).bind fun bytes =>
        match outcome with
        | .error error => .error (.custom ("failed to write " ++ path ++ ": " ++ error))
        | .ok _ => .ok bytes := by
  simp only [PermissionStore.writePermsWithOverlay, UserStore.writePermsWithOverlay]
  cases pm.users.users.mapM fun user => writeEntry true user.uid
      (effective user.permissions (pm.inner.overlayUidRevokes.of user.uid)
        (pm.inner.overlayUidGrants.of user.uid)) ("user " ++ user.username) with
  | error error => rfl
  | ok users =>
      cases pm.users.groups.mapM fun group => writeEntry false group.gid
          (effective group.permissions (pm.inner.overlayGidRevokes.of group.gid)
            (pm.inner.overlayGidGrants.of group.gid)) ("group " ++ group.name) with
      | error error => rfl
      | ok groups => cases outcome <;> rfl

theorem requestedChange_eq_some :
    requestedChange env msg grant daemon = some (pm, payload) ↔
      daemon.permissions = some pm ∧ msg.parsePayload env.format.permission = .ok payload ∧
        ∃ changed, changePermission pm payload grant = .ok changed := by
  rw [requestedChange]
  cases daemon.permissions with
  | none => simp
  | some store =>
      cases msg.parsePayload env.format.permission with
      | error error => simp [Except.toOption]
      | ok request =>
          cases changed : changePermission store request grant with
          | error error =>
              simp only [Option.bind_eq_bind, Option.bind_some, Except.toOption, changed,
                Option.bind_none, reduceCtorEq, false_iff, not_and, not_exists]
              rintro same same'
              cases same
              cases same'
              rw [changed]
              exact fun _ => nofun
          | ok result =>
              simp only [Option.bind_eq_bind, Option.bind_some, Except.toOption, changed,
                Option.some.injEq, Prod.mk.injEq, Except.ok.injEq]
              constructor
              · rintro ⟨rfl, rfl⟩
                exact ⟨rfl, rfl, result, changed⟩
              · rintro ⟨same, same', -⟩
                exact ⟨same, same'⟩

/-- A request that is refused before anything is changed. -/
theorem run_grantUngrant_refused (refused : requestedChange env msg grant daemon = none) :
    ∃ error, grantUngrantIpc (env.writing write) msg grant daemon =
      some (.error (.error error), daemon) := by
  rw [grantUngrantIpc, Handler.run_singleton_bind]
  cases held : daemon.permissions with
  | none => exact ⟨_, rfl⟩
  | some pm =>
      rw [Handler.run_okOr_some_bind]
      cases parsed : msg.parsePayload env.format.permission with
      | error error =>
          have parsed' : msg.parsePayload (env.writing write).format.permission = .error error :=
            parsed
          exact ⟨_, Handler.run_parse_error_bind parsed'⟩
      | ok payload =>
          have parsed' : msg.parsePayload (env.writing write).format.permission = .ok payload :=
            parsed
          rw [Handler.run_parse_bind parsed']
          cases ok : changePermission pm payload grant with
          | error error => exact ⟨error, rfl⟩
          | ok changed =>
              have comes := requestedChange_eq_some.mpr ⟨held, parsed, changed, ok⟩
              exact absurd (refused.symm.trans comes) (Option.some_ne_none _).symm

/-- A request that comes to change the store. -/
theorem run_grantUngrant_changed (held : daemon.permissions = some pm)
    (parsed : msg.parsePayload env.format.permission = .ok payload)
    (ok : changePermission pm payload grant = .ok changed) :
    grantUngrantIpc (env.writing write) msg grant daemon =
      match encoded env changed, write.outcome with
      | .error error, _ =>
          some (.error (.error error), { daemon with permissions := some changed })
      | .ok _, .error error =>
          some (.error (.error (.custom ("failed to write " ++ env.permissionPath ++ ": " ++ error))),
            { daemon with permissions := some changed })
      | .ok bytes, .ok _ =>
          some (.ok (env.format.okMessage ("Permission changed for " ++ payload.subject)),
            { daemon with permissions := some changed, permissionFile := some bytes }) := by
  have parsed' : msg.parsePayload (env.writing write).format.permission = .ok payload := parsed
  have path : (env.writing write).permissionPath = env.permissionPath := rfl
  have outcome : (env.writing write).permissionWrite = write.outcome := rfl
  rw [grantUngrantIpc, Handler.run_singleton_bind, held, Handler.run_okOr_some_bind,
    Handler.run_parse_bind parsed', ok, Handler.run_lift_ok_bind, run_change_bind, path, outcome,
    writePermsWithOverlay_eq, encoded]
  cases changed.writePermsWithOverlay env.permissionPath (.ok ()) with
  | error error => rfl
  | ok bytes => cases write.outcome <;> rfl

theorem fileAfter_of_changed (held : daemon.permissions = some pm)
    (parsed : msg.parsePayload env.format.permission = .ok payload)
    (ok : changePermission pm payload grant = .ok changed) :
    fileAfter env msg grant write daemon file =
      match encoded env changed with
      | .error _ => file
      | .ok bytes => write.leaves file bytes := by
  rw [fileAfter, requestedChange_eq_some.mpr ⟨held, parsed, changed, ok⟩]
  dsimp only
  rw [ok]
  rfl

theorem sameAnswers_refl (pm : PermissionStore) : SameAnswers pm pm :=
  ⟨fun _ _ _ => .rfl, fun _ _ _ => .rfl⟩

/-- A request that fails with the store changed keeps all where the answers and the file stay. -/
theorem keptOnError_iff_of_failed (held : daemon.permissions = some pm) {failure : CoreError}
    (ran : grantUngrantIpc (env.writing write) msg grant daemon =
      some (.error (.error failure), { daemon with permissions := some changed })) :
    KeptOnError env msg grant write daemon file ↔
      SameAnswers pm changed ∧ fileAfter env msg grant write daemon file = file := by
  rw [KeptOnError, ran]
  constructor
  · intro kept
    obtain ⟨memory, disk⟩ := kept _ _ rfl
    obtain ⟨changed', same, answers⟩ := memory pm held
    cases same
    exact ⟨answers, disk⟩
  · rintro ⟨same, disk⟩ error final ran
    cases ran
    refine ⟨?_, disk⟩
    intro other isHeld
    cases held.symm.trans isHeld
    exact ⟨changed, rfl, same⟩

/-- A request that comes to change the store keeps all on an error exactly where the file can
be written, or its writing fails without harm. -/
theorem keptOnError_of_changed (held : daemon.permissions = some pm)
    (parsed : msg.parsePayload env.format.permission = .ok payload)
    (ok : changePermission pm payload grant = .ok changed) :
    KeptOnError env msg grant write daemon file ↔
      WritesSafely write file (StandsAlready grant pm payload) (encoded env changed) := by
  have ran : grantUngrantIpc (env.writing write) msg grant daemon = _ :=
    run_grantUngrant_changed held parsed ok
  have left : fileAfter env msg grant write daemon file = _ := fileAfter_of_changed held parsed ok
  rw [← changePermission_sameAnswers_iff ok]
  cases encode : encoded env changed with
  | error error =>
      rw [encode] at ran left
      rw [keptOnError_iff_of_failed held ran, left]
      exact and_iff_left rfl
  | ok bytes =>
      rw [encode] at ran left
      cases write with
      | written =>
          refine ⟨fun _ => trivial, ?_⟩
          intro _ error final failed
          cases ran.symm.trans failed
      | refused text =>
          rw [keptOnError_iff_of_failed held ran, left]
          exact and_iff_left rfl
      | cut length text =>
          rw [keptOnError_iff_of_failed held ran, left, eq_comm]
          rfl

end Requests

/-- A request that fails leaves all answers and the file as they were exactly where it is
refused before the store is changed, where the file can be written, or where its writing
fails without harm. -/
theorem keptOnError_iff : KeptOnError env msg grant write daemon file ↔
    ∀ pm payload changed, daemon.permissions = some pm →
      msg.parsePayload env.format.permission = .ok payload →
      changePermission pm payload grant = .ok changed →
        WritesSafely write file (StandsAlready grant pm payload) (encoded env changed) := by
  constructor
  · intro kept pm payload changed held parsed ok
    exact (keptOnError_of_changed held parsed ok).mp kept
  · intro safely
    cases requested : requestedChange env msg grant daemon with
    | some request =>
        obtain ⟨held, parsed, changed, ok⟩ := requestedChange_eq_some.mp requested
        exact (keptOnError_of_changed held parsed ok).mpr (safely _ _ _ held parsed ok)
    | none =>
        intro error final ran
        obtain ⟨error', refused⟩ := run_grantUngrant_refused requested
        cases refused.symm.trans ran
        constructor
        · intro pm held
          exact ⟨pm, held, sameAnswers_refl pm⟩
        · rw [fileAfter, requested]

/-! ## A file that cannot be written -/

/-- A format that reads every payload as a grant of run0 to an account. -/
def Env.granting : Env :=
  { Env.bare with
    format := { RmpSerde.mute with permission := fun _ => .ok ⟨"makano", "1002", false⟩ } }

def networkDaemon : Daemon := { Daemon.bare with permissions := some (.new networkUsers) }

def grantRequest : Message :=
  { action := "grant_permission", payload := some [], fromUid := some 0 }

/-- The account holds the permission although the grant has failed. -/
theorem not_keptOnError_refused :
    ¬ KeptOnError .granting grantRequest true (.refused "Read-only file system") networkDaemon
      none := by
  intro kept
  have ok : changePermission (.new networkUsers) ⟨"makano", "1002", false⟩ true =
      .ok ((PermissionStore.new networkUsers).grantUser 1000 1002) := rfl
  have safely := (keptOnError_of_changed rfl rfl ok).mp kept
  have writable : (encoded .granting ((PermissionStore.new networkUsers).grantUser 1000 1002)).isOk :=
    by decide +kernel
  cases bytes : encoded .granting ((PermissionStore.new networkUsers).grantUser 1000 1002) with
  | error error =>
      rw [bytes] at writable
      cases writable
  | ok content =>
      rw [bytes] at safely
      have settled := safely 1002 (by decide +kernel) _ rfl
      have unheld : Fuel.Answers ((PermissionStore.new networkUsers).userHas · 1000 1002) false :=
        ⟨2, by decide +kernel⟩
      have held : Fuel.Answers ((PermissionStore.new networkUsers).userHas · 1000 1002) true := settled
      exact absurd ((growing_userHas 1000 1002).unique unheld held) Bool.false_ne_true

end Rind.Ipc
