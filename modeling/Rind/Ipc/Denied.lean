import Rind.Ipc.Handle

/-!
# Denied requests

A handler that denies a request should leave the daemon as it is.  All handlers look at
the sender before they change anything, except the one that reloads the units.
-/

namespace Rind.Ipc

open Prog

/-! ## Handlers that deny -/

/-- How a handler denies a request: with an error, or with a reply of that type. -/
def Denies : Except Failure Message → Prop
  | .error failure => failure = .error .permissionDenied
  | .ok reply => reply.type = .error

theorem not_denies {err : CoreError} (other : err ≠ .permissionDenied) :
    ¬ Denies (.error (.error err)) := by
  intro denies
  cases denies
  exact other rfl

/-- A reply of another type. -/
theorem avoids_reply {reply : Message} (other : reply.type ≠ .error) :
    Avoids Denies (pure reply : Handler Message) := .pure other

/-- An error that is not a denial. -/
theorem avoids_lift {α : Type} {outcome : Except CoreError α}
    (others : ∀ err, outcome = .error err → err ≠ .permissionDenied) :
    Avoids (OnErrors Denies) (Handler.lift outcome) := by
  apply Avoids.ofExcept
  intro failure failed
  cases outcome with
  | ok value => cases failed
  | error err =>
      cases failed
      exact not_denies (others err rfl)

theorem avoids_liftMap {ε α : Type} {wrap : ε → CoreError} {outcome : Except ε α}
    (others : ∀ err, wrap err ≠ .permissionDenied) :
    Avoids (OnErrors Denies) (Handler.lift (outcome.mapError wrap)) := by
  apply avoids_lift
  intro err failed
  cases outcome with
  | ok value => cases failed
  | error inner =>
      cases failed
      exact others inner

theorem avoids_okOr {α : Type} {err : CoreError} (other : err ≠ .permissionDenied)
    (found : Option α) : Avoids (OnErrors Denies) (Handler.okOr err found) :=
  .orFail (not_denies other) found

theorem avoids_singleton {α : Type} {err : CoreError} (other : err ≠ .permissionDenied)
    (view : Daemon → Option α) : Avoids (OnErrors Denies) (Handler.singleton err view) :=
  .demand (not_denies other) view

variable (env : Env) (fuel : Nat) (msg : Message)

/-! ### Users -/

theorem avoids_pamHandle : Avoids (OnErrors Denies) pamHandle :=
  avoids_singleton (by nofun) _

theorem avoids_checkPassword (pam : PamHandle) (username password : String) :
    Avoids (OnErrors Denies) (checkPassword env pam username password) :=
  .bind_part (.change _) fun _ => avoids_liftMap nofun

theorem avoids_authenticateRun0 (uid : UInt32) (parent : Int32) (password : String) :
    Avoids Denies (authenticateRun0 env uid parent password) := by
  apply Avoids.bind avoids_pamHandle
  intro pam
  apply Avoids.bind (avoids_okOr (by nofun) _)
  intro user
  apply Avoids.bind (avoids_checkPassword env _ _ _)
  intro _
  apply Avoids.bind (.change _)
  intro _
  exact avoids_reply nofun

theorem guarded_run0 : Guarded Denies (handleIpcRun0 env fuel msg) := by
  apply Guarded.bind Handler.reads_permissionStore
  intro pm
  apply Guarded.bind (Handler.reads_okOr _)
  intro pid
  apply Guarded.bind (Handler.reads_okOr _)
  intro uid
  apply Guarded.bind (reads_mayRun0 fuel pm uid)
  intro may
  split
  · apply Guarded.bind (Handler.reads_lift _)
    intro status
    apply Guarded.bind (Handler.reads_singleton _)
    intro queue
    split
    · exact .of_reads (.pure _)
    · split
      · exact .of_reads (.pure _)
      · split
        · exact .of_reads (.pure _)
        · exact .of_avoids (avoids_authenticateRun0 env _ _ _)
  · exact .of_reads Handler.reads_denied

theorem avoids_openSession (pam : PamHandle) (username seat : String) :
    Avoids (OnErrors Denies) (openSession env pam username seat) := by
  apply Avoids.bind_part (.read _)
  intro fresh
  apply Avoids.bind_part (avoids_liftMap (by nofun))
  intro opened
  apply Avoids.bind_part (.change _)
  intro _
  exact .pure id

theorem guarded_login : Guarded Denies (handleIpcLogin env msg) := by
  apply Guarded.bind (Handler.reads_parse _ _)
  intro payload
  apply Guarded.bind (Handler.reads_singleton _)
  intro pam
  apply Guarded.bind (Handler.reads_okOr _)
  intro _
  -- The account is known, and no error after this is a denial.
  apply Guarded.of_avoids
  apply Avoids.bind (avoids_checkPassword env _ _ _)
  intro _
  apply Avoids.bind avoids_pamHandle
  intro pam
  apply Avoids.bind (avoids_liftMap (by nofun))
  intro _
  apply Avoids.bind (avoids_openSession env _ _ _)
  intro session
  apply Avoids.bind (.change _)
  intro _
  exact avoids_reply nofun

theorem guarded_logout : Guarded Denies (handleIpcLogout env msg) := by
  apply Guarded.bind (Handler.reads_parse _ _)
  intro payload
  apply Guarded.bind (Handler.reads_singleton _)
  intro pam
  apply Guarded.bind (Handler.reads_okOr _)
  intro user
  split
  · apply Guarded.of_avoids
    apply Avoids.bind avoids_pamHandle
    intro pam
    apply Avoids.bind (avoids_liftMap (by nofun))
    intro closed
    apply Avoids.bind (.change _)
    intro _
    apply Avoids.bind (.change _)
    intro _
    exact avoids_reply nofun
  · exact .of_reads Handler.reads_denied

/-! ### Units -/

/-- An action that is dispatched, and with it another one if it is to last. -/
theorem avoids_dispatched (command kept : RuntimeCommand) (persist : Bool) (text : String) :
    Avoids Denies (do
      Handler.dispatch command
      if persist then Handler.dispatch kept
      pure (env.format.okMessage text)) := by
  apply Avoids.bind (.change _)
  intro _
  cases persist with
  | true => exact .bind (.change _) fun _ => avoids_reply nofun
  | false => exact avoids_reply nofun

theorem guarded_manageService (action : SSPayload → Option Ustr → ServiceDispatch)
    (kept : Option Json → Dispatched) (done : String) :
    Guarded Denies (manageService env fuel msg action kept done) := by
  apply Guarded.bind Handler.reads_permissionStore
  intro pm
  apply Guarded.bind (Handler.reads_parse _ _)
  intro payload
  apply Guarded.bind (Handler.reads_okOr _)
  intro uid
  apply Guarded.bind (.read _)
  intro registry
  apply Guarded.bind (.await _)
  intro managed
  split
  · apply Guarded.bind (.await _)
    intro only
    exact .of_avoids (avoids_dispatched env _ _ _ _)
  · exact .of_reads Handler.reads_denied

theorem guarded_manageSocket
    (check : SSPayload → Option SocketDefinition → Except CoreError Unit)
    (action : Ustr → RuntimeCommand) (kept : Option Json → Dispatched) (done : String) :
    Guarded Denies (manageSocket env fuel msg check action kept done) := by
  apply Guarded.bind Handler.reads_permissionStore
  intro pm
  apply Guarded.bind (Handler.reads_parse _ _)
  intro payload
  apply Guarded.bind (Handler.reads_okOr _)
  intro uid
  apply Guarded.bind (.read _)
  intro registry
  apply Guarded.bind (.await _)
  intro managed
  apply Guarded.bind (Handler.reads_lift _)
  intro _
  split
  · exact .of_avoids (avoids_dispatched env _ _ _ _)
  · exact .of_reads Handler.reads_denied

/-! ### Lists -/

section Lists

variable [SerdeJson] [TomlText]

omit [SerdeJson] [TomlText] in
theorem reads_serializeService (registry : UnitRegistry) (group scope : Ustr)
    (definition : ServiceDefinition) :
    Reads (serializeService env registry group scope definition) := by
  apply Reads.bind
  · rw [firstPid]
    split
    · exact .pure _
    · exact .bind (Handler.reads_unwrap _) fun pid => .pure _
  · intro pid
    exact .pure _

omit [TomlText] in
theorem reads_listUnit (facets : Facets) (registry : UnitRegistry) (payload : ListPayload) :
    Reads (listUnit env facets registry payload) := by
  have listed (group scope : Ustr) (items : List ServiceDefinition)
      (reply : List ServiceSerialized → Message) :
      Reads (collect (serializeService env registry group scope) items >>= fun services =>
        (pure (reply services) : Handler Message)) :=
    .bind (.collect (reads_serializeService env registry group scope) _) fun _ => .pure _
  rw [listUnit]
  dsimp only
  split
  · exact .bind Handler.reads_throw fun _ => listed _ _ _ _
  · exact listed _ _ _ _

omit [TomlText] in
theorem reads_listByExtension (registry : UnitRegistry) (unitType : String) :
    Reads (listByExtension env registry unitType) := by
  apply Reads.bind (Handler.reads_okOr _)
  intro networking
  split
  · exact .bind (Handler.reads_unwrap _) fun ports => .pure _
  · split
    · exact .bind (Handler.reads_singleton _) fun facets => .pure _
    · exact Handler.reads_throw

theorem reads_buildIpcListResponse (payload : ListPayload) :
    Reads (buildIpcListResponse env payload) := by
  apply Reads.bind (Handler.reads_singleton _)
  intro facets
  apply Reads.bind (.read _)
  intro registry
  split
  · exact reads_listUnit env facets registry payload
  · exact .bind (Handler.reads_okOr _) fun definition => .pure _
  · exact .bind (Handler.reads_okOr _) fun definition => .pure _
  · split
    · exact .pure _
    · exact .bind (Handler.reads_okOr _) fun definition => .pure _
  · exact .bind (.read _) fun scopes => .pure _
  · exact .bind (Handler.reads_singleton _) fun heap => .pure _
  · apply Reads.bind (Handler.reads_singleton _)
    intro heap
    exact .bind (Handler.reads_okOr _) fun initial => .pure _
  · exact .pure _
  · exact .pure _
  · exact .pure _
  · exact .pure _
  · exact reads_listByExtension env registry _

theorem reads_list : Reads (handleIpcList env msg) := by
  apply Reads.bind (Handler.reads_parse _ _)
  intro payload daemon result final ran
  obtain ⟨⟨inner, last⟩, built, same⟩ := Option.map_eq_some_iff.mp ran
  have kept : last = daemon := reads_buildIpcListResponse env payload daemon inner last built
  subst kept
  rcases inner with (error | _) | reply <;>
    · cases same
      rfl

end Lists

/-! ### Control -/

theorem reads_requireRoot : Reads (requireRoot msg) := by
  rw [requireRoot]
  split
  · exact .pure _
  · exact Handler.reads_denied

/-- A change that is followed by a request and a reply. -/
theorem avoids_requested (update : Daemon → Daemon) (action : LifecycleAction) (text : String) :
    Avoids Denies (do
      change update
      Handler.request action
      pure (env.format.okMessage text)) :=
  .bind (.change _) fun _ => .bind (.change _) fun _ => avoids_reply nofun

theorem guarded_createScope [Bincode FlowInstance] [Bincode StateSnapshot] [Crc32] :
    Guarded Denies (handleIpcCreateScope env msg) := by
  apply Guarded.bind (reads_requireRoot msg)
  intro _
  apply Guarded.bind (Handler.reads_parse _ _)
  intro payload
  apply Guarded.bind (Handler.reads_lift _)
  intro scope
  exact .of_avoids (avoids_requested env _ _ _)

theorem guarded_destroyScope : Guarded Denies (handleIpcDestroyScope env msg) := by
  apply Guarded.bind (reads_requireRoot msg)
  intro _
  apply Guarded.bind (Handler.reads_parse _ _)
  intro payload
  apply Guarded.bind (Handler.reads_lift _)
  intro scope
  exact .of_avoids (avoids_requested env _ _ _)

theorem writeEntry_error {isUser : Bool} {id : UInt32} {permissions : List UInt16} {name : String}
    {err : CoreError} (failed : writeEntry isUser id permissions name = .error err) :
    err ≠ .permissionDenied := by
  rw [writeEntry] at failed
  split at failed
  · cases failed
  · split at failed
    · cases failed
    · cases failed
      exact nofun

/-- Writing the permissions does not fail with a denial. -/
theorem writePermsWithOverlay_error {store : PermissionStore} {path : String}
    {outcome : Except String Unit} {err : CoreError}
    (failed : store.writePermsWithOverlay path outcome = .error err) :
    err ≠ .permissionDenied := by
  rcases bind_eq_error.mp failed with users | ⟨_, -, failed⟩
  · obtain ⟨user, -, written⟩ := exists_of_mapM_error users
    exact writeEntry_error written
  · rcases bind_eq_error.mp failed with groups | ⟨_, -, failed⟩
    · obtain ⟨group, -, written⟩ := exists_of_mapM_error groups
      exact writeEntry_error written
    · cases outcome with
      | ok _ => cases failed
      | error text =>
          cases failed
          exact nofun

theorem guarded_grantUngrant (grant : Bool) : Guarded Denies (grantUngrantIpc env msg grant) := by
  apply Guarded.bind (Handler.reads_singleton _)
  intro pm
  apply Guarded.bind (Handler.reads_parse _ _)
  intro payload
  apply Guarded.bind (Handler.reads_lift _)
  intro changed
  apply Guarded.of_avoids
  apply Avoids.bind (.change _)
  intro _
  apply Avoids.bind (avoids_lift fun err => writePermsWithOverlay_error)
  intro written
  apply Avoids.bind (.change _)
  intro _
  exact avoids_reply nofun

theorem reads_showPermission : Reads (handleIpcShowPermission env msg) := by
  apply Reads.bind (Handler.reads_singleton _)
  intro pm
  apply Reads.bind (Handler.reads_lift _)
  intro perms
  exact .pure _

theorem guarded_queueLifecycleAction (action : LifecycleAction) (response : String) :
    Guarded Denies (queueLifecycleAction env msg action response) := by
  apply Guarded.bind (reads_requireRoot msg)
  intro _
  exact .of_avoids (.bind (.change _) fun _ => avoids_reply nofun)

theorem reads_network : Reads (handleIpcNetwork env msg) := by
  apply Reads.bind (Handler.reads_parse _ _)
  intro payload
  apply Reads.bind (Handler.reads_lift _)
  intro _
  exact .pure _

theorem guarded_seat [SerdeJson] : Guarded Denies (handleIpcSeat env msg) := by
  apply Guarded.bind (Handler.reads_parse _ _)
  intro payload
  apply Guarded.bind (Handler.reads_singleton _)
  intro facets
  apply Guarded.of_avoids
  have dispatched (command : RuntimeCommand) : Avoids Denies (do
      Handler.dispatch command
      pure (env.format.okMessage "ok")) :=
    .bind (.change _) fun _ => avoids_reply nofun
  cases payload with
  | check => exact avoids_reply nofun
  | take seat => exact dispatched _
  | giveBack seat => exact dispatched _
  | taken seats => exact avoids_reply nofun
  | list => exact avoids_reply nofun
  | activate seat => exact dispatched _
  | session seat session user => exact dispatched _
  | sessionEnd seat session => exact dispatched _
  | devices seat => exact avoids_reply nofun

/-! ### Reloads -/

/-- The flag is set before the sender is looked at. -/
theorem run_reloadUnits_denied {daemon : Daemon} (unprivileged : msg.fromUid ≠ some 0) :
    handleIpcReloadUnits env msg daemon = some (.error (.error .permissionDenied),
      if asksForStatic env msg then { daemon with reloadStatic := true } else daemon) := by
  rw [handleIpcReloadUnits]
  split <;>
    · rw [queueLifecycleAction, requireRoot, if_neg unprivileged]
      rfl

/-- Root is not denied to reload the units. -/
theorem avoids_reloadUnits (privileged : msg.fromUid = some 0) :
    Avoids Denies (handleIpcReloadUnits env msg) := by
  have queued : Avoids Denies
      (queueLifecycleAction env msg .reloadUnits "unit reload scheduled") := by
    rw [queueLifecycleAction, requireRoot, if_pos privileged]
    exact .bind (.pure id) fun _ => .bind (.change _) fun _ => avoids_reply nofun
  rw [handleIpcReloadUnits]
  split
  · exact .bind (.change _) fun _ => queued
  · exact queued

/-! ## Requests that are denied -/

/-- A request is denied or rejected. -/
def Outcome.Denied (env : Env) : Outcome → Prop
  | .unknownAction | .rejected => True
  | .handled (.error err) => err = .permissionDenied
  | .handled (.ok reply) =>
      reply = env.format.textMessage .error CoreError.permissionDenied.text

/-- The result of the handler of a message that is not rejected. -/
theorem caught_cases {env : Env} {daemon : Daemon} {body : Handler Message} {outcome : Outcome} {final : Daemon}
    (ran : caught body daemon = some (.ok outcome, final)) (denied : outcome.Denied env) :
    ∃ result, body daemon = some (result, final) ∧ Denies result := by
  obtain ⟨⟨result, last⟩, handled, same⟩ := Option.map_eq_some_iff.mp ran
  rcases result with (error | _) | reply
  · cases same
    refine ⟨_, handled, ?_⟩
    rw [Outcome.Denied] at denied
    subst denied
    rfl
  · cases same
  · cases same
    refine ⟨_, handled, ?_⟩
    rw [Outcome.Denied] at denied
    subst denied
    rfl

/-! ## All handlers -/

section Requests

variable [SerdeJson] [TomlText] [Bincode FlowInstance] [Bincode StateSnapshot] [Crc32]

/-- All handlers but one check the sender before they change anything. -/
theorem guarded_handle {handler : IpcHandler} (other : handler ≠ .reloadUnits) :
    Guarded Denies (handler.handle env fuel msg) := by
  cases handler with
  | login => exact guarded_login env msg
  | logout => exact guarded_logout env msg
  | run0 => exact guarded_run0 env fuel msg
  | start =>
      rw [IpcHandler.handle, handleIpcStart]
      exact guarded_manageService env fuel msg _ _ _
  | stop =>
      rw [IpcHandler.handle, handleIpcStop]
      exact guarded_manageService env fuel msg _ _ _
  | startSocket =>
      rw [IpcHandler.handle, handleIpcStartSocket]
      exact guarded_manageSocket env fuel msg _ _ _ _
  | stopSocket =>
      rw [IpcHandler.handle, handleIpcStopSocket]
      exact guarded_manageSocket env fuel msg _ _ _ _
  | startUnknown | stopUnknown =>
      apply Guarded.bind (Handler.reads_parse _ _)
      intro _
      exact .of_reads (.bind (Handler.reads_okOr _) fun _ => .pure _)
  | list => exact .of_reads (reads_list env msg)
  | set => exact .of_reads (.bind (Handler.reads_singleton _) fun _ => .pure _)
  | remove => exact .of_reads (.pure _)
  | createScope => exact guarded_createScope env msg
  | destroyScope => exact guarded_destroyScope env msg
  | showPermission => exact .of_reads (reads_showPermission env msg)
  | grantPermission => exact guarded_grantUngrant env msg true
  | revokePermission => exact guarded_grantUngrant env msg false
  | reloadUnits => exact absurd rfl other
  | reboot =>
      rw [IpcHandler.handle, handleIpcReboot]
      exact guarded_queueLifecycleAction env msg _ _
  | softReboot =>
      rw [IpcHandler.handle, handleIpcSoftReboot]
      exact guarded_queueLifecycleAction env msg _ _
  | shutdown =>
      rw [IpcHandler.handle, handleIpcShutdown]
      exact guarded_queueLifecycleAction env msg _ _
  | network => exact .of_reads (reads_network env msg)
  | seat => exact guarded_seat env msg

/-- A request that is denied leaves the daemon as it is. -/
def DeniedUnchanged (env : Env) (msg : Message) (daemon : Daemon) : Prop :=
  ∀ fuel outcome final, considerIpcMessage env fuel msg daemon = some (.ok outcome, final) →
    outcome.Denied env → final = daemon

/-- A request that is let through to the reload of the units, asks for the static ones and
does not come from root, while the flag for them is not set. -/
def SetsReloadFlag (env : Env) (msg : Message) (daemon : Daemon) : Prop :=
  ∃ source fuel, (daemon.sources.getD ∅).lookup msg.action = some source ∧
    source.handler = .reloadUnits ∧
    permitted fuel msg (daemon.permissions.getD (.new .empty)) source.perms = some true ∧
    asksForStatic env msg = true ∧ msg.fromUid ≠ some 0 ∧ daemon.reloadStatic = false

variable {env msg fuel} {daemon : Daemon}

/-- What a handled message leaves is what its handler leaves. -/
theorem considerIpcMessage_cases {outcome : Outcome} {final : Daemon}
    (ran : considerIpcMessage env fuel msg daemon = some (.ok outcome, final)) :
    final = daemon ∨ ∃ source, (daemon.sources.getD ∅).lookup msg.action = some source ∧
      permitted fuel msg (daemon.permissions.getD (.new .empty)) source.perms = some true ∧
      caught (source.handler.handle env fuel msg) daemon = some (.ok outcome, final) := by
  rw [considerIpcMessage, Handler.permissionStore, run_read_bind, run_read_bind] at ran
  cases known : (daemon.sources.getD ∅).lookup msg.action with
  | none =>
      rw [known] at ran
      cases ran
      exact .inl rfl
  | some source =>
      rw [known] at ran
      cases asked : permitted fuel msg (daemon.permissions.getD (.new .empty)) source.perms with
      | none =>
          simp only [asked, run_await_none_bind] at ran
          cases ran
      | some allowed =>
          simp only [asked, run_await_some_bind] at ran
          cases allowed with
          | false =>
              cases ran
              exact .inl rfl
          | true => exact .inr ⟨source, rfl, asked, ran⟩

/-- Requests that are denied leave the daemon as it is, except those that set the flag for
the static units. -/
theorem deniedUnchanged_iff (env : Env) (msg : Message) (daemon : Daemon) :
    DeniedUnchanged env msg daemon ↔ ¬ SetsReloadFlag env msg daemon := by
  constructor
  · rintro unchanged ⟨source, fuel, known, reloads, allowed, asks, unprivileged, unset⟩
    have ran : considerIpcMessage env fuel msg daemon =
        some (.ok (.handled (.error .permissionDenied)), { daemon with reloadStatic := true }) := by
      rw [considerIpcMessage, Handler.permissionStore, run_read_bind, run_read_bind]
      simp only [known, allowed, run_await_some_bind, if_pos, reloads, IpcHandler.handle, caught,
        run_reloadUnits_denied env msg unprivileged, asks]
      rfl
    have same := unchanged fuel _ _ ran rfl
    rw [← same] at unset
    cases unset
  · intro keeps fuel outcome final ran denied
    rcases considerIpcMessage_cases ran with same | ⟨source, known, allowed, ran⟩
    · exact same
    · obtain ⟨result, handled, denies⟩ := caught_cases ran denied
      by_cases reloads : source.handler = .reloadUnits
      · rw [reloads] at handled
        by_cases privileged : msg.fromUid = some 0
        · exact absurd denies (avoids_reloadUnits env msg privileged _ _ _ handled)
        · rw [IpcHandler.handle, run_reloadUnits_denied env msg privileged] at handled
          cases handled
          cases asks : asksForStatic env msg with
          | false => rfl
          | true =>
              cases flag : daemon.reloadStatic with
              | true =>
                  rw [if_pos rfl, ← flag]
              | false =>
                  exact absurd ⟨source, fuel, known, reloads, allowed, asks, privileged, flag⟩ keeps
      · exact guarded_handle env fuel msg reloads _ _ _ handled denies

end Requests

/-! ## A reload that is denied -/

section Examples

open scoped Rind.Compact Rind.Standard

/-- The daemon once the actions are registered. -/
def listeningDaemon : Daemon := { Daemon.bare with sources := some (IpcSourcemap.initActions ∅) }

/-- A format that reads every payload as a flag that is set. -/
def Env.asking : Env := { Env.bare with format := { RmpSerde.mute with flag := fun _ => .ok true } }

/-- Alice asks for all units to be reloaded. -/
def aliceReload : Message :=
  { action := "reload_units", payload := some [0xC3], fromUid := some 1000, fromPid := some 42 }

/-- The reload is denied, but the flag stays set for the next one. -/
theorem not_deniedUnchanged_reload :
    ¬ ∀ (env : Env) (msg : Message) (daemon : Daemon), DeniedUnchanged env msg daemon := by
  intro unchanged
  have ran : considerIpcMessage .asking 0 aliceReload listeningDaemon =
      some (.ok (.handled (.error .permissionDenied)),
        { listeningDaemon with reloadStatic := true }) := by
    rfl
  have same := unchanged .asking aliceReload listeningDaemon 0 _ _ ran rfl
  exact absurd (congrArg Daemon.reloadStatic same) (by decide)

end Examples

end Rind.Ipc
