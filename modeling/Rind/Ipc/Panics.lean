import Rind.Ipc.Denied

/-!
# Messages that take the daemon down

A handler that panics takes the daemon with it, and so does a question about permissions
whose links go round in circles.  All other messages are answered.
-/

namespace Rind.Ipc

open Prog

/-- A handler comes to an end without a panic. -/
abbrev Survives {α : Type} (body : Handler α) (daemon : Daemon) : Prop :=
  Settles Failure.IsPanic body daemon

/-! ## Steps -/

section Steps

variable {α : Type} {error : CoreError} {daemon : Daemon}

theorem not_isPanic (error : CoreError) : ¬ (Failure.error error).IsPanic := nofun

theorem survives_throw : Survives (Handler.throw error : Handler α) daemon :=
  Settles.fail_iff.mpr (not_isPanic error)

theorem survives_okOr (found : Option α) : Survives (Handler.okOr error found) daemon :=
  .orFail (not_isPanic error) found

theorem survives_singleton (view : Daemon → Option α) :
    Survives (Handler.singleton error view) daemon :=
  .demand (not_isPanic error) view

theorem survives_lift (outcome : Except CoreError α) : Survives (Handler.lift outcome) daemon := by
  apply Settles.ofExcept
  intro failure failed
  cases outcome with
  | ok value => cases failed
  | error error =>
      cases failed
      exact not_isPanic error

theorem survives_parse (reader : Reader α) (msg : Message) :
    Survives (Handler.parse reader msg) daemon := survives_lift _

/-- What is there can be unwrapped. -/
theorem survives_unwrap {found : Option α} (there : found.isSome) :
    Survives (Handler.unwrap found) daemon := by
  cases found with
  | none => cases there
  | some value => exact .pure value

end Steps

/-! ## Handlers that ask nothing -/

section Handlers

variable (env : Env) (msg : Message) (daemon : Daemon)

theorem survives_checkPassword (pam : PamHandle) (username password : String) :
    Survives (checkPassword env pam username password) daemon :=
  .bind (.change _) fun _ _ => survives_lift _

theorem survives_openSession (pam : PamHandle) (username seat : String) :
    Survives (openSession env pam username seat) daemon := by
  apply Settles.bind (.read _)
  intro fresh _
  apply Settles.bind (survives_lift _)
  intro opened _
  exact .bind (.change _) fun _ _ => .pure _

theorem survives_login : Survives (handleIpcLogin env msg) daemon := by
  apply Settles.bind (survives_parse _ _)
  intro payload _
  apply Settles.bind (survives_singleton _)
  intro pam _
  apply Settles.bind (survives_okOr _)
  intro _ _
  apply Settles.bind (survives_checkPassword env _ _ _ _)
  intro _ _
  apply Settles.bind (survives_singleton _)
  intro pam _
  apply Settles.bind (survives_lift _)
  intro _ _
  apply Settles.bind (survives_openSession env _ _ _ _)
  intro session _
  exact .bind (.change _) fun _ _ => .pure _

theorem survives_logout : Survives (handleIpcLogout env msg) daemon := by
  apply Settles.bind (survives_parse _ _)
  intro payload _
  apply Settles.bind (survives_singleton _)
  intro pam _
  apply Settles.bind (survives_okOr _)
  intro user _
  split
  · apply Settles.bind (survives_singleton _)
    intro pam _
    apply Settles.bind (survives_lift _)
    intro closed _
    apply Settles.bind (.change _)
    intro _ _
    exact .bind (.change _) fun _ _ => .pure _
  · exact survives_throw

/-! ### Lists -/

/-- The first process is only looked at where there is one. -/
theorem survives_firstPid (found : List Nat) : Survives (firstPid found) daemon := by
  cases found with
  | nil => exact .pure _
  | cons first rest => exact .bind (survives_unwrap rfl) fun _ _ => .pure _

section Lists

variable [SerdeJson] [TomlText]

omit [TomlText] in
theorem survives_listUnit (facets : Facets) (registry : UnitRegistry) (payload : ListPayload) :
    Survives (listUnit env facets registry payload) daemon := by
  have listed (group scope : Ustr) (items : List ServiceDefinition)
      (reply : List ServiceSerialized → Message) (daemon : Daemon) :
      Survives (collect (serializeService env registry group scope) items >>= fun services =>
        (pure (reply services) : Handler Message)) daemon := by
    apply Settles.bind
    · apply Settles.collect
      intro definition _
      exact .bind (survives_firstPid _ _) fun _ _ => .pure _
    · intro services _
      exact .pure _
  rw [listUnit]
  dsimp only
  split
  · exact .bind survives_throw fun _ _ => listed _ _ _ _ _
  · exact listed _ _ _ _ _

omit [TomlText] in
theorem survives_listByExtension (registry : UnitRegistry) (unitType : String) :
    Survives (listByExtension env registry unitType) daemon := by
  apply Settles.bind (survives_okOr _)
  intro networking _
  split
  · exact .bind (survives_unwrap (getPorts_isSome env.proc)) fun _ _ => .pure _
  · split
    · exact .bind (survives_singleton _) fun _ _ => .pure _
    · exact survives_throw

theorem survives_buildIpcListResponse (payload : ListPayload) :
    Survives (buildIpcListResponse env payload) daemon := by
  apply Settles.bind (survives_singleton _)
  intro facets _
  apply Settles.bind (.read _)
  intro registry _
  split
  · exact survives_listUnit env _ facets registry payload
  · exact .bind (survives_okOr _) fun _ _ => .pure _
  · exact .bind (survives_okOr _) fun _ _ => .pure _
  · split
    · exact .pure _
    · exact .bind (survives_okOr _) fun _ _ => .pure _
  · exact .bind (.read _) fun _ _ => .pure _
  · exact .bind (survives_singleton _) fun _ _ => .pure _
  · apply Settles.bind (survives_singleton _)
    intro heap _
    exact .bind (survives_okOr _) fun _ _ => .pure _
  · exact .pure _
  · exact .pure _
  · exact .pure _
  · exact .pure _
  · exact survives_listByExtension env _ registry _

theorem survives_list : Survives (handleIpcList env msg) daemon := by
  apply Settles.bind (survives_parse _ _)
  intro payload daemon
  obtain ⟨result, final, ran, survives⟩ := survives_buildIpcListResponse env daemon payload
  rcases result with (error | _) | reply
  · apply Settles.of_ok
    rw [orErrorMessage, ran]
    rfl
  · exact absurd rfl (survives .panic rfl)
  · apply Settles.of_ok
    rw [orErrorMessage, ran]
    rfl

end Lists

/-! ### Control -/

theorem survives_requireRoot : Survives (requireRoot msg) daemon := by
  rw [requireRoot]
  split
  · exact .pure _
  · exact survives_throw

theorem survives_createScope [Bincode FlowInstance] [Bincode StateSnapshot] [Crc32] :
    Survives (handleIpcCreateScope env msg) daemon := by
  apply Settles.bind (survives_requireRoot msg _)
  intro _ _
  apply Settles.bind (survives_parse _ _)
  intro payload _
  apply Settles.bind (survives_lift _)
  intro scope _
  exact .bind (.change _) fun _ _ => .bind (.change _) fun _ _ => .pure _

theorem survives_destroyScope : Survives (handleIpcDestroyScope env msg) daemon := by
  apply Settles.bind (survives_requireRoot msg _)
  intro _ _
  apply Settles.bind (survives_parse _ _)
  intro payload _
  apply Settles.bind (survives_lift _)
  intro scope _
  exact .bind (.change _) fun _ _ => .bind (.change _) fun _ _ => .pure _

theorem survives_grantUngrant (grant : Bool) : Survives (grantUngrantIpc env msg grant) daemon := by
  apply Settles.bind (survives_singleton _)
  intro pm _
  apply Settles.bind (survives_parse _ _)
  intro payload _
  apply Settles.bind (survives_lift _)
  intro changed _
  apply Settles.bind (.change _)
  intro _ _
  apply Settles.bind (survives_lift _)
  intro written _
  exact .bind (.change _) fun _ _ => .pure _

theorem survives_showPermission : Survives (handleIpcShowPermission env msg) daemon := by
  apply Settles.bind (survives_singleton _)
  intro pm _
  exact .bind (survives_lift _) fun _ _ => .pure _

theorem survives_queueLifecycleAction (action : LifecycleAction) (response : String) :
    Survives (queueLifecycleAction env msg action response) daemon :=
  .bind (survives_requireRoot msg _) fun _ _ => .bind (.change _) fun _ _ => .pure _

theorem survives_reloadUnits : Survives (handleIpcReloadUnits env msg) daemon := by
  rw [handleIpcReloadUnits]
  split
  · exact .bind (.change _) fun _ _ => survives_queueLifecycleAction env msg _ _ _
  · exact survives_queueLifecycleAction env msg _ _ _

theorem survives_network : Survives (handleIpcNetwork env msg) daemon := by
  apply Settles.bind (survives_parse _ _)
  intro payload _
  exact .bind (survives_lift _) fun _ _ => .pure _

theorem survives_seat [SerdeJson] : Survives (handleIpcSeat env msg) daemon := by
  apply Settles.bind (survives_parse _ _)
  intro payload _
  apply Settles.bind (survives_singleton _)
  intro facets daemon
  have dispatched (command : RuntimeCommand) : Survives (do
      Handler.dispatch command
      pure (env.format.okMessage "ok")) daemon :=
    .bind (.change _) fun _ _ => .pure _
  cases payload with
  | check => exact .pure _
  | take seat => exact dispatched _
  | giveBack seat => exact dispatched _
  | taken seats => exact .pure _
  | list => exact .pure _
  | activate seat => exact dispatched _
  | session seat session user => exact dispatched _
  | sessionEnd seat session => exact dispatched _
  | devices seat => exact .pure _

end Handlers

/-! ## Questions about permissions -/

section Questions

variable (env : Env) (fuel : Nat) (msg : Message) (daemon : Daemon)

/-- The permission store that handlers look at. -/
def Daemon.permissionStore : PermissionStore := daemon.permissions.getD (.new .empty)

/-- Whether the sender may manage the item that a payload names, and for whom. -/
def manageQuestion {M : Type} (find : Ustr → Option M) (managedBy : M → Option (List Ustr))
    (ownerHasAccess : M → UserRecord → Bool) (onlyFor : Bool) : Option Unit :=
  match msg.parsePayload env.format.ss, msg.fromUid with
  | .ok payload, some uid =>
      (canManage fuel daemon.permissionStore uid (find payload.name) managedBy
        ownerHasAccess).bind fun managed =>
          if managed && onlyFor then
            (onlyUser fuel daemon.permissionStore uid).map fun _ => ()
          else some ()
  | _, _ => some ()

/-- The questions about permissions that a handler asks. They have an answer if there is
enough fuel for it. -/
def IpcHandler.questions : IpcHandler → Option Unit
  | .run0 =>
      match msg.fromPid, msg.fromUid with
      | some _, some uid => (daemon.permissionStore.userHas fuel uid permRun0).map fun _ => ()
      | _, _ => some ()
  | .start | .stop =>
      manageQuestion env fuel msg daemon (daemon.registry.services.find "*")
        ServiceDefinition.managedBy ServiceDefinition.ownerHasAccess true
  | .startSocket | .stopSocket =>
      manageQuestion env fuel msg daemon (daemon.registry.sockets.find "*")
        SocketDefinition.managedBy SocketDefinition.ownerHasAccess false
  | _ => some ()

/-- A request to run a command as root from a user without an account. -/
def UnknownRunner (msg : Message) (daemon : Daemon) : Prop :=
  msg.fromPid.isSome ∧ ∃ uid, msg.fromUid = some uid ∧ uid ≠ 0 ∧
    daemon.permissionStore.users.lookupByUid uid = none

end Questions

section Asking

variable {env : Env} {fuel : Nat} {msg : Message} {daemon : Daemon}

/-- A user without an account holds no permission, unless it is root. -/
theorem userHas_of_unknown {store : PermissionStore} {uid : UInt32} (other : uid ≠ 0)
    (unknown : store.users.lookupByUid uid = none) {holds : Bool}
    (asked : store.userHas fuel uid permRun0 = some holds) : holds = false := by
  cases fuel with
  | zero => cases asked
  | succ fuel =>
      have apart : ¬ (uid = 0 ∨ permRun0 = 0) := by
        rintro (root | any)
        · exact other root
        · exact absurd any (by decide)
      rw [PermissionStore.userHas, if_neg apart, unknown] at asked
      exact (Option.some.inj asked).symm

theorem userHas_root {store : PermissionStore} {holds : Bool}
    (asked : store.userHas fuel 0 permRun0 = some holds) : holds = true := by
  cases fuel with
  | zero => cases asked
  | succ fuel =>
      rw [PermissionStore.userHas, if_pos (.inl rfl)] at asked
      exact (Option.some.inj asked).symm

/-- A question that has no answer does not come to an end. -/
theorem not_survives_await {α β : Type} {next : α → Handler β} :
    ¬ Survives (await none >>= next) daemon := by
  rintro ⟨result, final, ran, -⟩
  cases ran

theorem not_survives_await_iff {α β : Type} {next : α → Handler β} :
    Survives (await none >>= next) daemon ↔ (none : Option Unit).isSome = true :=
  iff_of_false not_survives_await Bool.false_ne_true

/-- Only a user with an account, or root, is not looked up in vain. -/
theorem survives_mayRun0_iff {uid : UInt32} :
    Survives (mayRun0 fuel daemon.permissionStore uid) daemon ↔
      (daemon.permissionStore.userHas fuel uid permRun0).isSome ∧
        ¬ (uid ≠ 0 ∧ daemon.permissionStore.users.lookupByUid uid = none) := by
  rw [mayRun0]
  cases asked : daemon.permissionStore.userHas fuel uid permRun0 with
  | none =>
      constructor
      · intro survives
        exact absurd survives not_survives_await
      · rintro ⟨answered, -⟩
        cases answered
  | some holds =>
      cases holds with
      | true =>
          refine ⟨fun _ => ⟨rfl, ?_⟩, fun _ => .of_ok rfl⟩
          rintro ⟨other, unknown⟩
          cases userHas_of_unknown other unknown asked
      | false =>
          have other : uid ≠ 0 := by
            rintro rfl
            cases userHas_root asked
          cases account : daemon.permissionStore.users.lookupByUid uid with
          | none =>
              constructor
              · rintro ⟨result, final, ran, good⟩
                cases ran
                exact absurd rfl (good .panic rfl)
              · rintro ⟨-, known⟩
                exact absurd ⟨other, rfl⟩ known
          | some user =>
              refine ⟨fun _ => ⟨rfl, fun unknown => absurd unknown.2 (Option.some_ne_none _)⟩, fun _ => ?_⟩
              exact .of_ok rfl

theorem survives_answerRun0 (uid : UInt32) (parent : Int32) (daemon : Daemon) :
    Survives (answerRun0 env msg uid parent) daemon := by
  apply Settles.bind (survives_singleton _)
  intro queue daemon
  split
  · exact .pure _
  · split
    · exact .pure _
    · split
      · exact .pure _
      · apply Settles.bind (survives_singleton _)
        intro pam _
        apply Settles.bind (survives_okOr _)
        intro user _
        apply Settles.bind (survives_checkPassword env _ _ _ _)
        intro _ _
        exact .bind (.change _) fun _ _ => .pure _

/-- Where the first part of a program comes to an end without a panic if the whole does. -/
theorem survives_bind_iff {α β : Type} {first : Handler α} {next : α → Handler β}
    (others : ∀ value daemon, Survives (next value) daemon) :
    Survives (first >>= next) daemon ↔ Survives first daemon := by
  constructor
  · rintro ⟨result, final, ran, good⟩
    rcases run_bind_cases ran with ⟨err, firstRan, rfl⟩ | ⟨value, middle, firstRan, -⟩
    · refine ⟨_, _, firstRan, ?_⟩
      intro other same
      cases same
      exact good err rfl
    · exact .of_ok firstRan
  · intro survives
    exact survives.bind others

theorem survives_run0_iff :
    Survives (handleIpcRun0 env fuel msg) daemon ↔
      (IpcHandler.run0.questions env fuel msg daemon).isSome ∧ ¬ UnknownRunner msg daemon := by
  rw [handleIpcRun0, Handler.permissionStore, IpcHandler.questions, UnknownRunner]
  change Survives (Handler.okOr .permissionDenied msg.fromPid >>= _) daemon ↔ _
  cases process : msg.fromPid with
  | none =>
      refine ⟨fun _ => ⟨rfl, fun unknown => absurd unknown.1 Bool.false_ne_true⟩, fun _ => ?_⟩
      exact survives_throw
  | some pid =>
      change Survives (Handler.okOr .permissionDenied msg.fromUid >>= _) daemon ↔ _
      cases user : msg.fromUid with
      | none =>
          refine ⟨fun _ => ⟨rfl, ?_⟩, fun _ => survives_throw⟩
          rintro ⟨-, uid, given, -⟩
          cases given
      | some uid =>
          change Survives (mayRun0 fuel daemon.permissionStore uid >>= _) daemon ↔ _
          rw [survives_bind_iff, survives_mayRun0_iff]
          · simp
          · intro may daemon
            split
            · apply Settles.bind (survives_lift _)
              intro status _
              exact survives_answerRun0 uid _ _
            · exact survives_throw

/-- An action that is dispatched, and with it another one if it is to last. -/
theorem survives_dispatched (command kept : RuntimeCommand) (persist : Bool) (text : String) :
    Survives (do
      Handler.dispatch command
      if persist then Handler.dispatch kept
      pure (env.format.okMessage text)) daemon := by
  apply Settles.bind (.change _)
  intro _ _
  cases persist with
  | true => exact .bind (.change _) fun _ _ => .pure _
  | false => exact .pure _

/-- A question of permission, by what comes after each answer. -/
theorem survives_await_bind_iff {answer : Option Bool} {next : Bool → Handler Message}
    {asks : Bool → Option Unit}
    (others : ∀ given, Survives (next given) daemon ↔ (asks given).isSome) :
    Survives (await answer >>= next) daemon ↔ (answer.bind asks).isSome := by
  cases answer with
  | none => exact not_survives_await_iff
  | some given => exact others given

/-- A request about a service or a socket, by what comes after the user is known. -/
theorem survives_managed_iff {M : Type} {find : Ustr → Option M}
    {managedBy : M → Option (List Ustr)} {ownerHasAccess : M → UserRecord → Bool} {onlyFor : Bool}
    {next : SSPayload → UInt32 → Handler Message}
    (others : ∀ payload uid, Survives (next payload uid) daemon ↔
      ((canManage fuel daemon.permissionStore uid (find payload.name) managedBy
        ownerHasAccess).bind fun managed =>
          if managed && onlyFor then (onlyUser fuel daemon.permissionStore uid).map fun _ => ()
          else some ()).isSome) :
    Survives (Handler.parse env.format.ss msg >>= fun payload =>
        Handler.okOr .permissionDenied msg.fromUid >>= next payload) daemon ↔
      (manageQuestion env fuel msg daemon find managedBy ownerHasAccess onlyFor).isSome := by
  rw [manageQuestion]
  cases parsed : msg.parsePayload env.format.ss with
  | error err =>
      refine ⟨fun _ => rfl, fun _ => ?_⟩
      exact .of_error (Handler.run_parse_error_bind parsed) (not_isPanic _)
  | ok payload =>
      rw [Survives, Settles, Handler.run_parse_bind parsed]
      cases user : msg.fromUid with
      | none => exact ⟨fun _ => rfl, fun _ => survives_throw⟩
      | some uid => exact others payload uid

theorem survives_manageService_iff {action : SSPayload → Option Ustr → ServiceDispatch}
    {kept : Option Json → Dispatched} {done : String} :
    Survives (manageService env fuel msg action kept done) daemon ↔
      (IpcHandler.start.questions env fuel msg daemon).isSome := by
  rw [manageService, Handler.permissionStore, IpcHandler.questions]
  change Survives (Handler.parse env.format.ss msg >>= _) daemon ↔ _
  refine survives_managed_iff fun payload uid => ?_
  change Survives (await (canManage fuel daemon.permissionStore uid _ _ _) >>= _) daemon ↔ _
  refine survives_await_bind_iff fun managed => ?_
  cases managed with
  | false => exact ⟨fun _ => rfl, fun _ => survives_throw⟩
  | true =>
      change Survives (await (onlyUser fuel daemon.permissionStore uid) >>= _) daemon ↔
        ((onlyUser fuel daemon.permissionStore uid).map _).isSome = true
      cases onlyUser fuel daemon.permissionStore uid with
      | none => exact not_survives_await_iff
      | some only => exact ⟨fun _ => rfl, fun _ => survives_dispatched _ _ _ _⟩

theorem survives_manageSocket_iff
    {check : SSPayload → Option SocketDefinition → Except CoreError Unit}
    {action : Ustr → RuntimeCommand} {kept : Option Json → Dispatched} {done : String} :
    Survives (manageSocket env fuel msg check action kept done) daemon ↔
      (IpcHandler.startSocket.questions env fuel msg daemon).isSome := by
  rw [manageSocket, Handler.permissionStore, IpcHandler.questions]
  change Survives (Handler.parse env.format.ss msg >>= _) daemon ↔ _
  refine survives_managed_iff fun payload uid => ?_
  change Survives (await (canManage fuel daemon.permissionStore uid _ _ _) >>= _) daemon ↔ _
  refine survives_await_bind_iff fun managed => ?_
  refine ⟨fun _ => by cases managed <;> rfl, fun _ => ?_⟩
  apply Settles.bind (survives_lift _)
  intro _ daemon
  cases managed with
  | false => exact survives_throw
  | true => exact survives_dispatched _ _ _ _

end Asking

/-! ## All handlers -/

/-- A handler is caught, unless it panics. -/
theorem caught_returns_iff {body : Handler Message} {daemon : Daemon} :
    (∃ outcome final, caught body daemon = some (.ok outcome, final)) ↔ Survives body daemon := by
  constructor
  · rintro ⟨outcome, final, ran⟩
    obtain ⟨⟨result, last⟩, handled, same⟩ := Option.map_eq_some_iff.mp ran
    refine ⟨result, last, handled, ?_⟩
    rintro failure rfl panicked
    rw [Failure.IsPanic] at panicked
    subst panicked
    cases same
  · rintro ⟨result, final, handled, survives⟩
    rcases result with (error | _) | reply
    · exact ⟨.handled (.error error), final, by rw [caught, handled]; rfl⟩
    · exact absurd rfl (survives .panic rfl)
    · exact ⟨.handled (.ok reply), final, by rw [caught, handled]; rfl⟩

section Messages

variable [SerdeJson] [TomlText] [Bincode FlowInstance] [Bincode StateSnapshot] [Crc32]
variable {env : Env} {fuel : Nat} {msg : Message} {daemon : Daemon}

/-- A handler that asks nothing comes to an end. -/
theorem survives_handle_of_asksNothing {handler : IpcHandler}
    (asks : handler.questions env fuel msg daemon = some ()) (other : handler ≠ .run0)
    (survives : Survives (handler.handle env fuel msg) daemon) :
    Survives (handler.handle env fuel msg) daemon ↔
      (handler.questions env fuel msg daemon).isSome ∧
        ¬ (handler = .run0 ∧ UnknownRunner msg daemon) := by
  refine ⟨fun _ => ⟨by rw [asks]; rfl, ?_⟩, fun _ => survives⟩
  rintro ⟨isRun0, -⟩
  exact other isRun0

/-- A handler comes to an end if its questions have answers, and if it is not asked to run
a command for a user without an account. -/
theorem survives_handle_iff (handler : IpcHandler) :
    Survives (handler.handle env fuel msg) daemon ↔
      (handler.questions env fuel msg daemon).isSome ∧
        ¬ (handler = .run0 ∧ UnknownRunner msg daemon) := by
  cases handler with
  | run0 =>
      rw [IpcHandler.handle, survives_run0_iff]
      simp
  | start =>
      rw [IpcHandler.handle, handleIpcStart, survives_manageService_iff]
      simp
  | stop =>
      rw [IpcHandler.handle, handleIpcStop, survives_manageService_iff, IpcHandler.questions,
        IpcHandler.questions]
      simp
  | startSocket =>
      rw [IpcHandler.handle, handleIpcStartSocket, survives_manageSocket_iff]
      simp
  | stopSocket =>
      rw [IpcHandler.handle, handleIpcStopSocket, survives_manageSocket_iff, IpcHandler.questions,
        IpcHandler.questions]
      simp
  | login => exact survives_handle_of_asksNothing rfl (by decide) (survives_login env msg daemon)
  | logout => exact survives_handle_of_asksNothing rfl (by decide) (survives_logout env msg daemon)
  | startUnknown | stopUnknown =>
      refine survives_handle_of_asksNothing rfl (by decide) ?_
      apply Settles.bind (survives_parse _ _)
      intro _ _
      exact .bind (survives_okOr _) fun _ _ => .pure _
  | list => exact survives_handle_of_asksNothing rfl (by decide) (survives_list env msg daemon)
  | set =>
      exact survives_handle_of_asksNothing rfl (by decide) (.bind (survives_singleton _) fun _ _ => .pure _)
  | remove => exact survives_handle_of_asksNothing rfl (by decide) (.pure _)
  | createScope =>
      exact survives_handle_of_asksNothing rfl (by decide) (survives_createScope env msg daemon)
  | destroyScope =>
      exact survives_handle_of_asksNothing rfl (by decide) (survives_destroyScope env msg daemon)
  | showPermission =>
      exact survives_handle_of_asksNothing rfl (by decide) (survives_showPermission env msg daemon)
  | grantPermission =>
      exact survives_handle_of_asksNothing rfl (by decide) (survives_grantUngrant env msg daemon true)
  | revokePermission =>
      exact survives_handle_of_asksNothing rfl (by decide) (survives_grantUngrant env msg daemon false)
  | reloadUnits =>
      exact survives_handle_of_asksNothing rfl (by decide) (survives_reloadUnits env msg daemon)
  | reboot =>
      refine survives_handle_of_asksNothing rfl (by decide) ?_
      rw [IpcHandler.handle, handleIpcReboot]
      exact survives_queueLifecycleAction env msg daemon _ _
  | softReboot =>
      refine survives_handle_of_asksNothing rfl (by decide) ?_
      rw [IpcHandler.handle, handleIpcSoftReboot]
      exact survives_queueLifecycleAction env msg daemon _ _
  | shutdown =>
      refine survives_handle_of_asksNothing rfl (by decide) ?_
      rw [IpcHandler.handle, handleIpcShutdown]
      exact survives_queueLifecycleAction env msg daemon _ _
  | network => exact survives_handle_of_asksNothing rfl (by decide) (survives_network env msg daemon)
  | seat => exact survives_handle_of_asksNothing rfl (by decide) (survives_seat env msg daemon)

/-- What a message has to be like to be answered with some fuel. -/
def Answerable (env : Env) (fuel : Nat) (msg : Message) (daemon : Daemon)
    (source : IpcSource) : Prop :=
  permitted fuel msg daemon.permissionStore source.perms = some false ∨
    permitted fuel msg daemon.permissionStore source.perms = some true ∧
      (source.handler.questions env fuel msg daemon).isSome ∧
        ¬ (source.handler = .run0 ∧ UnknownRunner msg daemon)

theorem considerIpcMessage_returns_iff :
    (∃ outcome final, considerIpcMessage env fuel msg daemon = some (.ok outcome, final)) ↔
      ∀ source, (daemon.sources.getD ∅).lookup msg.action = some source →
        Answerable env fuel msg daemon source := by
  rw [considerIpcMessage, Handler.permissionStore, run_read_bind, run_read_bind]
  cases known : (daemon.sources.getD ∅).lookup msg.action with
  | none =>
      refine ⟨?_, fun _ => ⟨_, _, rfl⟩⟩
      intro _ source found
      cases found
  | some source =>
      have only : (∀ other, some source = some other → Answerable env fuel msg daemon other) ↔
          Answerable env fuel msg daemon source := by simp
      rw [only, Answerable, Daemon.permissionStore]
      cases asked : permitted fuel msg (daemon.permissions.getD (.new .empty)) source.perms with
      | none =>
          simp only [asked, run_await_none_bind]
          simp
      | some allowed =>
          simp only [asked, run_await_some_bind]
          cases allowed with
          | false =>
              simp only [Bool.false_eq_true, if_false]
              exact ⟨fun _ => .inl trivial, fun _ => ⟨_, _, rfl⟩⟩
          | true =>
              simp only [if_true]
              rw [caught_returns_iff, survives_handle_iff]
              simp

/-- A message is answered. -/
def Returns (env : Env) (msg : Message) (daemon : Daemon) : Prop :=
  ∃ fuel reply final, handleIpcMessage env fuel msg daemon = some (.ok reply, final)

theorem handleIpcMessage_returns_iff :
    (∃ reply final, handleIpcMessage env fuel msg daemon = some (.ok reply, final)) ↔
      ∀ source, (daemon.sources.getD ∅).lookup msg.action = some source →
        Answerable env fuel msg daemon source := by
  rw [← considerIpcMessage_returns_iff]
  constructor
  · rintro ⟨reply, final, ran⟩
    rcases run_bind_cases ran with ⟨err, -, failed⟩ | ⟨outcome, middle, considered, -⟩
    · cases failed
    · exact ⟨outcome, middle, considered⟩
  · rintro ⟨outcome, final, considered⟩
    exact ⟨outcome.reply env msg, final, run_bind_of_ok considered⟩

end Messages

/-! ## A user without an account -/

section Examples

open scoped Rind.Compact Rind.Standard

/-- A request to run a command as root, from a uid that no account has. -/
def strangerRun0 : Message :=
  { action := "run0", payload := none, fromUid := some 4242, fromPid := some 42 }

end Examples

end Rind.Ipc
