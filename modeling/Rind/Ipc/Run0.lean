import Rind.Ipc.Users
import Rind.Prog.Runs

/-!
# Passwords that validate a run0

`run0` remembers when a password was checked for the processes of a parent, but not whose
password it was.  A process that has the same parent, or only the same number as parent,
is then not asked for one.
-/

namespace Rind.Ipc

/-! ## Histories of requests -/

/-- A request to `run0`, while each process has been there since some time, or a change of
the daemon by something else. -/
inductive Run0Step where
  | request (env : Env) (fuel : Nat) (msg : Message) (born : Int32 → Nat)
  | other (next : Daemon)

/-- A request changes what its handler does. Only the handler remembers passwords. -/
def Daemon.run0Step (daemon : Daemon) : Run0Step → Daemon
  | .request env fuel msg _ => ((handleIpcRun0 env fuel msg daemon).map Prod.snd).getD daemon
  | .other next =>
      { next with run0Queue := daemon.run0Queue, authentications := daemon.authentications }

/-- The daemon before any password was checked. -/
def Daemon.booted (daemon : Daemon) : Daemon :=
  { daemon with run0Queue := daemon.run0Queue.map fun _ => ∅, authentications := [] }

/-- A request of a user comes from a process with a parent. -/
structure ComesFrom (env : Env) (msg : Message) (uid : UInt32) (parent : Int32) : Prop where
  user : msg.fromUid = some uid
  process : ∃ pid status, msg.fromPid = some pid ∧ env.proc.status pid = .ok status ∧
    parent = parentPid status pid

/-- The password in a request is the one of the user of an id. -/
def Daemon.GivesPassword (daemon : Daemon) (env : Env) (msg : Message) (uid : UInt32) : Prop :=
  ∃ pam user payload, daemon.pam = some pam ∧ pam.store.lookupByUid uid = some user ∧
    msg.parsePayload env.format.run0Auth = .ok payload ∧
    (pam.pamAuthenticate env.crypt (env.clock.call user.username payload.password)).1.toBool = true

/-- What a reply that validates a request stands for: the password in the request, or, if
no password is checked, one that the same user gave a short while ago, below the same
parent, which has existed since. -/
structure ValidatedBy (daemon final : Daemon) (env : Env) (msg : Message) (born : Int32 → Nat) :
    Prop where
  checked : final.authentications ≠ daemon.authentications → ∃ uid parent,
    ComesFrom env msg uid parent ∧ daemon.GivesPassword env msg uid ∧
    final.authentications = ⟨uid, parent, env.clock.recorded⟩ :: daemon.authentications
  remembered : final.authentications = daemon.authentications → ∃ uid parent,
    ComesFrom env msg uid parent ∧ ∃ last ∈ daemon.authentications,
      last.uid = uid ∧ last.parent = parent ∧ env.isRecent (some last.time) = true ∧
        born parent ≤ last.time

/-- A request is only validated by a password of its own user. -/
def ValidatesOwn (daemon : Daemon) : Run0Step → Prop
  | .request env fuel msg born =>
      ∀ reply final, handleIpcRun0 env fuel msg daemon = some (.ok reply, final) →
        reply.type = .valid → ValidatedBy daemon final env msg born
  | .other _ => True

/-- The password that was checked last below a parent. -/
def Daemon.lastBelow (daemon : Daemon) (parent : Int32) : Option Authentication :=
  daemon.authentications.find? (·.parent == parent)

/-- A request that may be made, and that finds a recent password below its parent, is made
by the user who gave that password, below the process that was the parent then. -/
def ParentsApart (daemon : Daemon) : Run0Step → Prop
  | .request env fuel msg born =>
      ∀ uid parent last, ComesFrom env msg uid parent →
        (mayRun0 fuel (daemon.permissions.getD (.new .empty)) uid daemon).map Prod.fst =
          some (.ok true) →
        daemon.lastBelow parent = some last → env.isRecent (some last.time) = true →
        last.uid = uid ∧ born parent ≤ last.time
  | .other _ => True

/-! ## What a request does -/

section Request

variable {env : Env} {fuel : Nat} {msg : Message} {daemon final : Daemon}

/-- What a request leaves that is not validated. -/
def Unvalidated (daemon : Daemon) (result : Except Failure Message) (final : Daemon) : Prop :=
  (∀ reply, result = .ok reply → reply.type ≠ .valid) ∧
    final.run0Queue = daemon.run0Queue ∧ final.authentications = daemon.authentications

theorem Unvalidated.of_error {failure : Failure} :
    Unvalidated daemon (.error failure) daemon := ⟨nofun, rfl, rfl⟩

theorem Unvalidated.of_reply {reply : Message} (other : reply.type ≠ .valid) :
    Unvalidated daemon (.ok reply) daemon := by
  refine ⟨?_, rfl, rfl⟩
  intro reply' same
  cases same
  exact other

/-- What a request leaves that gives the password of a user. -/
def Remembers (env : Env) (uid : UInt32) (parent : Int32) (daemon final : Daemon) : Prop :=
  final.run0Queue = daemon.run0Queue.map (·.insert parent env.clock.recorded) ∧
    final.authentications = ⟨uid, parent, env.clock.recorded⟩ :: daemon.authentications

/-- The password of a user is wrong, or it is remembered. -/
theorem authenticateRun0_cases {uid : UInt32} {parent : Int32} {payload : Run0AuthPayload}
    (parsed : msg.parsePayload env.format.run0Auth = .ok payload)
    {result : Except Failure Message}
    (ran : authenticateRun0 env uid parent payload.password daemon = some (result, final)) :
    Unvalidated daemon result final ∨
      daemon.GivesPassword env msg uid ∧ Remembers env uid parent daemon final := by
  rw [authenticateRun0, pamHandle, Handler.run_singleton_bind] at ran
  cases handle : daemon.pam with
  | none =>
      rw [handle] at ran
      cases ran
      exact .inl .of_error
  | some pam =>
      rw [handle, Handler.run_okOr_some_bind] at ran
      cases account : pam.store.lookupByUid uid with
      | none =>
          rw [account] at ran
          cases ran
          exact .inl .of_error
      | some user =>
          rw [account, Handler.run_okOr_some_bind] at ran
          cases checked : (pam.pamAuthenticate env.crypt
            (env.clock.call user.username payload.password)).1 with
          | error err =>
              obtain ⟨next, failed⟩ := checkPassword_error daemon checked
              rw [Prog.run_bind_of_error failed] at ran
              cases ran
              exact .inl ⟨nofun, rfl, rfl⟩
          | ok record =>
              obtain ⟨next, passed⟩ := checkPassword_ok daemon checked
              rw [Prog.run_bind_of_ok passed, Prog.run_change_bind] at ran
              cases ran
              refine .inr ⟨⟨pam, user, payload, handle, account, parsed, ?_⟩, rfl, rfl⟩
              rw [checked]
              rfl

/-- A recent password is remembered, or a password is asked for and checked. -/
theorem answerRun0_cases {uid : UInt32} {parent : Int32} {result : Except Failure Message}
    (ran : answerRun0 env msg uid parent daemon = some (result, final)) :
    Unvalidated daemon result final ∨
      (∃ queue, daemon.run0Queue = some queue ∧ env.isRecent (queue.lookup parent) = true ∧
        final = daemon) ∨
      daemon.GivesPassword env msg uid ∧ Remembers env uid parent daemon final := by
  rw [answerRun0, run0Queue, Handler.run_singleton_bind] at ran
  cases known : daemon.run0Queue with
  | none =>
      rw [known] at ran
      cases ran
      exact .inl .of_error
  | some queue =>
      rw [known, Handler.run_okOr_some_bind] at ran
      by_cases recent : env.isRecent (queue.lookup parent) = true
      · rw [if_pos recent] at ran
        cases ran
        exact .inr (.inl ⟨queue, rfl, recent, rfl⟩)
      · rw [if_neg recent] at ran
        split at ran
        · cases ran
          exact .inl (.of_reply nofun)
        · cases parsed : msg.parsePayload env.format.run0Auth with
          | error err =>
              rw [parsed] at ran
              cases ran
              exact .inl (.of_reply nofun)
          | ok payload =>
              rw [parsed] at ran
              rcases authenticateRun0_cases parsed ran with unvalidated | gives
              · exact .inl unvalidated
              · exact .inr (.inr gives)

/-- A request is not validated, or it is by a password that is remembered or given. -/
theorem handleIpcRun0_cases {result : Except Failure Message}
    (ran : handleIpcRun0 env fuel msg daemon = some (result, final)) :
    Unvalidated daemon result final ∨ ∃ uid parent, ComesFrom env msg uid parent ∧
      ((∃ queue, daemon.run0Queue = some queue ∧ env.isRecent (queue.lookup parent) = true ∧
          (mayRun0 fuel (daemon.permissions.getD (.new .empty)) uid daemon).map Prod.fst =
            some (.ok true) ∧ final = daemon) ∨
        daemon.GivesPassword env msg uid ∧ Remembers env uid parent daemon final) := by
  rw [handleIpcRun0, Handler.permissionStore, Prog.run_read_bind] at ran
  cases process : msg.fromPid with
  | none =>
      rw [process] at ran
      cases ran
      exact .inl .of_error
  | some pid =>
      rw [process, Handler.run_okOr_some_bind] at ran
      cases user : msg.fromUid with
      | none =>
          rw [user] at ran
          cases ran
          exact .inl .of_error
      | some uid =>
          rw [user, Handler.run_okOr_some_bind] at ran
          rcases Prog.run_bind_cases ran with ⟨failure, stopped, rfl⟩ | ⟨may, middle, asked, ran⟩
          · cases reads_mayRun0 _ _ _ _ _ _ stopped
            exact .inl .of_error
          · cases reads_mayRun0 _ _ _ _ _ _ asked
            cases may with
            | false =>
                cases ran
                exact .inl .of_error
            | true =>
                rw [if_pos rfl] at ran
                cases status : env.proc.status pid with
                | error err =>
                    rw [status] at ran
                    cases ran
                    exact .inl .of_error
                | ok text =>
                    rw [status] at ran
                    have comes : ComesFrom env msg uid (parentPid text pid) :=
                      ⟨user, pid, text, process, status, rfl⟩
                    rcases answerRun0_cases ran with unvalidated | ⟨queue, known, recent, rfl⟩ | gives
                    · exact .inl unvalidated
                    · refine .inr ⟨uid, _, comes, .inl ⟨queue, known, recent, ?_, rfl⟩⟩
                      rw [asked, Option.map_some]
                    · exact .inr ⟨uid, _, comes, .inr gives⟩

end Request

/-! ## Runs -/

section Runs

variable {daemon : Daemon}

/-- What is remembered for a parent is when a password was checked last below it. -/
def Daemon.RemembersLast (daemon : Daemon) : Prop :=
  ∀ queue parent, daemon.run0Queue = some queue →
    queue.lookup parent = (daemon.lastBelow parent).map Authentication.time

theorem Daemon.remembersLast_booted (daemon : Daemon) : daemon.booted.RemembersLast := by
  intro queue parent known
  obtain ⟨old, -, rfl⟩ := Option.map_eq_some_iff.mp known
  rfl

/-- One more password is remembered as the last one. -/
theorem Daemon.RemembersLast.of_remembers {env : Env} {uid : UInt32} {parent : Int32}
    {final : Daemon} (remembers : daemon.RemembersLast)
    (fresh : Remembers env uid parent daemon final) : final.RemembersLast := by
  intro queue other known
  obtain ⟨asked, log⟩ := fresh
  rw [known] at asked
  obtain ⟨old, was, rfl⟩ := Option.map_eq_some_iff.mp asked.symm
  rw [lastBelow, log, List.find?_cons]
  by_cases same : other = parent
  · subst same
    rw [AList.lookup_insert]
    simp
  · rw [AList.lookup_insert_ne same, remembers old other was]
    have apart : (parent == other) = false := by simpa using Ne.symm same
    rw [apart]
    rfl

theorem Daemon.RemembersLast.step (remembers : daemon.RemembersLast) (label : Run0Step) :
    (daemon.run0Step label).RemembersLast := by
  cases label with
  | other next => exact remembers
  | request env fuel msg born =>
      cases ran : handleIpcRun0 env fuel msg daemon with
      | none =>
          rw [run0Step, ran]
          exact remembers
      | some outcome =>
          obtain ⟨result, final⟩ := outcome
          rw [run0Step, ran]
          change final.RemembersLast
          rcases handleIpcRun0_cases ran with ⟨-, queue, log⟩ |
            ⟨uid, parent, -, ⟨-, -, -, -, rfl⟩ | ⟨-, fresh⟩⟩
          · intro queue' parent known
            rw [lastBelow, log]
            exact remembers queue' parent (queue ▸ known)
          · exact remembers
          · exact remembers.of_remembers fresh

/-- A request whose parent is its own is validated by a password of its own user. -/
theorem ParentsApart.validatesOwn {label : Run0Step} (apart : ParentsApart daemon label)
    (remembers : daemon.RemembersLast) : ValidatesOwn daemon label := by
  cases label with
  | other next => trivial
  | request env fuel msg born =>
      intro reply final ran valid
      rcases handleIpcRun0_cases ran with ⟨invalid, -, -⟩ |
        ⟨uid, parent, comes, ⟨queue, known, recent, may, rfl⟩ | ⟨gives, fresh⟩⟩
      · exact absurd valid (invalid reply rfl)
      · constructor
        · intro changed
          exact absurd rfl changed
        · intro _
          rw [remembers queue parent known] at recent
          cases found : final.lastBelow parent with
          | none =>
              rw [found] at recent
              cases recent
          | some last =>
              rw [found, Option.map_some] at recent
              obtain ⟨own, since⟩ := apart uid parent last comes may found recent
              have below : last.parent = parent := by
                simpa using List.find?_some found
              exact ⟨uid, parent, comes, last, List.mem_of_find?_eq_some found, own, below,
                recent, since⟩
      · constructor
        · intro _
          exact ⟨uid, parent, comes, gives, fresh.2⟩
        · intro same
          rw [fresh.2] at same
          exact absurd same (List.cons_ne_self _ _)

/-- In a history in which no request finds a password that another user gave below its
parent, or that was given below another process of the same number, each request is
validated by a password of its own user. -/
theorem run0_validatesOwn (daemon : Daemon) (steps : List Run0Step)
    (apart : Runs.Along Daemon.run0Step ParentsApart daemon.booted steps) :
    Runs.Along Daemon.run0Step ValidatesOwn daemon.booted steps := by
  have keeps : ∀ (daemon : Daemon) (label : Run0Step), daemon.RemembersLast →
      ParentsApart daemon label → (daemon.run0Step label).RemembersLast :=
    fun daemon label remembers _ => remembers.step label
  apply apart.mono keeps
  · intro daemon label remembers apart
    exact apart.validatesOwn remembers
  · exact daemon.remembersLast_booted

end Runs

/-! ## Two users below one process -/

section Examples

/-- Both users are in the group that may use `run0`, and Alice has a password. -/
def wheelAccounts : UserStore :=
  .ofRecords [alice, bob] [⟨"alice", "$6$", none, none, none, none, none, none⟩]
    [⟨"wheel", 10, ["alice", "bob"], []⟩] []

def wheelDaemon : Daemon :=
  { Daemon.bare with
    permissions := some (.new wheelAccounts)
    pam := some (.withConfig wheelAccounts {})
    run0Queue := some ∅ }

/-- A host on which every process is a child of one shell, and where one password is right. -/
def Env.shell : Env :=
  { Env.bare with
    format := { RmpSerde.mute with run0Auth := fun _ => .ok ⟨"secret"⟩ }
    crypt := ⟨fun password _ => password == "secret", fun _ _ => false, fun _ _ => false⟩
    proc := { Env.bare.proc with status := fun _ => .ok "Name:\tid\nPPid:\t7\n" } }

/-- A request of a user from below the shell. -/
def shellRequest (uid : UInt32) (payload : Option (List UInt8)) : Run0Step :=
  .request .shell 2
    { action := "run0", payload, fromUid := some uid, fromPid := some 42 } fun _ => 0

theorem ComesFrom.of_shell {uid other : UInt32} {payload : Option (List UInt8)} {parent : Int32}
    (comes : ComesFrom .shell
      { action := "run0", payload, fromUid := some uid, fromPid := some 42 } other parent) :
    other = uid :=
  (Option.some.inj comes.user).symm

/-- Alice gives her password. -/
theorem authentications_wheelDaemon :
    (wheelDaemon.booted.run0Step (shellRequest 1000 (some []))).authentications =
      [⟨1000, 7, 0⟩] := by
  decide +kernel

theorem run0_validatesOwn_alice :
    Runs.Along Daemon.run0Step ParentsApart wheelDaemon.booted
        [shellRequest 1000 (some []), shellRequest 1000 none] ∧
      Runs.Along Daemon.run0Step ValidatesOwn wheelDaemon.booted
        [shellRequest 1000 (some []), shellRequest 1000 none] := by
  have apart : Runs.Along Daemon.run0Step ParentsApart wheelDaemon.booted
      [shellRequest 1000 (some []), shellRequest 1000 none] := by
    refine ⟨?_, ?_, trivial⟩
    · intro uid parent last comes may found recent
      cases found
    · intro uid parent last comes may found recent
      have listed := List.mem_of_find?_eq_some found
      rw [authentications_wheelDaemon, List.mem_singleton] at listed
      subst listed
      exact ⟨comes.of_shell.symm, le_rfl⟩
  exact ⟨apart, run0_validatesOwn wheelDaemon _ apart⟩

/-- Bob is not asked for a password after Alice has given hers. -/
theorem not_validatesOwn_bob :
    ¬ ∀ (daemon : Daemon) (steps : List Run0Step),
      Runs.Along Daemon.run0Step ValidatesOwn daemon.booted steps := by
  intro validates
  obtain ⟨-, second, -⟩ :=
    validates wheelDaemon [shellRequest 1000 (some []), shellRequest 1001 none]
  let asked := wheelDaemon.booted.run0Step (shellRequest 1000 (some []))
  let request : Message := { action := "run0", fromUid := some 1001, fromPid := some 42 }
  have answered : (handleIpcRun0 .shell 2 request asked).map
      (fun outcome => (outcome.1.toOption.map Message.type, outcome.2.authentications)) =
        some (some .valid, [⟨1000, 7, 0⟩]) := by
    decide +kernel
  obtain ⟨⟨result, final⟩, ran, shown⟩ := Option.map_eq_some_iff.mp answered
  rw [Prod.mk.injEq] at shown
  obtain ⟨replied, log⟩ := shown
  cases result with
  | error failure => cases replied
  | ok reply =>
      have unchanged : final.authentications = asked.authentications :=
        log.trans authentications_wheelDaemon.symm
      obtain ⟨uid, parent, comes, last, listed, own, -⟩ :=
        (second reply final ran (Option.some.inj replied)).remembered unchanged
      rw [authentications_wheelDaemon, List.mem_singleton] at listed
      subst listed
      rw [comes.of_shell] at own
      exact absurd own (by decide)

end Examples

end Rind.Ipc
