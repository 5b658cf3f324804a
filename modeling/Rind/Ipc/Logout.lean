import Rind.Ipc.Users

/-!
# Whose session a logout closes

A logout names a user, who has to be the one that asks for it, and a session.  Nothing
ties the two to each other.
-/

namespace Rind.Ipc

/-- The sessions that are open. -/
def Daemon.sessions (daemon : Daemon) : AList fun _ : UInt64 => PamSession :=
  (daemon.pam.map PamHandle.sessions).getD ∅

/-- A session belongs to the user of an id. -/
def Daemon.BelongsTo (daemon : Daemon) (uid : Option UInt32) (session : PamSession) : Prop :=
  ∃ pam user, daemon.pam = some pam ∧ pam.store.lookupByName session.username = some user ∧
    uid = some user.uid

/-- A logout fails and leaves the sessions as they are, or closes one session of the user
who asks for it. -/
def ClosesOwn (env : Env) (msg : Message) (daemon : Daemon) : Prop :=
  ∃ result final, handleIpcLogout env msg daemon = some (result, final) ∧
    ((∃ failure, result = .error failure ∧ final.sessions = daemon.sessions) ∨
      ∃ reply id session, result = .ok reply ∧ daemon.sessions.lookup id = some session ∧
        daemon.BelongsTo msg.fromUid session ∧ final.sessions = daemon.sessions.erase id)

/-- The session that is named next to one's own name is one's own, where there is one. -/
def NamesOwnSession (env : Env) (msg : Message) (daemon : Daemon) : Prop :=
  ∀ payload pam user session, msg.parsePayload env.format.logout = .ok payload →
    daemon.pam = some pam → pam.store.lookupByName payload.username = some user →
    msg.fromUid = some user.uid → pam.sessions.lookup payload.sessionId = some session →
    daemon.BelongsTo msg.fromUid session

section Logout

variable {env : Env} {msg : Message} {daemon : Daemon}

theorem Daemon.sessions_of_pam {pam : PamHandle} (handle : daemon.pam = some pam) :
    daemon.sessions = pam.sessions := by
  rw [Daemon.sessions, handle, Option.map_some, Option.getD_some]

/-- A logout that gets through to the session it names closes it, whoever it belongs to. -/
theorem handleIpcLogout_of_session {payload : LogoutPayload} {pam : PamHandle} {user : UserRecord}
    {session : PamSession} (parsed : msg.parsePayload env.format.logout = .ok payload)
    (handle : daemon.pam = some pam)
    (account : pam.store.lookupByName payload.username = some user)
    (own : msg.fromUid = some user.uid)
    (found : pam.sessions.lookup payload.sessionId = some session) :
    ∃ reply final, handleIpcLogout env msg daemon = some (.ok reply, final) ∧
      final.sessions = daemon.sessions.erase payload.sessionId := by
  have closed : pam.pamCloseSession payload.sessionId =
      .ok { pam with sessions := pam.sessions.erase payload.sessionId } := by
    rw [PamHandle.pamCloseSession, found]
  rw [handleIpcLogout, Handler.run_parse_bind parsed]
  simp only [pamHandle, Handler.run_singleton_bind, handle, Handler.run_okOr_some_bind, account,
    if_pos own, closeSession, closed, Except.mapError, Handler.run_lift_ok_bind,
    Prog.run_change_bind, Handler.dispatch, Prog.run_pure]
  exact ⟨_, _, rfl, by rw [Daemon.sessions_of_pam handle]; rfl⟩

/-- A logout fails without changing anything, or gets through to a session. -/
theorem handleIpcLogout_cases (env : Env) (msg : Message) (daemon : Daemon) :
    (∃ failure, handleIpcLogout env msg daemon = some (.error failure, daemon)) ∨
      ∃ payload pam user session, msg.parsePayload env.format.logout = .ok payload ∧
        daemon.pam = some pam ∧ pam.store.lookupByName payload.username = some user ∧
        msg.fromUid = some user.uid ∧ pam.sessions.lookup payload.sessionId = some session := by
  rw [handleIpcLogout]
  cases parsed : msg.parsePayload env.format.logout with
  | error err =>
      rw [Handler.run_parse_error_bind parsed]
      exact .inl ⟨_, rfl⟩
  | ok payload =>
      rw [Handler.run_parse_bind parsed, pamHandle, Handler.run_singleton_bind]
      cases handle : daemon.pam with
      | none => exact .inl ⟨_, rfl⟩
      | some pam =>
          rw [Handler.run_okOr_some_bind]
          cases account : pam.store.lookupByName payload.username with
          | none => exact .inl ⟨_, rfl⟩
          | some user =>
              rw [Handler.run_okOr_some_bind]
              by_cases own : msg.fromUid = some user.uid
              · cases found : pam.sessions.lookup payload.sessionId with
                | none =>
                    simp only [if_pos own, closeSession, pamHandle, Handler.run_singleton_bind,
                      handle, Handler.run_okOr_some_bind, PamHandle.pamCloseSession, found,
                      Except.mapError, Handler.run_lift_error_bind]
                    exact .inl ⟨_, rfl⟩
                | some session =>
                    exact .inr ⟨payload, pam, user, session, rfl, rfl, account, own, found⟩
              · rw [if_neg own]
                exact .inl ⟨_, rfl⟩

/-- A logout closes no session but those of the user who asks for it exactly if the session
it names is one of them. -/
theorem closesOwn_iff (env : Env) (msg : Message) (daemon : Daemon) :
    ClosesOwn env msg daemon ↔ NamesOwnSession env msg daemon := by
  constructor
  · intro closes payload pam user session parsed handle account own found
    obtain ⟨reply, final, ran, left⟩ := handleIpcLogout_of_session parsed handle account own found
    obtain ⟨result, final', ran', ending⟩ := closes
    rw [ran] at ran'
    cases ran'
    rcases ending with ⟨failure, failed, -⟩ | ⟨_, id, other, -, known, belongs, erased⟩
    · cases failed
    · have same : id = payload.sessionId := by
        by_contra apart
        have kept : (daemon.sessions.erase payload.sessionId).lookup id = some other := by
          rw [AList.lookup_erase_ne apart, known]
        rw [← left, erased, AList.lookup_erase] at kept
        cases kept
      subst same
      rw [Daemon.sessions_of_pam handle, found] at known
      cases known
      exact belongs
  · intro names
    rcases handleIpcLogout_cases env msg daemon with ⟨failure, ran⟩ |
      ⟨payload, pam, user, session, parsed, handle, account, own, found⟩
    · exact ⟨_, _, ran, .inl ⟨failure, rfl, rfl⟩⟩
    · obtain ⟨reply, final, ran, left⟩ :=
        handleIpcLogout_of_session parsed handle account own found
      refine ⟨_, final, ran, .inr ⟨reply, payload.sessionId, session, rfl, ?_, ?_, left⟩⟩
      · rw [Daemon.sessions_of_pam handle, found]
      · exact names payload pam user session parsed handle account own found

end Logout

/-! ## A session of somebody else -/

/-- Two users, of whom Bob has a session. -/
def bobAtWork : Daemon :=
  { Daemon.bare with
    pam := some
      { PamHandle.withConfig (.ofRecords [alice, bob] [] [] []) {} with
        sessions := AList.insert 7 ⟨7, "bob", "/dev/tty1", 0⟩ ∅ } }

/-- A format that reads every payload as a logout of Alice that names this session. -/
def Env.guessing : Env :=
  { Env.bare with format := { RmpSerde.mute with logout := fun _ => .ok ⟨"alice", 7, none⟩ } }

/-- Alice asks for a logout. -/
def aliceLogout : Message :=
  { action := "logout", payload := some [], fromUid := some 1000, fromPid := some 42 }

/-- Alice closes the session of Bob. -/
theorem not_closesOwn_guessing :
    ¬ ∀ (env : Env) (msg : Message) (daemon : Daemon), ClosesOwn env msg daemon := by
  intro closes
  obtain ⟨result, final, ran, ending⟩ := closes .guessing aliceLogout bobAtWork
  have left : (handleIpcLogout .guessing aliceLogout bobAtWork).map (·.2.sessions.keys) =
      some [] := by decide +kernel
  rw [ran, Option.map_some, Option.some.injEq] at left
  rcases ending with ⟨failure, -, same⟩ | ⟨_, id, session, -, known, belongs, -⟩
  · rw [same] at left
    exact absurd left (by decide +kernel)
  · have own : id = 7 := by
      by_contra apart
      have none_ : bobAtWork.sessions.lookup id = none := by
        change (AList.insert 7 _ ∅ : AList fun _ : UInt64 => PamSession).lookup id = none
        rw [AList.lookup_insert_ne apart]
        rfl
      rw [none_] at known
      cases known
    subst own
    cases known
    obtain ⟨pam, user, handle, account, sameUid⟩ := belongs
    cases handle
    have uid : (some user).map UserRecord.uid = some 1001 := by
      rw [← account]
      decide +kernel
    rw [Option.map_some, ← sameUid] at uid
    exact absurd uid (by decide +kernel)

end Rind.Ipc
