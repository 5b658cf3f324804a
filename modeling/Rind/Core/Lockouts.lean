import Rind.Core.Pam

/-!
# Limits on attempts

Between two successful authentications no more passwords of a user are verified
within the time of a lockout than its limit allows, unless the counter of failed
attempts wraps around.
-/

namespace Rind.PamHandle

variable {crypt : Crypt} {handle : PamHandle} {call : PamCall} {user : Ustr}

/-! ## One call -/

/-- A call is refused, succeeds or fails. -/
theorem authenticate_cases (crypt : Crypt) (handle : PamHandle) (call : PamCall) :
    ((handle.entryToVerify call).toBool = false ∧
      (handle.pamAuthenticate crypt call).1.toBool = false ∧
        handle.authenticate crypt call = handle) ∨
    ((handle.entryToVerify call).toBool = true ∧
      (handle.pamAuthenticate crypt call).1.toBool = true ∧
        handle.authenticate crypt call = handle.clearLockout call.username) ∨
    ((handle.entryToVerify call).toBool = true ∧
      (handle.pamAuthenticate crypt call).1.toBool = false ∧
        handle.authenticate crypt call = handle.recordFailure call.username call.finish) := by
  rw [authenticate, pamAuthenticate]
  cases handle.entryToVerify call with
  | error error => exact .inl ⟨rfl, rfl, rfl⟩
  | ok entry =>
      dsimp only
      split
      · exact .inr (.inl ⟨rfl, rfl, rfl⟩)
      · exact .inr (.inr ⟨rfl, rfl, rfl⟩)

theorem config_authenticate : (handle.authenticate crypt call).config = handle.config := by
  rcases authenticate_cases crypt handle call with ⟨-, -, after⟩ | ⟨-, -, after⟩ | ⟨-, -, after⟩ <;>
    rw [after] <;> rfl

theorem store_authenticate : (handle.authenticate crypt call).store = handle.store := by
  rcases authenticate_cases crypt handle call with ⟨-, -, after⟩ | ⟨-, -, after⟩ | ⟨-, -, after⟩ <;>
    rw [after] <;> rfl

/-- A call for one user does not concern another. -/
theorem lookup_authenticate_ne (apart : call.username ≠ user) :
    (handle.authenticate crypt call).lockouts.lookup user = handle.lockouts.lookup user := by
  rcases authenticate_cases crypt handle call with ⟨-, -, after⟩ | ⟨-, -, after⟩ | ⟨-, -, after⟩
  · rw [after]
  · rw [after, clearLockout]
    exact AList.lookup_erase_ne (Ne.symm apart)
  · rw [after, recordFailure]
    exact AList.lookup_insert_ne (Ne.symm apart)

/-- The failed attempts that are counted for a user. -/
def attempts (handle : PamHandle) (user : Ustr) : UInt32 :=
  ((handle.lockouts.lookup user).getD ⟨0, none⟩).failedAttempts

/-- A call of a user that verifies a password and does not succeed is counted. -/
theorem lookup_authenticate_failed (verifies : handle.verifies user call = true)
    (fails : handle.succeeds crypt user call = false) :
    (handle.authenticate crypt call).lockouts.lookup user =
      some ⟨handle.attempts user + 1, some call.finish⟩ := by
  rw [PamHandle.verifies, Bool.and_eq_true, beq_iff_eq] at verifies
  obtain ⟨rfl, verifies⟩ := verifies
  rw [succeeds, beq_self_eq_true, Bool.true_and] at fails
  rcases authenticate_cases crypt handle call with ⟨refused, -, -⟩ | ⟨-, succeeded, -⟩ | ⟨-, -, after⟩
  · rw [refused] at verifies
    cases verifies
  · rw [succeeded] at fails
    cases fails
  · rw [after, recordFailure]
    exact AList.lookup_insert _

/-- A call that verifies nothing changes nothing. -/
theorem authenticate_of_not_verifies (own : call.username = user)
    (refused : handle.verifies user call = false) : handle.authenticate crypt call = handle := by
  rw [verifies, own, beq_self_eq_true, Bool.true_and] at refused
  rcases authenticate_cases crypt handle call with ⟨-, -, after⟩ | ⟨verified, -, -⟩ | ⟨verified, -, -⟩
  · exact after
  · rw [refused] at verified
    cases verified
  · rw [refused] at verified
    cases verified

theorem succeeds_verifies (succeeds : handle.succeeds crypt user call = true) :
    handle.verifies user call = true ∧
      (handle.authenticate crypt call).lockouts.lookup user = none := by
  rw [PamHandle.succeeds, Bool.and_eq_true, beq_iff_eq] at succeeds
  obtain ⟨rfl, succeeded⟩ := succeeds
  rcases authenticate_cases crypt handle call with ⟨-, failed, -⟩ | ⟨verified, -, after⟩ | ⟨-, failed, -⟩
  · rw [failed] at succeeded
    cases succeeded
  · refine ⟨?_, ?_⟩
    · rw [verifies, beq_self_eq_true, Bool.true_and, verified]
    · rw [after, clearLockout]
      exact AList.lookup_erase _ _
  · rw [failed] at succeeded
    cases succeeded

/-- Nothing is verified while the user is locked out. -/
theorem not_verifies_of_locked {state : LockoutState} {last : Nat}
    (counted : handle.lockouts.lookup user = some state) (full : handle.config.maxRetries ≤ state.failedAttempts)
    (failure : state.lastFailure = some last)
    (recent : call.start - last < handle.config.lockoutDuration) :
    handle.verifies user call = false := by
  rw [verifies]
  by_cases own : call.username = user
  · have locked : handle.checkLockout call.username call.start = .error .maxRetriesExceeded := by
      rw [checkLockout, own, counted]
      dsimp only
      rw [if_pos full, failure]
      exact if_pos recent
    rw [entryToVerify, locked]
    exact Bool.and_false _
  · simp [own]

/-- A lockout ends with its time. -/
theorem checkLockout_of_past {state : LockoutState} {last now : Nat}
    (counted : handle.lockouts.lookup user = some state) (failure : state.lastFailure = some last)
    (past : handle.config.lockoutDuration ≤ now - last) : handle.checkLockout user now = .ok () := by
  rw [checkLockout, counted]
  dsimp only
  rw [failure]
  dsimp only
  rw [if_neg (Nat.not_lt.mpr past), ite_self]

/-! ## Within the time of a lockout -/

/-- The counter of a user does not wrap around at a call. -/
def Counts (crypt : Crypt) (user : Ustr) (handle : PamHandle) (call : PamCall) : Prop :=
  handle.verifies user call = true → handle.succeeds crypt user call = false →
    handle.attempts user ≠ UInt32.ofNat (2 ^ 32 - 1)

/-- The last failure of a user was not before a time. -/
def FailedSince (handle : PamHandle) (user : Ustr) (time : Nat) : Prop :=
  ∃ state last, handle.lockouts.lookup user = some state ∧ state.lastFailure = some last ∧ time ≤ last

/-- How many calls of a list verify a password of a user. -/
def verified (crypt : Crypt) (handle : PamHandle) (user : Ustr) (calls : List PamCall) : Nat :=
  Runs.count (authenticate crypt) (fun handle call => handle.verifies user call) handle calls

/-- How many calls of a list authenticate a user. -/
def successes (crypt : Crypt) (handle : PamHandle) (user : Ustr) (calls : List PamCall) : Nat :=
  Runs.count (authenticate crypt) (fun handle call => handle.succeeds crypt user call) handle calls

/-- The calls start within a time shorter than a lockout. -/
def Burst (handle : PamHandle) (time : Nat) (calls : List PamCall) : Prop :=
  ∀ call ∈ calls, time ≤ call.start ∧ call.start < time + handle.config.lockoutDuration

theorem toNat_attempts_succ {count : UInt32} (fits : count ≠ UInt32.ofNat (2 ^ 32 - 1)) :
    (count + 1).toNat = count.toNat + 1 := by
  have small : count.toNat ≠ 2 ^ 32 - 1 := by
    intro full
    apply fits
    rw [← full, UInt32.ofNat_toNat]
  have bound := count.toNat_lt
  rw [UInt32.toNat_add, UInt32.toNat_one, Nat.mod_eq_of_lt]
  omega

/-- After a failure in a burst, what is left of the limit is verified at most. -/
theorem verified_le_of_failedSince {time : Nat} {calls : List PamCall} (burst : Burst handle time calls)
    (failing : successes crypt handle user calls = 0)
    (counts : Runs.Along (authenticate crypt) (Counts crypt user) handle calls)
    (failed : FailedSince handle user time) :
    verified crypt handle user calls ≤ handle.config.maxRetries.toNat - (handle.attempts user).toNat := by
  induction calls generalizing handle with
  | nil => exact Nat.zero_le _
  | cons call rest ih =>
      obtain ⟨⟨lower, upper⟩, burstRest⟩ := List.forall_mem_cons.mp burst
      rw [successes, Runs.count, Nat.add_eq_zero_iff] at failing
      have fails : handle.succeeds crypt user call = false := by simpa using failing.1
      obtain ⟨state, last, counted, failure, since⟩ := failed
      have burst' : Burst (handle.authenticate crypt call) time rest := by
        rw [Burst, config_authenticate]
        exact burstRest
      have ih := ih burst' failing.2 counts.2
      rw [verified, Runs.count]
      change _ + verified crypt _ user rest ≤ _
      rw [config_authenticate] at ih
      cases verifies : handle.verifies user call with
      | false =>
          have same : (handle.authenticate crypt call).lockouts.lookup user = some state := by
            by_cases own : call.username = user
            · rw [authenticate_of_not_verifies own verifies, counted]
            · rw [lookup_authenticate_ne own, counted]
          have attempts_eq : (handle.authenticate crypt call).attempts user = handle.attempts user := by
            rw [attempts, attempts, same, counted]
          rw [Bool.toNat_false, Nat.zero_add, ← attempts_eq]
          exact ih ⟨state, last, same, failure, since⟩
      | true =>
          have after := lookup_authenticate_failed verifies fails
          have attempts_eq : (handle.authenticate crypt call).attempts user = handle.attempts user + 1 := by
            rw [attempts, after, Option.getD_some]
          have below : ¬ handle.config.maxRetries ≤ handle.attempts user := by
            intro full
            rw [attempts, counted, Option.getD_some] at full
            have recent : call.start - last < handle.config.lockoutDuration := by
              omega
            have locked := not_verifies_of_locked counted full failure recent
            rw [verifies] at locked
            cases locked
          have bound := ih ⟨_, _, after, rfl, Nat.le_trans lower call.ordered⟩
          rw [attempts_eq, toNat_attempts_succ (counts.1 verifies fails)] at bound
          rw [UInt32.le_iff_toNat_le] at below
          rw [Bool.toNat_true]
          omega

/-- In a burst without success the limit is verified at most, and once at least. -/
theorem verified_le {time : Nat} {calls : List PamCall} (burst : Burst handle time calls)
    (failing : successes crypt handle user calls = 0)
    (counts : Runs.Along (authenticate crypt) (Counts crypt user) handle calls) :
    verified crypt handle user calls ≤ max 1 handle.config.maxRetries.toNat := by
  induction calls generalizing handle with
  | nil => exact Nat.zero_le _
  | cons call rest ih =>
      obtain ⟨⟨lower, upper⟩, burstRest⟩ := List.forall_mem_cons.mp burst
      rw [successes, Runs.count, Nat.add_eq_zero_iff] at failing
      have fails : handle.succeeds crypt user call = false := by simpa using failing.1
      have burst' : Burst (handle.authenticate crypt call) time rest := by
        rw [Burst, config_authenticate]
        exact burstRest
      rw [verified, Runs.count]
      change _ + verified crypt _ user rest ≤ _
      cases verifies : handle.verifies user call with
      | false =>
          have ih := ih burst' failing.2 counts.2
          rw [config_authenticate] at ih
          rwa [Bool.toNat_false, Nat.zero_add]
      | true =>
          have after := lookup_authenticate_failed verifies fails
          have bound := verified_le_of_failedSince burst' failing.2 counts.2
            ⟨_, _, after, rfl, Nat.le_trans lower call.ordered⟩
          have counted : (handle.authenticate crypt call).attempts user = handle.attempts user + 1 := by
            rw [attempts, after, Option.getD_some]
          rw [counted, config_authenticate, toNat_attempts_succ (counts.1 verifies fails)] at bound
          rw [Bool.toNat_true]
          omega

/-! ## Runs -/

theorem config_run (crypt : Crypt) (handle : PamHandle) (calls : List PamCall) :
    (Runs.run (authenticate crypt) handle calls).config = handle.config := by
  have keeps : ∀ (after : PamHandle) (call : PamCall), after.config = handle.config →
      (after.authenticate crypt call).config = handle.config :=
    fun _ _ same => config_authenticate.trans same
  exact Runs.run_invariant keeps calls rfl

/-- Calls for other users leave the entry of a user and the accounts alone. -/
theorem run_others (crypt : Crypt) (handle : PamHandle) {calls : List PamCall} (others : ∀ call ∈ calls, call.username ≠ user) :
    (Runs.run (authenticate crypt) handle calls).lockouts.lookup user = handle.lockouts.lookup user ∧
      (Runs.run (authenticate crypt) handle calls).store = handle.store := by
  have along : Runs.Along (authenticate crypt) (fun _ call => call.username ≠ user) handle calls :=
    .of_forall others
  have keeps : ∀ (after : PamHandle) (call : PamCall),
      after.lockouts.lookup user = handle.lockouts.lookup user ∧ after.store = handle.store →
      call.username ≠ user →
      (after.authenticate crypt call).lockouts.lookup user = handle.lockouts.lookup user ∧
        (after.authenticate crypt call).store = handle.store :=
    fun _ _ same apart => ⟨(lookup_authenticate_ne apart).trans same.1, store_authenticate.trans same.2⟩
  exact along.invariant keeps ⟨rfl, rfl⟩

/-- Whether a user is locked out depends on its own entry. -/
theorem checkLockout_congr {other : PamHandle} (config : handle.config = other.config)
    (entry : handle.lockouts.lookup user = other.lockouts.lookup user) (now : Nat) :
    handle.checkLockout user now = other.checkLockout user now := by
  rw [checkLockout, checkLockout, config, entry]

/-- Without failures a user that has authenticated before gets to its password. -/
theorem verifies_of_lookup_none {before : PamHandle} {next : PamCall}
    (succeeded : before.succeeds crypt user call = true) (store : handle.store = before.store)
    (cleared : handle.lockouts.lookup user = none) (own : next.username = user) :
    handle.verifies user next = true := by
  have verified := (succeeds_verifies succeeded).1
  rw [verifies, Bool.and_eq_true, beq_iff_eq] at verified
  obtain ⟨rfl, verified⟩ := verified
  have free : handle.checkLockout call.username next.start = .ok () := by rw [checkLockout, cleared]
  rw [verifies, own, beq_self_eq_true, Bool.true_and]
  rw [entryToVerify] at verified ⊢
  rw [own, free, store]
  cases check : before.checkLockout call.username call.start with
  | error error =>
      rw [check] at verified
      cases verified
  | ok _ =>
      rw [check] at verified
      exact verified

/-- What the lockouts of a run achieve for a user. -/
structure LimitsAttempts (crypt : Crypt) (handle : PamHandle) (user : Ustr) (calls : List PamCall) :
    Prop where
  /-- In a burst without success not more than the limit is verified. -/
  limited : ∀ before burst after time, calls = before ++ burst ++ after → Burst handle time burst →
    successes crypt (Runs.run (authenticate crypt) handle before) user burst = 0 →
    verified crypt (Runs.run (authenticate crypt) handle before) user burst ≤
      max 1 handle.config.maxRetries.toNat
  /-- The calls of others do not lock the user out, and do not free it. -/
  others : ∀ before call after, calls = before ++ call :: after → call.username ≠ user → ∀ now,
    (Runs.run (authenticate crypt) handle (before ++ [call])).checkLockout user now =
      (Runs.run (authenticate crypt) handle before).checkLockout user now
  /-- After a success the next call gets to the password. -/
  next : ∀ before call between next after, calls = before ++ call :: between ++ next :: after →
    (Runs.run (authenticate crypt) handle before).succeeds crypt user call = true →
    (∀ other ∈ between, other.username ≠ user) → next.username = user →
    (Runs.run (authenticate crypt) handle (before ++ call :: between)).verifies user next = true

/-- Every run in which the counter of the user does not wrap around. -/
theorem limitsAttempts (crypt : Crypt) (handle : PamHandle) (user : Ustr) (calls : List PamCall)
    (counts : Runs.Along (authenticate crypt) (Counts crypt user) handle calls) :
    LimitsAttempts crypt handle user calls where
  limited before burst after time whole span failing := by
    rw [whole, List.append_assoc, Runs.Along.append, Runs.Along.append] at counts
    have span' : Burst (Runs.run (authenticate crypt) handle before) time burst := by
      rw [Burst, config_run]
      exact span
    have bound := verified_le span' failing counts.2.1
    rwa [config_run] at bound
  others before call after _ apart now := by
    rw [Runs.run_append]
    exact checkLockout_congr config_authenticate (lookup_authenticate_ne apart) now
  next before call between next after _ succeeded others own := by
    rw [Runs.run_append, Runs.run_cons]
    have cleared := (succeeds_verifies succeeded).2
    have kept := run_others crypt
      ((Runs.run (authenticate crypt) handle before).authenticate crypt call) others
    exact verifies_of_lookup_none succeeded (kept.2.trans store_authenticate) (kept.1.trans cleared) own

/-! ## Wrapping around -/

/-- An account whose password no one knows. -/
def lockedOutUsers : UserStore :=
  .ofRecords [⟨"makano", 1000, 1000, "", "/home/makano", "/bin/sh", []⟩]
    [⟨"makano", "$6$salt$hash", none, none, none, none, none, none⟩] [] []

def refusing : Crypt := ⟨fun _ _ => false, fun _ _ => false, fun _ _ => false⟩

def guess (time : Nat) : PamCall := ⟨"makano", "guess", time, time, Nat.le_refl time⟩

/-- One retry, and a lockout of a nanosecond. -/
def impatient : PamHandle := .withConfig lockedOutUsers ⟨1, 1⟩

theorem limitsAttempts_guess :
    LimitsAttempts refusing impatient "makano" [guess 0, guess 0, guess 1] := by
  refine limitsAttempts refusing impatient "makano" _ ⟨?_, ?_, ?_, trivial⟩ <;>
    exact fun _ _ => by decide +kernel

theorem verifyPassword_refusing (password hash : String) :
    verifyPassword refusing password hash = false := by
  rw [verifyPassword]
  repeat' split
  all_goals rfl

/-- A guess fails, and is verified unless the user is locked out. -/
theorem guess_fails (handle : PamHandle) (time : Nat) :
    handle.succeeds refusing "makano" (guess time) = false := by
  rw [succeeds, pamAuthenticate]
  cases handle.entryToVerify (guess time) with
  | error error => rfl
  | ok entry =>
      dsimp only
      rw [verifyPassword_refusing]
      rfl

theorem guess_verifies {handle : PamHandle} {time : Nat} (store : handle.store = lockedOutUsers)
    (free : handle.checkLockout "makano" time = .ok ()) :
    handle.verifies "makano" (guess time) = true := by
  have user : lockedOutUsers.lookupByName "makano" =
      some ⟨"makano", 1000, 1000, "", "/home/makano", "/bin/sh", []⟩ := by decide +kernel
  have shadow : lockedOutUsers.shadowFor "makano" =
      some ⟨"makano", "$6$salt$hash", none, none, none, none, none, none⟩ := by decide +kernel
  have usable : (ShadowEntry.mk "makano" "$6$salt$hash" none none none none none none).isLocked = false := by
    decide +kernel
  simp only [verifies, entryToVerify, guess, free, store, user, shadow, usable]
  rfl

/-- Guesses a nanosecond apart are all verified, and their number is counted in 32 bits. -/
theorem run_guesses (count : Nat) :
    let after := Runs.run (authenticate refusing) impatient ((List.range count).map guess)
    after.store = lockedOutUsers ∧ after.attempts "makano" = UInt32.ofNat count ∧
      after.checkLockout "makano" count = .ok () := by
  induction count with
  | zero => exact ⟨rfl, rfl, rfl⟩
  | succ count ih =>
      obtain ⟨store, attempts_eq, free⟩ := ih
      rw [List.range_succ, List.map_append, List.map_cons, List.map_nil, Runs.run_append, Runs.run_cons,
        Runs.run_nil]
      have config := config_run refusing impatient ((List.range count).map guess)
      generalize Runs.run (authenticate refusing) impatient ((List.range count).map guess) = before at *
      have after := lookup_authenticate_failed (guess_verifies store free) (guess_fails before count)
      refine ⟨store_authenticate.trans store, ?_, ?_⟩
      · rw [attempts, after, Option.getD_some, attempts_eq]
        exact (UInt32.ofNat_add count 1).symm
      · refine checkLockout_of_past after rfl ?_
        rw [config_authenticate, config]
        exact Nat.le_sub_of_add_le (Nat.add_comm _ _ ▸ Nat.le_refl _)

/-- Where the counter wraps around two passwords are verified at once. -/
theorem not_limitsAttempts_guesses {count : Nat} (full : UInt32.ofNat count + 1 = 0) :
    ¬ LimitsAttempts refusing impatient "makano"
      ((List.range count).map guess ++ [guess count, guess count]) := by
  intro limits
  obtain ⟨store, attempts_eq, free⟩ := run_guesses count
  have burst : Burst impatient count [guess count, guess count] := by
    intro call member
    have same : call = guess count := by simpa using member
    rw [same]
    exact ⟨Nat.le_refl count, Nat.lt_succ_self count⟩
  have bound := limits.limited ((List.range count).map guess) [guess count, guess count] [] count
    (List.append_nil _).symm burst
  have config := config_run refusing impatient ((List.range count).map guess)
  generalize Runs.run (authenticate refusing) impatient ((List.range count).map guess) = before at *
  have first := guess_verifies store free
  have after := lookup_authenticate_failed first (guess_fails before count)
  rw [attempts_eq, full] at after
  have second : (before.authenticate refusing (guess count)).verifies "makano" (guess count) = true := by
    refine guess_verifies (store_authenticate.trans store) ?_
    rw [checkLockout, after, config_authenticate, config]
    rfl
  have failing : successes refusing before "makano" [guess count, guess count] = 0 := by
    rw [successes, Runs.count, Runs.count, Runs.count, guess_fails, guess_fails]
    rfl
  have bound := bound failing
  rw [verified, Runs.count, Runs.count, Runs.count, first, second] at bound
  exact absurd bound (by decide)

/-- The limit is missed by the guess after the last one that is counted. -/
theorem not_limitsAttempts_wrapped :
    ¬ LimitsAttempts refusing impatient "makano"
      ((List.range (2 ^ 32 - 1)).map guess ++ [guess (2 ^ 32 - 1), guess (2 ^ 32 - 1)]) :=
  not_limitsAttempts_guesses rfl

end Rind.PamHandle
