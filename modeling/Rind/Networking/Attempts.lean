import Rind.Data.Trials
import Rind.Networking.Events

/-!
# Attempts to configure

While the system is online, reconciling is to try every interface that is present, has a
definition and is not configured, and to give up every configured one that is offline.
Configuring ends with the first error and is left out where some interface is configured,
and a lease that cannot be renewed ends the run before interfaces are given up.
-/

namespace Rind.Networking

open Prog Trials

/-! ## Purpose -/

/-- The pause between two attempts, in milliseconds. -/
def attemptPause : Nat := 5000

abbrev ConfigEntry : Type := NetworkConfigMetadata × Attempt

namespace NetworkingRuntime

variable (runtime : NetworkingRuntime)

/-- An interface that is present and is not configured, and was not tried a short time ago. -/
def Awaits (config : ConfigEntry) : Prop :=
  config.2.present ∧ config.1.name ∉ runtime.configuredInterfaces ∧
    ¬ runtime.tried config.1.name config.2.now

/-- The tables after an event. -/
def after (event : NetworkingEvent) : NetworkingRuntime :=
  match event.program ⟨runtime, []⟩ with
  | none => runtime
  | some (_, state) => state.runtime

end NetworkingRuntime

/-- Every interface that waits for it gets an attempt, and those that are offline are given
up. -/
structure Attends (before : NetworkingRuntime) (configs : List ConfigEntry)
    (after : NetworkingRuntime) : Prop where
  attempted : ∀ config ∈ configs, before.Awaits config →
    after.lastAttempt config.1.name ≠ before.lastAttempt config.1.name
  givenUp : ∀ iface ∈ before.configuredInterfaces, ¬ before.stillOnline iface →
    iface ∉ after.configuredInterfaces

/-- Reconciling attends to all interfaces while the system is online. -/
def AttendsToAll (runtime : NetworkingRuntime) : NetworkingEvent → Prop
  | .reconcile now configs renewal => runtime.online →
      Attends runtime configs (runtime.after (.reconcile now configs renewal))
  | _ => True

/-! ## Configuring one interface -/

namespace NetworkingRuntime

variable (runtime : NetworkingRuntime) (config : ConfigEntry)

def configureFails : Bool :=
  match config.1.method with
  | .dhcp => runtime.renewalFails config.2 config.1.name
  | .static => staticFails config.2 config.1
  | .none => false

/-- An attempt configures the interface. -/
def configureSettles : Bool :=
  match config.1.method with
  | .dhcp => !runtime.renewalFails config.2 config.1.name && config.2.dhcpRequest.toBool
  | .static => !staticFails config.2 config.1 && config.1.address.isSome
  | .none => false

/-- The attempt for a definition. -/
def trial : Trial Ustr where
  name := config.1.name
  time := config.2.now
  ready := config.2.present
  settles := runtime.configureSettles config
  fails := runtime.configureFails config

theorem trial_congr {other : NetworkingRuntime}
    (same : other.lastInterfaces = runtime.lastInterfaces) :
    other.trial config = runtime.trial config := by
  rw [trial, trial, configureSettles, configureSettles, configureFails, configureFails,
    renewalFails, renewalFails, same]

end NetworkingRuntime

/-- What holds of the tables after some attempts. -/
structure Follows (before : NetworkingRuntime) (made : List (Trial Ustr))
    (runtime : NetworkingRuntime) : Prop where
  lastInterfaces : runtime.lastInterfaces = before.lastInterfaces
  configured : ∀ name, name ∈ runtime.configuredInterfaces ↔
    ∃ attempt ∈ made, attempt.name = name ∧ attempt.settles
  noted : Noted before.lastAttempt made runtime.lastAttempt

section Configuring

variable [SerdeJson] {before : NetworkingRuntime} {made : List (Trial Ustr)}

/-- What the method of a definition does. -/
theorem run_method (config : ConfigEntry) (state : NetworkingState) :
    ∃ result final,
      (match config.1.method with
        | .dhcp => configureDhcp config.2 config.1.name
        | .static => configureStatic config.2 config.1.name config.1
        | .none => pure ()) state = some (result, final) ∧
      Progress state final ∧
      (result.toBool = !(state.runtime.trial config).fails) ∧
      Settles config.1.name (state.runtime.trial config).settles state.runtime final.runtime := by
  simp only [NetworkingRuntime.trial, NetworkingRuntime.configureFails,
    NetworkingRuntime.configureSettles]
  cases config.1.method with
  | dhcp => exact run_configureDhcp config.2 config.1.name state
  | static => exact run_configureStatic config.2 config.1.name config.1 state
  | none => exact ⟨.ok (), state, rfl, .refl state, rfl, .refl _ _⟩

omit [SerdeJson] in
/-- The state in which the time of an attempt is noted. -/
theorem Follows.note {state : NetworkingState} (follows : Follows before made state.runtime)
    (config : ConfigEntry) {settled : Bool} {final : NetworkingRuntime}
    (takes : takesPlace attemptPause before.lastAttempt made (before.trial config))
    (same : final.lastInterfaces = state.runtime.lastInterfaces)
    (settles : Settles config.1.name settled
      { state.runtime with
        interfaceStates := state.runtime.interfaceStates.insert config.1.name
          { (state.runtime.interfaceStates.lookup config.1.name).getD .default with
            lastConfigureAttempt := some config.2.now } } final)
    (settled_ : (before.trial config).settles = settled) :
    Follows before (made ++ [before.trial config]) final where
  lastInterfaces := same.trans follows.lastInterfaces
  configured name := by
    have unlisted : config.1.name ∉ state.runtime.configuredInterfaces := by
      rw [follows.configured]
      exact (follows.noted.takesPlace_iff.mp takes).2.2
    have listed : name ∈ final.configuredInterfaces ↔
        name ∈ state.runtime.configuredInterfaces ∨ settled ∧ name = config.1.name := by
      rw [settles.configured]
      split
      · next both => simp [both.1]
      · next neither =>
          have unsettled : ¬ settled := fun settled => neither ⟨settled, unlisted⟩
          simp [unsettled]
    rw [listed, follows.configured]
    simp only [List.mem_append, List.mem_singleton, or_and_right, exists_or, exists_eq_left,
      settled_]
    apply or_congr_right
    exact ⟨fun both => ⟨both.2.symm, both.1⟩, fun both => ⟨both.2, both.1.symm⟩⟩
  noted := by
    have notes := follows.noted.snoc (by decide) takes
    have equal : final.lastAttempt = fun name =>
        if name = config.1.name then some config.2.now else state.runtime.lastAttempt name := by
      funext name
      exact (settles.lastAttempt name).trans (lastAttempt_insert _ _ _ _)
    rw [equal]
    exact notes

/-- A definition gets its attempt where it takes place, and is skipped elsewhere. -/
theorem run_configureOne (config : ConfigEntry) (state : NetworkingState)
    (follows : Follows before made state.runtime) :
    if takesPlace attemptPause before.lastAttempt made (before.trial config) then
      ∃ result final, configureOne config.1 config.2 state = some (result, final) ∧
        (result.toBool = !(before.trial config).fails) ∧
        Follows before (made ++ [before.trial config]) final.runtime
    else configureOne config.1 config.2 state = some (.ok (), state) := by
  have skipped_iff : (decide (config.1.name ∈ state.runtime.configuredInterfaces) ||
      !config.2.present || state.runtime.tried config.1.name config.2.now) = true ↔
        ¬ takesPlace attemptPause before.lastAttempt made (before.trial config) := by
    have settled : (∃ attempt ∈ made, attempt.name = (before.trial config).name ∧
        attempt.settles) ↔ config.1.name ∈ state.runtime.configuredInterfaces :=
      (follows.configured config.1.name).symm
    have tried : recent attemptPause state.runtime.lastAttempt (before.trial config).name
        (before.trial config).time = state.runtime.tried config.1.name config.2.now := rfl
    have ready : (before.trial config).ready = config.2.present := rfl
    rw [follows.noted.takesPlace_iff, settled, tried, ready, Bool.or_eq_true, Bool.or_eq_true,
      decide_eq_true_eq, Bool.not_eq_true']
    grind
  rw [configureOne, run_read_bind]
  split
  · next takes =>
      have unskipped := mt skipped_iff.mp (not_not.mpr takes)
      rw [if_neg unskipped, updateInterface, update, run_change_bind]
      obtain ⟨result, final, ran, ⟨actions, -, configures⟩, ok, settles⟩ := run_method config
        { state with runtime := { state.runtime with
            interfaceStates := state.runtime.interfaceStates.insert config.1.name
              { (state.runtime.interfaceStates.lookup config.1.name).getD .default with
                lastConfigureAttempt := some config.2.now } } }
      have same := before.trial_congr config follows.lastInterfaces
      refine ⟨result, final, ran, ok.trans (by rw [← same]; rfl), ?_⟩
      exact follows.note config takes configures.lastInterfaces settles (by rw [← same]; rfl)
  · next stays => rw [if_pos (skipped_iff.mpr stays)]; rfl

/-- Configuring makes the attempts of a row. -/
theorem run_configure (configs : List ConfigEntry) (state : NetworkingState)
    (follows : Follows before made state.runtime) :
    ∃ result final, configure configs state = some (result, final) ∧
      Follows before (reached attemptPause before.lastAttempt made (configs.map before.trial))
        final.runtime := by
  induction configs generalizing made state with
  | nil => exact ⟨.ok (), state, rfl, follows⟩
  | cons config rest ih =>
      have one := run_configureOne config state follows
      rw [configure, each_cons, List.map_cons, reached]
      split at one
      · next takes =>
          obtain ⟨result, middle, ran, ok, follows'⟩ := one
          rw [if_pos takes]
          cases result with
          | error error =>
              have fails : (before.trial config).fails := (Bool.not_eq_false' _).mp ok.symm
              rw [if_pos fails]
              exact ⟨.error error, middle, run_bind_of_error ran, follows'⟩
          | ok value =>
              have passes : ¬ (before.trial config).fails :=
                Bool.eq_false_iff.mp ((Bool.not_eq_true' _).mp ok.symm)
              rw [if_neg passes, run_bind_of_ok ran]
              exact ih middle follows'
      · next stays =>
          rw [if_neg stays, run_bind_of_ok one]
          exact ih state follows

end Configuring

/-! ## Reconciling -/

/-- No attempt that fails comes ahead of the first one of an interface, nothing waits where
some interface is configured, and a lease cannot be renewed only where all are online. -/
structure Unhindered (runtime : NetworkingRuntime) (now : Nat) (configs : List ConfigEntry)
    (renewal : Ustr → Attempt) : Prop where
  ahead : runtime.configuredInterfaces = [] →
    NoneFailsAhead attemptPause runtime.lastAttempt (configs.map runtime.trial)
  settled : runtime.configuredInterfaces ≠ [] →
    ∀ config ∈ configs, ¬ runtime.Awaits config
  renewals : (∃ iface ∈ runtime.needingRenewal now,
      runtime.renewalFails (renewal iface) iface) →
    ∀ iface ∈ runtime.configuredInterfaces, runtime.stillOnline iface

/-- The condition on each reconciliation while the system is online. -/
def UnhinderedStep (runtime : NetworkingRuntime) : NetworkingEvent → Prop
  | .reconcile now configs renewal => runtime.online → Unhindered runtime now configs renewal
  | _ => True

section Reconciling

variable [SerdeJson] {before : NetworkingRuntime} {now : Nat} {configs : List ConfigEntry}
  {renewal : Ustr → Attempt}

/-- Without a configured interface, the attempts are those of the row of definitions. -/
theorem attends_iff_of_unconfigured (online : before.online)
    (empty : before.configuredInterfaces = []) :
    Attends before configs (before.after (.reconcile now configs renewal)) ↔
      NoneFailsAhead attemptPause before.lastAttempt (configs.map before.trial) := by
  have follows : Follows before [] before := ⟨rfl, by simp [empty], .nil⟩
  obtain ⟨result, final, ran, follows'⟩ := run_configure configs ⟨before, []⟩ follows
  have unconfigured : (before.configuredInterfaces.isEmpty && before.online) = true := by
    rw [empty, online]
    rfl
  have after : before.after (.reconcile now configs renewal) = final.runtime := by
    rw [NetworkingRuntime.after, NetworkingEvent.program, reconcile, run_read_bind,
      if_pos unconfigured, ran]
  rw [after, ← forall_reached_iff, List.forall_mem_map]
  have awaits (config : ConfigEntry) : before.Awaits config ↔
      due attemptPause before.lastAttempt (before.trial config) := by
    rw [NetworkingRuntime.Awaits, empty, due, Bool.and_eq_true, Bool.not_eq_true',
      ← Bool.not_eq_true]
    exact ⟨fun waits => ⟨waits.1, waits.2.2⟩, fun isDue => ⟨isDue.1, List.not_mem_nil, isDue.2⟩⟩
  constructor
  · intro attends config listed isDue
    exact (follows'.noted.changed_iff _).mp
      (attends.attempted config listed ((awaits config).mpr isDue))
  · intro every
    refine ⟨fun config listed waits => ?_, fun iface inside => ?_⟩
    · exact (follows'.noted.changed_iff _).mpr (every config listed ((awaits config).mp waits))
    · rw [empty] at inside
      cases inside

/-- With a configured interface nothing is tried, and interfaces are given up where every
lease is renewed. -/
theorem attends_iff_of_configured (tidy : before.Tidy)
    (some_ : before.configuredInterfaces ≠ []) :
    Attends before configs (before.after (.reconcile now configs renewal)) ↔
      (∀ config ∈ configs, ¬ before.Awaits config) ∧
        ((∃ iface ∈ before.needingRenewal now, before.renewalFails (renewal iface) iface) →
          ∀ iface ∈ before.configuredInterfaces, before.stillOnline iface) := by
  have configured : ¬ (before.configuredInterfaces.isEmpty && before.online) = true :=
    fun both => some_ (List.isEmpty_iff.mp ((Bool.and_eq_true _ _).mp both).1)
  obtain ⟨result, middle, ran, ⟨first, -, configures⟩, ok, same, last⟩ :=
    run_renewals renewal (before.needingRenewal now) ⟨before, []⟩
      fun iface needing => tidy.leased iface (leased_of_needingRenewal needing)
  have same : middle.runtime.configuredInterfaces = before.configuredInterfaces := same
  have fails_iff : (∃ iface ∈ before.needingRenewal now,
      before.renewalFails (renewal iface) iface) ↔ result.toBool = false := by
    rw [ok, Bool.not_eq_false', List.any_eq_true]
  -- nothing that is not configured gets an attempt
  have unattended {after : NetworkingRuntime} (kept : ∀ iface,
      iface ∉ before.configuredInterfaces → after.lastAttempt iface = before.lastAttempt iface)
      (attends : Attends before configs after) : ∀ config ∈ configs, ¬ before.Awaits config :=
    fun config listed waits =>
      attends.attempted config listed waits (kept config.1.name waits.2.1)
  cases result with
  | error error =>
      have after : before.after (.reconcile now configs renewal) = middle.runtime := by
        rw [NetworkingRuntime.after, NetworkingEvent.program, reconcile, run_read_bind,
          if_neg configured, run_read_bind, run_bind_of_error ran]
      have fails := fails_iff.mpr rfl
      rw [after]
      constructor
      · intro attends
        refine ⟨unattended (fun iface _ => last iface) attends, fun _ iface inside => ?_⟩
        by_contra offline
        exact attends.givenUp iface inside offline (same ▸ inside)
      · rintro ⟨none_, online⟩
        exact ⟨fun config listed waits => absurd waits (none_ config listed),
          fun iface inside offline => absurd (online fails iface inside) offline⟩
  | ok value =>
      obtain ⟨final, second, ranChecks, -, givesUp⟩ :=
        run_each_checkConfigured middle.runtime.configuredInterfaces middle
      have after : before.after (.reconcile now configs renewal) = final.runtime := by
        rw [NetworkingRuntime.after, NetworkingEvent.program, reconcile, run_read_bind,
          if_neg configured, run_read_bind, run_bind_of_ok ran, run_read_bind, ranChecks]
      have succeeds := mt fails_iff.mp (by simp [Except.toBool])
      rw [after]
      constructor
      · intro attends
        refine ⟨unattended (fun iface outside => ?_) attends, fun fails => absurd fails succeeds⟩
        exact (givesUp.lastAttempt iface (same ▸ outside)).trans (last iface)
      · rintro ⟨none_, -⟩
        refine ⟨fun config listed waits => absurd waits (none_ config listed), ?_⟩
        intro iface inside offline listed
        have online := ((givesUp.configured iface).mp listed).2 (same ▸ inside)
        rw [NetworkingRuntime.stillOnline, configures.lastInterfaces] at online
        exact offline online

/-- A run attends to all interfaces exactly where nothing hinders it. -/
theorem attends_iff_unhindered (tidy : before.Tidy) (online : before.online) :
    Attends before configs (before.after (.reconcile now configs renewal)) ↔
      Unhindered before now configs renewal := by
  by_cases empty : before.configuredInterfaces = []
  · rw [attends_iff_of_unconfigured online empty]
    constructor
    · intro ahead
      refine ⟨fun _ => ahead, fun some_ => absurd empty some_, fun _ iface inside => ?_⟩
      rw [empty] at inside
      cases inside
    · exact fun unhindered => unhindered.ahead empty
  · rw [attends_iff_of_configured tidy empty]
    constructor
    · rintro ⟨settled, renewals⟩
      exact ⟨fun none_ => absurd none_ empty, fun _ => settled, renewals⟩
    · exact fun unhindered => ⟨unhindered.settled empty, unhindered.renewals⟩

end Reconciling

/-! ## Runs -/

section Runs

open scoped Compact

theorem tidy_default : NetworkingRuntime.default.Tidy where
  named name interface found := by cases found
  online := rfl
  leased := by
    rintro iface ⟨state, found, -⟩
    cases found

/-- The tables stay tidy, whatever prints the values. -/
theorem tidy_after (runtime : NetworkingRuntime) (event : NetworkingEvent)
    (tidy : runtime.Tidy) : (runtime.after event).Tidy := by
  obtain ⟨result, after, actions, ran, outcome⟩ := run_event Compact.printsUnsigned tidy event
  rw [NetworkingRuntime.after, ran]
  exact outcome.tidy

theorem attendsToAll_iff (runtime : NetworkingRuntime) (event : NetworkingEvent)
    (tidy : runtime.Tidy) : AttendsToAll runtime event ↔ UnhinderedStep runtime event := by
  cases event with
  | scan now root => rfl
  | configure configs => rfl
  | reconcile now configs renewal =>
      exact imp_congr_right fun online => attends_iff_unhindered tidy online

/-- Every reconciliation of a run attends to all interfaces exactly where nothing hinders
one. -/
theorem along_attendsToAll_iff (events : List NetworkingEvent) :
    Runs.Along NetworkingRuntime.after AttendsToAll .default events ↔
      Runs.Along NetworkingRuntime.after UnhinderedStep .default events :=
  Runs.along_congr tidy_after attendsToAll_iff events tidy_default

/-! ## An address without a length -/

def attemptAt (now : Nat) : Attempt := ⟨now, true, .error (.notFound "offer"), .ok ()⟩

def staticEntry (name address : Ustr) : ConfigEntry :=
  (⟨⟨name, .static⟩, some address, none, none⟩, attemptAt 1000)

/-- A card is found, and reconciling looks at the definition of another one first. -/
def spoiledEvents : List NetworkingEvent :=
  [.scan 0 (some [cardEntry]),
   .reconcile 1000 [staticEntry "eth1" "10.0.0.1", staticEntry "eth0" "10.0.0.2/24"]
     fun _ => attemptAt 1000]

theorem not_along_attendsToAll :
    ¬ ∀ events, Runs.Along NetworkingRuntime.after AttendsToAll .default events := by
  intro attends
  obtain ⟨-, second, -⟩ := attends spoiledEvents
  have tidy := tidy_after .default (.scan 0 (some [cardEntry])) tidy_default
  have unhindered := (attendsToAll_iff _ _ tidy).mp second (by decide +kernel)
  have fails := unhindered.ahead (by decide +kernel) [_] _ [] rfl (by decide +kernel)
    (by decide +kernel)
  exact fails ((NetworkingRuntime.default.after (.scan 0 (some [cardEntry]))).trial
    (staticEntry "eth1" "10.0.0.1")) (by decide +kernel) (by decide +kernel)

end Runs

end Rind.Networking
