import Rind.Networking.Mirrors
import Rind.Prog.Rules

/-!
# What the networking runtime dispatches

Configuring sets a branch for each interface that it adds, and takes none out of its
table.  Only giving up an interface, and a scan that misses one, take names out of
the tables.
-/

namespace Rind.Networking

open Prog SerdeJson

/-! ## Progress -/

/-- The interface has a lease. -/
def NetworkingRuntime.Leased (runtime : NetworkingRuntime) (iface : Ustr) : Prop :=
  ∃ state, runtime.interfaceStates.lookup iface = some state ∧ state.dhcpLease.isSome

section Progress

variable [SerdeJson]

/-- What configuring makes of the tables: the names that it adds are those of the rows
that its actions set. -/
structure Configures (before : NetworkingRuntime) (actions : List Dispatched)
    (after : NetworkingRuntime) : Prop where
  lastInterfaces : after.lastInterfaces = before.lastInterfaces
  online : after.online = before.online
  kept : before.configuredInterfaces ⊆ after.configuredInterfaces
  leased : ∀ iface, after.Leased iface →
    before.Leased iface ∨ iface ∈ after.configuredInterfaces
  sound : ∀ action ∈ actions, Sound action
  noInterface : setNames networkingInterfaceState actions = []
  noFlag : ∀ up, actions.foldl (fun up action => action.raises networkingOnlineState up) up = up
  named : ∀ value ∈ setNames networkingConfiguredState actions,
    ∃ name ∈ after.configuredInterfaces, value = some (.str name)
  added : ∀ name ∈ after.configuredInterfaces, name ∈ before.configuredInterfaces ∨
    some (.str name) ∈ setNames networkingConfiguredState actions

/-- A program has dispatched some more actions. -/
def Progress (start state : NetworkingState) : Prop :=
  ∃ actions, state.dispatched = start.dispatched ++ actions ∧
    Configures start.runtime actions state.runtime

variable {before middle after : NetworkingRuntime} {first second : List Dispatched}

/-- Nothing is dispatched, and no interface is added. -/
theorem Configures.quiet (lastInterfaces : after.lastInterfaces = before.lastInterfaces)
    (online : after.online = before.online)
    (configured : after.configuredInterfaces = before.configuredInterfaces)
    (leased : ∀ iface, after.Leased iface → before.Leased iface) :
    Configures before [] after where
  lastInterfaces := lastInterfaces
  online := online
  kept := configured ▸ List.Subset.refl _
  leased iface has := .inl (leased iface has)
  sound := by simp
  noInterface := rfl
  noFlag _ := rfl
  named := by simp [setNames]
  added name inside := .inl (configured ▸ inside)

theorem Configures.refl (runtime : NetworkingRuntime) : Configures runtime [] runtime :=
  .quiet rfl rfl rfl fun _ has => has

theorem Configures.trans (left : Configures before first middle)
    (right : Configures middle second after) : Configures before (first ++ second) after where
  lastInterfaces := right.lastInterfaces.trans left.lastInterfaces
  online := right.online.trans left.online
  kept := List.Subset.trans left.kept right.kept
  leased iface has := by
    rcases right.leased iface has with earlier | inside
    · exact (left.leased iface earlier).imp_right (right.kept ·)
    · exact .inr inside
  sound := List.forall_mem_append.mpr ⟨left.sound, right.sound⟩
  noInterface := by
    rw [setNames_append]
    exact List.append_eq_nil_iff.mpr ⟨left.noInterface, right.noInterface⟩
  noFlag up := by rw [List.foldl_append, left.noFlag, right.noFlag]
  named value inside := by
    rw [setNames_append] at inside
    rcases List.mem_append.mp inside with early | late
    · obtain ⟨name, listed, same⟩ := left.named value early
      exact ⟨name, right.kept listed, same⟩
    · exact right.named value late
  added name inside := by
    rw [setNames_append, List.mem_append]
    rcases right.added name inside with earlier | late
    · exact (left.added name earlier).imp_right .inl
    · exact .inr (.inr late)

theorem Progress.refl (state : NetworkingState) : Progress state state :=
  ⟨[], (List.append_nil _).symm, .refl _⟩

theorem Progress.trans {start state final : NetworkingState} (left : Progress start state)
    (right : Progress state final) : Progress start final := by
  obtain ⟨first, dispatched, configures⟩ := left
  obtain ⟨second, dispatched', configures'⟩ := right
  refine ⟨first ++ second, ?_, configures.trans configures'⟩
  rw [dispatched', dispatched, List.append_assoc]

/-- The action that a resolver is announced with is about none of the facets. -/
theorem Configures.dns (runtime : NetworkingRuntime) :
    Configures runtime [.setFacet networkingDnsReadyState none]
      { runtime with dnsWritten := true } where
  lastInterfaces := rfl
  online := rfl
  kept := List.Subset.refl _
  leased iface has := .inl has
  sound := by
    intro action inside
    rw [List.mem_singleton.mp inside]
    exact ⟨fun same => absurd same (by decide), fun same => absurd same (by decide),
      fun same => absurd same (by decide)⟩
  noInterface := rfl
  noFlag up := rfl
  named := by simp [setNames, setName]
  added name inside := .inl inside

/-- An interface is announced and added. -/
theorem Configures.announce {iface : Ustr} (ip : String) (length : Nat)
    (gateway : Option Ipv4Addr)
    (lastInterfaces : after.lastInterfaces = before.lastInterfaces)
    (online : after.online = before.online)
    (configured : after.configuredInterfaces =
      if iface ∈ before.configuredInterfaces then before.configuredInterfaces
      else before.configuredInterfaces ++ [iface])
    (leased : ∀ other, after.Leased other → before.Leased other ∨ other = iface) :
    Configures before [.setFacet networkingConfiguredState
      (some (.obj (configuredFields iface ip length gateway)))] after := by
  have inside : ∀ name, name ∈ after.configuredInterfaces ↔
      name ∈ before.configuredInterfaces ∨ name = iface := by
    intro name
    rw [configured]
    split
    · next known => exact ⟨.inl, fun either => either.elim id fun same => same ▸ known⟩
    · rw [List.mem_append, List.mem_singleton]
  exact {
    lastInterfaces := lastInterfaces
    online := online
    kept := fun name known => (inside name).mpr (.inl known)
    leased := fun other has => (leased other has).imp_right fun same => (inside other).mpr (.inr same)
    sound := by
      intro action listed
      rw [List.mem_singleton.mp listed]
      exact ⟨fun same => absurd same (by decide),
        fun _ => ⟨_, rfl, row_configured iface ip length gateway, rfl⟩,
        fun same => absurd same (by decide)⟩
    noInterface := rfl
    noFlag := fun _ => rfl
    named := by
      intro value listed
      rw [List.mem_singleton.mp listed]
      exact ⟨iface, (inside iface).mpr (.inr rfl), rfl⟩
    added := by
      intro name listed
      rcases (inside name).mp listed with known | rfl
      · exact .inl known
      · exact .inr (List.mem_singleton.mpr rfl) }

/-! ## Configuring -/

/-- From every state, the program ends and has only configured. -/
def Progresses (body : NetworkingProg Unit) : Prop :=
  ∀ start, Halts (Progress start) body

theorem Progresses.bind {first : NetworkingProg Unit} {next : Unit → NetworkingProg Unit}
    (firstProgresses : Progresses first) (nextProgresses : Progresses (next ())) :
    Progresses (first >>= next) :=
  fun start => Halts.rule.bind (firstProgresses start) (nextProgresses start)

theorem Progresses.read {α : Type} {view : NetworkingState → α} {next : α → NetworkingProg Unit}
    (progresses : ∀ state, Progresses (next (view state))) : Progresses (Prog.read view >>= next) :=
  fun start => Halts.rule.read fun state => progresses state start

theorem Progresses.each {α : Type} {entries : List α} {body : α → NetworkingProg Unit}
    (progresses : ∀ entry, Progresses (body entry)) : Progresses (Prog.each entries body) :=
  fun start => Halts.rule.each fun entry _ => progresses entry start

theorem Progresses.pure : Progresses (Pure.pure ()) := fun _ => Halts.rule.pure

theorem Progresses.fail (error : CoreError) : Progresses (Prog.fail error) :=
  fun _ state before => ⟨_, state, rfl, before⟩

/-- A program that makes progress from the state it starts in. -/
theorem Progresses.of_run {body : NetworkingProg Unit}
    (ends : ∀ state, ∃ result final, body state = some (result, final) ∧ Progress state final) :
    Progresses body := by
  intro start state before
  obtain ⟨result, final, ran, progress⟩ := ends state
  exact ⟨result, final, ran, before.trans progress⟩

/-- The progress of changes that are known as a whole. -/
theorem Progress.of_configures {state : NetworkingState} {actions : List Dispatched}
    {after : NetworkingRuntime} (configures : Configures state.runtime actions after) :
    Progress state ⟨after, state.dispatched ++ actions⟩ := ⟨actions, rfl, configures⟩

/-- Writing the resolver changes no table. -/
theorem run_writeDns (dnsServers : List Ipv4Addr) (state : NetworkingState) :
    ∃ middle, writeDns dnsServers state = some (.ok (), middle) ∧ Progress state middle ∧
      middle.runtime.configuredInterfaces = state.runtime.configuredInterfaces ∧
      middle.runtime.interfaceStates = state.runtime.interfaceStates := by
  rw [writeDns]
  split
  · exact ⟨state, rfl, .refl state, rfl, rfl⟩
  · exact ⟨_, rfl, .of_configures (.dns state.runtime), rfl, rfl⟩

omit [SerdeJson] in
/-- Leases after something about an interface was changed. -/
theorem Leased.of_insert {runtime : NetworkingRuntime} {iface other : Ustr}
    {state : InterfaceRuntimeState}
    (has : { runtime with
      interfaceStates := runtime.interfaceStates.insert iface state }.Leased other) :
    runtime.Leased other ∨ other = iface ∧ state.dhcpLease.isSome := by
  obtain ⟨held, found, leased⟩ := has
  by_cases same : other = iface
  · subst same
    rw [AList.lookup_insert] at found
    cases found
    exact .inr ⟨rfl, leased⟩
  · rw [AList.lookup_insert_ne same] at found
    exact .inl ⟨held, found, leased⟩

omit [SerdeJson] in
theorem default_dhcpLease (runtime : NetworkingRuntime) (iface : Ustr)
    (has : ((runtime.interfaceStates.lookup iface).getD .default).dhcpLease.isSome) :
    runtime.Leased iface := by
  cases found : runtime.interfaceStates.lookup iface with
  | none =>
      rw [found] at has
      cases has
  | some state =>
      rw [found] at has
      exact ⟨state, found, has⟩

/-- When the interface was tried last. -/
def NetworkingRuntime.lastAttempt (runtime : NetworkingRuntime) (iface : Ustr) : Option Nat :=
  (runtime.interfaceStates.lookup iface).bind (·.lastConfigureAttempt)

omit [SerdeJson] in
/-- The last attempts after something about an interface was changed. -/
theorem lastAttempt_insert (runtime : NetworkingRuntime) (iface other : Ustr)
    (state : InterfaceRuntimeState) :
    { runtime with
      interfaceStates := runtime.interfaceStates.insert iface state }.lastAttempt other =
      if other = iface then state.lastConfigureAttempt else runtime.lastAttempt other := by
  rw [NetworkingRuntime.lastAttempt]
  split
  · next same => rw [same, AList.lookup_insert, Option.bind_some]
  · next differs => rw [AList.lookup_insert_ne differs, NetworkingRuntime.lastAttempt]

omit [SerdeJson] in
theorem default_lastConfigureAttempt (runtime : NetworkingRuntime) (iface : Ustr) :
    ((runtime.interfaceStates.lookup iface).getD .default).lastConfigureAttempt =
      runtime.lastAttempt iface := by
  rw [NetworkingRuntime.lastAttempt]
  cases runtime.interfaceStates.lookup iface <;> rfl

/-- Changing what is known of an interface, but not its lease. -/
theorem progresses_updateInterface (iface : Ustr)
    (change : InterfaceRuntimeState → InterfaceRuntimeState)
    (same : ∀ state, (change state).dhcpLease = state.dhcpLease) :
    Progresses (updateInterface iface change) := by
  apply Progresses.of_run
  intro state
  refine ⟨_, _, rfl, [], (List.append_nil _).symm, .quiet rfl rfl rfl fun other has => ?_⟩
  rcases Leased.of_insert has with earlier | ⟨rfl, leased⟩
  · exact earlier
  · rw [same] at leased
    exact default_dhcpLease _ _ leased

/-- The runtime with an interface that is configured. -/
def NetworkingRuntime.withConfigured (runtime : NetworkingRuntime) (iface : Ustr)
    (known : InterfaceRuntimeState) : NetworkingRuntime :=
  { runtime with
    configuredInterfaces :=
      if iface ∈ runtime.configuredInterfaces then runtime.configuredInterfaces
      else runtime.configuredInterfaces ++ [iface]
    interfaceStates := runtime.interfaceStates.insert iface known }

/-- An interface is configured or is left as it was, and no attempt is noted. -/
structure Settles (iface : Ustr) (settled : Bool) (before after : NetworkingRuntime) : Prop where
  configured : after.configuredInterfaces =
    if settled ∧ iface ∉ before.configuredInterfaces then before.configuredInterfaces ++ [iface]
    else before.configuredInterfaces
  lastAttempt : ∀ name, after.lastAttempt name = before.lastAttempt name

omit [SerdeJson] in
theorem Settles.refl (iface : Ustr) (runtime : NetworkingRuntime) :
    Settles iface false runtime runtime where
  configured := rfl
  lastAttempt _ := rfl

omit [SerdeJson] in
/-- An interface that is configured, and what is known of it changed. -/
theorem Settles.withConfigured {runtime : NetworkingRuntime} {iface : Ustr}
    (configured : middle.configuredInterfaces = runtime.configuredInterfaces)
    (states : middle.interfaceStates = runtime.interfaceStates)
    (known : InterfaceRuntimeState)
    (same : known.lastConfigureAttempt =
      ((middle.interfaceStates.lookup iface).getD .default).lastConfigureAttempt) :
    Settles iface true runtime (middle.withConfigured iface known) where
  configured := by
    rw [NetworkingRuntime.withConfigured, configured]
    by_cases listed : iface ∈ runtime.configuredInterfaces
    · rw [if_pos listed, if_neg fun both => both.2 listed]
    · rw [if_neg listed, if_pos ⟨rfl, listed⟩]
  lastAttempt name := by
    refine (lastAttempt_insert middle iface name known).trans ?_
    have unchanged (other : Ustr) : middle.lastAttempt other = runtime.lastAttempt other := by
      rw [NetworkingRuntime.lastAttempt, states]
      rfl
    rw [same, default_lastConfigureAttempt, unchanged, unchanged]
    split
    · next listed => rw [listed]
    · rfl

theorem progress_withConfigured (state : NetworkingState) (iface : Ustr) (ip : String)
    (length : Nat) (gateway : Option Ipv4Addr) (known : InterfaceRuntimeState) :
    Progress state ⟨state.runtime.withConfigured iface known,
      state.dispatched ++ [.setFacet networkingConfiguredState
        (some (.obj (configuredFields iface ip length gateway)))]⟩ := by
  have leased (other : Ustr) (has : (state.runtime.withConfigured iface known).Leased other) :
      state.runtime.Leased other ∨ other = iface :=
    (Leased.of_insert has).imp_right And.left
  exact .of_configures (.announce ip length gateway rfl rfl rfl leased)

/-- A DHCP request fails where the renewal of a lease does, and makes progress otherwise. -/
theorem run_configureDhcp (attempt : Attempt) (iface : Ustr) (state : NetworkingState) :
    ∃ result final, configureDhcp attempt iface state = some (result, final) ∧
      Progress state final ∧
      (result.toBool = !state.runtime.renewalFails attempt iface) ∧
      Settles iface (!state.runtime.renewalFails attempt iface && attempt.dhcpRequest.toBool)
        state.runtime final.runtime := by
  rw [configureDhcp, NetworkingRuntime.renewalFails, run_read_bind]
  cases (state.runtime.lastInterfaces.lookup iface).bind (·.mac) with
  | none => exact ⟨_, state, rfl, .refl state, rfl, .refl _ _⟩
  | some mac =>
      dsimp only
      cases parseMac mac with
      | none => exact ⟨_, state, rfl, .refl state, rfl, .refl _ _⟩
      | some bytes =>
          dsimp only
          cases attempt.dhcpRequest with
          | error error => exact ⟨_, state, rfl, .refl state, rfl, .refl _ _⟩
          | ok lease =>
              dsimp only
              rw [applyLease]
              cases attempt.bringInterfaceUp with
              | error error => exact ⟨_, state, rfl, .refl state, rfl, .refl _ _⟩
              | ok value =>
                  obtain ⟨middle, ran, progress, same, kept⟩ :=
                    run_writeDns lease.dnsServers state
                  have applied : (Prog.ofExcept (Except.ok value) >>= fun _ =>
                      writeDns lease.dnsServers >>= fun _ =>
                        dispatch (.setFacet networkingConfiguredState (some (.obj
                          (configuredFields iface lease.ip.toText lease.prefixLen
                            lease.gateway)))) >>= fun _ => addConfigured iface) state =
                      some (.ok (), ⟨{ middle.runtime with
                        configuredInterfaces :=
                          if iface ∈ middle.runtime.configuredInterfaces then
                            middle.runtime.configuredInterfaces
                          else middle.runtime.configuredInterfaces ++ [iface] },
                        middle.dispatched ++ [.setFacet networkingConfiguredState (some (.obj
                          (configuredFields iface lease.ip.toText lease.prefixLen
                            lease.gateway)))]⟩) := by
                    rw [Prog.ofExcept, run_pure_bind, run_bind_of_ok ran]
                    rfl
                  refine ⟨_, _, (run_bind_of_ok applied).trans rfl, progress.trans
                    (progress_withConfigured middle iface _ _ _ _), rfl, ?_⟩
                  exact .withConfigured same kept _ rfl

theorem progresses_configureDhcp (attempt : Attempt) (iface : Ustr) :
    Progresses (configureDhcp attempt iface) := by
  apply Progresses.of_run
  intro state
  obtain ⟨result, final, ran, progress, -⟩ := run_configureDhcp attempt iface state
  exact ⟨result, final, ran, progress⟩

/-- A static address cannot be given to an interface. -/
def staticFails (attempt : Attempt) (cfg : NetworkConfigMetadata) : Bool :=
  cfg.address.any fun address =>
    (parseCidr address).isNone || !attempt.bringInterfaceUp.toBool

theorem run_configureStatic (attempt : Attempt) (iface : Ustr) (cfg : NetworkConfigMetadata)
    (state : NetworkingState) :
    ∃ result final, configureStatic attempt iface cfg state = some (result, final) ∧
      Progress state final ∧
      (result.toBool = !staticFails attempt cfg) ∧
      Settles iface (!staticFails attempt cfg && cfg.address.isSome)
        state.runtime final.runtime := by
  rw [configureStatic, staticFails]
  cases cfg.address with
  | none => exact ⟨_, state, rfl, .refl state, rfl, .refl _ _⟩
  | some address =>
      dsimp only
      rw [Option.any_some]
      cases parseCidr address with
      | none => exact ⟨_, state, rfl, .refl state, rfl, .refl _ _⟩
      | some parsed =>
          dsimp only
          cases attempt.bringInterfaceUp with
          | error error => exact ⟨_, state, rfl, .refl state, rfl, .refl _ _⟩
          | ok value =>
              obtain ⟨middle, ran, progress, same, kept⟩ :=
                run_writeDns ((cfg.dns.getD []).filterMap Ipv4Addr.parse) state
              refine ⟨_, _, (run_bind_of_ok ran).trans rfl, progress.trans
                (progress_withConfigured middle iface _ _ _ _), rfl, ?_⟩
              exact .withConfigured same kept _ rfl

theorem progresses_configureStatic (attempt : Attempt) (iface : Ustr)
    (cfg : NetworkConfigMetadata) : Progresses (configureStatic attempt iface cfg) := by
  apply Progresses.of_run
  intro state
  obtain ⟨result, final, ran, progress, -⟩ := run_configureStatic attempt iface cfg state
  exact ⟨result, final, ran, progress⟩

theorem progresses_configure (configs : List (NetworkConfigMetadata × Attempt)) :
    Progresses (configure configs) := by
  apply Progresses.each
  intro config
  apply Progresses.read
  intro state
  split
  · exact .pure
  · apply Progresses.bind
    · apply progresses_updateInterface
      intro _
      rfl
    split
    · exact progresses_configureDhcp _ _
    · exact progresses_configureStatic _ _ _
    · exact .pure

end Progress

/-! ## Scanning -/

/-- Every interface is listed under its own name. -/
def Named (interfaces : Interfaces) : Prop :=
  ∀ name interface, interfaces.lookup name = some interface → interface.name = name

theorem named_collectWiredInterfaces (root : Option (List SysfsEntry)) :
    Named (collectWiredInterfaces root) := by
  have keeps (entries : List SysfsEntry) (interfaces : Interfaces) (named : Named interfaces) :
      Named (entries.foldl
        (fun interfaces entry =>
          if isWiredInterface entry then interfaces.insert entry.name entry.state
          else interfaces) interfaces) := by
    induction entries generalizing interfaces with
    | nil => exact named
    | cons entry rest ih =>
        apply ih
        dsimp only
        split
        · intro name interface found
          by_cases same : name = entry.name
          · subst same
            rw [AList.lookup_insert] at found
            cases found
            rfl
          · rw [AList.lookup_insert_ne same] at found
            exact named name interface found
        · exact named
  apply keeps
  intro name interface found
  cases found

section Scan

variable {runtime : NetworkingRuntime} {interfaces : Interfaces}

theorem run_each_dispatch (actions : List Dispatched) (state : NetworkingState) :
    each actions dispatch state =
      some (.ok (), ⟨state.runtime, state.dispatched ++ actions⟩) := by
  induction actions generalizing state with
  | nil => simp [each]
  | cons action rest ih =>
      rw [each_cons, dispatch, run_change_bind]
      exact (ih _).trans (by simp)

/-- What a scan does that is due. -/
theorem run_scanAndSync (now : Nat) (root : Option (List SysfsEntry)) (state : NetworkingState)
    (due : ¬ state.runtime.scanned now) :
    scanAndSync now root state = some (.ok (),
      ⟨{ state.runtime with
          lastScan := some now
          lastInterfaces := collectWiredInterfaces root
          online := someOnline (collectWiredInterfaces root) },
        state.dispatched ++ scanActions state.runtime (collectWiredInterfaces root)⟩) := by
  rw [scanAndSync, run_read_bind, if_neg due, update, run_change_bind, run_read_bind,
    run_bind_of_ok (run_each_dispatch _ _)]
  rfl

theorem mem_changedActions {action : Dispatched} : action ∈ changedActions runtime interfaces ↔
    ∃ entry ∈ interfaces.entries, runtime.lastInterfaces.lookup entry.1 ≠ some entry.2 ∧
      action = .setFacet networkingInterfaceState (some (.obj entry.2.fields)) := by
  simp only [changedActions, List.mem_filterMap, Option.ite_none_left_eq_some, Option.some.injEq]
  simp only [eq_comm, ne_eq]

theorem mem_goneActions {action : Dispatched} (inside : action ∈ goneActions runtime interfaces) :
    ∃ name, action = .removeFacet networkingInterfaceState (some (nameFilter name)) := by
  obtain ⟨name, -, made⟩ := List.mem_filterMap.mp inside
  split at made
  · cases made
  · cases made
    exact ⟨name, rfl⟩

theorem mem_flagActions {action : Dispatched} (inside : action ∈ flagActions runtime interfaces) :
    action = .setFacet networkingOnlineState none ∨
      action = .removeFacet networkingOnlineState none := by
  rw [flagActions] at inside
  split at inside
  · cases inside
  · split at inside
    · exact .inl (List.mem_singleton.mp inside)
    · exact .inr (List.mem_singleton.mp inside)

/-- The names that a scan sets are those of the interfaces that have changed. -/
theorem mem_setNames_scanActions (value : Option Json) :
    value ∈ setNames networkingInterfaceState (scanActions runtime interfaces) ↔
      ∃ entry ∈ interfaces.entries, runtime.lastInterfaces.lookup entry.1 ≠ some entry.2 ∧
        value = some (.str entry.2.name) := by
  rw [setNames, List.mem_filterMap, scanActions]
  constructor
  · rintro ⟨action, inside, set⟩
    rcases List.mem_append.mp inside with tables | flag
    · rcases List.mem_append.mp tables with isChanged | isGone
      · obtain ⟨entry, listed, differs, rfl⟩ := mem_changedActions.mp isChanged
        exact ⟨entry, listed, differs, (Option.some.inj set).symm⟩
      · obtain ⟨name, rfl⟩ := mem_goneActions isGone
        cases set
    · rcases mem_flagActions flag with rfl | rfl
      · cases set
      · cases set
  · rintro ⟨entry, listed, differs, rfl⟩
    refine ⟨_, List.mem_append_left _ (List.mem_append_left _
      (mem_changedActions.mpr ⟨entry, listed, differs, rfl⟩)), rfl⟩

theorem setNames_scanActions_configured :
    setNames networkingConfiguredState (scanActions runtime interfaces) = [] := by
  rw [setNames, List.filterMap_eq_nil_iff, scanActions]
  intro action inside
  rcases List.mem_append.mp inside with tables | flag
  · rcases List.mem_append.mp tables with isChanged | isGone
    · obtain ⟨entry, -, -, rfl⟩ := mem_changedActions.mp isChanged
      have ne : networkingInterfaceState ≠ networkingConfiguredState := by decide
      rw [setName, if_neg ne]
    · obtain ⟨name, rfl⟩ := mem_goneActions isGone
      rfl
  · rcases mem_flagActions flag with rfl | rfl
    · rfl
    · rfl

theorem foldl_raises {facet : Ustr} {actions : List Dispatched}
    (none_ : ∀ action ∈ actions, ∀ up, action.raises facet up = up) (up : Bool) :
    actions.foldl (fun up action => action.raises facet up) up = up := by
  induction actions with
  | nil => rfl
  | cons action rest ih =>
      obtain ⟨first, others⟩ := List.forall_mem_cons.mp none_
      rw [List.foldl_cons, first, ih others]

/-- After a scan the flag says whether an interface is online. -/
theorem raises_scanActions :
    (scanActions runtime interfaces).foldl
      (fun up action => action.raises networkingOnlineState up) runtime.online =
        someOnline interfaces := by
  have tables : ∀ action ∈ changedActions runtime interfaces ++ goneActions runtime interfaces,
      ∀ up, action.raises networkingOnlineState up = up := by
    intro action inside up
    rcases List.mem_append.mp inside with isChanged | isGone
    · obtain ⟨entry, -, -, rfl⟩ := mem_changedActions.mp isChanged
      rfl
    · obtain ⟨name, rfl⟩ := mem_goneActions isGone
      rfl
  rw [scanActions, List.foldl_append, foldl_raises tables, flagActions]
  split
  · next same => exact same.symm
  · split
    · next up => exact up.symm
    · next down => exact (Bool.eq_false_iff.mpr down).symm

theorem sound_scanActions [SerdeJson] (prints : PrintsUnsigned) :
    ∀ action ∈ scanActions runtime interfaces, Sound action := by
  intro action inside
  rcases List.mem_append.mp inside with tables | flag
  · rcases List.mem_append.mp tables with isChanged | isGone
    · obtain ⟨entry, -, -, rfl⟩ := mem_changedActions.mp isChanged
      exact ⟨fun _ => ⟨_, rfl, row_interface prints entry.2, rfl⟩,
        fun same => absurd same (by decide), fun same => absurd same (by decide)⟩
    · obtain ⟨name, rfl⟩ := mem_goneActions isGone
      exact ⟨fun _ => ⟨name, rfl⟩, fun same => absurd same (by decide),
        fun same => absurd same (by decide)⟩
  · rcases mem_flagActions flag with rfl | rfl
    · exact ⟨fun same => absurd same (by decide), fun same => absurd same (by decide),
        fun _ => rfl⟩
    · exact ⟨fun same => absurd same (by decide), fun same => absurd same (by decide),
        fun _ => rfl⟩

end Scan

/-! ## Giving up -/

section GivingUp

/-- Interfaces of a list that are offline are given up. -/
structure GivesUp (ifaces : List Ustr) (before : NetworkingRuntime) (actions : List Dispatched)
    (after : NetworkingRuntime) : Prop where
  lastInterfaces : after.lastInterfaces = before.lastInterfaces
  online : after.online = before.online
  configured : ∀ iface, iface ∈ after.configuredInterfaces ↔
    iface ∈ before.configuredInterfaces ∧ (iface ∈ ifaces → before.stillOnline iface)
  leased : ∀ iface, after.Leased iface →
    before.Leased iface ∧ (iface ∈ ifaces → before.stillOnline iface)
  lastAttempt : ∀ iface, iface ∉ ifaces → after.lastAttempt iface = before.lastAttempt iface
  removes : ∀ action ∈ actions,
    ∃ name, action = .removeFacet networkingConfiguredState (some (nameFilter name))

theorem GivesUp.stillOnline {ifaces : List Ustr} {before after : NetworkingRuntime}
    {actions : List Dispatched} (givesUp : GivesUp ifaces before actions after) (iface : Ustr) :
    after.stillOnline iface = before.stillOnline iface := by
  rw [NetworkingRuntime.stillOnline, givesUp.lastInterfaces]
  rfl

theorem run_checkConfigured (iface : Ustr) (state : NetworkingState) :
    ∃ final actions, checkConfigured iface state = some (.ok (), final) ∧
      final.dispatched = state.dispatched ++ actions ∧
      GivesUp [iface] state.runtime actions final.runtime := by
  rw [checkConfigured, run_read_bind]
  by_cases online : state.runtime.stillOnline iface
  · rw [if_pos online]
    refine ⟨state, [], rfl, (List.append_nil _).symm, rfl, rfl, fun other => ?_, fun other has => ?_,
      fun _ _ => rfl, by simp⟩
    · exact (and_iff_left fun inside => List.mem_singleton.mp inside ▸ online).symm
    · exact ⟨has, fun inside => List.mem_singleton.mp inside ▸ online⟩
  · rw [if_neg online]
    refine ⟨_, [.removeFacet networkingConfiguredState (some (nameFilter iface))], rfl, rfl, rfl, rfl,
      fun other => ?_, ?_, fun other outside => ?_,
      fun action inside => ⟨iface, List.mem_singleton.mp inside⟩⟩
    · rw [List.mem_filter, decide_eq_true_eq, List.mem_singleton]
      apply and_congr_right'
      constructor
      · intro ne same
        exact absurd same ne
      · rintro keeps rfl
        exact online (keeps rfl)
    · rintro other ⟨known, found, leased⟩
      have ne : other ≠ iface := by
        rintro rfl
        rw [AList.lookup_erase] at found
        cases found
      rw [AList.lookup_erase_ne ne] at found
      exact ⟨⟨known, found, leased⟩, fun inside => absurd (List.mem_singleton.mp inside) ne⟩
    · have ne : other ≠ iface := fun same => outside (List.mem_singleton.mpr same)
      rw [NetworkingRuntime.lastAttempt, AList.lookup_erase_ne ne, NetworkingRuntime.lastAttempt]

/-- All interfaces of a list that are offline are given up. -/
theorem run_each_checkConfigured (ifaces : List Ustr) (state : NetworkingState) :
    ∃ final actions, each ifaces checkConfigured state = some (.ok (), final) ∧
      final.dispatched = state.dispatched ++ actions ∧
      GivesUp ifaces state.runtime actions final.runtime := by
  induction ifaces generalizing state with
  | nil =>
      refine ⟨state, [], rfl, (List.append_nil _).symm, rfl, rfl, fun iface => ?_, fun iface has => ?_,
        fun _ _ => rfl, by simp⟩
      · exact (and_iff_left fun inside => absurd inside List.not_mem_nil).symm
      · exact ⟨has, fun inside => absurd inside List.not_mem_nil⟩
  | cons iface rest ih =>
      obtain ⟨middle, first, ranFirst, dispatched, givesUp⟩ := run_checkConfigured iface state
      obtain ⟨final, second, ranRest, dispatched', givesUp'⟩ := ih middle
      refine ⟨final, first ++ second, ?_, ?_, ?_⟩
      · rw [each_cons, run_bind_of_ok ranFirst, ranRest]
      · rw [dispatched', dispatched, List.append_assoc]
      · exact {
          lastInterfaces := givesUp'.lastInterfaces.trans givesUp.lastInterfaces
          online := givesUp'.online.trans givesUp.online
          configured := by
            intro other
            rw [givesUp'.configured, givesUp.configured, givesUp.stillOnline, List.mem_singleton,
              List.mem_cons, or_imp, and_assoc]
          leased := by
            intro other has
            obtain ⟨earlier, keepsRest⟩ := givesUp'.leased other has
            obtain ⟨before, keepsFirst⟩ := givesUp.leased other earlier
            rw [givesUp.stillOnline] at keepsRest
            rw [List.mem_singleton] at keepsFirst
            exact ⟨before, fun inside => (List.mem_cons.mp inside).elim keepsFirst keepsRest⟩
          lastAttempt := by
            intro other outside
            obtain ⟨ne, outsideRest⟩ := not_or.mp (mt List.mem_cons.mpr outside)
            rw [givesUp'.lastAttempt other outsideRest,
              givesUp.lastAttempt other (mt List.mem_singleton.mp ne)]
          removes := List.forall_mem_append.mpr ⟨givesUp.removes, givesUp'.removes⟩ }

variable [SerdeJson]

theorem Progress.renewalFails {state final : NetworkingState} (progress : Progress state final)
    (attempt : Attempt) (iface : Ustr) :
    final.runtime.renewalFails attempt iface = state.runtime.renewalFails attempt iface := by
  obtain ⟨actions, -, configures⟩ := progress
  rw [NetworkingRuntime.renewalFails, NetworkingRuntime.renewalFails, configures.lastInterfaces]

/-- Renewing leases of configured interfaces adds none, and fails where one of them does. -/
theorem run_renewals (renewal : Ustr → Attempt) (ifaces : List Ustr) (state : NetworkingState)
    (configured : ∀ iface ∈ ifaces, iface ∈ state.runtime.configuredInterfaces) :
    ∃ result final,
      each ifaces (fun iface => configureDhcp (renewal iface) iface) state = some (result, final) ∧
      Progress state final ∧
      (result.toBool = !ifaces.any fun iface => state.runtime.renewalFails (renewal iface) iface) ∧
      final.runtime.configuredInterfaces = state.runtime.configuredInterfaces ∧
      ∀ name, final.runtime.lastAttempt name = state.runtime.lastAttempt name := by
  induction ifaces generalizing state with
  | nil => exact ⟨_, state, rfl, .refl state, rfl, rfl, fun _ => rfl⟩
  | cons iface rest ih =>
      obtain ⟨first, others⟩ := List.forall_mem_cons.mp configured
      obtain ⟨result, middle, ran, progress, ok, settles⟩ :=
        run_configureDhcp (renewal iface) iface state
      have kept := settles.configured.trans (if_neg fun both => both.2 first)
      rw [each_cons, List.any_cons]
      cases result with
      | error error =>
          have fails : state.runtime.renewalFails (renewal iface) iface = true :=
            (Bool.not_eq_false _).mp fun succeeds => by rw [succeeds] at ok; cases ok
          refine ⟨_, middle, run_bind_of_error ran, progress, ?_, kept, settles.lastAttempt⟩
          rw [fails]
          rfl
      | ok value =>
          obtain ⟨result, final, ranRest, progressRest, okRest, keptRest, last⟩ :=
            ih middle fun other inside => kept ▸ others other inside
          have succeeds : state.runtime.renewalFails (renewal iface) iface = false :=
            (Bool.not_eq_true _).mp fun fails => by rw [fails] at ok; cases ok
          refine ⟨result, final, (run_bind_of_ok ran).trans ranRest, progress.trans progressRest, ?_,
            keptRest.trans kept, fun name => (last name).trans (settles.lastAttempt name)⟩
          simp only [okRest, succeeds, Bool.false_or, progress.renewalFails]

end GivingUp

end Rind.Networking
