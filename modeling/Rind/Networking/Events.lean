import Rind.Networking.Steps

/-!
# Mirrored tables

Each event of the networking runtime leaves its tables tidy, and the facets with the
names of the tables exactly where no name has to be removed.
-/

namespace Rind.Networking

open Prog SerdeJson

/-! ## Events -/

/-- What holds of the tables in every run. -/
structure NetworkingRuntime.Tidy (runtime : NetworkingRuntime) : Prop where
  named : Named runtime.lastInterfaces
  online : runtime.online = someOnline runtime.lastInterfaces
  leased : ∀ iface, runtime.Leased iface → iface ∈ runtime.configuredInterfaces

/-- Two lists of names are those of the tables. -/
structure Agrees (runtime : NetworkingRuntime) (interfaces configured : List (Option Json)) :
    Prop where
  interfaces : ∀ value, value ∈ interfaces ↔
    ∃ name ∈ runtime.lastInterfaces, value = some (.str name)
  configured : ∀ value, value ∈ configured ↔
    ∃ name ∈ runtime.configuredInterfaces, value = some (.str name)

section Events

variable [SerdeJson]

/-- What an event makes of the tables, and what its actions make of the names. -/
structure Outcome (before : NetworkingRuntime) (event : NetworkingEvent)
    (actions : List Dispatched) (after : NetworkingRuntime) : Prop where
  tidy : after.Tidy
  sound : ∀ action ∈ actions, Sound action
  flag : actions.foldl (fun up action => action.raises networkingOnlineState up) before.online =
    after.online
  agrees : ∀ interfaces configured, Agrees before interfaces configured →
    (Agrees after (interfaces ++ setNames networkingInterfaceState actions)
        (configured ++ setNames networkingConfiguredState actions) ↔
      before.KeepsAllNames event)

variable {before after : NetworkingRuntime} {actions : List Dispatched}

theorem Configures.tidy (configures : Configures before actions after) (tidy : before.Tidy) :
    after.Tidy where
  named := configures.lastInterfaces ▸ tidy.named
  online := by rw [configures.online, configures.lastInterfaces, tidy.online]
  leased iface has := by
    rcases configures.leased iface has with earlier | inside
    · exact configures.kept (tidy.leased iface earlier)
    · exact inside

/-- The names agree after configuring. -/
theorem Configures.agrees (configures : Configures before actions after)
    {interfaces configured : List (Option Json)} (agrees : Agrees before interfaces configured) :
    Agrees after (interfaces ++ setNames networkingInterfaceState actions)
      (configured ++ setNames networkingConfiguredState actions) where
  interfaces value := by
    rw [configures.noInterface, List.append_nil, configures.lastInterfaces]
    exact agrees.interfaces value
  configured value := by
    rw [List.mem_append, agrees.configured]
    constructor
    · rintro (⟨name, known, same⟩ | set)
      · exact ⟨name, configures.kept known, same⟩
      · exact configures.named value set
    · rintro ⟨name, inside, rfl⟩
      rcases configures.added name inside with known | set
      · exact .inl ⟨name, known, rfl⟩
      · exact .inr set

/-- An event that only configures, where no name has to be removed. -/
theorem Outcome.of_configures {event : NetworkingEvent}
    (configures : Configures before actions after) (tidy : before.Tidy)
    (keeps : before.KeepsAllNames event) : Outcome before event actions after where
  tidy := configures.tidy tidy
  sound := configures.sound
  flag := (configures.noFlag _).trans configures.online.symm
  agrees _ _ agrees := iff_of_true (configures.agrees agrees) keeps

omit [SerdeJson] in
/-- The interfaces that were known and those that have changed are those of a scan that
finds all that were known. -/
theorem scanned_iff {interfaces : Interfaces} (named : Named interfaces)
    (found : ∀ name ∈ before.lastInterfaces, name ∈ interfaces) (value : Option Json) :
    ((∃ name ∈ before.lastInterfaces, value = some (.str name)) ∨
      ∃ entry ∈ interfaces.entries, before.lastInterfaces.lookup entry.1 ≠ some entry.2 ∧
        value = some (.str entry.2.name)) ↔
      ∃ name ∈ interfaces, value = some (.str name) := by
  constructor
  · rintro (⟨name, known, rfl⟩ | ⟨⟨name, interface⟩, listed, -, rfl⟩)
    · exact ⟨name, found name known, rfl⟩
    · have held : interfaces.lookup name = some interface := AList.mem_lookup_iff.mpr listed
      rw [named name interface held]
      exact ⟨name, AList.lookup_isSome.mp (Option.isSome_of_eq_some held), rfl⟩
  · rintro ⟨name, inside, rfl⟩
    obtain ⟨interface, held⟩ := Option.isSome_iff_exists.mp (AList.lookup_isSome.mpr inside)
    by_cases same : before.lastInterfaces.lookup name = some interface
    · exact .inl ⟨name, AList.lookup_isSome.mp (Option.isSome_of_eq_some same), rfl⟩
    · refine .inr ⟨⟨name, interface⟩, AList.mem_lookup_iff.mp held, same, ?_⟩
      rw [named name interface held]

/-- The interfaces of a scan that is due. -/
theorem outcome_scan (prints : PrintsUnsigned) (tidy : before.Tidy) {now : Nat}
    {root : Option (List SysfsEntry)} (due : ¬ before.scanned now) :
    Outcome before (.scan now root) (scanActions before (collectWiredInterfaces root))
      { before with
        lastScan := some now
        lastInterfaces := collectWiredInterfaces root
        online := someOnline (collectWiredInterfaces root) } where
  tidy := ⟨named_collectWiredInterfaces root, rfl, tidy.leased⟩
  sound := sound_scanActions prints
  flag := raises_scanActions
  agrees interfaces configured agrees := by
    rw [setNames_scanActions_configured, List.append_nil]
    constructor
    · intro agrees'
      refine .inr fun name known => ?_
      have listed : some (.str name) ∈ interfaces := (agrees.interfaces _).mpr ⟨name, known, rfl⟩
      obtain ⟨other, inside, same⟩ := (agrees'.interfaces _).mp (List.mem_append_left _ listed)
      cases same
      exact inside
    · intro keeps
      have found := keeps.resolve_left due
      refine ⟨fun value => ?_, agrees.configured⟩
      rw [List.mem_append, agrees.interfaces, mem_setNames_scanActions]
      exact scanned_iff (named_collectWiredInterfaces root) found value

omit [SerdeJson] in
/-- The actions that remove branches set no names. -/
theorem setNames_removes {facet : Ustr} (removes : ∀ action ∈ actions,
    ∃ name, action = .removeFacet networkingConfiguredState (some (nameFilter name))) :
    setNames facet actions = [] := by
  rw [setNames, List.filterMap_eq_nil_iff]
  intro action inside
  obtain ⟨name, rfl⟩ := removes action inside
  rfl

omit [SerdeJson] in
theorem GivesUp.tidy {ifaces : List Ustr} (givesUp : GivesUp ifaces before actions after)
    (tidy : before.Tidy) : after.Tidy where
  named := givesUp.lastInterfaces ▸ tidy.named
  online := by rw [givesUp.online, givesUp.lastInterfaces, tidy.online]
  leased iface has := by
    obtain ⟨earlier, keeps⟩ := givesUp.leased iface has
    exact (givesUp.configured iface).mpr ⟨tidy.leased iface earlier, keeps⟩

theorem GivesUp.sound {ifaces : List Ustr} (givesUp : GivesUp ifaces before actions after) :
    ∀ action ∈ actions, Sound action := by
  intro action inside
  obtain ⟨name, rfl⟩ := givesUp.removes action inside
  exact ⟨fun same => absurd same (by decide), fun _ => ⟨name, rfl⟩,
    fun same => absurd same (by decide)⟩

omit [SerdeJson] in
/-- The names still agree where no interface was given up. -/
theorem GivesUp.agrees_iff
    (givesUp : GivesUp before.configuredInterfaces before actions after)
    {interfaces configured : List (Option Json)} (agrees : Agrees before interfaces configured) :
    Agrees after interfaces configured ↔
      ∀ iface ∈ before.configuredInterfaces, before.stillOnline iface := by
  constructor
  · intro agrees' iface known
    have listed := (agrees.configured _).mpr ⟨iface, known, rfl⟩
    obtain ⟨other, inside, same⟩ := (agrees'.configured _).mp listed
    cases same
    exact ((givesUp.configured iface).mp inside).2 known
  · intro online
    have same : ∀ iface, iface ∈ after.configuredInterfaces ↔
        iface ∈ before.configuredInterfaces := by
      intro iface
      rw [givesUp.configured, and_iff_left_iff_imp]
      exact fun known _ => online iface known
    constructor
    · rw [givesUp.lastInterfaces]
      exact agrees.interfaces
    · simp only [same]
      exact agrees.configured

omit [SerdeJson] in
theorem leased_of_needingRenewal {now : Nat} {iface : Ustr}
    (needing : iface ∈ before.needingRenewal now) : before.Leased iface := by
  obtain ⟨entry, listed, renews⟩ := List.mem_filterMap.mp needing
  obtain ⟨lease, held, rfl⟩ := Option.map_eq_some_iff.mp renews
  refine ⟨entry.2, AList.mem_lookup_iff.mpr listed, ?_⟩
  cases leased : entry.2.dhcpLease with
  | none =>
      rw [leased] at held
      cases held
  | some other => rfl

/-- What reconciling makes of the tables. -/
theorem outcome_reconcile (tidy : before.Tidy) (now : Nat)
    (configs : List (NetworkConfigMetadata × Attempt)) (renewal : Ustr → Attempt) :
    ∃ result after actions,
      reconcile now configs renewal ⟨before, []⟩ = some (result, ⟨after, actions⟩) ∧
      Outcome before (.reconcile now configs renewal) actions after := by
  rw [reconcile, run_read_bind]
  split
  · next unconfigured =>
      obtain ⟨result, final, ran, actions, dispatched, configures⟩ :=
        progresses_configure configs ⟨before, []⟩ _ (.refl _)
      have empty : before.configuredInterfaces = [] :=
        List.isEmpty_iff.mp ((Bool.and_eq_true _ _).mp unconfigured).1
      refine ⟨result, final.runtime, final.dispatched, ran, ?_⟩
      rw [dispatched]
      refine .of_configures configures tidy (.inr fun iface inside => ?_)
      rw [empty] at inside
      cases inside
  · rw [run_read_bind]
    obtain ⟨result, middle, ran, ⟨first, dispatched, configures⟩, ok, same, -⟩ :=
      run_renewals renewal (before.needingRenewal now) ⟨before, []⟩
        fun iface needing => tidy.leased iface (leased_of_needingRenewal needing)
    have dispatched : middle.dispatched = first := dispatched
    have same : middle.runtime.configuredInterfaces = before.configuredInterfaces := same
    cases result with
    | error error =>
        have fails : ((before.needingRenewal now).any fun iface =>
            before.renewalFails (renewal iface) iface) = true :=
          (Bool.not_eq_false _).mp fun succeeds => by rw [succeeds] at ok; cases ok
        refine ⟨.error error, middle.runtime, first, ?_, .of_configures configures tidy ?_⟩
        · rw [run_bind_of_error ran, ← dispatched]
        · exact .inl (List.any_eq_true.mp fails)
    | ok value =>
        have succeeds : ((before.needingRenewal now).any fun iface =>
            before.renewalFails (renewal iface) iface) = false :=
          (Bool.not_eq_true _).mp fun fails => by rw [fails] at ok; cases ok
        obtain ⟨final, second, ranChecks, dispatched', givesUp⟩ :=
          run_each_checkConfigured middle.runtime.configuredInterfaces middle
        have total : final.dispatched = first ++ second := by rw [dispatched', dispatched]
        refine ⟨.ok (), final.runtime, first ++ second, ?_, ?_⟩
        · rw [run_bind_of_ok ran, run_read_bind, ranChecks, ← total]
        · exact {
            tidy := givesUp.tidy (configures.tidy tidy)
            sound := List.forall_mem_append.mpr ⟨configures.sound, givesUp.sound⟩
            flag := by
              rw [List.foldl_append, configures.noFlag, givesUp.online, configures.online]
              apply foldl_raises
              intro action inside up
              obtain ⟨name, rfl⟩ := givesUp.removes action inside
              rfl
            agrees := by
              intro interfaces configured agrees
              rw [setNames_append, setNames_append, setNames_removes givesUp.removes,
                setNames_removes givesUp.removes, List.append_nil, List.append_nil,
                givesUp.agrees_iff (configures.agrees agrees), same]
              have online (iface : Ustr) :
                  middle.runtime.stillOnline iface = before.stillOnline iface := by
                rw [NetworkingRuntime.stillOnline, configures.lastInterfaces]
                rfl
              simp only [online]
              exact (or_iff_right fun fails => by
                rw [List.any_eq_true.mpr fails] at succeeds; cases succeeds).symm }

/-- The outcome of every event. -/
theorem run_event (prints : PrintsUnsigned) (tidy : before.Tidy) (event : NetworkingEvent) :
    ∃ result after actions, event.program ⟨before, []⟩ = some (result, ⟨after, actions⟩) ∧
      Outcome before event actions after := by
  cases event with
  | scan now root =>
      by_cases scanned : before.scanned now
      · refine ⟨.ok (), before, [], ?_, .of_configures (.refl before) tidy (.inl scanned)⟩
        rw [NetworkingEvent.program, scanAndSync, run_read_bind, if_pos scanned]
        rfl
      · exact ⟨_, _, _, run_scanAndSync now root _ scanned, outcome_scan prints tidy scanned⟩
  | configure configs =>
      obtain ⟨result, final, ran, actions, dispatched, configures⟩ :=
        progresses_configure configs ⟨before, []⟩ _ (.refl _)
      refine ⟨result, final.runtime, final.dispatched, ran, ?_⟩
      rw [dispatched]
      exact .of_configures configures tidy trivial
  | reconcile now configs renewal => exact outcome_reconcile tidy now configs renewal

end Events

/-! ## Runs -/

section Runs

variable [SerdeJson] [TomlText] {system : NetworkingSystem}

/-- What holds in every run: the tables are tidy, the rows of the facets cannot be
filtered, and the flag is up where the runtime says so. -/
structure Consistent (system : NetworkingSystem) (tables : Tables) : Prop where
  tidy : system.runtime.Tidy
  shows_ : Shows system.flow tables
  clean : tables.Clean
  flag : tables.online = system.runtime.online

omit [TomlText] in
theorem Consistent.mirrors_iff {tables : Tables} (consistent : Consistent system tables) :
    Mirrors system ↔
      Agrees system.runtime (rowNames tables.interfaces) (rowNames tables.configured) := by
  have interfaces := Holds.branchNames consistent.shows_.interfaces
  have configured := Holds.branchNames consistent.shows_.configured
  constructor
  · rintro ⟨agreesInterfaces, -, agreesConfigured⟩
    rw [interfaces] at agreesInterfaces
    rw [configured] at agreesConfigured
    exact ⟨agreesInterfaces, agreesConfigured⟩
  · rintro ⟨agreesInterfaces, agreesConfigured⟩
    rw [← interfaces] at agreesInterfaces
    rw [← configured] at agreesConfigured
    refine ⟨agreesInterfaces, ?_, agreesConfigured⟩
    rw [consistent.shows_.online, consistent.flag, consistent.tidy.online]
    exact List.any_eq_true

/-- One step keeps the invariant, and the mirrored names where none has to be removed. -/
theorem Consistent.step {tables : Tables} (prints : PrintsUnsigned)
    (consistent : Consistent system tables) (step : NetworkingStep) :
    ∃ next, Consistent (system.step step) next ∧
      (Mirrors system →
        (Mirrors (system.step step) ↔ system.runtime.KeepsAllNames step.event)) := by
  obtain ⟨result, after, actions, ran, outcome⟩ :=
    run_event prints consistent.tidy step.event
  obtain ⟨flow, performed⟩ :=
    Option.isSome_iff_exists.mp (perform_isSome step.env actions system.flow)
  have stepped : system.step step = ⟨after, flow⟩ := by
    rw [NetworkingSystem.step, ran]
    simp only [performed]
  obtain ⟨cleanInterfaces, interfaces⟩ := rowNames_foldl
    (fun action inside => (outcome.sound action inside).interface) consistent.clean.interfaces
  obtain ⟨cleanConfigured, configured⟩ := rowNames_foldl
    (fun action inside => (outcome.sound action inside).configured) consistent.clean.configured
  have next : Consistent (system.step step) (tables.after actions) := by
    rw [stepped]
    refine ⟨outcome.tidy, consistent.shows_.perform step.builtIn outcome.sound performed,
      ⟨cleanInterfaces, cleanConfigured⟩, ?_⟩
    rw [Tables.after, consistent.flag]
    exact outcome.flag
  refine ⟨_, next, fun mirrors => ?_⟩
  rw [← outcome.agrees _ _ (consistent.mirrors_iff.mp mirrors), next.mirrors_iff, stepped]
  constructor
  · rintro ⟨agreesInterfaces, agreesConfigured⟩
    constructor
    · simpa only [Tables.after, interfaces, List.mem_append] using agreesInterfaces
    · simpa only [Tables.after, configured, List.mem_append] using agreesConfigured
  · rintro ⟨agreesInterfaces, agreesConfigured⟩
    constructor
    · simpa only [Tables.after, interfaces, List.mem_append] using agreesInterfaces
    · simpa only [Tables.after, configured, List.mem_append] using agreesConfigured

/-- The networks at boot: no table has an entry, and no facet a branch. -/
structure Booted (system : NetworkingSystem) : Prop where
  runtime : system.runtime = .default
  interfaces : system.flow.facets.instances networkingInterfaceState = []
  online : system.flow.facets.instances networkingOnlineState = []
  configured : system.flow.facets.instances networkingConfiguredState = []

omit [TomlText] in
theorem Booted.consistent (booted : Booted system) : Consistent system ⟨[], [], false⟩ where
  tidy := by
    rw [booted.runtime]
    refine ⟨?_, rfl, ?_⟩
    · intro name interface found
      cases found
    · rintro iface ⟨state, found, -⟩
      cases found
  shows_ := by
    refine ⟨?_, ?_, ?_⟩
    · rw [booted.interfaces]
      rfl
    · rw [booted.configured]
      rfl
    · rw [booted.online]
      simp
  clean := ⟨by simp, by simp⟩
  flag := by rw [booted.runtime]; rfl

omit [TomlText] in
theorem Booted.mirrors (booted : Booted system) : Mirrors system := by
  rw [booted.consistent.mirrors_iff, booted.runtime]
  constructor
  · intro value
    simp [rowNames, NetworkingRuntime.default]
  · intro value
    simp [rowNames, NetworkingRuntime.default]

/-- The facets mirror the tables in every state of a run exactly where no step has to
remove a name. -/
theorem mirrors_iff_keepsAllNames (prints : PrintsUnsigned) (booted : Booted system)
    (steps : List NetworkingStep) :
    (∀ before, before <+: steps → Mirrors (Runs.run NetworkingSystem.step system before)) ↔
      Runs.Along NetworkingSystem.step
        (fun system step => system.runtime.KeepsAllNames step.event) system steps := by
  have exact_ (state : NetworkingSystem) (step : NetworkingStep)
      (holds : Mirrors state ∧ ∃ tables, Consistent state tables) :
      (Mirrors (state.step step) ∧ ∃ tables, Consistent (state.step step) tables) ↔
        state.runtime.KeepsAllNames step.event := by
    obtain ⟨mirrors, tables, consistent⟩ := holds
    obtain ⟨next, consistent', mirrors_iff⟩ := consistent.step prints step
    rw [← mirrors_iff mirrors]
    exact and_iff_left ⟨next, consistent'⟩
  rw [Runs.along_iff exact_ steps ⟨booted.mirrors, _, booted.consistent⟩]
  have keeps (state : NetworkingSystem) (step : NetworkingStep)
      (holds : ∃ tables, Consistent state tables) :
      ∃ tables, Consistent (state.step step) tables := by
    obtain ⟨tables, consistent⟩ := holds
    obtain ⟨next, consistent', -⟩ := consistent.step prints step
    exact ⟨next, consistent'⟩
  have consistent (before : List NetworkingStep) :
      ∃ tables, Consistent (Runs.run NetworkingSystem.step system before) tables :=
    Runs.run_invariant keeps before ⟨_, booted.consistent⟩
  exact forall₂_congr fun before _ => (and_iff_left (consistent before)).symm

/-- The tables after a step are those that its program leaves. -/
theorem NetworkingSystem.step_runtime {step : NetworkingStep} {result : Except CoreError Unit}
    {state : NetworkingState}
    (ran : step.event.program ⟨system.runtime, []⟩ = some (result, state)) :
    (system.step step).runtime = state.runtime := by
  obtain ⟨flow, performed⟩ :=
    Option.isSome_iff_exists.mp (perform_isSome step.env state.dispatched system.flow)
  rw [NetworkingSystem.step, ran]
  simp only [performed]

end Runs

/-! ## A cable, and a card that is taken out -/

section Examples

open scoped Compact

def networkEnv : FlowEnv :=
  .load (.ofGroup "static" "net" [interfaceFacet, onlineFacet, configuredFacet]) none

theorem builtIn_networkEnv : BuiltIn networkEnv := ⟨rfl, rfl, rfl⟩

def cardEntry : SysfsEntry where
  name := "eth0"
  wireless := false
  device := true
  type := some "1"
  operstate := some "up"
  carrier := some "1"
  mtu := some "1500"
  address := some "52:54:00:12:34:56"

/-- A scan at some time that finds some directories. -/
def scanStep (now : Nat) (entries : List SysfsEntry) : NetworkingStep :=
  ⟨networkEnv, builtIn_networkEnv, .scan now (some entries)⟩

def bootedSystem : NetworkingSystem := ⟨.default, .empty⟩

theorem booted_bootedSystem : Booted bootedSystem := ⟨rfl, rfl, rfl, rfl⟩

theorem mirrors_card :
    Mirrors (Runs.run NetworkingSystem.step bootedSystem [scanStep 0 [cardEntry]]) := by
  apply (mirrors_iff_keepsAllNames Compact.printsUnsigned booted_bootedSystem _).mpr _ _
    List.prefix_rfl
  refine ⟨.inr fun name known => ?_, trivial⟩
  exact absurd known (AList.notMem_empty name)

theorem not_mirrors_card : ¬ ∀ before, before <+: [scanStep 0 [cardEntry], scanStep 2000 []] →
    Mirrors (Runs.run NetworkingSystem.step bootedSystem before) := by
  intro mirrors
  have first := mirrors [scanStep 0 [cardEntry]] ⟨_, rfl⟩
  have second := mirrors _ List.prefix_rfl
  obtain ⟨tables, consistent, -⟩ :=
    booted_bootedSystem.consistent.step Compact.printsUnsigned (scanStep 0 [cardEntry])
  obtain ⟨-, -, mirrors_iff⟩ := consistent.step Compact.printsUnsigned (scanStep 2000 [])
  have keeps := (mirrors_iff first).mp second
  have ran : (scanStep 0 [cardEntry]).event.program ⟨bootedSystem.runtime, []⟩ = _ :=
    run_scanAndSync 0 (some [cardEntry]) _ (by decide)
  rw [NetworkingSystem.step_runtime ran] at keeps
  rcases keeps with early | found
  · exact absurd early (by decide)
  · have known : "eth0" ∈ collectWiredInterfaces (some [cardEntry]) := by decide +kernel
    exact absurd (found "eth0" known) (by decide +kernel)

end Examples

end Rind.Networking
