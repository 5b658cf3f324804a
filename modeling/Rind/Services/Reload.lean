import Rind.Services.Teardown

/-!
# Reloading the units

A reload takes the pages of the old collection away, queues a stopper for each of them
and each type of unit that has one, and collects the pages anew.  The stoppers run when
all of this has happened: what they stop is listed by the new pages.
-/

namespace Rind

open Prog

/-! ## The collection -/

/-- The definition of a timer. -/
structure TimerMetadata where
  name : Ustr
  deriving DecidableEq

instance : NamedItem TimerMetadata := ⟨TimerMetadata.name⟩

/-- The definitions of a page, of each type by their groups. -/
structure UnitPage where
  services : AList fun _ : Ustr => List ServiceMetadata
  sockets : AList fun _ : Ustr => List SocketMetadata
  timers : AList fun _ : Ustr => List TimerMetadata

/-- All pages by their scopes. -/
abbrev UnitPages : Type := AList fun _ : Ustr => UnitPage

/-- The definitions of one type.  The loops over a scope do not use its index. -/
def UnitPages.registry {M : Type} (pages : UnitPages)
    (part : UnitPage → AList fun _ : Ustr => List M) : MetadataRegistry M where
  metadata :=
    { entries := pages.entries.map fun page => ⟨page.1, ⟨page.1, part page.2⟩⟩
      nodupKeys := by
        rw [List.NodupKeys, List.keys, List.map_map]
        exact pages.nodupKeys }
  index := none

inductive UnitType where
  | service
  | socket
  | timer
  | other (name : Ustr)
  deriving DecidableEq

/-- The runtime and the action that stop the units of a type. -/
structure Stopper where
  runtime : String
  action : String
  deriving DecidableEq

/-- The actions that stop the units of a scope: there are two in the program. -/
def servicesStopper : Stopper := ⟨"services", "stop_for_scope"⟩

def socketsStopper : Stopper := ⟨"sockets", "stop_for_scope"⟩

/-- A stopper that waits for the flush of the primary context. -/
structure StopperCall where
  stopper : Stopper
  scope : Ustr

/-- The definitions of the system, with the types that have an index and the stoppers of
types, and the units. -/
structure ReloadSystem where
  pages : UnitPages
  indexes : List UnitType
  stoppers : AList fun _ : UnitType => Stopper
  units : Units
  /-- The keys of the timers that run. -/
  timers : List Ustr

namespace ReloadSystem

variable (system : ReloadSystem) (reloadStatic : Bool)

/-- The scopes that a reload removes. -/
def toRemove : List Ustr :=
  if reloadStatic then system.pages.keys else system.pages.keys.filter (· ≠ "static")

/-- The stoppers that it queues for the primary context. -/
def stopperCalls : List StopperCall :=
  (system.toRemove reloadStatic).flatMap fun name =>
    system.indexes.filterMap fun type => (system.stoppers.lookup type).map (⟨·, name⟩)

/-- `reload_units_collection`, where `collect` says what the orchestrators make of the
pages that are left. -/
def reloadUnitsCollection (collect : UnitPages → UnitPages) :
    ReloadSystem × List StopperCall :=
  let left :=
    (system.toRemove reloadStatic).foldl (fun pages name => pages.erase name) system.pages
  ({ system with pages := collect left }, system.stopperCalls reloadStatic)

end ReloadSystem

/-! ## The flush -/

section Flush

variable (env : ServiceEnv)

/-- A stopper runs with the pages of its time.  Other actions miss what they ask for in a
payload that has a scope only. -/
def ReloadSystem.runStopper (system : ReloadSystem) (call : StopperCall) : ReloadSystem :=
  if call.stopper = servicesStopper then
    let env := { env with metadata := system.pages.registry UnitPage.services }
    { system with
      units := ((stopServicesForScope env call.scope) system.units).elim system.units (·.2) }
  else if call.stopper = socketsStopper then
    let sockets := system.pages.registry UnitPage.sockets
    { system with
      units := ((stopSocketsForScope sockets call.scope) system.units).elim system.units (·.2) }
  else system

/-- A reload, and the stoppers in the flush after it, which come in their order. -/
def ReloadSystem.reload (system : ReloadSystem) (reloadStatic : Bool)
    (collect : UnitPages → UnitPages) : ReloadSystem :=
  let (collected, calls) := system.reloadUnitsCollection reloadStatic collect
  calls.foldl (ReloadSystem.runStopper env) collected

/-- Every stopper has run with the old page of its scope, and nothing that the removed
scopes defined runs any more. -/
structure ReloadStops (system : ReloadSystem) (reloadStatic : Bool) (final : ReloadSystem) :
    Prop where
  current : ∀ call ∈ system.stopperCalls reloadStatic,
    final.pages.lookup call.scope = system.pages.lookup call.scope
  services : ∀ scope ∈ system.toRemove reloadStatic,
    ServicesStopped { env with metadata := system.pages.registry UnitPage.services } scope
      system.units final.units
  sockets : ∀ scope ∈ system.toRemove reloadStatic,
    SocketsStopped (system.pages.registry UnitPage.sockets) scope system.units final.units
  timers : ∀ scope ∈ system.toRemove reloadStatic,
    ∀ key ∈ scopeKeys (system.pages.registry UnitPage.timers) scope scope, key ∉ final.timers

/-! ## When it stops all -/

/-- What a reload needs to stop everything.  What it needs to stop a service is a stopper
that comes to its key on one of the new pages. -/
structure Reloadable (system : ReloadSystem) (reloadStatic : Bool) (collected : UnitPages) :
    Prop where
  current : ∀ call ∈ system.stopperCalls reloadStatic,
    collected.lookup call.scope = system.pages.lookup call.scope
  services : ∀ scope ∈ system.toRemove reloadStatic,
    ∀ key ∈ scopeKeys (system.pages.registry UnitPage.services) scope scope,
      runs (system.units.entry key) →
        (∃ call ∈ system.stopperCalls reloadStatic, system.units.reachesService
          (scopeKeys (collected.registry UnitPage.services) call.scope call.scope) key) ∧
        ¬ runs (system.units.entry key).dropLast
  sockets : ∀ scope ∈ system.toRemove reloadStatic,
    ∀ key ∈ scopeKeys (system.pages.registry UnitPage.sockets) scope scope,
      ∀ socket, .socket socket ∈ system.units.entry key → socket.active = false
  timers : ∀ scope ∈ system.toRemove reloadStatic,
    ∀ key ∈ scopeKeys (system.pages.registry UnitPage.timers) scope scope, key ∉ system.timers

variable (system : ReloadSystem)

theorem pages_runStopper (call : StopperCall) :
    (system.runStopper env call).pages = system.pages ∧
      (system.runStopper env call).timers = system.timers := by
  rw [ReloadSystem.runStopper]
  split
  · exact ⟨rfl, rfl⟩
  · split <;> exact ⟨rfl, rfl⟩

/-- The stoppers change neither the pages nor the timers. -/
theorem pages_foldl_runStopper (calls : List StopperCall) :
    (calls.foldl (ReloadSystem.runStopper env) system).pages = system.pages ∧
      (calls.foldl (ReloadSystem.runStopper env) system).timers = system.timers := by
  induction calls generalizing system with
  | nil => exact ⟨rfl, rfl⟩
  | cons call rest ih =>
      obtain ⟨pages, timers⟩ := ih (system.runStopper env call)
      obtain ⟨first, firstTimers⟩ := pages_runStopper env system call
      exact ⟨pages.trans first, timers.trans firstTimers⟩

/-- The loop over a scope comes to an end. -/
theorem stopServicesForScope_isSome (scope : Ustr) (units : Units) :
    (stopServicesForScope env scope units).isSome := by
  rw [stopServicesForScope]
  generalize (env.metadata.items scope).getD [] = items
  induction items generalizing units with
  | nil => rfl
  | cons item rest ih =>
      rw [each_cons, run_bind, stopItem]
      dsimp only
      cases asOneService (env.metadata.instanceKey scope (rslvns item.1 item.2.name))
        units.instances with
      | error error => rfl
      | ok found => exact ih _

/-- The keys that stoppers of the services come to. -/
def ReloadSystem.Reached (system : ReloadSystem) (calls : List StopperCall) (key : Ustr) : Prop :=
  ∃ call ∈ calls, system.units.reachesService
    (scopeKeys (system.pages.registry UnitPage.services) call.scope call.scope) key

theorem runStopper_swept {call : StopperCall} (stopper : call.stopper = servicesStopper) :
    ∃ done, (∀ key, key ∈ done ↔ system.Reached [call] key) ∧
      Swept done system.units (system.runStopper env call).units := by
  let current := { env with metadata := system.pages.registry UnitPage.services }
  obtain ⟨⟨result, final⟩, ran⟩ :=
    Option.isSome_iff_exists.mp (stopServicesForScope_isSome current call.scope system.units)
  obtain ⟨done, reached, swept⟩ := stopServicesForScope_swept ran
  refine ⟨done, fun key => ?_, ?_⟩
  · rw [reached]
    simp [ReloadSystem.Reached, current]
  · rw [ReloadSystem.runStopper, if_pos stopper]
    simpa only [current, ran, Option.elim_some] using swept

/-- Stopping services does not change which keys are come to. -/
theorem reachesService_congr {done keys : List Ustr} {units final : Units} {key : Ustr}
    (swept : Swept done units final) :
    final.reachesService keys key ↔ units.reachesService keys key := by
  simp only [Units.reachesService, ReachedThrough, swept.holdsService]

/-- Stoppers of the services stop those that one of them comes to. -/
theorem foldl_runStopper_swept {calls : List StopperCall}
    (stoppers : ∀ call ∈ calls, call.stopper = servicesStopper) :
    ∃ done, (∀ key, key ∈ done ↔ system.Reached calls key) ∧
      Swept done system.units (calls.foldl (ReloadSystem.runStopper env) system).units := by
  induction calls generalizing system with
  | nil => exact ⟨[], by simp [ReloadSystem.Reached], .nil _⟩
  | cons call rest ih =>
      obtain ⟨first, others⟩ := List.forall_mem_cons.mp stoppers
      obtain ⟨done, reached, swept⟩ := runStopper_swept env system first
      obtain ⟨more, reachedRest, sweptRest⟩ := ih (system.runStopper env call) others
      refine ⟨done ++ more, fun key => ?_, swept.trans sweptRest⟩
      rw [List.mem_append, reached, reachedRest]
      simp only [ReloadSystem.Reached, (pages_runStopper env system call).1,
        reachesService_congr swept, List.mem_cons, List.not_mem_nil, or_false, exists_eq_left,
        exists_eq_or_imp]

/-- Stopping services leaves all sockets under their keys. -/
theorem Swept.mem_socket {done : List Ustr} {units final : Units} (swept : Swept done units final)
    {key : Ustr} {socket : Socket} :
    .socket socket ∈ final.entry key ↔ .socket socket ∈ units.entry key := by
  by_cases inside : key ∈ done
  · obtain ⟨before, service, service', entry, stopped, -⟩ := swept.stopped key inside
    simp [entry, stopped]
  · rw [swept.others key inside]

theorem Swept.socketsStopped_iff {done : List Ustr} {units final : Units}
    (swept : Swept done units final) {definitions : MetadataRegistry SocketMetadata}
    {scope : Ustr} : SocketsStopped definitions scope units final ↔
      ∀ key ∈ scopeKeys definitions scope scope, ∀ socket, .socket socket ∈ units.entry key →
        socket.active = false := by
  constructor
  · intro stopped key listed socket member
    exact stopped.quiet key listed socket (swept.mem_socket.mpr member)
  · intro inactive
    refine ⟨fun key listed socket member => ?_, fun key listed socket member active => ?_⟩
    · exact inactive key listed socket (swept.mem_socket.mp member)
    · rw [inactive key listed socket member] at active
      cases active

variable {env} {system} {reloadStatic : Bool} {collect : UnitPages → UnitPages}

/-- A reload with no stoppers but those of the services stops all that the removed scopes
have defined, and runs every stopper with the old page, exactly if the pages are collected
as they were wherever a stopper is queued, every running service of a removed scope is
come to, and no socket and no timer of one is active. -/
theorem reloadStops_iff
    (registered : ∀ type stopper, system.stoppers.lookup type = some stopper →
      stopper = servicesStopper) :
    ReloadStops env system reloadStatic (system.reload env reloadStatic collect) ↔
      Reloadable system reloadStatic
        (system.reloadUnitsCollection reloadStatic collect).1.pages := by
  have stoppers : ∀ call ∈ system.stopperCalls reloadStatic, call.stopper = servicesStopper := by
    intro call queued
    obtain ⟨name, -, queued⟩ := List.mem_flatMap.mp queued
    obtain ⟨type, -, found⟩ := List.mem_filterMap.mp queued
    obtain ⟨stopper, held, rfl⟩ := Option.map_eq_some_iff.mp found
    exact registered type stopper held
  have ran : system.reload env reloadStatic collect =
      (system.stopperCalls reloadStatic).foldl (ReloadSystem.runStopper env)
        (system.reloadUnitsCollection reloadStatic collect).1 := rfl
  have units : (system.reloadUnitsCollection reloadStatic collect).1.units = system.units := rfl
  have timers : (system.reloadUnitsCollection reloadStatic collect).1.timers = system.timers :=
    rfl
  rw [ran]
  generalize (system.reloadUnitsCollection reloadStatic collect).1 = collected at units timers ⊢
  obtain ⟨done, reached, swept⟩ := foldl_runStopper_swept env collected stoppers
  obtain ⟨pages', timers'⟩ := pages_foldl_runStopper env collected
    (system.stopperCalls reloadStatic)
  simp only [ReloadSystem.Reached] at reached
  rw [units] at swept reached
  rw [timers] at timers'
  constructor
  · intro stops
    constructor
    · intro call queued
      exact (congrArg (AList.lookup call.scope) pages').symm.trans (stops.current call queued)
    · intro scope removed
      have stopped := stops.services scope removed
      rw [swept.servicesStopped_iff reached] at stopped
      exact stopped
    · intro scope removed
      exact swept.socketsStopped_iff.mp (stops.sockets scope removed)
    · intro scope removed key listed
      rw [← timers']
      exact stops.timers scope removed key listed
  · intro reloadable
    constructor
    · intro call queued
      exact (congrArg (AList.lookup call.scope) pages').trans (reloadable.current call queued)
    · intro scope removed
      exact (swept.servicesStopped_iff reached).mpr (reloadable.services scope removed)
    · intro scope removed
      exact swept.socketsStopped_iff.mpr (reloadable.sockets scope removed)
    · intro scope removed key listed
      rw [timers']
      exact reloadable.timers scope removed key listed

/-- As nothing registers a stopper, a reload stops no unit of any scope. -/
theorem units_reload_of_unregistered
    (unregistered : ∀ type, system.stoppers.lookup type = none) :
    (system.reload env reloadStatic collect).units = system.units := by
  have calls : system.stopperCalls reloadStatic = [] := by
    rw [ReloadSystem.stopperCalls, List.flatMap_eq_nil_iff]
    intro name _
    rw [List.filterMap_eq_nil_iff]
    intro type _
    rw [unregistered type]
    rfl
  rw [ReloadSystem.reload, ReloadSystem.reloadUnitsCollection, calls]
  rfl

end Flush

/-! ## A scope that goes away -/

def bobWeb : UnitInstance := .service ⟨webService, [.new "" none (some ⟨100⟩)], .active⟩

/-- A service that runs in the scope of a user. -/
def bobSystem (stoppers : AList fun _ : UnitType => Stopper) : ReloadSystem where
  pages := AList.insert "bob" ⟨AList.insert "app" [webService] ∅, ∅, ∅⟩
    (AList.insert "static" ⟨∅, ∅, ∅⟩ ∅)
  indexes := [.service, .socket, .timer]
  stoppers := stoppers
  units := { webUnits with instances := AList.insert "app:web@bob" [bobWeb] ∅ }
  timers := []

/-- The stopper of the services is registered. -/
def registeredStoppers : AList fun _ : UnitType => Stopper :=
  AList.insert .service servicesStopper ∅

theorem reloadStops_iff_bob :
    ReloadStops (loneEnv webService 100) (bobSystem ∅) false
        ((bobSystem ∅).reload (loneEnv webService 100) false id) ↔
      Reloadable (bobSystem ∅) false
        ((bobSystem ∅).reloadUnitsCollection false id).1.pages :=
  reloadStops_iff nofun

/-- The service goes on after the scope was removed: no stopper is queued, and one that is
finds no page of the scope. -/
theorem not_reloadStops_bob :
    ¬ ReloadStops (loneEnv webService 100) (bobSystem ∅) false
        ((bobSystem ∅).reload (loneEnv webService 100) false id) ∧
      ¬ ReloadStops (loneEnv webService 100) (bobSystem registeredStoppers) false
        ((bobSystem registeredStoppers).reload (loneEnv webService 100) false id) := by
  have running : runs [bobWeb] :=
    ⟨_, List.mem_singleton.mpr rfl, _, List.mem_singleton.mpr rfl, rfl⟩
  constructor
  · intro stops
    have entry : (bobSystem ∅).units.entry "app:web@bob" = [bobWeb] := by decide +kernel
    have quiet := (stops.services "bob" (by decide)).quiet "app:web@bob" (by decide +kernel)
    rw [units_reload_of_unregistered fun _ => rfl, entry] at quiet
    exact quiet running
  · intro stops
    have entry : ((bobSystem registeredStoppers).reload (loneEnv webService 100) false
        id).units.entry "app:web@bob" = [bobWeb] := by decide +kernel
    have quiet := (stops.services "bob" (by decide)).quiet "app:web@bob" (by decide +kernel)
    rw [entry] at quiet
    exact quiet running

end Rind
