import Rind.Services.Steps

/-!
# Restarts keep what has exited

A restart is a start of the service by its name.  It appends new instances and
leaves the exited one where it is, so it never puts a new instance in the place
of the exited one.
-/

namespace Rind

open Runs

/-- The instance with a process has been replaced by a new one, with the same
branch key, the same user and the same command, and no other has changed. -/
structure Replaced (before : Services) (key : Ustr) (pid : Nat) (after : Services) : Prop where
  replaced : ∃ service index exited service' inst pid' process process',
    before.instances.lookup key = some service ∧ service.findByPid pid = some index ∧
      service.instances[index]? = some exited ∧
      after.instances.lookup key = some service' ∧
      service'.instances = service.instances.set index inst ∧
      inst.pid = some pid' ∧ inst.key = exited.key ∧ inst.user = exited.user ∧
      before.host.kernel.children.lookup pid = some process ∧
      after.host.kernel.children.lookup pid' = some process' ∧ process'.run = process.run

/-- An instance of a service without a process. -/
def Vacant (key : Ustr) (index : Nat) (services : Services) : Prop :=
  ∃ service, services.instances.lookup key = some service ∧
    (service.instances.map (·.handle))[index]? = some none

/-- A replaced instance has a process. -/
theorem Replaced.not_vacant {before after : Services} {key : Ustr} {pid index : Nat}
    {service : Service} (found : before.instances.lookup key = some service)
    (position : service.findByPid pid = some index) (replaced : Replaced before key pid after) :
    ¬ Vacant key index after := by
  rintro ⟨last, last_found, vacant⟩
  obtain ⟨first, index', exited, service', new, pid', process, process', first_found, same,
    inside, stored, list_eq, running, -⟩ := replaced.replaced
  rw [found, Option.some_inj] at first_found
  subst first_found
  rw [position, Option.some_inj] at same
  subst same
  rw [last_found, Option.some_inj] at stored
  subst stored
  have bound : index < service.instances.length := (List.getElem?_eq_some_iff.mp inside).1
  rw [list_eq, List.getElem?_map, List.getElem?_set_self bound, Option.map_some,
    Option.some_inj] at vacant
  simp [ChildInstance.pid, vacant] at running

/-! ## Starts keep vacant instances -/

section Starts

variable [SerdeJson] [TomlText] {env : ServiceEnv} {request : StartRequest}

theorem StartOutcome.vacant {service service' : Service} {host final : Host} {index : Nat}
    (outcome : StartOutcome env request service host service' final)
    (vacant : (service.instances.map (·.handle))[index]? = some none) :
    (service'.instances.map (·.handle))[index]? = some none := by
  have blind : ∀ (inst : ChildInstance) state, (inst.mark state).handle = inst.handle :=
    fun _ _ => rfl
  cases outcome with
  | held running => exact vacant
  | started free insts final spawned =>
      have bound : index < (service.instances.map (·.handle)).length :=
        (List.getElem?_eq_some_iff.mp vacant).1
      rw [StartRequest.map_settle blind, List.map_append, List.getElem?_append_left bound, vacant]
  | failed free error final lastState spawned =>
      rw [StartRequest.map_spoil blind, vacant]

/-- No start gives a vacant instance a process. -/
theorem Vacant.start {services final : Services} {key : Ustr} {index : Nat}
    (vacant : Vacant key index services) (started : StartStep env request services final) :
    Vacant key index final := by
  obtain ⟨service, found, empty⟩ := vacant
  have stored : ∀ {other : Ustr} {first last : Service} {final : Services},
      env.metadata.instantiateOne Service.new "*" request.name services.instances =
        some (other, first) →
      ((first.instances.map (·.handle))[index]? = some none →
        (last.instances.map (·.handle))[index]? = some none) →
      final.instances = services.instances.insert other last → Vacant key index final := by
    intro other first last final instantiated keeps final_eq
    by_cases same : key = other
    · subst same
      obtain ⟨-, kept | ⟨absent, -⟩⟩ := MetadataRegistry.instantiateOne_cases instantiated
      · rw [found, Option.some_inj] at kept
        subst kept
        exact ⟨last, by rw [final_eq, AList.lookup_insert], keeps empty⟩
      · rw [found] at absent
        cases absent
    · exact ⟨service, by rw [final_eq, AList.lookup_insert_ne same, found], empty⟩
  cases started with
  | missing absent => exact ⟨service, found, empty⟩
  | postponed other first instantiated later => exact stored instantiated id rfl
  | tried other first last host instantiated now outcome =>
      exact stored instantiated outcome.vacant rfl

omit [SerdeJson] [TomlText] in
/-- The exited instance of a restarted service is vacant. -/
theorem vacant_of_restart {services : Services} {pid : Nat} {code : Int} {key : Ustr}
    (restarted : (recordExit pid code services).2 = some (key, .restart)) :
    ∃ service index, services.instances.lookup key = some service ∧
      service.findByPid pid = some index ∧ Vacant key index (recordExit pid code services).1 := by
  have step := recordExit_cases pid code services
  generalize recordExit pid code services = result at step restarted
  cases step with
  | unknown noted => cases restarted
  | unregistered other noted absent => cases restarted
  | unheld other service noted found without => cases restarted
  | handled other service index inst noted found position at_ =>
      simp only [Option.some_inj, Prod.mk.injEq] at restarted
      obtain ⟨rfl, action⟩ := restarted
      refine ⟨service, index, found, position, service.afterExit index inst code,
        AList.lookup_insert _, ?_⟩
      have bound : index < service.instances.length := (List.getElem?_eq_some_iff.mp at_).1
      rw [Service.afterExit, action, ServiceExitAction.keeps, List.getElem?_map,
        List.getElem?_set_self bound]
      rfl

/-- An exit that restarts its service never replaces the instance that has
exited, whatever further starts there are. -/
theorem exit_never_replaces {services : Services} {event : ServiceEnv × ServiceAction}
    {taken : TakenExit} {key : Ustr} (took : takeExit services event.2 = some taken)
    (restarted : (recordExit taken.pid taken.code taken.base).2 = some (key, .restart))
    (later : List (ServiceEnv × StartRequest)) :
    ¬ Replaced services key taken.pid
      (Runs.run (fun services event => (start event.1 event.2 services).2)
        (serviceStep services event) later) := by
  obtain ⟨service, index, found, position, vacant⟩ := vacant_of_restart restarted
  obtain ⟨instances, -⟩ := takeExit_base took
  rw [instances] at found
  intro replaced
  apply replaced.not_vacant found position
  have exited : beforeStart services event =
      afterExit taken.pid taken.code taken.base := by
    obtain ⟨env, action⟩ := event
    cases action with
    | childExited | exit pid code => simp only [beforeStart, took]
    | _ => simp [takeExit] at took
  have first : Vacant key index (serviceStep services event) := by
    rw [serviceStep_eq, exited, afterExit]
    generalize recordExit taken.pid taken.code taken.base = result at restarted vacant
    obtain ⟨middle, action⟩ := result
    subst restarted
    exact vacant.start (start_cases middle)
  exact run_invariant (fun services event vacant => vacant.start (start_cases services)) later
    first

end Starts

/-! ## A service that is always restarted -/

open scoped Compact

/-- A service that is restarted whenever it exits. -/
def keptService : ServiceMetadata := { workerService with restart := some (.bool true) }

/-- The service runs as process 100. -/
def keptRunning : Services := (start (loneEnv keptService 100) (.plain "app:worker") .boot).2

theorem exit_never_replaces_kept :
    ¬ Replaced keptRunning "app:worker@static" 100
      (serviceStep keptRunning (loneEnv keptService 101, .exit 100 0)) := by
  have took : takeExit keptRunning (loneEnv keptService 101, ServiceAction.exit 100 0).2 =
      some ⟨100, 0, keptRunning.updateKernel (·.reap 100)⟩ := rfl
  exact exit_never_replaces took (by decide +kernel) []

/-- A replaced instance leaves the list as long as it was. -/
theorem Replaced.length_eq {before after : Services} {key : Ustr} {pid : Nat}
    (replaced : Replaced before key pid after) :
    (after.instances.lookup key).map (·.instances.length) =
      (before.instances.lookup key).map (·.instances.length) := by
  obtain ⟨first, index, exited, last, new, pid', process, process', first_found, -, -, last_found,
    list_eq, -⟩ := replaced.replaced
  rw [first_found, last_found, Option.map_some, Option.map_some, list_eq, List.length_set]

theorem not_replaced_kept :
    (beforeStart keptRunning (loneEnv keptService 101, .exit 100 0)).2 =
        some (.plain "app:worker@static") ∧
      ¬ Replaced keptRunning "app:worker@static" 100
        (serviceStep keptRunning (loneEnv keptService 101, .exit 100 0)) := by
  constructor
  · decide +kernel
  · intro replaced
    exact absurd replaced.length_eq (by decide +kernel)

end Rind
