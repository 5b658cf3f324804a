import Rind.Core.Resources
import Rind.Services.Steps

/-!
# Timers of watchdogs

A watchdog's timer is a descriptor that the resources own.  What the functions of the
runtime do with the resources is said here as the operations they make, in order.  They
follow the table of the armed descriptors: one that is owned is armed, and one that is
terminated is not.
-/

namespace Rind

open Runs

section Operations

variable {P : Type} (insertField : Ustr → Ustr → P → P)

/-- What the event loop dispatches when a timer expires. -/
def expiryAction (binding : WatchdogBinding) : ResourceAction P where
  runtime := "services"
  action := "watchdog_expired"
  payload := some fun payload =>
    let payload := insertField "service_key" binding.serviceKey payload
    match binding.branch with
    | some branch => insertField "branch" branch payload
    | none => payload

/-- The operations of `arm_watchdog_timer`. -/
def armOps (fd : Nat) (binding : WatchdogBinding) : List (ResourceOp P) :=
  [.own fd (.timer fd), .action fd (expiryAction insertField binding)]

/-- The operations of `disarm_watchdog_pid`. -/
def disarmOps (pid : Nat) (runtime : ServiceRuntime) : List (ResourceOp P) :=
  match runtime.watchdogPids.lookup pid with
  | some fd => [.terminate fd]
  | none => []

def registerOps (metadata : ServiceMetadata) (registryKey : Ustr) (branch user : Option Ustr)
    (pid : Nat) (answer : SpawnAnswer) : List (ResourceOp P) :=
  match metadata.watchdog, answer with
  | some _, .created _ _ (some fd) =>
      armOps insertField fd { serviceKey := registryKey, branch, user, pid }
  | _, _ => []

section Spawning

variable [SerdeJson]

def spawnProcessOps (env : ServiceEnv) (service : Service) (ctx : Option ServiceBranchContext)
    (registryKey : Ustr) (run : RunOption) (answer : SpawnAnswer) (host : Host) :
    List (ResourceOp P) :=
  match prepare env service ctx registryKey run with
  | .error _ => []
  | .ok launch =>
      match launch.executor.spawn service.metadata launch.isolation ⟨run, launch.user, false⟩
          answer host.kernel with
      | (.error _, _) => []
      | (.ok handle, _) =>
          match setupCgroupForPid launch.isolation answer with
          | some _ => []
          | none =>
              registerOps insertField service.metadata registryKey (ctx.bind (·.key))
                launch.user handle.pid answer

variable [TomlText]

def spawnEachOps (env : ServiceEnv) (service : Service) (ctx : Option ServiceBranchContext)
    (registryKey : Ustr) :
    (runs : List RunOption) → (index : Nat) → Host → List (ResourceOp P)
  | [], _, _ => []
  | run :: rest, index, host =>
      let run := (resolveRunOption env.heap run).getD run
      spawnProcessOps insertField env service ctx registryKey run (env.answer index) host ++
        match spawnProcess env service ctx registryKey run (env.answer index) host with
        | (.error _, _) => []
        | (.ok _, host) => spawnEachOps env service ctx registryKey rest (index + 1) host

def spawnAllOps (env : ServiceEnv) (service : Service) (ctx : Option ServiceBranchContext)
    (registryKey : Ustr) (host : Host) : List (ResourceOp P) :=
  if isInactive env.facets registryKey then []
  else spawnEachOps insertField env service ctx registryKey service.metadata.run.asMany 0 host

/-- The operations of a start, by whichever of its three ways. -/
def startRequestedOps (env : ServiceEnv) (request : StartRequest) (service : Service)
    (host : Host) : List (ResourceOp P) :=
  if request.held service then []
  else spawnAllOps insertField env service request.context (ensureScopedName request.name) host

def startOps (env : ServiceEnv) (request : StartRequest) (services : Services) :
    List (ResourceOp P) :=
  match env.metadata.instantiateOne Service.new "*" request.name services.instances with
  | none => []
  | some (_, service) =>
      if !request.deferred && service.metadata.registersTransport then []
      else startRequestedOps insertField env request service services.host

end Spawning

def stopServiceInstanceOps (key user : Option Ustr) (inst : ChildInstance) (host : Host) :
    List (ResourceOp P) :=
  if inst.concerns key user then
    match inst.handle with
    | some handle => disarmOps handle.pid host.runtime
    | none => []
  else []

def stopEachOps (now : Nat) (mode : StopMode) (key user : Option Ustr) :
    List ChildInstance → Host → List (ResourceOp P)
  | [], _ => []
  | inst :: rest, host =>
      stopServiceInstanceOps key user inst host ++
        stopEachOps now mode key user rest (stopServiceInstance now mode key user inst host).2

def stopServiceOps (now : Nat) (mode : StopMode) (key user : Option Ustr) (index : Option Nat)
    (service : Service) (host : Host) : List (ResourceOp P) :=
  match index with
  | some index =>
      match service.instances[index]? with
      | some inst => stopServiceInstanceOps key user inst host
      | none => []
  | none => stopEachOps now mode key user service.instances host

def stopOps (env : ServiceEnv) (request : StopRequest) (services : Services) :
    List (ResourceOp P) :=
  match env.metadata.instantiateOne Service.new "*" request.name services.instances with
  | none => []
  | some (_, service) =>
      stopServiceOps env.now request.mode none request.onlyUser request.index service services.host

/-- The operations of `child_exited` before it restarts. -/
def recordExitOps (pid : Nat) (services : Services) : List (ResourceOp P) :=
  match services.host.runtime.pidMap.lookup pid with
  | none => []
  | some key =>
      match services.instances.lookup key with
      | none => []
      | some _ => disarmOps pid (services.host.runtime.forget pid)

variable [SerdeJson] [TomlText]

def childExitedOps (env : ServiceEnv) (pid : Nat) (code : Int) (services : Services) :
    List (ResourceOp P) :=
  recordExitOps pid services ++
    match recordExit pid code services with
    | (services, some (key, .restart)) => startOps insertField env (.plain key) services
    | _ => []

def watchdogExpiredOps (env : ServiceEnv) (fd : Nat) (services : Services) :
    List (ResourceOp P) :=
  match services.host.runtime.watchdogFds.lookup fd with
  | none => []
  | some binding =>
      let name := instanceKeyName binding.serviceKey
      let services := services.updateRuntime (·.dropWatchdog fd binding.pid)
      .terminate fd ::
        match watchdogAction env binding with
        | .signal => []
        | .stop => stopOps env (watchdogStop name) services
        | .restart =>
            stopOps env (watchdogStop name) services ++
              match stop env (watchdogStop name) services with
              | (.error _, _) => []
              | (.ok (), services) => startOps insertField env (.plain name) services

end Operations

/-! ## Operations and the table -/

section Mirrors

variable {P : Type}

/-- Whether a descriptor is armed after an operation. -/
def armedStep (fd : Nat) (armed : Prop) : ResourceOp P → Prop
  | .own res _ => (fd : RawFd) = res ∨ armed
  | .terminate res => armed ∧ (fd : RawFd) ≠ res
  | _ => armed

/-- An armed descriptor stays so where it is not terminated. -/
theorem armed_run {fd : Nat} {armed : Prop} (holds : armed) {ops : List (ResourceOp P)}
    (spared : ResourceOp.terminate (fd : RawFd) ∉ ops) : Runs.run (armedStep fd) armed ops := by
  induction ops generalizing armed with
  | nil => exact holds
  | cons op rest ih =>
      obtain ⟨first, others⟩ := not_or.mp (mt List.mem_cons.mpr spared)
      refine ih ?_ others
      cases op with
      | own res loc => exact .inr holds
      | terminate res =>
          refine ⟨holds, ?_⟩
          rintro rfl
          exact first rfl
      | action | registerResource | watch | pause | resume | flag | pass => exact holds

/-- The operations arm and terminate what comes into the table and leaves it. -/
structure Mirrors (before after : ServiceRuntime) (ops : List (ResourceOp P)) : Prop where
  armed_iff : ∀ fd, fd ∈ after.watchdogFds ↔ Runs.run (armedStep fd) (fd ∈ before.watchdogFds) ops

namespace Mirrors

variable {before middle after : ServiceRuntime} {ops others : List (ResourceOp P)}

theorem same (kept : after.watchdogFds = before.watchdogFds) :
    Mirrors before after ([] : List (ResourceOp P)) := by
  constructor
  intro fd
  rw [kept]
  rfl

theorem trans (first : Mirrors before middle ops) (second : Mirrors middle after others) :
    Mirrors before after (ops ++ others) := by
  constructor
  intro fd
  rw [second.armed_iff, run_append, propext (first.armed_iff fd)]

theorem arm (insertField : Ustr → Ustr → P → P) (fd : Nat) (binding : WatchdogBinding)
    (after_eq : after.watchdogFds = before.watchdogFds.insert fd binding) :
    Mirrors before after (armOps insertField fd binding) := by
  constructor
  intro other
  rw [after_eq, AList.mem_insert]
  simp [armOps, armedStep, Int.natCast_inj]

theorem terminate (fd : Nat) (after_eq : after.watchdogFds = before.watchdogFds.erase fd) :
    Mirrors before after ([.terminate fd] : List (ResourceOp P)) := by
  constructor
  intro other
  rw [after_eq, AList.mem_erase]
  simp [armedStep, Int.natCast_inj, and_comm]

theorem disarm (pid : Nat) (runtime : ServiceRuntime) :
    Mirrors runtime (runtime.disarmWatchdogPid pid)
      (disarmOps pid runtime : List (ResourceOp P)) := by
  unfold ServiceRuntime.disarmWatchdogPid disarmOps
  cases runtime.watchdogPids.lookup pid with
  | none => exact same rfl
  | some fd => exact terminate fd rfl

/-- A descriptor leaves the table only where it is terminated. -/
theorem armed (mirrors : Mirrors before after ops) {fd : Nat} (armed : fd ∈ before.watchdogFds)
    (spared : ResourceOp.terminate (fd : RawFd) ∉ ops) : fd ∈ after.watchdogFds :=
  (mirrors.armed_iff fd).mpr (armed_run armed spared)

end Mirrors

section Functions

variable [SerdeJson] (insertField : Ustr → Ustr → P → P) (env : ServiceEnv) (service : Service)
  (ctx : Option ServiceBranchContext) (registryKey : Ustr)

omit [SerdeJson] in
theorem mirrors_registerProcess (metadata : ServiceMetadata) (branch user : Option Ustr)
    (pid : Nat) (answer : SpawnAnswer) (runtime : ServiceRuntime) :
    Mirrors runtime (registerProcess metadata registryKey branch user pid answer runtime)
      (registerOps insertField metadata registryKey branch user pid answer) := by
  unfold registerProcess registerOps
  cases metadata.watchdog with
  | none => exact .same rfl
  | some watchdog =>
      cases answer with
      | refused error | abandoned pid error => exact .same rfl
      | created number cgroup timer =>
          cases timer with
          | none => exact .same rfl
          | some fd =>
              exact .arm insertField fd { serviceKey := registryKey, branch, user, pid } rfl

theorem mirrors_spawnProcess (run : RunOption) (answer : SpawnAnswer) (host : Host) :
    Mirrors host.runtime (spawnProcess env service ctx registryKey run answer host).2.runtime
      (spawnProcessOps insertField env service ctx registryKey run answer host) := by
  unfold spawnProcess spawnProcessOps
  cases prepare env service ctx registryKey run with
  | error error => exact .same rfl
  | ok launch =>
      dsimp only
      rcases launch.executor.spawn service.metadata launch.isolation ⟨run, launch.user, false⟩
        answer host.kernel with ⟨_ | handle, kernel⟩
      · exact .same rfl
      · dsimp only
        cases setupCgroupForPid launch.isolation answer with
        | some error => exact .same rfl
        | none => exact mirrors_registerProcess ..

variable [TomlText]

theorem mirrors_spawnEach (runs : List RunOption) (index : Nat) (host : Host) :
    Mirrors host.runtime (spawnEach env service ctx registryKey runs index host).2.runtime
      (spawnEachOps insertField env service ctx registryKey runs index host) := by
  induction runs generalizing index host with
  | nil => exact .same rfl
  | cons run rest ih =>
      have first := mirrors_spawnProcess insertField env service ctx registryKey
        ((resolveRunOption env.heap run).getD run) (env.answer index) host
      rw [spawnEach, spawnEachOps]
      generalize spawnProcess env service ctx registryKey _ (env.answer index) host = result
        at first ⊢
      obtain ⟨_ | inst, middle⟩ := result
      · exact first.trans (.same rfl)
      · have others := ih (index + 1) middle
        dsimp only
        generalize spawnEach env service ctx registryKey rest (index + 1) middle = spawned
          at others ⊢
        obtain ⟨_ | insts, final⟩ := spawned
        · exact first.trans others
        · exact first.trans others

theorem mirrors_spawnAll (host : Host) :
    Mirrors host.runtime (spawnAll env service ctx registryKey host).2.runtime
      (spawnAllOps insertField env service ctx registryKey host) := by
  rw [spawnAll, spawnAllOps]
  split
  · exact .same rfl
  · exact mirrors_spawnEach ..

theorem mirrors_start (request : StartRequest) (services : Services) :
    Mirrors services.host.runtime (start env request services).2.host.runtime
      (startOps insertField env request services) := by
  have step : StartStep env request services (start env request services).2 :=
    start_cases services
  generalize (start env request services).2 = final at step
  rw [startOps]
  cases step with
  | missing absent =>
      rw [absent]
      exact .same rfl
  | postponed key service found later =>
      simp only [found, later.1, later.2, Bool.not_false, Bool.and_self, if_true]
      exact .same rfl
  | tried key service service' last found now outcome =>
      have tried : (!request.deferred && service.metadata.registersTransport) = false := by
        rcases now with deferred | plain
        · rw [deferred, Bool.not_true, Bool.false_and]
        · rw [plain, Bool.and_false]
      simp only [found, tried, startRequestedOps]
      cases outcome with
      | held running =>
          simp only [running, if_true]
          exact .same rfl
      | started free insts last spawned | failed free error last lastState spawned =>
          have mirrors := mirrors_spawnAll insertField env service request.context
            (ensureScopedName request.name) services.host
          rw [spawned] at mirrors
          simpa only [free, Bool.false_eq_true, if_false] using mirrors

end Functions

section Stops

variable {now : Nat} {mode : StopMode} {key user : Option Ustr}

theorem mirrors_stopServiceInstance (inst : ChildInstance) (host : Host) :
    Mirrors host.runtime (stopServiceInstance now mode key user inst host).2.runtime
      (stopServiceInstanceOps key user inst host : List (ResourceOp P)) := by
  unfold stopServiceInstance stopServiceInstanceOps
  split
  · cases inst.handle with
    | none => exact .same rfl
    | some handle => exact ⟨(Mirrors.disarm handle.pid host.runtime).armed_iff⟩
  · exact .same rfl

theorem mirrors_stopEach (insts : List ChildInstance) (host : Host) :
    Mirrors host.runtime (stopEach now mode key user insts host).2.runtime
      (stopEachOps now mode key user insts host : List (ResourceOp P)) := by
  induction insts generalizing host with
  | nil => exact .same rfl
  | cons inst rest ih => exact (mirrors_stopServiceInstance inst host).trans (ih _)

theorem stopAt_host (index : Nat) (insts : List ChildInstance) (host : Host) :
    (stopAt now mode key user index insts host).2 =
      match insts[index]? with
      | some inst => (stopServiceInstance now mode key user inst host).2
      | none => host := by
  induction insts generalizing index with
  | nil => cases index <;> rfl
  | cons inst rest ih =>
      cases index with
      | zero => rfl
      | succ index => simpa [stopAt] using ih index

theorem mirrors_stopService (index : Option Nat) (service : Service) (host : Host) :
    Mirrors host.runtime (stopService now mode key user index service host).2.runtime
      (stopServiceOps now mode key user index service host : List (ResourceOp P)) := by
  cases index with
  | none => exact mirrors_stopEach ..
  | some index =>
      simp only [stopService, stopServiceOps, stopAt_host]
      cases service.instances[index]? with
      | none => exact .same rfl
      | some inst => exact mirrors_stopServiceInstance inst host

theorem mirrors_stop (env : ServiceEnv) (request : StopRequest) (services : Services) :
    Mirrors services.host.runtime (stop env request services).2.host.runtime
      (stopOps env request services : List (ResourceOp P)) := by
  rw [stop, stopOps]
  cases env.metadata.instantiateOne Service.new "*" request.name services.instances with
  | none => exact .same rfl
  | some entry => exact mirrors_stopService request.index entry.2 services.host

end Stops

/-! ## Exits and expiries -/

theorem mirrors_recordExit (pid : Nat) (code : Int) (services : Services) :
    Mirrors services.host.runtime (recordExit pid code services).1.host.runtime
      (recordExitOps pid services : List (ResourceOp P)) := by
  have forgotten : Mirrors services.host.runtime
      ((services.host.runtime.forget pid).disarmWatchdogPid pid)
      (disarmOps pid (services.host.runtime.forget pid) : List (ResourceOp P)) :=
    (Mirrors.same rfl : Mirrors services.host.runtime (services.host.runtime.forget pid)
      ([] : List (ResourceOp P))).trans (.disarm pid _)
  have step := recordExit_cases pid code services
  generalize recordExit pid code services = result at step
  rw [recordExitOps]
  cases step with
  | unknown noted =>
      rw [noted]
      exact .same rfl
  | unregistered key noted absent =>
      simp only [noted, absent]
      exact .same rfl
  | unheld key service noted found without =>
      simp only [noted, found]
      exact forgotten
  | handled key service index inst noted found position at_ =>
      simp only [noted, found]
      exact forgotten

section Steps

variable [SerdeJson] [TomlText] (insertField : Ustr → Ustr → P → P) (env : ServiceEnv)

theorem mirrors_childExited (pid : Nat) (code : Int) (services : Services) :
    Mirrors services.host.runtime (childExited env pid code services).2.host.runtime
      (childExitedOps insertField env pid code services) := by
  have recorded := mirrors_recordExit (P := P) pid code services
  rw [childExited, childExitedOps]
  generalize recordExit pid code services = result at recorded ⊢
  rcases result with ⟨middle, _ | ⟨key, _ | _⟩⟩
  · exact recorded.trans (.same rfl)
  · exact recorded.trans (mirrors_start ..)
  · exact recorded.trans (.same rfl)

theorem mirrors_watchdogExpired (fd : Nat) (services : Services) :
    Mirrors services.host.runtime (watchdogExpired env fd services).2.host.runtime
      (watchdogExpiredOps insertField env fd services) := by
  rw [watchdogExpired, watchdogExpiredOps]
  cases services.host.runtime.watchdogFds.lookup fd with
  | none => exact .same rfl
  | some binding =>
      have dropped : Mirrors services.host.runtime
          (services.host.runtime.dropWatchdog fd binding.pid)
          ([.terminate fd] : List (ResourceOp P)) := .terminate fd rfl
      have stopped := mirrors_stop (P := P) env (watchdogStop (instanceKeyName binding.serviceKey))
        (services.updateRuntime (·.dropWatchdog fd binding.pid))
      dsimp only
      rw [← List.singleton_append]
      cases watchdogAction env binding with
      | signal => exact dropped.trans (.same rfl)
      | stop => exact dropped.trans stopped
      | restart =>
          dsimp only
          generalize stop env _ _ = result at stopped ⊢
          obtain ⟨_ | _, middle⟩ := result
          · exact dropped.trans (stopped.trans (.same rfl))
          · exact dropped.trans (stopped.trans (mirrors_start ..))

end Steps

end Mirrors

end Rind
