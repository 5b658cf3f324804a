import Rind.Services.Arming

/-!
# Armed watchdogs

An exit and a stop only terminate timers, and a start only sets new ones.  So as long as
new descriptors are unknown to the resources, each armed one is owned until it is
terminated, whatever passes the event loop makes in between.
-/

namespace Rind

open Runs

/-! ## Operations that end and that begin a timer -/

/-- A descriptor the system may give to a timer of a start. -/
def ServiceEnv.Times (env : ServiceEnv) (fd : Nat) : Prop :=
  ∃ index pid cgroup, env.answer index = .created pid cgroup (some fd)

section Kinds

variable {P : Type}

def ResourceOp.Ends : ResourceOp P → Prop
  | .terminate _ => True
  | _ => False

def ResourceOp.Begins (env : ServiceEnv) (op : ResourceOp P) : Prop :=
  ∃ fd : Nat, env.Times fd ∧ (op = .own fd (.timer fd) ∨ ∃ act, op = .action fd act)

theorem ends_disarm (pid : Nat) (runtime : ServiceRuntime) :
    ∀ op ∈ (disarmOps pid runtime : List (ResourceOp P)), op.Ends := by
  unfold disarmOps
  cases runtime.watchdogPids.lookup pid with
  | none => simp
  | some fd => simp [ResourceOp.Ends]

theorem ends_append {ops others : List (ResourceOp P)} (first : ∀ op ∈ ops, op.Ends)
    (second : ∀ op ∈ others, op.Ends) : ∀ op ∈ ops ++ others, op.Ends := by
  intro op member
  exact (List.mem_append.mp member).elim (first op) (second op)

section Stops

variable {now : Nat} {mode : StopMode} {key user : Option Ustr}

theorem ends_stopServiceInstance (inst : ChildInstance) (host : Host) :
    ∀ op ∈ (stopServiceInstanceOps key user inst host : List (ResourceOp P)), op.Ends := by
  unfold stopServiceInstanceOps
  split
  · cases inst.handle with
    | none => simp
    | some handle => exact ends_disarm handle.pid host.runtime
  · simp

theorem ends_stopEach (insts : List ChildInstance) (host : Host) :
    ∀ op ∈ (stopEachOps now mode key user insts host : List (ResourceOp P)), op.Ends := by
  induction insts generalizing host with
  | nil => simp [stopEachOps]
  | cons inst rest ih => exact ends_append (ends_stopServiceInstance inst host) (ih _)

theorem ends_stopService (index : Option Nat) (service : Service) (host : Host) :
    ∀ op ∈ (stopServiceOps now mode key user index service host : List (ResourceOp P)),
      op.Ends := by
  cases index with
  | none => exact ends_stopEach service.instances host
  | some index =>
      simp only [stopServiceOps]
      cases service.instances[index]? with
      | none => simp
      | some inst => exact ends_stopServiceInstance inst host

theorem ends_stop (env : ServiceEnv) (request : StopRequest) (services : Services) :
    ∀ op ∈ (stopOps env request services : List (ResourceOp P)), op.Ends := by
  unfold stopOps
  cases env.metadata.instantiateOne Service.new "*" request.name services.instances with
  | none => simp
  | some entry => exact ends_stopService request.index entry.2 services.host

end Stops

theorem ends_recordExit (pid : Nat) (services : Services) :
    ∀ op ∈ (recordExitOps pid services : List (ResourceOp P)), op.Ends := by
  unfold recordExitOps
  cases services.host.runtime.pidMap.lookup pid with
  | none => simp
  | some key =>
      dsimp only
      cases services.instances.lookup key with
      | none => simp
      | some service => exact ends_disarm pid _

section Starts

variable [SerdeJson] {insertField : Ustr → Ustr → P → P} {env : ServiceEnv} {service : Service}
  {ctx : Option ServiceBranchContext} {registryKey : Ustr}

theorem begins_spawnProcess (run : RunOption) (index : Nat) (host : Host) :
    ∀ op ∈ spawnProcessOps insertField env service ctx registryKey run (env.answer index) host,
      op.Begins env := by
  unfold spawnProcessOps
  cases prepare env service ctx registryKey run with
  | error error => simp
  | ok launch =>
      dsimp only
      rcases launch.executor.spawn service.metadata launch.isolation ⟨run, launch.user, false⟩
        (env.answer index) host.kernel with ⟨_ | handle, kernel⟩
      · simp
      · dsimp only
        cases setupCgroupForPid launch.isolation (env.answer index) with
        | some error => simp
        | none =>
            dsimp only
            unfold registerOps
            split
            · next pid cgroup fd armed answered =>
                have timed : env.Times fd := ⟨index, pid, cgroup, answered⟩
                intro op member
                rw [armOps, List.mem_cons, List.mem_singleton] at member
                rcases member with rfl | rfl
                · exact ⟨fd, timed, .inl rfl⟩
                · exact ⟨fd, timed, .inr ⟨_, rfl⟩⟩
            · simp

variable [TomlText]

theorem begins_spawnEach (runs : List RunOption) (index : Nat) (host : Host) :
    ∀ op ∈ spawnEachOps insertField env service ctx registryKey runs index host,
      op.Begins env := by
  induction runs generalizing index host with
  | nil => simp [spawnEachOps]
  | cons run rest ih =>
      intro op member
      rw [spawnEachOps] at member
      rcases List.mem_append.mp member with first | others
      · exact begins_spawnProcess _ index host op first
      · split at others
        · cases others
        · exact ih (index + 1) _ op others

theorem begins_start (request : StartRequest) (services : Services) :
    ∀ op ∈ startOps insertField env request services, op.Begins env := by
  unfold startOps
  cases env.metadata.instantiateOne Service.new "*" request.name services.instances with
  | none => simp
  | some entry =>
      dsimp only
      split
      · simp
      · rw [startRequestedOps]
        split
        · simp
        · rw [spawnAllOps]
          split
          · simp
          · exact begins_spawnEach _ _ _

end Starts

end Kinds

/-! ## Armed descriptors -/

/-- Each armed descriptor is owned, and no pass is going to drop it. -/
def Resources.Backs {P : Type} (resources : Resources P) (runtime : ServiceRuntime) : Prop :=
  ∀ fd ∈ runtime.watchdogFds, resources.fd.lookup (fd : RawFd) = some (.timer fd) ∧
    (fd : RawFd) ∉ resources.removedFds

section Backed

variable {P : Type}

/-- A descriptor that is owned, if it is armed. -/
def FdEntry.Backed (fd : Nat) (armed : Prop) (entry : FdEntry P) : Prop :=
  armed → entry.handle = some (.timer fd) ∧ entry.removed = false

theorem backs_iff {resources : Resources P} {runtime : ServiceRuntime} :
    resources.Backs runtime ↔
      ∀ fd : Nat, (resources.entry fd).Backed fd (fd ∈ runtime.watchdogFds) := by
  simp [Resources.Backs, FdEntry.Backed, Resources.entry]

namespace FdEntry

variable {fd : Nat} {armed : Prop} {entry : FdEntry P}

theorem register_handle : entry.register.handle = entry.handle := by
  rw [register]
  split <;> rfl

theorem register_removed : entry.register.removed = entry.removed := by
  rw [register]
  split <;> rfl

/-- Terminated descriptors are not armed. -/
theorem Backed.ends {op : ResourceOp P} (backed : entry.Backed fd armed) (ends : op.Ends) :
    (entry.step fd op).Backed fd (armedStep fd armed op) := by
  cases op with
  | terminate res =>
      rintro ⟨held, apart⟩
      rw [step, if_neg apart]
      exact backed held
  | _ => exact ends.elim

/-- A descriptor that is given to a timer is not about to be dropped. -/
theorem Backed.begins {env : ServiceEnv} {op : ResourceOp P}
    (backed : entry.Backed fd armed ∧ (env.Times fd → entry.removed = false))
    (begins : op.Begins env) :
    (entry.step fd op).Backed fd (armedStep fd armed op) ∧
      (env.Times fd → (entry.step fd op).removed = false) := by
  obtain ⟨backed, fresh⟩ := backed
  obtain ⟨other, timed, rfl | ⟨act, rfl⟩⟩ := begins
  · rw [step]
    split
    · next same =>
        cases Int.natCast_inj.mp same
        exact ⟨fun _ => ⟨rfl, fresh timed⟩, fresh⟩
    · next apart => exact ⟨fun held => backed (held.resolve_left apart), fresh⟩
  · rw [step]
    split
    · simp only [Backed, register_handle, register_removed]
      exact ⟨backed, fresh⟩
    · exact ⟨backed, fresh⟩

/-- What each operation keeps, all do. -/
theorem run_step (keeps : Prop → FdEntry P → Prop) {ops : List (ResourceOp P)}
    (each : ∀ op ∈ ops, ∀ armed entry, keeps armed entry →
      keeps (armedStep fd armed op) (entry.step fd op)) (holds : keeps armed entry) :
    keeps (Runs.run (armedStep fd) armed ops) (Runs.run (FdEntry.step fd) entry ops) := by
  induction ops generalizing armed entry with
  | nil => exact holds
  | cons op rest ih =>
      obtain ⟨first, others⟩ := List.forall_mem_cons.mp each
      exact ih others (first armed entry holds)

end FdEntry

/-- Nothing is terminated where there is nothing. -/
theorem Resources.Clean.ends {resources : Resources P} {fd : RawFd} (clean : resources.Clean fd)
    {ops : List (ResourceOp P)} (ends : ∀ op ∈ ops, op.Ends) :
    (Runs.run resourceStep resources ops).Clean fd := by
  rw [Resources.clean_iff_entry] at clean ⊢
  rw [Resources.entry_run, clean]
  clear clean
  induction ops with
  | nil => rfl
  | cons op rest ih =>
      obtain ⟨first, others⟩ := List.forall_mem_cons.mp ends
      cases op with
      | terminate res =>
          rw [run_cons, FdEntry.step, FdEntry.terminate, if_neg Bool.false_ne_true, ite_self]
          exact ih others
      | _ => exact first.elim

namespace Resources.Backs

variable {resources : Resources P} {before after : ServiceRuntime} {ops : List (ResourceOp P)}

theorem ends (backs : resources.Backs before) (mirrors : Mirrors before after ops)
    (ends : ∀ op ∈ ops, op.Ends) : (Runs.run resourceStep resources ops).Backs after := by
  rw [backs_iff] at backs ⊢
  intro fd
  rw [Resources.entry_run, propext (mirrors.armed_iff fd)]
  apply FdEntry.run_step fun armed entry => entry.Backed fd armed
  · exact fun op member armed entry backed => backed.ends (ends op member)
  · exact backs fd

theorem begins {env : ServiceEnv} (backs : resources.Backs before)
    (mirrors : Mirrors before after ops) (begins : ∀ op ∈ ops, op.Begins env)
    (fresh : ∀ fd, env.Times fd → resources.Clean fd) :
    (Runs.run resourceStep resources ops).Backs after := by
  rw [backs_iff] at backs ⊢
  intro fd
  rw [Resources.entry_run, propext (mirrors.armed_iff fd)]
  refine (FdEntry.run_step (fun armed entry =>
    entry.Backed fd armed ∧ (env.Times fd → entry.removed = false)) ?_ ⟨backs fd, ?_⟩).1
  · exact fun op member armed entry backed => FdEntry.Backed.begins backed (begins op member)
  · exact fun timed => decide_eq_false (fresh fd timed).removed

/-- A pass drops no armed descriptor. -/
theorem pass (backs : resources.Backs before) (accepts : RawFd → EpollFlags → Bool) :
    (resources.pass accepts).Backs before := by
  rw [backs_iff] at backs ⊢
  intro fd armed
  obtain ⟨handle, removed⟩ := backs fd armed
  have kept : (resources.entry fd).removed ≠ true := by
    rw [removed]
    exact Bool.false_ne_true
  rw [Resources.entry_pass, FdEntry.pass, if_neg kept]
  split
  · rw [FdEntry.addUnwatched]
    split
    · exact ⟨handle, removed⟩
    · exact ⟨handle, removed⟩
  · exact ⟨handle, removed⟩

/-- Operations on other descriptors change nothing about the armed ones. -/
theorem spares {op : ResourceOp P} (backs : resources.Backs before)
    (spares : ∀ fd ∈ before.watchdogFds, op.Spares (fd : RawFd)) :
    (resourceStep resources op).Backs before := by
  rw [backs_iff] at backs ⊢
  intro fd armed
  rw [Resources.entry_step, FdEntry.step_of_spares (spares fd armed)]
  exact backs fd armed

end Resources.Backs

end Backed

end Rind
