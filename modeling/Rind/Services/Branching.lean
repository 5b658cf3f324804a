import Rind.Services.Additions
import Rind.Services.Triggers
import Mathlib.Data.Finset.Card

/-!
# Branching services

A branching service has an instance for each branch of a facet.  Here is what
the evaluation of one event does to such a service: it stops the instances of a
removed branch, and starts those that are wanted and not running, as far as the
maximum allows.
-/

namespace Rind

open Prog

/-! ## Branch keys -/

namespace Service

/-- The branch keys that an instance is running for. -/
def runningKeys (service : Service) : Finset Ustr :=
  ((service.instances.filter (·.state.isRunning)).map ChildInstance.key).toFinset

variable {service : Service} {key : Ustr}

theorem mem_runningKeys :
    key ∈ service.runningKeys ↔
      ∃ inst ∈ service.instances, inst.state.isRunning ∧ inst.key = key := by
  simp [runningKeys, and_assoc]

theorem runsBranch_iff : service.runsBranch key ↔ key ∈ service.runningKeys := by
  rw [mem_runningKeys, runsBranch, List.any_eq_true]
  simp only [Bool.and_eq_true, beq_iff_eq]
  exact exists_congr fun inst => and_congr_right fun _ => And.comm

/-- There is an instance for each key. -/
theorem card_runningKeys_le (service : Service) :
    service.runningKeys.card ≤ service.instances.length :=
  calc service.runningKeys.card
      ≤ ((service.instances.filter (·.state.isRunning)).map ChildInstance.key).length :=
        List.toFinset_card_le _
    _ ≤ service.instances.length := by
        rw [List.length_map]
        exact List.length_filter_le ..

end Service

section Wanted

variable [SerdeJson]

/-- The keys of the branches in the graph that the lists admit. -/
def wantedKeys (facets : Facets) (heap : VariableHeap) (branching : BranchingConfig) : List Ustr :=
  ((facets.instances branching.source).filterMap fun branch =>
    branchKeyFromPayload branch.payload branching.key).filter (branching.admits facets heap)

/-- The branches that would be started if there were no maximum. -/
def branchCandidates (env : ServiceEnv) (branching : BranchingConfig) (service : Service)
    (branches : List FlowInstance) : List ServiceBranchContext :=
  branches.filterMap fun branch =>
    (branchKeyFromPayload branch.payload branching.key).bind fun key =>
      if service.runsBranch key || !branching.admits env.facets env.heap key then none
      else some ⟨some key, some branch.payload, none⟩

variable {env : ServiceEnv} {branching : BranchingConfig} {service : Service}

/-- The maximum cuts the candidates off. -/
theorem branchStarts_eq (branches : List FlowInstance) (started : Nat) :
    branchStarts env branching service branches started =
      match branching.maxInstances with
      | none => branchCandidates env branching service branches
      | some max =>
          if max ≤ service.instances.length then []
          else (branchCandidates env branching service branches).take (max - started) := by
  induction branches generalizing started with
  | nil => cases branching.maxInstances <;> simp [branchStarts, branchCandidates]
  | cons branch rest ih =>
      rw [branchStarts, branchCandidates, List.filterMap_cons]
      cases key : branchKeyFromPayload branch.payload branching.key with
      | none => exact ih started
      | some key =>
          rw [Option.bind_some]
          dsimp only
          split
          · exact ih started
          · next wanted =>
              cases limit : branching.maxInstances with
              | none => simp [ih, limit, branchCandidates]
              | some max =>
                  simp only [Option.any_some, Bool.or_eq_true, decide_eq_true_eq]
                  by_cases full : max ≤ service.instances.length
                  · simp [full]
                  · by_cases enough : max ≤ started
                    · simp [full, enough, Nat.sub_eq_zero_of_le enough]
                    · have room : max - started = max - (started + 1) + 1 := by omega
                      simp [full, enough, ih, limit, room, List.take_succ_cons,
                        branchCandidates]

/-- The keys of the candidates are the admitted ones that no instance is running
for. -/
theorem keys_branchCandidates (branches : List FlowInstance) :
    (branchCandidates env branching service branches).map (·.key.getD "") =
      ((branches.filterMap fun branch =>
        branchKeyFromPayload branch.payload branching.key).filter
          (branching.admits env.facets env.heap)).filter (· ∉ service.runningKeys) := by
  induction branches with
  | nil => rfl
  | cons branch rest ih =>
      rw [branchCandidates] at ih ⊢
      rw [List.filterMap_cons, List.filterMap_cons]
      cases named : branchKeyFromPayload branch.payload branching.key with
      | none => exact ih
      | some key =>
          simp only [Option.bind_some, List.filter_cons]
          by_cases admitted : branching.admits env.facets env.heap key
          · rw [if_pos admitted, List.filter_cons]
            by_cases running : key ∈ service.runningKeys
            · rw [Service.runsBranch_iff.mpr running, Bool.true_or, if_pos rfl,
                if_neg (by simpa using running)]
              exact ih
            · have idle : service.runsBranch key = false :=
                eq_false_of_ne_true fun runs => running (Service.runsBranch_iff.mp runs)
              rw [idle, admitted, Bool.not_true, Bool.or_false, if_neg Bool.false_ne_true,
                if_pos (decide_eq_true running), List.map_cons]
              exact congrArg (key :: ·) ih
          · rw [if_neg admitted, eq_false_of_ne_true admitted, Bool.not_false, Bool.or_true,
              if_pos rfl]
            exact ih

end Wanted

/-! ## Stopping -/

/-- The instance is of the branch. -/
theorem ChildInstance.concerns_key {key : Ustr} {inst : ChildInstance} :
    inst.concerns (some key) none ↔ inst.key = key := by
  simp [concerns]

section Stops

variable [SerdeJson]

/-- The key of a removed branch. -/
def EmitTrigger.removedKey (branching : BranchingConfig) (trigger : EmitTrigger) : Option Ustr :=
  match trigger.action, trigger.event with
  | .revert, some event =>
      if event.name = branching.source then branchKeyFromPayload event.payload branching.key
      else none
  | _, _ => none

/-- The key that the removal of a branch stops the instances of: none where the
branches of the service have no key field. -/
def EmitTrigger.revertedKey (branching : BranchingConfig) (trigger : EmitTrigger) : Option Ustr :=
  if branching.key.isSome then trigger.removedKey branching else none

variable {env : ServiceEnv} {branching : BranchingConfig} {service : Service}
  {trigger : EmitTrigger} {host : Host}

/-- The removed key, once for each of its running instances. -/
theorem revertedKeys_eq :
    service.revertedKeys branching trigger =
      match trigger.revertedKey branching with
      | some key => (service.instances.filter fun inst =>
          inst.state.isRunning && inst.key == key).map fun _ => key
      | none => [] := by
  rw [Service.revertedKeys, EmitTrigger.revertedKey, EmitTrigger.removedKey]
  cases trigger.action with
  | apply => cases branching.key <;> rfl
  | revert =>
      cases trigger.event with
      | none => cases branching.key <;> rfl
      | some event =>
          dsimp only
          rw [← ite_and]
          split
          · cases branchKeyFromPayload event.payload branching.key with
            | none => simp
            | some key =>
                dsimp only
                have same : ∀ inst : ChildInstance,
                    (some key == some inst.key) = (inst.key == key) := by
                  intro inst
                  rw [Bool.eq_iff_iff, beq_iff_eq, beq_iff_eq, Option.some_inj]
                  exact eq_comm
                simp only [same]
                apply List.map_congr_left
                intro inst member
                have matching := (List.mem_filter.mp member).2
                rw [Bool.and_eq_true, beq_iff_eq] at matching
                exact matching.2
          · rfl

/-- The service after the removal of a branch: its instances are stopped, and their
processes signalled. -/
structure StopsBranch (key : Ustr) (service : Service) (host : Host) (stopped : Service)
    (final : Host) : Prop where
  metadata : stopped.metadata = service.metadata
  instances : stopped.instances = service.instances.map (·.stopped (some key) none)
  signals : ∃ new, final.kernel.signals = host.kernel.signals ++ new ∧
    ∀ inst ∈ service.instances, inst.key = key → ∀ pid, inst.pid = some pid →
      ∃ sent ∈ new, sent.pid = pid ∧ sent.signal = .sigterm

omit [SerdeJson] in
/-- Stopping a branch once. -/
theorem stopsBranch_stopService (now : Nat) (key : Ustr) (service : Service) (host : Host) :
    StopsBranch key service host
      (stopService now .graceful (some key) none none service host).1
      (stopService now .graceful (some key) none none service host).2 := by
  obtain ⟨lastState, stopped⟩ := stopService_eq now .graceful (some key) none none service host
  rw [stopped]
  obtain ⟨new, signals, pids, modes⟩ :=
    signals_stopProcesses now .graceful (service.stoppedPids (some key) none none) host
  refine ⟨rfl, rfl, new, signals, ?_⟩
  intro inst member same pid held
  have told : pid ∈ new.map SentSignal.pid := by
    rw [pids]
    refine List.mem_filterMap.mpr ⟨inst, member, ?_⟩
    rw [ChildInstance.stoppedPid, if_pos (ChildInstance.concerns_key.mpr same)]
    exact held
  obtain ⟨sent, inside, same⟩ := List.mem_map.mp told
  exact ⟨sent, inside, same, modes sent inside⟩

omit [SerdeJson] in
theorem StopsBranch.trans {key : Ustr} {middle last : Service} {between final : Host}
    (first : StopsBranch key service host middle between)
    (second : StopsBranch key middle between last final) :
    StopsBranch key service host last final := by
  obtain ⟨new, signals, told⟩ := first.signals
  obtain ⟨more, signals', -⟩ := second.signals
  refine ⟨second.metadata.trans first.metadata, ?_, new ++ more, ?_, ?_⟩
  · rw [second.instances, first.instances, List.map_map]
    exact List.map_congr_left fun inst _ => ChildInstance.stopped_stopped _ _ inst
  · rw [signals', signals, List.append_assoc]
  · intro inst member same pid held
    obtain ⟨sent, inside, about⟩ := told inst member same pid held
    exact ⟨sent, List.mem_append_left _ inside, about⟩

/-- What an event stops of a branching service. -/
inductive StopOutcome (branching : BranchingConfig) (trigger : EmitTrigger) (service : Service)
    (host : Host) : Service × Host → Prop where
  | kept (idle : ∀ key ∈ trigger.revertedKey branching, key ∉ service.runningKeys) :
      StopOutcome branching trigger service host (service, host)
  | stopped (key : Ustr) (reverted : trigger.revertedKey branching = some key)
      (running : key ∈ service.runningKeys) (after : Service) (final : Host)
      (stops : StopsBranch key service host after final) :
      StopOutcome branching trigger service host (after, final)

theorem stopTriggered_cases (branches : service.metadata.branching = some branching) :
    StopOutcome branching trigger service host (stopTriggered env trigger service host) := by
  simp only [stopTriggered, branches, revertedKeys_eq]
  cases reverted : trigger.revertedKey branching with
  | none =>
      rw [List.foldl_nil]
      exact .kept (by simp [reverted])
  | some key =>
      dsimp only
      cases matching : service.instances.filter fun inst =>
          inst.state.isRunning && inst.key == key with
      | nil =>
          refine .kept fun other asked running => ?_
          obtain rfl := Option.some.inj (reverted.symm.trans asked)
          obtain ⟨inst, member, state, same⟩ := Service.mem_runningKeys.mp running
          exact List.filter_eq_nil_iff.mp matching inst member (by simp [state, same])
      | cons first rest =>
          have member : first ∈ service.instances.filter fun inst =>
              inst.state.isRunning && inst.key == key := by
            rw [matching]
            exact List.mem_cons_self
          obtain ⟨inside, about⟩ := List.mem_filter.mp member
          rw [Bool.and_eq_true, beq_iff_eq] at about
          have running : key ∈ service.runningKeys :=
            Service.mem_runningKeys.mpr ⟨first, inside, about.1, about.2⟩
          rw [List.map_cons, List.foldl_cons]
          -- what is told again has been told
          have again {middle : Service} {between : Host}
              (told : StopsBranch key service host middle between) :
              StopsBranch key service host
                ((rest.map fun _ => key).foldl (fun stopped key =>
                  stopService env.now .graceful (some key) none none stopped.1 stopped.2)
                  (middle, between)).1
                ((rest.map fun _ => key).foldl (fun stopped key =>
                  stopService env.now .graceful (some key) none none stopped.1 stopped.2)
                  (middle, between)).2 := by
            clear matching member
            induction rest generalizing middle between with
            | nil => exact told
            | cons other rest ih =>
                rw [List.map_cons, List.foldl_cons]
                exact ih (told.trans (stopsBranch_stopService ..))
          exact .stopped key reverted running _ _ (again (stopsBranch_stopService ..))

end Stops

end Rind
