import Rind.Flow.Reach

/-!
# Kept branches

A remove call takes the whole entry of its facet out of the graph, carries the
removal on, and puts the kept branches back at the end.  Whatever the cascade
stored under the name in between is overwritten.  So the kept branches and the
cascade's are all there afterwards exactly if one of the two is empty, which is
sure wherever the facet does not depend on itself.
-/

namespace Rind

open Prog

/-! ## Putting the kept branches back -/

section Kept

variable [SerdeJson] [TomlText] {env : FlowEnv}

/-- The branches of a facet that a filter keeps. -/
def keptBranches (name : Ustr) (filter : Option FlowMatchOperation) (state : FlowState) :
    List FlowInstance :=
  (state.facets.instances name).filter (!removes filter ·)

/-- The cascade of a remove call, before the kept branches are put back. -/
noncomputable def removeCascade (env : FlowEnv) (name : Ustr)
    (filter : Option FlowMatchOperation) : FlowProg Unit := fun state =>
  each ((state.facets.instances name).filter (removes filter)) (revertBranch env (exec env) name)
    ((state.record (.removeFacet name filter)).take name)

/-- The cascade as the bounded routine computes it. -/
theorem removeCascade_of_run {depth : Nat} {name : Ustr} {filter : Option FlowMatchOperation}
    {state : FlowState} {outcome : Except CoreError Unit × FlowState}
    (ran : each ((state.facets.instances name).filter (removes filter))
      (revertBranch env (run env depth) name)
        ((state.record (.removeFacet name filter)).take name) = some outcome) :
    removeCascade env name filter state = some outcome :=
  Below.each _ (revertBranch_below (iterate_below_fixpoint (flowBody_monotone env) depth) name)
    _ _ ran

/-- A remove call runs its cascade, then puts the kept branches back. Where there
is no entry there is nothing to do. -/
theorem exec_removeFacet {name : Ustr} {filter : Option FlowMatchOperation}
    {state final : FlowState} {result : Except CoreError Unit}
    (ran : exec env (.removeFacet name filter) state = some (result, final)) :
    (state.facets.lookup name = none ∧ final = state.record (.removeFacet name filter)) ∨
      ∃ middle, removeCascade env name filter state = some (.ok (), middle) ∧
        final = putBack name (keptBranches name filter state) middle := by
  have ok := exec_removeFacet_ok ran
  rw [exec_eq] at ran
  cases removeFacet_cases ran with
  | absent missing => exact .inl ⟨missing, rfl⟩
  | failed branches found err _ cascade => cases ok
  | done branches found middle cascade =>
      have stored : state.facets.instances name = branches := by
        rw [Facets.instances]
        exact congrArg (Option.getD · []) found
      refine .inr ⟨middle, ?_, ?_⟩
      · rw [removeCascade, stored]
        exact cascade
      · rw [keptBranches, stored]

/-- A name that a chain of dependencies leads to, starting with the facets that
depend on the instances stored under the first one. -/
def DependsOnItself (env : FlowEnv) (state : FlowState) (name : Ustr) : Prop :=
  Relation.TransGen (fun source target => target ∈ dependents env source ∨
    ∃ branch ∈ state.facets.instances source, target ∈ dependents env branch.name) name name

/-- The cascade of a remove call stores nothing under a name that does not depend
on itself. -/
theorem removeCascade_instances {name : Ustr} {filter : Option FlowMatchOperation}
    {state middle : FlowState} {result : Except CoreError Unit}
    (acyclic : ¬ DependsOnItself env state name)
    (ran : removeCascade env name filter state = some (result, middle)) :
    middle.facets.instances name = [] := by
  let edge := fun source target => target ∈ dependents env source ∨
    ∃ branch ∈ state.facets.instances source, target ∈ dependents env branch.name
  have closed : ∀ source, Relation.TransGen edge name source →
      ∀ dependent ∈ dependents env source, Relation.TransGen edge name dependent :=
    fun source reached dependent listed => reached.tail (.inl listed)
  have invariant := frame_invariant closed
  have within : Named (fun source stored => Relation.TransGen edge name source →
      ∀ dependent ∈ dependents env stored, Relation.TransGen edge name dependent)
      ((state.record (.removeFacet name filter)).take name) := by
    intro source branch stored reached dependent listed
    refine reached.tail (.inr ⟨branch, ?_, listed⟩)
    by_cases same : source = name
    · subst same
      simp at stored
    · rwa [FlowState.take_facets, Facets.instances_erase_of_ne _ same] at stored
  have rounds := invariant.rule.each
    fun branch (member : branch ∈ (state.facets.instances name).filter (removes filter)) =>
      invariant.revertBranch_within name branch fun c spawned => invariant.exec_within
        (.single (.inr ⟨branch, List.mem_of_mem_filter member, spawned.name_mem⟩))
  obtain ⟨-, frame⟩ := rounds _ within _ _ ran
  rw [frame name acyclic, FlowState.take_facets, Facets.instances_erase_self]

omit [SerdeJson] [TomlText] in
/-- Putting branches back keeps them and what was stored meanwhile exactly if one
of the two is empty. -/
theorem putBack_perm_iff (name : Ustr) (kept : List FlowInstance) (middle : FlowState) :
    ((putBack name kept middle).facets.instances name).Perm
        (kept ++ middle.facets.instances name) ↔
      kept = [] ∨ middle.facets.instances name = [] := by
  cases kept with
  | nil => simp [putBack]
  | cons branch rest =>
      have stored : (putBack name (branch :: rest) middle).facets.instances name =
          branch :: rest := by
        rw [putBack, if_neg (by simp), FlowState.put_facets, Facets.instances_insert_self]
      rw [stored]
      constructor
      · intro same
        have lengths := same.length_eq
        rw [List.length_append] at lengths
        exact .inr (List.eq_nil_of_length_eq_zero (by omega))
      · rintro (none | none)
        · contradiction
        · rw [none, List.append_nil]

/-- After a remove call the graph holds, under the call's name, the kept branches
and those its cascade stored there exactly if it kept none or the cascade stored
none.  So it does wherever none is kept or the facet does not depend on itself. -/
theorem removeFacet_keeps_iff {name : Ustr} {filter : Option FlowMatchOperation}
    {state final : FlowState}
    (ran : exec env (.removeFacet name filter) state = some (.ok (), final)) :
    ∃ middle, removeCascade env name filter state = some (.ok (), middle) ∧
      ((final.facets.instances name).Perm
          (keptBranches name filter state ++ middle.facets.instances name) ↔
        keptBranches name filter state = [] ∨ middle.facets.instances name = []) ∧
      (keptBranches name filter state = [] ∨ ¬ DependsOnItself env state name →
        (final.facets.instances name).Perm
          (keptBranches name filter state ++ middle.facets.instances name)) := by
  rcases exec_removeFacet ran with ⟨missing, rfl⟩ | ⟨middle, cascade, rfl⟩
  · have none : state.facets.instances name = [] := by simp [Facets.instances, missing]
    refine ⟨(state.record (.removeFacet name filter)).take name, ?_, ?_, ?_⟩
    · rw [removeCascade, none]
      rfl
    · simp [keptBranches, none]
    · simp [keptBranches, none]
  have exact : ((putBack name (keptBranches name filter state) middle).facets.instances
        name).Perm (keptBranches name filter state ++ middle.facets.instances name) ↔
      keptBranches name filter state = [] ∨ middle.facets.instances name = [] :=
    putBack_perm_iff name _ middle
  refine ⟨middle, cascade, exact, fun condition => exact.mpr ?_⟩
  rcases condition with none | acyclic
  · exact .inl none
  · exact .inr (removeCascade_instances acyclic cascade)

end Kept

/-! ## A facet that depends on itself -/

section Cycle

open scoped Rind.Compact

/-- A facet that comes after its own fallback. -/
def deviceFacet : FlowFacetMetadata :=
  { userFacet with
    name := "device"
    after := some [.simple "rind:fallback"]
    branch := some ["id"] }

/-- An automatic facet that stands aside while a device has its slot. -/
def fallbackFacet : FlowFacetMetadata :=
  { userFacet with
    name := "fallback"
    stopOn := some [.detailed "rind:device" (some "slot")]
    branch := some ["id", "slot"]
    autoPayload := some ⟨some "spare", some (.one "root"), false⟩ }

def spareHeap : VariableHeap where
  values := AList.insert "spare" (.table [("id", .integer 9), ("slot", .integer 1)]) ∅
  defaults := ∅
  envMappings := ∅
  environment _ := none

def deviceEnv : FlowEnv :=
  .load (.ofGroup "static" "rind" [deviceFacet, fallbackFacet])
    (some spareHeap)

def device (text : String) : FlowInstance := ⟨"rind:device", .json ⟨text⟩, .facet⟩

/-- Two devices, the first of which has the slot. -/
def deviceState : FlowState :=
  FlowState.empty.put "rind:device"
    [device "\x7b\"id\":1,\"slot\":1\x7d", device "\x7b\"id\":2,\"slot\":2\x7d"]

def firstDevice : Option FlowMatchOperation :=
  some (.options none none (some (.obj [("id", .num (.int 1))])))

theorem exec_firstDevice :
    ∃ final, exec deviceEnv (.removeFacet "rind:device" firstDevice) deviceState =
        some (.ok (), final) ∧
      final.facets.instances "rind:device" = [device "\x7b\"id\":2,\"slot\":2\x7d"] := by
  have ran : (run deviceEnv 6 (.removeFacet "rind:device" firstDevice) deviceState).map
      (fun outcome => (outcome.1, outcome.2.facets.instances "rind:device")) =
        some (.ok (), [device "\x7b\"id\":2,\"slot\":2\x7d"]) := by
    decide +kernel
  obtain ⟨⟨result, final⟩, finished, checked⟩ := Option.map_eq_some_iff.mp ran
  obtain ⟨rfl, stored⟩ := Prod.mk.inj checked
  exact ⟨final, exec_of_run finished, stored⟩

/-- While the first device is removed, the fallback steps in and stores a third
one, which the kept second device overwrites. -/
theorem removeCascade_firstDevice :
    ∃ middle, removeCascade deviceEnv "rind:device" firstDevice deviceState =
        some (.ok (), middle) ∧
      middle.facets.instances "rind:device" = [device "\x7b\"id\":9\x7d"] := by
  have ran : (each ((deviceState.facets.instances "rind:device").filter (removes firstDevice))
      (revertBranch deviceEnv (run deviceEnv 5) "rind:device")
        ((deviceState.record (.removeFacet "rind:device" firstDevice)).take "rind:device")).map
      (fun outcome => (outcome.1, outcome.2.facets.instances "rind:device")) =
        some (.ok (), [device "\x7b\"id\":9\x7d"]) := by
    decide +kernel
  obtain ⟨⟨result, middle⟩, finished, checked⟩ := Option.map_eq_some_iff.mp ran
  obtain ⟨rfl, stored⟩ := Prod.mk.inj checked
  exact ⟨middle, removeCascade_of_run finished, stored⟩

theorem removeFacet_keeps_iff_device :
    ∃ final middle : FlowState, removeCascade deviceEnv "rind:device" firstDevice deviceState =
        some (.ok (), middle) ∧
      ((final.facets.instances "rind:device").Perm
          (keptBranches "rind:device" firstDevice deviceState ++
            middle.facets.instances "rind:device") ↔
        keptBranches "rind:device" firstDevice deviceState = [] ∨
          middle.facets.instances "rind:device" = []) := by
  obtain ⟨final, ran, -⟩ := exec_firstDevice
  obtain ⟨middle, cascade, exact, -⟩ := removeFacet_keeps_iff ran
  exact ⟨final, middle, cascade, exact⟩

/-- A branch that the cascade stores can be lost. -/
theorem not_removeFacet_keeps :
    ¬ ∀ (env : FlowEnv) (name : Ustr) (filter : Option FlowMatchOperation)
      (state final : FlowState),
      exec env (.removeFacet name filter) state = some (.ok (), final) →
        ∃ middle, removeCascade env name filter state = some (.ok (), middle) ∧
          (final.facets.instances name).Perm
            (keptBranches name filter state ++ middle.facets.instances name) := by
  intro keeps
  obtain ⟨final, ran, finalStored⟩ := exec_firstDevice
  obtain ⟨middle, cascade, middleStored⟩ := removeCascade_firstDevice
  obtain ⟨middle', cascade', same⟩ := keeps _ _ _ _ _ ran
  rw [cascade] at cascade'
  cases cascade'
  rw [finalStored, middleStored] at same
  have kept : keptBranches "rind:device" firstDevice deviceState =
      [device "\x7b\"id\":2,\"slot\":2\x7d"] := by decide +kernel
  rw [kept] at same
  exact absurd same.length_eq (by decide)

end Cycle

end Rind
