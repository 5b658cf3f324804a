import Rind.Flow.Errors

/-!
# The guard

Every call enters its keys into the guard and takes them out again, so that a
cascade does not run into itself.  The keys of reverts are always taken out:
the calls in which one is held do not fail.
-/

namespace Rind

open Prog

/-- The two guards hold the same keys of reverts. -/
def SameReverts (state state' : FlowState) : Prop :=
  ∀ text, "revert::" ++ text ∈ state'.guard ↔ "revert::" ++ text ∈ state.guard

namespace SameReverts

variable {state state' : FlowState}

theorem refl (state : FlowState) : SameReverts state state := fun _ => Iff.rfl

theorem trans (a b c : FlowState) (left : SameReverts a b) (right : SameReverts b c) :
    SameReverts a c :=
  fun text => (right text).trans (left text)

theorem revertKey (same : SameReverts state state') (branch : FlowInstance) :
    Rind.revertKey branch ∈ state'.guard ↔ Rind.revertKey branch ∈ state.guard := by
  rw [Rind.revertKey, String.append_assoc, String.append_assoc]
  exact same _

/-- The key of a set call is no key of a revert. -/
theorem applyKey_ne (name : Ustr) (payload : Option FlowPayload) (text : String) :
    applyKey name payload ≠ "revert::" ++ text := by
  intro same
  have first := congrArg (·.toList.head?) same
  simp [applyKey] at first

theorem enter (name : Ustr) (payload : Option FlowPayload) :
    SameReverts state (state.enter (applyKey name payload)) := by
  intro text
  rw [FlowState.enter_guard, Finset.mem_insert]
  exact or_iff_right (applyKey_ne name payload text).symm

theorem leave (name : Ustr) (payload : Option FlowPayload) :
    SameReverts state (state.leave (applyKey name payload)) := by
  intro text
  rw [FlowState.leave_guard, Finset.mem_erase]
  exact and_iff_right (applyKey_ne name payload text).symm

/-- A key that was free is free again after it was held. -/
theorem held {key : Ustr} {middle : FlowState} (fresh : key ∉ state.guard)
    (same : SameReverts (state.enter key) middle) : SameReverts state (middle.leave key) := by
  intro text
  rw [FlowState.leave_guard, Finset.mem_erase, same text, FlowState.enter_guard,
    Finset.mem_insert]
  constructor
  · rintro ⟨apart, same | member⟩
    · exact absurd same apart
    · exact member
  · intro member
    refine ⟨?_, .inr member⟩
    rintro rfl
    exact fresh member

end SameReverts

section Runs

variable [SerdeJson] [TomlText] {env : FlowEnv} {depth : Nat}

omit [SerdeJson] [TomlText] in
theorem sameReverts_rule : Rule (Within (ε := CoreError) (fun _ => True) SameReverts) :=
  Within.rule SameReverts.refl SameReverts.trans

theorem revertBranch_sameReverts {call : Call → FlowProg Unit}
    (nested : ∀ c, Within (fun _ => True) SameReverts (call c))
    (removes : ∀ name filter state result final,
      call (.removeFacet name filter) state = some (result, final) → result = .ok ())
    (name : Ustr) (stored : FlowInstance) :
    Within (fun _ => True) SameReverts (revertBranch env call name stored) := by
  intro state _ result final ran
  refine ⟨trivial, ?_⟩
  cases revertBranch_cases ran with
  | guarded member => exact .refl state
  | failed fresh err _ cascade =>
      have ok := reconcileTranscendence_revert_ok removes cascade
      contradiction
  | done fresh middle cascade inner last inverse =>
      have first := (reconcileTranscendence_rule sameReverts_rule (fun c _ => nested c)
        _ trivial _ _ cascade).2
      have second := (reconcileInverse_rule sameReverts_rule (fun c _ => nested c)
        _ trivial _ _ inverse).2
      exact .held fresh (first.trans _ _ _ second)

theorem run_sameReverts (c : Call) :
    Within (fun _ => True) SameReverts (run env depth c) := by
  induction depth generalizing c with
  | zero => intro state _ result final ran; cases ran
  | succ depth ih =>
      intro state _ result final ran
      refine ⟨trivial, ?_⟩
      cases c with
      | setFacet name payload =>
          have cascadeWithin : Within (fun _ => True) SameReverts
              (applyCascade env (run env depth) (freshInstance name payload)) :=
            applyCascade_rule sameReverts_rule (fun c _ => ih c)
          cases setFacet_cases ran with
          | guarded member => exact .refl state
          | unknown fresh absent => exact .enter name payload
          | mismatch fresh facet found wrong =>
              exact .trans _ _ _ (.enter name payload) (.leave name payload)
          | unkeyed fresh facet found typed missing =>
              exact .trans _ _ _ (.enter name payload) (.leave name payload)
          | failed fresh facet found typed branches stored err _ cascade =>
              exact .trans _ _ _ (.enter name payload)
                (cascadeWithin _ trivial _ _ cascade).2
          | done fresh facet found typed branches stored middle cascade =>
              exact .trans _ _ _ (.enter name payload)
                (.trans _ _ _ (cascadeWithin _ trivial _ _ cascade).2 (.leave name payload))
      | removeFacet name filter =>
          have loopWithin (branches : List FlowInstance) :
              Within (fun _ => True) SameReverts
                (each (branches.filter (removes filter)) (revertBranch env (run env depth) name)) :=
            sameReverts_rule.each fun branch _ => revertBranch_sameReverts ih
              (fun _ _ _ _ _ => run_removeFacet_ok) name branch
          cases removeFacet_cases ran with
          | absent missing => exact .refl state
          | failed branches found err _ cascade => exact (loopWithin branches _ trivial _ _ cascade).2
          | done branches found middle cascade =>
              have same := (loopWithin branches _ trivial _ _ cascade).2
              rw [putBack]
              split
              · exact same
              · exact same

/-- A call takes out every key of a revert that it has entered. -/
theorem exec_sameReverts (c : Call) : Within (fun _ => True) SameReverts (exec env c) := by
  intro state _ result final ran
  obtain ⟨depth, depthRan⟩ := (fixpoint_eq_some (flowBody_monotone env)).mp ran
  exact run_sameReverts c state trivial result final depthRan

theorem exec_revertBranch_sameReverts (name : Ustr) (stored : FlowInstance) :
    Within (fun _ => True) SameReverts (revertBranch env (exec env) name stored) :=
  revertBranch_sameReverts exec_sameReverts
    (fun _ _ _ _ _ => exec_removeFacet_ok) name stored

end Runs

end Rind
