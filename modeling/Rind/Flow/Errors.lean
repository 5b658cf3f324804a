import Rind.Flow.Shape
import Rind.Flow.Termination

/-!
# Errors

Which calls fail and what they leave behind.  A set call that is rejected before
it has announced its payload changes nothing.  There is no rollback after that:
an error inside the cascade ends the call where it stands.  Remove calls never
fail.
-/

namespace Rind

open Prog

section Errors

variable [SerdeJson] [TomlText] {env : FlowEnv}

/-- A reverting cascade makes no set call through transcendence. -/
theorem reconcileTranscendence_revert_ok {call : Call → FlowProg Unit}
    (removes : ∀ name filter state result final,
      call (.removeFacet name filter) state = some (result, final) → result = .ok ())
    {source : FlowInstance} {state final : FlowState} {result : Except CoreError Unit}
    (ran : reconcileTranscendence env call source .revert state = some (result, final)) :
    result = .ok () := by
  rw [reconcileTranscendence] at ran
  cases targets : env.runtime.transcendenceIndex.lookup source.name with
  | none =>
      rw [targets] at ran
      cases ran
      rfl
  | some targets' =>
      rw [targets] at ran
      cases result with
      | ok _ => rfl
      | error err =>
          obtain ⟨target, -, state', roundRan⟩ := run_each_error ran
          cases made : transcendentCall env source .revert target with
          | none =>
              rw [made] at roundRan
              cases roundRan
          | some c =>
              rw [made] at roundRan
              obtain ⟨facet, payload, -, -, -, kind⟩ := transcendentCall_cases made
              rcases kind with ⟨wrong, -⟩ | ⟨-, rfl⟩
              · contradiction
              · exact removes _ _ _ _ _ roundRan

/-- A remove call at any depth does not fail: the errors of inverse
transcendence are dropped, and transcendence only makes remove calls. -/
theorem run_removeFacet_ok {depth : Nat} {name : Ustr} {filter : Option FlowMatchOperation}
    {state final : FlowState} {result : Except CoreError Unit}
    (ran : run env depth (.removeFacet name filter) state = some (result, final)) :
    result = .ok () := by
  induction depth generalizing name filter state result final with
  | zero => cases ran
  | succ depth ih =>
      cases removeFacet_cases ran with
      | absent missing => rfl
      | done branches found middle cascade => rfl
      | failed branches found err _ cascade =>
          obtain ⟨branch, -, state', roundRan⟩ := run_each_error cascade
          cases revertBranch_cases roundRan with
          | failed fresh err _ cascade =>
              have ok := reconcileTranscendence_revert_ok
                (fun name filter state result final => ih) cascade
              contradiction

theorem exec_removeFacet_ok {name : Ustr} {filter : Option FlowMatchOperation}
    {state final : FlowState} {result : Except CoreError Unit}
    (ran : exec env (.removeFacet name filter) state = some (result, final)) :
    result = .ok () := by
  obtain ⟨depth, depthRan⟩ := (fixpoint_eq_some (flowBody_monotone env)).mp ran
  exact run_removeFacet_ok depthRan

/-- Nothing takes an event or a message back. -/
theorem announcements_invariant (env : FlowEnv) :
    Invariant env (fun _ => True) (fun _ => True)
      (fun state state' => state.events <+: state'.events ∧ state.messages <+: state'.messages)
      where
  refl _ := ⟨List.prefix_refl _, List.prefix_refl _⟩
  trans _ _ _ left right := ⟨left.1.trans right.1, left.2.trans right.2⟩
  quiet _ _ quiet _ := ⟨trivial, quiet.events, quiet.messages⟩
  record _ _ _ _ := ⟨trivial, List.prefix_refl _, List.prefix_refl _⟩
  store _ _ _ _ _ _ _ _ _ _ _ := ⟨trivial, List.prefix_refl _, List.prefix_refl _⟩
  take _ _ _ _ _ := ⟨trivial, List.prefix_refl _, List.prefix_refl _⟩
  putBack _ _ _ _ _ _ _ _ _ _ grown := ⟨trivial, grown⟩
  applied _ _ _ _ _ := trivial
  reverted _ _ _ _ _ _ _ _ _ := trivial

/-- The state in which a set call has stored its payload. -/
def storedState (facet : FlowFacetMetadata) (name : Ustr) (payload : Option FlowPayload)
    (branches : List FlowInstance) (state : FlowState) : FlowState :=
  (announced facet name payload (state.record (.setFacet name payload))).put name branches

/-- A set call changes no instances, or it stores its payload and ends as its
cascade does. -/
theorem exec_setFacet {name : Ustr} {payload : Option FlowPayload} {state final : FlowState}
    {result : Except CoreError Unit}
    (ran : exec env (.setFacet name payload) state = some (result, final)) :
    Quiet (state.record (.setFacet name payload)) final ∨
      ∃ facet branches cascaded, applyKey name payload ∉ state.guard ∧
        env.find name = some facet ∧
        payloadTypeOk facet.payload (freshInstance name payload).payload ∧
        storeInstance facet (freshInstance name payload) (state.facets.instances name) =
          some branches ∧
        applyCascade env (exec env) (freshInstance name payload)
          (storedState facet name payload branches state) = some (result, cascaded) ∧
        Quiet cascaded final := by
  rw [exec_eq] at ran
  cases setFacet_cases ran with
  | guarded member => exact .inl (.refl _)
  | unknown fresh absent => exact .inl (.enter _ _)
  | mismatch fresh facet found wrong => exact .inl ((Quiet.enter _ _).trans (.leave _ _))
  | unkeyed fresh facet found typed missing =>
      have announced := (Quiet.enter (state.record (.setFacet name payload))
        (applyKey name payload)).trans (.announce _ (applyEvent (freshInstance name payload))
          (applyMessages facet (freshInstance name payload)))
      exact .inl (announced.trans ((Quiet.touch _ name).trans (.leave _ _)))
  | failed fresh facet found typed branches stored err _ cascade =>
      exact .inr ⟨facet, branches, final, fresh, found, typed, stored, cascade, .refl _⟩
  | done fresh facet found typed branches stored middle cascade =>
      exact .inr ⟨facet, branches, middle, fresh, found, typed, stored, cascade, .leave _ _⟩

/-- A set call that stores its payload ends as its cascade does. -/
theorem exec_setFacet_stored {name : Ustr} {payload : Option FlowPayload}
    {facet : FlowFacetMetadata} {branches : List FlowInstance} {state final : FlowState}
    {result : Except CoreError Unit} (fresh : applyKey name payload ∉ state.guard)
    (found : env.find name = some facet)
    (typed : payloadTypeOk facet.payload (freshInstance name payload).payload)
    (stored : storeInstance facet (freshInstance name payload) (state.facets.instances name) =
      some branches)
    (ran : exec env (.setFacet name payload) state = some (result, final)) :
    ∃ cascaded, applyCascade env (exec env) (freshInstance name payload)
        (storedState facet name payload branches state) = some (result, cascaded) ∧
      final.facets = cascaded.facets := by
  rw [exec_eq] at ran
  cases setFacet_cases ran with
  | guarded member => exact absurd member fresh
  | unknown _ absent => exact absurd (absent.symm.trans found) (by simp)
  | mismatch _ facet' found' wrong =>
      cases found.symm.trans found'
      rw [typed] at wrong
      contradiction
  | unkeyed _ facet' found' _ missing =>
      cases found.symm.trans found'
      exact absurd (missing.symm.trans stored) (by simp)
  | failed _ facet' found' _ branches' stored' err _ cascade =>
      cases found.symm.trans found'
      cases stored.symm.trans stored'
      exact ⟨final, cascade, rfl⟩
  | done _ facet' found' _ branches' stored' middle cascade =>
      cases found.symm.trans found'
      cases stored.symm.trans stored'
      exact ⟨middle, cascade, rfl⟩

/-- A set call that fails has changed and announced nothing where the facet is
unknown or of another payload type. Where the payload was announced and stored,
the error is one of its cascade: the call ends in the state the error left, in
which the call's own event and messages stand, followed by those of the cascade
up to the error. -/
theorem setFacet_error {name : Ustr} {payload : Option FlowPayload} {state final : FlowState}
    {err : CoreError}
    (ran : exec env (.setFacet name payload) state = some (.error err, final)) :
    ((∀ facet, env.find name = some facet →
        payloadTypeOk facet.payload (freshInstance name payload).payload = false) →
      final.facets = state.facets ∧ final.events = state.events ∧
        final.messages = state.messages) ∧
    ∀ facet branches, env.find name = some facet →
      payloadTypeOk facet.payload (freshInstance name payload).payload →
      storeInstance facet (freshInstance name payload) (state.facets.instances name) =
        some branches →
      applyCascade env (exec env) (freshInstance name payload)
          (storedState facet name payload branches state) = some (.error err, final) ∧
        state.events ++ [applyEvent (freshInstance name payload)] <+: final.events ∧
        state.messages ++ applyMessages facet (freshInstance name payload) <+:
          final.messages := by
  rw [exec_eq] at ran
  cases setFacet_cases ran with
  | unknown fresh absent =>
      refine ⟨fun _ => ⟨rfl, rfl, rfl⟩, fun facet branches found => ?_⟩
      rw [absent] at found
      contradiction
  | mismatch fresh facet found wrong =>
      refine ⟨fun _ => ⟨rfl, rfl, rfl⟩, fun facet' branches found' typed => ?_⟩
      cases found.symm.trans found'
      rw [wrong] at typed
      contradiction
  | unkeyed fresh facet found typed missing =>
      constructor
      · intro rejected
        rw [rejected facet found] at typed
        contradiction
      · intro facet' branches found' _ stored
        cases found.symm.trans found'
        exact absurd (missing.symm.trans stored) (by simp)
  | failed fresh facet found typed branches stored err _ cascade =>
      constructor
      · intro rejected
        rw [rejected facet found] at typed
        contradiction
      · intro facet' branches' found' _ stored'
        cases found.symm.trans found'
        cases stored.symm.trans stored'
        refine ⟨cascade, ?_⟩
        have invariant := announcements_invariant env
        have within : Within _ _ (applyCascade env (exec env) (freshInstance name payload)) :=
          applyCascade_rule invariant.rule fun c _ => invariant.exec_within (c := c) trivial
        obtain ⟨-, events, messages⟩ := within _ trivial _ _ cascade
        exact ⟨events, messages⟩

end Errors

/-! ## An error in a cascade -/

section Nested

open scoped Rind.Compact

/-- A facet that passes its payload on to users, who need a member `id`. -/
def loginFacet : FlowFacetMetadata :=
  { userFacet with name := "login", branch := some ["tty"] }

def loginEnv : FlowEnv :=
  .load (.ofGroup "static" "rind"
    [loginFacet, { userFacet with after := some [.simple "rind:login"] }]) none

def loginPayload : Option FlowPayload := some (.json ⟨"\x7b\"tty\":1\x7d"⟩)

/-- The login is stored and announced although the call fails for the user. -/
theorem exec_login :
    ∃ final, exec loginEnv (.setFacet "rind:login" loginPayload) .empty =
        some (.error (.invalidState "invalid JSON branch keys"), final) ∧
      final.facets.lookup "rind:login" =
        some [⟨"rind:login", .json ⟨"\x7b\"tty\":1\x7d"⟩, .facet⟩] := by
  have ran : (run loginEnv 3 (.setFacet "rind:login" loginPayload) .empty).map
      (fun outcome => (outcome.1, outcome.2.facets.lookup "rind:login")) =
        some (.error (.invalidState "invalid JSON branch keys"),
          some [⟨"rind:login", .json ⟨"\x7b\"tty\":1\x7d"⟩, .facet⟩]) := by
    decide +kernel
  obtain ⟨⟨result, final⟩, finished, checked⟩ := Option.map_eq_some_iff.mp ran
  obtain ⟨rfl, stored⟩ := Prod.mk.inj checked
  exact ⟨final, exec_of_run finished, stored⟩

theorem setFacet_error_login :
    ∃ final, exec loginEnv (.setFacet "rind:login" loginPayload) .empty =
        some (.error (.invalidState "invalid JSON branch keys"), final) ∧
      [applyEvent (freshInstance "rind:login" loginPayload)] <+: final.events := by
  obtain ⟨final, ran, -⟩ := exec_login
  refine ⟨final, ran, ?_⟩
  exact ((setFacet_error ran).2 loginFacet [freshInstance "rind:login" loginPayload]
    (by decide +kernel) (by decide +kernel) (by decide +kernel)).2.1

/-- A failed set call need not leave the graph as it was. -/
theorem not_setFacet_atomic :
    ¬ ∀ (env : FlowEnv) (name : Ustr) (payload : Option FlowPayload) (state final : FlowState)
      (err : CoreError), exec env (.setFacet name payload) state = some (.error err, final) →
        (∀ other, final.facets.lookup other = state.facets.lookup other) ∧
          final.events = state.events ∧ final.messages = state.messages := by
  intro atomic
  obtain ⟨final, ran, stored⟩ := exec_login
  have unchanged := (atomic _ _ _ _ _ _ ran).1 "rind:login"
  rw [stored] at unchanged
  contradiction

end Nested

end Rind
