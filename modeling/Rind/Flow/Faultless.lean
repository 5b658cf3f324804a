import Rind.Flow.Guard
import Rind.Flow.Shape
import Rind.Flow.Termination

/-!
# Cascades without errors

The nested calls of a cascade can fail in one way: a derived or an automatic
JSON payload lacks a branch key of the facet it is stored for.  Where the
definitions exclude this, every cascade succeeds and gives the guard back as it
was.
-/

namespace Rind

open OrderedFields Prog SerdeJson

/-- Every finished run succeeds and gives the guard back. -/
def Clean (body : FlowProg Unit) : Prop :=
  ∀ state result final, body state = some (result, final) →
    result = .ok () ∧ final.guard = state.guard

theorem Clean.rule : Rule Clean where
  pure := by
    intro state result final ran
    cases ran
    exact ⟨rfl, rfl⟩
  bind := by
    intro first next firstClean nextClean state result final ran
    rcases run_bind_cases ran with ⟨err, firstRan, -⟩ | ⟨_, middle, firstRan, nextRan⟩
    · have wrong := (firstClean _ _ _ firstRan).1
      contradiction
    · obtain ⟨-, same⟩ := firstClean _ _ _ firstRan
      obtain ⟨ok, same'⟩ := nextClean _ _ _ nextRan
      exact ⟨ok, same'.trans same⟩
  attempt := by
    intro body clean state result final ran
    obtain ⟨ok, inner, bodyRan⟩ := run_attempt_cases ran
    exact ⟨ok, (clean _ _ _ bodyRan).2⟩
  pointwise := by
    intro body same state result final ran
    obtain ⟨other, clean, equal⟩ := same state
    exact clean state result final (equal ▸ ran)

section Faultless

variable [SerdeJson] [TomlText] {env : FlowEnv}

/-- A payload that the facet stores: one of its payload type, with all its branch
keys. -/
structure Storable (facet : FlowFacetMetadata) (payload : FlowPayload) : Prop where
  typed : payload.payloadType = facet.payload
  keyed : HasKeys (branchKeys facet) payload

omit [TomlText] in
theorem Storable.stored (storable : Storable facet payload) (name : Ustr)
    (entry : List FlowInstance) :
    ∃ branches, storeInstance facet (freshInstance name (some payload)) entry = some branches := by
  cases payload with
  | json json =>
      obtain ⟨fields, object, present⟩ := storable.keyed json rfl
      obtain ⟨key, keyed⟩ := Option.isSome_iff_exists.mp
        (jsonBranchKey_isSome.mpr ⟨fields, object, present⟩)
      simp [storeInstance, freshInstance, keyed]
  | _ => simp [storeInstance, freshInstance]

/-- Facets take only payloads that they can store from their sources, and have
only such automatic payloads. -/
structure Faultless (env : FlowEnv) : Prop where
  after : ∀ name facet, env.find name = some facet → facet.after.isSome →
    facet.payload = .json → facet.branch.isSome
  auto : ∀ name facet, env.find name = some facet → facet.stopOn.isSome →
    ∀ payload ∈ autoPayloadsFor facet env.heap, Storable facet payload

/-- A call that does not fail by itself. -/
def Sound (env : FlowEnv) : Call → Prop
  | .setFacet name payload =>
      ∃ facet value, env.find name = some facet ∧ payload = some value ∧ Storable facet value
  | .removeFacet _ _ => True

omit [TomlText] in
/-- A facet can store what it takes from a source. -/
theorem storable_of_transcendent {facet : FlowFacetMetadata} {source payload : FlowPayload}
    (specs : facet.payload = .json → facet.branch.isSome)
    (taken : transcendentPayloadFor facet source = some payload) : Storable facet payload := by
  unfold transcendentPayloadFor at taken
  cases type : facet.payload with
  | json =>
      obtain ⟨branchSpecs, branch⟩ := Option.isSome_iff_exists.mp (specs type)
      simp only [type, branch] at taken
      obtain ⟨sourceJson, members, fields, -, object, mapped, rfl⟩ := mapJsonPayload_cases taken
      refine ⟨type.symm, ?_⟩
      rintro _ ⟨⟩
      have legal := mapFields_legal (object ▸ sourceJson.intoJson_legal) mapped
      refine ⟨fields, FlowJson.intoJson_toText legal, fun key listed => ?_⟩
      rw [branchKeys, branch] at listed
      obtain ⟨spec, isSpec, rfl⟩ := List.mem_map.mp listed
      exact (lookup_mapFields_isSome mapped).2 spec isSpec
  | string =>
      simp only [type] at taken
      split at taken
      · cases taken
        exact ⟨type.symm, by rintro _ ⟨⟩⟩
      · contradiction
  | bytes =>
      simp only [type] at taken
      split at taken
      · cases taken
        exact ⟨type.symm, by rintro _ ⟨⟩⟩
      · contradiction
  | none =>
      simp only [type] at taken
      cases taken
      exact ⟨type.symm, by rintro _ ⟨⟩⟩

theorem Spawns.sound (faultless : Faultless env) {source : FlowInstance} {action : FlowAction}
    {c : Call} (spawned : Spawns env source action c) : Sound env c := by
  cases spawned with
  | transcend listed made =>
      obtain ⟨facet, payload, found, ⟨after, isAfter, -⟩, taken, kind⟩ :=
        transcendentCall_cases made
      rcases kind with ⟨-, rfl⟩ | ⟨-, rfl⟩
      · obtain ⟨sourcePayload, -, taken⟩ := payloadFrom_cases taken
        refine ⟨facet, payload, found, rfl, storable_of_transcendent ?_ taken⟩
        exact faultless.after _ facet found (Option.isSome_of_eq_some isAfter)
      · trivial
  | start listed found stops member =>
      exact ⟨_, _, found, rfl, faultless.auto _ _ found stops _ member⟩
  | stop filter listed found stops => trivial

theorem revertBranch_clean {call : Call → FlowProg Unit} (name : Ustr) (stored : FlowInstance)
    (nested : ∀ c, Spawns env { stored with type := .facet } .revert c → Clean (call c)) :
    Clean (revertBranch env call name stored) := by
  intro state result final ran
  cases revertBranch_cases ran with
  | guarded member => exact ⟨rfl, rfl⟩
  | failed fresh err _ cascade =>
      have wrong := (reconcileTranscendence_rule Clean.rule nested _ _ _ cascade).1
      contradiction
  | done fresh middle cascade inner last inverse =>
      have first := (reconcileTranscendence_rule Clean.rule nested _ _ _ cascade).2
      have second := (reconcileInverse_rule Clean.rule nested _ _ _ inverse).2
      refine ⟨rfl, ?_⟩
      rw [FlowState.leave_guard, second, first, revertAnnounced, FlowState.announce_guard,
        FlowState.enter_guard, Finset.erase_insert fresh]

/-- A call that does not fail by itself succeeds with all calls it sets off. -/
theorem flowBody_clean (faultless : Faultless env) {call : Call → FlowProg Unit}
    (nested : ∀ c, Sound env c → Clean (call c)) {c : Call} (sound : Sound env c) :
    Clean (flowBody env call c) := by
  intro state result final ran
  have spawnedClean {source : FlowInstance} {action : FlowAction} (c : Call)
      (spawned : Spawns env source action c) : Clean (call c) :=
    nested c (spawned.sound faultless)
  cases c with
  | setFacet name payload =>
      obtain ⟨facet, value, found, rfl, storable⟩ := sound
      cases setFacet_cases ran with
      | guarded member => exact ⟨rfl, rfl⟩
      | unknown fresh absent => exact absurd (absent.symm.trans found) (by simp)
      | mismatch fresh facet' found' wrong =>
          cases found.symm.trans found'
          exact absurd (wrong.symm.trans (payloadTypeOk_iff.mpr storable.typed))
            Bool.false_ne_true
      | unkeyed fresh facet' found' typed missing =>
          cases found.symm.trans found'
          obtain ⟨branches, stored⟩ := storable.stored name (state.facets.instances name)
          exact absurd (missing.symm.trans stored) (by simp)
      | failed fresh facet' found' typed branches stored err _ cascade =>
          have wrong := (applyCascade_rule Clean.rule spawnedClean _ _ _ cascade).1
          contradiction
      | done fresh facet' found' typed branches stored middle cascade =>
          have same := (applyCascade_rule Clean.rule spawnedClean _ _ _ cascade).2
          refine ⟨rfl, ?_⟩
          rw [FlowState.leave_guard, same, FlowState.put_guard, announced,
            FlowState.announce_guard, FlowState.enter_guard, Finset.erase_insert fresh]
          rfl
  | removeFacet name filter =>
      have loopClean (branches : List FlowInstance) :
          Clean (each (branches.filter (removes filter)) (revertBranch env call name)) :=
        Clean.rule.each fun branch _ => revertBranch_clean name branch spawnedClean
      cases removeFacet_cases ran with
      | absent missing => exact ⟨rfl, rfl⟩
      | failed branches found err _ cascade =>
          have wrong := (loopClean branches _ _ _ cascade).1
          contradiction
      | done branches found middle cascade =>
          have same := (loopClean branches _ _ _ cascade).2
          refine ⟨rfl, ?_⟩
          rw [putBack]
          split <;> exact same

theorem exec_clean (faultless : Faultless env) {c : Call} (sound : Sound env c) :
    Clean (exec env c) := by
  have atDepth (depth : Nat) : ∀ c, Sound env c → Clean (run env depth c) := by
    induction depth with
    | zero => intro c _ state result final ran; cases ran
    | succ depth ih => exact fun c sound => flowBody_clean faultless ih sound
  intro state result final ran
  obtain ⟨depth, depthRan⟩ := (fixpoint_eq_some (flowBody_monotone env)).mp ran
  exact atDepth depth c sound state result final depthRan

end Faultless

section Member

open scoped Rind.Compact

/-- The users that follow a login are told apart by what they take from it. -/
def memberEnv : FlowEnv :=
  .load (.ofGroup "static" "rind"
    [loginFacet, { loginFacet with name := "user", after := some [.simple "rind:login"] }]) none

end Member

end Rind
