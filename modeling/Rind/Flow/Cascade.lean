import Rind.Flow.Runtime
import Rind.Prog.Rules

/-!
# What a call can do

Inversion lemmas for the two routines: every finished run of a body is one of a
few outcomes, each with the states it passes through.  The nested calls of a
cascade are described by `Spawns`.
-/

namespace Rind

open Prog

section State

variable (state : FlowState)

@[simp] theorem FlowState.record_facets (c : Call) : (state.record c).facets = state.facets := rfl
@[simp] theorem FlowState.record_guard (c : Call) : (state.record c).guard = state.guard := rfl
@[simp] theorem FlowState.enter_facets (key : Ustr) : (state.enter key).facets = state.facets :=
  rfl
@[simp] theorem FlowState.enter_guard (key : Ustr) :
    (state.enter key).guard = insert key state.guard := rfl
@[simp] theorem FlowState.enter_calls (key : Ustr) : (state.enter key).calls = state.calls := rfl
@[simp] theorem FlowState.leave_facets (key : Ustr) : (state.leave key).facets = state.facets :=
  rfl
@[simp] theorem FlowState.leave_guard (key : Ustr) :
    (state.leave key).guard = state.guard.erase key := rfl
@[simp] theorem FlowState.leave_calls (key : Ustr) : (state.leave key).calls = state.calls := rfl
@[simp] theorem FlowState.announce_facets (event : FlowEvent)
    (messages : List SubscriberMessage) :
    (state.announce event messages).facets = state.facets := rfl
@[simp] theorem FlowState.announce_guard (event : FlowEvent)
    (messages : List SubscriberMessage) :
    (state.announce event messages).guard = state.guard := rfl
@[simp] theorem FlowState.announce_calls (event : FlowEvent)
    (messages : List SubscriberMessage) :
    (state.announce event messages).calls = state.calls := rfl
@[simp] theorem FlowState.put_facets (name : Ustr) (branches : List FlowInstance) :
    (state.put name branches).facets = state.facets.insert name branches := rfl
@[simp] theorem FlowState.put_guard (name : Ustr) (branches : List FlowInstance) :
    (state.put name branches).guard = state.guard := rfl
@[simp] theorem FlowState.put_calls (name : Ustr) (branches : List FlowInstance) :
    (state.put name branches).calls = state.calls := rfl
@[simp] theorem FlowState.take_facets (name : Ustr) :
    (state.take name).facets = state.facets.erase name := rfl
@[simp] theorem FlowState.take_guard (name : Ustr) : (state.take name).guard = state.guard := rfl
@[simp] theorem FlowState.take_calls (name : Ustr) : (state.take name).calls = state.calls := rfl

@[simp] theorem FlowState.put_put (name : Ustr) (first second : List FlowInstance) :
    (state.put name first).put name second = state.put name second := by
  simp [put, AList.insert_insert]

end State

variable [SerdeJson] [TomlText] {env : FlowEnv}

/-! ## Monotonicity -/

section Monotone

variable {call call' : Call → FlowProg Unit}

theorem reconcileTranscendence_below (below : ∀ c, Below (call c) (call' c))
    (source : FlowInstance) (action : FlowAction) :
    Below (reconcileTranscendence env call source action)
      (reconcileTranscendence env call' source action) := by
  rw [reconcileTranscendence, reconcileTranscendence]
  split
  · exact .refl _
  · apply Below.each
    intro target
    split
    · exact .refl _
    · exact below _

theorem reconcileInverseTarget_below (below : ∀ c, Below (call c) (call' c))
    (source : FlowInstance) (action : FlowAction) (target : Ustr) :
    Below (reconcileInverseTarget env call source action target)
      (reconcileInverseTarget env call' source action target) := by
  rw [reconcileInverseTarget, reconcileInverseTarget]
  split
  · exact .refl _
  · split
    · exact .refl _
    · refine (Below.refl _).bind fun payloads => Below.each _ fun payload => ?_
      refine (Below.refl _).bind fun decision => ?_
      split
      · exact .refl _
      · exact below _

theorem reconcileInverse_below (below : ∀ c, Below (call c) (call' c))
    (source : FlowInstance) (action : FlowAction) :
    Below (reconcileInverseTranscendenceForSource env call source action)
      (reconcileInverseTranscendenceForSource env call' source action) := by
  rw [reconcileInverseTranscendenceForSource, reconcileInverseTranscendenceForSource]
  split
  · exact .refl _
  · exact Below.each _ (reconcileInverseTarget_below below source action)

theorem setFacet_below (below : ∀ c, Below (call c) (call' c)) (name : Ustr)
    (payload : Option FlowPayload) :
    Below (setFacet env call name payload) (setFacet env call' name payload) := by
  rw [setFacet, setFacet]
  refine (Below.refl _).bind fun guarded => ?_
  split
  · exact .refl _
  · refine (Below.refl _).bind fun _ => ?_
    split
    · exact .refl _
    · dsimp only
      split
      · exact .refl _
      · refine (Below.refl _).bind fun _ => (Below.refl _).bind fun entry =>
          (Below.refl _).bind fun _ => ?_
        split
        · exact .refl _
        · refine (Below.refl _).bind fun _ => Below.bind ?_ fun _ => .refl _
          exact (reconcileTranscendence_below below _ _).bind fun _ =>
            reconcileInverse_below below _ _

theorem revertBranch_below (below : ∀ c, Below (call c) (call' c)) (name : Ustr)
    (stored : FlowInstance) :
    Below (revertBranch env call name stored) (revertBranch env call' name stored) := by
  rw [revertBranch, revertBranch]
  refine (Below.refl _).bind fun guarded => ?_
  split
  · exact .refl _
  · refine (Below.refl _).bind fun _ => (Below.refl _).bind fun _ =>
      Below.bind ?_ fun _ => .refl _
    exact (reconcileTranscendence_below below _ _).bind fun _ =>
      (reconcileInverse_below below _ _).attempt

theorem removeFacet_below (below : ∀ c, Below (call c) (call' c)) (name : Ustr)
    (filter : Option FlowMatchOperation) :
    Below (removeFacet env call name filter) (removeFacet env call' name filter) := by
  rw [removeFacet, removeFacet]
  refine (Below.refl _).bind fun entry => ?_
  split
  · exact .refl _
  · exact (Below.refl _).bind fun _ =>
      (Below.each _ (revertBranch_below below name)).bind fun _ => .refl _

end Monotone

theorem flowBody_monotone (env : FlowEnv) : (flowBody env).Monotone := by
  intro call call' below c
  refine (Below.refl _).bind fun _ => ?_
  cases c with
  | setFacet name payload => exact setFacet_below below name payload
  | removeFacet name filter => exact removeFacet_below below name filter

/-- A call that ends at some depth ends so. -/
theorem exec_of_run {env : FlowEnv} {depth : Nat} {c : Call} {state : FlowState}
    {outcome : Except CoreError Unit × FlowState} (ran : run env depth c state = some outcome) :
    exec env c state = some outcome :=
  iterate_below_fixpoint (flowBody_monotone env) depth c state outcome ran

/-! ## Outcomes -/

section Outcomes

variable {call : Call → FlowProg Unit}

/-- The instance a set call stores. -/
def freshInstance (name : Ustr) (payload : Option FlowPayload) : FlowInstance :=
  { name, payload := payload.getD (.none false), type := .facet }

/-- The state in which a set call has announced its payload. -/
def announced (facet : FlowFacetMetadata) (name : Ustr) (payload : Option FlowPayload)
    (state : FlowState) : FlowState :=
  (state.enter (applyKey name payload)).announce (applyEvent (freshInstance name payload))
    (applyMessages facet (freshInstance name payload))

/-- The ways a set call can end. -/
inductive SetOutcome (env : FlowEnv) (call : Call → FlowProg Unit) (name : Ustr)
    (payload : Option FlowPayload) (state : FlowState) :
    Except CoreError Unit → FlowState → Prop where
  | guarded (member : applyKey name payload ∈ state.guard) :
      SetOutcome env call name payload state (.ok ()) state
  | unknown (fresh : applyKey name payload ∉ state.guard) (absent : env.find name = none) :
      SetOutcome env call name payload state
        (.error (.invalidState ("facet not found: " ++ name)))
        (state.enter (applyKey name payload))
  | mismatch (fresh : applyKey name payload ∉ state.guard) (facet : FlowFacetMetadata)
      (found : env.find name = some facet)
      (wrong : payloadTypeOk facet.payload (freshInstance name payload).payload = false) :
      SetOutcome env call name payload state
        (.error (.invalidState ("state payload type mismatch: " ++ name)))
        ((state.enter (applyKey name payload)).leave (applyKey name payload))
  | unkeyed (fresh : applyKey name payload ∉ state.guard) (facet : FlowFacetMetadata)
      (found : env.find name = some facet)
      (typed : payloadTypeOk facet.payload (freshInstance name payload).payload)
      (missing : storeInstance facet (freshInstance name payload) (state.facets.instances name) =
        none) :
      SetOutcome env call name payload state
        (.error (.invalidState "invalid JSON branch keys"))
        (((announced facet name payload state).put name (state.facets.instances name)).leave
          (applyKey name payload))
  | failed (fresh : applyKey name payload ∉ state.guard) (facet : FlowFacetMetadata)
      (found : env.find name = some facet)
      (typed : payloadTypeOk facet.payload (freshInstance name payload).payload)
      (branches : List FlowInstance)
      (stored : storeInstance facet (freshInstance name payload) (state.facets.instances name) =
        some branches)
      (err : CoreError) (final : FlowState)
      (cascade : applyCascade env call (freshInstance name payload)
        ((announced facet name payload state).put name branches) = some (.error err, final)) :
      SetOutcome env call name payload state (.error err) final
  | done (fresh : applyKey name payload ∉ state.guard) (facet : FlowFacetMetadata)
      (found : env.find name = some facet)
      (typed : payloadTypeOk facet.payload (freshInstance name payload).payload)
      (branches : List FlowInstance)
      (stored : storeInstance facet (freshInstance name payload) (state.facets.instances name) =
        some branches)
      (final : FlowState)
      (cascade : applyCascade env call (freshInstance name payload)
        ((announced facet name payload state).put name branches) = some (.ok (), final)) :
      SetOutcome env call name payload state (.ok ()) (final.leave (applyKey name payload))

theorem setFacet_cases {name : Ustr} {payload : Option FlowPayload} {state final : FlowState}
    {result : Except CoreError Unit}
    (ran : setFacet env call name payload state = some (result, final)) :
    SetOutcome env call name payload state result final := by
  rw [setFacet] at ran
  simp only [run_read_bind, decide_eq_true_eq] at ran
  split at ran
  · rename_i member
    cases ran
    exact .guarded member
  · rename_i fresh
    cases found : env.find name with
    | none =>
        simp only [found, run_change_bind, run_fail] at ran
        cases ran
        exact .unknown fresh found
    | some facet =>
        simp only [found, run_change_bind] at ran
        cases typed : payloadTypeOk facet.payload (payload.getD (.none false)) with
        | false =>
            simp only [typed, Bool.not_false, if_true, run_change_bind, run_fail] at ran
            cases ran
            exact .mismatch fresh facet found typed
        | true =>
            simp only [typed, Bool.not_true, Bool.false_eq_true, if_false, run_change_bind,
              run_read_bind] at ran
            generalize stored : storeInstance facet _ _ = merged at ran
            cases merged with
            | none =>
                simp only [run_change_bind, run_fail] at ran
                cases ran
                exact .unkeyed fresh facet found typed stored
            | some branches =>
                simp only [run_change_bind, FlowState.put_put] at ran
                rcases run_bind_cases ran with ⟨err, cascade, same⟩ | ⟨_, middle, cascade, left⟩
                · cases same
                  exact .failed fresh facet found typed branches stored err final cascade
                · cases left
                  exact .done fresh facet found typed branches stored middle cascade

/-- The state in which a removed branch has been announced. -/
def revertAnnounced (env : FlowEnv) (name : Ustr) (branch : FlowInstance) (state : FlowState) :
    FlowState :=
  (state.enter (revertKey branch)).announce (revertEvent branch) (revertMessages env name branch)

/-- The ways the revert of one branch can end. -/
inductive RevertOutcome (env : FlowEnv) (call : Call → FlowProg Unit) (name : Ustr)
    (branch : FlowInstance) (state : FlowState) : Except CoreError Unit → FlowState → Prop where
  | guarded (member : revertKey branch ∈ state.guard) :
      RevertOutcome env call name branch state (.ok ()) state
  | failed (fresh : revertKey branch ∉ state.guard) (err : CoreError) (final : FlowState)
      (cascade : reconcileTranscendence env call branch .revert
        (revertAnnounced env name branch state) = some (.error err, final)) :
      RevertOutcome env call name branch state (.error err) final
  | done (fresh : revertKey branch ∉ state.guard) (middle : FlowState)
      (cascade : reconcileTranscendence env call branch .revert
        (revertAnnounced env name branch state) = some (.ok (), middle))
      (inner : Except CoreError Unit) (final : FlowState)
      (inverse : reconcileInverseTranscendenceForSource env call branch .revert middle =
        some (inner, final)) :
      RevertOutcome env call name branch state (.ok ()) (final.leave (revertKey branch))

theorem revertBranch_cases {name : Ustr} {stored : FlowInstance} {state final : FlowState}
    {result : Except CoreError Unit}
    (ran : revertBranch env call name stored state = some (result, final)) :
    RevertOutcome env call name { stored with type := .facet } state result final := by
  rw [revertBranch] at ran
  simp only [run_read_bind, decide_eq_true_eq] at ran
  split at ran
  · rename_i member
    cases ran
    exact .guarded member
  · rename_i fresh
    simp only [run_change_bind] at ran
    rcases run_bind_cases ran with ⟨err, cascade, same⟩ | ⟨_, middle, cascade, left⟩
    · rcases run_bind_cases cascade with ⟨err', first, same'⟩ | ⟨_, middle, -, second⟩
      · cases same
        cases same'
        exact .failed fresh err final first
      · obtain ⟨same', -⟩ := run_attempt_cases second
        cases same'
    · cases left
      rcases run_bind_cases cascade with ⟨err', first, same'⟩ | ⟨_, between, first, second⟩
      · cases same'
      · obtain ⟨-, inner, inverse⟩ := run_attempt_cases second
        exact .done fresh between first inner middle inverse

/-- The ways a remove call can end. -/
inductive RemoveOutcome (env : FlowEnv) (call : Call → FlowProg Unit) (name : Ustr)
    (filter : Option FlowMatchOperation) (state : FlowState) :
    Except CoreError Unit → FlowState → Prop where
  | absent (missing : state.facets.lookup name = none) :
      RemoveOutcome env call name filter state (.ok ()) state
  | failed (branches : List FlowInstance) (found : state.facets.lookup name = some branches)
      (err : CoreError) (final : FlowState)
      (cascade : each (branches.filter (removes filter)) (revertBranch env call name)
        (state.take name) = some (.error err, final)) :
      RemoveOutcome env call name filter state (.error err) final
  | done (branches : List FlowInstance) (found : state.facets.lookup name = some branches)
      (final : FlowState)
      (cascade : each (branches.filter (removes filter)) (revertBranch env call name)
        (state.take name) = some (.ok (), final)) :
      RemoveOutcome env call name filter state (.ok ())
        (putBack name (branches.filter (!removes filter ·)) final)

theorem removeFacet_cases {name : Ustr} {filter : Option FlowMatchOperation}
    {state final : FlowState} {result : Except CoreError Unit}
    (ran : removeFacet env call name filter state = some (result, final)) :
    RemoveOutcome env call name filter state result final := by
  rw [removeFacet] at ran
  simp only [run_read_bind] at ran
  cases found : state.facets.lookup name with
  | none =>
      simp only [found, run_pure] at ran
      cases ran
      exact .absent found
  | some branches =>
      simp only [found, run_change_bind] at ran
      rcases run_bind_cases ran with ⟨err, cascade, same⟩ | ⟨_, middle, cascade, last⟩
      · cases same
        exact .failed branches found err final cascade
      · cases last
        exact .done branches found middle cascade

end Outcomes

/-! ## Nested calls -/

/-- The targets an index lists for a source. -/
def targetsOf (index : AList fun _ : Ustr => List Ustr) (source : Ustr) : List Ustr :=
  (index.lookup source).getD []

/-- A call that the change of a source may make on one of its dependents. -/
inductive Spawns (env : FlowEnv) (source : FlowInstance) (action : FlowAction) : Call → Prop where
  | transcend {target : Ustr} {c : Call}
      (listed : target ∈ targetsOf env.runtime.transcendenceIndex source.name)
      (made : transcendentCall env source action target = some c) : Spawns env source action c
  | start {target : Ustr} {facet : FlowFacetMetadata} {payload : FlowPayload}
      (listed : target ∈ targetsOf env.runtime.inverseTranscendenceIndex source.name)
      (found : env.find target = some facet) (stops : facet.stopOn.isSome)
      (member : payload ∈ autoPayloadsFor facet env.heap) :
      Spawns env source action (.setFacet target (some payload))
  | stop {target : Ustr} {facet : FlowFacetMetadata} (filter : Option FlowMatchOperation)
      (listed : target ∈ targetsOf env.runtime.inverseTranscendenceIndex source.name)
      (found : env.find target = some facet) (stops : facet.stopOn.isSome) :
      Spawns env source action (.removeFacet target filter)

/-- The payload for a dependent is made from the source's payload or an automatic
one. -/
theorem payloadFrom_cases {facet : FlowFacetMetadata} {source : FlowInstance}
    {payload : FlowPayload} (taken : payloadFrom env facet source = some payload) :
    ∃ sourcePayload, (sourcePayload = source.payload ∨
        sourcePayload ∈ autoPayloadsFor facet env.heap) ∧
      transcendentPayloadFor facet sourcePayload = some payload := by
  rw [payloadFrom] at taken
  split at taken
  · obtain ⟨sourcePayload, first, made⟩ := Option.bind_eq_some_iff.mp taken
    exact ⟨sourcePayload, .inr (List.mem_of_mem_head? first), made⟩
  · exact ⟨source.payload, .inl rfl, taken⟩

/-- A transcendent call is about its target, and is made where a condition on
the source is met. -/
theorem transcendentCall_cases {source : FlowInstance} {action : FlowAction} {target : Ustr}
    {c : Call} (made : transcendentCall env source action target = some c) :
    ∃ facet payload, env.find target = some facet ∧
      (∃ after, facet.after = some after ∧ after.any (checkCondition · source)) ∧
      payloadFrom env facet source = some payload ∧
      ((action = .apply ∧ c = .setFacet target (some payload)) ∨
        action = .revert ∧ c = .removeFacet target (payloadToFilter payload)) := by
  simp only [transcendentCall, Option.bind_eq_bind, Option.bind_eq_some_iff] at made
  obtain ⟨facet, found, after, isAfter, made⟩ := made
  split at made
  · rename_i met
    obtain ⟨payload, taken, made⟩ := Option.bind_eq_some_iff.mp made
    refine ⟨facet, payload, found, ⟨after, isAfter, met⟩, taken, ?_⟩
    cases action with
    | apply => exact .inl ⟨rfl, (Option.some.inj made).symm⟩
    | revert => exact .inr ⟨rfl, (Option.some.inj made).symm⟩
  · contradiction

/-- The payload that the change of a source carries on to a facet after it. -/
def derivedPayload (env : FlowEnv) (facet : FlowFacetMetadata) (source : FlowInstance) :
    Option FlowPayload :=
  if (facet.after.getD []).any (checkCondition · source) then payloadFrom env facet source
  else none

/-- A facet that comes after a source is set to the derived payload, or what it
matches is removed. -/
theorem transcendentCall_eq {source : FlowInstance} {action : FlowAction} {target : Ustr}
    {facet : FlowFacetMetadata} (found : env.find target = some facet) :
    transcendentCall env source action target =
      (derivedPayload env facet source).map fun payload =>
        match action with
        | .apply => .setFacet target (some payload)
        | .revert => .removeFacet target (payloadToFilter payload) := by
  cases after : facet.after with
  | none => simp [transcendentCall, found, derivedPayload, after]
  | some conditions =>
      simp only [transcendentCall, found, derivedPayload, after, Option.bind_eq_bind,
        Option.bind_some, Option.getD_some]
      by_cases met : conditions.any (checkCondition · source)
      · rw [if_pos met, if_pos met]
        cases payloadFrom env facet source <;> cases action <;> rfl
      · rw [if_neg met, if_neg met]
        rfl

omit [TomlText] in
theorem inverseCall_cases {source : FlowInstance} {action : FlowAction} {facets : Facets}
    {target : Ustr} {facet : FlowFacetMetadata} {deps : List InverseBranchingConfig}
    {payload : FlowPayload} {c : Call}
    (made : inverseCall source action facets target facet deps payload = some c) :
    (c = .setFacet target (some payload) ∧ facet.autoPayload.isSome) ∨
      c = .removeFacet target (payloadToFilter payload) := by
  rw [inverseCall] at made
  simp only [Bool.and_eq_true] at made
  split at made
  · rename_i starts
    cases made
    exact .inl ⟨rfl, starts.1.1⟩
  · split at made
    · cases made
      exact .inr rfl
    · contradiction

section Rules

variable {holds : FlowProg Unit → Prop} {call : Call → FlowProg Unit} {source : FlowInstance}
  {action : FlowAction}

theorem transcendentCall_rule (rule : Rule holds) {target : Ustr}
    (listed : target ∈ targetsOf env.runtime.transcendenceIndex source.name)
    (nested : ∀ c, Spawns env source action c → holds (call c)) :
    holds (match transcendentCall env source action target with
      | none => pure ()
      | some c => call c) := by
  split
  · exact rule.pure
  · rename_i c made
    exact nested c (.transcend listed made)

/-- A structural property of all nested calls is one of the reconciliation. -/
theorem reconcileTranscendence_rule (rule : Rule holds)
    (nested : ∀ c, Spawns env source action c → holds (call c)) :
    holds (reconcileTranscendence env call source action) := by
  rw [reconcileTranscendence]
  split
  · exact rule.pure
  · rename_i targets found
    apply rule.each
    intro target listed
    exact transcendentCall_rule rule (by rwa [targetsOf, found, Option.getD_some]) nested

theorem reconcileInverseTarget_rule (rule : Rule holds) {target : Ustr}
    (listed : target ∈ targetsOf env.runtime.inverseTranscendenceIndex source.name)
    (nested : ∀ c, Spawns env source action c → holds (call c)) :
    holds (reconcileInverseTarget env call source action target) := by
  rw [reconcileInverseTarget]
  split
  · exact rule.pure
  · rename_i facet found
    split
    · exact rule.pure
    · rename_i deps stopOn
      have stops : facet.stopOn.isSome := by rw [stopOn, Option.isSome_some]
      refine rule.read fun before => rule.each fun payload member => rule.read fun now => ?_
      split
      · exact rule.pure
      · rename_i c made
        rcases inverseCall_cases made with ⟨rfl, auto⟩ | rfl
        · rw [inversePayloads, if_pos auto] at member
          exact nested _ (.start listed found stops member)
        · exact nested _ (.stop _ listed found stops)

theorem reconcileInverse_rule (rule : Rule holds)
    (nested : ∀ c, Spawns env source action c → holds (call c)) :
    holds (reconcileInverseTranscendenceForSource env call source action) := by
  rw [reconcileInverseTranscendenceForSource]
  split
  · exact rule.pure
  · rename_i targets found
    apply rule.each
    intro target listed
    exact reconcileInverseTarget_rule rule (by rwa [targetsOf, found, Option.getD_some]) nested

theorem applyCascade_rule (rule : Rule holds)
    (nested : ∀ c, Spawns env source .apply c → holds (call c)) :
    holds (applyCascade env call source) :=
  rule.bind (reconcileTranscendence_rule rule nested) (reconcileInverse_rule rule nested)

theorem revertCascade_rule (rule : Rule holds)
    (nested : ∀ c, Spawns env source .revert c → holds (call c)) :
    holds (revertCascade env call source) :=
  rule.bind (reconcileTranscendence_rule rule nested)
    (rule.attempt (reconcileInverse_rule rule nested))

end Rules

end Rind
