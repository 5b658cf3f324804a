import Rind.Flow.Impulse
import Rind.Flow.Reach

/-!
# Announced changes

Every event is that of a change: a facet set, a branch of a facet removed, or an
impulse fired.  The messages dispatched in a run are those of its changes, in
order, each for the subscribers of the flow that changed.
-/

namespace Rind

open Prog

/-- A change of a flow. -/
structure Change where
  flowType : FlowType
  name : Ustr
  payload : FlowPayload
  action : FlowAction
  deriving DecidableEq, Repr

/-- The word `publish_to_flow_subscribers` is given for a kind of flow. -/
def FlowType.text : FlowType → String
  | .impulse => "impulse"
  | .facet => "facet"

section Registries

variable (metadata : MetadataRegistry FlowFacetMetadata)
  (impulses : MetadataRegistry FlowImpulseMetadata)

/-- The name and the subscribers in the definition of a flow. -/
def definitionOf (flowType : FlowType) (name : Ustr) :
    Option (Ustr × Option (List TransportMethod)) :=
  match flowType with
  | .facet => (metadata.find "*" name).map fun facet => (facet.name, facet.subscribers)
  | .impulse => (impulses.find "*" name).map fun impulse => (impulse.name, impulse.subscribers)

def Change.subscribers (change : Change) : List TransportMethod :=
  ((definitionOf metadata impulses change.flowType change.name).bind (·.2)).getD []

variable [SerdeJson]

def Change.event (change : Change) : FlowEvent where
  name := change.name
  payload := change.payload.toJson
  action := change.action
  flowType := change.flowType

/-- The messages dispatched for the subscribers of a change. -/
def Change.messages (change : Change) : List SubscriberMessage :=
  subscriberMessages change.name change.flowType.text change.payload.toJson change.action
    (change.subscribers metadata impulses)

/-- The second state has the events and the messages of some more changes. -/
def Announces (state state' : FlowState) : Prop :=
  ∃ changes : List Change, state'.events = state.events ++ changes.map Change.event ∧
    state'.messages = state.messages ++ changes.flatMap (Change.messages metadata impulses)

namespace Announces

variable {metadata impulses} {state state' state'' : FlowState}

theorem silent (events : state'.events = state.events) (messages : state'.messages = state.messages) :
    Announces metadata impulses state state' :=
  ⟨[], by simp [events], by simp [messages]⟩

theorem refl (state : FlowState) : Announces metadata impulses state state := silent rfl rfl

theorem trans (first : Announces metadata impulses state state')
    (second : Announces metadata impulses state' state'') :
    Announces metadata impulses state state'' := by
  obtain ⟨changes, events, messages⟩ := first
  obtain ⟨changes', events', messages'⟩ := second
  exact ⟨changes ++ changes', by simp [events', events], by simp [messages', messages]⟩

theorem one (change : Change) (events : state'.events = state.events ++ [change.event])
    (messages : state'.messages = state.messages ++ change.messages metadata impulses) :
    Announces metadata impulses state state' :=
  ⟨[change], events, by simpa using messages⟩

end Announces

/-- Announcing changes only passes through programs. -/
theorem announces_rule {inv : FlowState → Prop} :
    Rule (Within (ε := CoreError) inv (Announces metadata impulses)) :=
  Within.rule Announces.refl fun _ _ _ => Announces.trans

end Registries

variable [SerdeJson] {metadata : MetadataRegistry FlowFacetMetadata}
  {impulses : MetadataRegistry FlowImpulseMetadata}

/-! ## Impulses -/

section Impulses

variable {inv : FlowState → Prop}
  (keeps : ∀ state event messages, inv state → inv (FlowState.announce event messages state))

include keeps

theorem impulse_announces (name : Ustr) (payload : Option FlowPayload) :
    Within inv (Announces metadata impulses) (impulse impulses name payload) := by
  intro state holds result final ran
  rw [impulse] at ran
  cases found : impulses.find "*" name with
  | none =>
      rw [found] at ran
      cases ran
      exact ⟨holds, .refl _⟩
  | some definition =>
      simp only [found] at ran
      split at ran
      · cases ran
        exact ⟨holds, .refl _⟩
      · cases ran
        refine ⟨keeps _ _ _ holds, .one ⟨.impulse, name, payload.getD (.none false), .apply⟩ rfl ?_⟩
        simp [FlowState.announce, Change.messages, Change.subscribers, definitionOf, found,
          impulseMessages, subscriberMessages, FlowType.text]

theorem emitOnce_announces (emitted : List Ustr) (dependents : List (Ustr × FlowPayload)) :
    Within inv (Announces metadata impulses) (emitOnce impulses emitted dependents) := by
  induction dependents generalizing emitted with
  | nil => exact (announces_rule metadata impulses).pure
  | cons dependent rest ih =>
      rw [emitOnce]
      split
      · exact ih emitted
      · apply (announces_rule metadata impulses).bind
        · exact (announces_rule metadata impulses).attempt (impulse_announces keeps _ _)
        · exact ih _

theorem reconcileImpulse_announces (source : FlowInstance) :
    Within inv (Announces metadata impulses)
      (reconcileImpulseTranscendence impulses source) := by
  apply (announces_rule metadata impulses).read
  intro state
  exact emitOnce_announces keeps _ _

/-- An impulse and the ones it fires are announced one by one. -/
theorem fireImpulse_announces (name : Ustr) (payload : FlowPayload) :
    Within inv (Announces metadata impulses) (fireImpulse impulses name payload) :=
  (announces_rule metadata impulses).bind (impulse_announces keeps _ _)
    (reconcileImpulse_announces keeps _)

end Impulses

/-! ## Facets -/

variable {env : FlowEnv}

theorem announced_announces (same : env.metadata = metadata) {name : Ustr}
    {payload : Option FlowPayload} {facet : FlowFacetMetadata} (found : env.find name = some facet)
    (state : FlowState) :
    Announces metadata impulses state
      (announced facet name payload (state.record (.setFacet name payload))) := by
  apply Announces.one ⟨.facet, name, payload.getD (.none false), .apply⟩ rfl
  have defined : metadata.find "*" name = some facet := same ▸ found
  simp [announced, FlowState.announce, FlowState.enter, FlowState.record, Change.messages,
    Change.subscribers, definitionOf, defined, applyMessages, subscriberMessages, FlowType.text,
    freshInstance]

theorem revertAnnounced_announces (same : env.metadata = metadata) {name : Ustr}
    {branch : FlowInstance} (named : branch.name = name) (state : FlowState) :
    Announces metadata impulses state (revertAnnounced env name branch state) := by
  subst named
  subst same
  apply Announces.one ⟨.facet, branch.name, branch.payload, .revert⟩ rfl
  cases found : env.metadata.find "*" branch.name <;>
    simp [revertAnnounced, FlowState.announce, FlowState.enter, Change.messages,
      Change.subscribers, definitionOf, found, revertMessages, facetSubscribersFor, FlowEnv.find,
      subscriberMessages, FlowType.text]

section Routines

variable [TomlText] {call : Call → FlowProg Unit}

theorem setFacet_announces (same : env.metadata = metadata)
    (nested : ∀ c, Within SelfNamed (Announces metadata impulses) (call c)) (name : Ustr)
    (payload : Option FlowPayload) :
    Within SelfNamed (Announces metadata impulses) (flowBody env call (.setFacet name payload)) := by
  intro start named result final ran
  have recorded : SelfNamed (start.record (.setFacet name payload)) := named
  have announcedNamed {facet : FlowFacetMetadata} :
      SelfNamed (announced facet name payload (start.record (.setFacet name payload))) := named
  have cascaded {facet : FlowFacetMetadata} {branches : List FlowInstance}
      (found : env.find name = some facet)
      (stored : storeInstance facet (freshInstance name payload) (start.facets.instances name) =
        some branches) {result : Except CoreError Unit} {final : FlowState}
      (ran : applyCascade env call (freshInstance name payload)
        ((announced facet name payload (start.record (.setFacet name payload))).put name
          branches) = some (result, final)) :
      SelfNamed final ∧ Announces metadata impulses start final := by
    have putNamed : SelfNamed ((announced facet name payload
        (start.record (.setFacet name payload))).put name branches) :=
      Named.store announcedNamed rfl stored
    obtain ⟨named', announces⟩ :=
      applyCascade_rule (announces_rule metadata impulses) (fun c _ => nested c) _ putNamed _ _ ran
    have first : Announces metadata impulses start
        (announced facet name payload (start.record (.setFacet name payload))) :=
      announced_announces same found start
    exact ⟨named', first.trans (.trans (.silent rfl rfl) announces)⟩
  cases setFacet_cases ran with
  | guarded member => exact ⟨recorded, .silent rfl rfl⟩
  | unknown fresh absent => exact ⟨recorded, .silent rfl rfl⟩
  | mismatch fresh facet found wrong => exact ⟨recorded, .silent rfl rfl⟩
  | unkeyed fresh facet found typed missing =>
      have first : Announces metadata impulses start
          (announced facet name payload (start.record (.setFacet name payload))) :=
        announced_announces same found start
      have touched := announcedNamed.quiet (Quiet.touch (announced facet name payload
        (start.record (.setFacet name payload))) name)
      exact ⟨touched, first.trans (.silent rfl rfl)⟩
  | failed fresh facet found typed branches stored err _ cascade =>
      exact cascaded found stored cascade
  | done fresh facet found typed branches stored middle cascade =>
      obtain ⟨named', announces⟩ := cascaded found stored cascade
      exact ⟨named', announces.trans (.silent rfl rfl)⟩

theorem revertBranch_announces (same : env.metadata = metadata)
    (nested : ∀ c, Within SelfNamed (Announces metadata impulses) (call c)) {name : Ustr}
    {stored : FlowInstance} (self : stored.name = name) :
    Within SelfNamed (Announces metadata impulses) (revertBranch env call name stored) := by
  intro start named result final ran
  have first : Announces metadata impulses start
      (revertAnnounced env name { stored with type := .facet } start) :=
    revertAnnounced_announces same self start
  have afterFirst : SelfNamed (revertAnnounced env name { stored with type := .facet } start) :=
    named
  cases revertBranch_cases ran with
  | guarded member => exact ⟨named, .refl _⟩
  | failed fresh err _ cascade =>
      obtain ⟨named', announces⟩ := reconcileTranscendence_rule (announces_rule metadata impulses)
        (fun c _ => nested c) _ afterFirst _ _ cascade
      exact ⟨named', first.trans announces⟩
  | done fresh middle cascade inner last inverse =>
      obtain ⟨named', announces⟩ := reconcileTranscendence_rule (announces_rule metadata impulses)
        (fun c _ => nested c) _ afterFirst _ _ cascade
      obtain ⟨named'', announces'⟩ := reconcileInverse_rule (announces_rule metadata impulses)
        (fun c _ => nested c) _ named' _ _ inverse
      exact ⟨named'', first.trans (announces.trans (announces'.trans (.silent rfl rfl)))⟩

theorem removeFacet_announces (same : env.metadata = metadata)
    (nested : ∀ c, Within SelfNamed (Announces metadata impulses) (call c)) (name : Ustr)
    (filter : Option FlowMatchOperation) :
    Within SelfNamed (Announces metadata impulses)
      (flowBody env call (.removeFacet name filter)) := by
  intro start named result final ran
  have loop {branches : List FlowInstance} (found : start.facets.lookup name = some branches) :
      Within SelfNamed (Announces metadata impulses)
        (each (branches.filter (removes filter)) (revertBranch env call name)) := by
    apply (announces_rule metadata impulses).each
    intro branch member
    apply revertBranch_announces same nested
    apply named name branch
    rw [Facets.instances, found, Option.getD_some]
    exact List.mem_of_mem_filter member
  have taken : SelfNamed ((start.record (.removeFacet name filter)).take name) :=
    Named.take named name
  cases removeFacet_cases ran with
  | absent missing => exact ⟨named, .silent rfl rfl⟩
  | failed branches found err _ cascade =>
      obtain ⟨named', announces⟩ := loop found _ taken _ _ cascade
      exact ⟨named', .trans (.silent rfl rfl) announces⟩
  | done branches found middle cascade =>
      obtain ⟨named', announces⟩ := loop found _ taken _ _ cascade
      have together := Announces.trans (.silent rfl rfl) announces
      rw [Rind.putBack]
      split
      · exact ⟨named', together⟩
      · refine ⟨named.putBack named' fun branch member => ?_, together.trans (.silent rfl rfl)⟩
        rw [FlowState.record_facets] at found
        rw [Facets.instances, found, Option.getD_some]
        exact List.mem_of_mem_filter member

/-- Every call, with all it sets off, announces changes only. -/
theorem exec_announces (same : env.metadata = metadata) (c : Call) :
    Within SelfNamed (Announces metadata impulses) (exec env c) := by
  have step (call : Call → FlowProg Unit)
      (nested : ∀ c, True → Within SelfNamed (Announces metadata impulses) (call c)) (c : Call)
      (_ : True) : Within SelfNamed (Announces metadata impulses) (flowBody env call c) := by
    cases c with
    | setFacet name payload => exact setFacet_announces same (fun c => nested c trivial) _ _
    | removeFacet name filter => exact removeFacet_announces same (fun c => nested c trivial) _ _
  exact fixpoint_within (flowBody_monotone env) step trivial

theorem bootstrap_announces (nested : ∀ c, Within SelfNamed (Announces metadata impulses) (call c)) :
    Within SelfNamed (Announces metadata impulses) (bootstrap env call) := by
  apply (announces_rule metadata impulses).read
  intro state
  apply (announces_rule metadata impulses).bind
  · apply (announces_rule metadata impulses).each
    intro source listed
    exact reconcileTranscendence_rule (announces_rule metadata impulses) fun c _ => nested c
  · apply (announces_rule metadata impulses).each
    intro source listed
    exact reconcileInverse_rule (announces_rule metadata impulses) fun c _ => nested c

end Routines

/-! ## Runs -/

/-- The states that sequences of actions of the flow runtime lead to from a
loaded graph, whatever the actions return. The definitions stay the same. -/
inductive FlowRun [TomlText] (metadata : MetadataRegistry FlowFacetMetadata)
    (impulses : MetadataRegistry FlowImpulseMetadata) : FlowState → Prop where
  | loaded {state : FlowState} (named : SelfNamed state) (events : state.events = [])
      (messages : state.messages = []) : FlowRun metadata impulses state
  | bootstrap {env : FlowEnv} {state final : FlowState} {result : Except CoreError Unit}
      (same : env.metadata = metadata) (before : FlowRun metadata impulses state)
      (ran : bootstrap env (exec env) state.unguarded = some (result, final)) :
      FlowRun metadata impulses final
  | call {env : FlowEnv} {c : Call} {state final : FlowState} {result : Except CoreError Unit}
      (same : env.metadata = metadata) (before : FlowRun metadata impulses state)
      (ran : exec env c state.unguarded = some (result, final)) : FlowRun metadata impulses final
  | impulse {name : Ustr} {payload : Option Json} {state final : FlowState}
      {result : Except CoreError Unit} (before : FlowRun metadata impulses state)
      (ran : impulseAction impulses name payload state = some (result, final)) :
      FlowRun metadata impulses final

theorem FlowRun.replay [TomlText] {env : FlowEnv} {depth : Nat} {calls : List Call}
    {state final : FlowState} (run : FlowRun env.metadata impulses state)
    (ran : replay env depth calls state = some final) : FlowRun env.metadata impulses final := by
  induction calls generalizing state with
  | nil =>
      cases ran
      exact run
  | cons c rest ih =>
      obtain ⟨result, next, finished, ran⟩ := exec_of_replay ran
      exact ih (.call rfl run finished) ran

/-- The events and the messages of a run are those of its changes. -/
theorem FlowRun.changes [TomlText] {state : FlowState} (run : FlowRun metadata impulses state) :
    ∃ changes : List Change, state.events = changes.map Change.event ∧
      state.messages = changes.flatMap (Change.messages metadata impulses) := by
  -- the names are needed along the run: a branch is announced under its own name
  have along : SelfNamed state ∧ ∃ first : FlowState, first.events = [] ∧ first.messages = [] ∧
      Announces metadata impulses first state := by
    have extend {before after final : FlowState} {body : FlowProg Unit}
        {result : Except CoreError Unit} (quiet : Quiet before after)
        (unchanged : Announces metadata impulses before after)
        (within : Within SelfNamed (Announces metadata impulses) body)
        (ran : body after = some (result, final))
        (ih : SelfNamed before ∧ ∃ first : FlowState, first.events = [] ∧ first.messages = [] ∧
          Announces metadata impulses first before) :
        SelfNamed final ∧ ∃ first : FlowState, first.events = [] ∧ first.messages = [] ∧
          Announces metadata impulses first final := by
      obtain ⟨named, first, events, messages, announces⟩ := ih
      obtain ⟨named', announces'⟩ := within after (named.quiet quiet) _ _ ran
      exact ⟨named', first, events, messages, announces.trans (unchanged.trans announces')⟩
    induction run with
    | loaded named events messages => exact ⟨named, _, events, messages, .refl _⟩
    | bootstrap same before ran ih =>
        exact extend (.unguarded _) (.silent rfl rfl) (bootstrap_announces (exec_announces same))
          ran ih
    | call same before ran ih =>
        exact extend (.unguarded _) (.silent rfl rfl) (exec_announces same _) ran ih
    | @impulse name payload _ _ _ before ran ih =>
        have within : Within SelfNamed (Announces metadata impulses)
            (impulseAction impulses name payload) :=
          fireImpulse_announces (fun _ _ _ named => named) _ _
        exact extend (.refl _) (.refl _) within ran ih
  obtain ⟨-, first, events, messages, changes, events', messages'⟩ := along
  exact ⟨changes, by simp [events', events], by simp [messages', messages]⟩

end Rind
