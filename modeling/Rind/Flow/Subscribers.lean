import Rind.Flow.Ingest

/-!
# What subscribers receive

A subscriber is a transport with an endpoint at which its clients are.  Each
message to a subscriber is sent to an endpoint, and reaches everyone there.
-/

namespace Rind

/-- The endpoint that the options of a transport give. -/
def transportEndpoint : TransportMethod → Option Ustr
  | .options _ options _ =>
      options.head?.bind fun option =>
        if (Text.stripPrefix "addr:" option).isSome then
          some (Text.trimStartMatches "addr:" option)
        else none
  | _ => none

/-- The transports that `setup_transport_endpoint` opens a stream for. -/
def streamed (subscriber : TransportMethod) : Bool :=
  transportId subscriber == "uds" || transportId subscriber == "shm" ||
    (Text.stripPrefix "route:" (transportId subscriber)).isSome

/-- The endpoint that is set up for a subscriber of the flow with a full name. -/
def subscriberEndpoint (fullName : Ustr) (subscriber : TransportMethod) : Ustr :=
  if transportId subscriber = "uds" ∨ transportId subscriber = "shm" then
    (transportEndpoint subscriber).getD fullName
  else Text.trimStartMatches "route:" (transportId subscriber)

/-- The message of a transmission that reaches a subscriber. -/
def reaches (fullName : Ustr) (subscriber : TransportMethod) :
    Outgoing → Option TransportMessage
  | .stdio endpoint message =>
      if !streamed subscriber && endpoint == subscriberEndpoint fullName subscriber then
        some message
      else none
  | .streams endpoint message =>
      if endpoint = subscriberEndpoint fullName subscriber then some message else none

/-- The endpoint that `publish_to_flow_subscribers` takes for a subscriber. -/
def publishEndpoint (name : Ustr) (subscriber : TransportMethod) : Ustr :=
  let id := transportId subscriber
  if (Text.stripPrefix "route:" id).isSome ∨ (id ≠ "uds" ∧ id ≠ "shm") then
    Text.trimStartMatches "route:" id
  else name

def FlowAction.messageAction : FlowAction → TransportMessageAction
  | .apply => .set
  | .revert => .remove

/-- The message that a subscriber expects of a change. -/
def Change.expected (change : Change) : TransportMessage where
  type := change.flowType.messageType
  payload := some change.payload
  branch := none
  name := some change.name
  action := change.action.messageAction

section Served

variable (metadata : MetadataRegistry FlowFacetMetadata)
  (impulses : MetadataRegistry FlowImpulseMetadata) (stdioEndpoints : List Ustr)

/-- The full name of the flow that changed. -/
def Change.fullName (change : Change) : Ustr :=
  rslvns (parseScopedName change.name).parent
    (((definitionOf metadata impulses change.flowType change.name).map (·.1)).getD "")

variable [SerdeJson]

/-- What is sent for the subscribers of a change. -/
def Change.sent (change : Change) : List Outgoing :=
  (change.messages metadata impulses).map fun message => send stdioEndpoints message.request

/-- Every subscriber receives the one message that it expects. -/
def Served (change : Change) : Prop :=
  ∀ subscriber ∈ change.subscribers metadata impulses,
    (change.sent metadata impulses stdioEndpoints).filterMap
      (reaches (change.fullName metadata impulses) subscriber) = [change.expected]

/-- A flow without subscribers, or a facet with one subscriber whose clients are
at the name of the facet, and that name is not the one of a standard input. The
payload comes through its JSON value. -/
def Servable (change : Change) : Prop :=
  change.subscribers metadata impulses = [] ∨
    change.flowType = .facet ∧ change.payload.Portable ∧
      ∃ subscriber, change.subscribers metadata impulses = [subscriber] ∧
        subscriberEndpoint (change.fullName metadata impulses) subscriber = change.name ∧
        (streamed subscriber → change.name ∉ stdioEndpoints)

end Served

section Publish

variable [SerdeJson] {metadata : MetadataRegistry FlowFacetMetadata}
  {impulses : MetadataRegistry FlowImpulseMetadata} {stdioEndpoints : List Ustr} {change : Change}

/-- The transport message that is published to a subscriber. -/
def Change.published (change : Change) (subscriber : TransportMethod) : TransportMessage where
  type := .facet
  payload := some (FlowPayload.fromJson (some change.payload.toJson))
  branch := none
  name := some (publishEndpoint change.name subscriber)
  action := change.action.messageAction

/-- A message goes to the endpoint it is named after. -/
theorem Change.sent_eq : change.sent metadata impulses stdioEndpoints =
    (change.subscribers metadata impulses).map fun subscriber =>
      if publishEndpoint change.name subscriber ∈ stdioEndpoints then
        .stdio (publishEndpoint change.name subscriber) (change.published subscriber)
      else .streams (publishEndpoint change.name subscriber) (change.published subscriber) := by
  have message (subscriber : TransportMethod) : sendMessage
      { endpoint := publishEndpoint change.name subscriber
        name := some (publishEndpoint change.name subscriber)
        branch := none
        action := some (actionText change.action)
        type := some change.flowType.text
        payload := some change.payload.toJson } = change.published subscriber := by
    cases flowType : change.flowType <;> cases action : change.action <;>
      simp [sendMessage, Change.published, FlowType.text, actionText, action,
        FlowAction.messageAction]
  rw [Change.sent, Change.messages, subscriberMessages, List.map_map]
  apply List.map_congr_left
  intro subscriber listed
  rw [← message]
  rfl

omit [SerdeJson] in
/-- The endpoint of a subscriber at the name of the flow is the one published
to. -/
theorem publishEndpoint_of_subscriberEndpoint {fullName name : Ustr} {subscriber : TransportMethod}
    (same : subscriberEndpoint fullName subscriber = name) :
    publishEndpoint name subscriber = name := by
  rw [publishEndpoint]
  split
  · rename_i routed
    rw [subscriberEndpoint, if_neg] at same
    · exact same
    · intro stream
      rcases stream with uds | shm
      · rw [uds] at routed
        exact absurd routed (by decide +kernel)
      · rw [shm] at routed
        exact absurd routed (by decide +kernel)
  · rfl

/-- A message that reaches a subscriber as expected was published to the name of
a facet, where the subscriber is. -/
theorem Change.reached {subscriber : TransportMethod} (expected : change.expected ∈
      (change.sent metadata impulses stdioEndpoints).filterMap
        (reaches (change.fullName metadata impulses) subscriber)) :
    change.flowType = .facet ∧ change.payload.Portable ∧
      subscriberEndpoint (change.fullName metadata impulses) subscriber = change.name ∧
      (streamed subscriber → change.name ∉ stdioEndpoints) := by
  rw [Change.sent_eq, List.mem_filterMap] at expected
  obtain ⟨outgoing, listed, reached⟩ := expected
  obtain ⟨other, -, rfl⟩ := List.mem_map.mp listed
  have content : change.published other = change.expected →
      change.flowType = .facet ∧ change.payload.Portable ∧
        publishEndpoint change.name other = change.name := by
    intro same
    rw [Change.published, Change.expected, TransportMessage.mk.injEq] at same
    obtain ⟨typed, payload, -, named, -⟩ := same
    refine ⟨?_, FlowPayload.fromJson_toJson _ |>.mp (Option.some.inj payload), Option.some.inj named⟩
    cases flowType : change.flowType with
    | facet => rfl
    | impulse =>
        rw [flowType] at typed
        contradiction
  split at reached
  · rename_i stdio
    rw [reaches] at reached
    split at reached
    · rename_i there
      obtain ⟨facet, portable, named⟩ := content (Option.some.inj reached)
      simp only [Bool.and_eq_true, Bool.not_eq_true', beq_iff_eq] at there
      obtain ⟨plain, endpoint⟩ := there
      exact ⟨facet, portable, endpoint.symm.trans named, by simp [plain]⟩
    · contradiction
  · rename_i stream
    rw [reaches] at reached
    split at reached
    · rename_i endpoint
      obtain ⟨facet, portable, named⟩ := content (Option.some.inj reached)
      rw [named] at stream
      exact ⟨facet, portable, endpoint.symm.trans named, fun _ => stream⟩
    · contradiction

/-- Where every subscriber is at the name of the facet, each receives as many
messages as there are subscribers. -/
theorem Change.received_replicate (isFacet : change.flowType = .facet)
    (portable : change.payload.Portable)
    (there : ∀ subscriber ∈ change.subscribers metadata impulses,
      subscriberEndpoint (change.fullName metadata impulses) subscriber = change.name ∧
        (streamed subscriber → change.name ∉ stdioEndpoints))
    {subscriber : TransportMethod} (listed : subscriber ∈ change.subscribers metadata impulses) :
    (change.sent metadata impulses stdioEndpoints).filterMap
        (reaches (change.fullName metadata impulses) subscriber) =
      List.replicate (change.subscribers metadata impulses).length change.expected := by
  have published (other : TransportMethod)
      (member : other ∈ change.subscribers metadata impulses) :
      publishEndpoint change.name other = change.name ∧
        change.published other = change.expected := by
    have named := publishEndpoint_of_subscriberEndpoint (there other member).1
    refine ⟨named, ?_⟩
    rw [Change.published, Change.expected, named, isFacet,
      (FlowPayload.fromJson_toJson _).mpr portable]
    rfl
  obtain ⟨endpoint, apart⟩ := there subscriber listed
  have each (other : TransportMethod) (member : other ∈ change.subscribers metadata impulses) :
      (reaches (change.fullName metadata impulses) subscriber ∘ fun subscriber =>
        if publishEndpoint change.name subscriber ∈ stdioEndpoints then
          Outgoing.stdio (publishEndpoint change.name subscriber) (change.published subscriber)
        else
          Outgoing.streams (publishEndpoint change.name subscriber)
            (change.published subscriber)) other = some change.expected := by
    obtain ⟨named, message⟩ := published other member
    rw [Function.comp_apply, named, message]
    by_cases stdio : change.name ∈ stdioEndpoints
    · have plain : streamed subscriber = false := by
        rw [← Bool.not_eq_true]
        exact fun stream => apart stream stdio
      simp [stdio, reaches, endpoint, plain]
    · simp [stdio, reaches, endpoint]
  rw [Change.sent_eq, List.filterMap_map, List.filterMap_congr each, List.filterMap_eq_map',
    List.map_const']

/-- Every subscriber of a change is served where the change is servable, and only
there. -/
theorem Change.served_iff (change : Change) :
    Served metadata impulses stdioEndpoints change ↔
      Servable metadata impulses stdioEndpoints change := by
  constructor
  · intro served
    have reached (subscriber : TransportMethod)
        (listed : subscriber ∈ change.subscribers metadata impulses) :=
      Change.reached (by rw [served subscriber listed]; exact List.mem_singleton_self _)
    rw [Servable, or_iff_not_imp_left]
    intro subscribed
    obtain ⟨subscriber, listed⟩ := List.exists_mem_of_ne_nil _ subscribed
    obtain ⟨isFacet, portable, endpoint, apart⟩ := reached subscriber listed
    have copies := Change.received_replicate isFacet portable
      (fun other member => (reached other member).2.2) listed
    rw [served subscriber listed] at copies
    have single : (change.subscribers metadata impulses).length = 1 := by
      simpa using (congrArg List.length copies).symm
    obtain ⟨only, equal⟩ := List.length_eq_one_iff.mp single
    rw [equal, List.mem_singleton] at listed
    subst listed
    exact ⟨isFacet, portable, subscriber, equal, endpoint, apart⟩
  · intro servable subscriber listed
    rcases servable with none | ⟨isFacet, portable, only, equal, endpoint, apart⟩
    · rw [none] at listed
      contradiction
    · rw [Change.received_replicate isFacet portable _ listed, equal]
      · rfl
      · intro other member
        rw [equal, List.mem_singleton] at member
        subst member
        exact ⟨endpoint, apart⟩

/-- The messages of a run are those of its changes, and the subscribers of a
change are served where it is servable, and only there. -/
theorem FlowRun.subscribers_served [TomlText] {state : FlowState}
    (run : FlowRun metadata impulses state) :
    ∃ changes : List Change, state.events = changes.map Change.event ∧
      state.messages = changes.flatMap (Change.messages metadata impulses) ∧
      ∀ change ∈ changes, ∀ stdioEndpoints,
        Served metadata impulses stdioEndpoints change ↔
          Servable metadata impulses stdioEndpoints change := by
  obtain ⟨changes, events, messages⟩ := run.changes
  exact ⟨changes, events, messages, fun change _ stdioEndpoints => change.served_iff⟩

end Publish

/-! ## A facet and an impulse with a subscriber -/

section Examples

open scoped Rind.Compact

/-- A text with one subscriber over a socket. -/
def bannerFacet : FlowFacetMetadata :=
  { motdFacet with name := "banner", subscribers := some [.type "uds"] }

def bannerEnv : FlowEnv := .load (.ofGroup "static" "rind" [bannerFacet]) none

/-- An impulse with one subscriber over a socket. -/
def pings : MetadataRegistry FlowImpulseMetadata :=
  .ofGroup "static" "rind"
    [{ name := "ping", payload := .string, after := none, branch := none,
       subscribers := some [.type "uds"] }]

theorem empty_run : FlowRun bannerEnv.metadata pings .empty :=
  .loaded selfNamed_empty rfl rfl

/-- Setting the text is one change, which is servable. -/
theorem FlowRun.subscribers_served_banner :
    ∃ (state : FlowState) (changes : List Change), state.events =
        [(Change.mk .facet "rind:banner" (.string "welcome") .apply).event] ∧
      state.events = changes.map Change.event ∧
      state.messages = changes.flatMap (Change.messages bannerEnv.metadata pings) ∧
      ∀ change ∈ changes, ∀ stdioEndpoints,
        Served bannerEnv.metadata pings stdioEndpoints change ↔
          Servable bannerEnv.metadata pings stdioEndpoints change := by
  have ran : (Rind.replay bannerEnv 1 [.setFacet "rind:banner" (some (.string "welcome"))]
      .empty).map (·.events) =
      some [(Change.mk .facet "rind:banner" (.string "welcome") .apply).event] := by
    decide +kernel
  obtain ⟨state, replayed, events⟩ := Option.map_eq_some_iff.mp ran
  obtain ⟨changes, served⟩ := FlowRun.subscribers_served (empty_run.replay replayed)
  exact ⟨state, changes, events, served⟩

/-- The subscriber of an impulse receives the message of a facet. -/
theorem not_served_ping : ∃ (state : FlowState) (change : Change),
    FlowRun bannerEnv.metadata pings state ∧
    state.events = [change.event] ∧
    state.messages = change.messages bannerEnv.metadata pings ∧
    ¬ Served bannerEnv.metadata pings [] change := by
  have ran : (impulseAction pings "rind:ping" (some (.str "hello")) .empty).map
      (fun outcome => (outcome.2.events, outcome.2.messages)) =
      some ([(Change.mk .impulse "rind:ping" (.string "hello") .apply).event],
        (Change.mk .impulse "rind:ping" (.string "hello") .apply).messages
          bannerEnv.metadata pings) := by
    decide +kernel
  obtain ⟨⟨result, state⟩, fired, announced⟩ := Option.map_eq_some_iff.mp ran
  obtain ⟨events, messages⟩ := Prod.mk.inj announced
  refine ⟨state, _, .impulse empty_run fired, events, messages, fun served => ?_⟩
  exact absurd (served (.type "uds") (by decide +kernel)) (by decide +kernel)

end Examples

end Rind
