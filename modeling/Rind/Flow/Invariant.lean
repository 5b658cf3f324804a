import Rind.Flow.Cascade

/-!
# Invariants of cascades

`Invariant` collects what has to be checked about the elementary changes of the
graph so that a property holds throughout a call and everything it sets off:
storing a payload, taking an entry out and putting the kept branches back.
-/

namespace Rind

open Prog

/-- A property of the instances of each name survives replacing one entry. -/
theorem FlowState.forall_put (holds : Ustr → List FlowInstance → Prop) {state : FlowState}
    {name : Ustr} {branches : List FlowInstance} (stored : holds name branches)
    (before : ∀ other, holds other (state.facets.instances other)) :
    ∀ other, holds other ((state.put name branches).facets.instances other) := by
  intro other
  by_cases same : other = name
  · subst same
    rwa [put_facets, Facets.instances_insert_self]
  · rw [put_facets, Facets.instances_insert_of_ne _ same]
    exact before other

theorem FlowState.forall_take (holds : Ustr → List FlowInstance → Prop) {state : FlowState}
    {name : Ustr} (none : holds name [])
    (before : ∀ other, holds other (state.facets.instances other)) :
    ∀ other, holds other ((state.take name).facets.instances other) := by
  intro other
  by_cases same : other = name
  · subst same
    rwa [take_facets, Facets.instances_erase_self]
  · rw [take_facets, Facets.instances_erase_of_ne _ same]
    exact before other

variable [SerdeJson] [TomlText]

/-- The call has been noted on the same instances, with its guard key still free. -/
def Recorded (name : Ustr) (payload : Option FlowPayload) (state : FlowState) : Prop :=
  ∃ record ∈ state.calls, record.call = .setFacet name payload ∧
    record.facets.instances name = state.facets.instances name ∧
    applyKey name payload ∉ record.guard

/-- A step that leaves the instances and the noted calls alone, and takes no
event or message back. -/
structure Quiet (state state' : FlowState) : Prop where
  instances : ∀ name, state'.facets.instances name = state.facets.instances name
  calls : state'.calls = state.calls
  events : state.events <+: state'.events
  messages : state.messages <+: state'.messages

namespace Quiet

variable (state : FlowState)

omit [SerdeJson] [TomlText]

theorem refl : Quiet state state :=
  ⟨fun _ => rfl, rfl, List.prefix_refl _, List.prefix_refl _⟩

variable {state} in
theorem trans {state' state'' : FlowState} (first : Quiet state state')
    (second : Quiet state' state'') : Quiet state state'' :=
  ⟨fun name => (second.instances name).trans (first.instances name),
    second.calls.trans first.calls, first.events.trans second.events,
    first.messages.trans second.messages⟩

theorem enter (key : Ustr) : Quiet state (state.enter key) :=
  ⟨fun _ => rfl, rfl, List.prefix_refl _, List.prefix_refl _⟩

theorem leave (key : Ustr) : Quiet state (state.leave key) :=
  ⟨fun _ => rfl, rfl, List.prefix_refl _, List.prefix_refl _⟩

theorem announce (event : FlowEvent) (messages : List SubscriberMessage) :
    Quiet state (state.announce event messages) :=
  ⟨fun _ => rfl, rfl, List.prefix_append _ _, List.prefix_append _ _⟩

theorem unguarded : Quiet state { state with guard := ∅ } :=
  ⟨fun _ => rfl, rfl, List.prefix_refl _, List.prefix_refl _⟩

/-- Creating the entry of a name changes no instances. -/
theorem touch (name : Ustr) : Quiet state (state.put name (state.facets.instances name)) := by
  refine ⟨fun other => ?_, rfl, List.prefix_refl _, List.prefix_refl _⟩
  by_cases same : other = name
  · subst same
    rw [FlowState.put_facets, Facets.instances_insert_self]
  · rw [FlowState.put_facets, Facets.instances_insert_of_ne _ same]

end Quiet

/-- A property of states and a relation between the first and the last state
that the elementary changes of every call in `good` keep. -/
structure Steps (env : FlowEnv) (good : Call → Prop) (inv : FlowState → Prop)
    (rel : FlowState → FlowState → Prop) : Prop where
  refl : ∀ state, rel state state
  trans : ∀ a b c, rel a b → rel b c → rel a c
  quiet : ∀ state state' : FlowState, Quiet state state' → inv state →
    inv state' ∧ rel state state'
  record : ∀ c state, good c → inv state →
    inv (FlowState.record c state) ∧ rel state (state.record c)
  store : ∀ name payload facet branches state, good (.setFacet name payload) →
    Recorded name payload state → env.find name = some facet →
    payloadTypeOk facet.payload (freshInstance name payload).payload →
    storeInstance facet (freshInstance name payload) (state.facets.instances name) =
      some branches →
    inv state → inv (state.put name branches) ∧ rel state (state.put name branches)
  take : ∀ name filter state, good (.removeFacet name filter) → inv state →
    inv (state.take name) ∧ rel state (state.take name)
  putBack : ∀ name filter toKeep state state', good (.removeFacet name filter) →
    toKeep = (state.facets.instances name).filter (!removes filter ·) → toKeep ≠ [] →
    inv state → inv state' → rel (state.take name) state' →
    inv (state'.put name toKeep) ∧ rel state (state'.put name toKeep)

/-- Steps of calls that only lead to calls of the same kind. -/
structure Invariant (env : FlowEnv) (good : Call → Prop) (inv : FlowState → Prop)
    (rel : FlowState → FlowState → Prop) : Prop extends Steps env good inv rel where
  applied : ∀ name payload c, good (.setFacet name payload) →
    Spawns env (freshInstance name payload) .apply c → good c
  reverted : ∀ name filter branch state c, good (.removeFacet name filter) → inv state →
    branch ∈ state.facets.instances name →
    Spawns env { branch with type := .facet } .revert c → good c

namespace Steps

variable {env : FlowEnv} {good : Call → Prop} {inv : FlowState → Prop}
  {rel : FlowState → FlowState → Prop} {call : Call → FlowProg Unit}

omit [TomlText] in
theorem rule (steps : Steps env good inv rel) :
    Rule (Within (ε := CoreError) inv rel) :=
  Within.rule steps.refl steps.trans

section Chain

omit [TomlText]

variable {first state state' : FlowState}

/-- A state reached from `first`, and one step more. -/
theorem chain (steps : Steps env good inv rel) (reached : inv state ∧ rel first state)
    (step : inv state → inv state' ∧ rel state state') : inv state' ∧ rel first state' := by
  obtain ⟨holds, moved⟩ := reached
  obtain ⟨holds', moved'⟩ := step holds
  exact ⟨holds', steps.trans _ _ _ moved moved'⟩

theorem chain_quiet (steps : Steps env good inv rel)
    (reached : inv state ∧ rel first state) (quiet : Quiet state state') :
    inv state' ∧ rel first state' :=
  steps.chain reached (steps.quiet state state' quiet)

theorem chain_within (steps : Steps env good inv rel)
    (reached : inv state ∧ rel first state) {body : FlowProg Unit}
    (within : Within inv rel body) {result : Except CoreError Unit}
    (ran : body state = some (result, state')) : inv state' ∧ rel first state' :=
  steps.chain reached fun holds => within state holds result state' ran

end Chain

theorem setFacet_within (steps : Steps env good inv rel) {name : Ustr}
    {payload : Option FlowPayload} (goodCall : good (.setFacet name payload))
    (nested : ∀ c, Spawns env (freshInstance name payload) .apply c → Within inv rel (call c)) :
    Within inv rel (flowBody env call (.setFacet name payload)) := by
  intro start startHolds result final ran
  have noted := steps.record _ start goodCall startHolds
  have cascadeWithin : Within inv rel (applyCascade env call (freshInstance name payload)) :=
    applyCascade_rule steps.rule nested
  have announcedHolds (facet : FlowFacetMetadata) :
      inv (announced facet name payload (start.record (.setFacet name payload))) ∧
        rel start (announced facet name payload (start.record (.setFacet name payload))) :=
    steps.chain_quiet (steps.chain_quiet noted (.enter _ _)) (.announce _ _ _)
  have stored {facet : FlowFacetMetadata} {branches : List FlowInstance}
      (fresh : applyKey name payload ∉ start.guard) (found : env.find name = some facet)
      (typed : payloadTypeOk facet.payload (freshInstance name payload).payload)
      (storedAs : storeInstance facet (freshInstance name payload)
        (start.facets.instances name) = some branches) :
      inv ((announced facet name payload (start.record (.setFacet name payload))).put name
        branches) ∧
      rel start ((announced facet name payload (start.record (.setFacet name payload))).put name
        branches) := by
    have recorded : Recorded name payload
        (announced facet name payload (start.record (.setFacet name payload))) :=
      ⟨⟨.setFacet name payload, start.facets, start.guard⟩,
        by simp [announced, FlowState.record], rfl, rfl, fresh⟩
    exact steps.chain (announcedHolds facet)
      (steps.store name payload facet branches _ goodCall recorded found typed storedAs)
  cases setFacet_cases ran with
  | guarded member => exact noted
  | unknown fresh absent => exact steps.chain_quiet noted (.enter _ _)
  | mismatch fresh facet found wrong =>
      exact steps.chain_quiet (steps.chain_quiet noted (.enter _ _)) (.leave _ _)
  | unkeyed fresh facet found typed missing =>
      exact steps.chain_quiet (steps.chain_quiet (announcedHolds facet) (.touch _ name))
        (.leave _ _)
  | failed fresh facet found typed branches storedAs err _ cascade =>
      exact steps.chain_within (stored fresh found typed storedAs) cascadeWithin cascade
  | done fresh facet found typed branches storedAs middle cascade =>
      exact steps.chain_quiet
        (steps.chain_within (stored fresh found typed storedAs) cascadeWithin cascade)
        (.leave _ _)

theorem revertBranch_within (steps : Steps env good inv rel)
    (name : Ustr) (stored : FlowInstance)
    (nested : ∀ c, Spawns env { stored with type := .facet } .revert c →
      Within inv rel (call c)) :
    Within inv rel (revertBranch env call name stored) := by
  intro start startHolds result final ran
  have announcedHolds :
      inv (revertAnnounced env name { stored with type := .facet } start) ∧
        rel start (revertAnnounced env name { stored with type := .facet } start) :=
    steps.chain_quiet
      (steps.chain_quiet ⟨startHolds, steps.refl start⟩ (.enter _ _)) (.announce _ _ _)
  cases revertBranch_cases ran with
  | guarded member => exact ⟨startHolds, steps.refl start⟩
  | failed fresh err _ cascade =>
      exact steps.chain_within announcedHolds
        (reconcileTranscendence_rule steps.rule nested) cascade
  | done fresh middle cascade inner last inverse =>
      have afterCascade := steps.chain_within announcedHolds
        (reconcileTranscendence_rule steps.rule nested) cascade
      have afterInverse := steps.chain_within afterCascade
        (reconcileInverse_rule steps.rule nested) inverse
      exact steps.chain_quiet afterInverse (.leave _ _)

theorem removeFacet_within (steps : Steps env good inv rel) {name : Ustr}
    {filter : Option FlowMatchOperation} (goodCall : good (.removeFacet name filter))
    (nested : ∀ state branch c, inv state → branch ∈ state.facets.instances name →
      Spawns env { branch with type := .facet } .revert c → Within inv rel (call c)) :
    Within inv rel (flowBody env call (.removeFacet name filter)) := by
  intro start startHolds result final ran
  have noted := steps.record _ start goodCall startHolds
  have taken := steps.chain noted (steps.take name filter _ goodCall)
  have loopWithin {branches : List FlowInstance}
      (found : start.facets.lookup name = some branches) :
      Within inv rel (each (branches.filter (removes filter)) (revertBranch env call name)) := by
    apply steps.rule.each
    intro branch member
    apply steps.revertBranch_within
    intro c spawned
    refine nested start branch c startHolds ?_ spawned
    rw [Facets.instances, found, Option.getD_some]
    exact List.mem_of_mem_filter member
  cases removeFacet_cases ran with
  | absent missing => exact noted
  | failed branches found err _ cascade =>
      exact steps.chain_within taken (loopWithin found) cascade
  | done branches found middle cascade =>
      rw [Rind.putBack]
      split
      · exact steps.chain_within taken (loopWithin found) cascade
      · rename_i nonempty
        refine steps.chain noted fun holds => ?_
        obtain ⟨takenHolds, -⟩ := steps.take name filter _ goodCall holds
        obtain ⟨holds', moved⟩ := loopWithin found _ takenHolds _ _ cascade
        exact steps.putBack name filter _ _ middle goodCall
          (by rw [Facets.instances, found, Option.getD_some])
          (by simpa using nonempty) holds holds' moved

end Steps

namespace Invariant

variable {env : FlowEnv} {good : Call → Prop} {inv : FlowState → Prop}
  {rel : FlowState → FlowState → Prop}

/-- Every call in `good`, with all the calls it sets off, keeps the invariant. -/
theorem exec_within (invariant : Invariant env good inv rel) {c : Call} (goodCall : good c) :
    Within inv rel (exec env c) := by
  apply fixpoint_within (flowBody_monotone env) _ goodCall
  intro call nested c goodCall
  cases c with
  | setFacet name payload =>
      exact invariant.setFacet_within goodCall fun c spawned =>
        nested c (invariant.applied name payload c goodCall spawned)
  | removeFacet name filter =>
      exact invariant.removeFacet_within goodCall fun state branch c holds stored spawned =>
        nested c (invariant.reverted name filter branch state c goodCall holds stored spawned)

/-- Every call that is noted is one of the same kind. -/
theorem noted (invariant : Invariant env good inv rel) :
    Invariant env good inv fun state state' => rel state state' ∧
      ∀ record ∈ state'.calls, record ∈ state.calls ∨ good record.call where
  refl state := ⟨invariant.refl state, fun _ member => .inl member⟩
  trans a b c left right := by
    refine ⟨invariant.trans _ _ _ left.1 right.1, fun record member => ?_⟩
    exact (right.2 record member).elim (left.2 record) .inr
  quiet state state' quiet holds := by
    obtain ⟨holds', moved⟩ := invariant.quiet state state' quiet holds
    exact ⟨holds', moved, fun record member => .inl (quiet.calls ▸ member)⟩
  record c state goodCall holds := by
    obtain ⟨holds', moved⟩ := invariant.record c state goodCall holds
    refine ⟨holds', moved, fun record member => ?_⟩
    rcases List.mem_append.mp member with old | new
    · exact .inl old
    · rw [List.mem_singleton.mp new]
      exact .inr goodCall
  store name payload facet branches state goodCall recorded found typed stored holds := by
    obtain ⟨holds', moved⟩ :=
      invariant.store name payload facet branches state goodCall recorded found typed stored holds
    exact ⟨holds', moved, fun _ member => .inl member⟩
  take name filter state goodCall holds := by
    obtain ⟨holds', moved⟩ := invariant.take name filter state goodCall holds
    exact ⟨holds', moved, fun _ member => .inl member⟩
  putBack name filter toKeep state state' goodCall kept nonempty holds holds' moved := by
    obtain ⟨holds'', moved'⟩ :=
      invariant.putBack name filter toKeep state state' goodCall kept nonempty holds holds' moved.1
    exact ⟨holds'', moved', moved.2⟩
  applied := invariant.applied
  reverted := invariant.reverted

end Invariant

/-! ## Runs -/

/-- The graph before any call. -/
def FlowState.empty : FlowState where
  facets := ∅
  guard := ∅
  events := []
  messages := []
  calls := []

/-- Every call from outside starts with an empty guard. -/
def FlowState.unguarded (state : FlowState) : FlowState := { state with guard := ∅ }

/-- The states that finite sequences of calls lead to, whatever they return. The
variables and the visiting orders may differ from call to call. -/
inductive Reachable (metadata : MetadataRegistry FlowFacetMetadata) : FlowState → Prop where
  | empty : Reachable metadata .empty
  | call {env : FlowEnv} {c : Call} {state final : FlowState} {result : Except CoreError Unit}
      (same : env.metadata = metadata) (before : Reachable metadata state)
      (ran : exec env c state.unguarded = some (result, final)) : Reachable metadata final

/-- The states that sequences of allowed calls lead to. -/
inductive ReachableBy (metadata : MetadataRegistry FlowFacetMetadata)
    (allowed : FlowEnv → Call → Prop) : FlowState → Prop where
  | empty : ReachableBy metadata allowed .empty
  | call {env : FlowEnv} {c : Call} {state final : FlowState} {result : Except CoreError Unit}
      (same : env.metadata = metadata) (may : allowed env c)
      (before : ReachableBy metadata allowed state)
      (ran : exec env c state.unguarded = some (result, final)) :
      ReachableBy metadata allowed final

/-- An invariant of all calls holds in every reachable state. -/
theorem Invariant.of_reachable {metadata : MetadataRegistry FlowFacetMetadata}
    {inv : FlowState → Prop} {rel : FlowState → FlowState → Prop}
    (invariant : ∀ env : FlowEnv, env.metadata = metadata →
      Invariant env (fun _ => True) inv rel)
    (empty : inv .empty) {state : FlowState} (reachable : Reachable metadata state) :
    inv state := by
  induction reachable with
  | empty => exact empty
  | @call env c state final result same before ran ih =>
      have kept := invariant env same
      obtain ⟨unguarded, -⟩ := kept.quiet state state.unguarded (.unguarded state) ih
      exact (kept.exec_within trivial _ unguarded _ _ ran).1

/-- Make some calls one after the other, each nesting at most `depth` calls. -/
def replay (env : FlowEnv) (depth : Nat) (calls : List Call) (state : FlowState) :
    Option FlowState :=
  match calls with
  | [] => some state
  | c :: rest => do
      let (_, next) ← run env depth c state.unguarded
      replay env depth rest next

/-- The first of some calls ends as it does however many calls it nests. -/
theorem exec_of_replay {env : FlowEnv} {depth : Nat} {c : Call} {rest : List Call}
    {state final : FlowState} (ran : replay env depth (c :: rest) state = some final) :
    ∃ result next, exec env c state.unguarded = some (result, next) ∧
      replay env depth rest next = some final := by
  rw [replay, Option.bind_eq_bind, Option.bind_eq_some_iff] at ran
  obtain ⟨⟨result, next⟩, first, ran⟩ := ran
  exact ⟨result, next, exec_of_run first, ran⟩

theorem Reachable.replay {env : FlowEnv} {depth : Nat} {calls : List Call}
    {state final : FlowState} (reachable : Reachable env.metadata state)
    (ran : replay env depth calls state = some final) : Reachable env.metadata final := by
  induction calls generalizing state with
  | nil =>
      cases ran
      exact reachable
  | cons c rest ih =>
      obtain ⟨result, next, finished, ran⟩ := exec_of_replay ran
      exact ih (.call rfl reachable finished) ran

theorem ReachableBy.replay {env : FlowEnv} {allowed : FlowEnv → Call → Prop} {depth : Nat}
    {calls : List Call} (may : ∀ c ∈ calls, allowed env c) {state final : FlowState}
    (reachable : ReachableBy env.metadata allowed state)
    (ran : replay env depth calls state = some final) :
    ReachableBy env.metadata allowed final := by
  induction calls generalizing state with
  | nil =>
      cases ran
      exact reachable
  | cons c rest ih =>
      obtain ⟨result, next, finished, ran⟩ := exec_of_replay ran
      obtain ⟨mayFirst, mayRest⟩ := List.forall_mem_cons.mp may
      exact ih mayRest (.call rfl mayFirst reachable finished) ran

end Rind
