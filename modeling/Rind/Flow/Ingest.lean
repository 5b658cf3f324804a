import Rind.Flow.Announcements
import Rind.Flow.Transport

/-!
# Payloads of incoming messages

The payload of a message is turned into a JSON value where it is ingested, and
back into a payload by the action that is dispatched.  `Portable` payloads are
those that come through unchanged.
-/

namespace Rind

section Portable

variable [SerdeJson]

/-- A payload that survives the way through its JSON value: a string, the empty
payload that is not flagged, or the printed text of an object or an array. -/
def FlowPayload.Portable : FlowPayload → Prop
  | .json value => (value.intoJson.asObject.isSome ∨ value.intoJson.asArray.isSome) ∧
      SerdeJson.toText value.intoJson = value.text
  | .string _ => True
  | .bytes _ => False
  | .none flag => flag = false

instance (payload : FlowPayload) : Decidable payload.Portable := by
  cases payload <;> unfold FlowPayload.Portable <;> infer_instance

theorem FlowPayload.fromJson_toJson (payload : FlowPayload) :
    FlowPayload.fromJson (some payload.toJson) = payload ↔ payload.Portable := by
  cases payload with
  | json value =>
      obtain ⟨text⟩ := value
      cases parsed : FlowJson.intoJson ⟨text⟩ <;>
        simp [toJson, fromJson, Portable, parsed, Json.asObject, Json.asArray]
  | string text => simp [toJson, fromJson, Portable]
  | bytes bytes => simp [toJson, fromJson, Portable]
  | none flag => simp [toJson, fromJson, Portable, eq_comm]

end Portable

/-- A routine of the flow runtime together with what it is run on. -/
inductive Routine where
  | setFacet (name : Ustr) (payload : Option FlowPayload)
  | impulse (name : Ustr) (payload : FlowPayload)
  deriving DecidableEq, Repr

/-- The routine that is to be run for a payload of a flow. -/
def Routine.of : FlowType → Ustr → FlowPayload → Routine
  | .facet, name, payload => .setFacet name (some payload)
  | .impulse, name, payload => .impulse name payload

def FlowType.messageType : FlowType → TransportMessageType
  | .impulse => .impulse
  | .facet => .facet

/-- The payload type that a flow declares. -/
def declaredType (env : FlowEnv) (impulses : MetadataRegistry FlowImpulseMetadata) :
    FlowType → Ustr → Option FlowPayloadType
  | .facet, name => (env.find name).map (·.payload)
  | .impulse, name => (impulses.find "*" name).map (·.payload)

/-- The checks of `ingest`. The names `watchdog` and `log` are not those of
flows. -/
def IngestChecks.pass (checks : IngestChecks) (flowType : FlowType) (name : Ustr) (uid : Nat) :
    Bool :=
  name ≠ "watchdog" && name ≠ "log" &&
    match flowType with
    | .facet => checks.mayFacet uid name
    | .impulse => checks.mayImpulse uid name

section Delivery

variable [SerdeJson]

/-- The routine that an action which sets a facet or fires an impulse runs. -/
def Dispatched.routine : Dispatched → Option Routine
  | .setFacet name payload =>
      some (.setFacet name (payload.map fun value => FlowPayload.fromJson (some value)))
  | .impulse name payload => some (.impulse name (FlowPayload.fromJson payload))
  | _ => none

/-- A message that sets a facet or fires an impulse with a payload of the
declared type, and passes the checks. -/
structure Admitted (checks : IngestChecks) (env : FlowEnv)
    (impulses : MetadataRegistry FlowImpulseMetadata) (flowType : FlowType) (name : Ustr)
    (value : FlowPayload) (message : TransportMessage) (uid : Nat) : Prop where
  typed : message.type = flowType.messageType
  named : message.name = some name
  payload : message.payload = some value
  sets : flowType = .facet → message.action = .set
  declared : declaredType env impulses flowType name = some value.payloadType
  passes : checks.pass flowType name uid

variable [TomlText]

noncomputable def Routine.run (env : FlowEnv) (impulses : MetadataRegistry FlowImpulseMetadata) :
    Routine → FlowProg Unit
  | .setFacet name payload => exec env (.setFacet name payload)
  | .impulse name payload => fireImpulse impulses name payload

/-- One routine is run, on exactly the payload. It is accepted: the first event
of every run is that of the payload, and a facet stores it before its cascade. -/
structure Delivered (env : FlowEnv) (impulses : MetadataRegistry FlowImpulseMetadata)
    (flowType : FlowType) (name : Ustr) (value : FlowPayload) (dispatched : List Dispatched) :
    Prop where
  exact : dispatched.map Dispatched.routine = [some (Routine.of flowType name value)]
  emitted : ∀ state result final, state.guard = ∅ →
    (Routine.of flowType name value).run env impulses state = some (result, final) →
    ∃ later, final.events =
      state.events ++ (Change.mk flowType name value .apply).event :: later
  stored : flowType = .facet → ∀ facet state branches result final, state.guard = ∅ →
    env.find name = some facet →
    storeInstance facet ⟨name, value, .facet⟩ (state.facets.instances name) = some branches →
    (Routine.of flowType name value).run env impulses state = some (result, final) →
    ∃ cascaded, applyCascade env (exec env) ⟨name, value, .facet⟩
        (storedState facet name (some value) branches state) = some (result, cascaded) ∧
      final.facets = cascaded.facets

section Emitted

variable {env : FlowEnv} {impulses : MetadataRegistry FlowImpulseMetadata}

/-- A set call of the declared type announces its payload first. -/
theorem exec_setFacet_emits {name : Ustr} {value : FlowPayload} {facet : FlowFacetMetadata}
    (found : env.find name = some facet) (typed : payloadTypeOk facet.payload value)
    {state final : FlowState} {result : Except CoreError Unit} (unguarded : state.guard = ∅)
    (ran : exec env (.setFacet name (some value)) state = some (result, final)) :
    ∃ later, final.events =
      state.events ++ (Change.mk .facet name value .apply).event :: later := by
  have fresh : applyKey name (some value) ∉ state.guard := by simp [unguarded]
  have cascaded {facet' : FlowFacetMetadata} {branches : List FlowInstance}
      {result : Except CoreError Unit} {final : FlowState}
      (ran : applyCascade env (exec env) (freshInstance name (some value))
        ((announced facet' name (some value) (state.record (.setFacet name (some value)))).put
          name branches) = some (result, final)) :
      ∃ later, final.events =
        state.events ++ (Change.mk .facet name value .apply).event :: later := by
    have within : Prog.Within (fun _ => True) (fun state state' : FlowState =>
        state.events <+: state'.events ∧ state.messages <+: state'.messages)
        (applyCascade env (exec env) (freshInstance name (some value))) :=
      applyCascade_rule (announcements_invariant env).rule fun c _ =>
        (announcements_invariant env).exec_within trivial
    obtain ⟨-, ⟨later, grown⟩, -⟩ := within _ trivial _ _ ran
    exact ⟨later, by simpa [announced, FlowState.announce, FlowState.put, FlowState.enter,
      FlowState.record, applyEvent, Change.event, freshInstance] using grown.symm⟩
  rw [exec_eq] at ran
  cases setFacet_cases ran with
  | guarded member => exact absurd member fresh
  | unknown fresh absent =>
      rw [found] at absent
      contradiction
  | mismatch fresh facet' found' wrong =>
      cases found.symm.trans found'
      exact absurd typed (by simpa [freshInstance] using wrong)
  | unkeyed fresh facet' found' typed missing =>
      exact ⟨[], by simp [announced, FlowState.announce, FlowState.put, FlowState.enter,
        FlowState.leave, FlowState.record, applyEvent, Change.event, freshInstance]⟩
  | failed fresh facet' found' typed branches stored err _ cascade => exact cascaded cascade
  | done fresh facet' found' typed branches stored middle cascade =>
      obtain ⟨later, grown⟩ := cascaded cascade
      exact ⟨later, grown⟩

omit [TomlText] in
/-- An impulse of the declared type announces its payload first. -/
theorem fireImpulse_emits {name : Ustr} {value : FlowPayload} {definition : FlowImpulseMetadata}
    (found : impulses.find "*" name = some definition)
    (typed : payloadTypeOk definition.payload value) {state final : FlowState}
    {result : Except CoreError Unit}
    (ran : fireImpulse impulses name value state = some (result, final)) :
    ∃ later, final.events =
      state.events ++ (Change.mk .impulse name value .apply).event :: later := by
  have fired : impulse impulses name (some value) = Prog.change (FlowState.announce
      (impulseEvent name value) (impulseMessages definition name value)) := by
    simp [impulse, found, typed]
  rw [fireImpulse, fired, Prog.run_change_bind] at ran
  -- the events say nothing about facets, so any definitions of facets will do
  have within : Prog.Within (fun _ => True) (Announces ⟨∅, none⟩ impulses)
      (reconcileImpulseTranscendence impulses ⟨name, value, .impulse⟩) :=
    reconcileImpulse_announces (fun _ _ _ holds => holds) _
  obtain ⟨-, changes, events, -⟩ := within _ trivial _ _ ran
  exact ⟨changes.map Change.event, by simp [events, FlowState.announce, impulseEvent, Change.event]⟩

end Emitted

section Admitted

variable {checks : IngestChecks} {env : FlowEnv} {impulses : MetadataRegistry FlowImpulseMetadata}
  {flowType : FlowType} {name : Ustr} {value : FlowPayload} {message : TransportMessage} {uid : Nat}

omit [TomlText] in
/-- An admitted message sets off one action, whose routine is run on the payload
read back from the JSON value. -/
theorem Admitted.routine
    (admitted : Admitted checks env impulses flowType name value message uid) (endpoint : Ustr)
    (responder : Bool) :
    (ingest checks endpoint message uid responder).map Dispatched.routine =
      [some (Routine.of flowType name (FlowPayload.fromJson (some value.toJson)))] := by
  have passes := admitted.passes
  simp only [IngestChecks.pass, Bool.and_eq_true, decide_eq_true_eq] at passes
  obtain ⟨⟨notWatchdog, notLog⟩, permitted⟩ := passes
  cases flowType with
  | facet =>
      have action := admitted.sets rfl
      simp [ingest, admitted.named, notWatchdog, notLog, admitted.typed, FlowType.messageType,
        permitted, facetDispatch, action, admitted.payload, Dispatched.routine, Routine.of]
  | impulse =>
      simp [ingest, admitted.named, notWatchdog, notLog, admitted.typed, FlowType.messageType,
        permitted, admitted.payload, Dispatched.routine, Routine.of]

omit [SerdeJson] [TomlText] in
theorem Routine.of_injective {left right : FlowPayload}
    (same : Routine.of flowType name left = Routine.of flowType name right) : left = right := by
  cases flowType <;> simpa [Routine.of] using same

/-- A message is delivered with its payload where the payload survives the way
through its JSON value, and only there. -/
theorem ingest_delivers_iff
    (admitted : Admitted checks env impulses flowType name value message uid) (endpoint : Ustr)
    (responder : Bool) :
    Delivered env impulses flowType name value (ingest checks endpoint message uid responder) ↔
      value.Portable := by
  rw [← FlowPayload.fromJson_toJson]
  constructor
  · intro delivered
    have routines := delivered.exact
    rw [admitted.routine] at routines
    exact Routine.of_injective (by simpa using routines)
  · intro survives
    have declared := admitted.declared
    constructor
    · rw [admitted.routine, survives]
    · intro state result final unguarded ran
      cases flowType with
      | facet =>
          obtain ⟨facet, found, typed⟩ := Option.map_eq_some_iff.mp declared
          exact exec_setFacet_emits found (payloadTypeOk_iff.mpr typed.symm) unguarded ran
      | impulse =>
          obtain ⟨definition, found, typed⟩ := Option.map_eq_some_iff.mp declared
          exact fireImpulse_emits found (payloadTypeOk_iff.mpr typed.symm) ran
    · intro isFacet facet state branches result final unguarded found stored ran
      subst isFacet
      obtain ⟨facet', found', typed⟩ := Option.map_eq_some_iff.mp declared
      cases found.symm.trans found'
      have fresh : (⟨name, value, .facet⟩ : FlowInstance) = freshInstance name (some value) := rfl
      rw [fresh] at stored ⊢
      exact exec_setFacet_stored (by simp [unguarded]) found (payloadTypeOk_iff.mpr typed.symm)
        stored ran

end Admitted

end Delivery

/-! ## A text and a key -/

section Examples

open scoped Rind.Compact

/-- A facet that holds a text. -/
def motdFacet : FlowFacetMetadata where
  name := "motd"
  payload := .string
  stopOn := none
  after := none
  branch := none
  autoPayload := none
  subscribers := none

/-- A facet that holds bytes. -/
def keyFacet : FlowFacetMetadata := { motdFacet with name := "key", payload := .bytes }

def keyEnv : FlowEnv := .load (.ofGroup "static" "rind" [motdFacet, keyFacet]) none

def noImpulses : MetadataRegistry FlowImpulseMetadata := .ofGroup "static" "rind" []

/-- No permissions are asked for. -/
def openChecks : IngestChecks where
  username _ := none
  holdsAny _ _ := false
  facetPermissions _ := none
  impulsePermissions _ := none

def setMessage (name : Ustr) (value : FlowPayload) : TransportMessage where
  type := .facet
  payload := some value
  branch := none
  name := some name
  action := .set

theorem setMessage_admitted {name : Ustr} {value : FlowPayload}
    (declared : declaredType keyEnv noImpulses .facet name = some value.payloadType)
    (passes : openChecks.pass .facet name 1000) :
    Admitted openChecks keyEnv noImpulses .facet name value (setMessage name value) 1000 :=
  ⟨rfl, rfl, rfl, fun _ => rfl, declared, passes⟩

/-- A text is delivered. -/
theorem ingest_delivers_motd :
    Delivered keyEnv noImpulses .facet "rind:motd" (.string "welcome")
      (ingest openChecks "tty" (setMessage "rind:motd" (.string "welcome")) 1000 false) :=
  (ingest_delivers_iff (setMessage_admitted (by decide +kernel) (by decide +kernel)) _ _).mpr
    trivial

/-- The bytes of a key are not: the facet is set to a text. -/
theorem not_ingest_delivers_key :
    ¬ (Admitted openChecks keyEnv noImpulses .facet "rind:key" (.bytes [0x41])
        (setMessage "rind:key" (.bytes [0x41])) 1000 →
      Delivered keyEnv noImpulses .facet "rind:key" (.bytes [0x41])
        (ingest openChecks "tty" (setMessage "rind:key" (.bytes [0x41])) 1000 false)) := by
  intro delivers
  have routines :=
    (delivers (setMessage_admitted (by decide +kernel) (by decide +kernel))).exact
  exact absurd routines (by decide +kernel)

end Examples

end Rind
