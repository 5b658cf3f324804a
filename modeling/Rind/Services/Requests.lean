import Rind.Flow.Members
import Rind.Services.Service

/-!
# Persisted requests

A client that asks for a service to be started or stopped may ask for this to
last.  The names of the services to be started again are kept in the facet
`rind:active`, and `start_all` reads them from there at boot.  The seats that are
taken are kept in the same way.
-/

namespace Rind

/-! ## Requests of clients -/

structure SSPayload where
  name : String
  force : Bool
  persist : Bool
  deriving DecidableEq, Repr

/-- What the handlers read of the definitions and of the permission store. -/
structure IpcEnv where
  definitions : MetadataRegistry ServiceMetadata
  managedBy : Ustr → Option (List Ustr)
  username : Nat → Option Ustr
  /-- Whether a user holds the permission `SystemServices`. -/
  systemServices : Nat → Bool
  holdsAny : Nat → List Ustr → Bool

/-- What the handlers dispatch. -/
inductive ServiceDispatch where
  | start (name : Ustr) (onlyUser : Option Ustr)
  | stop (name : Ustr) (force : Bool) (onlyUser : Option Ustr)
  | flow (action : Dispatched)
  deriving DecidableEq, Repr

def ServiceDispatch.flowAction : ServiceDispatch → Option Dispatched
  | flow action => some action
  | _ => none

section Handlers

variable (env : IpcEnv)

def IpcEnv.privileged (uid : Nat) : Bool := uid == 0 || env.systemServices uid

def IpcEnv.canManage (uid : Nat) (name : Ustr) : Bool :=
  env.privileged uid ||
    match env.username uid, env.definitions.find "*" name with
    | some caller, some service =>
        match env.managedBy name with
        | some permissions => env.holdsAny uid permissions
        | none =>
            match service.space with
            | .user => true
            | .userSelective user => user == caller
            | .system => false
    | _, _ => false

/-- The user that a request is only about. -/
def IpcEnv.onlyUser (uid : Nat) : Option Ustr :=
  if env.privileged uid then none else env.username uid

/-- The actions of a start request, `none` where it is denied. -/
def handleIpcStart (fromUid : Option Nat) (payload : SSPayload) :
    Option (List ServiceDispatch) := do
  let uid ← fromUid
  if env.canManage uid payload.name then
    some (.start payload.name (env.onlyUser uid) ::
      if payload.persist then [.flow (.setFacet "rind:active" (some (.str payload.name)))] else [])
  else none

def handleIpcStop (fromUid : Option Nat) (payload : SSPayload) :
    Option (List ServiceDispatch) := do
  let uid ← fromUid
  if env.canManage uid payload.name then
    some (.stop payload.name payload.force (env.onlyUser uid) ::
      if payload.persist then
        [.flow (.removeFacet "rind:active" (some (.str payload.name)))]
      else [])
  else none

end Handlers

/-- The action a seat is taken or returned with. -/
def takenState (seat : Ustr) (take : Bool) : Dispatched :=
  if take then .setFacet "seat:taken" (some (.str seat))
  else .removeFacet "seat:taken" (some (.str seat))

/-- The services `start_all` considers at boot. -/
def startAllServices (definitions : MetadataRegistry ServiceMetadata) (facets : Facets) :
    List (Ustr × ServiceMetadata) :=
  (facets.instances "rind:active").filterMap fun branch =>
    let name := branch.payload.toStringPayload
    (definitions.find "*" name).map fun service => (name, service)

/-! ## Histories of requests -/

/-- A request that changes one of the two sets. -/
inductive Request where
  | start (env : IpcEnv) (fromUid : Option Nat) (payload : SSPayload)
  | stop (env : IpcEnv) (fromUid : Option Nat) (payload : SSPayload)
  | seat (name : Ustr) (take : Bool)

namespace Request

/-- The actions of the flow runtime that a request leads to. -/
def flowActions : Request → List Dispatched
  | start env uid payload =>
      ((handleIpcStart env uid payload).getD []).filterMap ServiceDispatch.flowAction
  | stop env uid payload =>
      ((handleIpcStop env uid payload).getD []).filterMap ServiceDispatch.flowAction
  | seat name take => [takenState name take]

/-- The change of the set in a facet that a request stands for: a persisted start
or stop that is not denied, or a seat that is taken or returned. -/
def change (facet : Ustr) : Request → Option MemberOp
  | start env uid payload =>
      if facet = "rind:active" ∧ payload.persist ∧ (handleIpcStart env uid payload).isSome then
        some (.add payload.name)
      else none
  | stop env uid payload =>
      if facet = "rind:active" ∧ payload.persist ∧ (handleIpcStop env uid payload).isSome then
        some (.remove payload.name)
      else none
  | seat name take =>
      if facet = "seat:taken" then some (if take then .add name else .remove name) else none

end Request

/-- The changes of the set in a facet that some requests stand for. -/
def changesOf (facet : Ustr) (requests : List Request) : List MemberOp :=
  requests.filterMap (Request.change facet)

section Histories

variable [SerdeJson] [TomlText]

/-- Carry out some actions of the flow runtime. -/
noncomputable def perform (env : FlowEnv) (actions : List Dispatched) (state : FlowState) :
    Option FlowState :=
  match actions with
  | [] => some state
  | action :: rest =>
      match action.call with
      | none => perform env rest state
      | some c => do
          let (_, next) ← exec env c state.unguarded
          perform env rest next

theorem perform_isSome (env : FlowEnv) (actions : List Dispatched) (state : FlowState) :
    (perform env actions state).isSome := by
  induction actions generalizing state with
  | nil => rfl
  | cons action rest ih =>
      rw [perform]
      split
      · exact ih state
      · next c _ =>
          obtain ⟨⟨result, next⟩, ran⟩ :=
            Option.isSome_iff_exists.mp (exec_isSome env c state.unguarded)
          simp only [ran, Option.bind_eq_bind, Option.bind_some]
          exact ih next

/-- Requests in any order, with calls about other facets in between, from a graph
without instances of the facet. -/
inductive RequestRun (facet : Ustr) : List Request → FlowState → Prop where
  | start {state : FlowState} (none : state.facets.instances facet = []) :
      RequestRun facet [] state
  | request {env : FlowEnv} {requests : List Request} {state final : FlowState}
      (request : Request) (set : StringSet env facet) (before : RequestRun facet requests state)
      (ran : perform env request.flowActions state = some final) :
      RequestRun facet (requests ++ [request]) final
  | other {env : FlowEnv} {requests : List Request} {state final : FlowState} {c : Call}
      {result : Except CoreError Unit} (set : StringSet env facet) (apart : c.name ≠ facet)
      (before : RequestRun facet requests state)
      (ran : exec env c state.unguarded = some (result, final)) :
      RequestRun facet requests final

/-- The facet holds each value once that is added and not removed since, and
`start_all` considers the service of each of them once the facet is loaded. -/
structure KeepsSet (facet : Ustr) (requests : List Request) (state : FlowState) : Prop where
  exact : ∀ value, value ∈ memberValues state facet ↔ Current (changesOf facet requests) value
  once : (memberValues state facet).Nodup
  considered : facet = "rind:active" → ∀ booted : Facets,
    booted.instances facet = state.facets.instances facet →
    ∀ (definitions : MetadataRegistry ServiceMetadata) (value : String)
      (service : ServiceMetadata), Current (changesOf facet requests) value →
      definitions.find "*" value = some service →
      (value, service) ∈ startAllServices definitions booted

variable {facet : Ustr} {requests : List Request} {state : FlowState}

omit [SerdeJson] [TomlText] in
theorem changesOf_concat (request : Request) :
    changesOf facet (requests ++ [request]) =
      changesOf facet requests ++ (request.change facet).toList := by
  cases changes : request.change facet <;> simp [changesOf, changes]

omit [SerdeJson] [TomlText] in
/-- The flow actions of a start request. -/
theorem flowActions_start (env : IpcEnv) (uid : Option Nat) (payload : SSPayload) :
    (Request.start env uid payload).flowActions =
      if payload.persist ∧ (handleIpcStart env uid payload).isSome then
        [.setFacet "rind:active" (some (.str payload.name))]
      else [] := by
  cases uid with
  | none => simp [Request.flowActions, handleIpcStart]
  | some uid =>
      by_cases managed : env.canManage uid payload.name
      · cases persisted : payload.persist <;>
          simp [Request.flowActions, handleIpcStart, managed, persisted,
            ServiceDispatch.flowAction, List.filterMap_cons]
      · simp [Request.flowActions, handleIpcStart, managed]

omit [SerdeJson] [TomlText] in
theorem flowActions_stop (env : IpcEnv) (uid : Option Nat) (payload : SSPayload) :
    (Request.stop env uid payload).flowActions =
      if payload.persist ∧ (handleIpcStop env uid payload).isSome then
        [.removeFacet "rind:active" (some (.str payload.name))]
      else [] := by
  cases uid with
  | none => simp [Request.flowActions, handleIpcStop]
  | some uid =>
      by_cases managed : env.canManage uid payload.name
      · cases persisted : payload.persist <;>
          simp [Request.flowActions, handleIpcStop, managed, persisted,
            ServiceDispatch.flowAction, List.filterMap_cons]
      · simp [Request.flowActions, handleIpcStop, managed]

omit [SerdeJson] [TomlText] in
/-- A request leads to the action of the change it stands for, or to none about
the facet. -/
theorem Request.flowActions_cases (request : Request) (facet : Ustr) :
    (∃ op, request.change facet = some op ∧ request.flowActions = [op.dispatched facet]) ∨
      request.change facet = none ∧ (request.flowActions = [] ∨
        ∃ other op, other ≠ facet ∧ request.flowActions = [MemberOp.dispatched other op]) := by
  cases request with
  | start env uid payload =>
      rw [flowActions_start, change]
      by_cases accepted : payload.persist ∧ (handleIpcStart env uid payload).isSome
      · rw [if_pos accepted]
        by_cases own : facet = "rind:active"
        · exact .inl ⟨.add payload.name, if_pos ⟨own, accepted⟩, by rw [own]; rfl⟩
        · exact .inr ⟨if_neg fun both => own both.1,
            .inr ⟨"rind:active", .add payload.name, Ne.symm own, rfl⟩⟩
      · rw [if_neg accepted]
        exact .inr ⟨if_neg fun both => accepted both.2, .inl rfl⟩
  | stop env uid payload =>
      rw [flowActions_stop, change]
      by_cases accepted : payload.persist ∧ (handleIpcStop env uid payload).isSome
      · rw [if_pos accepted]
        by_cases own : facet = "rind:active"
        · exact .inl ⟨.remove payload.name, if_pos ⟨own, accepted⟩, by rw [own]; rfl⟩
        · exact .inr ⟨if_neg fun both => own both.1,
            .inr ⟨"rind:active", .remove payload.name, Ne.symm own, rfl⟩⟩
      · rw [if_neg accepted]
        exact .inr ⟨if_neg fun both => accepted both.2, .inl rfl⟩
  | seat name take =>
      have action (taken : Ustr) (same : taken = "seat:taken") :
          [takenState name take] =
            [MemberOp.dispatched taken (if take then .add name else .remove name)] := by
        cases take <;> simp [takenState, MemberOp.dispatched, same]
      rw [flowActions, change]
      by_cases own : facet = "seat:taken"
      · exact .inl ⟨_, if_pos own, action facet own⟩
      · exact .inr ⟨if_neg own, .inr ⟨"seat:taken", _, Ne.symm own, action _ rfl⟩⟩

/-- Carrying out a change of the set in a facet. -/
theorem perform_dispatched {env : FlowEnv} {op : MemberOp} {state final : FlowState}
    (ran : perform env [op.dispatched facet] state = some final) :
    ∃ c result, (op.dispatched facet).call = some c ∧ c.name = facet ∧
      exec env c state.unguarded = some (result, final) := by
  have made : ∃ c, (op.dispatched facet).call = some c ∧ c.name = facet := by
    cases op <;> exact ⟨_, rfl, rfl⟩
  obtain ⟨c, made, named⟩ := made
  simp only [perform, made, Option.bind_eq_bind, Option.bind_eq_some_iff] at ran
  obtain ⟨⟨result, next⟩, ran, same⟩ := ran
  cases same
  exact ⟨c, result, made, named, ran⟩

/-- A change is carried out on the values that the facet holds. -/
theorem StringSet.perform_member {env : FlowEnv} (set : StringSet env facet) {op : MemberOp}
    {state final : FlowState} (ran : perform env [op.dispatched facet] state = some final) :
    memberValues final facet = op.apply (memberValues state facet) := by
  obtain ⟨c, result, made, -, ran⟩ := perform_dispatched ran
  cases op with
  | add value =>
      cases made
      exact set.exec_add rfl ran
  | remove value =>
      cases made
      have kept := set.exec_remove ran
      exact kept

/-- The facet holds what the changes leave of its instances. -/
theorem RequestRun.memberValues_eq (run : RequestRun facet requests state) :
    memberValues state facet = heldAfter (changesOf facet requests) := by
  induction run with
  | start none => simp [memberValues, none, changesOf, heldAfter]
  | @request env requests state final request set before ran ih =>
      rw [changesOf_concat]
      rcases request.flowActions_cases facet with ⟨op, change, action⟩ | ⟨none, other⟩
      · rw [action] at ran
        rw [change, Option.toList_some, heldAfter_concat, ← ih, set.perform_member ran]
      · rw [none, Option.toList_none, List.append_nil, ← ih]
        rcases other with action | ⟨other, op, apart, action⟩
        · rw [action] at ran
          cases ran
          rfl
        · rw [action] at ran
          obtain ⟨c, result, -, named, ran⟩ := perform_dispatched ran
          rw [memberValues, set.exec_other (named ▸ apart) ran]
          rfl
  | other set apart before ran ih =>
      rw [← ih, memberValues, set.exec_other apart ran]
      rfl

/-- A set that is kept in a string facet loses no member exactly if every value
that was added and not removed since is the one that was added last. -/
theorem keepsSet_iff (run : RequestRun facet requests state) :
    KeepsSet facet requests state ↔
      ∀ value, Current (changesOf facet requests) value →
        lastAdded (changesOf facet requests) = some value := by
  rw [← heldAfter_exact_iff, ← run.memberValues_eq]
  constructor
  · exact KeepsSet.exact
  · intro exact
    refine ⟨exact, run.memberValues_eq ▸ nodup_heldAfter, ?_⟩
    rintro rfl booted loaded definitions value service current found
    have member := (exact value).mpr current
    rw [memberValues, ← loaded, List.mem_map] at member
    obtain ⟨branch, stored, rfl⟩ := member
    exact List.mem_filterMap.mpr ⟨branch, stored, by simp [found]⟩

end Histories

/-! ## Two services that are to be started again -/

section Persisted

open scoped Compact

/-- The facet `rind:active` as the daemon defines it. -/
def activeFacet : FlowFacetMetadata where
  name := "active"
  payload := .string
  stopOn := none
  after := none
  branch := none
  autoPayload := none
  subscribers := some [.type "route:rind:sys-uds", .type "route:rind:sys-shm"]

def activeEnv : FlowEnv := .load (.ofGroup "static" "rind" [activeFacet]) none

theorem stringSet_active : StringSet activeEnv "rind:active" :=
  ⟨activeFacet, by decide +kernel, rfl, rfl, rfl⟩

/-- The requests of root. -/
def rootIpc : IpcEnv where
  definitions := ⟨∅, none⟩
  managedBy _ := none
  username _ := none
  systemServices _ := false
  holdsAny _ _ := false

def startForever (name : String) : Request :=
  .start rootIpc (some 0) { name, force := false, persist := true }

theorem exists_requestRun (requests : List Request) :
    ∃ state, RequestRun "rind:active" requests state := by
  induction requests using List.reverseRecOn with
  | nil => exact ⟨.empty, .start rfl⟩
  | append_singleton requests request ih =>
      obtain ⟨state, before⟩ := ih
      obtain ⟨final, ran⟩ :=
        Option.isSome_iff_exists.mp (perform_isSome activeEnv request.flowActions state)
      exact ⟨final, .request request stringSet_active before ran⟩

theorem keepsSet_iff_single : ∃ state,
    RequestRun "rind:active" [startForever "app:shell"] state ∧
      KeepsSet "rind:active" [startForever "app:shell"] state := by
  obtain ⟨state, ran⟩ := exists_requestRun [startForever "app:shell"]
  have settled : KeepsSet "rind:active" [startForever "app:shell"] state ↔ _ := keepsSet_iff ran
  refine ⟨state, ran, settled.mpr fun value current => ?_⟩
  have changes : changesOf "rind:active" [startForever "app:shell"] = [.add "app:shell"] := by
    decide +kernel
  rw [changes] at current ⊢
  have same := current_add.mp (show Current ([] ++ [.add "app:shell"]) value from current)
  rcases same with rfl | before
  · rfl
  · simp [Current] at before

/-- A second service takes the place of the first. -/
theorem not_keepsSet_second :
    ¬ ∀ (facet : Ustr) (requests : List Request) (state : FlowState),
      RequestRun facet requests state → KeepsSet facet requests state := by
  intro kept
  let both := [startForever "app:shell", startForever "app:mail"]
  obtain ⟨state, ran⟩ := exists_requestRun both
  have exact := (kept _ both state ran).exact "app:shell"
  rw [ran.memberValues_eq] at exact
  have lost : "app:shell" ∉ heldAfter (changesOf "rind:active" both) := by decide +kernel
  have current : Current (changesOf "rind:active" both) "app:shell" := by decide +kernel
  exact lost (exact.mpr current)

end Persisted

end Rind
