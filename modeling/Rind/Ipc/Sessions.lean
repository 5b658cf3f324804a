import Rind.Ipc.Control
import Rind.Flow.Members
import Rind.Flow.Lifetimes

/-!
# What an action takes out of a facet

The action `remove_facet` reads its filter from the value it is given: an object is one that
branches contain, a string one that they equal. Any other value reads as no filter at all, and
without a filter every branch is taken out. A seat that ends its session passes such a value.
-/

namespace Rind

open Prog

section Filters

variable [SerdeJson]

/-- A payload matches the value of a removal: it contains an object, or equals a string. -/
def Meets : (value : Json) → (payload : FlowPayload) → Prop
  | .obj fields, payload => subsetMatch (.obj fields) payload.toJson
  | .str text, payload => payload.toStringPayload = text
  | _, _ => False

/-- A value that the action reads as a filter. -/
def IsFilter : (value : Json) → Prop
  | .obj _ => True
  | .str _ => True
  | _ => False

/-- The filter of the action: `filter`, or else `payload`. -/
def actionFilter (filter payload : Option Json) : Option FlowMatchOperation :=
  removalFilter (filter.or payload)

variable {value : Json} {branch : FlowInstance}

/-- A filter takes out just the branches that match. -/
theorem removes_iff (readable : IsFilter value) :
    removes (removalFilter (some value)) branch ↔ Meets value branch.payload := by
  cases value with
  | obj fields => simp [removes, removalFilter, matchOperation, Meets]
  | str text => simp [removes, removalFilter, matchOperation, Meets]
  | null => cases readable
  | bool _ => cases readable
  | num _ => cases readable
  | arr _ => cases readable

omit [SerdeJson] in
/-- What is no filter reads as none. -/
theorem removalFilter_of_not (unreadable : ¬ IsFilter value) :
    removalFilter (some value) = none := by
  cases value with
  | obj fields => exact absurd trivial unreadable
  | str text => exact absurd trivial unreadable
  | null => rfl
  | bool _ => rfl
  | num _ => rfl
  | arr _ => rfl

/-- A branch that matches shows that the value is a filter. -/
theorem isFilter_of_meets (met : Meets value branch.payload) : IsFilter value := by
  cases value with
  | obj fields => trivial
  | str text => trivial
  | null => exact met
  | bool _ => exact met
  | num _ => exact met
  | arr _ => exact met

end Filters

section Removal

variable [SerdeJson] [TomlText] {env : FlowEnv} {name : Ustr} {filter : Option FlowMatchOperation}
  {state final : FlowState}

/-! ## Without cascades -/

/-- Nested calls that do nothing. -/
def quiet (_ : Call) : FlowProg Unit := pure ()

theorem reconcileTranscendence_quiet (source : FlowInstance) (action : FlowAction) :
    reconcileTranscendence env quiet source action = pure () := by
  rw [reconcileTranscendence]
  split
  · rfl
  · apply each_pure
    intro fullName
    split
    · rfl
    · rfl

theorem reconcileInverseTarget_quiet (source : FlowInstance) (action : FlowAction)
    (fullName : Ustr) : reconcileInverseTarget env quiet source action fullName = pure () := by
  rw [reconcileInverseTarget]
  split
  · rfl
  · split
    · rfl
    · funext state
      rw [run_read_bind, each_pure]
      intro payload
      funext state
      rw [run_read_bind]
      generalize inverseCall source action _ fullName _ _ payload = decision
      cases decision with
      | none => rfl
      | some c => rfl

theorem reconcileInverseTranscendenceForSource_quiet (source : FlowInstance)
    (action : FlowAction) :
    reconcileInverseTranscendenceForSource env quiet source action = pure () := by
  rw [reconcileInverseTranscendenceForSource]
  split
  · rfl
  · exact each_pure _ (reconcileInverseTarget_quiet source action)

/-- Without cascades the revert of a branch leaves the graph alone. -/
theorem revertBranch_quiet (env : FlowEnv) (name : Ustr) (branch : FlowInstance)
    (state : FlowState) :
    ∃ final, revertBranch env quiet name branch state = some (.ok (), final) ∧
      final.facets = state.facets := by
  rw [revertBranch, run_read_bind]
  split
  · exact ⟨state, rfl, rfl⟩
  · rw [revertCascade, reconcileTranscendence_quiet, reconcileInverseTranscendenceForSource_quiet]
    exact ⟨_, rfl, rfl⟩

theorem each_revertBranch_quiet (env : FlowEnv) (name : Ustr) (branches : List FlowInstance)
    (state : FlowState) :
    ∃ final, each branches (revertBranch env quiet name) state = some (.ok (), final) ∧
      final.facets = state.facets := by
  induction branches generalizing state with
  | nil => exact ⟨state, rfl, rfl⟩
  | cons branch rest ih =>
      obtain ⟨middle, reverted, same⟩ := revertBranch_quiet env name branch state
      obtain ⟨final, ran, same'⟩ := ih middle
      refine ⟨final, ?_, same'.trans same⟩
      rw [each_cons, run_bind_of_ok reverted, ran]

/-- Without cascades a removal leaves just the branches that the filter keeps. -/
theorem removeFacet_quiet (env : FlowEnv) (name : Ustr) (filter : Option FlowMatchOperation)
    (state : FlowState) :
    ∃ final, removeFacet env quiet name filter state = some (.ok (), final) ∧
      final.facets.instances name = (state.facets.instances name).filter (!removes filter ·) := by
  rw [removeFacet, run_read_bind]
  cases found : state.facets.lookup name with
  | none => exact ⟨state, rfl, by simp [Facets.instances, found]⟩
  | some branches =>
      have stored : state.facets.instances name = branches := by simp [Facets.instances, found]
      obtain ⟨middle, ran, same⟩ := each_revertBranch_quiet env name
        (branches.filter (removes filter)) (state.take name)
      refine ⟨putBack name (branches.filter (!removes filter ·)) middle, ?_, ?_⟩
      · simp only [run_change_bind]
        rw [run_bind_of_ok ran, run_change]
      rw [stored, putBack]
      split
      · next none =>
          rw [same, FlowState.take_facets, Facets.instances_erase_self, List.isEmpty_iff.mp none]
      · rw [FlowState.put_facets, Facets.instances_insert_self]

/-! ## Branches that do not match -/

/-- Whatever the nested calls of a removal do, the branches that do not match are in the graph
when it is done. -/
def KeepsOthers (env : FlowEnv) (name : Ustr) (matching : FlowInstance → Prop) (c : Call)
    (state : FlowState) : Prop :=
  ∀ cascade final, flowBody env cascade c state = some (.ok (), final) →
    ∀ branch ∈ state.facets.instances name, ¬ matching branch →
      branch ∈ final.facets.instances name

/-- A removal puts the branches back that its filter keeps. -/
theorem mem_of_kept {cascade : Call → FlowProg Unit} {branch : FlowInstance}
    (ran : removeFacet env cascade name filter state = some (.ok (), final))
    (stored : branch ∈ state.facets.instances name) (kept : ¬ removes filter branch) :
    branch ∈ final.facets.instances name := by
  cases removeFacet_cases ran with
  | absent missing => exact stored
  | done branches found middle cascade =>
      rw [Facets.instances, found, Option.getD_some] at stored
      have back : branch ∈ branches.filter (!removes filter ·) := by simp [stored, kept]
      rw [putBack, if_neg (by simpa using List.ne_nil_of_mem back), FlowState.put_facets,
        Facets.instances_insert_self]
      exact back

/-- A removal keeps the branches that do not match exactly if its filter takes none of them
out. -/
theorem keepsOthers_iff {matching : FlowInstance → Prop} :
    KeepsOthers env name matching (.removeFacet name filter) state ↔
      ∀ branch ∈ state.facets.instances name, removes filter branch → matching branch := by
  constructor
  · intro keeps branch stored removed
    by_contra apart
    obtain ⟨final, ran, left⟩ :=
      removeFacet_quiet env name filter (state.record (.removeFacet name filter))
    have remains := keeps quiet final ran branch stored apart
    rw [left] at remains
    simp [removed] at remains
  · intro matched cascade final ran branch stored apart
    refine mem_of_kept ran stored ?_
    intro removed
    exact apart (matched branch stored removed)

/-- The action keeps what does not match its value exactly if the value is a filter, or there is
nothing to take out. -/
theorem keepsOthers_action_iff {value : Json} :
    KeepsOthers env name (fun branch => Meets value branch.payload)
        (.removeFacet name (removalFilter (some value))) state ↔
      IsFilter value ∨ state.facets.instances name = [] := by
  rw [keepsOthers_iff]
  constructor
  · intro matched
    cases instances : state.facets.instances name with
    | nil => exact .inr rfl
    | cons branch rest =>
        left
        by_contra unreadable
        have removed : removes (removalFilter (some value)) branch := by
          rw [removalFilter_of_not unreadable]
          rfl
        exact unreadable (isFilter_of_meets
          (matched branch (instances ▸ List.mem_cons_self) removed))
  · rintro (readable | none) branch stored removed
    · exact (removes_iff readable).mp removed
    · rw [none] at stored
      cases stored

/-- The action as it runs, with its cascades, leaves what a removal keeps. -/
theorem KeepsOthers.acted {matching : FlowInstance → Prop} {system : LifetimeSystem}
    (keeps : KeepsOthers env name matching (.removeFacet name filter) system.flow.unguarded)
    (saved notified : Except CoreError Unit) {branch : FlowInstance}
    (stored : branch ∈ system.flow.facets.instances name) (apart : ¬ matching branch) :
    branch ∈ (system.removeFacet env name filter saved notified).2.flow.facets.instances name := by
  obtain ⟨⟨result, final⟩, ran⟩ := Option.isSome_iff_exists.mp
    (exec_isSome env (.removeFacet name filter) system.flow.unguarded)
  obtain rfl := exec_removeFacet_ok ran
  rw [flow_removeFacet, FlowState.acted, ran, Option.elim_some]
  rw [exec_eq] at ran
  exact keeps (exec env) final ran branch stored apart

end Removal

/-! ## Sessions of seats -/

namespace Ipc

section Sessions

variable [SerdeJson]

/-- A session is one of a seat. -/
def OfSeat (seat : Ustr) (branch : FlowInstance) : Prop := payloadText branch "seat" = some seat

instance (seat : Ustr) (branch : FlowInstance) : Decidable (OfSeat seat branch) :=
  inferInstanceAs (Decidable (_ = _))

/-- Where a session ends, the facet of the sessions is removed with a payload that is no
filter. -/
theorem handleIpcSeat_sessionEnd {env : Env} {msg : Message} {daemon : Daemon} {facets : Facets}
    {seat session : Ustr}
    (parsed : msg.parsePayload env.format.seat = .ok (.sessionEnd seat session))
    (there : daemon.facets = some facets) :
    handleIpcSeat env msg daemon = some (.ok (env.format.okMessage "ok"), { daemon with
      commands := daemon.commands ++ [.flow (.removeFacet "seat:session" (some .null))] }) := by
  rw [handleIpcSeat, Handler.run_parse_bind parsed, Handler.run_singleton_bind]
  cases daemon
  cases there
  rfl

end Sessions

end Ipc

section Claim

variable [SerdeJson] [TomlText]

open Ipc

/-- Beside its cascades the action takes out only branches that match its value exactly if the
value is an object or a string, or there is no branch. The end of a session takes out only
sessions of its seat exactly if there are no others. -/
theorem removeFacet_keepsOthers_iff :
    (∀ (env : FlowEnv) (name : Ustr) (filter payload : Option Json) (value : Json)
      (state : FlowState), filter.or payload = some value →
      (KeepsOthers env name (fun branch => Meets value branch.payload)
          (.removeFacet name (actionFilter filter payload)) state ↔
        IsFilter value ∨ state.facets.instances name = [])) ∧
    ∀ (ipc : Env) (msg : Message) (daemon : Daemon) (facets : Facets) (seat session : Ustr),
      msg.parsePayload ipc.format.seat = .ok (.sessionEnd seat session) →
      daemon.facets = some facets →
      ∃ action c,
        handleIpcSeat ipc msg daemon = some (.ok (ipc.format.okMessage "ok"), { daemon with
          commands := daemon.commands ++ [.flow action] }) ∧
        action.call = some c ∧
        ∀ (env : FlowEnv) (state : FlowState),
          (KeepsOthers env "seat:session" (OfSeat seat) c state ↔
            ∀ branch ∈ state.facets.instances "seat:session", OfSeat seat branch) := by
  constructor
  · intro env name filter payload value state given
    rw [actionFilter, given]
    exact keepsOthers_action_iff
  · intro ipc msg daemon facets seat session parsed there
    refine ⟨_, _, handleIpcSeat_sessionEnd parsed there, rfl, ?_⟩
    intro env state
    rw [keepsOthers_iff]
    constructor
    · intro matched branch stored
      exact matched branch stored rfl
    · intro alone branch stored _
      exact alone branch stored

end Claim

/-! ### Two sessions -/

section Two

open scoped Rind.Compact

open Ipc

/-- A session on each of two seats. -/
def twoSessions : FlowState :=
  FlowState.empty.put "seat:session"
    [⟨"seat:session", .json ⟨"\x7b\"seat\":\"seat0\",\"session\":\"1\"\x7d"⟩, .facet⟩,
      ⟨"seat:session", .json ⟨"\x7b\"seat\":\"seat1\",\"session\":\"2\"\x7d"⟩, .facet⟩]

/-- A format that reads the end of a session out of every payload. -/
def sessionEndFormat : RmpSerde :=
  { RmpSerde.mute with seat := fun _ => .ok (.sessionEnd "seat0" "1") }

theorem removeFacet_keepsOthers_iff_text :
    KeepsOthers guestEnv "seat:session" (fun branch => Meets (.str "seat0") branch.payload)
        (.removeFacet "seat:session" (actionFilter none (some (.str "seat0")))) twoSessions ∧
      ∃ action c,
        handleIpcSeat { Env.bare with format := sessionEndFormat } { payload := some [] }
            { Daemon.bare with facets := some ∅ } =
          some (.ok (sessionEndFormat.okMessage "ok"), { Daemon.bare with
            facets := some ∅
            commands := [.flow action] }) ∧
        action.call = some c ∧
        ¬ KeepsOthers guestEnv "seat:session" (OfSeat "seat0") c twoSessions := by
  constructor
  · exact (removeFacet_keepsOthers_iff.1 _ _ none (some (.str "seat0")) _ _ rfl).mpr (.inl trivial)
  · obtain ⟨action, c, handled, called, keeps⟩ :=
      removeFacet_keepsOthers_iff.2 { Env.bare with format := sessionEndFormat }
        { payload := some [] } { Daemon.bare with facets := some ∅ } ∅ "seat0" "1" rfl rfl
    refine ⟨action, c, handled, called, ?_⟩
    rw [keeps]
    decide +kernel

/-- The end of a session on one seat takes out the session on the other one too. -/
theorem not_keepsOthers_sessions :
    ¬ KeepsOthers guestEnv "seat:session" (fun branch => Meets .null branch.payload)
        (.removeFacet "seat:session" (actionFilter none (some .null))) twoSessions ∧
      ¬ KeepsOthers guestEnv "seat:session" (OfSeat "seat0")
        (.removeFacet "seat:session" (actionFilter none (some .null))) twoSessions := by
  constructor
  · intro keeps
    rcases keepsOthers_action_iff.mp keeps with readable | none
    · exact readable
    · cases none
  · intro keeps
    have others : ¬ ∀ branch ∈ twoSessions.facets.instances "seat:session",
        OfSeat "seat0" branch := by decide +kernel
    exact others fun branch stored => keepsOthers_iff.mp keeps branch stored rfl

end Two

end Rind
