import Rind.Flow.Shrink
import Rind.Flow.Matching

/-!
# Stop-on without automatic payloads

A facet without automatic payloads is never kept by its stop-on list.  Whatever
happens to one of its sources, a set or a removal, and whatever branch key the
entry names, the reconciliation takes every instance of the facet away.
-/

namespace Rind

open Prog

/-! ## A round of the reconciliation -/

/-- A facet without automatic payloads that stops on a source, and that no change
which follows from one of the source sets. -/
structure StopsManual [SerdeJson] [TomlText] (env : FlowEnv) (source target : Ustr)
    (facet : FlowFacetMetadata) (deps : List InverseBranchingConfig) : Prop where
  indexed : env.Indexed
  defines : env.Defines target facet
  manual : facet.autoPayload = none
  stopOn : facet.stopOn = some deps
  names : source ∈ deps.map InverseBranchingConfig.name
  distinct : source ≠ target
  unset : ∀ name, Reaches env source name → target ∉ targetsOf env.runtime.transcendenceIndex name

section Manual

variable [SerdeJson] [TomlText] {env : FlowEnv}

/-- No facet with automatic payloads stops on the source. -/
def AllStopManual (env : FlowEnv) (source : Ustr) : Prop :=
  ∀ target ∈ targetsOf env.runtime.inverseTranscendenceIndex source,
    ∀ facet, env.find target = some facet → facet.autoPayload = none

theorem reconcileInverseTarget_manual_ok {source : FlowInstance} {action : FlowAction}
    {target : Ustr} (manual : ∀ facet, env.find target = some facet → facet.autoPayload = none)
    (state : FlowState) (result : Except CoreError Unit) (final : FlowState)
    (ran : reconcileInverseTarget env (exec env) source action target state =
      some (result, final)) :
    result = .ok () := by
  rw [reconcileInverseTarget] at ran
  cases found : env.find target with
  | none =>
      rw [found] at ran
      cases ran
      rfl
  | some facet =>
      cases stopOn : facet.stopOn with
      | none =>
          simp only [found, stopOn] at ran
          cases ran
          rfl
      | some deps =>
          simp only [found, stopOn, run_read_bind] at ran
          cases result with
          | ok _ => rfl
          | error err =>
              obtain ⟨payload, -, state', payloadRan⟩ := run_each_error ran
              rw [run_read_bind] at payloadRan
              cases made : inverseCall source action state'.facets target facet deps payload with
              | none =>
                  rw [made] at payloadRan
                  cases payloadRan
              | some c =>
                  rw [made] at payloadRan
                  rcases inverseCall_cases made with ⟨-, auto⟩ | rfl
                  · rw [manual facet found] at auto
                    contradiction
                  · exact exec_removeFacet_ok payloadRan

/-- The reconciliation of facets without automatic payloads makes remove calls
only, and does not fail. -/
theorem reconcileInverse_manual_ok {source : FlowInstance} {action : FlowAction}
    {state final : FlowState} {result : Except CoreError Unit}
    (manuals : AllStopManual env source.name)
    (ran : reconcileInverseTranscendenceForSource env (exec env) source action state =
      some (result, final)) :
    result = .ok () := by
  rw [reconcileInverseTranscendenceForSource] at ran
  rw [AllStopManual, targetsOf] at manuals
  cases targets : env.runtime.inverseTranscendenceIndex.lookup source.name with
  | none =>
      rw [targets] at ran
      cases ran
      rfl
  | some names =>
      rw [targets] at ran manuals
      cases result with
      | ok _ => rfl
      | error err =>
          obtain ⟨target, listed, state', roundRan⟩ := run_each_error ran
          have manual := manuals target listed
          have fine : ∀ state result final, reconcileInverseTarget env (exec env) source action
              target state = some (result, final) → result = .ok () :=
            reconcileInverseTarget_manual_ok manual
          exact fine _ _ _ roundRan

end Manual

section Rounds

variable [SerdeJson] [TomlText] {env : FlowEnv} {source target : Ustr}
  {facet : FlowFacetMetadata} {deps : List InverseBranchingConfig}

namespace StopsManual

variable (stopped : StopsManual env source target facet deps)
include stopped

theorem manual_of_found {found' : FlowFacetMetadata} (found : env.find target = some found') :
    found'.autoPayload = none := by
  rw [Option.some.inj (found.symm.trans stopped.defines.found)]
  exact stopped.manual

theorem listed : target ∈ targetsOf env.runtime.inverseTranscendenceIndex source := by
  refine stopped.indexed.inverse_mem stopped.defines ?_
  rw [stopOnSources, stopped.stopOn]
  exact stopped.names

theorem reaches_target : Reaches env source target :=
  .single (List.mem_append_right _ stopped.listed)

theorem invariant :
    Invariant env
      (fun c => Reaches env source c.name ∧ ∀ payload, c ≠ .setFacet target payload)
      SelfNamed (Shrinks target) :=
  shrink_invariant (fun _ reached => reached.closed) stopped.unset fun _ found =>
    stopped.manual_of_found found

/-- What a change of the source sets off takes instances away at most. -/
theorem spawned_within {instanceOf : FlowInstance} {action : FlowAction}
    (same : instanceOf.name = source) (c : Call) (spawned : Spawns env instanceOf action c) :
    Within SelfNamed (Shrinks target) (exec env c) := by
  have reached : Reaches env source instanceOf.name := same ▸ .refl
  refine stopped.invariant.exec_within ⟨reached.closed _ spawned.name_mem, fun payload => ?_⟩
  exact spawned.ne_setFacet (stopped.unset _ reached)
    (fun _ found => stopped.manual_of_found found) payload

/-- One payload of the round: no instance with this payload is left. -/
theorem payload_round {instanceOf : FlowInstance} {action : FlowAction}
    {payload : FlowPayload} {state final : FlowState} (named : SelfNamed state)
    (ran : (match inverseCall instanceOf action state.facets target facet deps payload with
      | none => pure ()
      | some c => exec env c : FlowProg Unit) state = some (.ok (), final)) :
    SelfNamed final ∧ Shrinks target state final ∧
      ∀ branch ∈ final.facets.instances target, branch.payload ≠ payload := by
  cases active : currentlyActive state.facets target payload with
  | false =>
      have idle : inverseCall instanceOf action state.facets target facet deps payload = none := by
        simp [inverseCall, stopped.manual, active]
      rw [idle] at ran
      cases ran
      refine ⟨named, List.Sublist.refl _, fun branch inside same => ?_⟩
      rw [currentlyActive, List.any_eq_false] at active
      exact active branch inside (same ▸ payloadCompatible_self payload)
  | true =>
      have removal : inverseCall instanceOf action state.facets target facet deps payload =
          some (.removeFacet target (payloadToFilter payload)) := by
        simp [inverseCall, stopped.manual, active]
      rw [removal] at ran
      obtain ⟨named', shrunk⟩ := stopped.invariant.exec_within
        (c := .removeFacet target (payloadToFilter payload))
        ⟨stopped.reaches_target, fun _ => by simp⟩ state named _ _ ran
      refine ⟨named', shrunk, fun branch inside same => ?_⟩
      rw [remove_shrinking stopped.invariant
        ⟨stopped.reaches_target, fun _ => by simp⟩ named ran] at inside
      have kept := (List.mem_filter.mp inside).2
      rw [Bool.not_eq_true', removes, Option.all_eq_false] at kept
      obtain ⟨filter, made, mismatch⟩ := kept
      rw [same, matchOperation_self made] at mismatch
      contradiction

/-- The payloads of the round, one after the other. -/
theorem payloads_round {instanceOf : FlowInstance} {action : FlowAction}
    {payloads : List FlowPayload} {state final : FlowState} (named : SelfNamed state)
    (covered : ∀ branch ∈ state.facets.instances target, branch.payload ∈ payloads)
    (ran : each payloads (fun payload => do
      let decision ← Prog.read fun state =>
        inverseCall instanceOf action state.facets target facet deps payload
      match decision with
      | none => pure ()
      | some c => exec env c) state = some (.ok (), final)) :
    final.facets.instances target = [] := by
  induction payloads generalizing state with
  | nil =>
      cases ran
      exact List.eq_nil_iff_forall_not_mem.mpr fun branch inside =>
        absurd (covered branch inside) List.not_mem_nil
  | cons payload rest ih =>
      rw [each_cons] at ran
      rcases run_bind_cases ran with ⟨err, -, same⟩ | ⟨_, middle, first, others⟩
      · contradiction
      · rw [run_read_bind] at first
        obtain ⟨named', shrunk, gone⟩ := stopped.payload_round named first
        refine ih named' (fun branch inside => ?_) others
        rcases List.mem_cons.mp (covered branch (shrunk.subset inside)) with same | later
        · exact absurd same (gone branch inside)
        · exact later

/-- The round of the facet empties it. -/
theorem target_round {instanceOf : FlowInstance} {action : FlowAction} {state final : FlowState}
    (named : SelfNamed state)
    (ran : reconcileInverseTarget env (exec env) instanceOf action target state =
      some (.ok (), final)) :
    final.facets.instances target = [] := by
  simp only [reconcileInverseTarget, stopped.defines.found, stopped.stopOn, run_read_bind] at ran
  refine stopped.payloads_round named (fun branch inside => ?_) ran
  rw [inversePayloads, if_neg (by simp [stopped.manual])]
  exact List.mem_map_of_mem inside

/-- The reconciliation of the source empties the facet. -/
theorem inverse_round {instanceOf : FlowInstance} {action : FlowAction} {state final : FlowState}
    (same : instanceOf.name = source) (named : SelfNamed state)
    (ran : reconcileInverseTranscendenceForSource env (exec env) instanceOf action state =
      some (.ok (), final)) :
    final.facets.instances target = [] := by
  have listed := stopped.listed
  rw [reconcileInverseTranscendenceForSource, same] at ran
  rw [targetsOf] at listed
  cases targets : env.runtime.inverseTranscendenceIndex.lookup source with
  | none => simp [targets] at listed
  | some names =>
      rw [targets, Option.getD_some] at listed
      rw [targets] at ran
      refine each_reaches SelfNamed (fun state => state.facets.instances target = []) listed
        (fun other member state named result final ran => ?_)
        (fun state final named ran => stopped.target_round named ran) named ran
      have otherListed : other ∈ targetsOf env.runtime.inverseTranscendenceIndex
          instanceOf.name := by
        rwa [same, targetsOf, targets, Option.getD_some]
      obtain ⟨named', shrunk⟩ := reconcileInverseTarget_rule stopped.invariant.rule otherListed
        (stopped.spawned_within same) state named result final ran
      refine ⟨named', fun none => ?_⟩
      rw [Shrinks, none] at shrunk
      exact List.sublist_nil.mp shrunk

/-- A set call on the source that succeeds empties the facet. -/
theorem set_source {payload : Option FlowPayload} {state final : FlowState}
    (named : SelfNamed state) (fresh : applyKey source payload ∉ state.guard)
    (ran : exec env (.setFacet source payload) state = some (.ok (), final)) :
    final.facets.instances target = [] := by
  rw [exec_eq] at ran
  cases setFacet_cases ran with
  | guarded member => exact absurd member fresh
  | done _ sourceFacet found typed branches stored middle cascade =>
      rcases run_bind_cases cascade with ⟨err, -, wrong⟩ | ⟨_, between, first, second⟩
      · contradiction
      · have storedNamed : SelfNamed ((announced sourceFacet source payload
            (state.record (.setFacet source payload))).put source branches) :=
          Named.store named rfl stored
        have round : Within SelfNamed (Shrinks target)
            (reconcileTranscendence env (exec env) (freshInstance source payload) .apply) :=
          reconcileTranscendence_rule stopped.invariant.rule (stopped.spawned_within rfl)
        obtain ⟨betweenNamed, -⟩ := round _ storedNamed _ _ first
        have emptied := stopped.inverse_round (by rfl) betweenNamed second
        exact emptied

/-- The revert of a branch of the source empties the facet, where no facet with
automatic payloads stops on the source. -/
theorem revert_source {stored : FlowInstance} {state final : FlowState}
    (same : stored.name = source) (named : SelfNamed state)
    (fresh : revertKey { stored with type := .facet } ∉ state.guard)
    (manuals : AllStopManual env source)
    (ran : revertBranch env (exec env) source stored state = some (.ok (), final)) :
    final.facets.instances target = [] := by
  cases revertBranch_cases ran with
  | guarded member => exact absurd member fresh
  | done _ middle cascade inner last inverse =>
      let changed : FlowInstance := { stored with type := .facet }
      have changedNamed : changed.name = source := same
      have round : Within SelfNamed (Shrinks target)
          (reconcileTranscendence env (exec env) changed .revert) :=
        reconcileTranscendence_rule stopped.invariant.rule (stopped.spawned_within changedNamed)
      have announcedNamed : SelfNamed (revertAnnounced env source changed state) := named
      obtain ⟨middleNamed, -⟩ := round _ announcedNamed _ _ cascade
      have ok : inner = .ok () := reconcileInverse_manual_ok (same ▸ manuals) inverse
      subst ok
      have emptied := stopped.inverse_round changedNamed middleNamed inverse
      exact emptied

/-- A remove call on the source empties the facet if it removes any branch. -/
theorem remove_source {filter : Option FlowMatchOperation} {state final : FlowState}
    {result : Except CoreError Unit} (named : SelfNamed state) (unguarded : state.guard = ∅)
    (manuals : AllStopManual env source)
    (ran : exec env (.removeFacet source filter) state = some (result, final)) :
    final.facets.instances target =
      if (state.facets.instances source).filter (removes filter) = [] then
        state.facets.instances target
      else [] := by
  have aside (kept : List FlowInstance) (middle : FlowState) :
      (putBack source kept middle).facets.instances target = middle.facets.instances target := by
    rw [putBack]
    split
    · rfl
    · rw [FlowState.put_facets, Facets.instances_insert_of_ne _ stopped.distinct.symm]
  rcases exec_removeFacet ran with ⟨missing, rfl⟩ | ⟨middle, cascade, rfl⟩
  · rw [if_pos (by simp [Facets.instances, missing])]
    rfl
  · rw [aside]
    have taken := (stopped.invariant.take source filter
      (state.record (.removeFacet source filter)) ⟨.refl, fun _ => by simp⟩ named).1
    rw [removeCascade] at cascade
    cases removed : (state.facets.instances source).filter (removes filter) with
    | nil =>
        rw [removed] at cascade
        cases cascade
        rw [if_pos rfl, FlowState.take_facets,
          Facets.instances_erase_of_ne _ stopped.distinct.symm]
        rfl
    | cons first rest =>
        have sourceNamed : ∀ branch ∈ first :: rest, branch.name = source := fun branch member =>
          named source branch (List.mem_of_mem_filter (removed ▸ member))
        rw [if_neg (by simp)]
        rw [removed, each_cons] at cascade
        rcases run_bind_cases cascade with ⟨err, -, wrong⟩ | ⟨_, between, firstRan, restRan⟩
        · contradiction
        · have rounds (branch : FlowInstance) (member : branch ∈ first :: rest) :
              Within SelfNamed (Shrinks target) (revertBranch env (exec env) source branch) :=
            stopped.invariant.revertBranch_within source branch fun c spawned =>
              stopped.spawned_within (by exact sourceNamed branch member) c spawned
          have emptied := stopped.revert_source (sourceNamed first (by simp)) taken
            (by simp [unguarded]) manuals firstRan
          obtain ⟨betweenNamed, -⟩ := rounds first (by simp) _ taken _ _ firstRan
          have shrunk := (stopped.invariant.rule.each (fun branch member =>
            rounds branch (List.mem_cons_of_mem _ member)) _ betweenNamed _ _ restRan).2
          rw [Shrinks, emptied] at shrunk
          exact List.sublist_nil.mp shrunk

end StopsManual

end Rounds

/-! ## Agreement -/

section Agreement

variable [SerdeJson] [TomlText] {env : FlowEnv} {source target : Ustr}
  {facet : FlowFacetMetadata} {deps : List InverseBranchingConfig}

/-- Whether a branch of the entry's source agrees with a payload: always for a
plain entry, else on the branch key that the entry names. -/
def InverseBranchingConfig.blocks (cfg : InverseBranchingConfig) (payload branch : FlowPayload) :
    Bool :=
  match cfg.branch with
  | none => true
  | some branchSpec =>
      (branchFilterFromPayload payload branchSpec).any (matchOperation · branch)

/-- Whether a branch of a source agrees with a payload by some entry. -/
def blockedBy (deps : List InverseBranchingConfig) (source : Ustr)
    (payload branch : FlowPayload) : Bool :=
  deps.any fun cfg => cfg.name == source && cfg.blocks payload branch

end Agreement

/-! ## Two sessions -/

section Sessions

open scoped Rind.Compact

/-- A facet that stands for the terminals without a session. -/
def vacancyFacet : FlowFacetMetadata :=
  { userFacet with
    name := "vacancy"
    branch := some ["tty"]
    stopOn := some [.detailed "rind:session" (some "tty")] }

def sessionFacet : FlowFacetMetadata :=
  { userFacet with name := "session", branch := some ["tty"] }

def sessionEnv : FlowEnv :=
  .load (.ofGroup "static" "rind" [sessionFacet, vacancyFacet]) none

def ttyPayload (text : String) : FlowPayload := .json ⟨"\x7b\"tty\":" ++ text ++ "\x7d"⟩

def setTty (name : Ustr) (text : String) : Call := .setFacet name (some (ttyPayload text))

/-- A graph with two vacant terminals, in which a session starts on the first. -/
theorem exec_session :
    ∃ state final, Reachable sessionEnv.metadata state ∧
      state.facets.instances "rind:vacancy" =
        [⟨"rind:vacancy", ttyPayload "1", .facet⟩, ⟨"rind:vacancy", ttyPayload "2", .facet⟩] ∧
      exec sessionEnv (setTty "rind:session" "1") state.unguarded = some (.ok (), final) ∧
      final.facets.instances "rind:vacancy" = [] := by
  have ran : ((replay sessionEnv 3 [setTty "rind:vacancy" "1", setTty "rind:vacancy" "2"]
      .empty).bind fun state =>
        (run sessionEnv 3 (setTty "rind:session" "1") state.unguarded).map fun outcome =>
          (state.facets.instances "rind:vacancy", outcome.1,
            outcome.2.facets.instances "rind:vacancy")) =
        some ([⟨"rind:vacancy", ttyPayload "1", .facet⟩,
          ⟨"rind:vacancy", ttyPayload "2", .facet⟩], .ok (), []) := by
    decide +kernel
  obtain ⟨state, replayed, ran⟩ := Option.bind_eq_some_iff.mp ran
  obtain ⟨⟨result, final⟩, finished, checked⟩ := Option.map_eq_some_iff.mp ran
  simp only [Prod.mk.injEq] at checked
  obtain ⟨stored, rfl, emptied⟩ := checked
  exact ⟨state, final, .replay .empty replayed, stored,
    exec_of_run finished, emptied⟩

theorem stopsManual_vacancy :
    StopsManual sessionEnv "rind:session" "rind:vacancy" vacancyFacet
      [.detailed "rind:session" (some "tty")] where
  indexed := FlowEnv.load_indexed _ _
  defines := ⟨by decide +kernel, "rind", by decide +kernel, by decide +kernel⟩
  manual := rfl
  stopOn := rfl
  names := by decide +kernel
  distinct := by decide
  unset name _ := by
    have none : sessionEnv.runtime.transcendenceIndex = ∅ := AList.ext (by decide +kernel)
    rw [none]
    simp [targetsOf]

end Sessions

end Rind
