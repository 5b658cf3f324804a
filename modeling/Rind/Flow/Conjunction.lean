import Rind.Flow.Guard
import Rind.Flow.StopOn

/-!
# Facets after several conditions

A facet with several `after` conditions is activated by each of its sources
alone, and a removal takes back what its source derives.  So the conjunction of
the conditions is kept by the calls on the sources, if they are made in an order
that keeps it.
-/

namespace Rind

open Prog

/-! ## Conditions on the graph -/

section Conditions

variable [SerdeJson]

/-- Whether a condition looks at the facet of a name. -/
def FlowItem.watches (cond : FlowItem) (name : Ustr) : Bool :=
  match cond with
  | .simple facet => sameFlowName facet name
  | .detailed (some facet) _ _ _ => sameFlowName facet name
  | .detailed none _ _ _ => false

/-- A condition holds where an instance of a facet it looks at passes it. -/
def FlowItem.Holds (cond : FlowItem) (facets : Facets) : Prop :=
  ∃ name, cond.watches name ∧
    ∃ branch ∈ facets.instances name, checkCondition cond { branch with type := .facet }

/-- A name that one of the facet's conditions looks at. -/
def Watched (facet : FlowFacetMetadata) (name : Ustr) : Prop :=
  ∃ cond ∈ facet.after.getD [], cond.watches name

/-- All conditions of the facet hold. -/
def AllHold (facet : FlowFacetMetadata) (facets : Facets) : Prop :=
  ∀ cond ∈ facet.after.getD [], cond.Holds facets

/-- Whether a condition holds can be read off the entries. -/
theorem FlowItem.holds_iff {cond : FlowItem} {facets : Facets} :
    cond.Holds facets ↔ facets.entries.any fun entry => cond.watches entry.1 &&
      entry.2.any fun branch => checkCondition cond { branch with type := .facet } := by
  simp only [List.any_eq_true, Bool.and_eq_true]
  constructor
  · rintro ⟨name, watches, branch, stored, passes⟩
    cases found : facets.lookup name with
    | none => simp [Facets.instances, found] at stored
    | some branches =>
        rw [Facets.instances, found, Option.getD_some] at stored
        exact ⟨⟨name, branches⟩, AList.mem_lookup_iff.mp found, watches, branch, stored, passes⟩
  · rintro ⟨⟨name, branches⟩, listed, watches, branch, stored, passes⟩
    refine ⟨name, watches, branch, ?_, passes⟩
    rw [Facets.instances, AList.mem_lookup_iff.mpr listed]
    exact stored

instance (cond : FlowItem) (facets : Facets) : Decidable (cond.Holds facets) :=
  decidable_of_iff _ FlowItem.holds_iff.symm

instance (facet : FlowFacetMetadata) (facets : Facets) : Decidable (AllHold facet facets) :=
  inferInstanceAs (Decidable (∀ cond ∈ facet.after.getD [], cond.Holds facets))

theorem FlowItem.Holds.isActive {cond : FlowItem} {facets : Facets} (holds : cond.Holds facets) :
    conditionIsActive facets cond none := by
  simp only [FlowItem.holds_iff, List.any_eq_true, Bool.and_eq_true] at holds
  obtain ⟨entry, listed, -, branch, stored, passes⟩ := holds
  simp only [conditionIsActive, List.any_eq_true]
  exact ⟨entry, listed, branch, stored, by simp [passes, payloadCompatible]⟩

omit [SerdeJson] in
theorem sameFlowName_self (name : Ustr) : sameFlowName name name := by simp [sameFlowName]

/-- A condition that an instance passes looks at its name. -/
theorem watches_of_checkCondition {cond : FlowItem} {branch : FlowInstance}
    (isFacet : branch.type = .facet) (passes : checkCondition cond branch) :
    cond.watches branch.name := by
  cases cond with
  | simple facet => exact passes
  | detailed facet impulse target spec =>
      cases facet with
      | some facet =>
          simp only [checkCondition, Bool.and_eq_true] at passes
          exact passes.1.2
      | none =>
          cases impulse with
          | some impulse =>
              simp only [checkCondition, isFacet, Bool.and_eq_true] at passes
              exact absurd passes.1.1 (by decide)
          | none => cases passes

/-- Where instances are stored under their own names, this is what the program's
check of a condition on the graph finds. -/
theorem holds_iff_conditionIsActive {cond : FlowItem} {state : FlowState}
    (named : SelfNamed state) :
    cond.Holds state.facets ↔ conditionIsActive state.facets cond none := by
  refine ⟨FlowItem.Holds.isActive, fun active => ?_⟩
  obtain ⟨⟨name, branches⟩, listed, active⟩ := List.any_eq_true.mp active
  obtain ⟨branch, stored, passes⟩ := List.any_eq_true.mp active
  have passes := (Bool.and_eq_true_iff.mp passes).1
  have inside : branch ∈ state.facets.instances name := by
    rw [Facets.instances, AList.mem_lookup_iff.mpr listed]
    exact stored
  refine ⟨name, ?_, branch, inside, passes⟩
  rw [← show branch.name = name from named name branch inside]
  exact @watches_of_checkCondition _ cond { branch with type := .facet } rfl passes

omit [SerdeJson] in
theorem watched_of_afterSources {facet : FlowFacetMetadata} {name : Ustr}
    (listed : name ∈ afterSources facet) : Watched facet name := by
  obtain ⟨cond, member, named⟩ := List.mem_filterMap.mp listed
  refine ⟨cond, member, ?_⟩
  cases cond with
  | simple facet =>
      cases named
      exact sameFlowName_self name
  | detailed facet impulse target spec =>
      cases named
      exact sameFlowName_self name

/-- The conditions depend on the watched facets only. -/
theorem AllHold.congr {facet : FlowFacetMetadata} {facets facets' : Facets}
    (same : ∀ name, Watched facet name → facets'.instances name = facets.instances name) :
    AllHold facet facets → AllHold facet facets' := by
  intro holds cond member
  obtain ⟨name, watches, branch, stored, passes⟩ := holds cond member
  exact ⟨name, watches, branch, same name ⟨cond, member, watches⟩ ▸ stored, passes⟩

/-- The payload that the change of a source carries on to the facet. -/
def carried (facet : FlowFacetMetadata) (source : FlowInstance) : Option FlowPayload :=
  if source.name ∈ afterSources facet ∧ (facet.after.getD []).any (checkCondition · source) then
    transcendentPayloadFor facet source.payload
  else none

end Conditions

/-! ## What lies behind the conditions -/

/-- A facet without automatic payloads, no source of which depends on a source or
on the facet itself. -/
structure Conjunctive (env : FlowEnv) (target : Ustr) (facet : FlowFacetMetadata) : Prop where
  indexed : env.Indexed
  defines : env.Defines target facet
  unique : ∀ item ∈ env.metadata.allItems, rslvns item.1 item.2.name = target → item.2 = facet
  manual : facet.autoPayload = none
  aside : ¬ Watched facet target
  apart : ∀ name, name = target ∨ Watched facet name →
    ∀ other, Relation.TransGen (fun source target => target ∈ dependents env source) name other →
      ¬ Watched facet other

/-- The facet, and what the change of the facet or a source leads to. -/
def Behind (env : FlowEnv) (target : Ustr) (facet : FlowFacetMetadata) (name : Ustr) : Prop :=
  name = target ∨ ∃ start, (start = target ∨ Watched facet start) ∧
    Relation.TransGen (fun source target => target ∈ dependents env source) start name

/-- The watched facets are as before, and so are the conditions at every new set
call on the facet. -/
structure Beside (target : Ustr) (facet : FlowFacetMetadata) [SerdeJson]
    (state state' : FlowState) : Prop where
  watched : ∀ name, Watched facet name →
    state'.facets.instances name = state.facets.instances name
  grows : state.calls ⊆ state'.calls
  sets : AllHold facet state.facets → ∀ record ∈ state'.calls, record ∈ state.calls ∨
    ∀ payload, record.call = .setFacet target payload → AllHold facet record.facets

namespace Conjunctive

variable [SerdeJson] [TomlText] {env : FlowEnv} {target : Ustr} {facet : FlowFacetMetadata}
  (conjunctive : Conjunctive env target facet)
include conjunctive

omit [SerdeJson] [TomlText]

theorem manual_of_found {found' : FlowFacetMetadata} (found : env.find target = some found') :
    found'.autoPayload = none := by
  rw [Option.some.inj (found.symm.trans conjunctive.defines.found)]
  exact conjunctive.manual

theorem mem_afterSources {name : Ustr}
    (listed : target ∈ targetsOf env.runtime.transcendenceIndex name) :
    name ∈ afterSources facet := by
  obtain ⟨item, member, named, full⟩ := conjunctive.indexed.transcendence_mem_iff.mp listed
  rwa [conjunctive.unique item member full.symm] at named

theorem unset {name : Ustr} (unwatched : ¬ Watched facet name) :
    target ∉ targetsOf env.runtime.transcendenceIndex name :=
  fun listed => unwatched (watched_of_afterSources (conjunctive.mem_afterSources listed))

theorem unwatched {name : Ustr} (behind : Behind env target facet name) : ¬ Watched facet name := by
  rcases behind with rfl | ⟨start, isStart, path⟩
  · exact conjunctive.aside
  · exact conjunctive.apart start isStart name path

omit conjunctive in
theorem behind_closed (name : Ustr) (behind : Behind env target facet name) :
    ∀ dependent ∈ dependents env name, Behind env target facet dependent := by
  intro dependent listed
  rcases behind with rfl | ⟨start, isStart, path⟩
  · exact .inr ⟨name, .inl rfl, .single listed⟩
  · exact .inr ⟨start, isStart, path.tail listed⟩

omit conjunctive in
theorem behind_of_watched {name : Ustr} (watched : Watched facet name) :
    ∀ dependent ∈ dependents env name, Behind env target facet dependent :=
  fun _ listed => .inr ⟨name, .inr watched, .single listed⟩

/-- Calls behind the conditions leave the watched facets alone. -/
theorem beside_invariant [SerdeJson] [TomlText] :
    Invariant env (fun c => Behind env target facet c.name) SelfNamed (Beside target facet) where
  refl _ := ⟨fun _ _ => rfl, List.Subset.refl _, fun _ _ member => .inl member⟩
  trans a b c left right := by
    refine ⟨fun name watched => (right.watched name watched).trans (left.watched name watched),
      List.Subset.trans left.grows right.grows, fun holds record member => ?_⟩
    rcases right.sets (holds.congr left.watched) record member with old | new
    · exact left.sets holds record old
    · exact .inr new
  quiet state state' quiet named :=
    ⟨named.quiet quiet, fun name _ => quiet.instances name, by rw [quiet.calls]; exact .refl _,
      fun _ _ member => .inl (quiet.calls ▸ member)⟩
  record c state _ named := by
    refine ⟨named, fun _ _ => rfl, List.subset_append_left _ _, fun holds record member => ?_⟩
    rcases List.mem_append.mp member with old | new
    · exact .inl old
    · rw [List.mem_singleton.mp new]
      exact .inr fun _ _ => holds
  store name payload facet' branches state behind _ _ _ stored named := by
    refine ⟨named.store rfl stored, fun other watched => ?_, List.Subset.refl _,
      fun _ _ member => .inl member⟩
    have ne : other ≠ name := by
      rintro rfl
      exact conjunctive.unwatched behind watched
    rw [FlowState.put_facets, Facets.instances_insert_of_ne _ ne]
  take name _ state behind named := by
    refine ⟨named.take name, fun other watched => ?_, List.Subset.refl _,
      fun _ _ member => .inl member⟩
    have ne : other ≠ name := by
      rintro rfl
      exact conjunctive.unwatched behind watched
    rw [FlowState.take_facets, Facets.instances_erase_of_ne _ ne]
  putBack name filter toKeep state state' behind kept _ named named' beside := by
    refine ⟨named.putBack named' fun branch member => ?_, fun other watched => ?_, beside.grows,
      fun holds => beside.sets (holds.congr fun other watched => ?_)⟩
    · rw [kept] at member
      exact List.mem_of_mem_filter member
    all_goals
      have ne : other ≠ name := by
        rintro rfl
        exact conjunctive.unwatched behind watched
    · rw [FlowState.put_facets, Facets.instances_insert_of_ne _ ne, beside.watched other watched,
        FlowState.take_facets, Facets.instances_erase_of_ne _ ne]
    · rw [FlowState.take_facets, Facets.instances_erase_of_ne _ ne]
  applied name payload c behind spawned := behind_closed name behind _ spawned.name_mem
  reverted name filter branch state c behind named stored spawned := by
    rw [← named name branch stored] at behind
    exact behind_closed _ behind _ spawned.name_mem

/-- Those that do not set the facet only take instances of it away. -/
theorem shrinks_invariant [SerdeJson] [TomlText] :
    Invariant env
      (fun c => Behind env target facet c.name ∧ ∀ payload, c ≠ .setFacet target payload)
      SelfNamed (Shrinks target) :=
  shrink_invariant behind_closed (fun _ behind => conjunctive.unset (conjunctive.unwatched behind))
    fun _ found => conjunctive.manual_of_found found

end Conjunctive

/-! ## Calls that keep the conjunction -/

section Met

variable [SerdeJson]

/-- The facet has instances only while all its conditions hold, and was set only
while they did. -/
structure Upholds (target : Ustr) (facet : FlowFacetMetadata) (state : FlowState) : Prop where
  active : state.facets.instances target ≠ [] → AllHold facet state.facets
  sets : ∀ record ∈ state.calls, ∀ payload, record.call = .setFacet target payload →
    AllHold facet record.facets

/-- What a set call stores under its name, `none` where it stores nothing. -/
def storedBy (metadata : MetadataRegistry FlowFacetMetadata) (name : Ustr)
    (payload : Option FlowPayload) (facets : Facets) : Option (List FlowInstance) :=
  (metadata.find "*" name).bind fun facet =>
    storeInstance facet (freshInstance name payload) (facets.instances name)

/-- A call is made in an order that keeps the conjunction. A set call whose payload
the facet takes makes the last condition hold, and one on an active facet breaks
none by a merge. A remove call that breaks a condition removes, for each instance
of the facet, a branch whose derived payload the instance contains. -/
def Met (metadata : MetadataRegistry FlowFacetMetadata) (target : Ustr)
    (facet : FlowFacetMetadata) (record : CallRecord) : Prop :=
  match record.call with
  | .setFacet name payload =>
      applyKey name payload ∉ record.guard →
        carried facet (freshInstance name payload) ≠ none ∨
          record.facets.instances target ≠ [] ∧ AllHold facet record.facets →
        ∀ branches ∈ storedBy metadata name payload record.facets,
          AllHold facet (record.facets.insert name branches)
  | .removeFacet name filter =>
      (AllHold facet record.facets → AllHold facet (record.facets.insert name
          ((record.facets.instances name).filter (!removes filter ·)))) ∨
        ∀ thing ∈ record.facets.instances target,
          ∃ branch ∈ record.facets.instances name, removes filter branch ∧
            revertKey { branch with type := .facet } ∉ record.guard ∧
            ∃ payload ∈ carried facet { branch with type := .facet },
              removes (payloadToFilter payload) thing

instance (metadata : MetadataRegistry FlowFacetMetadata) (target : Ustr)
    (facet : FlowFacetMetadata) (record : CallRecord) :
    Decidable (Met metadata target facet record) :=
  match record with
  | ⟨.setFacet _ _, _, _⟩ => by
      dsimp only [Met]
      infer_instance
  | ⟨.removeFacet _ _, _, _⟩ => by
      dsimp only [Met]
      infer_instance

/-- If all calls are made in such an order, the conjunction is kept. -/
structure Upheld (metadata : MetadataRegistry FlowFacetMetadata) (target : Ustr)
    (facet : FlowFacetMetadata) (state state' : FlowState) : Prop where
  grows : state.calls ⊆ state'.calls
  upholds : (∀ record ∈ state'.calls, Met metadata target facet record) →
    Upholds target facet state → Upholds target facet state'

namespace Upheld

variable {metadata : MetadataRegistry FlowFacetMetadata} {target : Ustr}
  {facet : FlowFacetMetadata} {state state' : FlowState}

theorem refl (state : FlowState) : Upheld metadata target facet state state :=
  ⟨List.Subset.refl _, fun _ upholds => upholds⟩

theorem trans (a b c : FlowState) (left : Upheld metadata target facet a b)
    (right : Upheld metadata target facet b c) : Upheld metadata target facet a c :=
  ⟨List.Subset.trans left.grows right.grows, fun met upholds =>
    right.upholds met (left.upholds (fun record member => met record (right.grows member)) upholds)⟩

theorem quiet (quiet : Quiet state state') : Upheld metadata target facet state state' := by
  refine ⟨by rw [quiet.calls]; exact .refl _, fun _ upholds => ⟨fun active => ?_, ?_⟩⟩
  · rw [quiet.instances target] at active
    exact (upholds.active active).congr fun name _ => quiet.instances name
  · rw [quiet.calls]
    exact upholds.sets

theorem record {c : Call} (other : ∀ payload, c ≠ .setFacet target payload) (state : FlowState) :
    Upheld metadata target facet state (state.record c) := by
  refine ⟨List.subset_append_left _ _, fun _ upholds => ⟨upholds.active, ?_⟩⟩
  intro record member payload same
  rcases List.mem_append.mp member with old | new
  · exact upholds.sets record old payload same
  · rw [List.mem_singleton.mp new] at same
    exact absurd same (other payload)

/-- A change that leaves the facet and its sources alone. -/
theorem of_unchanged (calls : state'.calls = state.calls)
    (instances : state'.facets.instances target = state.facets.instances target)
    (watched : ∀ name, Watched facet name →
      state'.facets.instances name = state.facets.instances name) :
    Upheld metadata target facet state state' := by
  refine ⟨by rw [calls]; exact .refl _, fun _ upholds => ⟨fun active => ?_, ?_⟩⟩
  · rw [instances] at active
    exact (upholds.active active).congr watched
  · rw [calls]
    exact upholds.sets

end Upheld

end Met

namespace Conjunctive

variable [SerdeJson] [TomlText] {env : FlowEnv} {target : Ustr} {facet : FlowFacetMetadata}
  (conjunctive : Conjunctive env target facet)
include conjunctive

/-- The payload that a source carries on is the one its set call on the facet
takes. -/
theorem carried_of_spawns {source : FlowInstance} {action : FlowAction}
    {payload : Option FlowPayload}
    (spawned : Spawns env source action (.setFacet target payload)) :
    carried facet source ≠ none := by
  cases spawned with
  | transcend listed made =>
      obtain ⟨facet', payload', found, ⟨after, isAfter, met⟩, taken, kind⟩ :=
        transcendentCall_cases made
      rcases kind with ⟨-, same⟩ | ⟨-, same⟩
      · cases same
        cases found.symm.trans conjunctive.defines.found
        have taken : transcendentPayloadFor facet source.payload = some payload' := by
          simpa [payloadFrom, conjunctive.manual] using taken
        rw [carried, if_pos ⟨conjunctive.mem_afterSources listed, by rw [isAfter]; exact met⟩,
          taken]
        exact Option.some_ne_none _
      · cases same
  | start listed found stops member =>
      rw [autoPayloadsFor, conjunctive.manual_of_found found] at member
      contradiction

/-- What follows from the change of a watched facet leaves the watched facets
alone. -/
theorem spawned_beside (source : FlowInstance) (watched : Watched facet source.name)
    {action : FlowAction} (c : Call) (spawned : Spawns env source action c) :
    Within SelfNamed (Beside target facet) (exec env c) :=
  conjunctive.beside_invariant.exec_within (behind_of_watched watched _ spawned.name_mem)

/-- The call on a watched facet keeps the conjunction if it is made in order. -/
theorem setFacet_watched {name : Ustr} (watched : Watched facet name)
    (payload : Option FlowPayload) :
    Within SelfNamed (Upheld env.metadata target facet) (exec env (.setFacet name payload)) := by
  intro state named result final ran
  refine ⟨((selfNamed_invariant env).exec_within trivial state named _ _ ran).1, ?_⟩
  have ne : name ≠ target := by
    rintro rfl
    exact conjunctive.aside watched
  have other : ∀ payload', Call.setFacet name payload ≠ .setFacet target payload' := by
    rintro payload' ⟨⟩
    exact ne rfl
  have noted : Upheld env.metadata target facet state (state.record (.setFacet name payload)) :=
    .record other state
  rcases exec_setFacet ran with quiet |
    ⟨sourceFacet, branches, cascaded, fresh, found, -, stored, cascade, quiet⟩
  · exact noted.trans _ _ _ (.quiet quiet)
  refine .trans _ _ _ ?_ (.quiet quiet)
  have storedNamed : SelfNamed (storedState sourceFacet name payload branches state) :=
    Named.store named rfl stored
  have behind : ∀ dependent ∈ dependents env name, Behind env target facet dependent :=
    behind_of_watched watched
  obtain ⟨-, beside⟩ := applyCascade_rule conjunctive.beside_invariant.rule
    (conjunctive.spawned_beside (freshInstance name payload) watched) _ storedNamed _ _ cascade
  have notedCall : ⟨.setFacet name payload, state.facets, state.guard⟩ ∈ cascaded.calls :=
    beside.grows (List.mem_append_right _ (List.mem_singleton.mpr rfl))
  refine ⟨List.Subset.trans noted.grows beside.grows, fun met upholds => ?_⟩
  have stores : branches ∈ storedBy env.metadata name payload state.facets :=
    Option.bind_eq_some_iff.mpr ⟨sourceFacet, found, stored⟩
  have ordered : carried facet (freshInstance name payload) ≠ none ∨
      state.facets.instances target ≠ [] ∧ AllHold facet state.facets →
        AllHold facet (state.facets.insert name branches) :=
    fun either => met _ notedCall fresh either branches stores
  have targetSame : (storedState sourceFacet name payload branches state).facets.instances target =
      state.facets.instances target := by
    rw [storedState, FlowState.put_facets, Facets.instances_insert_of_ne _ ne.symm]
    rfl
  by_cases carries : carried facet (freshInstance name payload) = none
  · -- the facet is not set in this cascade, so it is active only where it was before
    have spared : ∀ c, Spawns env (freshInstance name payload) .apply c →
        Within SelfNamed _ (exec env c) := fun c spawned =>
      conjunctive.shrinks_invariant.noted.exec_within ⟨behind _ spawned.name_mem, by
        rintro payload' rfl
        exact conjunctive.carried_of_spawns spawned carries⟩
    obtain ⟨-, shrunk, kinds⟩ := applyCascade_rule conjunctive.shrinks_invariant.noted.rule spared
      _ storedNamed _ _ cascade
    constructor
    · intro active
      have before : state.facets.instances target ≠ [] := by
        intro none
        rw [Shrinks, targetSame, none, List.sublist_nil] at shrunk
        exact active shrunk
      exact (ordered (.inr ⟨before, upholds.active before⟩)).congr beside.watched
    · intro record member payload' same
      rcases kinds record member with old | ⟨-, unset⟩
      · exact (noted.upholds (fun record member => met record (beside.grows member)) upholds).sets
          record old payload' same
      · exact absurd same (unset payload')
  · have holds : AllHold facet (storedState sourceFacet name payload branches state).facets :=
      ordered (.inl carries)
    constructor
    · exact fun _ => holds.congr beside.watched
    · intro record member payload' same
      rcases beside.sets holds record member with old | new
      · exact (noted.upholds (fun record member => met record (beside.grows member)) upholds).sets
          record old payload' same
      · exact new payload' same

/-- What follows from the revert of a watched facet only takes instances away. -/
theorem reverted_shrinks (source : FlowInstance) (watched : Watched facet source.name) (c : Call)
    (spawned : Spawns env source .revert c) :
    Within SelfNamed (Shrinks target) (exec env c) :=
  conjunctive.shrinks_invariant.exec_within ⟨behind_of_watched watched _ spawned.name_mem,
    spawned.revert_ne_setFacet fun _ found => conjunctive.manual_of_found found⟩

/-- A revert makes the remove call with the carried payload. -/
theorem transcendentCall_of_carried {source : FlowInstance} {payload : FlowPayload}
    (carries : carried facet source = some payload) :
    target ∈ targetsOf env.runtime.transcendenceIndex source.name ∧
      transcendentCall env source .revert target =
        some (.removeFacet target (payloadToFilter payload)) := by
  rw [carried] at carries
  split at carries
  · rename_i met
    refine ⟨conjunctive.indexed.transcendence_mem conjunctive.defines met.1, ?_⟩
    rw [transcendentCall_eq conjunctive.defines.found, derivedPayload, if_pos met.2]
    simp [payloadFrom, conjunctive.manual, carries]
  · contradiction

/-- The revert of a branch removes the instances that contain its payload. -/
theorem revertBranch_carried {name : Ustr} {stored : FlowInstance} {payload : FlowPayload}
    {state final : FlowState} (watched : Watched facet stored.name) (named : SelfNamed state)
    (fresh : revertKey { stored with type := .facet } ∉ state.guard)
    (carries : carried facet { stored with type := .facet } = some payload)
    (ran : revertBranch env (exec env) name stored state = some (.ok (), final)) :
    ∀ thing ∈ final.facets.instances target, ¬ removes (payloadToFilter payload) thing := by
  have kept {first last : FlowState} (shrunk : Shrinks target first last)
      (gone : ∀ thing ∈ first.facets.instances target, ¬ removes (payloadToFilter payload) thing) :
      ∀ thing ∈ last.facets.instances target, ¬ removes (payloadToFilter payload) thing :=
    fun thing inside => gone thing (shrunk.subset inside)
  have spared := conjunctive.reverted_shrinks { stored with type := .facet } watched
  have rule := conjunctive.shrinks_invariant.rule
  obtain ⟨listed, made⟩ := conjunctive.transcendentCall_of_carried carries
  cases revertBranch_cases ran with
  | guarded member => exact absurd member fresh
  | done _ middle cascade inner last inverse =>
      obtain ⟨middleNamed, -⟩ := reconcileTranscendence_rule rule spared
        (revertAnnounced env name { stored with type := .facet } state) named _ _ cascade
      have announcedNamed :
          SelfNamed (revertAnnounced env name { stored with type := .facet } state) := named
      refine kept ((reconcileInverse_rule rule spared _ middleNamed _ _ inverse).2) ?_
      rw [reconcileTranscendence] at cascade
      rw [targetsOf] at listed
      cases targets : env.runtime.transcendenceIndex.lookup stored.name with
      | none => simp [targets] at listed
      | some names =>
          simp only [targets, Option.getD_some] at listed cascade
          refine each_reaches SelfNamed (fun state => ∀ thing ∈ state.facets.instances target,
              ¬ removes (payloadToFilter payload) thing) listed
            (fun other member state named result final ran => ?_)
            (fun state final named ran => ?_) announcedNamed cascade
          · obtain ⟨named', shrunk⟩ := transcendentCall_rule rule
              (by rwa [targetsOf, targets, Option.getD_some]) spared state named result final ran
            exact ⟨named', kept shrunk⟩
          · rw [made] at ran
            rw [remove_shrinking conjunctive.shrinks_invariant ⟨.inl rfl, fun _ => by simp⟩ named
              ran]
            intro thing inside
            simpa using (List.mem_filter.mp inside).2

/-- The removal of branches removes the instances that contain the payload of one
of them. -/
theorem reverts_carried {name : Ustr} {branches : List FlowInstance} {stored : FlowInstance}
    {payload : FlowPayload} {state final : FlowState}
    (watched : ∀ branch ∈ branches, Watched facet branch.name) (named : SelfNamed state)
    (member : stored ∈ branches) (fresh : revertKey { stored with type := .facet } ∉ state.guard)
    (carries : carried facet { stored with type := .facet } = some payload)
    (ran : each branches (revertBranch env (exec env) name) state = some (.ok (), final)) :
    ∀ thing ∈ final.facets.instances target, ¬ removes (payloadToFilter payload) thing := by
  have rule := conjunctive.shrinks_invariant.rule
  refine each_reaches
    (fun state => SelfNamed state ∧ revertKey { stored with type := .facet } ∉ state.guard)
    (fun state => ∀ thing ∈ state.facets.instances target,
      ¬ removes (payloadToFilter payload) thing) member
    (fun other inside state holds result final ran => ?_)
    (fun state final holds ran =>
      conjunctive.revertBranch_carried (watched stored member) holds.1 holds.2 carries ran)
    ⟨named, fresh⟩ ran
  obtain ⟨named', shrunk⟩ := conjunctive.shrinks_invariant.revertBranch_within name other
    (conjunctive.reverted_shrinks { other with type := .facet } (watched other inside))
    state holds.1 _ _ ran
  have same : SameReverts state final :=
    (exec_revertBranch_sameReverts name other state trivial _ _ ran).2
  exact ⟨⟨named', fun taken => holds.2 ((same.revertKey _).mp taken)⟩,
    fun gone thing inside => gone thing (shrunk.subset inside)⟩

/-- The remove call on a watched facet keeps the conjunction if it is made in
order. -/
theorem removeFacet_watched {name : Ustr} (watched : Watched facet name)
    (filter : Option FlowMatchOperation) :
    Within SelfNamed (Upheld env.metadata target facet) (exec env (.removeFacet name filter)) := by
  intro state named result final ran
  refine ⟨((selfNamed_invariant env).exec_within trivial state named _ _ ran).1, ?_⟩
  have ne : target ≠ name := by
    rintro rfl
    exact conjunctive.aside watched
  have noted : Upheld env.metadata target facet state (state.record (.removeFacet name filter)) :=
    .record (by simp) state
  rcases exec_removeFacet ran with ⟨-, rfl⟩ | ⟨middle, cascade, rfl⟩
  · exact noted
  have takenNamed : SelfNamed ((state.record (.removeFacet name filter)).take name) :=
    Named.take named name
  have watchedBranch : ∀ branch ∈ (state.facets.instances name).filter (removes filter),
      Watched facet branch.name := fun branch member => by
    have same : branch.name = name := named name branch (List.mem_of_mem_filter member)
    exact same ▸ watched
  obtain ⟨-, beside⟩ := conjunctive.beside_invariant.rule.each (fun branch member =>
    conjunctive.beside_invariant.revertBranch_within name branch
      (conjunctive.spawned_beside { branch with type := .facet }
        (watchedBranch branch member))) _ takenNamed _ _ cascade
  obtain ⟨-, shrunk, kinds⟩ := conjunctive.shrinks_invariant.noted.rule.each (fun branch member =>
    conjunctive.shrinks_invariant.noted.revertBranch_within name branch fun c spawned =>
      conjunctive.shrinks_invariant.noted.exec_within
        ⟨behind_of_watched (watchedBranch branch member) _ spawned.name_mem,
          spawned.revert_ne_setFacet fun _ found => conjunctive.manual_of_found found⟩)
    _ takenNamed _ _ cascade
  -- the kept branches are put back into an entry that the cascade left empty
  have watchedSame : ∀ other, Watched facet other →
      (putBack name (keptBranches name filter state) middle).facets.instances other =
        Facets.instances (state.facets.insert name (keptBranches name filter state)) other := by
    intro other isWatched
    have before := beside.watched other isWatched
    by_cases same : other = name
    · subst same
      rw [FlowState.take_facets, Facets.instances_erase_self] at before
      rw [Facets.instances_insert_self, putBack]
      split
      · rename_i none
        rw [before, List.isEmpty_iff.mp none]
      · rw [FlowState.put_facets, Facets.instances_insert_self]
    · rw [FlowState.take_facets, Facets.instances_erase_of_ne _ same] at before
      rw [Facets.instances_insert_of_ne _ same, putBack]
      split
      · exact before
      · rw [FlowState.put_facets, Facets.instances_insert_of_ne _ same]
        exact before
  have targetSame : (putBack name (keptBranches name filter state) middle).facets.instances
      target = middle.facets.instances target := by
    rw [putBack]
    split
    · rfl
    · rw [FlowState.put_facets, Facets.instances_insert_of_ne _ ne]
  have callsSame : (putBack name (keptBranches name filter state) middle).calls =
      middle.calls := by
    rw [putBack]
    split <;> rfl
  rw [Shrinks, FlowState.take_facets, Facets.instances_erase_of_ne _ ne] at shrunk
  refine ⟨callsSame ▸ List.Subset.trans noted.grows beside.grows, fun met upholds => ⟨?_, ?_⟩⟩
  · rw [targetSame]
    intro active
    obtain ⟨thing, inside⟩ := List.exists_mem_of_ne_nil _ active
    have before : thing ∈ state.facets.instances target := shrunk.subset inside
    have notedCall : ⟨.removeFacet name filter, state.facets, state.guard⟩ ∈ middle.calls :=
      beside.grows (List.mem_append_right _ (List.mem_singleton.mpr rfl))
    rcases met _ (callsSame ▸ notedCall) with keeps | drops
    · exact (keeps (upholds.active (List.ne_nil_of_mem before))).congr watchedSame
    · obtain ⟨branch, stored, removed, fresh, payload, carries, contains⟩ := drops thing before
      have gone := conjunctive.reverts_carried watchedBranch takenNamed
        (List.mem_filter.mpr ⟨stored, removed⟩) fresh carries cascade
      exact absurd contains (gone thing inside)
  · rw [callsSame] at met ⊢
    intro record member payload same
    rcases kinds record member with old | ⟨-, unset⟩
    · exact (noted.upholds (fun record member => met record (beside.grows member)) upholds).sets
        record old payload same
    · exact absurd same (unset payload)

/-- A remove call on the facet keeps the conjunction. -/
theorem removeFacet_target (filter : Option FlowMatchOperation) :
    Within SelfNamed (Upheld env.metadata target facet) (exec env (.removeFacet target filter)) := by
  intro state named result final ran
  obtain ⟨named', beside⟩ := conjunctive.beside_invariant.exec_within
    (c := .removeFacet target filter) (.inl rfl) state named _ _ ran
  obtain ⟨-, shrunk, kinds⟩ := conjunctive.shrinks_invariant.noted.exec_within
    (c := .removeFacet target filter) ⟨.inl rfl, by simp⟩ state named _ _ ran
  refine ⟨named', beside.grows, fun _ upholds => ⟨fun active => ?_, ?_⟩⟩
  · have before : state.facets.instances target ≠ [] := by
      intro none
      rw [Shrinks, none, List.sublist_nil] at shrunk
      exact active shrunk
    exact (upholds.active before).congr beside.watched
  · intro record member payload same
    rcases kinds record member with old | ⟨-, unset⟩
    · exact upholds.sets record old payload same
    · exact absurd same (unset payload)

omit [TomlText] conjunctive in
/-- The changes of all other facets keep the conjunction. -/
theorem aside_steps :
    Steps env (fun c => ¬ Watched facet c.name ∧ target ≠ c.name) SelfNamed
      (Upheld env.metadata target facet) where
  refl := Upheld.refl
  trans := Upheld.trans
  quiet _ _ quiet named := ⟨named.quiet quiet, .quiet quiet⟩
  record c state aside named := by
    refine ⟨named, .record (fun payload same => ?_) state⟩
    exact aside.2 (congrArg Call.name same).symm
  store name payload facet' branches state aside _ _ _ stored named := by
    refine ⟨named.store rfl stored, .of_unchanged rfl ?_ fun other watched => ?_⟩
    · exact Facets.instances_insert_of_ne _ aside.2 _
    · have ne : other ≠ name := by
        rintro rfl
        exact aside.1 watched
      exact Facets.instances_insert_of_ne _ ne _
  take name _ state aside named := by
    refine ⟨named.take name, .of_unchanged rfl ?_ fun other watched => ?_⟩
    · exact Facets.instances_erase_of_ne _ aside.2
    · have ne : other ≠ name := by
        rintro rfl
        exact aside.1 watched
      exact Facets.instances_erase_of_ne _ ne
  putBack name filter toKeep state state' aside kept _ named named' upheld := by
    have taken : Upheld env.metadata target facet state (state.take name) := by
      refine .of_unchanged rfl (Facets.instances_erase_of_ne _ aside.2) fun other watched => ?_
      have ne : other ≠ name := by
        rintro rfl
        exact aside.1 watched
      exact Facets.instances_erase_of_ne _ ne
    refine ⟨named.putBack named' fun branch member => ?_,
      (taken.trans _ _ _ upheld).trans _ _ _ (.of_unchanged rfl ?_ fun other watched => ?_)⟩
    · rw [kept] at member
      exact List.mem_of_mem_filter member
    · exact Facets.instances_insert_of_ne _ aside.2 _
    · have ne : other ≠ name := by
        rintro rfl
        exact aside.1 watched
      exact Facets.instances_insert_of_ne _ ne _

/-- Every call but a direct set call on the facet keeps the conjunction if it and
all calls it sets off are made in order. -/
theorem exec_upheld {c : Call} (other : ∀ payload, c ≠ .setFacet target payload) :
    Within SelfNamed (Upheld env.metadata target facet) (exec env c) := by
  have atDepth (depth : Nat) : ∀ c : Call, (∀ payload, c ≠ .setFacet target payload) →
      Within SelfNamed (Upheld env.metadata target facet) (run env depth c) := by
    induction depth with
    | zero => intro c _ state _ result final ran; cases ran
    | succ depth ih =>
        intro c other
        by_cases watched : Watched facet c.name
        · intro state named result final ran
          cases c with
          | setFacet name payload =>
              exact conjunctive.setFacet_watched watched payload state named _ _
                (exec_of_run ran)
          | removeFacet name filter =>
              exact conjunctive.removeFacet_watched watched filter state named _ _
                (exec_of_run ran)
        by_cases same : target = c.name
        · cases c with
          | setFacet name payload =>
              exact absurd (congrArg (Call.setFacet · payload) same.symm) (other payload)
          | removeFacet name filter =>
              intro state named result final ran
              cases same
              exact conjunctive.removeFacet_target filter state named _ _
                (exec_of_run ran)
        have nested (source : FlowInstance) {action : FlowAction}
            (unwatched : ¬ Watched facet source.name) (c : Call)
            (spawned : Spawns env source action c) :
            Within SelfNamed (Upheld env.metadata target facet) (run env depth c) :=
          ih c (spawned.ne_setFacet (conjunctive.unset unwatched)
            fun _ found => conjunctive.manual_of_found found)
        have steps : Steps env _ SelfNamed (Upheld env.metadata target facet) := aside_steps
        cases c with
        | setFacet name payload =>
            exact steps.setFacet_within ⟨watched, same⟩ (nested (freshInstance name payload) watched)
        | removeFacet name filter =>
            refine steps.removeFacet_within ⟨watched, same⟩
              fun state branch c named stored spawned => ?_
            refine nested { branch with type := .facet } ?_ c spawned
            rw [show branch.name = name from named name branch stored]
            exact watched
  intro state named result final ran
  obtain ⟨depth, depthRan⟩ := (fixpoint_eq_some (flowBody_monotone env)).mp ran
  exact atDepth depth c other state named result final depthRan

end Conjunctive

/-! ## Runs -/

section Runs

variable [SerdeJson] [TomlText] {metadata : MetadataRegistry FlowFacetMetadata} {target : Ustr}
  {facet : FlowFacetMetadata} {state : FlowState}

theorem reachable_upholds
    (reachable : ReachableBy metadata (fun env c => Conjunctive env target facet ∧
      ∀ payload, c ≠ .setFacet target payload) state) :
    SelfNamed state ∧ ((∀ record ∈ state.calls, Met metadata target facet record) →
      Upholds target facet state) := by
  induction reachable with
  | empty =>
      refine ⟨fun name branch inside => ?_, fun _ => ⟨fun active => ?_, fun record member => ?_⟩⟩
      · simp [FlowState.empty, Facets.instances] at inside
      · simp [FlowState.empty, Facets.instances] at active
      · simp [FlowState.empty] at member
  | @call env c state final result same may before ran ih =>
      subst same
      obtain ⟨named, upholds⟩ := ih
      obtain ⟨conjunctive, other⟩ := may
      obtain ⟨named', upheld⟩ := conjunctive.exec_upheld other state.unguarded named _ _ ran
      refine ⟨named', fun met => upheld.upholds met ?_⟩
      have before := upholds fun record member => met record (upheld.grows member)
      exact ⟨before.active, before.sets⟩

/-- In every run of calls made in order, apart from direct set calls on the facet,
the facet is activated only while all its conditions hold, and has an instance
only while they do. -/
theorem reachable_conjunction
    (reachable : ReachableBy metadata (fun env c => Conjunctive env target facet ∧
      ∀ payload, c ≠ .setFacet target payload) state)
    (met : ∀ record ∈ state.calls, Met metadata target facet record) :
    (∀ record ∈ state.calls, ∀ payload, record.call = .setFacet target payload →
      ∀ cond ∈ facet.after.getD [], conditionIsActive record.facets cond none) ∧
    (state.facets.instances target ≠ [] →
      ∀ cond ∈ facet.after.getD [], conditionIsActive state.facets cond none) := by
  have upholds := (reachable_upholds reachable).2 met
  exact ⟨fun record member payload same cond listed =>
      (upholds.sets record member payload same cond listed).isActive,
    fun active cond listed => (upholds.active active cond listed).isActive⟩

end Runs

/-! ## A database and a cache -/

section Ready

open scoped Rind.Compact

/-- A facet that is ready on a terminal after the database and the cache are. -/
def readyFacet : FlowFacetMetadata :=
  { userFacet with
    name := "ready"
    branch := some ["tty"]
    after := some [.simple "rind:db", .detailed (some "rind:cache") none none none] }

def readyEnv : FlowEnv :=
  .load (.ofGroup "static" "rind"
    [{ userFacet with name := "db" }, { sessionFacet with name := "cache" }, readyFacet]) none

theorem dependents_ready {name other : Ustr} (listed : other ∈ dependents readyEnv name) :
    other = "rind:ready" := by
  have indexed : readyEnv.Indexed := FlowEnv.load_indexed _ _
  have only : ∀ item ∈ readyEnv.metadata.allItems,
      (afterSources item.2 ≠ [] ∨ stopOnSources item.2 ≠ []) →
        rslvns item.1 item.2.name = "rind:ready" := by
    decide +kernel
  rcases List.mem_append.mp listed with listed | listed
  · obtain ⟨item, member, named, rfl⟩ := indexed.transcendence_mem_iff.mp listed
    exact only item member (.inl (List.ne_nil_of_mem named))
  · obtain ⟨item, member, named, rfl⟩ := indexed.inverse_mem_iff.mp listed
    exact only item member (.inr (List.ne_nil_of_mem named))

theorem conjunctive_ready : Conjunctive readyEnv "rind:ready" readyFacet where
  indexed := FlowEnv.load_indexed _ _
  defines := ⟨by decide +kernel, "rind", by decide +kernel, by decide +kernel⟩
  unique := by decide +kernel
  manual := rfl
  aside := by
    rintro ⟨cond, member, watches⟩
    have none : ∀ cond ∈ readyFacet.after.getD [], ¬ cond.watches "rind:ready" := by
      decide +kernel
    exact none cond member watches
  apart name _ other path := by
    rintro ⟨cond, member, watches⟩
    have none : ∀ cond ∈ readyFacet.after.getD [], ¬ cond.watches "rind:ready" := by
      decide +kernel
    obtain ⟨before, -, listed⟩ := Relation.TransGen.tail'_iff.mp path
    exact none cond member (dependents_ready listed ▸ watches)

/-- Runs that do not set the facet directly. -/
theorem reachableBy_ready {depth : Nat} {calls : List Call} {state : FlowState}
    (indirect : ∀ c ∈ calls, c.name ≠ "rind:ready")
    (ran : replay readyEnv depth calls .empty = some state) :
    ReachableBy readyEnv.metadata (fun env c => Conjunctive env "rind:ready" readyFacet ∧
      ∀ payload, c ≠ .setFacet "rind:ready" payload) state := by
  refine .replay (fun c member => ⟨conjunctive_ready, ?_⟩) .empty ran
  rintro payload rfl
  exact indirect _ member rfl

/-- The database comes first, with a payload that names no terminal, and then the
cache. -/
theorem reachable_conjunction_ready :
    ∃ state : FlowState, state.facets.instances "rind:ready" =
        [⟨"rind:ready", ttyPayload "1", .facet⟩] ∧
      ∀ cond ∈ readyFacet.after.getD [], conditionIsActive state.facets cond none := by
  have ran : (replay readyEnv 3
      [.setFacet "rind:db" (some (.json ⟨"\x7b\"id\":1\x7d"⟩)), setTty "rind:cache" "1"]
      .empty).map (fun state => (state.facets.instances "rind:ready",
        decide (∀ record ∈ state.calls, Met readyEnv.metadata "rind:ready" readyFacet record))) =
        some ([⟨"rind:ready", ttyPayload "1", .facet⟩], true) := by
    decide +kernel
  obtain ⟨state, replayed, checked⟩ := Option.map_eq_some_iff.mp ran
  obtain ⟨stored, met⟩ := Prod.mk.inj checked
  have reachable := reachableBy_ready (by decide +kernel) replayed
  refine ⟨state, stored, (reachable_conjunction reachable (of_decide_eq_true met)).2 ?_⟩
  rw [stored]
  exact List.cons_ne_nil _ _

/-- The cache alone makes the facet ready. -/
theorem not_reachable_conjunction :
    ¬ ∀ (metadata : MetadataRegistry FlowFacetMetadata) (target : Ustr)
      (facet : FlowFacetMetadata) (state : FlowState),
      ReachableBy metadata (fun env c => Conjunctive env target facet ∧
        ∀ payload, c ≠ .setFacet target payload) state →
      (∀ record ∈ state.calls, ∀ payload, record.call = .setFacet target payload →
        ∀ cond ∈ facet.after.getD [], conditionIsActive record.facets cond none) ∧
      (state.facets.instances target ≠ [] →
        ∀ cond ∈ facet.after.getD [], conditionIsActive state.facets cond none) := by
  intro always
  have ran : (replay readyEnv 3 [setTty "rind:cache" "1"] .empty).map (fun state =>
      (state.facets.instances "rind:ready", conditionIsActive state.facets (.simple "rind:db") none)) =
        some ([⟨"rind:ready", ttyPayload "1", .facet⟩], false) := by
    decide +kernel
  obtain ⟨state, replayed, checked⟩ := Option.map_eq_some_iff.mp ran
  obtain ⟨stored, inactive⟩ := Prod.mk.inj checked
  have reachable := reachableBy_ready (by decide +kernel) replayed
  have ready : state.facets.instances "rind:ready" ≠ [] := by
    rw [stored]
    exact List.cons_ne_nil _ _
  have listed : FlowItem.simple "rind:db" ∈ readyFacet.after.getD [] := by decide +kernel
  have active := (always _ _ _ state reachable).2 ready _ listed
  rw [inactive] at active
  exact absurd active Bool.false_ne_true

end Ready

end Rind
