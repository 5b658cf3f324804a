import Rind.Flow.Cascade
import Rind.Flow.Payloads
import Mathlib.Data.Set.Card
import Mathlib.Data.Set.Finite.List
import Mathlib.Data.Set.Finite.Lattice
import Mathlib.Data.Finset.Union

/-!
# Cascades terminate

A cycle of dependencies is cut by the guard: a routine that is entered with a
key the guard holds returns at once, and otherwise holds its own key in the
guard while its nested calls run.  The nesting is bounded because a cascade only
ever meets finitely many guard keys.  Its payloads come from a finite
`Vocabulary`: the payloads present at the start, the automatic payloads, and the
objects that merging and mapping build from their members.
-/

namespace Rind

open Prog SerdeJson OrderedFields

variable [SerdeJson]

/-! ## Vocabularies -/

/-- The names and payloads a cascade may start from, and the member keys and
values of their objects. -/
structure Vocabulary where
  names : Finset Ustr
  payloads : Finset FlowPayload
  keys : Finset String
  values : Finset Json
  /-- Merging strips `&` from keys. -/
  forced : ∀ key ∈ keys, ∀ target, Text.stripPrefix "&" key = some target → target ∈ keys
  members : ∀ json, FlowPayload.json json ∈ payloads → ∀ fields, json.intoJson = .obj fields →
    ∀ member ∈ fields, member.1 ∈ keys ∧ member.2 ∈ values
  legal : ∀ value ∈ values, LegalMember value
  default : FlowPayload.none false ∈ payloads

namespace Vocabulary

variable (vocabulary : Vocabulary)

/-- An object built from members of the vocabulary. -/
def Built (fields : List (String × Json)) : Prop :=
  Ordered fields ∧ ∀ member ∈ fields, member.1 ∈ vocabulary.keys ∧ member.2 ∈ vocabulary.values

/-- A payload a cascade may meet. -/
def Known (payload : FlowPayload) : Prop :=
  payload ∈ vocabulary.payloads ∨
    ∃ fields, vocabulary.Built fields ∧ payload = .json ⟨toText (.obj fields)⟩

theorem finite_built : Set.Finite {fields | vocabulary.Built fields} := by
  let entries := vocabulary.keys ×ˢ vocabulary.values
  have bounded : {fields | vocabulary.Built fields} ⊆
      List.map Subtype.val '' {fields : List entries | fields.length ≤ entries.card} := by
    rintro fields ⟨ordered, inside⟩
    have inside : ∀ member ∈ fields, member ∈ entries := fun member found =>
      Finset.mem_product.mpr (inside member found)
    refine ⟨fields.attach.map fun member => ⟨member.1, inside member.1 member.2⟩, ?_, ?_⟩
    · have distinct : fields.Nodup := List.Nodup.of_map _ ordered.keys_nodup
      have short := Finset.card_le_card (s := fields.toFinset) (t := entries)
        fun member found => inside member (List.mem_toFinset.mp found)
      rw [List.toFinset_card_of_nodup distinct] at short
      simpa using short
    · rw [List.map_map]
      exact List.attach_map_subtype_val fields
  exact ((List.finite_length_le _ _).image _).subset bounded

theorem finite_known : Set.Finite {payload | vocabulary.Known payload} := by
  apply Set.Finite.subset (vocabulary.payloads.finite_toSet.union
    (vocabulary.finite_built.image fun fields => FlowPayload.json ⟨toText (.obj fields)⟩))
  rintro payload (given | ⟨fields, built, rfl⟩)
  · exact .inl given
  · exact .inr ⟨fields, built, rfl⟩

variable {vocabulary}

theorem Built.legal {fields : List (String × Json)} (built : vocabulary.Built fields) :
    Legal (.obj fields) :=
  Json.Legal.obj built.1 fun member inside => vocabulary.legal _ (built.2 member inside).2

/-- The object of a known payload is built from the vocabulary. -/
theorem Known.built {json : FlowJson} (known : vocabulary.Known (.json json))
    {fields : List (String × Json)} (object : json.intoJson = .obj fields) :
    vocabulary.Built fields := by
  rcases known with given | ⟨built, builtFields, same⟩
  · have legal : Legal (.obj fields) := object ▸ json.intoJson_legal
    exact ⟨legal.ordered, vocabulary.members json given fields object⟩
  · cases same
    rw [FlowJson.intoJson_toText builtFields.legal] at object
    cases object
    exact builtFields

theorem Known.merged {stored added : List (String × Json)} (storedBuilt : vocabulary.Built stored)
    (addedBuilt : vocabulary.Built added) {forced : String} :
    vocabulary.Known (.json ⟨toText (.obj (mergeFields forced stored added))⟩) := by
  refine .inr ⟨_, ⟨mergeFields_ordered storedBuilt.1, fun member inside => ?_⟩, rfl⟩
  rcases mem_mergeFields inside with old | ⟨key, new, named⟩
  · exact storedBuilt.2 member old
  · obtain ⟨keyKnown, valueKnown⟩ := addedBuilt.2 _ new
    refine ⟨?_, valueKnown⟩
    rcases named with rfl | stripped
    · exact keyKnown
    · exact vocabulary.forced key keyKnown _ stripped

theorem Known.mapped {specs : List Ustr} {source payload : FlowPayload}
    (known : vocabulary.Known source) (targets : ∀ spec ∈ specs, branchTargetKey spec ∈
      vocabulary.keys) (made : mapJsonPayload specs source = some payload) :
    vocabulary.Known payload := by
  obtain ⟨json, members, fields, rfl, object, mapped, rfl⟩ := mapJsonPayload_cases made
  have sourceBuilt := known.built object
  refine .inr ⟨fields, ⟨mapFields_ordered (by simp [Ordered]) mapped, fun member inside => ?_⟩,
    rfl⟩
  rcases mem_mapFields mapped inside with old | ⟨spec, listed, named, held⟩
  · contradiction
  · exact ⟨named ▸ targets spec listed, (sourceBuilt.2 _ held).2⟩

end Vocabulary

/-! ## Cascades stay in the vocabulary -/

section Cascades

variable [TomlText]

/-- What a vocabulary has to contain of the definitions. -/
structure Vocabulary.Covers (vocabulary : Vocabulary) (env : FlowEnv) : Prop where
  transcendence : ∀ source, ∀ target ∈ targetsOf env.runtime.transcendenceIndex source,
    target ∈ vocabulary.names
  inverse : ∀ source, ∀ target ∈ targetsOf env.runtime.inverseTranscendenceIndex source,
    target ∈ vocabulary.names
  specs : ∀ name facet, env.find name = some facet → ∀ specs, facet.branch = some specs →
    ∀ spec ∈ specs, branchTargetKey spec ∈ vocabulary.keys
  auto : ∀ name facet, env.find name = some facet →
    ∀ payload ∈ autoPayloadsFor facet env.heap, payload ∈ vocabulary.payloads

/-- A set call names a known facet and payload. -/
def Vocabulary.GoodCall (vocabulary : Vocabulary) : Call → Prop
  | .setFacet name payload =>
      name ∈ vocabulary.names ∧ ∀ known, payload = some known → vocabulary.Known known
  | .removeFacet _ _ => True

/-- An instance the cascade may carry on. -/
def Vocabulary.KnownInstance (vocabulary : Vocabulary) (branch : FlowInstance) : Prop :=
  branch.name ∈ vocabulary.names ∧ vocabulary.Known branch.payload

variable {vocabulary : Vocabulary} {env : FlowEnv}

theorem Vocabulary.Known.transcendent (covers : vocabulary.Covers env) {name : Ustr}
    {facet : FlowFacetMetadata} (found : env.find name = some facet)
    {source payload : FlowPayload} (known : vocabulary.Known source)
    (made : transcendentPayloadFor facet source = some payload) : vocabulary.Known payload := by
  unfold transcendentPayloadFor at made
  split at made
  · split at made
    · rename_i specs branch
      exact known.mapped (covers.specs name facet found specs branch) made
    · split at made
      · cases made
        exact known
      · contradiction
  · split at made
    · cases made
      exact known
    · contradiction
  · split at made
    · cases made
      exact known
    · contradiction
  · cases made
    exact .inl vocabulary.default

theorem Vocabulary.GoodCall.of_spawns (covers : vocabulary.Covers env) {source : FlowInstance}
    {action : FlowAction} (known : vocabulary.Known source.payload) {c : Call}
    (spawned : Spawns env source action c) : vocabulary.GoodCall c := by
  cases spawned with
  | transcend listed made =>
      obtain ⟨facet, payload, found, -, taken, made⟩ := transcendentCall_cases made
      obtain ⟨sourcePayload, chosen, mapped⟩ := payloadFrom_cases taken
      have sourceKnown : vocabulary.Known sourcePayload := by
        rcases chosen with rfl | auto
        · exact known
        · exact .inl (covers.auto _ facet found _ auto)
      rcases made with ⟨-, rfl⟩ | ⟨-, rfl⟩
      · refine ⟨covers.transcendence _ _ listed, ?_⟩
        rintro _ ⟨⟩
        exact .transcendent covers found sourceKnown mapped
      · trivial
  | start listed found stops member =>
      refine ⟨covers.inverse _ _ listed, ?_⟩
      rintro _ ⟨⟩
      exact .inl (covers.auto _ _ found _ member)
  | stop filter listed found stops => trivial

omit [TomlText] in
theorem Vocabulary.GoodCall.fresh {name : Ustr} {payload : Option FlowPayload}
    (good : vocabulary.GoodCall (.setFacet name payload)) :
    vocabulary.KnownInstance (freshInstance name payload) := by
  refine ⟨good.1, ?_⟩
  cases payload with
  | none => exact .inl vocabulary.default
  | some payload => exact good.2 payload rfl

omit [TomlText] in
/-- The store step keeps the instances known. -/
theorem Vocabulary.known_storeInstance {facet : FlowFacetMetadata} {fresh : FlowInstance}
    {entry branches : List FlowInstance} (freshKnown : vocabulary.KnownInstance fresh)
    (entryKnown : ∀ branch ∈ entry, vocabulary.KnownInstance branch)
    (stored : storeInstance facet fresh entry = some branches) :
    ∀ branch ∈ branches, vocabulary.KnownInstance branch := by
  intro branch inside
  by_cases isJson : ∃ json, fresh.payload = .json json
  · obtain ⟨newJson, isJson⟩ := isJson
    obtain ⟨newKey, keyed, rfl⟩ := storeInstance_json isJson stored
    rcases mem_mergeBranch inside with old | rfl | ⟨old, member, oldKeyed, rfl⟩
    · exact entryKnown branch old
    · exact freshKnown
    · obtain ⟨json, oldFields, oldJson, oldObject, -⟩ := storedKey_eq_some oldKeyed
      obtain ⟨newFields, newObject, -⟩ := jsonBranchKey_isSome.mp (Option.isSome_of_eq_some keyed)
      rw [mergeInto_eq oldJson oldObject newObject]
      have oldKnown := entryKnown old member
      refine ⟨oldKnown.1, ?_⟩
      have oldBuilt := Vocabulary.Known.built (oldJson ▸ oldKnown.2) oldObject
      have newBuilt := Vocabulary.Known.built (isJson ▸ freshKnown.2) newObject
      exact .merged oldBuilt newBuilt
  · rw [storeInstance_other (fun json same => isJson ⟨json, same⟩)] at stored
    cases stored
    rw [List.mem_singleton.mp inside]
    exact freshKnown

end Cascades

/-! ## The guard bounds the nesting -/

/-- The guard keys a cascade may meet. -/
def Vocabulary.guardKeys (vocabulary : Vocabulary) : Set Ustr :=
  {key | ∃ name ∈ vocabulary.names, ∃ payload, (vocabulary.Known payload) ∧
    (key = applyKey name (some payload) ∨ key = revertKey ⟨name, payload, .facet⟩)}

theorem Vocabulary.finite_guardKeys (vocabulary : Vocabulary) : vocabulary.guardKeys.Finite := by
  have products := vocabulary.names.finite_toSet.prod vocabulary.finite_known
  apply Set.Finite.subset ((products.image fun pair => applyKey pair.1 (some pair.2)).union
    (products.image fun pair => revertKey ⟨pair.1, pair.2, .facet⟩))
  rintro key ⟨name, named, payload, known, rfl | rfl⟩
  · exact .inl ⟨(name, payload), ⟨named, known⟩, rfl⟩
  · exact .inr ⟨(name, payload), ⟨named, known⟩, rfl⟩

theorem Vocabulary.GoodCall.applyKey_mem {vocabulary : Vocabulary} {name : Ustr}
    {payload : Option FlowPayload} (good : vocabulary.GoodCall (.setFacet name payload)) :
    applyKey name payload ∈ vocabulary.guardKeys := by
  cases payload with
  | none => exact ⟨name, good.1, .none false, .inl vocabulary.default, .inl rfl⟩
  | some payload => exact ⟨name, good.1, payload, good.2 payload rfl, .inl rfl⟩

theorem Vocabulary.KnownInstance.revertKey_mem {vocabulary : Vocabulary} {branch : FlowInstance}
    (known : vocabulary.KnownInstance branch) : revertKey branch ∈ vocabulary.guardKeys :=
  ⟨branch.name, known.1, branch.payload, known.2, .inr rfl⟩

/-- How many guard keys are still free when the guard holds at least `held`. -/
noncomputable def Vocabulary.free (vocabulary : Vocabulary) (held : Finset Ustr) : Nat :=
  (vocabulary.guardKeys \ ↑held).ncard

theorem Vocabulary.free_insert_lt {vocabulary : Vocabulary} {held : Finset Ustr} {key : Ustr}
    (member : key ∈ vocabulary.guardKeys) (new : key ∉ held) :
    vocabulary.free (insert key held) < vocabulary.free held := by
  apply Set.ncard_lt_ncard _ (vocabulary.finite_guardKeys.subset Set.sdiff_subset)
  refine ⟨fun other inside => ?_, fun all => ?_⟩
  · exact ⟨inside.1, fun old => inside.2 (by simp_all)⟩
  · have inside := all ⟨member, by simpa using new⟩
    exact inside.2 (by simp)

/-- The states of a cascade: the guard holds the keys of the calls under way,
and every instance is known. -/
def Vocabulary.Holding (vocabulary : Vocabulary) (held : Finset Ustr) (state : FlowState) : Prop :=
  held ⊆ state.guard ∧
    ∀ name, ∀ branch ∈ state.facets.instances name, vocabulary.KnownInstance branch

namespace Vocabulary.Holding

variable {vocabulary : Vocabulary} {held : Finset Ustr} {state : FlowState}

theorem enter (holds : vocabulary.Holding held state) (key : Ustr) :
    vocabulary.Holding (insert key held) (state.enter key) :=
  ⟨Finset.insert_subset_insert key holds.1, holds.2⟩

theorem weaken {key : Ustr} (holds : vocabulary.Holding (insert key held) state) :
    vocabulary.Holding held state :=
  ⟨(Finset.subset_insert key held).trans holds.1, holds.2⟩

theorem leave {key : Ustr} (holds : vocabulary.Holding (insert key held) state)
    (new : key ∉ held) : vocabulary.Holding held (state.leave key) :=
  ⟨fun _ member => Finset.mem_erase.mpr
    ⟨fun same => new (same ▸ member), holds.1 (Finset.mem_insert_of_mem member)⟩, holds.2⟩

theorem put (holds : vocabulary.Holding held state) {name : Ustr} {branches : List FlowInstance}
    (known : ∀ branch ∈ branches, vocabulary.KnownInstance branch) :
    vocabulary.Holding held (state.put name branches) := by
  refine ⟨holds.1, fun other branch inside => ?_⟩
  by_cases same : other = name
  · subst same
    rw [FlowState.put_facets, Facets.instances_insert_self] at inside
    exact known branch inside
  · rw [FlowState.put_facets, Facets.instances_insert_of_ne _ same] at inside
    exact holds.2 other branch inside

theorem take (holds : vocabulary.Holding held state) (name : Ustr) :
    vocabulary.Holding held (state.take name) := by
  refine ⟨holds.1, fun other branch inside => ?_⟩
  by_cases same : other = name
  · subst same
    simp at inside
  · rw [FlowState.take_facets, Facets.instances_erase_of_ne _ same] at inside
    exact holds.2 other branch inside

end Vocabulary.Holding

section Halting

variable [TomlText] {vocabulary : Vocabulary} {env : FlowEnv} {call : Call → FlowProg Unit}
  {held : Finset Ustr}

/-- A set call finishes if the cascade it sets off does. -/
theorem setFacet_finishes {name : Ustr} {payload : Option FlowPayload} {state : FlowState}
    (cascade : ∀ facet branches, applyKey name payload ∉ state.guard →
      env.find name = some facet →
      storeInstance facet (freshInstance name payload) (state.facets.instances name) =
        some branches →
      ∃ result final, applyCascade env call (freshInstance name payload)
        ((announced facet name payload state).put name branches) = some (result, final)) :
    ∃ result final, setFacet env call name payload state = some (result, final) := by
  rw [setFacet]
  simp only [run_read_bind, decide_eq_true_eq]
  split
  · exact ⟨_, _, rfl⟩
  · rename_i fresh
    cases found : env.find name with
    | none => exact ⟨_, _, rfl⟩
    | some facet =>
        simp only [run_change_bind]
        split
        · exact ⟨_, _, rfl⟩
        · simp only [run_change_bind, run_read_bind]
          generalize stored : storeInstance facet _ _ = merged
          cases merged with
          | none => exact ⟨_, _, rfl⟩
          | some branches =>
              simp only [run_change_bind, FlowState.put_put]
              obtain ⟨result, final, ran⟩ := cascade facet branches fresh found stored
              cases result with
              | error err => exact ⟨_, _, run_bind_of_error ran⟩
              | ok _ => exact ⟨_, _, run_bind_of_ok ran⟩

theorem setFacet_halts (covers : vocabulary.Covers env)
    (nested : ∀ held', vocabulary.free held' < vocabulary.free held → ∀ c,
      vocabulary.GoodCall c → Halts (vocabulary.Holding held') (call c))
    {name : Ustr} {payload : Option FlowPayload}
    (good : vocabulary.GoodCall (.setFacet name payload)) :
    Halts (vocabulary.Holding held) (setFacet env call name payload) := by
  intro state holds
  have cascadeHalts (facet : FlowFacetMetadata) (branches : List FlowInstance)
      (fresh : applyKey name payload ∉ state.guard)
      (stored : storeInstance facet (freshInstance name payload) (state.facets.instances name) =
        some branches) :
      ∃ result final, applyCascade env call (freshInstance name payload)
        ((announced facet name payload state).put name branches) = some (result, final) ∧
        vocabulary.Holding (insert (applyKey name payload) held) final := by
    have lower := vocabulary.free_insert_lt good.applyKey_mem
      (fun old => fresh (holds.1 old))
    have halts : Halts (vocabulary.Holding (insert (applyKey name payload) held))
        (applyCascade env call (freshInstance name payload)) :=
      applyCascade_rule Halts.rule fun c spawned =>
        nested _ lower c (.of_spawns covers good.fresh.2 spawned)
    have entered : vocabulary.Holding (insert (applyKey name payload) held)
        (announced facet name payload state) := holds.enter _
    exact halts _ (entered.put
      (vocabulary.known_storeInstance good.fresh (holds.2 name) stored))
  obtain ⟨result, final, ran⟩ := setFacet_finishes
    fun facet branches fresh found stored => by
      obtain ⟨result, final, ran, -⟩ := cascadeHalts facet branches fresh stored
      exact ⟨result, final, ran⟩
  refine ⟨result, final, ran, ?_⟩
  cases setFacet_cases ran with
  | guarded member => exact holds
  | unknown fresh absent => exact (holds.enter _).weaken
  | mismatch fresh facet found wrong =>
      exact (holds.enter _).leave fun old => fresh (holds.1 old)
  | unkeyed fresh facet found typed missing =>
      have entered : vocabulary.Holding (insert (applyKey name payload) held)
          (announced facet name payload state) := holds.enter _
      exact (entered.put (holds.2 name)).leave fun old => fresh (holds.1 old)
  | failed fresh facet found typed branches stored err _ cascade =>
      obtain ⟨result', final', ran', holds'⟩ := cascadeHalts facet branches fresh stored
      rw [cascade] at ran'
      cases ran'
      exact holds'.weaken
  | done fresh facet found typed branches stored middle cascade =>
      obtain ⟨result', final', ran', holds'⟩ := cascadeHalts facet branches fresh stored
      rw [cascade] at ran'
      cases ran'
      exact holds'.leave fun old => fresh (holds.1 old)

theorem revertBranch_halts (covers : vocabulary.Covers env)
    (nested : ∀ held', vocabulary.free held' < vocabulary.free held → ∀ c,
      vocabulary.GoodCall c → Halts (vocabulary.Holding held') (call c))
    {name : Ustr} {stored : FlowInstance} (known : vocabulary.KnownInstance stored) :
    Halts (vocabulary.Holding held) (revertBranch env call name stored) := by
  intro state holds
  rw [revertBranch]
  simp only [run_read_bind, decide_eq_true_eq]
  split
  · exact ⟨_, _, rfl, holds⟩
  · rename_i fresh
    have knownHere : vocabulary.KnownInstance { stored with type := .facet } := known
    have lower := vocabulary.free_insert_lt knownHere.revertKey_mem
      (fun old => fresh (holds.1 old))
    have halts : Halts
        (vocabulary.Holding (insert (revertKey { stored with type := .facet }) held))
        (revertCascade env call { stored with type := .facet }) :=
      revertCascade_rule Halts.rule fun c spawned =>
        nested _ lower c (.of_spawns covers knownHere.2 spawned)
    have entered : vocabulary.Holding (insert (revertKey { stored with type := .facet }) held)
        (revertAnnounced env name { stored with type := .facet } state) := holds.enter _
    obtain ⟨result, final, ran, holds'⟩ := halts _ entered
    simp only [run_change_bind]
    cases result with
    | error err => exact ⟨_, _, run_bind_of_error ran, holds'.weaken⟩
    | ok _ => exact ⟨_, _, run_bind_of_ok ran, holds'.leave fun old => fresh (holds.1 old)⟩

theorem removeFacet_halts (covers : vocabulary.Covers env)
    (nested : ∀ held', vocabulary.free held' < vocabulary.free held → ∀ c,
      vocabulary.GoodCall c → Halts (vocabulary.Holding held') (call c))
    (name : Ustr) (filter : Option FlowMatchOperation) :
    Halts (vocabulary.Holding held) (removeFacet env call name filter) := by
  intro state holds
  rw [removeFacet]
  simp only [run_read_bind]
  cases found : state.facets.lookup name with
  | none => exact ⟨_, _, rfl, holds⟩
  | some branches =>
      simp only [run_change_bind]
      have known : ∀ branch ∈ branches, vocabulary.KnownInstance branch := by
        intro branch inside
        exact holds.2 name branch (by rwa [Facets.instances, found, Option.getD_some])
      have halts : Halts (vocabulary.Holding held)
          (each (branches.filter (removes filter)) (revertBranch env call name)) :=
        Halts.rule.each fun branch inside =>
          revertBranch_halts covers nested (known branch (List.mem_of_mem_filter inside))
      obtain ⟨result, final, ran, holds'⟩ := halts _ (holds.take name)
      cases result with
      | error err => exact ⟨_, _, run_bind_of_error ran, holds'⟩
      | ok _ =>
          refine ⟨_, _, run_bind_of_ok ran, ?_⟩
          rw [putBack]
          split
          · exact holds'
          · exact holds'.put fun branch inside => known branch (List.mem_of_mem_filter inside)

/-- A call on known names and payloads finishes once the recursion is deeper than
the number of free guard keys. -/
theorem run_halts (covers : vocabulary.Covers env) {depth : Nat}
    (enough : vocabulary.free held < depth) {c : Call} (good : vocabulary.GoodCall c) :
    Halts (vocabulary.Holding held) (run env depth c) := by
  apply iterate_halts _ enough good
  intro held call nested c good
  refine Halts.rule.bind (Halts.change fun state holds => holds) ?_
  cases c with
  | setFacet name payload => exact setFacet_halts covers nested good
  | removeFacet name filter => exact removeFacet_halts covers nested name filter

end Halting

/-! ## A vocabulary for every call -/

section Build

/-- The members of a payload's object. -/
def payloadMembers : FlowPayload → List (String × Json)
  | .json json => json.intoJson.asObject.getD []
  | _ => []

/-- All suffixes of some keys. -/
def suffixes (keys : Finset String) : Finset String :=
  keys.biUnion fun key => (key.toList.tails.map String.ofList).toFinset

omit [SerdeJson] in
theorem mem_suffixes {keys : Finset String} {text : String} :
    text ∈ suffixes keys ↔ ∃ key ∈ keys, text.toList <:+ key.toList := by
  simp only [suffixes, Finset.mem_biUnion, List.mem_toFinset, List.mem_map, List.mem_tails]
  constructor
  · rintro ⟨key, member, chars, suffix, rfl⟩
    exact ⟨key, member, by rwa [String.toList_ofList]⟩
  · rintro ⟨key, member, suffix⟩
    exact ⟨key, member, text.toList, suffix, String.ofList_toList⟩

omit [SerdeJson] in
theorem subset_suffixes (keys : Finset String) : keys ⊆ suffixes keys :=
  fun key member => mem_suffixes.mpr ⟨key, member, List.suffix_refl _⟩

/-- The vocabulary of some names, payloads and target keys. -/
def Vocabulary.build (names : Finset Ustr) (payloads : Finset FlowPayload)
    (targets : Finset String) (default : FlowPayload.none false ∈ payloads) : Vocabulary where
  names
  payloads
  keys := suffixes
    (targets ∪ payloads.biUnion fun payload => ((payloadMembers payload).map Prod.fst).toFinset)
  values := payloads.biUnion fun payload => ((payloadMembers payload).map Prod.snd).toFinset
  forced := by
    intro key member target stripped
    obtain ⟨base, given, suffix⟩ := mem_suffixes.mp member
    have shorter : target.toList <:+ key.toList := ⟨_, Text.stripPrefix_eq_some.mp stripped⟩
    exact mem_suffixes.mpr ⟨base, given, shorter.trans suffix⟩
  members := by
    intro json given fields object member inside
    have listed : member ∈ payloadMembers (.json json) := by
      simpa [payloadMembers, object, Json.asObject] using inside
    constructor
    · apply subset_suffixes
      exact Finset.mem_union_right _ (Finset.mem_biUnion.mpr
        ⟨.json json, given, List.mem_toFinset.mpr (List.mem_map_of_mem listed)⟩)
    · exact Finset.mem_biUnion.mpr
        ⟨.json json, given, List.mem_toFinset.mpr (List.mem_map_of_mem listed)⟩
  legal := by
    intro value member
    obtain ⟨payload, -, listed⟩ := Finset.mem_biUnion.mp member
    obtain ⟨⟨key, value⟩, inside, rfl⟩ := List.mem_map.mp (List.mem_toFinset.mp listed)
    cases payload with
    | json json =>
        cases object : json.intoJson with
        | obj fields =>
            have legal : Legal (.obj fields) := object ▸ json.intoJson_legal
            exact legal.of_mem (by simpa [payloadMembers, object, Json.asObject] using inside)
        | _ => simp [payloadMembers, object, Json.asObject] at inside
    | _ => contradiction
  default := default

variable [TomlText]

/-- All definitions of the metadata. -/
def FlowEnv.definitions (env : FlowEnv) : List FlowFacetMetadata :=
  env.metadata.allItems.map Prod.snd

omit [SerdeJson] [TomlText] in
theorem FlowEnv.mem_definitions {env : FlowEnv} {name : Ustr} {facet : FlowFacetMetadata}
    (found : env.find name = some facet) : facet ∈ env.definitions := by
  obtain ⟨group, listed⟩ := MetadataRegistry.mem_allItems_of_find found
  exact List.mem_map_of_mem (f := Prod.snd) listed

/-- All targets of an index. -/
def indexTargets (index : AList fun _ : Ustr => List Ustr) : Finset Ustr :=
  (index.entries.flatMap fun entry => entry.2).toFinset

omit [SerdeJson] [TomlText] in
theorem mem_indexTargets {index : AList fun _ : Ustr => List Ustr} {source target : Ustr}
    (listed : target ∈ targetsOf index source) : target ∈ indexTargets index := by
  cases found : index.lookup source with
  | none => simp [targetsOf, found] at listed
  | some targets =>
      rw [targetsOf, found, Option.getD_some] at listed
      rw [indexTargets, List.mem_toFinset, List.mem_flatMap]
      exact ⟨⟨source, targets⟩, AList.mem_lookup_iff.mp found, listed⟩

/-- The vocabulary of a graph and a payload under a metadata. -/
def vocabularyFor (env : FlowEnv) (instances : List FlowInstance) : Vocabulary :=
  .build
    ((instances.map (·.name)).toFinset ∪ indexTargets env.runtime.transcendenceIndex ∪
      indexTargets env.runtime.inverseTranscendenceIndex)
    (insert (.none false) ((instances.map (·.payload)).toFinset ∪
      (env.definitions.flatMap (autoPayloadsFor · env.heap)).toFinset))
    (env.definitions.flatMap fun facet => (facet.branch.getD []).map branchTargetKey).toFinset
    (Finset.mem_insert_self _ _)

theorem vocabularyFor_covers (env : FlowEnv) (instances : List FlowInstance) :
    (vocabularyFor env instances).Covers env where
  transcendence source target listed :=
    Finset.mem_union_left _ (Finset.mem_union_right _ (mem_indexTargets listed))
  inverse source target listed := Finset.mem_union_right _ (mem_indexTargets listed)
  specs name facet found specs branch spec listed := by
    apply subset_suffixes
    refine Finset.mem_union_left _ (List.mem_toFinset.mpr (List.mem_flatMap.mpr
      ⟨facet, FlowEnv.mem_definitions found, ?_⟩))
    rw [branch, Option.getD_some]
    exact List.mem_map_of_mem listed
  auto name facet found payload listed :=
    Finset.mem_insert_of_mem (Finset.mem_union_right _ (List.mem_toFinset.mpr
      (List.mem_flatMap.mpr ⟨facet, FlowEnv.mem_definitions found, listed⟩)))

theorem vocabularyFor_known (env : FlowEnv) {instances : List FlowInstance}
    {branch : FlowInstance} (listed : branch ∈ instances) :
    (vocabularyFor env instances).KnownInstance branch :=
  ⟨Finset.mem_union_left _ (Finset.mem_union_left _
      (List.mem_toFinset.mpr (List.mem_map_of_mem listed))),
    .inl (Finset.mem_insert_of_mem (Finset.mem_union_left _
      (List.mem_toFinset.mpr (List.mem_map_of_mem listed))))⟩

/-- The stored instances. -/
def storedInstances (state : FlowState) : List FlowInstance :=
  state.facets.entries.flatMap fun entry => entry.2

omit [SerdeJson] [TomlText] in
theorem mem_storedInstances {state : FlowState} {name : Ustr} {branch : FlowInstance}
    (inside : branch ∈ state.facets.instances name) : branch ∈ storedInstances state := by
  cases found : state.facets.lookup name with
  | none => simp [Facets.instances, found] at inside
  | some branches =>
      rw [Facets.instances, found, Option.getD_some] at inside
      exact List.mem_flatMap.mpr ⟨⟨name, branches⟩, AList.mem_lookup_iff.mp found, inside⟩

theorem vocabularyFor_holding (env : FlowEnv) (instances : List FlowInstance)
    (state : FlowState) :
    (vocabularyFor env (instances ++ storedInstances state)).Holding ∅ state :=
  ⟨Finset.empty_subset _, fun _ _ inside =>
    vocabularyFor_known env (List.mem_append_right _ (mem_storedInstances inside))⟩

/-- The instance a call sets, if it sets one. -/
def callInstances : Call → List FlowInstance
  | .setFacet name payload => [freshInstance name payload]
  | .removeFacet _ _ => []

theorem vocabularyFor_goodCall (env : FlowEnv) (c : Call) (rest : List FlowInstance) :
    (vocabularyFor env (callInstances c ++ rest)).GoodCall c := by
  cases c with
  | setFacet name payload =>
      have listed : freshInstance name payload ∈
          callInstances (.setFacet name payload) ++ rest :=
        List.mem_append_left _ (List.mem_singleton.mpr rfl)
      have known := vocabularyFor_known env listed
      refine ⟨known.1, ?_⟩
      rintro given rfl
      exact known.2
  | removeFacet name filter => trivial

/-- Every call finishes at some depth. -/
theorem run_finishes (env : FlowEnv) (c : Call) (state : FlowState) :
    ∃ depth outcome, run env depth c state = some outcome := by
  obtain ⟨result, final, ran, -⟩ := run_halts (vocabularyFor_covers env _) (Nat.lt_succ_self _)
    (vocabularyFor_goodCall env c _) state (vocabularyFor_holding env _ state)
  exact ⟨_, _, ran⟩

theorem exec_isSome (env : FlowEnv) (c : Call) (state : FlowState) :
    (exec env c state).isSome := by
  obtain ⟨depth, outcome, ran⟩ := run_finishes env c state
  rw [exec, (fixpoint_eq_some (flowBody_monotone env)).mpr ⟨depth, ran⟩, Option.isSome_some]

/-- The routines satisfy their own recursion equation. -/
theorem exec_eq (env : FlowEnv) (c : Call) : exec env c = flowBody env (exec env) c :=
  fixpoint_unfold (flowBody_monotone env) (exec_isSome env) c

theorem run_below (env : FlowEnv) {depth deeper : Nat} (le : depth ≤ deeper) (c : Call) :
    Below (run env depth c) (run env deeper c) :=
  iterate_below (flowBody_monotone env) le c

end Build

end Rind
