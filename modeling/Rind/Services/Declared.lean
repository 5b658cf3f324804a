import Rind.Data.Maps
import Rind.Services.Teardown
import Rind.Services.Tracking

/-!
# The scope of a definition

The indexes of the facets and of the sockets list a definition under its name
without a scope, and the loop that stops the sockets of a scope looks them up by such
names.  A name without a scope leads into the default scope, whatever scope the
definition is declared in.
-/

namespace Rind

open Prog

/-! ## Definitions in their scopes -/

/-- An item of a group on the page of a scope. -/
structure Declared (M : Type) where
  scope : Ustr
  group : Ustr
  item : M

namespace Declared

variable {M : Type} [NamedItem M] (declared : Declared M)

/-- The name that the indexes and the loop have for a definition. -/
def fullName : Ustr := rslvns declared.group (NamedItem.name declared.item)

/-- The facet of a definition. -/
def facet : Ustr :=
  composeScopedName declared.group (NamedItem.name declared.item) (some declared.scope)

/-- The key of the units of a definition. -/
def unitKey : Ustr := declared.fullName ++ "@" ++ declared.scope

theorem fullName_ne_unitKey : declared.fullName ≠ declared.unitKey := by
  intro same
  have lengths := congrArg (List.length ∘ String.toList) same
  simp [unitKey] at lengths

/-- The name without a scope is that of the facet in the default scope only. -/
theorem fullName_eq_facet :
    declared.fullName = declared.facet ↔ declared.scope = "" ∨ declared.scope = "static" := by
  have spelled : declared.facet =
      if declared.scope ≠ "" ∧ declared.scope ≠ "static" then declared.unitKey
      else declared.fullName := rfl
  rw [spelled]
  by_cases named : declared.scope ≠ "" ∧ declared.scope ≠ "static"
  · rw [if_pos named, ← not_iff_not, not_or]
    exact iff_of_true declared.fullName_ne_unitKey named
  · rw [if_neg named, or_iff_not_imp_left]
    simpa using named

end Declared

namespace MetadataRegistry

variable {M : Type} [NamedItem M] (registry : MetadataRegistry M)

def Declares (declared : Declared M) : Prop :=
  ∃ page, registry.metadata.lookup declared.scope = some page ∧
    ∃ items, page.values.lookup declared.group = some items ∧ declared.item ∈ items

/-- No definition of another scope has the unit of this one. -/
def Apart (unit : Declared M → Ustr) (declared : Declared M) : Prop :=
  ∀ other, registry.Declares other → other.scope ≠ declared.scope → unit other ≠ unit declared

/-- What is done for a definition is done to its own unit, and to none of a
definition in another scope. -/
structure StaysWith (unit : Declared M → Ustr) (declared : Declared M) (touched : Ustr) :
    Prop where
  own : touched = unit declared
  others : ∀ other, registry.Declares other → other.scope ≠ declared.scope → unit other ≠ touched

/-- The name without a scope leads to the scope of the definition. -/
def LeadsHome (declared : Declared M) : Prop :=
  '@' ∉ declared.fullName.toList ∧
    registry.resolveMetadataKey "*" declared.fullName = declared.scope

variable {registry}

omit [NamedItem M] in
theorem staysWith_iff {unit : Declared M → Ustr} {declared : Declared M} {touched : Ustr} :
    registry.StaysWith unit declared touched ↔
      touched = unit declared ∧ registry.Apart unit declared := by
  constructor
  · rintro ⟨own, others⟩
    subst own
    exact ⟨rfl, others⟩
  · rintro ⟨rfl, apart⟩
    exact ⟨rfl, apart⟩

theorem instanceKey_fullName {declared : Declared M} :
    registry.instanceKey "*" declared.fullName = declared.unitKey ↔ registry.LeadsHome declared := by
  rw [instanceKey, LeadsHome]
  by_cases full : '@' ∈ declared.fullName.toList
  · rw [if_pos full]
    exact iff_of_false declared.fullName_ne_unitKey fun home => home.1 full
  · rw [if_neg full, Declared.unitKey]
    constructor
    · intro same
      refine ⟨full, String.ext ?_⟩
      simpa [String.toList_append] using congrArg String.toList same
    · rintro ⟨-, home⟩
      rw [home]

end MetadataRegistry

/-! ## What the indexes and the loop touch -/

/-- An index lists a definition for one of the names it is interested in. -/
def Selects {M : Type} [NamedItem M] (index : AList fun _ : Ustr => List Ustr)
    (interests : M → List Ustr) (source : Ustr) (declared : Declared M) (target : Ustr) : Prop :=
  target ∈ targetsOf index source ∧ source ∈ interests declared.item ∧ target = declared.fullName

/-- The names a socket is indexed by. -/
def SocketMetadata.triggerInterests (socket : SocketMetadata) : List Ustr :=
  interests socket.startOn socket.stopOn

/-- What the index of the facets selects is set and removed under its own name, what the
index of the sockets selects is started and stopped under its own key, and a scope
that is stopped loses sockets of its own only. -/
structure ScopesKept (facets : MetadataRegistry FlowFacetMetadata)
    (sockets : MetadataRegistry SocketMetadata) : Prop where
  transcendence : ∀ source declared target, facets.Declares declared →
    Selects (rebuildTranscendenceIndex facets) afterSources source declared target →
    facets.StaysWith Declared.facet declared target
  stopOn : ∀ source declared target, facets.Declares declared →
    Selects (rebuildInverseTranscendenceIndex facets) stopOnSources source declared target →
    facets.StaysWith Declared.facet declared target
  triggers : ∀ source declared target, sockets.Declares declared →
    Selects (indexInterests (socketInterests sockets)) SocketMetadata.triggerInterests source
      declared target →
    sockets.StaysWith Declared.unitKey declared (sockets.instanceKey "*" target)
  teardown : ∀ scope ∈ sockets.metadata, ∀ (units final : Units) (result : Except CoreError Unit),
    stopSocketsForScope sockets scope units = some (result, final) →
    ∀ key, final.socketsAt key ≠ units.socketsAt key →
      ∃ declared, sockets.Declares declared ∧ declared.scope = scope ∧ key = declared.unitKey

/-- Every definition that depends on something is declared in the default scope, and
the sockets of a scope are those that their names without it lead to. -/
structure DeclaredByDefault (facets : MetadataRegistry FlowFacetMetadata)
    (sockets : MetadataRegistry SocketMetadata) : Prop where
  dependents : ∀ declared, facets.Declares declared →
    afterSources declared.item ++ stopOnSources declared.item ≠ [] →
    (declared.scope = "" ∨ declared.scope = "static") ∧ facets.Apart Declared.facet declared
  triggered : ∀ declared, sockets.Declares declared → declared.item.triggerInterests ≠ [] →
    sockets.LeadsHome declared ∧ sockets.Apart Declared.unitKey declared
  teardown : ∀ scope ∈ sockets.metadata, ∀ key,
    ReachedThrough List.Nodup (scopeKeys sockets "*" scope) key →
      ∃ declared, sockets.Declares declared ∧ declared.scope = scope ∧ key = declared.unitKey

section Indexes

variable {facets : MetadataRegistry FlowFacetMetadata} {sockets : MetadataRegistry SocketMetadata}

/-- A declared item is among all items. -/
theorem MetadataRegistry.Declares.mem_allItems {M : Type} [NamedItem M]
    {registry : MetadataRegistry M} {declared : Declared M} (declares : registry.Declares declared) :
    (declared.group, declared.item) ∈ registry.allItems := by
  obtain ⟨page, paged, items, listed, inside⟩ := declares
  exact mem_allItems_of_page paged listed inside

/-- The index of the facets keeps to a definition exactly if it is declared in the
default scope, where its name is its own. -/
theorem rebuildIndex_staysWith_iff {dependsOn : FlowFacetMetadata → List Ustr}
    {declared : Declared FlowFacetMetadata} (declares : facets.Declares declared) :
    (∀ source target, Selects (rebuildIndex dependsOn facets) dependsOn source declared target →
      facets.StaysWith Declared.facet declared target) ↔
    (dependsOn declared.item ≠ [] →
      (declared.scope = "" ∨ declared.scope = "static") ∧ facets.Apart Declared.facet declared) := by
  constructor
  · intro stays depends
    obtain ⟨source, named⟩ := List.exists_mem_of_ne_nil _ depends
    have listed : declared.fullName ∈ targetsOf (rebuildIndex dependsOn facets) source :=
      mem_rebuildIndex.mpr ⟨_, declares.mem_allItems, named, rfl⟩
    obtain ⟨own, apart⟩ :=
      MetadataRegistry.staysWith_iff.mp (stays source declared.fullName ⟨listed, named, rfl⟩)
    exact ⟨declared.fullName_eq_facet.mp own, apart⟩
  · rintro default source target ⟨-, named, rfl⟩
    obtain ⟨scope, apart⟩ := default (List.ne_nil_of_mem named)
    exact MetadataRegistry.staysWith_iff.mpr ⟨declared.fullName_eq_facet.mpr scope, apart⟩

/-- The index of the sockets keeps to a definition exactly if its name leads there. -/
theorem socketInterests_staysWith_iff {declared : Declared SocketMetadata}
    (declares : sockets.Declares declared) :
    (∀ source target, Selects (indexInterests (socketInterests sockets))
        SocketMetadata.triggerInterests source declared target →
      sockets.StaysWith Declared.unitKey declared (sockets.instanceKey "*" target)) ↔
    (declared.item.triggerInterests ≠ [] →
      sockets.LeadsHome declared ∧ sockets.Apart Declared.unitKey declared) := by
  constructor
  · intro stays interested
    obtain ⟨source, named⟩ := List.exists_mem_of_ne_nil _ interested
    have entry : (declared.fullName, declared.item.triggerInterests) ∈ socketInterests sockets :=
      List.mem_map_of_mem declares.mem_allItems
    have listed :
        declared.fullName ∈ targetsOf (indexInterests (socketInterests sockets)) source :=
      mem_targetsOf_indexInterests.mpr ⟨_, entry, named, rfl⟩
    obtain ⟨own, apart⟩ :=
      MetadataRegistry.staysWith_iff.mp (stays source declared.fullName ⟨listed, named, rfl⟩)
    exact ⟨MetadataRegistry.instanceKey_fullName.mp own, apart⟩
  · rintro home source target ⟨-, named, rfl⟩
    obtain ⟨leads, apart⟩ := home (List.ne_nil_of_mem named)
    exact MetadataRegistry.staysWith_iff.mpr
      ⟨MetadataRegistry.instanceKey_fullName.mpr leads, apart⟩

end Indexes

/-! ## The loop over the sockets of a scope -/

section Loop

variable {sockets : MetadataRegistry SocketMetadata} {scope key : Ustr}

/-- The loop over a scope comes to an end. -/
theorem stopSocketsForScope_isSome (sockets : MetadataRegistry SocketMetadata) (scope : Ustr)
    (units : Units) :
    (stopSocketsForScope sockets scope units).isSome := by
  rw [stopSocketsForScope]
  generalize (sockets.items scope).getD [] = items
  induction items generalizing units with
  | nil => rfl
  | cons item rest ih =>
      rw [each_cons, run_bind, stopSocket]
      rcases uninstantiateSocket (sockets.instanceKey "*" (rslvns item.1 item.2.name))
        units.instances with ⟨error | socket, instances⟩
      · rfl
      · exact ih _

/-- A socket under each of some keys. -/
def Units.withSockets (keys : List Ustr) (units : Units) : Units :=
  { units with
    instances := Maps.insertAll id (fun _ => [.socket ⟨busSocket, 7, true⟩]) keys units.instances }

theorem Units.socketsAt_withSockets {keys : List Ustr} (units : Units) (listed : key ∈ keys) :
    (units.withSockets keys).socketsAt key = [⟨busSocket, 7, true⟩] := by
  have written : (units.withSockets keys).instances.lookup key =
      some [.socket ⟨busSocket, 7, true⟩] :=
    Maps.lookup_insertAll ⟨key, listed, rfl⟩ fun _ _ _ => rfl
  rw [Units.socketsAt, Units.entry, written]
  rfl

/-- A key is touched in some state exactly if no key comes twice before it. -/
theorem stopSocketsForScope_touches_iff :
    (∃ (units final : Units) (result : Except CoreError Unit),
      stopSocketsForScope sockets scope units = some (result, final) ∧
        final.socketsAt key ≠ units.socketsAt key) ↔
      ReachedThrough List.Nodup (scopeKeys sockets "*" scope) key := by
  constructor
  · rintro ⟨units, final, result, ran, changed⟩
    obtain ⟨done, reached, released⟩ := stopSocketsForScope_released ran
    have inside : key ∈ done := by
      by_contra outside
      exact changed (released.others key outside)
    obtain ⟨earlier, later, keys, nodup, -⟩ := (reached key).mp inside
    exact ⟨earlier, later, keys, nodup⟩
  · rintro ⟨earlier, later, keys, nodup⟩
    let units := (busUnits "static").withSockets (scopeKeys sockets "*" scope)
    obtain ⟨⟨result, final⟩, ran⟩ :=
      Option.isSome_iff_exists.mp (stopSocketsForScope_isSome sockets scope units)
    obtain ⟨done, reached, released⟩ := stopSocketsForScope_released ran
    have kept {other : Ustr} (listed : other ∈ scopeKeys sockets "*" scope) :
        units.socketsAt other = [⟨busSocket, 7, true⟩] :=
      Units.socketsAt_withSockets (busUnits "static") listed
    have inside : key ∈ done := by
      refine (reached key).mpr ⟨earlier, later, keys, nodup, fun other before => ?_⟩
      have listed : other ∈ scopeKeys sockets "*" scope := by
        rw [keys, List.append_cons]
        exact List.mem_append_left _ before
      rw [Units.lastSocket, kept listed]
      rfl
    refine ⟨units, final, result, ran, ?_⟩
    rw [released.gone key inside, kept (by simp [keys])]
    exact List.cons_ne_nil _ _ ∘ Eq.symm

end Loop

/-- The indexes and the loop keep to the scopes of the definitions exactly if the
definitions are those that names without a scope lead to. -/
theorem scopesKept_iff (facets : MetadataRegistry FlowFacetMetadata)
    (sockets : MetadataRegistry SocketMetadata) :
    ScopesKept facets sockets ↔ DeclaredByDefault facets sockets := by
  constructor
  · intro keeps
    constructor
    · intro declared declares depends
      rw [ne_eq, List.append_eq_nil_iff, not_and_or] at depends
      rcases depends with depends | depends
      · exact (rebuildIndex_staysWith_iff declares).mp
          (fun source target => keeps.transcendence source declared target declares) depends
      · exact (rebuildIndex_staysWith_iff declares).mp
          (fun source target => keeps.stopOn source declared target declares) depends
    · intro declared declares
      exact (socketInterests_staysWith_iff declares).mp
        fun source target => keeps.triggers source declared target declares
    · intro scope page key reached
      obtain ⟨units, final, result, ran, changed⟩ := stopSocketsForScope_touches_iff.mpr reached
      exact keeps.teardown scope page units final result ran key changed
  · intro default
    constructor
    · intro source declared target declares
      refine (rebuildIndex_staysWith_iff declares).mpr (fun depends => ?_) source target
      exact default.dependents declared declares (by simp [depends])
    · intro source declared target declares
      refine (rebuildIndex_staysWith_iff declares).mpr (fun depends => ?_) source target
      exact default.dependents declared declares (by simp [depends])
    · intro source declared target declares
      exact (socketInterests_staysWith_iff declares).mpr (default.triggered declared declares)
        source target
    · intro scope page units final result ran key changed
      exact default.teardown scope page key
        (stopSocketsForScope_touches_iff.mp ⟨units, final, result, ran, changed⟩)

/-! ## A facet of a user -/

/-- A facet of a user's scope that follows another one. -/
def readerFacet : FlowFacetMetadata :=
  { userFacet with name := "reader", after := some [.simple "app:db"] }

/-- The user's scope is loaded next to an empty default scope. -/
def readerRegistry : MetadataRegistry FlowFacetMetadata where
  metadata := AList.insert "static" ⟨"static", ∅⟩
    (AList.insert "alice" ⟨"alice", AList.insert "app" [readerFacet] ∅⟩ ∅)
  index := none

/-- The facet of a user is set in the default scope. -/
theorem not_scopesKept_reader :
    ¬ ∀ (facets : MetadataRegistry FlowFacetMetadata) (sockets : MetadataRegistry SocketMetadata),
      ScopesKept facets sockets := by
  intro keeps
  let declared : Declared FlowFacetMetadata := ⟨"alice", "app", readerFacet⟩
  have declares : readerRegistry.Declares declared := ⟨_, rfl, _, rfl, List.mem_singleton.mpr rfl⟩
  have listed : "app:reader" ∈ targetsOf (rebuildTranscendenceIndex readerRegistry) "app:db" := by
    decide +kernel
  have stays := (keeps readerRegistry busRegistry).transcendence "app:db" declared "app:reader"
    declares ⟨listed, by decide +kernel, by decide +kernel⟩
  exact absurd stays.own (by decide +kernel)

end Rind
