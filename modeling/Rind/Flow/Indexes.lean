import Rind.Flow.Cascade

/-!
# The dependency indexes

The runtime rebuilds its indexes from the definitions: the index of a name lists
exactly the facets whose `after` or stop-on list names it.
-/

namespace Rind

section Rebuild

variable {dependsOn : FlowFacetMetadata → List Ustr} {source target other : Ustr}
  {index : AList fun _ : Ustr => List Ustr}

theorem mem_addTarget :
    other ∈ targetsOf (addTarget target index source) source' ↔
      other ∈ targetsOf index source' ∨ source' = source ∧ other = target := by
  by_cases same : source' = source
  · subst same
    simp [targetsOf, addTarget, or_comm]
  · simp [targetsOf, addTarget, AList.lookup_insert_ne same, same]

theorem mem_foldl_addTarget {sources : List Ustr} :
    other ∈ targetsOf (sources.foldl (addTarget target) index) source ↔
      other ∈ targetsOf index source ∨ source ∈ sources ∧ other = target := by
  induction sources generalizing index with
  | nil => simp
  | cons first rest ih =>
      rw [List.foldl_cons, ih, mem_addTarget, List.mem_cons, or_assoc, or_and_right]

/-- An index lists the items that depend on a name, under their full names. -/
theorem mem_rebuildIndex {metadata : MetadataRegistry FlowFacetMetadata} :
    target ∈ targetsOf (rebuildIndex dependsOn metadata) source ↔
      ∃ item ∈ metadata.allItems, source ∈ dependsOn item.2 ∧
        target = rslvns item.1 item.2.name := by
  have folded (items : List (Ustr × FlowFacetMetadata)) (index : AList fun _ : Ustr => List Ustr) :
      target ∈ targetsOf (items.foldl (fun index item =>
          (dependsOn item.2).foldl (addTarget (rslvns item.1 item.2.name)) index) index) source ↔
        target ∈ targetsOf index source ∨ ∃ item ∈ items, source ∈ dependsOn item.2 ∧
          target = rslvns item.1 item.2.name := by
    induction items generalizing index with
    | nil => simp
    | cons item rest ih =>
        rw [List.foldl_cons, ih, mem_foldl_addTarget, List.exists_mem_cons_iff, or_assoc]
  rw [rebuildIndex, folded]
  simp [targetsOf]

theorem nodup_addTarget (nodup : ∀ source, (targetsOf index source).Nodup) (source' : Ustr) :
    (targetsOf (addTarget target index source) source').Nodup := by
  by_cases same : source' = source
  · subst same
    rw [targetsOf, addTarget, AList.lookup_insert, Option.getD_some]
    exact (nodup source').insert
  · rw [targetsOf, addTarget, AList.lookup_insert_ne same]
    exact nodup source'

/-- An index lists no target twice. -/
theorem nodup_rebuildIndex {metadata : MetadataRegistry FlowFacetMetadata} (source : Ustr) :
    (targetsOf (rebuildIndex dependsOn metadata) source).Nodup := by
  have oneItem (target : Ustr) (sources : List Ustr) (index : AList fun _ : Ustr => List Ustr)
      (nodup : ∀ source, (targetsOf index source).Nodup) (source : Ustr) :
      (targetsOf (sources.foldl (addTarget target) index) source).Nodup := by
    induction sources generalizing index with
    | nil => exact nodup source
    | cons first rest ih => exact ih _ (nodup_addTarget nodup)
  have allItems (items : List (Ustr × FlowFacetMetadata)) (index : AList fun _ : Ustr => List Ustr)
      (nodup : ∀ source, (targetsOf index source).Nodup) :
      (targetsOf (items.foldl (fun index item =>
        (dependsOn item.2).foldl (addTarget (rslvns item.1 item.2.name)) index) index)
          source).Nodup := by
    induction items generalizing index with
    | nil => exact nodup source
    | cons item rest ih => exact ih _ (oneItem _ _ _ nodup)
  exact allItems _ _ fun _ => by simp [targetsOf]

end Rebuild

/-- A runtime whose indexes list what the rebuilt ones list, in any order. -/
structure FlowEnv.Indexed (env : FlowEnv) : Prop where
  transcendence : ∀ source, (targetsOf env.runtime.transcendenceIndex source).Perm
    (targetsOf (rebuildTranscendenceIndex env.metadata) source)
  inverse : ∀ source, (targetsOf env.runtime.inverseTranscendenceIndex source).Perm
    (targetsOf (rebuildInverseTranscendenceIndex env.metadata) source)

/-- A definition under its full name, which the registry also finds it by. -/
structure FlowEnv.Defines (env : FlowEnv) (name : Ustr) (facet : FlowFacetMetadata) : Prop where
  found : env.find name = some facet
  item : ∃ group, (group, facet) ∈ env.metadata.allItems ∧ name = rslvns group facet.name

namespace FlowEnv

variable {env : FlowEnv} {source target : Ustr} {facet : FlowFacetMetadata}

theorem Indexed.transcendence_mem_iff (indexed : env.Indexed) :
    target ∈ targetsOf env.runtime.transcendenceIndex source ↔
      ∃ item ∈ env.metadata.allItems, source ∈ afterSources item.2 ∧
        target = rslvns item.1 item.2.name := by
  rw [(indexed.transcendence source).mem_iff]
  exact mem_rebuildIndex

theorem Indexed.inverse_mem_iff (indexed : env.Indexed) :
    target ∈ targetsOf env.runtime.inverseTranscendenceIndex source ↔
      ∃ item ∈ env.metadata.allItems, source ∈ stopOnSources item.2 ∧
        target = rslvns item.1 item.2.name := by
  rw [(indexed.inverse source).mem_iff]
  exact mem_rebuildIndex

/-- A facet is listed for the sources of its stop-on list. -/
theorem Indexed.inverse_mem (indexed : env.Indexed) (defines : env.Defines target facet)
    (named : source ∈ stopOnSources facet) :
    target ∈ targetsOf env.runtime.inverseTranscendenceIndex source := by
  obtain ⟨group, item, full⟩ := defines.item
  exact indexed.inverse_mem_iff.mpr ⟨(group, facet), item, named, full⟩

/-- A facet is listed for the sources of its `after` conditions. -/
theorem Indexed.transcendence_mem (indexed : env.Indexed) (defines : env.Defines target facet)
    (named : source ∈ afterSources facet) :
    target ∈ targetsOf env.runtime.transcendenceIndex source := by
  obtain ⟨group, item, full⟩ := defines.item
  exact indexed.transcendence_mem_iff.mpr ⟨(group, facet), item, named, full⟩

theorem Indexed.nodup_transcendence (indexed : env.Indexed) :
    (targetsOf env.runtime.transcendenceIndex source).Nodup :=
  (indexed.transcendence source).nodup_iff.mpr (nodup_rebuildIndex source)

end FlowEnv

/-- The environment after the runtime has read the metadata. -/
def FlowEnv.load (metadata : MetadataRegistry FlowFacetMetadata) (heap : Option VariableHeap) :
    FlowEnv where
  metadata
  runtime := refreshMetadataAndIndexes metadata
  heap

theorem FlowEnv.load_indexed (metadata : MetadataRegistry FlowFacetMetadata)
    (heap : Option VariableHeap) : (FlowEnv.load metadata heap).Indexed :=
  ⟨fun _ => .refl _, fun _ => .refl _⟩

end Rind
