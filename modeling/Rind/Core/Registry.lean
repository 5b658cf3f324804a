import Rind.Core.Names
import Mathlib.Data.List.AList

/-!
# The metadata registry

A registry holds one metadata page for each scope, and a page holds the items of
each group.  Pages are heterogeneous in the program; every operation here is
about one item type, so a page is modelled by its items of that type.  The maps
are association lists whose order stands for the unspecified iteration order.
-/

namespace Rind

/-- Items carry the name they are looked up by. -/
class NamedItem (M : Type) where
  name : M → Ustr

/-- The items of one type on a metadata page, by group. -/
structure Metadata (M : Type) where
  name : Ustr
  values : AList fun _ : Ustr => List M

/-- All metadata pages by scope, and the name index of the item type once
`ensure_index_for_type` has built one. -/
structure MetadataRegistry (M : Type) where
  metadata : AList fun _ : Ustr => Metadata M
  index : Option (AList fun _ : Ustr => Nat)

namespace MetadataRegistry

variable {M : Type} [NamedItem M] (registry : MetadataRegistry M)

/-- Index the items of a page by their full names, `none` where there is no such
page. -/
def ensureIndexForType (metadata : Ustr) : Option (MetadataRegistry M) := do
  let page ← registry.metadata.lookup metadata
  let index := page.values.entries.foldl
    (fun index group =>
      group.2.zipIdx.foldl
        (fun index item => index.insert (rslvns group.1 (NamedItem.name item.1)) item.2) index)
    (registry.index.getD ∅)
  some { registry with index := some index }

/-- The indexed registry of a single unit file. -/
def ofGroup (page group : Ustr) (items : List M) : MetadataRegistry M :=
  let values : AList fun _ : Ustr => List M := AList.insert group items ∅
  let loaded : MetadataRegistry M :=
    { metadata := AList.insert page { name := page, values } ∅, index := none }
  (loaded.ensureIndexForType page).getD loaded

/-- Which page a name with a metadata key refers to. The key `*` selects the
name's own scope, else `units`, else `static`, else any page. -/
def resolveMetadataKey (metadata fullName : Ustr) : Ustr :=
  let scope := (parseScopedName fullName).scope
  if metadata = "*" then
    if scope ∈ registry.metadata then scope
    else if "units" ∈ registry.metadata then "units"
    else if "static" ∈ registry.metadata then "static"
    else registry.metadata.keys.head?.getD metadata
  else if metadata ∈ registry.metadata then metadata
  else if scope ∈ registry.metadata then scope
  else metadata

/-- The items of a group on one page, or over all pages for `*`. -/
def groupItems (metadata group : Ustr) : Option (List M) :=
  if metadata = "*" then
    some (registry.metadata.entries.flatMap fun page => (page.2.values.lookup group).getD [])
  else do
    let page ← registry.metadata.lookup metadata
    page.values.lookup group

/-- All items with their group, over all pages. -/
def allItems : List (Ustr × M) :=
  registry.metadata.entries.flatMap fun page =>
    page.2.values.entries.flatMap fun group => group.2.map fun item => (group.1, item)

/-- The items of one page with their group, or those of all pages for `*`. -/
def items (metadata : Ustr) : Option (List (Ustr × M)) :=
  if metadata = "*" then some registry.allItems
  else
    (registry.metadata.lookup metadata).map fun page =>
      page.values.entries.flatMap fun group => group.2.map fun item => (group.1, item)

/-- The first item of the name in its group. -/
def lookup (metadata fullName : Ustr) : Option M := do
  let metadata := registry.resolveMetadataKey metadata fullName
  let items ← registry.groupItems metadata (parseScopedName fullName).parent
  items.find? fun item => NamedItem.name item = (parseScopedName fullName).child

/-- The item of a name, through the index where the name is listed there. -/
def find (metadata fullName : Ustr) : Option M := do
  let metadata := registry.resolveMetadataKey metadata fullName
  let index ← registry.index
  match index.lookup fullName with
  | some position =>
      let items ← registry.groupItems metadata (parseScopedName fullName).parent
      items[position]?
  | none => registry.lookup metadata fullName

/-- The item of a bare name in the first group of a page that has one. -/
def lookupInAnyGroup (metadata itemName : Ustr) : Option M := do
  let page ← registry.metadata.lookup metadata
  page.values.keys.findSome? fun group => registry.lookup metadata (rslvns group itemName)

/-- The key an instance is kept under: the name with its scope, or with the page
it resolves to. -/
def instanceKey (metadata name : Ustr) : Ustr :=
  if '@' ∈ name.toList then name
  else name ++ "@" ++ registry.resolveMetadataKey metadata name

/-- The definition an instance is made of. -/
def instantiated (metadata name : Ustr) : Option M :=
  let resolved := registry.resolveMetadataKey metadata name
  if ':' ∈ name.toList then registry.find resolved name
  else registry.lookupInAnyGroup resolved name

/-- The instance of a name with its key, which is made where there is none. -/
def instantiateOne {T : Type} (make : M → T) (metadata name : Ustr)
    (instances : AList fun _ : Ustr => T) : Option (Ustr × T) :=
  let key := registry.instanceKey metadata name
  match instances.lookup key with
  | some instance_ => some (key, instance_)
  | none => (registry.instantiated metadata name).map fun item => (key, make item)

variable {registry}

omit [NamedItem M] in
theorem mem_allItems_of_page {page : Metadata M} {key group : Ustr} {items : List M} {item : M}
    (page_mem : registry.metadata.lookup key = some page)
    (group_mem : page.values.lookup group = some items) (item_mem : item ∈ items) :
    (group, item) ∈ registry.allItems := by
  rw [allItems, List.mem_flatMap]
  refine ⟨⟨key, page⟩, AList.mem_lookup_iff.mp page_mem, ?_⟩
  rw [List.mem_flatMap]
  exact ⟨⟨group, items⟩, AList.mem_lookup_iff.mp group_mem, List.mem_map_of_mem item_mem⟩

omit [NamedItem M] in
theorem mem_allItems_of_groupItems {metadata group : Ustr} {items : List M} {item : M}
    (found : registry.groupItems metadata group = some items) (inside : item ∈ items) :
    (group, item) ∈ registry.allItems := by
  rw [groupItems] at found
  split at found
  · cases found
    obtain ⟨page, page_mem, inside⟩ := List.mem_flatMap.mp inside
    cases group_mem : page.2.values.lookup group with
    | none => simp [group_mem] at inside
    | some items =>
        rw [group_mem, Option.getD_some] at inside
        exact mem_allItems_of_page (AList.mem_lookup_iff.mpr page_mem) group_mem inside
  · rw [Option.bind_eq_bind, Option.bind_eq_some_iff] at found
    obtain ⟨page, page_mem, group_mem⟩ := found
    exact mem_allItems_of_page page_mem group_mem inside

/-- A found item is one of the registry's items. -/
theorem mem_allItems_of_find {metadata fullName : Ustr} {item : M}
    (found : registry.find metadata fullName = some item) :
    ∃ group, (group, item) ∈ registry.allItems := by
  simp only [find, Option.bind_eq_bind, Option.bind_eq_some_iff] at found
  obtain ⟨index, -, found⟩ := found
  split at found
  · rw [Option.bind_eq_some_iff] at found
    obtain ⟨items, listed, found⟩ := found
    exact ⟨_, mem_allItems_of_groupItems listed (List.mem_of_getElem? found)⟩
  · simp only [lookup, Option.bind_eq_bind, Option.bind_eq_some_iff] at found
    obtain ⟨items, listed, found⟩ := found
    exact ⟨_, mem_allItems_of_groupItems listed (List.mem_of_find?_eq_some found)⟩

omit [NamedItem M] in
/-- The key of an instance has a scope. -/
theorem instanceKey_scoped (metadata name : Ustr) :
    '@' ∈ (registry.instanceKey metadata name).toList := by
  rw [instanceKey]
  split
  · next full => exact full
  · simp

omit [NamedItem M] in
theorem instanceKey_of_scoped {metadata name : Ustr} (full : '@' ∈ name.toList) :
    registry.instanceKey metadata name = name := by
  rw [instanceKey, if_pos full]

omit [NamedItem M] in
/-- Names without a scope have different keys. -/
theorem instanceKey_injective {name other : Ustr} (bare : '@' ∉ name.toList)
    (bare' : '@' ∉ other.toList)
    (same : registry.instanceKey "*" name = registry.instanceKey "*" other) : name = other := by
  have resolved : registry.resolveMetadataKey "*" name = registry.resolveMetadataKey "*" other := by
    rw [resolveMetadataKey, resolveMetadataKey, scope_parseScopedName bare,
      scope_parseScopedName bare']
  rw [instanceKey, instanceKey, if_neg bare, if_neg bare', resolved] at same
  exact String.ext (by simpa [String.toList_append] using congrArg String.toList same)

/-- An instance that is there is found under its key. -/
theorem instantiateOne_of_known {T : Type} (make : M → T) {metadata name key : Ustr}
    {instances : AList fun _ : Ustr => T} {known : T}
    (own : registry.instanceKey metadata name = key) (found : instances.lookup key = some known) :
    registry.instantiateOne make metadata name instances = some (key, known) := by
  subst own
  simp only [instantiateOne, found]

/-- An instance is one that is kept, or a new one. -/
theorem instantiateOne_cases {T : Type} {make : M → T} {metadata name key : Ustr} {instance_ : T}
    {instances : AList fun _ : Ustr => T}
    (found : registry.instantiateOne make metadata name instances = some (key, instance_)) :
    key = registry.instanceKey metadata name ∧
      (instances.lookup key = some instance_ ∨
        instances.lookup key = none ∧ ∃ item, instance_ = make item) := by
  simp only [instantiateOne] at found
  split at found
  · next kept =>
      cases found
      exact ⟨rfl, .inl kept⟩
  · next absent =>
      obtain ⟨item, -, same⟩ := Option.map_eq_some_iff.mp found
      cases same
      exact ⟨rfl, .inr ⟨absent, item, rfl⟩⟩

end MetadataRegistry

/-- A definition that is only a name. -/
structure SampleItem where
  name : Ustr
  deriving DecidableEq

instance : NamedItem SampleItem := ⟨SampleItem.name⟩

end Rind
